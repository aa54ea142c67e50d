import Starweaver.Platform.AccessSteps
import Starweaver.Platform.Secrets

namespace Starweaver.Platform

open Library.AssocMap Library.Checks Library.OrderedMap Library.Text

inductive CreateCall
  | oidcIdentityProvider (request : CreateOidcIdentityProviderRequest) (newId : String)
  | platformSecretRef (request : CreateSecretRefHttpRequest) (newId : String)
  | organizationInvitation (organizationId : String) (request : CreateOrganizationInvitationRequest) (nowUnix : Int)
    (newId rawToken : String)
  | roleBinding (request : CreateRoleBindingRequest) (newId : String)
  | organizationMember (organizationId : String) (request : CreateOrganizationMemberRequest) (newId : String)
  | projectMember (projectId : String) (request : CreateProjectMemberRequest) (newId : String)
deriving DecidableEq, Repr

def RecordStores.create (env : PlatformEnv) (secretEnv : SecretEnv) (stores : RecordStores)
    (actor : AuthenticatedActor) : CreateCall → RecordStores
  | .oidcIdentityProvider request newId => (createOidcIdentityProvider env stores actor request newId).1
  | .platformSecretRef request newId => (createPlatformSecretRef env secretEnv stores actor request newId).1
  | .organizationInvitation organizationId request nowUnix newId rawToken =>
    { stores with
      access := stores.access.call env actor
        (.createOrganizationInvitation organizationId request nowUnix newId rawToken) }
  | .roleBinding request newId =>
    { stores with access := stores.access.call env actor (.createRoleBinding request newId) }
  | .organizationMember organizationId request newId =>
    { stores with access := stores.access.call env actor (.createOrganizationMember organizationId request newId) }
  | .projectMember projectId request newId =>
    { stores with access := stores.access.call env actor (.createProjectMember projectId request newId) }

/-- The stores of a running service, where each access record stands under its own id. -/
structure PlatformRecords extends RecordStores where
  keyed : StoreKeyed access

theorem create_keyed {stores : RecordStores} (hkeyed : StoreKeyed stores.access) (env : PlatformEnv)
    (secretEnv : SecretEnv) (actor : AuthenticatedActor) (call : CreateCall) :
    StoreKeyed (stores.create env secretEnv actor call).access := by
  cases call with
  | oidcIdentityProvider request newId =>
    rw [RecordStores.create, createOidcIdentityProvider]
    split
    · exact hkeyed
    · exact hkeyed
  | platformSecretRef request newId =>
    rw [RecordStores.create, createPlatformSecretRef]
    split
    · exact hkeyed
    · exact hkeyed
  | organizationInvitation organizationId request nowUnix newId rawToken =>
    simp only [RecordStores.create]
    exact hkeyed.call _
  | roleBinding request newId =>
    simp only [RecordStores.create]
    exact hkeyed.call _
  | organizationMember organizationId request newId =>
    simp only [RecordStores.create]
    exact hkeyed.call _
  | projectMember projectId request newId =>
    simp only [RecordStores.create]
    exact hkeyed.call _

def PlatformRecords.create (env : PlatformEnv) (secretEnv : SecretEnv) (records : PlatformRecords)
    (actor : AuthenticatedActor) (call : CreateCall) : PlatformRecords where
  toRecordStores := records.toRecordStores.create env secretEnv actor call
  keyed := create_keyed records.keyed env secretEnv actor call

/-- The organization on which a handler authorises the actor; some handlers authorise on the tenant alone. -/
def CreateCall.authorizedOrganization (stores : RecordStores) : CreateCall → Option String
  | .oidcIdentityProvider _ _ | .platformSecretRef _ _ => none
  | .organizationInvitation organizationId _ _ _ _ => some organizationId
  | .roleBinding request _ => normalizedOptionalString request.organization
  | .organizationMember organizationId _ _ => some organizationId
  | .projectMember _ request _ =>
    (stores.access.memberships.organizationMembers.lookup request.organizationMemberId).map (·.organizationId)

/-- A record of another tenant, or of another organization than the authorised one. -/
def Outside (actor : AuthenticatedActor) (authorized : Option String) (tenantId : String)
    (organizationId : Option String) : Prop :=
  tenantId ≠ actor.tenantId ∨ ∃ inside other, authorized = some inside ∧ organizationId = some other ∧ other ≠ inside

/-- The records outside stay as they are and keep their owners. -/
structure KeepsOutside (outside : String → Option String → Prop) (before after : RecordStores) : Prop where
  providers : Keeps (fun provider => outside provider.tenantId none) before.providers after.providers
  providerOwners : ∀ id provider, before.providers.lookup id = some provider → outside provider.tenantId none →
    after.owners.lookup ("IdentityProvider", id) = before.owners.lookup ("IdentityProvider", id)
  secrets : Keeps (fun entry => outside entry.record.tenantId entry.record.organizationId) before.secrets after.secrets
  secretOwners : ∀ id entry, before.secrets.lookup id = some entry →
    outside entry.record.tenantId entry.record.organizationId →
      after.owners.lookup ("SecretRef", id) = before.owners.lookup ("SecretRef", id)
  invitations : Keeps (fun invitation => outside invitation.tenantId (some invitation.organizationId))
    before.access.invitations after.access.invitations
  roleBindings : Keeps (fun binding => outside binding.tenantId binding.organizationId)
    before.access.roleBindings after.access.roleBindings
  organizationMembers : Keeps (fun member => outside member.tenantId (some member.organizationId))
    before.access.memberships.organizationMembers after.access.memberships.organizationMembers
  projectMembers : Keeps (fun member => outside member.tenantId (some member.organizationId))
    before.access.memberships.projectMembers after.access.memberships.projectMembers

section Condition

variable (env : PlatformEnv) (secretEnv : SecretEnv) (stores : RecordStores) (actor : AuthenticatedActor)

/-- The checks of the create handler, up to its write. -/
def organizationInvitationCandidate (organizationId : String) (request : CreateOrganizationInvitationRequest)
    (nowUnix : Int) (newId rawToken : String) : Result PlatformOrganizationInvitationRecord := do
  let resource ← organizationScopeResource actor organizationId "OrganizationInvitation"
  authorizeServiceAction stores.access env.grants actor .organizationInvitationCreate resource
  organizationInvitationRecordFromCreateRequest env actor request organizationId nowUnix newId rawToken

def CreateSecretRefHttpRequest.id (request : CreateSecretRefHttpRequest) (newId : String) : String :=
  trim ((normalizedOptionalString request.secretRefId).getD newId)

/-- The stored secret already has what the request asks for. -/
structure SecretStands (request : CreateSecretRefHttpRequest) (newId : String) (stored : InMemorySecretEntry) : Prop where
  secretRefId : stored.record.secretRefId = request.id newId
  tenantId : stored.record.tenantId = trim actor.tenantId
  organizationId : stored.record.organizationId = actor.organizationId.map trim
  projectId : stored.record.projectId = actor.projectId.map trim
  purpose : stored.record.purpose = trim request.purpose
  backendKind : stored.record.backendKind =
    (normalizedOptionalString request.backendKind).getD environmentSecretBackend
  backendLocator : some stored.record.backendLocator =
    normalizedOptionalString (request.backendLocator.or request.environmentVariable)
  status : stored.record.status = .active
  inMemory : stored.record.backendKind = inMemorySecretBackend → request.secretValue = some stored.value ∧
    stored.record.displayMask = secretDisplayMask stored.value ∧
    stored.record.fingerprint = secretFingerprint secretEnv stored.value
  environment : stored.record.backendKind = environmentSecretBackend → stored.value = "" ∧
    ∃ value, secretEnv.variable_ stored.record.backendLocator = some value ∧
      stored.record.displayMask = secretDisplayMask value ∧
      stored.record.fingerprint = secretFingerprint secretEnv value

/-- The stored binding is the one that the request asks for. -/
def CreateRoleBindingRequest.AsksFor (request : CreateRoleBindingRequest) (record : PlatformRoleBindingRecord) : Prop :=
  record.tenantId = actor.tenantId ∧ record.organizationId = normalizedOptionalString request.organization ∧
    record.projectId = normalizedOptionalString request.project ∧ record.principalId = trim request.principal ∧
    record.roleId = trim request.role

/-- The stored project membership is active already, and recorded under the organization member. -/
structure StandsUnder (member : PlatformOrganizationMembershipRecord) (stored : PlatformProjectMembershipRecord) :
    Prop where
  status : stored.status = .active
  membershipKind : stored.membershipKind = member.membershipKind
  organizationMemberId : stored.organizationMemberId = some member.organizationMemberId

/-- The request fails its checks, or the record that stands where it writes is not one outside. A secret of an actor
whose tenant has blanks around it may be outside: it is the one that stands there already. -/
def CreateCall.SparesOutside (call : CreateCall) : Prop :=
  let outside := Outside actor (call.authorizedOrganization stores)
  match call with
  | .oidcIdentityProvider request newId =>
    (∃ provider, oidcProviderCandidate env stores actor request newId = .ok provider) →
      ∀ old, stores.providers.lookup ((normalizedOptionalString request.identityProviderId).getD newId) = some old →
        ¬ outside old.tenantId none
  | .platformSecretRef request newId =>
    (∃ entry, secretRefCandidate env secretEnv stores actor request newId = .ok entry) →
      ∀ old, stores.secrets.lookup (request.id newId) = some old →
        outside old.record.tenantId old.record.organizationId →
          SecretStands secretEnv actor request newId old ∧
            stores.owners.lookup ("SecretRef", request.id newId) =
              some (.tenant "SecretRef" (request.id newId) (trim actor.tenantId))
  | .organizationInvitation organizationId request nowUnix newId rawToken =>
    (∃ invitation, organizationInvitationCandidate env stores actor organizationId request nowUnix newId rawToken =
        .ok invitation) →
      ∀ old, stores.access.invitations.lookup ((normalizedOptionalString request.invitationId).getD newId) = some old →
        ¬ outside old.tenantId (some old.organizationId)
  | .roleBinding request newId =>
    (∃ candidate, roleBindingCandidate env stores.access actor request newId = .ok candidate) →
      (∀ id record, stores.access.roleBindings.lookup id = some record → ¬ request.AsksFor actor record) →
        ∀ old, stores.access.roleBindings.lookup ((normalizedOptionalString request.binding).getD newId) = some old →
          ¬ outside old.tenantId old.organizationId
  | .organizationMember organizationId request newId =>
    (∃ upsert, organizationMemberUpsert env stores.access actor organizationId request newId = .ok upsert ∧
        validateOrganizationMember upsert.newRecord = .ok ()) →
      (∀ id record, stores.access.memberships.organizationMembers.lookup id = some record →
        ¬ (record.tenantId = actor.tenantId ∧ record.organizationId = organizationId ∧
          record.principalId = trim request.principalId)) →
        ∀ old, stores.access.memberships.organizationMembers.lookup
            ((normalizedOptionalString request.organizationMemberId).getD newId) = some old →
          ¬ outside old.tenantId (some old.organizationId)
  | .projectMember projectId request newId =>
    ∀ member, stores.access.memberships.organizationMembers.lookup request.organizationMemberId = some member →
      ∀ upsert, projectMemberUpsert env stores.access actor projectId request newId = .ok upsert →
        match findOrdered (fun record => record.projectId == projectId && record.principalId == member.principalId)
          stores.access.memberships.projectMembers with
        | some (_, found) => outside found.tenantId (some found.organizationId) → StandsUnder member found
        | none => validateProjectMember upsert.newRecord = .ok () →
          ∀ old, stores.access.memberships.projectMembers.lookup
              ((normalizedOptionalString request.projectMemberId).getD newId) = some old →
            ¬ outside old.tenantId (some old.organizationId)

end Condition

section Frames

variable {outside : String → Option String → Prop} {stores : RecordStores}

theorem KeepsOutside.refl (outside : String → Option String → Prop) (stores : RecordStores) :
    KeepsOutside outside stores stores :=
  ⟨.refl _ _, fun _ _ _ _ => rfl, .refl _ _, fun _ _ _ _ => rfl, .refl _ _, .refl _ _, .refl _ _, .refl _ _⟩

theorem ownerWrite_other (owners : OwnerIndex) (record : ResourceOwnerRecord) {key : String × String}
    (hkey : key ≠ (record.resourceKind, record.resourceId)) :
    (ownerWrite owners record).1.lookup key = owners.lookup key := by
  unfold ownerWrite
  split
  · rfl
  · rename_i written hwritten
    obtain ⟨-, hwritten⟩ := bind_unit_ok.mp hwritten
    cases hwritten
    exact AList.lookup_insert_ne hkey

/-- The owner of a provider is written where no provider outside stands. -/
theorem keepsOutside_provider {provider : OidcLoginProviderRecord} {owners : OwnerIndex}
    (hinside : ¬ outside provider.tenantId none)
    (howners : ∀ key, key ≠ ("IdentityProvider", provider.identityProviderId) →
      owners.lookup key = stores.owners.lookup key) :
    KeepsOutside outside stores { stores with
        providers := stores.providers.insert provider.identityProviderId provider
        owners } ↔
      ∀ old, stores.providers.lookup provider.identityProviderId = some old → ¬ outside old.tenantId none := by
  have hiff : Keeps (fun provider => outside provider.tenantId none) stores.providers
      (stores.providers.insert provider.identityProviderId provider) ↔ _ := keeps_insert_iff_of_not hinside
  constructor
  · exact fun hkeeps => hiff.mp hkeeps.providers
  · intro hnone
    refine { KeepsOutside.refl outside stores with providers := hiff.mpr hnone, providerOwners := ?_, secretOwners := ?_ }
    · intro id old hold houtside
      apply howners
      intro heq
      cases heq
      exact hnone old hold houtside
    · intro id old hold houtside
      exact howners _ (by simp)

/-- A secret may be outside for an actor whose tenant has blanks around it, and is then written anew as it is. -/
theorem keepsOutside_secret {entry : InMemorySecretEntry} {owner : ResourceOwnerRecord} :
    KeepsOutside outside stores { stores with
        secrets := stores.secrets.insert entry.record.secretRefId entry
        owners := stores.owners.insert ("SecretRef", entry.record.secretRefId) owner } ↔
      ∀ old, stores.secrets.lookup entry.record.secretRefId = some old →
        outside old.record.tenantId old.record.organizationId →
          entry = old ∧ stores.owners.lookup ("SecretRef", entry.record.secretRefId) = some owner := by
  constructor
  · intro hkeeps old hold houtside
    refine ⟨keeps_insert_iff.mp hkeeps.secrets old hold houtside, ?_⟩
    have howner := hkeeps.secretOwners _ old hold houtside
    rw [AList.lookup_insert] at howner
    exact howner.symm
  · intro hsame
    refine { KeepsOutside.refl outside stores with providerOwners := ?_, secrets := ?_, secretOwners := ?_ }
    · intro id old hold houtside
      exact AList.lookup_insert_ne (by simp)
    · exact keeps_insert_iff.mpr fun old hold houtside => (hsame old hold houtside).1
    · intro id old hold houtside
      by_cases heq : id = entry.record.secretRefId
      · subst heq
        rw [AList.lookup_insert, (hsame old hold houtside).2]
      · exact AList.lookup_insert_ne (by simp [heq])

theorem keepsOutside_invitations {invitations : Index PlatformOrganizationInvitationRecord} :
    KeepsOutside outside stores { stores with access := { stores.access with invitations } } ↔
      Keeps (fun invitation => outside invitation.tenantId (some invitation.organizationId))
        stores.access.invitations invitations :=
  ⟨fun hkeeps => hkeeps.invitations, fun hkeeps => { KeepsOutside.refl outside stores with invitations := hkeeps }⟩

theorem keepsOutside_roleBindings {roleBindings : Index PlatformRoleBindingRecord} :
    KeepsOutside outside stores { stores with access := { stores.access with roleBindings } } ↔
      Keeps (fun binding => outside binding.tenantId binding.organizationId) stores.access.roleBindings roleBindings :=
  ⟨fun hkeeps => hkeeps.roleBindings, fun hkeeps => { KeepsOutside.refl outside stores with roleBindings := hkeeps }⟩

theorem keepsOutside_organizationMembers {organizationMembers : Index PlatformOrganizationMembershipRecord} :
    KeepsOutside outside stores { stores with
        access := { stores.access with memberships := { stores.access.memberships with organizationMembers } } } ↔
      Keeps (fun member => outside member.tenantId (some member.organizationId))
        stores.access.memberships.organizationMembers organizationMembers :=
  ⟨fun hkeeps => hkeeps.organizationMembers,
    fun hkeeps => { KeepsOutside.refl outside stores with organizationMembers := hkeeps }⟩

theorem keepsOutside_projectMembers {projectMembers : Index PlatformProjectMembershipRecord} :
    KeepsOutside outside stores { stores with
        access := { stores.access with memberships := { stores.access.memberships with projectMembers } } } ↔
      Keeps (fun member => outside member.tenantId (some member.organizationId))
        stores.access.memberships.projectMembers projectMembers :=
  ⟨fun hkeeps => hkeeps.projectMembers,
    fun hkeeps => { KeepsOutside.refl outside stores with projectMembers := hkeeps }⟩

end Frames

section Handlers

variable {env : PlatformEnv} {secretEnv : SecretEnv} {stores : RecordStores} {actor : AuthenticatedActor}

theorem oidcProviderCandidate_ok {request : CreateOidcIdentityProviderRequest} {newId : String}
    {provider : OidcLoginProviderRecord}
    (h : oidcProviderCandidate env stores actor request newId = .ok provider) :
    provider.tenantId = actor.tenantId ∧
      provider.identityProviderId = (normalizedOptionalString request.identityProviderId).getD newId := by
  unfold oidcProviderCandidate at h
  split at h
  · cases h
  obtain ⟨tenantId, htenant, h⟩ := bind_ok.mp h
  obtain ⟨-, h⟩ := bind_unit_ok.mp h
  obtain ⟨record, hrecord, h⟩ := bind_ok.mp h
  obtain ⟨-, h⟩ := bind_unit_ok.mp h
  cases h
  obtain ⟨method, -, hrecord⟩ := bind_ok.mp hrecord
  obtain ⟨status, -, hrecord⟩ := bind_ok.mp hrecord
  obtain ⟨-, hrecord⟩ := bind_unit_ok.mp hrecord
  cases hrecord
  exact ⟨tenantFromRequestOrActor_ok htenant, rfl⟩

theorem validateCreateSecretRefRequest_ok {request : CreatePlatformSecretRefRequest} {expectedBackend : String}
    (h : validateCreateSecretRefRequest request expectedBackend = .ok ()) :
    trim request.secretRefId ≠ "" ∧ trim request.tenantId ≠ "" := by
  obtain ⟨hid, h⟩ := bind_unit_ok.mp h
  obtain ⟨htenant, -⟩ := bind_unit_ok.mp h
  unfold validateSecretRefId at hid
  unfold validateSecretTenantId at htenant
  constructor
  · intro hempty
    rw [if_pos hempty] at hid
    cases hid
  · intro hempty
    rw [if_pos hempty] at htenant
    cases htenant

/-- The written entry is made of a value: the secret of the request, or that of its environment variable. -/
theorem secretEntry_cases {request : CreatePlatformSecretRefRequest} {entry : InMemorySecretEntry}
    (h : secretEntry secretEnv request = .ok entry) :
    ∃ value stored, entry = ⟨secretRefRecordFromValue secretEnv request value, stored⟩ ∧
      validateCreateSecretRefRequest request request.backendKind = .ok () ∧
      (request.backendKind = inMemorySecretBackend ∧ request.inMemorySecretValue = some stored ∧ value = stored ∨
        request.backendKind = environmentSecretBackend ∧ stored = "" ∧
          secretEnv.variable_ (trim request.backendLocator) = some value) := by
  unfold secretEntry at h
  split at h
  · rename_i hbackend
    obtain ⟨written, hwritten, rfl⟩ := map_ok.mp (mapError_ok.mp h)
    obtain ⟨hvalid, hrecord⟩ := bind_unit_ok.mp hwritten
    split at hrecord
    · cases hrecord
    rename_i value hsecret
    split at hrecord
    · cases hrecord
    cases hrecord
    exact ⟨value, value, rfl, hbackend ▸ hvalid, .inl ⟨hbackend, hsecret, rfl⟩⟩
  split at h
  · rename_i hbackend
    obtain ⟨record, hrecord, rfl⟩ := map_ok.mp (mapError_ok.mp h)
    obtain ⟨hvalid, hrecord⟩ := bind_unit_ok.mp hrecord
    split at hrecord
    · cases hrecord
    rename_i value hvariable
    split at hrecord
    · cases hrecord
    cases hrecord
    exact ⟨value, "", rfl, hbackend ▸ hvalid, .inr ⟨hbackend, rfl, hvariable⟩⟩
  · cases h

theorem secretEntry_ok {request : CreatePlatformSecretRefRequest} {entry : InMemorySecretEntry}
    (h : secretEntry secretEnv request = .ok entry) :
    trim entry.record.secretRefId ≠ "" ∧ trim entry.record.tenantId ≠ "" := by
  obtain ⟨value, stored, rfl, hvalid, -⟩ := secretEntry_cases h
  simp only [secretRefRecordFromValue, trim_trim]
  exact validateCreateSecretRefRequest_ok hvalid

/-- The secret and the record of its owner are both written. -/
theorem createPlatformSecretRef_ok {request : CreateSecretRefHttpRequest} {newId : String} {entry : InMemorySecretEntry}
    (h : secretRefCandidate env secretEnv stores actor request newId = .ok entry) :
    (createPlatformSecretRef env secretEnv stores actor request newId).1 = { stores with
      secrets := stores.secrets.insert entry.record.secretRefId entry
      owners := stores.owners.insert ("SecretRef", entry.record.secretRefId)
        (.tenant "SecretRef" entry.record.secretRefId entry.record.tenantId) } := by
  obtain ⟨tenantId, -, hentry⟩ := bind_ok.mp h
  obtain ⟨-, hentry⟩ := bind_unit_ok.mp hentry
  obtain ⟨create, -, hentry⟩ := bind_ok.mp hentry
  obtain ⟨hid, htenant⟩ := secretEntry_ok hentry
  have hkind : trim "SecretRef" ≠ "" := by decide
  have howner : validateOwnerRecord (.tenant "SecretRef" entry.record.secretRefId entry.record.tenantId) = .ok () := by
    simp [validateOwnerRecord, ResourceOwnerRecord.tenant, hid, htenant, hkind]
  simp only [createPlatformSecretRef, h, ownerWrite, recordResourceOwner, howner]
  rfl

theorem createSecretRefRequest_ok {request : CreateSecretRefHttpRequest} {tenantId newId : String}
    {create : CreatePlatformSecretRefRequest} (h : createSecretRefRequest actor request tenantId newId = .ok create) :
    trim create.secretRefId = request.id newId ∧ create.tenantId = tenantId ∧
      create.organizationId = actor.organizationId ∧ create.projectId = actor.projectId ∧
      trim create.purpose = trim request.purpose ∧ trim create.backendKind = create.backendKind ∧
      create.backendKind = (normalizedOptionalString request.backendKind).getD environmentSecretBackend ∧
      some (trim create.backendLocator) =
        normalizedOptionalString (request.backendLocator.or request.environmentVariable) ∧
      create.inMemorySecretValue = request.secretValue := by
  unfold createSecretRefRequest at h
  split at h
  · cases h
  rename_i backendLocator hlocator
  cases h
  refine ⟨rfl, rfl, rfl, rfl, trim_trim _, ?_, rfl, ?_, rfl⟩
  · cases hkind : normalizedOptionalString request.backendKind with
    | none => exact trim_environmentSecretBackend
    | some kind => exact normalizedOptionalString_trimmed hkind
  · rw [hlocator, normalizedOptionalString_trimmed hlocator]

/-- The written secret has what the request asks for, in one of the two backends. -/
theorem secretRefCandidate_stands {request : CreateSecretRefHttpRequest} {newId : String} {entry : InMemorySecretEntry}
    (h : secretRefCandidate env secretEnv stores actor request newId = .ok entry) :
    SecretStands secretEnv actor request newId entry ∧
      (entry.record.backendKind = inMemorySecretBackend ∨ entry.record.backendKind = environmentSecretBackend) := by
  obtain ⟨tenantId, htenant, hwritten⟩ := bind_ok.mp h
  obtain ⟨-, hwritten⟩ := bind_unit_ok.mp hwritten
  obtain ⟨create, hcreate, hentry⟩ := bind_ok.mp hwritten
  obtain rfl := tenantFromRequestOrActor_ok htenant
  obtain ⟨hid, hcreateTenant, horganization, hproject, hpurpose, htrimmed, hkind, hlocator, hvalue⟩ :=
    createSecretRefRequest_ok hcreate
  obtain ⟨value, stored, rfl, -, hbackend⟩ := secretEntry_cases hentry
  constructor
  · refine ⟨hid, congrArg trim hcreateTenant, congrArg (Option.map trim) horganization,
      congrArg (Option.map trim) hproject, hpurpose, htrimmed.trans hkind, hlocator, rfl, ?_, ?_⟩
    · intro hinMemory
      have hcreateKind : create.backendKind = inMemorySecretBackend := htrimmed.symm.trans hinMemory
      rcases hbackend with ⟨-, hsecret, rfl⟩ | ⟨henvironment, -⟩
      · exact ⟨hvalue.symm.trans hsecret, rfl, rfl⟩
      · exact (inMemory_ne_environment (hcreateKind.symm.trans henvironment)).elim
    · intro henvironment
      have hcreateKind : create.backendKind = environmentSecretBackend := htrimmed.symm.trans henvironment
      rcases hbackend with ⟨hinMemory, -⟩ | ⟨-, hempty, hvariable⟩
      · exact (inMemory_ne_environment (hinMemory.symm.trans hcreateKind)).elim
      · exact ⟨hempty, value, hvariable, rfl, rfl⟩
  · rcases hbackend with ⟨hinMemory, -⟩ | ⟨henvironment, -⟩
    · exact .inl (htrimmed.trans hinMemory)
    · exact .inr (htrimmed.trans henvironment)

/-- One secret only has what the request asks for. -/
theorem SecretStands.unique {request : CreateSecretRefHttpRequest} {newId : String} {entry stored : InMemorySecretEntry}
    (hbackend : entry.record.backendKind = inMemorySecretBackend ∨
      entry.record.backendKind = environmentSecretBackend)
    (hentry : SecretStands secretEnv actor request newId entry)
    (hstored : SecretStands secretEnv actor request newId stored) : entry = stored := by
  have hkind := hentry.backendKind.trans hstored.backendKind.symm
  have hlocator := Option.some.inj (hentry.backendLocator.trans hstored.backendLocator.symm)
  have hsecret : entry.value = stored.value ∧ entry.record.displayMask = stored.record.displayMask ∧
      entry.record.fingerprint = stored.record.fingerprint := by
    rcases hbackend with hbackend | hbackend
    · obtain ⟨hvalue, hmask, hfingerprint⟩ := hentry.inMemory hbackend
      obtain ⟨hvalue', hmask', hfingerprint'⟩ := hstored.inMemory (hkind.symm.trans hbackend)
      have hsame : entry.value = stored.value := Option.some.inj (hvalue.symm.trans hvalue')
      rw [hmask, hmask', hfingerprint, hfingerprint', hsame]
      exact ⟨rfl, rfl, rfl⟩
    · obtain ⟨hempty, value, hvalue, hmask, hfingerprint⟩ := hentry.environment hbackend
      obtain ⟨hempty', value', hvalue', hmask', hfingerprint'⟩ := hstored.environment (hkind.symm.trans hbackend)
      rw [hlocator] at hvalue
      cases hvalue.symm.trans hvalue'
      rw [hmask, hmask', hfingerprint, hfingerprint', hempty, hempty']
      exact ⟨rfl, rfl, rfl⟩
  obtain ⟨record, value⟩ := entry
  obtain ⟨record', value'⟩ := stored
  cases record
  cases record'
  simp only [InMemorySecretEntry.mk.injEq, PlatformSecretRefRecord.mk.injEq]
  exact ⟨⟨hentry.secretRefId.trans hstored.secretRefId.symm, hentry.tenantId.trans hstored.tenantId.symm,
    hentry.organizationId.trans hstored.organizationId.symm, hentry.projectId.trans hstored.projectId.symm,
    hentry.purpose.trans hstored.purpose.symm, hkind, hlocator, hsecret.2.1, hsecret.2.2,
    hentry.status.trans hstored.status.symm⟩, hsecret.1⟩

theorem PlatformProjectMembershipUpsert.rejoined_iff (upsert : PlatformProjectMembershipUpsert)
    (found : PlatformProjectMembershipRecord) :
    upsert.rejoined found = found ↔ found.status = .active ∧ found.membershipKind = upsert.membershipKind ∧
      found.organizationMemberId = some upsert.organizationMemberId := by
  constructor
  · intro hsame
    rw [← hsame]
    exact ⟨rfl, rfl, rfl⟩
  · rintro ⟨hstatus, hkind, hmember⟩
    simp only [rejoined, hstatus, hkind, hmember, ne_eq, not_true_eq_false, or_self, if_false]
    rw [← hstatus, ← hkind, ← hmember]

theorem organizationInvitationCandidate_ok {organizationId newId rawToken : String}
    {request : CreateOrganizationInvitationRequest} {nowUnix : Int} {invitation : PlatformOrganizationInvitationRecord}
    (h : organizationInvitationCandidate env stores actor organizationId request nowUnix newId rawToken =
      .ok invitation) :
    invitation.tenantId = actor.tenantId ∧ invitation.organizationId = organizationId ∧
      invitation.invitationId = (normalizedOptionalString request.invitationId).getD newId ∧
      validateOrganizationInvitation invitation = .ok () := by
  obtain ⟨resource, -, h⟩ := bind_ok.mp h
  obtain ⟨-, h⟩ := bind_unit_ok.mp h
  exact organizationInvitationRecordFromCreateRequest_ok h

/-- The invitation is checked once more by the store, and passes. -/
theorem createOrganizationInvitation_call (organizationId : String) (request : CreateOrganizationInvitationRequest)
    (nowUnix : Int) (newId rawToken : String) :
    stores.access.call env actor (.createOrganizationInvitation organizationId request nowUnix newId rawToken) =
      match organizationInvitationCandidate env stores actor organizationId request nowUnix newId rawToken with
      | .error _ => stores.access
      | .ok invitation =>
        { stores.access with
          invitations := stores.access.invitations.insert invitation.invitationId invitation } := by
  have hstages : createOrganizationInvitation env stores.access actor organizationId request nowUnix newId rawToken =
      (organizationInvitationCandidate env stores actor organizationId request nowUnix newId rawToken >>=
        fun invitation => do
          let invitations ← (createInvitation stores.access.invitations invitation).mapError invitationErrorToService
          .ok { stores.access with invitations }) := by
    simp only [createOrganizationInvitation, organizationInvitationCandidate, bind_assoc]
  rw [AccessStore.call, hstages]
  cases hcandidate : organizationInvitationCandidate env stores actor organizationId request nowUnix newId rawToken with
  | error error => rfl
  | ok invitation =>
    obtain ⟨-, -, -, hvalid⟩ := organizationInvitationCandidate_ok hcandidate
    have hcreated : createInvitation stores.access.invitations invitation =
        .ok (stores.access.invitations.insert invitation.invitationId invitation) := by
      rw [createInvitation, hvalid]
      rfl
    simp only [Bind.bind, Except.bind, hcreated, Except.mapError, AccessStore.orUnchanged]

theorem roleBindingCandidate_sameBinding {request : CreateRoleBindingRequest} {newId : String}
    {candidate : PlatformRoleBindingRecord}
    (h : roleBindingCandidate env stores.access actor request newId = .ok candidate)
    (record : PlatformRoleBindingRecord) : SameBinding record candidate ↔ request.AsksFor actor record := by
  obtain ⟨tenantId, htenant, h⟩ := bind_ok.mp h
  obtain ⟨shaped, hshaped, h⟩ := bind_ok.mp h
  obtain ⟨-, h⟩ := bind_unit_ok.mp h
  cases h
  rw [(roleBindingRecordFromCreateRequest_ok hshaped).2, tenantFromRequestOrActor_ok htenant]
  rfl

theorem organizationMemberUpsert_scope {organizationId newId : String} {request : CreateOrganizationMemberRequest}
    {upsert : PlatformOrganizationMembershipUpsert}
    (h : organizationMemberUpsert env stores.access actor organizationId request newId = .ok upsert) :
    upsert.tenantId = actor.tenantId ∧ upsert.organizationId = organizationId ∧
      upsert.principalId = trim request.principalId := by
  obtain ⟨-, h⟩ := bind_unit_ok.mp h
  obtain ⟨resource, -, h⟩ := bind_ok.mp h
  obtain ⟨-, h⟩ := bind_unit_ok.mp h
  obtain ⟨membershipKind, -, h⟩ := bind_ok.mp h
  cases h
  exact ⟨rfl, rfl, rfl⟩

/-- A new organization member stands under the id of the request, or under a new one. -/
theorem organizationMemberUpsert_new {organizationId newId : String} {request : CreateOrganizationMemberRequest}
    {upsert : PlatformOrganizationMembershipUpsert}
    (h : organizationMemberUpsert env stores.access actor organizationId request newId = .ok upsert)
    (hnone : ∀ id record, stores.access.memberships.organizationMembers.lookup id = some record →
      upsert.sameMember record = false) :
    upsert.organizationMemberId = (normalizedOptionalString request.organizationMemberId).getD newId := by
  obtain ⟨-, h⟩ := bind_unit_ok.mp h
  obtain ⟨resource, -, h⟩ := bind_ok.mp h
  obtain ⟨-, h⟩ := bind_unit_ok.mp h
  obtain ⟨membershipKind, -, h⟩ := bind_ok.mp h
  cases h
  have hexisting : (organizationMembersForOrganization stores.access.memberships organizationId).find? (fun member =>
      member.tenantId == actor.tenantId && member.organizationId == organizationId &&
        member.principalId == trim request.principalId) = none := by
    rw [List.find?_eq_none]
    intro member hmember
    simp only [organizationMembersForOrganization, List.mem_filter, mem_orderedValues] at hmember
    obtain ⟨⟨id, hstored⟩, -⟩ := hmember
    have hdiffers := hnone id member hstored
    rw [Bool.eq_false_iff] at hdiffers
    exact hdiffers
  simp only [hexisting, Option.map_none, Option.getD_none]

theorem projectMemberUpsert_member {projectId newId : String} {request : CreateProjectMemberRequest}
    {upsert : PlatformProjectMembershipUpsert} {member : PlatformOrganizationMembershipRecord}
    (h : projectMemberUpsert env stores.access actor projectId request newId = .ok upsert)
    (hmember : stores.access.memberships.organizationMembers.lookup request.organizationMemberId = some member) :
    upsert.organizationMemberId = member.organizationMemberId ∧ upsert.membershipKind = member.membershipKind := by
  obtain ⟨-, h⟩ := bind_unit_ok.mp h
  obtain ⟨checked, hchecked, h⟩ := bind_ok.mp h
  obtain ⟨-, h⟩ := bind_unit_ok.mp h
  obtain ⟨-, h⟩ := bind_unit_ok.mp h
  cases h
  cases (activeOrganizationMemberByIdForActor_ok hchecked).1.symm.trans hmember
  exact ⟨rfl, rfl⟩

theorem projectMemberUpsert_new {projectId newId : String} {request : CreateProjectMemberRequest}
    {upsert : PlatformProjectMembershipUpsert}
    (h : projectMemberUpsert env stores.access actor projectId request newId = .ok upsert)
    (hnone : ∀ id record, stores.access.memberships.projectMembers.lookup id = some record →
      upsert.sameMember record = false) :
    upsert.projectMemberId = (normalizedOptionalString request.projectMemberId).getD newId := by
  obtain ⟨-, h⟩ := bind_unit_ok.mp h
  obtain ⟨member, -, h⟩ := bind_ok.mp h
  obtain ⟨-, h⟩ := bind_unit_ok.mp h
  obtain ⟨-, h⟩ := bind_unit_ok.mp h
  cases h
  have hexisting : (projectMembersForProject stores.access.memberships projectId).find? (fun record =>
      record.tenantId == member.tenantId && record.projectId == projectId &&
        record.principalId == member.principalId) = none := by
    rw [List.find?_eq_none]
    intro record hrecord
    simp only [projectMembersForProject, List.mem_filter, mem_orderedValues] at hrecord
    obtain ⟨⟨id, hstored⟩, -⟩ := hrecord
    have hdiffers := hnone id record hstored
    rw [Bool.eq_false_iff] at hdiffers
    intro htest
    simp only [Bool.and_eq_true, beq_iff_eq] at htest
    apply hdiffers
    simp only [PlatformProjectMembershipUpsert.sameMember, Bool.and_eq_true, beq_iff_eq]
    exact ⟨htest.1.2, htest.2⟩
  simp only [hexisting, Option.map_none, Option.getD_none]

end Handlers

section Scope

variable (env : PlatformEnv) (secretEnv : SecretEnv) (stores : RecordStores) (actor : AuthenticatedActor)

theorem not_outside_own (authorized : Option String) : ¬ Outside actor authorized actor.tenantId authorized := by
  rintro (htenant | ⟨inside, other, hinside, hother, hne⟩)
  · exact htenant rfl
  · cases hinside.symm.trans hother
    exact hne rfl

/-- The frame of one handler on the stores as it leaves them. -/
def CreateCall.StaysInScope (call : CreateCall) : Prop :=
  KeepsOutside (Outside actor (call.authorizedOrganization stores)) stores (stores.create env secretEnv actor call)

theorem createOidcIdentityProvider_scope (request : CreateOidcIdentityProviderRequest) (newId : String) :
    (CreateCall.oidcIdentityProvider request newId).StaysInScope env secretEnv stores actor ↔
      (CreateCall.oidcIdentityProvider request newId).SparesOutside env secretEnv stores actor := by
  simp only [CreateCall.StaysInScope, CreateCall.SparesOutside, RecordStores.create, createOidcIdentityProvider]
  cases hcandidate : oidcProviderCandidate env stores actor request newId with
  | error error => simp [KeepsOutside.refl]
  | ok provider =>
    obtain ⟨htenant, hid⟩ := oidcProviderCandidate_ok hcandidate
    rw [keepsOutside_provider, ← hid]
    · simp
    · rw [htenant]
      exact not_outside_own actor none
    · exact fun key hkey => ownerWrite_other stores.owners _ hkey

theorem createPlatformSecretRef_scope (request : CreateSecretRefHttpRequest) (newId : String) :
    (CreateCall.platformSecretRef request newId).StaysInScope env secretEnv stores actor ↔
      (CreateCall.platformSecretRef request newId).SparesOutside env secretEnv stores actor := by
  simp only [CreateCall.StaysInScope, CreateCall.SparesOutside, RecordStores.create]
  cases hcandidate : secretRefCandidate env secretEnv stores actor request newId with
  | error error => simp [createPlatformSecretRef, hcandidate, KeepsOutside.refl]
  | ok entry =>
    obtain ⟨hentry, hbackend⟩ := secretRefCandidate_stands hcandidate
    rw [createPlatformSecretRef_ok hcandidate, keepsOutside_secret, hentry.secretRefId, hentry.tenantId]
    simp only [Except.ok.injEq, exists_eq', forall_const]
    apply forall₃_congr
    intro old hold houtside
    have hstands : entry = old ↔ SecretStands secretEnv actor request newId old := by
      constructor
      · rintro rfl
        exact hentry
      · exact hentry.unique hbackend
    rw [hstands]

theorem createOrganizationInvitation_scope (organizationId : String) (request : CreateOrganizationInvitationRequest)
    (nowUnix : Int) (newId rawToken : String) :
    (CreateCall.organizationInvitation organizationId request nowUnix newId rawToken).StaysInScope
        env secretEnv stores actor ↔
      (CreateCall.organizationInvitation organizationId request nowUnix newId rawToken).SparesOutside
        env secretEnv stores actor := by
  simp only [CreateCall.StaysInScope, CreateCall.SparesOutside, RecordStores.create, createOrganizationInvitation_call]
  cases hcandidate : organizationInvitationCandidate env stores actor organizationId request nowUnix newId rawToken with
  | error error => simp [KeepsOutside.refl]
  | ok invitation =>
    obtain ⟨htenant, horganization, hid, -⟩ := organizationInvitationCandidate_ok hcandidate
    simp only
    rw [keepsOutside_invitations, keeps_insert_iff_of_not, ← hid]
    · simp
    · rw [htenant, horganization]
      exact not_outside_own actor _

theorem createRoleBinding_scope (hkeyed : StoreKeyed stores.access) (request : CreateRoleBindingRequest)
    (newId : String) :
    (CreateCall.roleBinding request newId).StaysInScope env secretEnv stores actor ↔
      (CreateCall.roleBinding request newId).SparesOutside env secretEnv stores actor := by
  simp only [CreateCall.StaysInScope, CreateCall.SparesOutside, RecordStores.create, AccessStore.call,
    CreateCall.authorizedOrganization]
  cases hcandidate : roleBindingCandidate env stores.access actor request newId with
  | error error => simp [createRoleBinding, hcandidate, KeepsOutside.refl]
  | ok candidate =>
    obtain ⟨htenant, -, hid, -, -, -⟩ := roleBindingCandidate_ok hcandidate
    have hsameBinding := roleBindingCandidate_sameBinding hcandidate
    have horganization : candidate.organizationId = normalizedOptionalString request.organization :=
      ((hsameBinding candidate).mp ⟨rfl, rfl, rfl, rfl, rfl⟩).2.1
    have hinside : ¬ Outside actor (normalizedOptionalString request.organization) candidate.tenantId
        candidate.organizationId := by
      rw [htenant, horganization]
      exact not_outside_own actor _
    rcases createRoleBinding_ok hkeyed hcandidate with ⟨record, hrecord, hsame, hstore⟩ | ⟨hnone, hstore⟩
    · -- an equivalent binding is of the authorised scope
      have hrecordInside : ¬ Outside actor (normalizedOptionalString request.organization) record.tenantId
          record.organizationId := by
        rw [hsame.1, hsame.2.1]
        exact hinside
      rw [hstore, keepsOutside_roleBindings, keeps_insert_iff]
      constructor
      · intro _ _ hnone
        exact (hnone _ record hrecord ((hsameBinding record).mp hsame)).elim
      · intro _ old hold houtside
        cases hrecord.symm.trans hold
        exact (hrecordInside houtside).elim
    · rw [hstore, keepsOutside_roleBindings, keeps_insert_iff_of_not, hid]
      · constructor
        · exact fun hspared _ _ => hspared
        · exact fun hspared => hspared ⟨candidate, rfl⟩ fun id record hrecord hasked =>
            hnone id record hrecord ((hsameBinding record).mpr hasked)
      · exact hinside

theorem createOrganizationMember_scope (hkeyed : StoreKeyed stores.access) (organizationId : String)
    (request : CreateOrganizationMemberRequest) (newId : String) :
    (CreateCall.organizationMember organizationId request newId).StaysInScope env secretEnv stores actor ↔
      (CreateCall.organizationMember organizationId request newId).SparesOutside env secretEnv stores actor := by
  simp only [CreateCall.StaysInScope, CreateCall.SparesOutside, RecordStores.create, AccessStore.call,
    CreateCall.authorizedOrganization, createOrganizationMember]
  cases hupsert : organizationMemberUpsert env stores.access actor organizationId request newId with
  | error error => simp [KeepsOutside.refl]
  | ok upsert =>
    obtain ⟨htenant, horganization, hprincipal⟩ := organizationMemberUpsert_scope hupsert
    have hmember (record : PlatformOrganizationMembershipRecord) : upsert.sameMember record = true ↔
        record.tenantId = actor.tenantId ∧ record.organizationId = organizationId ∧
          record.principalId = trim request.principalId := by
      simp [PlatformOrganizationMembershipUpsert.sameMember, htenant, horganization, hprincipal, and_assoc]
    rcases upsertOrganizationMember_cases hkeyed.organizationMembers upsert with
      ⟨record, hrecord, hsame, hstore⟩ | ⟨hnone, -⟩
    · -- the member that is found is of the authorised organization
      have hinside := (hmember record).mp hsame
      simp only [hstore]
      rw [keepsOutside_organizationMembers, keeps_insert_iff]
      constructor
      · intro _ _ hnone
        exact (hnone _ record hrecord hinside).elim
      · intro _ old hold houtside
        cases hrecord.symm.trans hold
        rw [hinside.1, hinside.2.1] at houtside
        exact (not_outside_own actor _ houtside).elim
    · have hnew (id : String) (record : PlatformOrganizationMembershipRecord)
          (hrecord : stores.access.memberships.organizationMembers.lookup id = some record) :
          ¬ (record.tenantId = actor.tenantId ∧ record.organizationId = organizationId ∧
            record.principalId = trim request.principalId) := by
        rw [← hmember, hnone id record hrecord]
        exact Bool.false_ne_true
      have hid := organizationMemberUpsert_new hupsert hnone
      simp only [upsertOrganizationMember, findOrdered_eq_none.mpr hnone]
      cases hvalid : validateOrganizationMember upsert.newRecord with
      | error error =>
        simp only
        constructor
        · rintro - ⟨other, hother, hok⟩
          cases hother
          cases hvalid.symm.trans hok
        · exact fun _ => KeepsOutside.refl _ _
      | ok =>
        simp only
        rw [keepsOutside_organizationMembers, keeps_insert_iff_of_not, hid]
        · constructor
          · exact fun hspared _ _ => hspared
          · exact fun hspared => hspared ⟨upsert, rfl, hvalid⟩ hnew
        · simp only [PlatformOrganizationMembershipUpsert.newRecord, htenant, horganization]
          exact not_outside_own actor _

theorem createProjectMember_scope (hkeyed : StoreKeyed stores.access) (projectId : String)
    (request : CreateProjectMemberRequest) (newId : String) :
    (CreateCall.projectMember projectId request newId).StaysInScope env secretEnv stores actor ↔
      (CreateCall.projectMember projectId request newId).SparesOutside env secretEnv stores actor := by
  simp only [CreateCall.StaysInScope, CreateCall.SparesOutside, RecordStores.create, AccessStore.call,
    CreateCall.authorizedOrganization, createProjectMember]
  cases hupsert : projectMemberUpsert env stores.access actor projectId request newId with
  | error error => simp [KeepsOutside.refl]
  | ok upsert =>
    obtain ⟨hproject, -, member, hmember, hactor, -, htenant, horganization, hprincipal, -⟩ :=
      projectMemberUpsert_ok hupsert
    obtain ⟨hmemberId, hkind⟩ := projectMemberUpsert_member hupsert hmember
    have hsame : upsert.sameMember =
        fun record => record.projectId == projectId && record.principalId == member.principalId := by
      funext record
      rw [PlatformProjectMembershipUpsert.sameMember, hproject, hprincipal]
    simp only [hmember, Option.some.injEq, forall_eq', Except.ok.injEq, upsertProjectMember, ← hsame]
    cases hfound : findOrdered upsert.sameMember stores.access.memberships.projectMembers with
    | some entry =>
      obtain ⟨hrecord, -⟩ := hkeyed.projectMembers.findOrdered hfound
      simp only [hrecord]
      rw [keepsOutside_projectMembers, keeps_insert_iff]
      simp only [hrecord, Option.some.injEq, forall_eq']
      have hstands : upsert.rejoined entry.2 = entry.2 ↔ StandsUnder member entry.2 := by
        rw [upsert.rejoined_iff, hkind, hmemberId]
        constructor
        · rintro ⟨hstatus, hsameKind, hsameMember⟩
          exact ⟨hstatus, hsameKind, hsameMember⟩
        · exact fun hstands => ⟨hstands.status, hstands.membershipKind, hstands.organizationMemberId⟩
      rw [hstands]
    | none =>
      have hid := projectMemberUpsert_new hupsert (findOrdered_eq_none.mp hfound)
      cases hvalid : validateProjectMember upsert.newRecord with
      | error error => simp [KeepsOutside.refl]
      | ok =>
        simp only [forall_const]
        rw [keepsOutside_projectMembers, keeps_insert_iff_of_not, hid]
        simp only [PlatformProjectMembershipUpsert.newRecord, htenant, horganization, hactor, Option.map_some]
        exact not_outside_own actor _

end Scope

/-- A create call stays in the scope it was authorised for exactly when no record outside stands where it writes. -/
theorem create_staysInScope_iff (env : PlatformEnv) (secretEnv : SecretEnv) (records : PlatformRecords)
    (actor : AuthenticatedActor) (call : CreateCall) :
    KeepsOutside (Outside actor (call.authorizedOrganization records.toRecordStores)) records.toRecordStores
        (records.create env secretEnv actor call).toRecordStores ↔
      call.SparesOutside env secretEnv records.toRecordStores actor := by
  cases call with
  | oidcIdentityProvider request newId => exact createOidcIdentityProvider_scope env secretEnv _ actor request newId
  | platformSecretRef request newId => exact createPlatformSecretRef_scope env secretEnv _ actor request newId
  | organizationInvitation organizationId request nowUnix newId rawToken =>
    exact createOrganizationInvitation_scope env secretEnv _ actor organizationId request nowUnix newId rawToken
  | roleBinding request newId => exact createRoleBinding_scope env secretEnv _ actor records.keyed request newId
  | organizationMember organizationId request newId =>
    exact createOrganizationMember_scope env secretEnv _ actor records.keyed organizationId request newId
  | projectMember projectId request newId =>
    exact createProjectMember_scope env secretEnv _ actor records.keyed projectId request newId

section Examples

def tenantSecret : InMemorySecretEntry where
  record := ⟨"sec_shared", "ten_a", none, none, "oidc_client", "in_memory", "vault", "***", "sha256:", .active⟩
  value := "secret of a"

/-- A secret of one tenant, and the owner of another. -/
def twoTenants : PlatformRecords where
  access :=
    { memberships := ⟨∅, ∅⟩
      roleBindings := (∅ : Index PlatformRoleBindingRecord).insert "rb_b"
        ⟨"rb_b", "ten_b", none, none, "usr_b", "tenant_owner", .active, 1⟩
      invitations := ∅ }
  providers := ∅
  secrets := (∅ : Index InMemorySecretEntry).insert "sec_shared" tenantSecret
  owners := (∅ : OwnerIndex).insert ("SecretRef", "sec_shared") (.tenant "SecretRef" "sec_shared" "ten_a")
  keyed := ⟨Keyed.empty _, Keyed.empty _, (Keyed.empty _).insert rfl, Keyed.empty _⟩

def otherOwner : AuthenticatedActor := ⟨"ten_b", none, none, "usr_b", .user⟩

def takeSecret : CreateCall :=
  .platformSecretRef ⟨some "sec_shared", none, "oidc_client", some "in_memory", some "vault", none, some "secret of b"⟩
    "sec_new"

theorem sharedSecret_replaced : ¬ ∀ (env : PlatformEnv) (secretEnv : SecretEnv) (records : PlatformRecords)
    (actor : AuthenticatedActor) (call : CreateCall),
    KeepsOutside (Outside actor (call.authorizedOrganization records.toRecordStores)) records.toRecordStores
      (records.create env secretEnv actor call).toRecordStores := by
  intro hkeeps
  have hsecret := (hkeeps ⟨[], id⟩ ⟨fun _ => none, id⟩ twoTenants otherOwner takeSecret).secrets "sec_shared" tenantSecret
    (AList.lookup_insert _) (.inl (by decide))
  revert hsecret
  decide +kernel

end Examples

end Starweaver.Platform
