import Starweaver.Library.Checks
import Starweaver.Platform.AdminHandlers

namespace Starweaver.Platform

open Library.AssocMap Library.Checks Library.OrderedMap

/-- Every record of the stores stands under its own id. -/
structure StoreKeyed (store : AccessStore) : Prop where
  organizationMembers : Keyed (·.organizationMemberId) store.memberships.organizationMembers
  projectMembers : Keyed (·.projectMemberId) store.memberships.projectMembers
  roleBindings : Keyed (·.roleBindingId) store.roleBindings
  invitations : Keyed (·.invitationId) store.invitations

def SameBinding (left right : PlatformRoleBindingRecord) : Prop :=
  left.tenantId = right.tenantId ∧ left.organizationId = right.organizationId ∧ left.projectId = right.projectId ∧
    left.principalId = right.principalId ∧ left.roleId = right.roleId

section RoleBindings

variable {env : PlatformEnv} {store : AccessStore} {actor : AuthenticatedActor}

theorem tenantFromRequestOrActor_ok {requested : Option String} {tenantId : String}
    (h : tenantFromRequestOrActor requested actor = .ok tenantId) : tenantId = actor.tenantId := by
  unfold tenantFromRequestOrActor at h
  split at h
  · split at h
    · cases h
      assumption
    · cases h
  · cases h
    rfl

theorem roleBindingRecordFromCreateRequest_ok {request : CreateRoleBindingRequest} {tenantId newId : String}
    {record : PlatformRoleBindingRecord}
    (h : roleBindingRecordFromCreateRequest request tenantId newId = .ok record) :
    validateRoleBinding record = .ok () ∧
      record = ⟨(normalizedOptionalString request.binding).getD newId, tenantId,
        normalizedOptionalString request.organization, normalizedOptionalString request.project,
        Library.Text.trim request.principal, Library.Text.trim request.role, .active, 1⟩ := by
  unfold roleBindingRecordFromCreateRequest at h
  simp only at h
  split at h
  · cases h
  · rename_i hvalid
    cases h
    exact ⟨hvalid, rfl⟩

/-- What the create handler has checked of a candidate. -/
theorem roleBindingCandidate_ok {request : CreateRoleBindingRequest} {newId : String}
    {candidate : PlatformRoleBindingRecord} (h : roleBindingCandidate env store actor request newId = .ok candidate) :
    candidate.tenantId = actor.tenantId ∧ candidate.projectId = normalizedOptionalString request.project ∧
      candidate.roleBindingId = (normalizedOptionalString request.binding).getD newId ∧
      validateRoleBinding candidate = .ok () ∧ candidate.toUpsert.newRecord = candidate ∧
      authorizeServiceAction store env.grants actor .roleBindingWrite (roleBindingResource candidate) = .ok () := by
  obtain ⟨tenantId, htenant, h⟩ := bind_ok.mp h
  obtain ⟨record, hrecord, h⟩ := bind_ok.mp h
  obtain ⟨hauthorized, h⟩ := bind_unit_ok.mp h
  cases h
  obtain ⟨hvalid, hshape⟩ := roleBindingRecordFromCreateRequest_ok hrecord
  refine ⟨?_, ?_, ?_, hvalid, ?_, hauthorized⟩ <;> rw [hshape]
  · exact tenantFromRequestOrActor_ok htenant
  · rfl

theorem equivalentRoleBinding_some {candidate existing : PlatformRoleBindingRecord}
    (h : equivalentRoleBinding store candidate = some existing) :
    SameBinding existing candidate ∧ ∃ id, store.roleBindings.lookup id = some existing := by
  have hmem := List.mem_of_find?_eq_some h
  have htest := List.find?_some h
  simp only [Bool.and_eq_true, beq_iff_eq] at htest
  simp only [roleBindingsForTenant, List.mem_filter, mem_orderedValues, Bool.and_eq_true, beq_iff_eq] at hmem
  exact ⟨⟨hmem.2.1, htest.1.1.1, htest.1.1.2, htest.1.2, htest.2⟩, hmem.1⟩

theorem SameBinding.of_equivalent {requested candidate record : PlatformRoleBindingRecord}
    (hrequested : SameBinding requested candidate) (hequivalent : requested.toUpsert.equivalent record = true) :
    SameBinding record candidate := by
  obtain ⟨htenant, horganization, hproject, hprincipal, hrole⟩ := PlatformRoleBindingUpsert.equivalent_iff.mp hequivalent
  obtain ⟨htenant', horganization', hproject', hprincipal', hrole'⟩ := hrequested
  exact ⟨htenant.trans htenant', horganization.trans horganization', hproject.trans hproject',
    hprincipal.trans hprincipal', hrole.trans hrole'⟩

/-- An authorised candidate gives way to a record that is the same binding. -/
theorem createRoleBinding_ok (hkeyed : StoreKeyed store) {request : CreateRoleBindingRequest} {newId : String}
    {candidate : PlatformRoleBindingRecord}
    (hcandidate : roleBindingCandidate env store actor request newId = .ok candidate) :
    (∃ record, store.roleBindings.lookup record.roleBindingId = some record ∧ SameBinding record candidate ∧
      (createRoleBinding env store actor request newId).1 =
        { store with roleBindings := store.roleBindings.insert record.roleBindingId (reactivated record) }) ∨
    (∀ id record, store.roleBindings.lookup id = some record → ¬ SameBinding record candidate) ∧
      (createRoleBinding env store actor request newId).1 =
        { store with roleBindings := store.roleBindings.insert candidate.roleBindingId candidate } := by
  obtain ⟨-, -, -, hvalid, hnew, -⟩ := roleBindingCandidate_ok hcandidate
  simp only [createRoleBinding, hcandidate]
  cases hexisting : equivalentRoleBinding store candidate with
  | none =>
    rw [Option.getD_none]
    rcases upsertRoleBinding_cases hkeyed.roleBindings candidate.toUpsert with
      ⟨record, hrecord, hequivalent, hstore⟩ | ⟨hnone, hstore⟩
    · exact .inl ⟨record, hrecord, SameBinding.of_equivalent ⟨rfl, rfl, rfl, rfl, rfl⟩ hequivalent, by rw [hstore]⟩
    · refine .inr ⟨fun id record hrecord hsame => ?_, ?_⟩
      · have hdiffers := hnone id record hrecord
        rw [Bool.eq_false_iff] at hdiffers
        exact hdiffers (PlatformRoleBindingUpsert.equivalent_iff.mpr hsame)
      · unfold upsertRoleBinding
        rw [findOrdered_eq_none.mpr fun id record hrecord => hnone id record hrecord]
        simp only [hnew, hvalid]
        rfl
  | some existing =>
    obtain ⟨hscope, id, hstored⟩ := equivalentRoleBinding_some hexisting
    rw [Option.getD_some]
    rcases upsertRoleBinding_cases hkeyed.roleBindings existing.toUpsert with
      ⟨record, hrecord, hequivalent, hstore⟩ | ⟨hnone, -⟩
    · exact .inl ⟨record, hrecord, hscope.of_equivalent hequivalent, by rw [hstore]⟩
    · have hself := hnone id existing hstored
      rw [Bool.eq_false_iff] at hself
      exact (hself (PlatformRoleBindingUpsert.equivalent_iff.mpr ⟨rfl, rfl, rfl, rfl, rfl⟩)).elim

/-- A created binding is a record with the scope, principal and role of the authorised candidate. -/
theorem createRoleBinding_cases (env : PlatformEnv) (hkeyed : StoreKeyed store) (actor : AuthenticatedActor)
    (request : CreateRoleBindingRequest) (newId : String) :
    (createRoleBinding env store actor request newId).1 = store ∨
    ∃ candidate, roleBindingCandidate env store actor request newId = .ok candidate ∧
      ((∃ record, store.roleBindings.lookup record.roleBindingId = some record ∧ SameBinding record candidate ∧
          (createRoleBinding env store actor request newId).1 =
            { store with roleBindings := store.roleBindings.insert record.roleBindingId (reactivated record) }) ∨
        (createRoleBinding env store actor request newId).1 =
          { store with roleBindings := store.roleBindings.insert candidate.roleBindingId candidate }) := by
  cases hcandidate : roleBindingCandidate env store actor request newId with
  | error error =>
    left
    simp only [createRoleBinding, hcandidate]
  | ok candidate =>
    refine .inr ⟨candidate, rfl, ?_⟩
    rcases createRoleBinding_ok hkeyed hcandidate with hrecord | ⟨-, hstore⟩
    · exact .inl hrecord
    · exact .inr hstore

theorem updateRoleBinding_cases (env : PlatformEnv) (store : AccessStore) (actor : AuthenticatedActor)
    (roleBindingId : String) (request : UpdateStatusRequest) :
    (updateRoleBinding env store actor roleBindingId request).1 = store ∨
    ∃ record status, store.roleBindings.lookup roleBindingId = some record ∧
      roleBindingStatusFromRequest request.status = .ok status ∧
      authorizeServiceAction store env.grants actor .roleBindingWrite (roleBindingResource record) = .ok () ∧
      (updateRoleBinding env store actor roleBindingId request).1 = { store with
        roleBindings := store.roleBindings.insert roleBindingId
          { record with status, resourceVersion := record.resourceVersion + 1 } } := by
  unfold updateRoleBinding
  cases hchange : roleBindingStatusChange env store actor roleBindingId request with
  | error error => exact .inl rfl
  | ok status =>
    obtain ⟨before, hbefore, hchange⟩ := bind_ok.mp hchange
    obtain ⟨hauthorized, hstatus⟩ := bind_unit_ok.mp hchange
    unfold roleBindingById at hbefore
    split at hbefore
    · cases hbefore
    · rename_i binding hbinding
      cases hbefore
      obtain ⟨hlookup, -⟩ := Option.filter_eq_some_iff.mp hbinding
      simp only
      rcases updateRoleBindingStatus_cases store.roleBindings roleBindingId request.expectedVersion status with
        hstore | ⟨record, hrecord, -, hstore⟩
      · exact .inl (by rw [hstore])
      · cases hlookup.symm.trans hrecord
        exact .inr ⟨before, status, hlookup, hstatus, hauthorized, by rw [hstore]⟩

end RoleBindings

section OrganizationMembers

variable {env : PlatformEnv} {store : AccessStore} {actor : AuthenticatedActor}

theorem organizationMemberUpsert_ok {organizationId newId : String} {request : CreateOrganizationMemberRequest}
    {upsert : PlatformOrganizationMembershipUpsert}
    (h : organizationMemberUpsert env store actor organizationId request newId = .ok upsert) :
    upsert.tenantId = actor.tenantId ∧ upsert.organizationId = organizationId ∧
      startsWith organizationId "org_" = true ∧
      authorizeServiceAction store env.grants actor .organizationMemberWrite
        ⟨"OrganizationMember", actor.tenantId, some organizationId, none, organizationId⟩ = .ok () := by
  obtain ⟨hid, h⟩ := bind_unit_ok.mp h
  obtain ⟨resource, hresource, h⟩ := bind_ok.mp h
  obtain ⟨-, hresource⟩ := bind_unit_ok.mp hresource
  cases hresource
  obtain ⟨hauthorized, h⟩ := bind_unit_ok.mp h
  obtain ⟨membershipKind, -, h⟩ := bind_ok.mp h
  cases h
  have hstart : startsWith organizationId "org_" = true := by
    unfold validateOrganizationId at hid
    split at hid
    · assumption
    · cases hid
  exact ⟨rfl, rfl, hstart, hauthorized⟩

theorem organizationMemberForActor_ok {organizationId organizationMemberId : String}
    {member : PlatformOrganizationMembershipRecord}
    (h : organizationMemberForActor store actor organizationId organizationMemberId = .ok member) :
    store.memberships.organizationMembers.lookup organizationMemberId = some member ∧
      member.tenantId = actor.tenantId ∧ member.organizationId = organizationId := by
  obtain ⟨found, hfound, h⟩ := bind_ok.mp h
  unfold organizationMemberById at hfound
  split at hfound
  · cases hfound
  · rename_i record hrecord
    cases hfound
    split at h
    · rename_i hscope
      cases h
      exact ⟨hrecord, hscope⟩
    · cases h

/-- A status update of an organization member with its cascade. -/
def OrganizationMemberChange (env : PlatformEnv) (store : AccessStore) (actor : AuthenticatedActor)
    (organizationMemberId : String) (status : PlatformMembershipStatus) (changed : AccessStore) : Prop :=
  ∃ record, store.memberships.organizationMembers.lookup organizationMemberId = some record ∧
    record.tenantId = actor.tenantId ∧
    authorizeServiceAction store env.grants actor .organizationMemberWrite (organizationMemberResource record) = .ok () ∧
    changed = cascadeOrganizationMember store
      { record with status, resourceVersion := record.resourceVersion + 1 }
      { store.memberships with
        organizationMembers := store.memberships.organizationMembers.insert organizationMemberId
          { record with status, resourceVersion := record.resourceVersion + 1 } } status

theorem setOrganizationMemberStatus_ok {organizationMemberId : String} {expectedVersion : Int}
    {status : PlatformMembershipStatus} {before updated : PlatformOrganizationMembershipRecord}
    {memberships : MembershipStore}
    (hbefore : store.memberships.organizationMembers.lookup organizationMemberId = some before)
    (h : setOrganizationMemberStatus store organizationMemberId expectedVersion status = .ok (updated, memberships)) :
    updated = { before with status, resourceVersion := before.resourceVersion + 1 } ∧
      memberships = { store.memberships with
        organizationMembers := store.memberships.organizationMembers.insert organizationMemberId updated } := by
  obtain ⟨record, hrecord, -, hupdated, hchanged⟩ := updateOrganizationMemberStatus_ok (mapError_ok.mp h)
  cases hbefore.symm.trans hrecord
  exact ⟨hupdated, hchanged⟩

theorem updateOrganizationMember_ok {organizationId organizationMemberId : String} {request : UpdateStatusRequest}
    {changed : AccessStore}
    (h : updateOrganizationMember env store actor organizationId organizationMemberId request = .ok changed) :
    ∃ status, membershipStatusFromRequest request.status = .ok status ∧
      OrganizationMemberChange env store actor organizationMemberId status changed := by
  obtain ⟨before, hbefore, h⟩ := bind_ok.mp h
  obtain ⟨hauthorized, h⟩ := bind_unit_ok.mp h
  obtain ⟨status, hstatus, h⟩ := bind_ok.mp h
  obtain ⟨⟨updated, memberships⟩, hset, h⟩ := bind_ok.mp h
  obtain ⟨hlookup, htenant, -⟩ := organizationMemberForActor_ok hbefore
  obtain ⟨rfl, rfl⟩ := setOrganizationMemberStatus_ok hlookup hset
  cases h
  exact ⟨status, hstatus, before, hlookup, htenant, hauthorized, rfl⟩

theorem removeOrganizationMember_ok {organizationId organizationMemberId : String} {expectedVersion : Int}
    {changed : AccessStore}
    (h : removeOrganizationMember env store actor organizationId organizationMemberId expectedVersion = .ok changed) :
    OrganizationMemberChange env store actor organizationMemberId .removed changed := by
  obtain ⟨before, hbefore, h⟩ := bind_ok.mp h
  obtain ⟨hauthorized, h⟩ := bind_unit_ok.mp h
  obtain ⟨⟨updated, memberships⟩, hset, h⟩ := bind_ok.mp h
  obtain ⟨hlookup, htenant, -⟩ := organizationMemberForActor_ok hbefore
  obtain ⟨rfl, rfl⟩ := setOrganizationMemberStatus_ok hlookup hset
  cases h
  exact ⟨before, hlookup, htenant, hauthorized, rfl⟩

end OrganizationMembers

section ProjectMembers

variable {env : PlatformEnv} {store : AccessStore} {actor : AuthenticatedActor}

theorem activeOrganizationMemberByIdForActor_ok {organizationMemberId : String}
    {member : PlatformOrganizationMembershipRecord}
    (h : activeOrganizationMemberByIdForActor store actor organizationMemberId = .ok member) :
    store.memberships.organizationMembers.lookup organizationMemberId = some member ∧
      member.tenantId = actor.tenantId ∧ member.status = .active := by
  unfold activeOrganizationMemberByIdForActor at h
  split at h
  · cases h
  obtain ⟨found, hfound, h⟩ := bind_ok.mp h
  unfold organizationMemberById at hfound
  split at hfound
  · cases hfound
  rename_i record hrecord
  cases hfound
  split at h
  · cases h
  rename_i htenant
  split at h
  · rename_i hactive
    cases h
    have hstatus : member.status = .active := by
      cases hkind : member.status <;> simp_all [PlatformMembershipStatus.acceptsAccess]
    exact ⟨hrecord, not_not.mp htenant, hstatus⟩
  · cases h

theorem projectMemberUpsert_ok {projectId newId : String} {request : CreateProjectMemberRequest}
    {upsert : PlatformProjectMembershipUpsert}
    (h : projectMemberUpsert env store actor projectId request newId = .ok upsert) :
    upsert.projectId = projectId ∧ startsWith projectId "prj_" = true ∧
      ∃ member, store.memberships.organizationMembers.lookup request.organizationMemberId = some member ∧
        member.tenantId = actor.tenantId ∧ member.status = .active ∧ upsert.tenantId = member.tenantId ∧
        upsert.organizationId = member.organizationId ∧ upsert.principalId = member.principalId ∧
        authorizeServiceAction store env.grants actor .projectMemberWrite
          (.project "ProjectMember" member.tenantId member.organizationId projectId projectId) = .ok () := by
  obtain ⟨hid, h⟩ := bind_unit_ok.mp h
  obtain ⟨member, hmember, h⟩ := bind_ok.mp h
  obtain ⟨-, h⟩ := bind_unit_ok.mp h
  obtain ⟨hauthorized, h⟩ := bind_unit_ok.mp h
  cases h
  have hstart : startsWith projectId "prj_" = true := by
    unfold validateProjectId at hid
    split at hid
    · assumption
    · cases hid
  obtain ⟨hrecord, htenant, hstatus⟩ := activeOrganizationMemberByIdForActor_ok hmember
  exact ⟨rfl, hstart, member, hrecord, htenant, hstatus, rfl, rfl, rfl, hauthorized⟩

theorem projectMemberForActor_ok {projectId projectMemberId : String} {member : PlatformProjectMembershipRecord}
    (h : projectMemberForActor store actor projectId projectMemberId = .ok member) :
    store.memberships.projectMembers.lookup projectMemberId = some member ∧ member.tenantId = actor.tenantId := by
  obtain ⟨found, hfound, h⟩ := bind_ok.mp h
  unfold projectMemberById at hfound
  split at hfound
  · cases hfound
  · rename_i record hrecord
    cases hfound
    split at h
    · rename_i hscope
      cases h
      exact ⟨hrecord, hscope.1⟩
    · cases h

theorem updateProjectMember_ok {projectId projectMemberId : String} {request : UpdateStatusRequest}
    {changed : AccessStore} (h : updateProjectMember env store actor projectId projectMemberId request = .ok changed) :
    ∃ record status, store.memberships.projectMembers.lookup projectMemberId = some record ∧
      record.tenantId = actor.tenantId ∧ membershipStatusFromRequest request.status = .ok status ∧
      authorizeServiceAction store env.grants actor .projectMemberWrite (projectMemberResource record) = .ok () ∧
      changed.memberships = { store.memberships with
        projectMembers := store.memberships.projectMembers.insert projectMemberId
          { record with status, resourceVersion := record.resourceVersion + 1 } } ∧
      changed.invitations = store.invitations ∧
      changed.roleBindings = if status = .removed then
        deleteRoleBindingsForProjectPrincipal store.roleBindings record.tenantId record.projectId record.principalId
      else store.roleBindings := by
  obtain ⟨before, hbefore, h⟩ := bind_ok.mp h
  obtain ⟨hauthorized, h⟩ := bind_unit_ok.mp h
  obtain ⟨status, hstatus, h⟩ := bind_ok.mp h
  obtain ⟨⟨updated, memberships⟩, hset, h⟩ := bind_ok.mp h
  obtain ⟨record, hrecord, -, hupdated, hchanged⟩ := updateProjectMemberStatus_ok (mapError_ok.mp hset)
  obtain ⟨hlookup, htenant⟩ := projectMemberForActor_ok hbefore
  cases hlookup.symm.trans hrecord
  cases h
  subst hupdated hchanged
  exact ⟨_, status, hlookup, htenant, hstatus, hauthorized, rfl, rfl, rfl⟩

end ProjectMembers

section Invitations

variable {env : PlatformEnv} {store : AccessStore} {actor : AuthenticatedActor}

theorem organizationInvitationRecordFromCreateRequest_ok {organizationId newId rawToken : String}
    {request : CreateOrganizationInvitationRequest} {nowUnix : Int} {invitation : PlatformOrganizationInvitationRecord}
    (h : organizationInvitationRecordFromCreateRequest env actor request organizationId nowUnix newId rawToken =
      .ok invitation) :
    invitation.tenantId = actor.tenantId ∧ invitation.organizationId = organizationId ∧
      invitation.invitationId = (normalizedOptionalString request.invitationId).getD newId ∧
      validateOrganizationInvitation invitation = .ok () := by
  unfold organizationInvitationRecordFromCreateRequest at h
  simp only at h
  split at h
  · cases h
  split at h
  · cases h
  split at h
  · cases h
  split at h
  · cases h
  split at h
  · cases h
  split at h
  · cases h
  rename_i hvalid
  cases h
  exact ⟨rfl, rfl, rfl, hvalid⟩

theorem createOrganizationInvitation_ok {organizationId newId rawToken : String}
    {request : CreateOrganizationInvitationRequest} {nowUnix : Int} {changed : AccessStore}
    (h : createOrganizationInvitation env store actor organizationId request nowUnix newId rawToken = .ok changed) :
    authorizeServiceAction store env.grants actor .organizationInvitationCreate
        ⟨"OrganizationInvitation", actor.tenantId, some organizationId, none, organizationId⟩ = .ok () ∧
      ∃ invitation, invitation.tenantId = actor.tenantId ∧ invitation.organizationId = organizationId ∧
        invitation.invitationId = (normalizedOptionalString request.invitationId).getD newId ∧
        changed = { store with invitations := store.invitations.insert invitation.invitationId invitation } := by
  obtain ⟨resource, hresource, h⟩ := bind_ok.mp h
  obtain ⟨-, hresource⟩ := bind_unit_ok.mp hresource
  cases hresource
  obtain ⟨hauthorized, h⟩ := bind_unit_ok.mp h
  obtain ⟨invitation, hinvitation, h⟩ := bind_ok.mp h
  obtain ⟨invitations, hinvitations, h⟩ := bind_ok.mp h
  obtain ⟨-, hinserted⟩ := bind_unit_ok.mp (mapError_ok.mp hinvitations)
  cases h
  cases hinserted
  obtain ⟨htenant, horganization, hid, -⟩ := organizationInvitationRecordFromCreateRequest_ok hinvitation
  exact ⟨hauthorized, invitation, htenant, horganization, hid, rfl⟩

/-- The accepted invitation is the one of the token, and is for the actor. -/
theorem acceptedInvitation_ok (hkeyed : StoreKeyed store) {rawToken organizationMemberId projectMemberId : String}
    {nowUnix : Int} {invitation : PlatformOrganizationInvitationRecord}
    {invitations : Index PlatformOrganizationInvitationRecord}
    (h : acceptedInvitation env store actor rawToken nowUnix organizationMemberId projectMemberId =
      .ok (invitation, invitations)) :
    ∃ before, organizationInvitationByRawToken env store rawToken = .ok before ∧
      before.tenantId = actor.tenantId ∧ invitation = accepted before nowUnix ∧
      store.invitations.lookup before.invitationId = some before ∧
      invitations = store.invitations.insert before.invitationId invitation := by
  unfold acceptedInvitation at h
  split at h
  · cases h
  obtain ⟨before, hbefore, h⟩ := bind_ok.mp h
  obtain ⟨hactor, h⟩ := bind_unit_ok.mp h
  have haccept := mapError_ok.mp h
  obtain ⟨-, haccept⟩ := bind_unit_ok.mp haccept
  obtain ⟨-, haccept⟩ := bind_unit_ok.mp haccept
  obtain ⟨-, haccept⟩ := bind_unit_ok.mp haccept
  obtain ⟨-, haccept⟩ := bind_unit_ok.mp haccept
  have hstored : store.invitations.lookup before.invitationId = some before := by
    unfold organizationInvitationByRawToken at hbefore
    split at hbefore
    · cases hbefore
    split at hbefore
    · cases hbefore
    rename_i found hfound
    cases hbefore
    obtain ⟨entry, hentry, rfl⟩ := Option.map_eq_some_iff.mp hfound
    exact (hkeyed.invitations.findOrdered hentry).1
  have htenant : before.tenantId = actor.tenantId := by
    unfold ensureActorMatchesInvitation at hactor
    split at hactor
    · cases hactor
    · rename_i htenant
      exact (not_not.mp htenant).symm
  simp only [hstored] at haccept
  split at haccept
  · cases haccept
  split at haccept
  · cases haccept
  split at haccept
  · cases haccept
  cases haccept
  exact ⟨before, hbefore, htenant, rfl, hstored, rfl⟩

end Invitations

section Gained

variable {memberships : MembershipStore}

theorem PlatformOrganizationMembershipUpsert.rejoined_same (request : PlatformOrganizationMembershipUpsert)
    (record : PlatformOrganizationMembershipRecord) :
    (request.rejoined record).organizationMemberId = record.organizationMemberId ∧
      (request.rejoined record).tenantId = record.tenantId ∧
      (request.rejoined record).organizationId = record.organizationId ∧
      (request.rejoined record).principalId = record.principalId := by
  unfold rejoined
  split
  · exact ⟨rfl, rfl, rfl, rfl⟩
  · exact ⟨rfl, rfl, rfl, rfl⟩

theorem PlatformOrganizationMembershipUpsert.rejoined_active (request : PlatformOrganizationMembershipUpsert)
    (record : PlatformOrganizationMembershipRecord) : (request.rejoined record).status = .active := by
  unfold rejoined
  split
  · rfl
  · rename_i hchanged
    by_contra hinactive
    exact hchanged (.inl hinactive)

/-- A stored organization member after an upsert was there before, or is the one that was asked for. -/
theorem upsertOrganizationMember_some (hkeyed : Keyed (·.organizationMemberId) memberships.organizationMembers)
    {request : PlatformOrganizationMembershipUpsert} {id : String} {record : PlatformOrganizationMembershipRecord}
    (h : (upsertOrganizationMember memberships request).1.organizationMembers.lookup id = some record) :
    memberships.organizationMembers.lookup id = some record ∨
      record.tenantId = request.tenantId ∧ record.organizationId = request.organizationId ∧
        record.principalId = request.principalId := by
  rcases upsertOrganizationMember_cases hkeyed request with ⟨old, -, hsame, hstore⟩ | ⟨-, hstore | ⟨-, hstore⟩⟩
  · rw [hstore] at h
    rcases insert_some h with ⟨-, rfl⟩ | ⟨-, hold⟩
    · obtain ⟨-, htenant, horganization, hprincipal⟩ := request.rejoined_same old
      simp only [PlatformOrganizationMembershipUpsert.sameMember, Bool.and_eq_true, beq_iff_eq] at hsame
      exact .inr ⟨htenant.trans hsame.1.1, horganization.trans hsame.1.2, hprincipal.trans hsame.2⟩
    · exact .inl hold
  · rw [hstore] at h
    exact .inl h
  · rw [hstore] at h
    rcases insert_some h with ⟨-, rfl⟩ | ⟨-, hold⟩
    · exact .inr ⟨rfl, rfl, rfl⟩
    · exact .inl hold

/-- For a project member the tenant may be that of a record that was already there. -/
theorem upsertProjectMember_some (hkeyed : Keyed (·.projectMemberId) memberships.projectMembers)
    {request : PlatformProjectMembershipUpsert} {id : String} {record : PlatformProjectMembershipRecord}
    (h : (upsertProjectMember memberships request).1.projectMembers.lookup id = some record) :
    memberships.projectMembers.lookup id = some record ∨
      record.projectId = request.projectId ∧ record.principalId = request.principalId ∧
        (record.tenantId = request.tenantId ∨ ∃ key old, memberships.projectMembers.lookup key = some old ∧
          old.projectId = request.projectId ∧ old.principalId = request.principalId ∧
          old.tenantId = record.tenantId) := by
  rcases upsertProjectMember_cases hkeyed request with ⟨old, hold, hsame, hstore⟩ | ⟨-, hstore | ⟨-, hstore⟩⟩
  · rw [hstore] at h
    rcases insert_some h with ⟨-, rfl⟩ | ⟨-, hother⟩
    · simp only [PlatformProjectMembershipUpsert.sameMember, Bool.and_eq_true, beq_iff_eq] at hsame
      exact .inr ⟨hsame.1, hsame.2, .inr ⟨_, old, hold, hsame.1, hsame.2, rfl⟩⟩
    · exact .inl hother
  · rw [hstore] at h
    exact .inl h
  · rw [hstore] at h
    rcases insert_some h with ⟨-, rfl⟩ | ⟨-, hold⟩
    · exact .inr ⟨rfl, rfl, .inl rfl⟩
    · exact .inl hold

end Gained

section Keyed

variable {env : PlatformEnv} {store : AccessStore} {actor : AuthenticatedActor}

theorem reactivated_id (record : PlatformRoleBindingRecord) :
    (reactivated record).roleBindingId = record.roleBindingId := by
  unfold reactivated
  split <;> rfl

theorem upsertOrganizationMember_projectMembers (memberships : MembershipStore)
    (request : PlatformOrganizationMembershipUpsert) :
    (upsertOrganizationMember memberships request).1.projectMembers = memberships.projectMembers := by
  unfold upsertOrganizationMember
  split
  · split <;> rfl
  · split <;> rfl

theorem upsertProjectMember_organizationMembers (memberships : MembershipStore)
    (request : PlatformProjectMembershipUpsert) :
    (upsertProjectMember memberships request).1.organizationMembers = memberships.organizationMembers := by
  unfold upsertProjectMember
  split
  · split <;> rfl
  · split <;> rfl

theorem upsertOrganizationMember_keyed {memberships : MembershipStore}
    (hkeyed : Keyed (·.organizationMemberId) memberships.organizationMembers)
    (request : PlatformOrganizationMembershipUpsert) :
    Keyed (·.organizationMemberId) (upsertOrganizationMember memberships request).1.organizationMembers := by
  rcases upsertOrganizationMember_cases hkeyed request with ⟨record, -, -, hstore⟩ | ⟨-, hstore | ⟨-, hstore⟩⟩
  · rw [hstore]
    exact hkeyed.insert (request.rejoined_same record).1
  · rw [hstore]
    exact hkeyed
  · rw [hstore]
    exact hkeyed.insert rfl

theorem upsertProjectMember_keyed {memberships : MembershipStore}
    (hkeyed : Keyed (·.projectMemberId) memberships.projectMembers) (request : PlatformProjectMembershipUpsert) :
    Keyed (·.projectMemberId) (upsertProjectMember memberships request).1.projectMembers := by
  rcases upsertProjectMember_cases hkeyed request with ⟨record, -, -, hstore⟩ | ⟨-, hstore | ⟨-, hstore⟩⟩
  · rw [hstore]
    exact hkeyed.insert rfl
  · rw [hstore]
    exact hkeyed
  · rw [hstore]
    exact hkeyed.insert rfl

theorem deleteRoleBindings_keyed {records : Index PlatformRoleBindingRecord} (hkeyed : Keyed (·.roleBindingId) records)
    (test : PlatformRoleBindingRecord → Bool) : Keyed (·.roleBindingId) (deleteRoleBindings records test) := by
  apply hkeyed.mapValues
  intro record
  split <;> rfl

theorem cascade_keyed {memberships : MembershipStore} (hkeyed : Keyed (·.projectMemberId) memberships.projectMembers)
    (member : PlatformOrganizationMembershipRecord) (status : PlatformMembershipStatus) :
    Keyed (·.projectMemberId)
      (cascadeProjectMembershipsForOrganizationMember memberships member status).projectMembers := by
  apply hkeyed.mapValues
  intro record
  split <;> rfl

theorem OrganizationMemberChange.keyed {organizationMemberId : String} {status : PlatformMembershipStatus}
    {changed : AccessStore} (hkeyed : StoreKeyed store)
    (h : OrganizationMemberChange env store actor organizationMemberId status changed) : StoreKeyed changed := by
  obtain ⟨record, hrecord, -, -, rfl⟩ := h
  have hid : record.organizationMemberId = organizationMemberId := hkeyed.organizationMembers _ _ hrecord
  refine ⟨hkeyed.organizationMembers.insert hid, cascade_keyed hkeyed.projectMembers _ _, ?_, hkeyed.invitations⟩
  simp only [cascadeOrganizationMember]
  split
  · exact deleteRoleBindings_keyed hkeyed.roleBindings _
  · exact hkeyed.roleBindings

theorem invitedProjectMember_keyed {memberships : MembershipStore}
    (hkeyed : Keyed (·.projectMemberId) memberships.projectMembers) (invitation : PlatformOrganizationInvitationRecord)
    (member : PlatformOrganizationMembershipRecord) (principalId projectMemberId : String) :
    Keyed (·.projectMemberId)
      (invitedProjectMember memberships invitation member principalId projectMemberId).projectMembers := by
  unfold invitedProjectMember
  split
  · exact hkeyed
  · exact upsertProjectMember_keyed hkeyed _

theorem invitedProjectMember_organizationMembers (memberships : MembershipStore)
    (invitation : PlatformOrganizationInvitationRecord) (member : PlatformOrganizationMembershipRecord)
    (principalId projectMemberId : String) :
    (invitedProjectMember memberships invitation member principalId projectMemberId).organizationMembers =
      memberships.organizationMembers := by
  unfold invitedProjectMember
  split
  · rfl
  · exact upsertProjectMember_organizationMembers _ _

theorem acceptAuthInvitation_keyed (hkeyed : StoreKeyed store)
    (rawToken : String) (nowUnix : Int) (organizationMemberId projectMemberId : String) :
    StoreKeyed (acceptAuthInvitation env store actor rawToken nowUnix organizationMemberId projectMemberId) := by
  unfold acceptAuthInvitation
  split
  · exact hkeyed
  rename_i invitation invitations haccepted
  obtain ⟨before, -, -, hinvitation, hstored, rfl⟩ := acceptedInvitation_ok hkeyed haccepted
  have hinvitations : Keyed (·.invitationId) (store.invitations.insert before.invitationId invitation) := by
    apply hkeyed.invitations.insert
    rw [hinvitation]
    rfl
  have hmembers := upsertOrganizationMember_keyed hkeyed.organizationMembers
    ⟨organizationMemberId, invitation.tenantId, invitation.organizationId, actor.principalId, "user"⟩
  have hprojects := hkeyed.projectMembers
  rw [← upsertOrganizationMember_projectMembers store.memberships ⟨organizationMemberId, invitation.tenantId,
    invitation.organizationId, actor.principalId, "user"⟩] at hprojects
  simp only
  split
  · exact ⟨hmembers, hprojects, hkeyed.roleBindings, hinvitations⟩
  · refine ⟨?_, invitedProjectMember_keyed hprojects _ _ _ _, hkeyed.roleBindings, hinvitations⟩
    rw [invitedProjectMember_organizationMembers]
    exact hmembers

theorem orUnchanged_of {p : AccessStore → Prop} (hstore : p store) {answer : Result AccessStore}
    (hchanged : ∀ changed, answer = .ok changed → p changed) : p (store.orUnchanged answer) := by
  cases answer with
  | error error => exact hstore
  | ok changed => exact hchanged changed rfl

theorem StoreKeyed.call (hkeyed : StoreKeyed store) (request : AccessCall) :
    StoreKeyed (store.call env actor request) := by
  cases request with
  | createRoleBinding request newId =>
    rw [AccessStore.call]
    rcases createRoleBinding_cases env hkeyed actor request newId with hstore | ⟨candidate, -, hcases⟩
    · rw [hstore]
      exact hkeyed
    rcases hcases with ⟨record, -, -, hstore⟩ | hstore
    · rw [hstore]
      exact { hkeyed with roleBindings := hkeyed.roleBindings.insert (reactivated_id record) }
    · rw [hstore]
      exact { hkeyed with roleBindings := hkeyed.roleBindings.insert rfl }
  | updateRoleBindingStatus roleBindingId request =>
    rw [AccessStore.call]
    rcases updateRoleBinding_cases env store actor roleBindingId request with
      hstore | ⟨record, status, hrecord, -, -, hstore⟩
    · rw [hstore]
      exact hkeyed
    · have hid : record.roleBindingId = roleBindingId := hkeyed.roleBindings _ _ hrecord
      rw [hstore]
      exact { hkeyed with roleBindings := hkeyed.roleBindings.insert hid }
  | createOrganizationMember organizationId request newId =>
    simp only [AccessStore.call, createOrganizationMember]
    split
    · exact hkeyed
    · refine ⟨upsertOrganizationMember_keyed hkeyed.organizationMembers _, ?_, hkeyed.roleBindings, hkeyed.invitations⟩
      rw [upsertOrganizationMember_projectMembers]
      exact hkeyed.projectMembers
  | updateOrganizationMemberStatus organizationId organizationMemberId request =>
    refine orUnchanged_of hkeyed fun changed hchanged => ?_
    obtain ⟨status, -, hchange⟩ := updateOrganizationMember_ok hchanged
    exact hchange.keyed hkeyed
  | removeOrganizationMember organizationId organizationMemberId expectedVersion =>
    refine orUnchanged_of hkeyed fun changed hchanged => ?_
    exact (removeOrganizationMember_ok hchanged).keyed hkeyed
  | createProjectMember projectId request newId =>
    simp only [AccessStore.call, createProjectMember]
    split
    · exact hkeyed
    · refine ⟨?_, upsertProjectMember_keyed hkeyed.projectMembers _, hkeyed.roleBindings, hkeyed.invitations⟩
      rw [upsertProjectMember_organizationMembers]
      exact hkeyed.organizationMembers
  | updateProjectMemberStatus projectId projectMemberId request =>
    refine orUnchanged_of hkeyed fun changed hchanged => ?_
    obtain ⟨record, status, hrecord, -, -, -, hmemberships, hinvitations, hbindings⟩ := updateProjectMember_ok hchanged
    have hid : record.projectMemberId = projectMemberId := hkeyed.projectMembers _ _ hrecord
    refine ⟨?_, ?_, ?_, hinvitations ▸ hkeyed.invitations⟩
    · rw [hmemberships]
      exact hkeyed.organizationMembers
    · rw [hmemberships]
      exact hkeyed.projectMembers.insert hid
    · rw [hbindings]
      split
      · exact deleteRoleBindings_keyed hkeyed.roleBindings _
      · exact hkeyed.roleBindings
  | createOrganizationInvitation organizationId request nowUnix newId rawToken =>
    refine orUnchanged_of hkeyed fun changed hchanged => ?_
    obtain ⟨-, invitation, -, -, -, rfl⟩ := createOrganizationInvitation_ok hchanged
    exact { hkeyed with invitations := hkeyed.invitations.insert rfl }
  | acceptAuthInvitation rawToken nowUnix organizationMemberId projectMemberId =>
    exact acceptAuthInvitation_keyed hkeyed rawToken nowUnix organizationMemberId projectMemberId

end Keyed

section Checks

variable (env : PlatformEnv) (store : AccessStore) (actor : AuthenticatedActor)

def OrganizationMemberChecked (organizationId organizationMemberId : String) (expectedVersion : Int) : Prop :=
  ∃ member, organizationMemberForActor store actor organizationId organizationMemberId = .ok member ∧
    authorizeServiceAction store env.grants actor .organizationMemberWrite (organizationMemberResource member) =
      .ok () ∧
    member.resourceVersion = expectedVersion

/-- The request passes the checks that stand before the writes of its handler. -/
def AccessCall.PassesChecks : AccessCall → Prop
  | .createRoleBinding request newId => ∃ candidate, roleBindingCandidate env store actor request newId = .ok candidate
  | .updateRoleBindingStatus roleBindingId request =>
    (∃ status, roleBindingStatusChange env store actor roleBindingId request = .ok status) ∧
      ∃ binding, store.roleBindings.lookup roleBindingId = some binding ∧
        binding.resourceVersion = request.expectedVersion
  | .createOrganizationMember organizationId request newId =>
    ∃ upsert, organizationMemberUpsert env store actor organizationId request newId = .ok upsert ∧
      (findOrdered upsert.sameMember store.memberships.organizationMembers = none →
        validateOrganizationMember upsert.newRecord = .ok ())
  | .updateOrganizationMemberStatus organizationId organizationMemberId request =>
    OrganizationMemberChecked env store actor organizationId organizationMemberId request.expectedVersion ∧
      ∃ status, membershipStatusFromRequest request.status = .ok status
  | .removeOrganizationMember organizationId organizationMemberId expectedVersion =>
    OrganizationMemberChecked env store actor organizationId organizationMemberId expectedVersion
  | .createProjectMember projectId request newId =>
    ∃ upsert, projectMemberUpsert env store actor projectId request newId = .ok upsert ∧
      (findOrdered upsert.sameMember store.memberships.projectMembers = none →
        validateProjectMember upsert.newRecord = .ok ())
  | .updateProjectMemberStatus projectId projectMemberId request =>
    ∃ member status, projectMemberForActor store actor projectId projectMemberId = .ok member ∧
      authorizeServiceAction store env.grants actor .projectMemberWrite (projectMemberResource member) = .ok () ∧
      membershipStatusFromRequest request.status = .ok status ∧ member.resourceVersion = request.expectedVersion
  -- an invitation gives nothing until it is accepted
  | .createOrganizationInvitation .. => True
  | .acceptAuthInvitation rawToken nowUnix organizationMemberId projectMemberId =>
    ∃ accepted, acceptedInvitation env store actor rawToken nowUnix organizationMemberId projectMemberId = .ok accepted

variable {env store actor}

theorem setOrganizationMemberStatus_version {organizationId organizationMemberId : String} {expectedVersion : Int}
    {status : PlatformMembershipStatus} {before : PlatformOrganizationMembershipRecord}
    {result : PlatformOrganizationMembershipRecord × MembershipStore}
    (hbefore : organizationMemberForActor store actor organizationId organizationMemberId = .ok before)
    (h : setOrganizationMemberStatus store organizationMemberId expectedVersion status = .ok result) :
    before.resourceVersion = expectedVersion := by
  obtain ⟨record, hrecord, hversion, -⟩ := updateOrganizationMemberStatus_ok (mapError_ok.mp h)
  cases (organizationMemberForActor_ok hbefore).1.symm.trans hrecord
  exact hversion

theorem updateProjectMember_checked {projectId projectMemberId : String} {request : UpdateStatusRequest}
    {changed : AccessStore} (h : updateProjectMember env store actor projectId projectMemberId request = .ok changed) :
    (AccessCall.updateProjectMemberStatus projectId projectMemberId request).PassesChecks env store actor := by
  obtain ⟨before, hbefore, h⟩ := bind_ok.mp h
  obtain ⟨hauthorized, h⟩ := bind_unit_ok.mp h
  obtain ⟨status, hstatus, h⟩ := bind_ok.mp h
  obtain ⟨result, hset, -⟩ := bind_ok.mp h
  obtain ⟨record, hrecord, hversion, -⟩ := updateProjectMemberStatus_ok (mapError_ok.mp hset)
  cases (projectMemberForActor_ok hbefore).1.symm.trans hrecord
  exact ⟨before, status, hbefore, hauthorized, hstatus, hversion⟩

theorem updateOrganizationMember_checked {organizationId organizationMemberId : String} {request : UpdateStatusRequest}
    {changed : AccessStore}
    (h : updateOrganizationMember env store actor organizationId organizationMemberId request = .ok changed) :
    (AccessCall.updateOrganizationMemberStatus organizationId organizationMemberId request).PassesChecks env store
      actor := by
  obtain ⟨before, hbefore, h⟩ := bind_ok.mp h
  obtain ⟨hauthorized, h⟩ := bind_unit_ok.mp h
  obtain ⟨status, hstatus, h⟩ := bind_ok.mp h
  obtain ⟨result, hset, -⟩ := bind_ok.mp h
  exact ⟨⟨before, hbefore, hauthorized, setOrganizationMemberStatus_version hbefore hset⟩, status, hstatus⟩

theorem removeOrganizationMember_checked {organizationId organizationMemberId : String} {expectedVersion : Int}
    {changed : AccessStore}
    (h : removeOrganizationMember env store actor organizationId organizationMemberId expectedVersion = .ok changed) :
    OrganizationMemberChecked env store actor organizationId organizationMemberId expectedVersion := by
  obtain ⟨before, hbefore, h⟩ := bind_ok.mp h
  obtain ⟨hauthorized, h⟩ := bind_unit_ok.mp h
  obtain ⟨result, hset, -⟩ := bind_ok.mp h
  exact ⟨before, hbefore, hauthorized, setOrganizationMemberStatus_version hbefore hset⟩

/-- A request that fails its checks leaves the stores as they are. -/
theorem call_refused {call : AccessCall} (h : ¬ call.PassesChecks env store actor) :
    store.call env actor call = store := by
  cases call with
  | createRoleBinding request newId =>
    simp only [AccessStore.call, createRoleBinding]
    split
    · rfl
    · rename_i candidate hcandidate
      exact (h ⟨candidate, hcandidate⟩).elim
  | updateRoleBindingStatus roleBindingId request =>
    simp only [AccessStore.call, updateRoleBinding]
    split
    · rfl
    · rename_i status hstatus
      rcases updateRoleBindingStatus_cases store.roleBindings roleBindingId request.expectedVersion status with
        hstore | ⟨binding, hbinding, hversion, -⟩
      · simp only [hstore]
      · exact (h ⟨⟨status, hstatus⟩, binding, hbinding, hversion⟩).elim
  | createOrganizationMember organizationId request newId =>
    simp only [AccessStore.call, createOrganizationMember]
    split
    · rfl
    · rename_i upsert hupsert
      have hfails : ¬ (findOrdered upsert.sameMember store.memberships.organizationMembers = none →
          validateOrganizationMember upsert.newRecord = .ok ()) := fun hchecked => h ⟨upsert, hupsert, hchecked⟩
      obtain ⟨hnone, hinvalid⟩ := Classical.not_imp.mp hfails
      simp only [upsertOrganizationMember, hnone]
      cases hvalid : validateOrganizationMember upsert.newRecord with
      | error error => rfl
      | ok => exact (hinvalid hvalid).elim
  | updateOrganizationMemberStatus organizationId organizationMemberId request =>
    refine orUnchanged_of (p := fun changed => changed = store) rfl fun changed hchanged => ?_
    exact (h (updateOrganizationMember_checked hchanged)).elim
  | removeOrganizationMember organizationId organizationMemberId expectedVersion =>
    refine orUnchanged_of (p := fun changed => changed = store) rfl fun changed hchanged => ?_
    exact (h (removeOrganizationMember_checked hchanged)).elim
  | createProjectMember projectId request newId =>
    simp only [AccessStore.call, createProjectMember]
    split
    · rfl
    · rename_i upsert hupsert
      have hfails : ¬ (findOrdered upsert.sameMember store.memberships.projectMembers = none →
          validateProjectMember upsert.newRecord = .ok ()) := fun hchecked => h ⟨upsert, hupsert, hchecked⟩
      obtain ⟨hnone, hinvalid⟩ := Classical.not_imp.mp hfails
      simp only [upsertProjectMember, hnone]
      cases hvalid : validateProjectMember upsert.newRecord with
      | error error => rfl
      | ok => exact (hinvalid hvalid).elim
  | updateProjectMemberStatus projectId projectMemberId request =>
    refine orUnchanged_of (p := fun changed => changed = store) rfl fun changed hchanged => ?_
    exact (h (updateProjectMember_checked hchanged)).elim
  | createOrganizationInvitation organizationId request nowUnix newId rawToken => exact (h trivial).elim
  | acceptAuthInvitation rawToken nowUnix organizationMemberId projectMemberId =>
    simp only [AccessStore.call, acceptAuthInvitation]
    split
    · rfl
    · rename_i invitation invitations haccepted
      exact (h ⟨_, haccepted⟩).elim

end Checks

end Starweaver.Platform
