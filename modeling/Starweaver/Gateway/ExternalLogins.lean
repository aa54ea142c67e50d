import Starweaver.Gateway.MembershipInvariant

namespace Starweaver.Gateway.Tenancy

open Library.AssocMap Library.Calendar Library.Checks Library.Machine Library.Text

structure ExternalIdentityRecord where
  externalIdentityId : String
  tenantId : String
  principalId : String
  loginProviderId : Option String
  providerKind : String
  providerSubject : String
  email : Option String
  emailVerified : Bool
  status : ResourceStatus
deriving DecidableEq, Repr

/-- The in-memory store with the identities that login providers have vouched for. -/
structure DirectoryStore extends TenancyStore where
  externalIdentities : Index ExternalIdentityRecord

/-- A directory that no external login has reached. -/
def DirectoryStore.fresh (tenancy : TenancyStore) : DirectoryStore := ⟨tenancy, ∅⟩

structure UpsertExternalLoginIdentityRequest where
  tenantId : String
  loginProviderId : String
  providerKind : String
  providerSubject : String
  email : Option String
  emailVerified : Bool
  displayName : String
deriving DecidableEq, Repr

def UpsertExternalLoginIdentityRequest.names (request : UpsertExternalLoginIdentityRequest)
    (identity : ExternalIdentityRecord) : Bool :=
  identity.tenantId == request.tenantId && identity.loginProviderId == some request.loginProviderId &&
    identity.providerKind == request.providerKind && identity.providerSubject == request.providerSubject

section Operations

variable (store : DirectoryStore) (request : UpsertExternalLoginIdentityRequest)

def updateExistingExternalIdentity : Result (Option (UserRecord × ExternalIdentityRecord × DirectoryStore)) :=
  match findValue request.names store.externalIdentities with
  | none => .ok none
  | some (externalIdentityId, identity) =>
    if identity.status ≠ .active then .error .authentication
    else match store.users.lookup identity.principalId with
      | none => .error (.internal "external identity principal is missing")
      | some user =>
        if user.status ≠ .active then .error .authentication
        else
          let updated := { identity with email := request.email, emailVerified := request.emailVerified }
          .ok (some (user, updated,
            { store with externalIdentities := store.externalIdentities.insert externalIdentityId updated }))

def upsertExternalLoginIdentity (userId externalIdentityId : String) :
    Result (UserRecord × ExternalIdentityRecord × Bool × DirectoryStore) :=
  if trim request.providerSubject = "" ∨ trim request.displayName = "" then
    .error (.badRequest "external_login_claims_invalid")
  else do
    match ← updateExistingExternalIdentity store request with
    | some (user, identity, store) => .ok (user, identity, false, store)
    | none =>
      let user : UserRecord :=
        { userId
          tenantId := request.tenantId
          defaultOrganizationId := none
          defaultProjectId := none
          primaryEmail := request.email
          displayName := trim request.displayName
          status := .active
          resourceVersion := 1 }
      let identity : ExternalIdentityRecord :=
        { externalIdentityId
          tenantId := request.tenantId
          principalId := userId
          loginProviderId := some request.loginProviderId
          providerKind := request.providerKind
          providerSubject := request.providerSubject
          email := request.email
          emailVerified := request.emailVerified
          status := .active }
      .ok (user, identity, true,
        { store with
          users := store.users.insert userId user
          externalIdentities := store.externalIdentities.insert externalIdentityId identity })

end Operations

inductive DirectoryAction
  | externalLogin (request : UpsertExternalLoginIdentityRequest) (userId externalIdentityId : String)
  | insertAuthSession (session : AuthSessionRecord)
  | createOrganizationInvitation (call : AdminCall) (organizationId : String)
      (request : AdminCreateOrganizationInvitationRequest) (requestHash invitationId rawToken : String)
  | acceptAuthInvitation (headers : HeaderMap) (token : String) (now : DateTime)
      (organizationMemberId projectMemberId : String)

/-- One call. The ids that an external login draws are not in use. -/
def directoryStep (env : AuthEnv) (store : DirectoryStore) : DirectoryAction → Option DirectoryStore
  | .externalLogin request userId externalIdentityId =>
    if (store.users.lookup userId).isSome ∨ (store.externalIdentities.lookup externalIdentityId).isSome then none
    else match upsertExternalLoginIdentity store request userId externalIdentityId with
      | .error _ => some store
      | .ok (_, _, _, store) => some store
  | .insertAuthSession session =>
    some { store with authSessions := store.authSessions.insert session.sessionHash session }
  | .createOrganizationInvitation call organizationId request requestHash invitationId rawToken =>
    let tenancy := (createOrganizationInvitation env store.toTenancyStore call organizationId request requestHash
      invitationId rawToken).2
    some { store with toTenancyStore := tenancy }
  | .acceptAuthInvitation headers token now organizationMemberId projectMemberId =>
    let tenancy := (acceptAuthInvitation env store.toTenancyStore headers token now organizationMemberId
      projectMemberId).2
    some { store with toTenancyStore := tenancy }

/-- The users that were not there at the beginning are those that external logins have created. -/
def InvitationsVerified (initial : TenancyStore) (store : DirectoryStore) : Prop :=
  ∀ session invitation email, initial.users.lookup session.principalId = none →
    invitation.invitedEmail = some email → invitation.invitedPrincipalId ≠ some session.principalId →
    verifySessionMatchesInvitation store.toTenancyStore session invitation = .ok () →
    ∃ id identity, store.externalIdentities.lookup id = some identity ∧ identity.principalId = session.principalId ∧
      identity.status = .active ∧ identity.email.bind normalizedEmail = some email ∧ identity.emailVerified = true

/-- The login carries the address with the provider's word for it. -/
def UpsertExternalLoginIdentityRequest.Verifies (request : UpsertExternalLoginIdentityRequest) (email : String) : Prop :=
  request.email.bind normalizedEmail = some email ∧ request.emailVerified = true

/-- A login that creates a user verifies the address it brings, and a later login of the same subject verifies the
address that the user was created with. -/
def LoginsVerify (store : DirectoryStore) : DirectoryAction → Prop
  | .externalLogin request userId externalIdentityId =>
    store.users.lookup userId = none → store.externalIdentities.lookup externalIdentityId = none →
      trim request.providerSubject ≠ "" → trim request.displayName ≠ "" →
      match findValue request.names store.externalIdentities with
      | none => ∀ email, request.email.bind normalizedEmail = some email → request.Verifies email
      | some (_, identity) => ∀ user email, store.users.lookup identity.principalId = some user →
          user.primaryEmail.bind normalizedEmail = some email → request.Verifies email
  | _ => True

/-- Each user that a login has created is active and has one identity, which is active. -/
structure IdentitiesLinked (initial : TenancyStore) (store : DirectoryStore) : Prop where
  kept : ∀ userId, store.users.lookup userId = none → initial.users.lookup userId = none
  created : ∀ userId user, initial.users.lookup userId = none → store.users.lookup userId = some user →
    user.status = .active ∧
      ∃ id identity, store.externalIdentities.lookup id = some identity ∧ identity.principalId = userId
  stored : ∀ id identity, store.externalIdentities.lookup id = some identity →
    identity.status = .active ∧ initial.users.lookup identity.principalId = none ∧
      (store.users.lookup identity.principalId).isSome
  apart : ∀ id identity otherId other, store.externalIdentities.lookup id = some identity →
    store.externalIdentities.lookup otherId = some other → identity.principalId = other.principalId → id = otherId
  named : ∀ request : UpsertExternalLoginIdentityRequest, ∀ id identity otherId other,
    store.externalIdentities.lookup id = some identity → store.externalIdentities.lookup otherId = some other →
    request.names identity = true → request.names other = true → id = otherId

section Runs

variable {initial : TenancyStore} {store next : DirectoryStore}

theorem IdentitiesLinked.fresh (tenancy : TenancyStore) : IdentitiesLinked tenancy (.fresh tenancy) := by
  refine ⟨fun userId h => h, fun userId user hnone hsome => ?_, fun id identity h => ?_,
    fun id identity otherId other h => ?_, fun request id identity otherId other h => ?_⟩
  · cases hnone.symm.trans hsome
  · cases h
  · cases h
  · cases h

/-- The order in which the identities are searched does not matter. -/
theorem IdentitiesLinked.found_iff (h : IdentitiesLinked initial store) {request : UpsertExternalLoginIdentityRequest}
    {id : String} {identity : ExternalIdentityRecord} :
    findValue request.names store.externalIdentities = some (id, identity) ↔
      store.externalIdentities.lookup id = some identity ∧ request.names identity = true := by
  constructor
  · exact findValue_some
  · rintro ⟨hlookup, hnamed⟩
    cases hsearched : findValue request.names store.externalIdentities with
    | none =>
      rw [findValue_none hsearched hlookup] at hnamed
      cases hnamed
    | some found =>
      obtain ⟨otherId, other⟩ := found
      obtain ⟨hother, hnamed'⟩ := findValue_some hsearched
      have hsame := h.named request otherId other id identity hother hlookup hnamed' hnamed
      subst hsame
      cases hother.symm.trans hlookup
      rfl

theorem UpsertExternalLoginIdentityRequest.names_congr {request other : UpsertExternalLoginIdentityRequest}
    {first second : ExternalIdentityRecord} (hfirst : request.names first = true) (hsecond : request.names second = true)
    (hother : other.names first = true) : other.names second = true := by
  simp only [UpsertExternalLoginIdentityRequest.names, Bool.and_eq_true, beq_iff_eq] at hfirst hsecond hother ⊢
  obtain ⟨⟨⟨htenant, hprovider⟩, hkind⟩, hsubject⟩ := hother
  rw [hfirst.1.1.1] at htenant
  rw [hfirst.1.1.2] at hprovider
  rw [hfirst.1.2] at hkind
  rw [hfirst.2] at hsubject
  exact ⟨⟨⟨hsecond.1.1.1.trans htenant, hsecond.1.1.2.trans hprovider⟩, hsecond.1.2.trans hkind⟩,
    hsecond.2.trans hsubject⟩

theorem verifySessionMatchesInvitation_ok_iff {tenancy : TenancyStore} {session : AuthSessionRecord}
    {invitation : OrganizationInvitationRecord} {email : String} (hemail : invitation.invitedEmail = some email)
    (hprincipal : invitation.invitedPrincipalId ≠ some session.principalId) :
    verifySessionMatchesInvitation tenancy session invitation = .ok () ↔
      session.tenantId = invitation.tenantId ∧ ∃ user, tenancy.users.lookup session.principalId = some user ∧
        user.primaryEmail.bind normalizedEmail = some email := by
  unfold verifySessionMatchesInvitation
  rw [hemail, if_neg hprincipal]
  by_cases htenant : session.tenantId = invitation.tenantId
  · rw [if_neg (not_not.mpr htenant)]
    cases huser : tenancy.users.lookup session.principalId with
    | none => simp
    | some user =>
      by_cases hmatch : user.primaryEmail.bind normalizedEmail = some email
      · simp [htenant, hmatch]
      · simp [hmatch]
  · simp [htenant]

theorem IdentitiesLinked.verified_iff (h : IdentitiesLinked initial store) : InvitationsVerified initial store ↔
    ∀ id identity user email, store.externalIdentities.lookup id = some identity →
      store.users.lookup identity.principalId = some user → user.primaryEmail.bind normalizedEmail = some email →
      identity.email.bind normalizedEmail = some email ∧ identity.emailVerified = true := by
  constructor
  · intro hverified id identity user email hidentity huser hemail
    let session : AuthSessionRecord := ⟨"", "", identity.principalId, none, none, "", .active, ⟨0⟩⟩
    let invitation : OrganizationInvitationRecord := ⟨"", "", "", none, some email, none, "", "", .pending, ⟨0⟩, 1⟩
    have hmatches : verifySessionMatchesInvitation store.toTenancyStore session invitation = .ok () :=
      (verifySessionMatchesInvitation_ok_iff rfl (by simp [invitation])).mpr ⟨rfl, user, huser, hemail⟩
    obtain ⟨otherId, other, hother, hprincipal, -, hnormal, hword⟩ :=
      hverified session invitation email (h.stored id identity hidentity).2.1 rfl (by simp [invitation]) hmatches
    have hsame := h.apart otherId other id identity hother hidentity hprincipal
    subst hsame
    cases hother.symm.trans hidentity
    exact ⟨hnormal, hword⟩
  · intro hverified session invitation email hnone hinvited hprincipal hmatches
    obtain ⟨-, user, huser, hemail⟩ := (verifySessionMatchesInvitation_ok_iff hinvited hprincipal).mp hmatches
    obtain ⟨-, id, identity, hidentity, howner⟩ := h.created _ user hnone huser
    rw [← howner] at huser ⊢
    obtain ⟨hnormal, hword⟩ := hverified id identity user email hidentity huser hemail
    exact ⟨id, identity, hidentity, rfl, (h.stored id identity hidentity).1, hnormal, hword⟩

theorem InvitationsVerified.fresh (tenancy : TenancyStore) : InvitationsVerified tenancy (.fresh tenancy) := by
  refine (IdentitiesLinked.fresh tenancy).verified_iff.mpr fun id identity user email hidentity => ?_
  cases hidentity

def UserRecord.claims (user : UserRecord) : Option String × DirectoryStatus := (user.primaryEmail, user.status)

/-- The calls around an invitation leave the addresses and the statuses of the users as they are. -/
def SameClaims (s t : TenancyStore) : Prop :=
  ∀ userId, (t.users.lookup userId).map UserRecord.claims = (s.users.lookup userId).map UserRecord.claims

theorem SameClaims.of_users {s t : TenancyStore} (h : t.users = s.users) : SameClaims s t := fun userId => by rw [h]

theorem createOrganizationInvitation_users (env : AuthEnv) (tenancy : TenancyStore) (call : AdminCall)
    (organizationId : String) (request : AdminCreateOrganizationInvitationRequest)
    (requestHash invitationId rawToken : String) :
    (createOrganizationInvitation env tenancy call organizationId request requestHash invitationId rawToken).2.users =
      tenancy.users := by
  unfold createOrganizationInvitation
  split
  · rfl
  have hsame := idempotencyResponse_same tenancy call.actor.tenantId
    s!"organization_invitations:create:{organizationId}:{request.idempotencyKey}" requestHash call.now
  simp only
  generalize tenancy.idempotencyResponse _ _ _ _ = looked at hsame ⊢
  obtain ⟨response, kept⟩ := looked
  match response with
  | .error error => exact hsame.users
  | .ok true => exact hsame.users
  | .ok false =>
    simp only
    split
    · exact hsame.users
    · exact hsame.users

theorem repairUserDefaults_sameClaims (tenancy : TenancyStore) (invitation : OrganizationInvitationRecord)
    (principalId : String) :
    SameClaims tenancy (repairUserDefaultsAfterInviteAccept tenancy invitation principalId) := by
  intro userId
  unfold repairUserDefaultsAfterInviteAccept
  split
  · rfl
  rename_i user huser
  simp only
  by_cases heq : userId = principalId
  · subst heq
    rw [AList.lookup_insert, huser]
    rfl
  · rw [AList.lookup_insert_ne heq]

theorem acceptOrganizationInvitation_sameClaims {tenancy accepted : TenancyStore}
    {invitationId principalId organizationMemberId projectMemberId : String} {now : DateTime}
    {invitation : OrganizationInvitationRecord}
    (hok : acceptOrganizationInvitation tenancy invitationId principalId now organizationMemberId projectMemberId =
      .ok (invitation, accepted)) : SameClaims tenancy accepted := by
  unfold acceptOrganizationInvitation at hok
  split at hok
  · cases hok
  split at hok
  · cases hok
  cases hok
  intro userId
  rw [repairUserDefaults_sameClaims]
  split <;> rfl

theorem updateSessionActiveContextByHash_users (tenancy : TenancyStore) (sessionHash : String)
    (activeOrganizationId activeProjectId : Option String) (now : DateTime) :
    (updateSessionActiveContextByHash tenancy sessionHash activeOrganizationId activeProjectId now).2.users =
      tenancy.users := by
  unfold updateSessionActiveContextByHash
  split
  · rfl
  split <;> rfl

theorem acceptAuthInvitation_sameClaims (env : AuthEnv) (tenancy : TenancyStore) (headers : HeaderMap) (token : String)
    (now : DateTime) (organizationMemberId projectMemberId : String) :
    SameClaims tenancy
      (acceptAuthInvitation env tenancy headers token now organizationMemberId projectMemberId).2 := by
  unfold acceptAuthInvitation
  split
  · exact .of_users rfl
  rename_i session invitation accepted hok
  obtain ⟨_, -, hok⟩ := bind_ok.mp hok
  obtain ⟨_, -, hok⟩ := bind_ok.mp hok
  obtain ⟨_, -, hok⟩ := bind_ok.mp hok
  obtain ⟨⟨_, kept⟩, haccepted, hok⟩ := bind_ok.mp hok
  cases hok
  have husers := updateSessionActiveContextByHash_users accepted session.sessionHash (some invitation.organizationId)
    invitation.projectId now
  have hsame : SameClaims tenancy (updateSessionActiveContextByHash accepted session.sessionHash
      (some invitation.organizationId) invitation.projectId now).2 := by
    intro userId
    rw [husers]
    exact acceptOrganizationInvitation_sameClaims haccepted userId
  split
  · rename_i hcontext
    rwa [hcontext] at hsame
  · rename_i hcontext
    rwa [hcontext] at hsame

section Invitations

variable {tenancy : TenancyStore}

theorem SameClaims.lookup (hsame : SameClaims store.toTenancyStore tenancy) {userId : String} {user : UserRecord}
    (huser : tenancy.users.lookup userId = some user) : ∃ before, store.users.lookup userId = some before ∧
      before.primaryEmail = user.primaryEmail ∧ before.status = user.status := by
  have hclaims := hsame userId
  rw [huser, Option.map_some, eq_comm] at hclaims
  obtain ⟨before, hbefore, heq⟩ := Option.map_eq_some_iff.mp hclaims
  simp only [UserRecord.claims, Prod.mk.injEq] at heq
  exact ⟨before, hbefore, heq⟩

theorem SameClaims.isSome (hsame : SameClaims store.toTenancyStore tenancy) (userId : String) :
    (tenancy.users.lookup userId).isSome = (store.users.lookup userId).isSome := by
  have hclaims := congrArg Option.isSome (hsame userId)
  rwa [Option.isSome_map, Option.isSome_map] at hclaims

theorem IdentitiesLinked.of_sameClaims (h : IdentitiesLinked initial store)
    (hsame : SameClaims store.toTenancyStore tenancy) :
    IdentitiesLinked initial { store with toTenancyStore := tenancy } := by
  refine ⟨fun userId hnone => ?_, fun userId user hnone huser => ?_, fun id identity hidentity => ?_, h.apart, h.named⟩
  · have hsome := hsame.isSome userId
    rw [hnone, Option.isSome_none, eq_comm, Option.isSome_eq_false_iff, Option.isNone_iff_eq_none] at hsome
    exact h.kept userId hsome
  · obtain ⟨before, hbefore, -, hstatus⟩ := hsame.lookup huser
    rw [← hstatus]
    exact h.created userId before hnone hbefore
  · obtain ⟨hactive, hnone, hsome⟩ := h.stored id identity hidentity
    exact ⟨hactive, hnone, by rw [hsame.isSome]; exact hsome⟩

theorem InvitationsVerified.of_sameClaims (hverified : InvitationsVerified initial store)
    (h : IdentitiesLinked initial store) (hsame : SameClaims store.toTenancyStore tenancy) :
    InvitationsVerified initial { store with toTenancyStore := tenancy } := by
  refine (h.of_sameClaims hsame).verified_iff.mpr fun id identity user email hidentity huser hemail => ?_
  obtain ⟨before, hbefore, hprimary, -⟩ := hsame.lookup huser
  rw [← hprimary] at hemail
  exact h.verified_iff.mp hverified id identity before email hidentity hbefore hemail

end Invitations

section Logins

variable {request : UpsertExternalLoginIdentityRequest} {userId identityId : String}

/-- What the first login of a subject has done. -/
structure UserCreated (store : DirectoryStore) (request : UpsertExternalLoginIdentityRequest)
    (userId identityId : String) (next : DirectoryStore) : Prop where
  user : ∃ user : UserRecord, user.primaryEmail = request.email ∧ user.status = .active ∧
    next.users = store.users.insert userId user
  identity : ∃ identity : ExternalIdentityRecord, identity.principalId = userId ∧ identity.status = .active ∧
    identity.email = request.email ∧ identity.emailVerified = request.emailVerified ∧ request.names identity = true ∧
    next.externalIdentities = store.externalIdentities.insert identityId identity

/-- What a later login of the subject has done. -/
structure IdentityUpdated (store : DirectoryStore) (request : UpsertExternalLoginIdentityRequest) (id : String)
    (identity : ExternalIdentityRecord) (next : DirectoryStore) : Prop where
  lookup : store.externalIdentities.lookup id = some identity
  users : next.users = store.users
  identities : next.externalIdentities = store.externalIdentities.insert id
    { identity with email := request.email, emailVerified := request.emailVerified }

theorem upsertExternalLoginIdentity_created (userId identityId : String)
    (hsubject : trim request.providerSubject ≠ "") (hname : trim request.displayName ≠ "") (hnew : findValue request.names store.externalIdentities = none) :
    ∃ user identity created, upsertExternalLoginIdentity store request userId identityId =
      .ok (user, identity, true, created) ∧ UserCreated store request userId identityId created := by
  unfold upsertExternalLoginIdentity updateExistingExternalIdentity
  rw [if_neg (by simp [hsubject, hname]), hnew]
  exact ⟨_, _, _, rfl, ⟨_, rfl, rfl, rfl⟩, ⟨_, rfl, rfl, rfl, rfl, by
    simp [UpsertExternalLoginIdentityRequest.names], rfl⟩⟩

theorem upsertExternalLoginIdentity_updated (userId identityId : String) (h : IdentitiesLinked initial store)
    (hsubject : trim request.providerSubject ≠ "") (hname : trim request.displayName ≠ "") {id : String}
    {identity : ExternalIdentityRecord}
    (hfound : findValue request.names store.externalIdentities = some (id, identity)) :
    ∃ user updated changed, upsertExternalLoginIdentity store request userId identityId =
      .ok (user, updated, false, changed) ∧ IdentityUpdated store request id identity changed := by
  have hidentity := (findValue_some hfound).1
  obtain ⟨hactive, hnone, hsome⟩ := h.stored id identity hidentity
  obtain ⟨user, huser⟩ := Option.isSome_iff_exists.mp hsome
  have hstatus := (h.created _ user hnone huser).1
  unfold upsertExternalLoginIdentity updateExistingExternalIdentity
  rw [if_neg (by simp [hsubject, hname]), hfound]
  simp only [hactive, huser, hstatus, ne_eq, not_true_eq_false, if_false]
  exact ⟨_, _, _, rfl, hidentity, rfl, by simp only [hactive]⟩

theorem UserCreated.identity_cases (hcreated : UserCreated store request userId identityId next) {id : String}
    {identity : ExternalIdentityRecord} (hlookup : next.externalIdentities.lookup id = some identity) :
    id = identityId ∧ identity.principalId = userId ∧ identity.status = .active ∧ identity.email = request.email ∧
        identity.emailVerified = request.emailVerified ∧ request.names identity = true ∨
      id ≠ identityId ∧ store.externalIdentities.lookup id = some identity := by
  obtain ⟨entered, howner, hactive, hemail, hword, hnamed, hidentities⟩ := hcreated.identity
  rw [hidentities] at hlookup
  rcases insert_some hlookup with ⟨rfl, rfl⟩ | ⟨hother, hstored⟩
  · exact .inl ⟨rfl, howner, hactive, hemail, hword, hnamed⟩
  · exact .inr ⟨hother, hstored⟩

theorem IdentitiesLinked.principal_ne (h : IdentitiesLinked initial store) (huser : store.users.lookup userId = none)
    {id : String} {identity : ExternalIdentityRecord}
    (hlookup : store.externalIdentities.lookup id = some identity) : identity.principalId ≠ userId := by
  rintro rfl
  have hstored := (h.stored id identity hlookup).2.2
  rw [huser] at hstored
  cases hstored

theorem UserCreated.linked (hcreated : UserCreated store request userId identityId next)
    (h : IdentitiesLinked initial store) (hnew : findValue request.names store.externalIdentities = none)
    (huser : store.users.lookup userId = none)
    (hidentity : store.externalIdentities.lookup identityId = none) : IdentitiesLinked initial next := by
  obtain ⟨user, -, hactive, husers⟩ := hcreated.user
  obtain ⟨identity, howner, -, -, -, -, hidentities⟩ := hcreated.identity
  have hold {id : String} {found : ExternalIdentityRecord} (hfound : store.externalIdentities.lookup id = some found) :
      next.externalIdentities.lookup id = some found := by
    have hother : id ≠ identityId := by
      rintro rfl
      cases hidentity.symm.trans hfound
    rw [hidentities, AList.lookup_insert_ne hother, hfound]
  refine ⟨fun id hnone => ?_, fun id found hnone hfound => ?_, fun id found hfound => ?_,
    fun id found otherId other hfound hother hsame => ?_,
    fun login id found otherId other hfound hother hmine htheirs => ?_⟩
  · rw [husers] at hnone
    by_cases heq : id = userId
    · rw [heq]
      exact h.kept userId huser
    · rw [AList.lookup_insert_ne heq] at hnone
      exact h.kept id hnone
  · rw [husers] at hfound
    rcases insert_some hfound with ⟨rfl, rfl⟩ | ⟨-, hstored⟩
    · exact ⟨hactive, identityId, identity, by rw [hidentities, AList.lookup_insert], howner⟩
    · obtain ⟨hstatus, otherId, other, hother, hprincipal⟩ := h.created id found hnone hstored
      exact ⟨hstatus, otherId, other, hold hother, hprincipal⟩
  · rw [husers]
    rcases hcreated.identity_cases hfound with ⟨-, rfl, hstatus, -⟩ | ⟨-, hstored⟩
    · exact ⟨hstatus, h.kept _ huser, by rw [AList.lookup_insert, Option.isSome_some]⟩
    · obtain ⟨hstatus, hnone, hsome⟩ := h.stored id found hstored
      rw [AList.lookup_insert_ne (h.principal_ne huser hstored)]
      exact ⟨hstatus, hnone, hsome⟩
  · rcases hcreated.identity_cases hfound with ⟨rfl, hmine, -⟩ | ⟨-, hstored⟩
    · rcases hcreated.identity_cases hother with ⟨rfl, -⟩ | ⟨-, hstored⟩
      · rfl
      · exact absurd (hsame.symm.trans hmine) (h.principal_ne huser hstored)
    · rcases hcreated.identity_cases hother with ⟨rfl, hmine, -⟩ | ⟨-, hstored'⟩
      · exact absurd (hsame.trans hmine) (h.principal_ne huser hstored)
      · exact h.apart id found otherId other hstored hstored' hsame
  · have hunknown {id : String} {known entered : ExternalIdentityRecord}
        (hknown : store.externalIdentities.lookup id = some known) (hentered : request.names entered = true)
        (hlogin : login.names entered = true) (hlogin' : login.names known = true) : False := by
      have hnamed := UpsertExternalLoginIdentityRequest.names_congr hlogin hlogin' hentered
      rw [findValue_none hnew hknown] at hnamed
      cases hnamed
    rcases hcreated.identity_cases hfound with ⟨rfl, -, -, -, -, hnamed⟩ | ⟨-, hstored⟩
    · rcases hcreated.identity_cases hother with ⟨rfl, -⟩ | ⟨-, hstored⟩
      · rfl
      · exact (hunknown hstored hnamed hmine htheirs).elim
    · rcases hcreated.identity_cases hother with ⟨rfl, -, -, -, -, hnamed⟩ | ⟨-, hstored'⟩
      · exact (hunknown hstored hnamed htheirs hmine).elim
      · exact h.named login id found otherId other hstored hstored' hmine htheirs

theorem UserCreated.verified_iff (hcreated : UserCreated store request userId identityId next)
    (h : IdentitiesLinked initial store) (hverified : InvitationsVerified initial store)
    (hnew : findValue request.names store.externalIdentities = none) (huser : store.users.lookup userId = none) (hidentity : store.externalIdentities.lookup identityId = none) :
    InvitationsVerified initial next ↔
      ∀ email, request.email.bind normalizedEmail = some email → request.Verifies email := by
  obtain ⟨user, hprimary, -, husers⟩ := hcreated.user
  rw [(hcreated.linked h hnew huser hidentity).verified_iff, husers]
  constructor
  · intro hall email hemail
    obtain ⟨identity, howner, -, hrequest, hword, -, hidentities⟩ := hcreated.identity
    rw [← hprimary] at hemail
    have hmine := hall identityId identity user email (by rw [hidentities, AList.lookup_insert])
      (by rw [howner, AList.lookup_insert]) hemail
    rwa [hrequest, hword] at hmine
  · intro hrequest id identity found email hfound hlookup hemail
    rcases hcreated.identity_cases hfound with ⟨-, howner, -, hmail, hword, -⟩ | ⟨-, hstored⟩
    · rw [howner, AList.lookup_insert, Option.some.injEq] at hlookup
      rw [← hlookup, hprimary] at hemail
      rw [hmail, hword]
      exact hrequest email hemail
    · rw [AList.lookup_insert_ne (h.principal_ne huser hstored)] at hlookup
      exact h.verified_iff.mp hverified id identity found email hstored hlookup hemail

theorem IdentityUpdated.identity_cases {id : String} {identity : ExternalIdentityRecord}
    (hupdated : IdentityUpdated store request id identity next) {otherId : String} {other : ExternalIdentityRecord}
    (hother : next.externalIdentities.lookup otherId = some other) :
    otherId = id ∧ other = { identity with email := request.email, emailVerified := request.emailVerified } ∨
      otherId ≠ id ∧ store.externalIdentities.lookup otherId = some other := by
  rw [hupdated.identities] at hother
  exact insert_some hother

/-- A later login changes neither whom an identity belongs to, nor whether it is in force, nor what names it. -/
theorem IdentityUpdated.before {id : String} {identity : ExternalIdentityRecord}
    (hupdated : IdentityUpdated store request id identity next) {otherId : String} {other : ExternalIdentityRecord}
    (hother : next.externalIdentities.lookup otherId = some other) :
    ∃ before, store.externalIdentities.lookup otherId = some before ∧ before.principalId = other.principalId ∧
      before.status = other.status ∧ ∀ login : UpsertExternalLoginIdentityRequest,
        login.names before = login.names other := by
  rcases hupdated.identity_cases hother with ⟨rfl, rfl⟩ | ⟨-, hstored⟩
  · exact ⟨identity, hupdated.lookup, rfl, rfl, fun _ => rfl⟩
  · exact ⟨other, hstored, rfl, rfl, fun _ => rfl⟩

theorem IdentityUpdated.linked {id : String} {identity : ExternalIdentityRecord}
    (hupdated : IdentityUpdated store request id identity next) (h : IdentitiesLinked initial store) :
    IdentitiesLinked initial next := by
  refine ⟨fun userId hnone => ?_, fun userId user hnone huser => ?_, fun otherId other hother => ?_,
    fun firstId first secondId second hfirst hsecond hsame => ?_,
    fun login firstId first secondId second hfirst hsecond hnamed hnamed' => ?_⟩
  · rw [hupdated.users] at hnone
    exact h.kept userId hnone
  · rw [hupdated.users] at huser
    obtain ⟨hstatus, otherId, other, hother, howner⟩ := h.created userId user hnone huser
    refine ⟨hstatus, otherId, ?_⟩
    rw [hupdated.identities]
    by_cases heq : otherId = id
    · subst heq
      cases hother.symm.trans hupdated.lookup
      exact ⟨_, AList.lookup_insert _, howner⟩
    · exact ⟨other, by rw [AList.lookup_insert_ne heq, hother], howner⟩
  · obtain ⟨before, hbefore, howner, hstatus, -⟩ := hupdated.before hother
    rw [hupdated.users, ← howner, ← hstatus]
    exact h.stored otherId before hbefore
  · obtain ⟨before, hbefore, howner, -⟩ := hupdated.before hfirst
    obtain ⟨before', hbefore', howner', -⟩ := hupdated.before hsecond
    exact h.apart firstId before secondId before' hbefore hbefore' (howner.trans (hsame.trans howner'.symm))
  · obtain ⟨before, hbefore, -, -, hnames⟩ := hupdated.before hfirst
    obtain ⟨before', hbefore', -, -, hnames'⟩ := hupdated.before hsecond
    exact h.named login firstId before secondId before' hbefore hbefore' ((hnames login).trans hnamed)
      ((hnames' login).trans hnamed')

theorem IdentityUpdated.verified_iff {id : String} {identity : ExternalIdentityRecord}
    (hupdated : IdentityUpdated store request id identity next) (h : IdentitiesLinked initial store)
    (hverified : InvitationsVerified initial store) :
    InvitationsVerified initial next ↔ ∀ user email, store.users.lookup identity.principalId = some user →
      user.primaryEmail.bind normalizedEmail = some email → request.Verifies email := by
  rw [(hupdated.linked h).verified_iff, hupdated.users]
  constructor
  · intro hall user email huser hemail
    have hmine : next.externalIdentities.lookup id =
        some { identity with email := request.email, emailVerified := request.emailVerified } := by
      rw [hupdated.identities, AList.lookup_insert]
    exact hall id _ user email hmine huser hemail
  · intro hrequest otherId other user email hother huser hemail
    rcases hupdated.identity_cases hother with ⟨-, rfl⟩ | ⟨-, hstored⟩
    · exact hrequest user email huser hemail
    · exact h.verified_iff.mp hverified otherId other user email hstored huser hemail

/-- What an external login does with ids that are not in use. -/
inductive LoginOutcome (store : DirectoryStore) (request : UpsertExternalLoginIdentityRequest)
    (userId identityId : String) (next : DirectoryStore) : Prop
  | refused (hblank : trim request.providerSubject = "" ∨ trim request.displayName = "") (hsame : next = store)
  | created (hsubject : trim request.providerSubject ≠ "") (hname : trim request.displayName ≠ "")
      (hnew : findValue request.names store.externalIdentities = none)
      (hcreated : UserCreated store request userId identityId next)
  | updated (hsubject : trim request.providerSubject ≠ "") (hname : trim request.displayName ≠ "") {id : String}
      {identity : ExternalIdentityRecord}
      (hfound : findValue request.names store.externalIdentities = some (id, identity))
      (hupdated : IdentityUpdated store request id identity next)

theorem directoryStep_externalLogin {env : AuthEnv} (h : IdentitiesLinked initial store)
    (huser : store.users.lookup userId = none) (hidentity : store.externalIdentities.lookup identityId = none) :
    ∃ next, directoryStep env store (.externalLogin request userId identityId) = some next ∧
      LoginOutcome store request userId identityId next := by
  simp only [directoryStep, huser, hidentity, Option.isSome_none, Bool.false_eq_true, or_self, if_false]
  by_cases hblank : trim request.providerSubject = "" ∨ trim request.displayName = ""
  · have hrefused : upsertExternalLoginIdentity store request userId identityId =
        .error (.badRequest "external_login_claims_invalid") := by
      unfold upsertExternalLoginIdentity
      rw [if_pos hblank]
    rw [hrefused]
    exact ⟨store, rfl, .refused hblank rfl⟩
  · obtain ⟨hsubject, hname⟩ := not_or.mp hblank
    cases hsearched : findValue request.names store.externalIdentities with
    | none =>
      obtain ⟨user, identity, next, hok, hcreated⟩ :=
        upsertExternalLoginIdentity_created userId identityId hsubject hname hsearched
      rw [hok]
      exact ⟨next, rfl, .created hsubject hname hsearched hcreated⟩
    | some found =>
      obtain ⟨id, identity⟩ := found
      obtain ⟨user, updated, next, hok, hupdated⟩ :=
        upsertExternalLoginIdentity_updated userId identityId h hsubject hname hsearched
      rw [hok]
      exact ⟨next, rfl, .updated hsubject hname hsearched hupdated⟩

theorem directoryStep_loginFresh {env : AuthEnv}
    (hstep : directoryStep env store (.externalLogin request userId identityId) = some next) :
    store.users.lookup userId = none ∧ store.externalIdentities.lookup identityId = none := by
  simp only [directoryStep] at hstep
  split at hstep
  · cases hstep
  rename_i hfresh
  rwa [not_or, Option.not_isSome_iff_eq_none, Option.not_isSome_iff_eq_none] at hfresh

end Logins

theorem directoryStep_linked {env : AuthEnv} {action : DirectoryAction} (h : IdentitiesLinked initial store)
    (hstep : directoryStep env store action = some next) : IdentitiesLinked initial next := by
  cases action with
  | externalLogin request userId identityId =>
    obtain ⟨huser, hidentity⟩ := directoryStep_loginFresh hstep
    obtain ⟨other, hother, houtcome⟩ := directoryStep_externalLogin h huser hidentity
    cases hother.symm.trans hstep
    cases houtcome with
    | refused _ hsame => rwa [hsame]
    | created _ _ hnew hcreated => exact hcreated.linked h hnew huser hidentity
    | updated _ _ _ hupdated => exact hupdated.linked h
  | insertAuthSession session =>
    rw [← Option.some.inj hstep]
    exact h.of_sameClaims (.of_users rfl)
  | createOrganizationInvitation call organizationId request requestHash invitationId rawToken =>
    rw [← Option.some.inj hstep]
    exact h.of_sameClaims (.of_users (createOrganizationInvitation_users env _ _ _ _ _ _ _))
  | acceptAuthInvitation headers token now organizationMemberId projectMemberId =>
    rw [← Option.some.inj hstep]
    exact h.of_sameClaims (acceptAuthInvitation_sameClaims env _ _ _ _ _ _)

theorem directoryStep_verified_iff {env : AuthEnv} (h : IdentitiesLinked initial store)
    (hverified : InvitationsVerified initial store) (action : DirectoryAction) :
    (∀ next, directoryStep env store action = some next → InvitationsVerified initial next) ↔
      LoginsVerify store action := by
  cases action with
  | externalLogin request userId identityId =>
    by_cases hfresh : store.users.lookup userId = none ∧ store.externalIdentities.lookup identityId = none
    · obtain ⟨huser, hidentity⟩ := hfresh
      obtain ⟨next, hnext, houtcome⟩ :=
        @directoryStep_externalLogin initial store request userId identityId env h huser hidentity
      simp only [hnext, Option.some.injEq, forall_eq', LoginsVerify, huser, hidentity, true_implies]
      cases houtcome with
      | refused hblank hsame =>
        rw [hsame]
        refine iff_of_true hverified fun hsubject hname => ?_
        rcases hblank with hblank | hblank
        · exact absurd hblank hsubject
        · exact absurd hblank hname
      | created hsubject hname hnew hcreated =>
        rw [hcreated.verified_iff h hverified hnew huser hidentity, hnew]
        simp only [hsubject, hname, ne_eq, not_false_eq_true, true_implies]
      | updated hsubject hname hfound hupdated =>
        rw [hupdated.verified_iff h hverified, hfound]
        simp only [hsubject, hname, ne_eq, not_false_eq_true, true_implies]
    · refine iff_of_true (fun next hstep => ?_) fun huser hidentity => ?_
      · exact absurd (directoryStep_loginFresh hstep) hfresh
      · exact absurd ⟨huser, hidentity⟩ hfresh
  | insertAuthSession session =>
    refine iff_of_true (fun next hstep => ?_) trivial
    rw [← Option.some.inj hstep]
    exact hverified.of_sameClaims h (.of_users rfl)
  | createOrganizationInvitation call organizationId request requestHash invitationId rawToken =>
    refine iff_of_true (fun next hstep => ?_) trivial
    rw [← Option.some.inj hstep]
    exact hverified.of_sameClaims h (.of_users (createOrganizationInvitation_users env _ _ _ _ _ _ _))
  | acceptAuthInvitation headers token now organizationMemberId projectMemberId =>
    refine iff_of_true (fun next hstep => ?_) trivial
    rw [← Option.some.inj hstep]
    exact hverified.of_sameClaims h (acceptAuthInvitation_sameClaims env _ _ _ _ _ _)

/-- Email invitations are matched to verified addresses, in every state of a run, exactly when every login verifies the
address that its user was created with. -/
theorem emailInvitations_verified_iff (env : AuthEnv) (tenancy : TenancyStore) (actions : List DirectoryAction) :
    (∀ prior, prior <+: actions → ∀ reached, run (directoryStep env) (.fresh tenancy) prior = some reached →
      InvitationsVerified tenancy reached) ↔
    Meets (directoryStep env) LoginsVerify (.fresh tenancy) actions :=
  (meets_iff_reached (fun _ _ _ h hstep => directoryStep_linked h hstep)
    (fun _ action h hverified => directoryStep_verified_iff h hverified action) (IdentitiesLinked.fresh tenancy)
    (InvitationsVerified.fresh tenancy) actions).symm

end Runs

section Examples

def bootstrapped : TenancyStore := (bootstrapDefaultProject .empty sampleBootstrap).2

def aliceLogin (email : String) : UpsertExternalLoginIdentityRequest :=
  ⟨"ten_1", "lp_1", "oidc", "subject-1", some email, true, "Alice"⟩

def aliceSession : AuthSessionRecord :=
  ⟨"sess_2", "ten_1", "usr_2", none, none, "sha256:sws_2", .active, ⟨3600⟩⟩

def inviteFormerAddress : AdminCreateOrganizationInvitationRequest :=
  ⟨"invite_1", none, some "alice@former.example", none, none, none⟩

/-- A subject whose address has changed is invited under the former one. -/
def changedAddress : List DirectoryAction :=
  [.externalLogin (aliceLogin "alice@former.example") "usr_2" "xid_1",
    .externalLogin (aliceLogin "alice@current.example") "usr_3" "xid_2", .insertAuthSession aliceSession,
    .createOrganizationInvitation ownerCall "org_1" inviteFormerAddress "hash_1" "inv_1" "gwinv_1"]

theorem changedAddress_accepted :
    ∃ reached invitation, run (directoryStep sampleAuthEnv) (.fresh bootstrapped) changedAddress = some reached ∧
      reached.organizationInvitations.lookup "inv_1" = some invitation ∧
      invitation.invitedEmail = some "alice@former.example" ∧
      verifySessionMatchesInvitation reached.toTenancyStore aliceSession invitation = .ok () ∧
      ¬ InvitationsVerified bootstrapped reached := by
  obtain ⟨reached, hrun⟩ : ∃ reached, run (directoryStep sampleAuthEnv) (.fresh bootstrapped) changedAddress =
      some reached := ⟨_, rfl⟩
  have hlinked : IdentitiesLinked bootstrapped reached :=
    run_invariant_always (fun _ _ _ h hstep => directoryStep_linked h hstep) (IdentitiesLinked.fresh bootstrapped) hrun
  cases hrun
  refine ⟨_, _, rfl, rfl, rfl, rfl, fun hverified => ?_⟩
  have hmatches := (hlinked.verified_iff.mp hverified "xid_1" _ _ "alice@former.example" rfl rfl rfl).1
  exact absurd hmatches (by decide)

end Examples

end Starweaver.Gateway.Tenancy
