import Starweaver.Gateway.SessionContextRuns
import Starweaver.Gateway.SessionAgreement

/-! A session that a logout or the suspension of its user has ended is never accepted again. -/

namespace Starweaver.Gateway.Tenancy

open Library.AssocMap Library.Calendar Library.Checks Library.Machine Library.Text

/-- What a call leaves of the users and of the sessions, and what it may add. -/
structure SessionsStep (s t : TenancyStore) : Prop where
  users : ∀ id user, s.users.lookup id = some user →
    ∃ kept, t.users.lookup id = some kept ∧ kept.userId = user.userId ∧ kept.tenantId = user.tenantId
  created : ∀ id user, t.users.lookup id = some user → s.users.lookup id = none → user.userId = id
  sessions : ∀ sessionHash session, s.authSessions.lookup sessionHash = some session →
    ∃ kept, t.authSessions.lookup sessionHash = some kept ∧ kept.sessionHash = session.sessionHash ∧
      kept.principalId = session.principalId ∧ kept.tenantId = session.tenantId ∧
      (kept.status = .active → session.status = .active)
  opened : ∀ sessionHash session, t.authSessions.lookup sessionHash = some session →
    s.authSessions.lookup sessionHash = none → session.sessionHash = sessionHash ∧
      ∃ user, t.users.lookup session.principalId = some user ∧ user.tenantId = session.tenantId

/-- Users and sessions are stored under their own names, and a session is one of a user of its tenant. -/
structure SessionsLinked (s : TenancyStore) : Prop where
  user_named : ∀ id user, s.users.lookup id = some user → user.userId = id
  session_named : ∀ sessionHash session, s.authSessions.lookup sessionHash = some session →
    session.sessionHash = sessionHash
  owned : ∀ sessionHash session, s.authSessions.lookup sessionHash = some session →
    ∃ user, s.users.lookup session.principalId = some user ∧ user.tenantId = session.tenantId

/-- The session is there and may no longer authenticate. -/
def Ended (s : TenancyStore) (sessionHash : String) : Prop :=
  ∃ session, s.authSessions.lookup sessionHash = some session ∧ session.status ≠ .active

section Writes

variable {s t u : TenancyStore}

theorem SessionsLinked.step (h : SessionsLinked s) (hstep : SessionsStep s t) : SessionsLinked t where
  user_named id user huser := by
    cases hbefore : s.users.lookup id with
    | none => exact hstep.created id user huser hbefore
    | some old =>
      obtain ⟨kept, hkept, hname, -⟩ := hstep.users id old hbefore
      cases hkept.symm.trans huser
      rw [hname]
      exact h.user_named id old hbefore
  session_named sessionHash session hsession := by
    cases hbefore : s.authSessions.lookup sessionHash with
    | none => exact (hstep.opened sessionHash session hsession hbefore).1
    | some old =>
      obtain ⟨kept, hkept, hname, -⟩ := hstep.sessions sessionHash old hbefore
      cases hkept.symm.trans hsession
      rw [hname]
      exact h.session_named sessionHash old hbefore
  owned sessionHash session hsession := by
    cases hbefore : s.authSessions.lookup sessionHash with
    | none => exact (hstep.opened sessionHash session hsession hbefore).2
    | some old =>
      obtain ⟨kept, hkept, -, hprincipal, htenant, -⟩ := hstep.sessions sessionHash old hbefore
      cases hkept.symm.trans hsession
      obtain ⟨user, huser, hown⟩ := h.owned sessionHash old hbefore
      obtain ⟨keptUser, hkeptUser, -, hsame⟩ := hstep.users _ user huser
      rw [hprincipal, htenant]
      exact ⟨keptUser, hkeptUser, hsame.trans hown⟩

theorem SessionsStep.of_same (husers : t.users = s.users) (hsessions : t.authSessions = s.authSessions) :
    SessionsStep s t where
  users id user huser := ⟨user, husers ▸ huser, rfl, rfl⟩
  created id user huser hnone := by
    rw [husers, hnone] at huser
    cases huser
  sessions sessionHash session hsession := ⟨session, hsessions ▸ hsession, rfl, rfl, rfl, id⟩
  opened sessionHash session hsession hnone := by
    rw [hsessions, hnone] at hsession
    cases hsession

theorem SessionsStep.refl (s : TenancyStore) : SessionsStep s s := .of_same rfl rfl

theorem SessionsStep.trans (hfirst : SessionsStep s t) (hsecond : SessionsStep t u) : SessionsStep s u where
  users id user huser := by
    obtain ⟨mid, hmid, hname, htenant⟩ := hfirst.users id user huser
    obtain ⟨kept, hkept, hname', htenant'⟩ := hsecond.users id mid hmid
    exact ⟨kept, hkept, hname'.trans hname, htenant'.trans htenant⟩
  created id user huser hnone := by
    cases hmid : t.users.lookup id with
    | none => exact hsecond.created id user huser hmid
    | some mid =>
      obtain ⟨kept, hkept, hname, -⟩ := hsecond.users id mid hmid
      cases hkept.symm.trans huser
      rw [hname]
      exact hfirst.created id mid hmid hnone
  sessions sessionHash session hsession := by
    obtain ⟨mid, hmid, hname, hprincipal, htenant, hactive⟩ := hfirst.sessions sessionHash session hsession
    obtain ⟨kept, hkept, hname', hprincipal', htenant', hactive'⟩ := hsecond.sessions sessionHash mid hmid
    exact ⟨kept, hkept, hname'.trans hname, hprincipal'.trans hprincipal, htenant'.trans htenant,
      fun h => hactive (hactive' h)⟩
  opened sessionHash session hsession hnone := by
    cases hmid : t.authSessions.lookup sessionHash with
    | none => exact hsecond.opened sessionHash session hsession hmid
    | some mid =>
      obtain ⟨kept, hkept, hname, hprincipal, htenant, -⟩ := hsecond.sessions sessionHash mid hmid
      cases hkept.symm.trans hsession
      obtain ⟨hmidName, user, huser, hown⟩ := hfirst.opened sessionHash mid hmid hnone
      obtain ⟨keptUser, hkeptUser, -, hsame⟩ := hsecond.users _ user huser
      rw [hname, hprincipal, htenant]
      exact ⟨hmidName, keptUser, hkeptUser, hsame.trans hown⟩

theorem SessionsStep.ended (h : SessionsStep s t) {sessionHash : String} (hended : Ended s sessionHash) :
    Ended t sessionHash := by
  obtain ⟨session, hsession, hstatus⟩ := hended
  obtain ⟨kept, hkept, -, -, -, hactive⟩ := h.sessions sessionHash session hsession
  exact ⟨kept, hkept, fun h => hstatus (hactive h)⟩

theorem SessionsStep.put_session {sessionHash : String} {old session : AuthSessionRecord}
    (hold : s.authSessions.lookup sessionHash = some old) (hname : session.sessionHash = old.sessionHash)
    (hprincipal : session.principalId = old.principalId) (htenant : session.tenantId = old.tenantId)
    (hactive : session.status = .active → old.status = .active) :
    SessionsStep s { s with authSessions := s.authSessions.insert sessionHash session } where
  users id user huser := ⟨user, huser, rfl, rfl⟩
  created id user huser hnone := by cases huser.symm.trans hnone
  sessions otherHash other hother := by
    by_cases heq : otherHash = sessionHash
    · subst heq
      cases hold.symm.trans hother
      exact ⟨session, AList.lookup_insert _, hname, hprincipal, htenant, hactive⟩
    · exact ⟨other, by rw [AList.lookup_insert_ne heq]; exact hother, rfl, rfl, rfl, id⟩
  opened otherHash other hother hnone := by
    rcases insert_some hother with ⟨rfl, -⟩ | ⟨-, hbefore⟩
    · cases hold.symm.trans hnone
    · cases hbefore.symm.trans hnone

theorem SessionsStep.put_user {userId : String} {old user : UserRecord} (hold : s.users.lookup userId = some old)
    (hname : user.userId = old.userId) (htenant : user.tenantId = old.tenantId) :
    SessionsStep s { s with users := s.users.insert userId user } where
  users id other hother := by
    by_cases heq : id = userId
    · subst heq
      cases hold.symm.trans hother
      exact ⟨user, AList.lookup_insert _, hname, htenant⟩
    · exact ⟨other, by rw [AList.lookup_insert_ne heq]; exact hother, rfl, rfl⟩
  created id other hother hnone := by
    rcases insert_some hother with ⟨rfl, -⟩ | ⟨-, hbefore⟩
    · cases hold.symm.trans hnone
    · cases hbefore.symm.trans hnone
  sessions sessionHash session hsession := ⟨session, hsession, rfl, rfl, rfl, id⟩
  opened sessionHash session hsession hnone := by cases hsession.symm.trans hnone

theorem SessionsStep.create_user {user : UserRecord} (hfresh : s.users.lookup user.userId = none) :
    SessionsStep s { s with users := s.users.insert user.userId user } where
  users id other hother := by
    have hne : id ≠ user.userId := by
      rintro rfl
      cases hfresh.symm.trans hother
    exact ⟨other, by rw [AList.lookup_insert_ne hne]; exact hother, rfl, rfl⟩
  created id other hother hnone := by
    rcases insert_some hother with ⟨rfl, rfl⟩ | ⟨-, hbefore⟩
    · rfl
    · cases hbefore.symm.trans hnone
  sessions sessionHash session hsession := ⟨session, hsession, rfl, rfl, rfl, id⟩
  opened sessionHash session hsession hnone := by cases hsession.symm.trans hnone

theorem SessionsStep.open_session {session : AuthSessionRecord} {user : UserRecord}
    (hfresh : s.authSessions.lookup session.sessionHash = none) (huser : s.users.lookup session.principalId = some user)
    (htenant : user.tenantId = session.tenantId) :
    SessionsStep s { s with authSessions := s.authSessions.insert session.sessionHash session } where
  users id other hother := ⟨other, hother, rfl, rfl⟩
  created id other hother hnone := by cases hother.symm.trans hnone
  sessions sessionHash other hother := by
    have hne : sessionHash ≠ session.sessionHash := by
      rintro rfl
      cases hfresh.symm.trans hother
    exact ⟨other, by rw [AList.lookup_insert_ne hne]; exact hother, rfl, rfl, rfl, id⟩
  opened sessionHash other hother hnone := by
    rcases insert_some hother with ⟨rfl, rfl⟩ | ⟨-, hbefore⟩
    · exact ⟨rfl, user, huser, htenant⟩
    · cases hbefore.symm.trans hnone

theorem revokeSessionsForPrincipal_step (s : TenancyStore) (tenantId principalId : String) :
    SessionsStep s (s.revokeSessionsForPrincipal tenantId principalId) where
  users id user huser := ⟨user, huser, rfl, rfl⟩
  created id user huser hnone := by cases huser.symm.trans hnone
  sessions sessionHash session hsession := by
    refine ⟨_, by rw [TenancyStore.revokeSessionsForPrincipal, lookup_mapValues, hsession]; rfl, ?_⟩
    dsimp only
    split
    · exact ⟨rfl, rfl, rfl, nofun⟩
    · exact ⟨rfl, rfl, rfl, id⟩
  opened sessionHash session hsession hnone := by
    rw [TenancyStore.revokeSessionsForPrincipal, lookup_mapValues, hnone] at hsession
    cases hsession

end Writes

section Steps

variable {env : AuthEnv} {s t : TenancyStore}

theorem updateSessionActiveContextByHash_step (s : TenancyStore) (sessionHash : String)
    (organizationId projectId : Option String) (now : DateTime) :
    SessionsStep s (updateSessionActiveContextByHash s sessionHash organizationId projectId now).2 := by
  unfold updateSessionActiveContextByHash
  split
  · exact .refl s
  · rename_i session hsession
    split
    · exact .refl s
    · exact .put_session hsession rfl rfl rfl id

theorem revokeSessionByHash_step (s : TenancyStore) (sessionHash : String) :
    SessionsStep s (revokeSessionByHash s sessionHash).2 := by
  unfold revokeSessionByHash
  split
  · exact .refl s
  · rename_i session hsession
    exact .put_session hsession rfl rfl rfl nofun

theorem bootstrapDefaultProject_step (request : BootstrapDefaultProjectRequest) :
    SessionsStep s (bootstrapDefaultProject s request).2 := by
  unfold bootstrapDefaultProject
  dsimp only
  split
  · exact .refl s
  · refine ⟨fun id user huser => ⟨user, lookup_orInsert_of_some huser, rfl, rfl⟩, fun id user huser hnone => ?_,
      fun sessionHash session hsession => ⟨session, hsession, rfl, rfl, rfl, id⟩,
      fun sessionHash session hsession hnone => ?_⟩
    · rcases orInsert_some huser with hold | ⟨rfl, rfl, -⟩
      · cases hold.symm.trans hnone
      · rfl
    · cases hsession.symm.trans hnone

theorem createOrganizationInvitation_step (call : AdminCall) (organizationId : String)
    (request : AdminCreateOrganizationInvitationRequest) (requestHash invitationId rawToken : String) :
    SessionsStep s
      (createOrganizationInvitation env s call organizationId request requestHash invitationId rawToken).2 := by
  refine .of_same (createOrganizationInvitation_users env s call organizationId request requestHash invitationId
    rawToken) ?_
  unfold createOrganizationInvitation
  split
  · rfl
  have hsame : (s.idempotencyResponse call.actor.tenantId
      s!"organization_invitations:create:{organizationId}:{request.idempotencyKey}" requestHash
      call.now).2.authSessions = s.authSessions := by
    unfold TenancyStore.idempotencyResponse
    split
    · rfl
    · split
      · rfl
      · split
        · rfl
        · rfl
  dsimp only
  generalize s.idempotencyResponse _ _ _ _ = looked at hsame ⊢
  obtain ⟨response, store⟩ := looked
  match response with
  | .error error => exact hsame
  | .ok true => exact hsame
  | .ok false =>
    dsimp only
    split
    · exact hsame
    · exact hsame

theorem repairUserDefaults_step (s : TenancyStore) (invitation : OrganizationInvitationRecord) (principalId : String) :
    SessionsStep s (repairUserDefaultsAfterInviteAccept s invitation principalId) := by
  unfold repairUserDefaultsAfterInviteAccept
  split
  · exact .refl s
  · rename_i user huser
    exact .put_user huser rfl rfl

theorem acceptOrganizationInvitation_step {invitationId principalId organizationMemberId projectMemberId : String}
    {now : DateTime} {invitation : OrganizationInvitationRecord}
    (hok : acceptOrganizationInvitation s invitationId principalId now organizationMemberId projectMemberId =
      .ok (invitation, t)) : SessionsStep s t := by
  unfold acceptOrganizationInvitation at hok
  split at hok
  · cases hok
  split at hok
  · cases hok
  cases hok
  refine .trans ?_ (repairUserDefaults_step _ _ principalId)
  split
  · exact .of_same rfl rfl
  · exact .of_same rfl rfl

theorem acceptAuthInvitation_step (headers : HeaderMap) (token : String) (now : DateTime)
    (organizationMemberId projectMemberId : String) :
    SessionsStep s (acceptAuthInvitation env s headers token now organizationMemberId projectMemberId).2 := by
  unfold acceptAuthInvitation
  split
  · exact .refl s
  rename_i session accepted stored hok
  obtain ⟨_, -, hok⟩ := bind_ok.mp hok
  obtain ⟨_, -, hok⟩ := bind_ok.mp hok
  obtain ⟨_, -, hok⟩ := bind_ok.mp hok
  obtain ⟨⟨_, _⟩, haccepted, hok⟩ := bind_ok.mp hok
  cases hok
  have hafter := (acceptOrganizationInvitation_step haccepted).trans
    (updateSessionActiveContextByHash_step stored session.sessionHash (some accepted.organizationId) accepted.projectId
      now)
  split
  · rename_i hupdated
    rw [hupdated] at hafter
    exact hafter
  · rename_i hupdated
    rw [hupdated] at hafter
    exact hafter

theorem updateSessionDefaultOrganization_step (headers : HeaderMap) (now : DateTime) (organizationId : String)
    (projectId : Option String) :
    SessionsStep s (updateSessionDefaultOrganization env s headers now organizationId projectId).2 := by
  unfold updateSessionDefaultOrganization
  split
  · exact .refl s
  split
  · exact .refl s
  rename_i stored hstored
  refine .trans ?_ (updateSessionActiveContextByHash_step stored _ _ _ now)
  unfold updateUserDefaultContext at hstored
  split at hstored
  · cases hstored
  · rename_i user huser
    cases hstored
    exact .put_user huser rfl rfl

theorem updateUser_step {call : AdminCall} {userId : String} {expectedVersion : Int} {status : DirectoryStatus}
    {user : UserRecord} (hok : updateUser s call userId expectedVersion status = .ok (user, t)) : SessionsStep s t := by
  unfold updateUser at hok
  obtain ⟨_, -, hok⟩ := bind_ok.mp hok
  obtain ⟨_, -, hok⟩ := bind_ok.mp hok
  obtain ⟨_, -, hok⟩ := bind_ok.mp hok
  obtain ⟨⟨updated, stored⟩, hstored, hok⟩ := bind_ok.mp hok
  unfold updateUserStatus at hstored
  obtain ⟨⟨record, users⟩, hrecord, hstored⟩ := bind_ok.mp hstored
  cases hstored
  obtain ⟨old, hold, -, hupdated, rfl⟩ := updateRecord_ok hrecord
  have hput : SessionsStep s { s with users := s.users.insert userId updated } :=
    .put_user hold (by rw [hupdated]) (by rw [hupdated])
  dsimp only at hok
  split at hok
  · cases hok
    exact hput
  · cases hok
    exact hput.trans (revokeSessionsForPrincipal_step _ call.actor.tenantId user.userId)

theorem updateOrganization_step {call : AdminCall} {organizationId : String} {expectedVersion : Int}
    {status : DirectoryStatus} {organization : OrganizationRecord}
    (hok : updateOrganization s call organizationId expectedVersion status = .ok (organization, t)) :
    SessionsStep s t := by
  unfold updateOrganization at hok
  obtain ⟨_, -, hok⟩ := bind_ok.mp hok
  obtain ⟨_, -, hok⟩ := bind_ok.mp hok
  unfold updateOrganizationStatus at hok
  obtain ⟨⟨record, organizations⟩, -, hok⟩ := bind_ok.mp hok
  cases hok
  exact .of_same rfl rfl

theorem updateProject_step {call : AdminCall} {projectId : String} {expectedVersion : Int}
    {status : DirectoryStatus} {project : ProjectRecord}
    (hok : updateProject s call projectId expectedVersion status = .ok (project, t)) : SessionsStep s t := by
  unfold updateProject at hok
  obtain ⟨_, -, hok⟩ := bind_ok.mp hok
  obtain ⟨_, -, hok⟩ := bind_ok.mp hok
  unfold updateProjectStatus at hok
  obtain ⟨⟨record, projects⟩, -, hok⟩ := bind_ok.mp hok
  cases hok
  exact .of_same rfl rfl

theorem orKeep_step {α : Type} {result : Result (α × TenancyStore)}
    (h : ∀ value t, result = .ok (value, t) → SessionsStep s t) : SessionsStep s (s.orKeep Prod.snd result) := by
  cases result with
  | error error => exact .refl s
  | ok updated => exact h updated.1 updated.2 rfl

theorem upsertExternalLoginIdentity_step {store next : DirectoryStore} {request : UpsertExternalLoginIdentityRequest}
    {userId externalIdentityId : String} {user : UserRecord} {identity : ExternalIdentityRecord} {created : Bool}
    (hlinked : SessionsLinked store.toTenancyStore) (hfresh : store.users.lookup userId = none)
    (hok : upsertExternalLoginIdentity store request userId externalIdentityId = .ok (user, identity, created, next)) :
    SessionsStep store.toTenancyStore next.toTenancyStore ∧ next.authSessions = store.authSessions ∧
      next.users.lookup user.userId = some user := by
  unfold upsertExternalLoginIdentity at hok
  split at hok
  · cases hok
  obtain ⟨found, hfound, hok⟩ := bind_ok.mp hok
  cases found with
  | none =>
    cases hok
    let user : UserRecord :=
      ⟨userId, request.tenantId, none, none, request.email, trim request.displayName, .active, 1⟩
    have hcreated : SessionsStep store.toTenancyStore { store.toTenancyStore with
        users := store.users.insert user.userId user } := .create_user hfresh
    exact ⟨hcreated, rfl, AList.lookup_insert _⟩
  | some known =>
    cases hok
    unfold updateExistingExternalIdentity at hfound
    split at hfound
    · cases hfound
    split at hfound
    · cases hfound
    split at hfound
    · cases hfound
    rename_i known huser
    split at hfound
    · cases hfound
    cases hfound
    refine ⟨.of_same rfl rfl, rfl, ?_⟩
    rw [hlinked.user_named _ known huser]
    exact huser

theorem externalLoginSession_step {store next : DirectoryStore} {request : UpsertExternalLoginIdentityRequest}
    {userId externalIdentityId authSessionId rawToken : String} {now : DateTime}
    (hlinked : SessionsLinked store.toTenancyStore)
    (hnext : externalLoginSession env store request userId externalIdentityId authSessionId rawToken now = some next) :
    SessionsStep store.toTenancyStore next.toTenancyStore := by
  unfold externalLoginSession at hnext
  split at hnext
  · cases hnext
  rename_i hdrawn
  simp only [not_or, Bool.not_eq_true, Option.isSome_eq_false_iff, Option.isNone_iff_eq_none] at hdrawn
  split at hnext
  · cases hnext
    exact .refl _
  rename_i user identity created stored hok
  obtain ⟨hkept, hsessions, huser⟩ := upsertExternalLoginIdentity_step hlinked hdrawn.1 hok
  split at hnext
  · cases hnext
    exact hkept
  · cases hnext
    refine hkept.trans (.open_session ?_ huser rfl)
    rw [hsessions]
    exact hdrawn.2.2

theorem contextStep_sessions {store next : DirectoryStore} {action : ContextAction}
    (hlinked : SessionsLinked store.toTenancyStore) (hstep : contextStep env store action = some next) :
    SessionsStep store.toTenancyStore next.toTenancyStore := by
  cases action with
  | bootstrapDefaultProject request =>
    cases hstep
    exact bootstrapDefaultProject_step request
  | externalLogin => exact externalLoginSession_step hlinked hstep
  | createOrganizationInvitation call organizationId request requestHash invitationId rawToken =>
    cases hstep
    exact createOrganizationInvitation_step call organizationId request requestHash invitationId rawToken
  | acceptAuthInvitation headers token now organizationMemberId projectMemberId =>
    cases hstep
    exact acceptAuthInvitation_step headers token now organizationMemberId projectMemberId
  | updateSessionDefaultOrganization headers now organizationId projectId =>
    cases hstep
    exact updateSessionDefaultOrganization_step headers now organizationId projectId
  | updateSessionActiveOrganization headers now organizationId projectId =>
    cases hstep
    unfold updateSessionActiveOrganization
    split
    · exact .refl _
    · exact updateSessionActiveContextByHash_step _ _ _ _ now
  | updateSessionActiveProject headers now projectId =>
    cases hstep
    unfold updateSessionActiveProject
    split
    · exact .refl _
    · exact updateSessionActiveContextByHash_step _ _ _ _ now
  | logoutCurrentAuthSession headers now =>
    cases hstep
    unfold logoutCurrentAuthSession
    split
    · exact .refl _
    · exact revokeSessionByHash_step _ _
  | updateUser =>
    cases hstep
    exact orKeep_step fun _ _ hok => updateUser_step hok
  | updateOrganization =>
    cases hstep
    exact orKeep_step fun _ _ hok => updateOrganization_step hok
  | updateProject =>
    cases hstep
    exact orKeep_step fun _ _ hok => updateProject_step hok
  | changeMemberships memberships =>
    cases hstep
    exact .of_same rfl rfl

/-- A call that ends the session: the logout of its holder, or an update that takes the access of its user. -/
def Ends (env : AuthEnv) (s : TenancyStore) (sessionHash : String) : ContextAction → Prop
  | .logoutCurrentAuthSession headers now =>
    ∃ session, verifyMutatingAuthSessionFromHeaders env s headers now = .ok session ∧ session.sessionHash = sessionHash
  | .updateUser call userId expectedVersion status =>
    ∃ user t session, updateUser s call userId expectedVersion status = .ok (user, t) ∧
      user.status.acceptsAccess = false ∧ s.authSessions.lookup sessionHash = some session ∧
      session.principalId = userId
  | _ => False

theorem verifyMutatingAuthSessionFromHeaders_stored {headers : HeaderMap} {now : DateTime} {session : AuthSessionRecord}
    (h : verifyMutatingAuthSessionFromHeaders env s headers now = .ok session) :
    s.authSessions.lookup session.sessionHash = some session := by
  obtain ⟨verified, hverified, h⟩ := bind_ok.mp h
  have hsame : verified = session := by
    split at h
    · split at h
      · exact Except.ok.inj h
      · cases h
    · cases h
  subst hsame
  obtain ⟨token, -, hverified⟩ := bind_ok.mp hverified
  split at hverified
  · cases hverified
  obtain ⟨found, hfound, hverified⟩ := bind_ok.mp hverified
  have hsame : found = verified := by
    split at hverified
    · cases hverified
    · split at hverified
      · cases hverified
      · exact Except.ok.inj hverified
  subst hsame
  unfold verifySessionToken at hfound
  split at hfound
  · cases hfound
  dsimp only at hfound
  split at hfound
  · cases hfound
  rename_i stored hstored
  split at hfound
  · cases hfound
  rename_i hnamed
  cases hfound
  rw [not_or, not_ne_iff] at hnamed
  rw [hnamed.1]
  exact hstored

theorem updateUser_ended (hlinked : SessionsLinked s) {call : AdminCall} {userId sessionHash : String}
    {expectedVersion : Int} {status : DirectoryStatus} {user : UserRecord} {session : AuthSessionRecord}
    (hok : updateUser s call userId expectedVersion status = .ok (user, t)) (haccess : user.status.acceptsAccess = false)
    (hsession : s.authSessions.lookup sessionHash = some session) (hprincipal : session.principalId = userId) :
    Ended t sessionHash := by
  unfold updateUser at hok
  obtain ⟨_, -, hok⟩ := bind_ok.mp hok
  obtain ⟨_, -, hok⟩ := bind_ok.mp hok
  obtain ⟨owner, howner, hok⟩ := bind_ok.mp hok
  obtain ⟨⟨updated, stored⟩, hstored, hok⟩ := bind_ok.mp hok
  unfold updateUserStatus at hstored
  obtain ⟨⟨record, users⟩, hrecord, hstored⟩ := bind_ok.mp hstored
  cases hstored
  obtain ⟨old, hold, -, hupdated, rfl⟩ := updateRecord_ok hrecord
  dsimp only at hok
  split at hok
  · rename_i haccepts
    cases hok
    rw [haccess] at haccepts
    cases haccepts
  cases hok
  -- The session is one of the user that the caller has found in its own tenant.
  obtain ⟨other, hother, htenant⟩ := hlinked.owned sessionHash session hsession
  rw [hprincipal] at hother
  cases hold.symm.trans hother
  unfold userForActor at howner
  split at howner
  · cases howner
  rename_i found hfound
  cases howner
  obtain ⟨hlookup, hcaller⟩ := Option.filter_eq_some_iff.mp hfound
  cases hold.symm.trans hlookup
  have hnamed : user.userId = session.principalId := by
    rw [hupdated, hprincipal]
    exact hlinked.user_named userId owner hold
  refine ⟨_, by rw [TenancyStore.revokeSessionsForPrincipal, lookup_mapValues, hsession]; rfl, ?_⟩
  dsimp only
  by_cases hactive : session.status = .active
  · rw [if_pos ⟨htenant.symm.trans (by simpa using hcaller), hnamed.symm, hactive⟩]
    nofun
  · rw [if_neg (fun h => hactive h.2.2)]
    exact hactive

theorem ends_ended {store next : DirectoryStore} (hlinked : SessionsLinked store.toTenancyStore) {sessionHash : String}
    {action : ContextAction} (hends : Ends env store.toTenancyStore sessionHash action)
    (hstep : contextStep env store action = some next) : Ended next.toTenancyStore sessionHash := by
  cases action with
  | logoutCurrentAuthSession headers now =>
    obtain ⟨session, hverified, rfl⟩ := hends
    cases hstep
    have hstored := verifyMutatingAuthSessionFromHeaders_stored hverified
    simp only [logoutCurrentAuthSession, hverified, revokeSessionByHash, hstored]
    exact ⟨_, AList.lookup_insert _, nofun⟩
  | updateUser call userId expectedVersion status =>
    obtain ⟨user, t, session, hok, haccess, hsession, hprincipal⟩ := hends
    cases hstep
    rw [hok]
    exact updateUser_ended hlinked hok haccess hsession hprincipal
  | _ => cases hends

theorem Ended.verifySessionToken {sessionHash token : String} (h : Ended s sessionHash)
    (hhash : env.sessionTokenHash token = sessionHash) (now : DateTime) :
    verifySessionToken env s token now = .error .authentication := by
  obtain ⟨session, hsession, hstatus⟩ := h
  have hrefused : session.canAuthenticateAt now = false := by
    cases hcases : session.status with
    | active => exact absurd hcases hstatus
    | revoked => simp [AuthSessionRecord.canAuthenticateAt, hcases, AuthSessionStatus.acceptsAuthentication]
    | expired => simp [AuthSessionRecord.canAuthenticateAt, hcases, AuthSessionStatus.acceptsAuthentication]
  unfold Tenancy.verifySessionToken
  rw [hhash]
  split
  · rfl
  · simp [hsession, hrefused]

end Steps

theorem SessionsLinked.empty : SessionsLinked .empty := by
  constructor
  all_goals
    intro _ _ h
    cases h

theorem run_sessions {env : AuthEnv} {actions : List ContextAction} {store final : DirectoryStore}
    (hlinked : SessionsLinked store.toTenancyStore) (hrun : run (contextStep env) store actions = some final) :
    SessionsLinked final.toTenancyStore ∧ SessionsStep store.toTenancyStore final.toTenancyStore := by
  induction actions generalizing store with
  | nil =>
    cases hrun
    exact ⟨hlinked, .refl _⟩
  | cons action actions ih =>
    obtain ⟨next, hstep, hrest⟩ := run_cons hrun
    have hnext := contextStep_sessions hlinked hstep
    obtain ⟨hfinal, hlater⟩ := ih (hlinked.step hnext) hrest
    exact ⟨hfinal, hnext.trans hlater⟩

/-- No later request with the token of a session that a call has ended is accepted, whatever is called in between. -/
theorem endedSession_refused {env : AuthEnv} {before after : List ContextAction} {s final : DirectoryStore}
    {action : ContextAction} {sessionHash token : String} {headers : HeaderMap}
    (hbefore : run (contextStep env) (.fresh .empty) before = some s)
    (hends : Ends env s.toTenancyStore sessionHash action)
    (hafter : run (contextStep env) s (action :: after) = some final) (htoken : bearerToken headers = .ok token)
    (hhash : env.sessionTokenHash token = sessionHash) (now : DateTime) :
    verifySessionToken env final.toTenancyStore token now = .error .authentication ∧
      verifyAuthSessionFromHeaders env final.toTenancyStore headers now = .error .authentication ∧
      (startsWith token sessionTokenPrefix = true → ∀ requestId traceId,
        authenticateRequest env final.toTenancyStore headers requestId traceId now =
          (.error .authentication, final.toTenancyStore)) := by
  have hlinked := (run_sessions .empty hbefore).1
  obtain ⟨next, hstep, hrest⟩ := run_cons hafter
  have hended := ends_ended hlinked hends hstep
  have hnext := hlinked.step (contextStep_sessions hlinked hstep)
  have hrefused := ((run_sessions hnext hrest).2.ended hended).verifySessionToken hhash now
  refine ⟨hrefused, ?_, fun hsession requestId traceId => ?_⟩
  · unfold verifyAuthSessionFromHeaders
    rw [htoken]
    change (if !startsWith token sessionTokenPrefix then _ else _) = _
    split
    · rfl
    · rw [hrefused]
      rfl
  · unfold authenticateRequest
    rw [htoken]
    dsimp only
    rw [if_pos hsession, hrefused]
    rfl

def sampleLoginRequest : UpsertExternalLoginIdentityRequest :=
  ⟨"ten_1", "lp_1", "oidc", "subject", some "owner@example.com", true, "Owner"⟩

/-- The headers of a browser that holds the session token and its token against forged requests. -/
def sampleMutatingHeaders : HeaderMap := fun name =>
  if name = csrfTokenHeader then some (some "sha256:gateway-csrf-v1:sess_1:sha256:sws_1") else bearer "sws_1" name

theorem endedSession_refused_logout :
    ∃ s final, run (contextStep sampleAuthEnv) (.fresh .empty)
        [.externalLogin sampleLoginRequest "usr_1" "ext_1" "sess_1" "sws_1" ⟨0⟩] = some s ∧
      run (contextStep sampleAuthEnv) s [.logoutCurrentAuthSession sampleMutatingHeaders ⟨1⟩,
        .externalLogin sampleLoginRequest "usr_2" "ext_2" "sess_2" "sws_2" ⟨2⟩] = some final ∧
      verifySessionToken sampleAuthEnv final.toTenancyStore "sws_1" ⟨3⟩ = .error .authentication ∧
      verifyAuthSessionFromHeaders sampleAuthEnv final.toTenancyStore (bearer "sws_1") ⟨3⟩ = .error .authentication ∧
      authenticateRequest sampleAuthEnv final.toTenancyStore (bearer "sws_1") "req_1" "trace_1" ⟨3⟩ =
        (.error .authentication, final.toTenancyStore) := by
  have hran : ((run (contextStep sampleAuthEnv) (.fresh .empty)
      [.externalLogin sampleLoginRequest "usr_1" "ext_1" "sess_1" "sws_1" ⟨0⟩]).map fun s =>
        ((verifyMutatingAuthSessionFromHeaders sampleAuthEnv s.toTenancyStore sampleMutatingHeaders ⟨1⟩).toOption.map
          (·.sessionHash), (run (contextStep sampleAuthEnv) s [.logoutCurrentAuthSession sampleMutatingHeaders ⟨1⟩,
            .externalLogin sampleLoginRequest "usr_2" "ext_2" "sess_2" "sws_2" ⟨2⟩]).isSome)) =
      some (some "sha256:sws_1", true) := by decide +kernel
  obtain ⟨s, hbefore, hends⟩ := Option.map_eq_some_iff.mp hran
  obtain ⟨hverified, hafter⟩ := Prod.mk.inj hends
  obtain ⟨session, hok, hnamed⟩ := Option.map_eq_some_iff.mp hverified
  obtain ⟨final, hafter⟩ := Option.isSome_iff_exists.mp hafter
  have hok : verifyMutatingAuthSessionFromHeaders sampleAuthEnv s.toTenancyStore sampleMutatingHeaders ⟨1⟩ =
      .ok session := by
    cases hresult : verifyMutatingAuthSessionFromHeaders sampleAuthEnv s.toTenancyStore sampleMutatingHeaders ⟨1⟩ with
    | error error =>
      rw [hresult] at hok
      cases hok
    | ok found =>
      rw [hresult] at hok
      cases hok
      rfl
  have hends : Ends sampleAuthEnv s.toTenancyStore "sha256:sws_1"
      (.logoutCurrentAuthSession sampleMutatingHeaders ⟨1⟩) := ⟨session, hok, hnamed⟩
  have hpresented : bearerToken (bearer "sws_1") = .ok "sws_1" := rfl
  obtain ⟨htoken, hsession, hrequest⟩ := endedSession_refused hbefore hends hafter hpresented rfl ⟨3⟩
  exact ⟨s, final, hbefore, hafter, htoken, hsession, hrequest rfl "req_1" "trace_1"⟩

end Starweaver.Gateway.Tenancy
