import Starweaver.Platform.LoginMachine

namespace Starweaver.Platform

open Library.AssocMap Library.Checks Library.Machine Library.OrderedMap

def LoginStage.touchesUser : LoginStage → Bool
  | .readUser | .recordUser | .recordSession => true
  | _ => false

def SingleUserStage.touchesUser : SingleUserStage → Bool
  | .recordSession | .recordUser => true
  | _ => false

/-- The user whose record or session a login will still write, once it has found that the user can log in. -/
def CallPhase.opens {κ : Type} (hashes : LoginHashes) : CallPhase κ → Option String
  | .completing login _ remaining =>
    if remaining.any LoginStage.touchesUser then some (login.completion hashes).userId else none
  | .recordingSingleUser _ _ remaining => if remaining.any SingleUserStage.touchesUser then some singleUserId else none
  | _ => none

/-- A status without access is written only while no login of the user is between its check and its last write. -/
def LoginMachine.writesAlone {κ : Type} (env : LoginEnv κ) (machine : LoginMachine κ) : LoginStep κ → Bool
  | .advance id =>
    match machine.calls.lookup id with
    | some (.writeStatus userId expectedVersion status) =>
      status == .active ||
        !(machine.stores.users.lookup userId).any
          (fun user => user.status != .deleted && user.resourceVersion == expectedVersion) ||
        machine.calls.entries.all fun call => call.2.opens env.hashes != some userId
    | _ => true
  | _ => true

theorem LoginMachine.writesAlone_write {κ : Type} {env : LoginEnv κ} {machine : LoginMachine κ} {id : Nat}
    (h : machine.writesAlone env (.advance id) = true) {userId : String} {expectedVersion : Int}
    {status : PlatformUserStatus} {user : PlatformUserRecord}
    (hphase : machine.calls.lookup id = some (.writeStatus userId expectedVersion status)) (hstatus : status ≠ .active)
    (huser : machine.stores.users.lookup userId = some user) (hdeleted : user.status ≠ .deleted)
    (hversion : user.resourceVersion = expectedVersion) (other : Nat) (phase : CallPhase κ)
    (hother : machine.calls.lookup other = some phase) : phase.opens env.hashes ≠ some userId := by
  simp only [writesAlone, hphase, huser, Option.any_some] at h
  have hclosed : (machine.calls.entries.all fun call => call.2.opens env.hashes != some userId) = true := by
    simpa [hstatus, hdeleted, hversion] using h
  have hmem : (⟨other, phase⟩ : Sigma fun _ : Nat => CallPhase κ) ∈ machine.calls.entries :=
    AList.mem_lookup_iff.mp hother
  simpa using List.all_eq_true.mp hclosed _ hmem

def Activates {κ : Type} (userId : String) (event : Nat × LoginEvent κ) : Prop :=
  ∃ user, event.2 = .statusWritten user ∧ user.userId = userId ∧ user.status = .active

/-- An update of the user to a status without access has returned, and no later one has given the user access. -/
def Closed {κ : Type} (history : List (Nat × LoginEvent κ)) (tenantId userId : String) : Prop :=
  ∃ id updated later between earlier,
    history = later ++ (id, .statusUpdated updated) :: (between ++ (id, .statusWritten updated) :: earlier) ∧
    updated.tenantId = tenantId ∧ updated.userId = userId ∧ updated.status ≠ .active ∧
    (∀ event ∈ later, ¬ Activates userId event) ∧ ∀ event ∈ between, ¬ Activates userId event

def NoneActive (sessions : Index PlatformAuthSessionRecord) (tenantId userId : String) : Prop :=
  ∀ key record, sessions.lookup key = some record → record.actor.tenantId = tenantId →
    record.actor.principalId = userId → record.status ≠ .active

section Sessions

variable {sessions : Index PlatformAuthSessionRecord} {tenantId userId : String}

theorem NoneActive.rejects (h : NoneActive sessions tenantId userId) {hashSessionToken : String → String}
    {credential : String → Result AuthenticatedActor} {authorization rawToken : String}
    {record : PlatformAuthSessionRecord} (htoken : bearerToken authorization = some rawToken)
    (hrecord : sessions.lookup (hashSessionToken (Library.Text.trim rawToken)) = some record)
    (htenant : record.actor.tenantId = tenantId) (hprincipal : record.actor.principalId = userId)
    (actor : AuthenticatedActor) :
    authenticatedActorFromHeaders sessions hashSessionToken credential authorization ≠ .ok actor := by
  have hinactive := h _ record hrecord htenant hprincipal
  simp only [authenticatedActorFromHeaders, htoken, authSessionForBearer, hrecord, activeSessionRecord]
  split
  · rename_i found hfound
    split at hfound
    · cases hfound
    · split at hfound <;> simp_all
  · rename_i hfound
    split at hfound
    · cases hfound
    · split at hfound <;> simp_all
  · exact fun h => by cases h

theorem NoneActive.insert (h : NoneActive sessions tenantId userId) {key : String}
    {session : PlatformAuthSessionRecord} (hother : session.actor.principalId ≠ userId) :
    NoneActive (sessions.insert key session) tenantId userId := by
  intro other record hrecord htenant hprincipal
  rcases insert_some hrecord with ⟨-, rfl⟩ | ⟨-, hold⟩
  · exact (hother hprincipal).elim
  · exact h other record hold htenant hprincipal

theorem NoneActive.disable (h : NoneActive sessions tenantId userId) (otherTenant otherUser : String) :
    NoneActive (disableAuthSessionsForPrincipal sessions otherTenant otherUser) tenantId userId := by
  intro key record hrecord htenant hprincipal hactive
  obtain ⟨old, hold, hactor, hkept⟩ := disabled_some hrecord
  obtain ⟨rfl, -⟩ := hkept hactive
  exact h key record hold htenant hprincipal hactive

theorem noneActive_disable (sessions : Index PlatformAuthSessionRecord) (tenantId userId : String) :
    NoneActive (disableAuthSessionsForPrincipal sessions tenantId userId) tenantId userId := by
  intro key record hrecord htenant hprincipal hactive
  obtain ⟨old, hold, hactor, hkept⟩ := disabled_some hrecord
  obtain ⟨rfl, hother⟩ := hkept hactive
  exact hother ⟨htenant, hprincipal⟩

end Sessions

section Stages

variable (completion : OidcLoginCompletionRecord) (progress : LoginProgress) (stores : LoginStores)

/-- A stage of a completion leaves the users as they are, or records the user of the login. -/
theorem LoginStage.run_users (stage : LoginStage) :
    (stage.run completion progress stores).1.users = stores.users ∨
      stage = .recordUser ∧ (stage.run completion progress stores).1.users =
        stores.users.insert completion.userId (completion.user progress.existingUser) := by
  cases stage with
  | readUser => exact .inl rfl
  | recordUser =>
    rw [run]
    rcases wrote_cases progress stores userErrorToService (fun users => { stores with users })
      (Platform.recordUser stores.users (completion.user progress.existingUser)) with ⟨users, husers, hrun⟩ | ⟨error, hrun⟩
    · obtain ⟨-, husers⟩ := bind_unit_ok.mp husers
      cases husers
      rw [hrun]
      exact .inr ⟨rfl, rfl⟩
    · rw [hrun]
      exact .inl rfl
  | linkIdentity => exact .inl rfl
  | findAttempt => exact .inl rfl
  | consumeAttempt =>
    left
    rw [run]
    split
    · rfl
    · apply wrote_keeps fun stores => stores.users
      exact fun _ => rfl
  | recordSession | recordOrganizationMember | recordProjectMember | recordRoleBinding =>
    left
    rw [run]
    apply wrote_keeps fun stores => stores.users
    exact fun _ => rfl

theorem LoginStage.run_sessions (stage : LoginStage) :
    (stage.run completion progress stores).1.sessions = stores.sessions ∨
      stage = .recordSession ∧ (stage.run completion progress stores).1.sessions =
        stores.sessions.insert completion.session.tokenHash completion.session := by
  cases stage with
  | readUser => exact .inl rfl
  | linkIdentity => exact .inl rfl
  | findAttempt => exact .inl rfl
  | consumeAttempt =>
    left
    rw [run]
    split
    · rfl
    · apply wrote_keeps fun stores => stores.sessions
      exact fun _ => rfl
  | recordSession =>
    rw [run]
    rcases wrote_cases progress stores (fun error => .authenticationFailed error.asStr)
      (fun sessions => { stores with sessions }) (recordAuthSession stores.sessions completion.session) with
      ⟨sessions, hsessions, hrun⟩ | ⟨error, hrun⟩
    · obtain ⟨-, hsessions⟩ := bind_unit_ok.mp hsessions
      cases hsessions
      rw [hrun]
      exact .inr ⟨rfl, rfl⟩
    · rw [hrun]
      exact .inl rfl
  | recordUser | recordOrganizationMember | recordProjectMember | recordRoleBinding =>
    left
    rw [run]
    apply wrote_keeps fun stores => stores.sessions
    exact fun _ => rfl

/-- A completion knows of the user what its first stage has read. -/
theorem LoginStage.run_existingUser {stage : LoginStage} {next : LoginProgress}
    (h : (stage.run completion progress stores).2 = .ok next) :
    next.existingUser = progress.existingUser ∨
      stage = .readUser ∧ next.existingUser = stores.users.lookup completion.userId := by
  cases stage with
  | readUser =>
    cases h
    exact .inr ⟨rfl, rfl⟩
  | linkIdentity =>
    obtain ⟨-, -, rfl⟩ := map_ok.mp (mapError_ok.mp h)
    exact .inl rfl
  | findAttempt =>
    obtain ⟨-, -, rfl⟩ := map_ok.mp h
    exact .inl rfl
  | consumeAttempt =>
    rw [run] at h
    split at h
    · cases h
    · left
      rw [wrote_progress progress stores h]
  | recordUser | recordSession | recordOrganizationMember | recordProjectMember | recordRoleBinding =>
    left
    rw [run] at h
    rw [wrote_progress progress stores h]

theorem SingleUserStage.run_users (config : PlatformSingleUserConfig) (session : PlatformAuthSessionRecord)
    (stage : SingleUserStage) :
    (stage.run config session stores).1.users = stores.users ∨
      stage = .recordUser ∧ (stage.run config session stores).1.users =
        stores.users.insert singleUserId (singleUserRecord config) := by
  cases stage with
  | recordUser =>
    rw [run]
    rcases wrote_cases .start stores userErrorToService (fun users => { stores with users })
      (Platform.recordUser stores.users (singleUserRecord config)) with ⟨users, husers, hrun⟩ | ⟨error, hrun⟩
    · obtain ⟨-, husers⟩ := bind_unit_ok.mp husers
      cases husers
      rw [hrun]
      exact .inr ⟨rfl, rfl⟩
    · rw [hrun]
      exact .inl rfl
  | recordSession | recordExternalIdentity | recordOrganizationMember | recordProjectMember | recordRoleBinding =>
    left
    rw [run]
    apply wrote_keeps fun stores => stores.users
    exact fun _ => rfl

theorem SingleUserStage.run_sessions (config : PlatformSingleUserConfig) (session : PlatformAuthSessionRecord)
    (stage : SingleUserStage) :
    (stage.run config session stores).1.sessions = stores.sessions ∨
      stage = .recordSession ∧ (stage.run config session stores).1.sessions =
        stores.sessions.insert session.tokenHash session := by
  cases stage with
  | recordSession =>
    rw [run]
    rcases wrote_cases .start stores (fun error => .authenticationFailed error.asStr)
      (fun sessions => { stores with sessions }) (recordAuthSession stores.sessions session) with
      ⟨sessions, hsessions, hrun⟩ | ⟨error, hrun⟩
    · obtain ⟨-, hsessions⟩ := bind_unit_ok.mp hsessions
      cases hsessions
      rw [hrun]
      exact .inr ⟨rfl, rfl⟩
    · rw [hrun]
      exact .inl rfl
  | recordUser | recordExternalIdentity | recordOrganizationMember | recordProjectMember | recordRoleBinding =>
    left
    rw [run]
    apply wrote_keeps fun stores => stores.sessions
    exact fun _ => rfl

end Stages

/-- The moves of a call by what they do to the users and the sessions. -/
inductive UserMove {κ : Type} (env : LoginEnv κ) (stores : LoginStores) : CallPhase κ → Moved κ → Prop
  | waits (phase next : CallPhase κ) (hopens : next.opens env.hashes = none) (haudit : ∀ updated, next ≠ .audit updated)
    (hcompleting : ∀ login progress remaining, next ≠ .completing login progress remaining) :
    UserMove env stores phase (stores, next, none)
  | checked (login : VerifiedLogin κ)
    (hcheck : ensureUserCanLogin stores.users (login.completion env.hashes).userId = .ok ()) :
    UserMove env stores (.checkUser login) (stores, .completing login .start completionStages, none)
  | checkedSingle (config : PlatformSingleUserConfig) (sessionToken : String)
    (hcheck : ensureUserCanLogin stores.users singleUserId = .ok ()) :
    UserMove env stores (.checkSingleUser config sessionToken)
      (stores, .recordingSingleUser config sessionToken singleUserStages, none)
  | failed (login : VerifiedLogin κ) (progress : LoginProgress) (stage : LoginStage) (remaining : List LoginStage)
    (error : ServiceError) :
    UserMove env stores (.completing login progress (stage :: remaining))
      ((stage.run (login.completion env.hashes) progress stores).1, .returned (.error error), none)
  | stage (login : VerifiedLogin κ) (progress next : LoginProgress) (stage : LoginStage) (remaining : List LoginStage)
    (hnext : (stage.run (login.completion env.hashes) progress stores).2 = .ok next) :
    UserMove env stores (.completing login progress (stage :: remaining))
      ((stage.run (login.completion env.hashes) progress stores).1, .completing login next remaining,
        stage.event stores login progress)
  | singleStage (config : PlatformSingleUserConfig) (sessionToken : String) (stage : SingleUserStage)
    (remaining : List SingleUserStage) :
    UserMove env stores (.recordingSingleUser config sessionToken (stage :: remaining))
      ((stage.run config (singleUserSession env.hashes sessionToken) stores).1,
        onAnswer (stage.run config (singleUserSession env.hashes sessionToken) stores).2
          fun _ => .recordingSingleUser config sessionToken remaining, none)
  | write (userId : String) (expectedVersion : Int) (status : PlatformUserStatus) :
    UserMove env stores (.writeStatus userId expectedVersion status) (statusWrite stores userId expectedVersion status)
  | sweep (updated : PlatformUserRecord) :
    UserMove env stores (.disableSessions updated)
      ({ stores with sessions := disableAuthSessionsForPrincipal stores.sessions updated.tenantId updated.userId },
        .audit updated, none)
  | audit (updated : PlatformUserRecord) :
    UserMove env stores (.audit updated) (stores, .returned (.ok ()), some (.statusUpdated updated))

section UserMoves

variable {κ : Type} {env : LoginEnv κ} {stores : LoginStores} {phase : CallPhase κ} {moved : Moved κ}

theorem UserMove.returns (phase : CallPhase κ) (answer : Result Unit) :
    UserMove env stores phase (stores, .returned answer, none) :=
  .waits _ _ rfl (fun _ h => by cases h) fun _ _ _ h => by cases h

theorem CallPhase.advance_userMove (env : LoginEnv κ) (stores : LoginStores) (phase : CallPhase κ) :
    UserMove env stores phase (phase.advance env stores) := by
  cases phase with
  | readProvider call =>
    rw [advance]
    split
    · exact .returns _ _
    · exact .waits _ _ rfl (fun _ h => by cases h) fun _ _ _ h => by cases h
  | readAttempt call provider =>
    rw [advance]
    split
    · exact .returns _ _
    rename_i attempt hattempt
    cases validateOidcCallbackAttempt env.hashes provider attempt call.request call.nowUnix with
    | ok => exact .waits _ _ rfl (fun _ h => by cases h) fun _ _ _ h => by cases h
    | error error => exact .returns _ _
  | exchange call provider attempt => exact .waits _ _ rfl (fun _ h => by cases h) fun _ _ _ h => by cases h
  | checkUser login =>
    rw [advance]
    cases hcheck : ensureUserCanLogin stores.users (login.completion env.hashes).userId with
    | ok => exact .checked login hcheck
    | error error => exact .returns _ _
  | completing login progress remaining =>
    cases remaining with
    | nil => exact .returns _ _
    | cons stage remaining =>
      rw [advance]
      split
      · rename_i changed error hrun
        have hmove : UserMove env stores _ _ := .failed login progress stage remaining error
        rw [hrun] at hmove
        exact hmove
      · rename_i changed next hrun
        have hmove : UserMove env stores _ _ := .stage login progress next stage remaining (by rw [hrun])
        rw [hrun] at hmove
        exact hmove
  | checkSingleUser config sessionToken =>
    rw [advance]
    cases hcheck : ensureUserCanLogin stores.users singleUserId with
    | ok => exact .checkedSingle config sessionToken hcheck
    | error error => exact .returns _ _
  | recordingSingleUser config sessionToken remaining =>
    cases remaining with
    | nil => exact .returns _ _
    | cons stage remaining => exact .singleStage config sessionToken stage remaining
  | authenticate authorization userId request =>
    rw [advance]
    cases authenticatedActorFromHeaders stores.sessions env.hashes.sessionToken env.credential authorization with
    | ok actor => exact .waits _ _ rfl (fun _ h => by cases h) fun _ _ _ h => by cases h
    | error error => exact .returns _ _
  | readUser actor userId request =>
    rw [advance]
    split
    · exact .returns _ _
    · exact .waits _ _ rfl (fun _ h => by cases h) fun _ _ _ h => by cases h
  | authorizeUpdate actor before userId request =>
    rw [advance]
    cases authorizeStatusUpdate stores env.grants actor before request with
    | ok status => exact .waits _ _ rfl (fun _ h => by cases h) fun _ _ _ h => by cases h
    | error error => exact .returns _ _
  | writeStatus userId expectedVersion status => exact .write userId expectedVersion status
  | disableSessions updated => exact .sweep updated
  | audit updated => exact .audit updated
  | returned answer => exact .returns _ _

theorem CallPhase.Moves.userMove (h : phase.Moves env stores moved) : UserMove env stores phase moved := by
  cases h with
  | advance => exact phase.advance_userMove env stores
  | exchange call provider attempt answers =>
    cases verifyLogin env call provider attempt answers with
    | ok login => exact .waits _ _ rfl (fun _ h => by cases h) fun _ _ _ h => by cases h
    | error error => exact .returns _ _
  | interrupt error => exact .returns _ _

/-- A user that a login writes is one that it opens, and is active when the user that it has read is. -/
theorem UserMove.users (h : UserMove env stores phase moved)
    (hexisting : ∀ login progress remaining user, phase = .completing login progress remaining →
      progress.existingUser = some user → user.status = .active) :
    moved.1.users = stores.users ∨
    (∃ record : PlatformUserRecord, phase.opens env.hashes = some record.userId ∧ record.status = .active ∧
      moved.1.users = stores.users.insert record.userId record) ∨
    ∃ userId expectedVersion status, phase = .writeStatus userId expectedVersion status ∧
      moved = statusWrite stores userId expectedVersion status := by
  have hstage (login : VerifiedLogin κ) (progress : LoginProgress) (stage : LoginStage) (remaining : List LoginStage)
      (hphase : phase = .completing login progress (stage :: remaining)) :
      (stage.run (login.completion env.hashes) progress stores).1.users = stores.users ∨
        ∃ record : PlatformUserRecord, phase.opens env.hashes = some record.userId ∧ record.status = .active ∧
          (stage.run (login.completion env.hashes) progress stores).1.users =
            stores.users.insert record.userId record := by
    rcases stage.run_users (login.completion env.hashes) progress stores with husers | ⟨rfl, husers⟩
    · exact .inl husers
    · refine .inr ⟨(login.completion env.hashes).user progress.existingUser, ?_, ?_, husers⟩
      · rw [hphase]
        rfl
      · cases hknown : progress.existingUser with
        | none => rfl
        | some user => exact hexisting login progress _ user hphase hknown
  cases h with
  | waits => exact .inl rfl
  | checked => exact .inl rfl
  | checkedSingle => exact .inl rfl
  | failed login progress stage remaining error =>
    rcases hstage login progress stage remaining rfl with husers | hrecord
    · exact .inl husers
    · exact .inr (.inl hrecord)
  | stage login progress next stage remaining hnext =>
    rcases hstage login progress stage remaining rfl with husers | hrecord
    · exact .inl husers
    · exact .inr (.inl hrecord)
  | singleStage config sessionToken stage remaining =>
    rcases stage.run_users stores config (singleUserSession env.hashes sessionToken) with husers | ⟨rfl, husers⟩
    · exact .inl husers
    · refine .inr (.inl ⟨singleUserRecord config, rfl, rfl, ?_⟩)
      rw [husers]
      rfl
  | write userId expectedVersion status => exact .inr (.inr ⟨userId, expectedVersion, status, rfl, rfl⟩)
  | sweep => exact .inl rfl
  | audit => exact .inl rfl

theorem statusWrite_sessions (stores : LoginStores) (userId : String) (expectedVersion : Int)
    (status : PlatformUserStatus) :
    (statusWrite stores userId expectedVersion status : Moved κ).1.sessions = stores.sessions := rfl

theorem statusWrite_cases (stores : LoginStores) (userId : String) (expectedVersion : Int)
    (status : PlatformUserStatus) :
    (statusWrite stores userId expectedVersion status : Moved κ).1.users = stores.users ∧
      (statusWrite stores userId expectedVersion status : Moved κ).2.2 = none ∨
    ∃ user, stores.users.lookup userId = some user ∧ user.status ≠ .deleted ∧ user.resourceVersion = expectedVersion ∧
      (statusWrite stores userId expectedVersion status : Moved κ).1.users = stores.users.insert userId
        { user with status, resourceVersion := user.resourceVersion + 1 } ∧
      (statusWrite stores userId expectedVersion status : Moved κ).2.2 =
        some (.statusWritten { user with status, resourceVersion := user.resourceVersion + 1 }) := by
  rcases updateUserStatus_cases stores.users userId expectedVersion status with
    ⟨husers, -⟩ | ⟨user, huser, hdeleted, hversion, husers, -⟩
  · refine .inl ⟨husers, ?_⟩
    simp only [statusWrite, husers, if_pos]
  · refine .inr ⟨user, huser, hdeleted, hversion, husers, ?_⟩
    have hchanged : some { user with status, resourceVersion := user.resourceVersion + 1 } ≠ some user := by
      intro hsame
      have hversions := congrArg (Option.map PlatformUserRecord.resourceVersion) hsame
      simp only [Option.map_some, Option.some.injEq] at hversions
      omega
    simp only [statusWrite, husers, AList.lookup_insert, huser]
    rw [if_neg hchanged]
    rfl

/-- A session that is written is one of the user that the login opens. -/
theorem UserMove.sessions (h : UserMove env stores phase moved) :
    moved.1.sessions = stores.sessions ∨
    (∃ session : PlatformAuthSessionRecord, phase.opens env.hashes = some session.actor.principalId ∧
      moved.1.sessions = stores.sessions.insert session.tokenHash session) ∨
    ∃ updated, moved.2.1 = .audit updated ∧
      moved.1.sessions = disableAuthSessionsForPrincipal stores.sessions updated.tenantId updated.userId := by
  have hstage (login : VerifiedLogin κ) (progress : LoginProgress) (stage : LoginStage) (remaining : List LoginStage)
      (hphase : phase = .completing login progress (stage :: remaining)) :
      (stage.run (login.completion env.hashes) progress stores).1.sessions = stores.sessions ∨
        ∃ session : PlatformAuthSessionRecord, phase.opens env.hashes = some session.actor.principalId ∧
          (stage.run (login.completion env.hashes) progress stores).1.sessions =
            stores.sessions.insert session.tokenHash session := by
    rcases stage.run_sessions (login.completion env.hashes) progress stores with hsessions | ⟨rfl, hsessions⟩
    · exact .inl hsessions
    · refine .inr ⟨_, ?_, hsessions⟩
      rw [hphase]
      rfl
  cases h with
  | waits => exact .inl rfl
  | checked => exact .inl rfl
  | checkedSingle => exact .inl rfl
  | failed login progress stage remaining error =>
    rcases hstage login progress stage remaining rfl with hsessions | hsession
    · exact .inl hsessions
    · exact .inr (.inl hsession)
  | stage login progress next stage remaining hnext =>
    rcases hstage login progress stage remaining rfl with hsessions | hsession
    · exact .inl hsessions
    · exact .inr (.inl hsession)
  | singleStage config sessionToken stage remaining =>
    rcases stage.run_sessions stores config (singleUserSession env.hashes sessionToken) with
      hsessions | ⟨rfl, hsessions⟩
    · exact .inl hsessions
    · refine .inr (.inl ⟨singleUserSession env.hashes sessionToken, ?_, ?_⟩)
      · rfl
      · rw [hsessions]
  | write userId expectedVersion status => exact .inl (statusWrite_sessions stores userId expectedVersion status)
  | sweep updated => exact .inr (.inr ⟨updated, rfl, rfl⟩)
  | audit => exact .inl rfl

/-- Events of a user are those of a status write and of the return of an update. -/
theorem UserMove.event (h : UserMove env stores phase moved) {event : LoginEvent κ} (hevent : moved.2.2 = some event) :
    (∃ userId expectedVersion status, phase = .writeStatus userId expectedVersion status ∧
      moved = statusWrite stores userId expectedVersion status) ∨
    (∃ updated, phase = .audit updated ∧ moved.1 = stores ∧ event = .statusUpdated updated) ∨
    ∀ user, event ≠ .statusWritten user ∧ event ≠ .statusUpdated user := by
  cases h with
  | waits => cases hevent
  | checked => cases hevent
  | checkedSingle => cases hevent
  | failed => cases hevent
  | stage login progress next stage remaining hnext =>
    refine .inr (.inr fun user => ?_)
    rcases LoginStage.event_cases hevent with ⟨attempt, -, -, rfl⟩ | ⟨-, rfl⟩
    · exact ⟨nofun, nofun⟩
    · exact ⟨nofun, nofun⟩
  | singleStage => cases hevent
  | write userId expectedVersion status => exact .inl ⟨userId, expectedVersion, status, rfl, rfl⟩
  | sweep => cases hevent
  | audit updated =>
    cases hevent
    exact .inr (.inl ⟨updated, rfl, rfl, rfl⟩)

theorem CallPhase.opens_completing {login : VerifiedLogin κ} {progress next : LoginProgress} {stage : LoginStage}
    {remaining : List LoginStage} {hashes : LoginHashes} {userId : String}
    (h : (CallPhase.completing login next remaining).opens hashes = some userId) :
    (CallPhase.completing login progress (stage :: remaining)).opens hashes = some userId := by
  simp only [CallPhase.opens] at h ⊢
  split at h
  · rename_i hany
    rw [if_pos (by rw [List.any_cons, hany, Bool.or_true])]
    exact h
  · cases h

theorem CallPhase.opens_recordingSingleUser {config : PlatformSingleUserConfig} {sessionToken : String}
    {stage : SingleUserStage} {remaining : List SingleUserStage} {hashes : LoginHashes} {userId : String}
    (h : (CallPhase.recordingSingleUser config sessionToken remaining : CallPhase κ).opens hashes = some userId) :
    (CallPhase.recordingSingleUser config sessionToken (stage :: remaining) : CallPhase κ).opens hashes =
      some userId := by
  simp only [CallPhase.opens] at h ⊢
  split at h
  · rename_i hany
    rw [if_pos (by rw [List.any_cons, hany, Bool.or_true])]
    exact h
  · cases h

/-- A login opens a user from its check on. -/
theorem UserMove.opens (h : UserMove env stores phase moved) {userId : String}
    (hopens : moved.2.1.opens env.hashes = some userId) :
    phase.opens env.hashes = some userId ∨
      ensureUserCanLogin stores.users userId = .ok () ∧ moved.1.users = stores.users := by
  cases h with
  | waits _ next hnone haudit hcompleting =>
    rw [hnone] at hopens
    cases hopens
  | checked login hcheck =>
    cases hopens
    exact .inr ⟨hcheck, rfl⟩
  | checkedSingle config sessionToken hcheck =>
    cases hopens
    exact .inr ⟨hcheck, rfl⟩
  | failed => cases hopens
  | stage login progress next stage remaining hnext => exact .inl (CallPhase.opens_completing hopens)
  | singleStage config sessionToken stage remaining =>
    left
    simp only [onAnswer] at hopens
    split at hopens
    · exact CallPhase.opens_recordingSingleUser hopens
    · cases hopens
  | write userId expectedVersion status =>
    simp only [statusWrite, onAnswer] at hopens
    split at hopens
    · split at hopens
      · cases hopens
      · cases hopens
    · cases hopens
  | sweep => cases hopens
  | audit => cases hopens

/-- An update comes to its audit event once the sessions are swept, unless its status gives access. -/
theorem UserMove.audits (h : UserMove env stores phase moved) {updated : PlatformUserRecord}
    (haudit : moved.2.1 = .audit updated) :
    updated.status = .active ∨
      moved.1.sessions = disableAuthSessionsForPrincipal stores.sessions updated.tenantId updated.userId := by
  cases h with
  | waits _ next hnone hother hcompleting => exact (hother updated haudit).elim
  | checked => cases haudit
  | checkedSingle => cases haudit
  | failed => cases haudit
  | stage => cases haudit
  | singleStage config sessionToken stage remaining =>
    simp only [onAnswer] at haudit
    split at haudit
    · cases haudit
    · cases haudit
  | write userId expectedVersion status =>
    simp only [statusWrite, onAnswer] at haudit
    split at haudit
    · split at haudit
      · rename_i hactive
        cases haudit
        left
        cases hstatus : updated.status <;> simp_all [PlatformUserStatus.acceptsAccess]
      · cases haudit
    · cases haudit
  | sweep =>
    cases haudit
    exact .inr rfl
  | audit => cases haudit

/-- The user that a completion has read is one that was stored while the login had it open. -/
theorem UserMove.existing (h : UserMove env stores phase moved) {login : VerifiedLogin κ} {progress : LoginProgress}
    {remaining : List LoginStage} {user : PlatformUserRecord} (hnext : moved.2.1 = .completing login progress remaining)
    (huser : progress.existingUser = some user) :
    (∃ before earlier, phase = .completing login before earlier ∧ before.existingUser = some user) ∨
      ∃ userId, phase.opens env.hashes = some userId ∧ stores.users.lookup userId = some user := by
  cases h with
  | waits _ next hnone hother hcompleting => exact (hcompleting login progress remaining hnext).elim
  | checked =>
    cases hnext
    cases huser
  | checkedSingle => cases hnext
  | failed => cases hnext
  | stage other before next stage rest hrun =>
    cases hnext
    rcases LoginStage.run_existingUser _ before stores hrun with hsame | ⟨rfl, hread⟩
    · exact .inl ⟨before, _, rfl, hsame.symm.trans huser⟩
    · refine .inr ⟨(login.completion env.hashes).userId, ?_, hread.symm.trans huser⟩
      rfl
  | singleStage config sessionToken stage remaining =>
    simp only [onAnswer] at hnext
    split at hnext
    · cases hnext
    · cases hnext
  | write userId expectedVersion status =>
    simp only [statusWrite, onAnswer] at hnext
    split at hnext
    · split at hnext
      · cases hnext
      · cases hnext
    · cases hnext
  | sweep => cases hnext
  | audit => cases hnext

end UserMoves

/-- What a run keeps of the users, the logins and the sessions while statuses are written alone. -/
structure UserInvariant {κ : Type} (env : LoginEnv κ) (machine : LoginMachine κ) : Prop where
  keyed : Keyed (·.userId) machine.stores.users
  opened : ∀ id phase userId user, machine.calls.lookup id = some phase → phase.opens env.hashes = some userId →
    machine.stores.users.lookup userId = some user → user.status = .active
  existing : ∀ id login progress remaining user, machine.calls.lookup id = some (.completing login progress remaining) →
    progress.existingUser = some user → user.status = .active
  written : ∀ id updated later earlier, machine.history = later ++ (id, .statusWritten updated) :: earlier →
    updated.status ≠ .active → (∀ event ∈ later, ¬ Activates updated.userId event) →
      ∃ user, machine.stores.users.lookup updated.userId = some user ∧ user.status ≠ .active
  swept : ∀ id updated later earlier, machine.calls.lookup id = some (.audit updated) →
    machine.history = later ++ (id, .statusWritten updated) :: earlier → updated.status ≠ .active →
    (∀ event ∈ later, ¬ Activates updated.userId event) →
      NoneActive machine.stores.sessions updated.tenantId updated.userId
  closed : ∀ id updated later between earlier,
    machine.history = later ++ (id, .statusUpdated updated) :: (between ++ (id, .statusWritten updated) :: earlier) →
    updated.status ≠ .active → (∀ event ∈ later, ¬ Activates updated.userId event) →
    (∀ event ∈ between, ¬ Activates updated.userId event) →
      NoneActive machine.stores.sessions updated.tenantId updated.userId

section Invariant

variable {κ : Type} {env : LoginEnv κ} {machine : LoginMachine κ}

theorem UserInvariant.start {stores : LoginStores} (hkeyed : Keyed (·.userId) stores.users) :
    UserInvariant env (LoginMachine.start stores : LoginMachine κ) := by
  refine ⟨hkeyed, ?_, ?_, ?_, ?_, ?_⟩
  · rintro id phase userId user ⟨⟩
  · rintro id login progress remaining user ⟨⟩
  · intro id updated later earlier hhistory
    simp [LoginMachine.start] at hhistory
  · rintro id updated later earlier ⟨⟩
  · intro id updated later between earlier hhistory
    simp [LoginMachine.start] at hhistory

/-- A call that comes in opens no user. -/
theorem UserInvariant.arrives (hinv : UserInvariant env machine) {id : Nat} {phase : CallPhase κ}
    (harrives : phase.Arrives) : UserInvariant env { machine with calls := machine.calls.insert id phase } := by
  refine { hinv with opened := ?_, existing := ?_, swept := ?_ }
  · intro other found userId user hfound hopens huser
    rcases insert_some hfound with ⟨-, rfl⟩ | ⟨-, hold⟩
    · cases harrives <;> cases hopens
    · exact hinv.opened other found userId user hold hopens huser
  · intro other login progress remaining user hfound huser
    rcases insert_some hfound with ⟨-, rfl⟩ | ⟨-, hold⟩
    · cases harrives
    · exact hinv.existing other login progress remaining user hold huser
  · intro other updated later earlier hfound
    rcases insert_some hfound with ⟨-, rfl⟩ | ⟨-, hold⟩
    · cases harrives
    · exact hinv.swept other updated later earlier hold

section Move

variable {id : Nat} {phase : CallPhase κ} {moved : Moved κ}

theorem UserInvariant.users (hinv : UserInvariant env machine) (hphase : machine.calls.lookup id = some phase)
    (hmove : UserMove env machine.stores phase moved) :
    moved.1.users = machine.stores.users ∨
    (∃ record : PlatformUserRecord, phase.opens env.hashes = some record.userId ∧ record.status = .active ∧
      moved.1.users = machine.stores.users.insert record.userId record) ∨
    ∃ userId expectedVersion status, phase = .writeStatus userId expectedVersion status ∧
      moved = statusWrite machine.stores userId expectedVersion status := by
  apply hmove.users
  intro login progress remaining user hcompleting
  rw [hcompleting] at hphase
  exact hinv.existing id login progress remaining user hphase

theorem statusWritten_activates {user : PlatformUserRecord} {userId : String} (huser : user.userId = userId)
    (hactive : user.status = .active) : Activates userId (id, (.statusWritten user : LoginEvent κ)) :=
  ⟨user, rfl, huser, hactive⟩

/-- A user without access stays without until a status update gives it. -/
theorem UserInvariant.staysClosed (hinv : UserInvariant env machine) (hphase : machine.calls.lookup id = some phase)
    (hmove : UserMove env machine.stores phase moved) {userId : String} {user : PlatformUserRecord}
    (huser : machine.stores.users.lookup userId = some user) (hstatus : user.status ≠ .active)
    (hevent : ∀ event, moved.2.2 = some event → ¬ Activates userId (id, event)) :
    ∃ user, moved.1.users.lookup userId = some user ∧ user.status ≠ .active := by
  rcases hinv.users hphase hmove with husers | ⟨record, hopens, -, husers⟩ | ⟨key, expectedVersion, status, -, rfl⟩
  · exact ⟨user, by rw [husers, huser], hstatus⟩
  · by_cases hsame : userId = record.userId
    · subst hsame
      exact (hstatus (hinv.opened id phase _ user hphase hopens huser)).elim
    · exact ⟨user, by rw [husers, AList.lookup_insert_ne hsame, huser], hstatus⟩
  · rcases statusWrite_cases machine.stores key expectedVersion status with
      ⟨husers, -⟩ | ⟨before, hbefore, -, -, husers, hwritten⟩
    · exact ⟨user, by rw [husers, huser], hstatus⟩
    · by_cases hsame : userId = key
      · subst hsame
        have hkey : before.userId = userId := hinv.keyed _ _ hbefore
        refine ⟨_, by rw [husers, AList.lookup_insert], fun hactive => ?_⟩
        exact hevent _ hwritten (statusWritten_activates hkey hactive)
      · exact ⟨user, by rw [husers, AList.lookup_insert_ne hsame, huser], hstatus⟩

/-- No session of a user without access becomes active. -/
theorem UserInvariant.noneActive (hinv : UserInvariant env machine) (hphase : machine.calls.lookup id = some phase)
    (hmove : UserMove env machine.stores phase moved) {tenantId userId : String}
    (hclosed : ∃ user, machine.stores.users.lookup userId = some user ∧ user.status ≠ .active)
    (hnone : NoneActive machine.stores.sessions tenantId userId) : NoneActive moved.1.sessions tenantId userId := by
  obtain ⟨user, huser, hstatus⟩ := hclosed
  rcases hmove.sessions with hsessions | ⟨session, hopens, hsessions⟩ | ⟨updated, -, hsessions⟩
  · rw [hsessions]
    exact hnone
  · rw [hsessions]
    apply hnone.insert
    intro hsame
    rw [hsame] at hopens
    exact hstatus (hinv.opened id phase userId user hphase hopens huser)
  · rw [hsessions]
    exact hnone.disable _ _

/-- A login that is open keeps its user active, as a status without access is not written beside it. -/
theorem UserInvariant.staysActive (hinv : UserInvariant env machine) (hphase : machine.calls.lookup id = some phase)
    (hmove : UserMove env machine.stores phase moved)
    (halone : ∀ userId expectedVersion status user, phase = .writeStatus userId expectedVersion status →
      status ≠ .active → machine.stores.users.lookup userId = some user → user.status ≠ .deleted →
      user.resourceVersion = expectedVersion →
      ∀ other found, machine.calls.lookup other = some found → found.opens env.hashes ≠ some userId)
    {other : Nat} {found : CallPhase κ} {userId : String} {user : PlatformUserRecord}
    (hfound : machine.calls.lookup other = some found) (hopens : found.opens env.hashes = some userId)
    (huser : moved.1.users.lookup userId = some user) : user.status = .active := by
  rcases hinv.users hphase hmove with husers | ⟨record, -, hactive, husers⟩ | ⟨key, expectedVersion, status, hwrite, rfl⟩
  · rw [husers] at huser
    exact hinv.opened other found userId user hfound hopens huser
  · rw [husers] at huser
    rcases insert_some huser with ⟨-, rfl⟩ | ⟨-, hold⟩
    · exact hactive
    · exact hinv.opened other found userId user hfound hopens hold
  · rcases statusWrite_cases machine.stores key expectedVersion status with
      ⟨husers, -⟩ | ⟨before, hbefore, hdeleted, hversion, husers, -⟩
    · rw [husers] at huser
      exact hinv.opened other found userId user hfound hopens huser
    · rw [husers] at huser
      rcases insert_some huser with ⟨rfl, rfl⟩ | ⟨-, hold⟩
      · by_contra hinactive
        exact halone userId expectedVersion status before hwrite hinactive hbefore hdeleted hversion other found hfound
          hopens
      · exact hinv.opened other found userId user hfound hopens hold

theorem UserInvariant.keyedAfter (hinv : UserInvariant env machine) (hphase : machine.calls.lookup id = some phase)
    (hmove : UserMove env machine.stores phase moved) : Keyed (·.userId) moved.1.users := by
  rcases hinv.users hphase hmove with husers | ⟨record, -, -, husers⟩ | ⟨key, expectedVersion, status, -, rfl⟩
  · rw [husers]
    exact hinv.keyed
  · rw [husers]
    exact hinv.keyed.insert rfl
  · rcases statusWrite_cases machine.stores key expectedVersion status with
      ⟨husers, -⟩ | ⟨before, hbefore, -, -, husers, -⟩
    · rw [husers]
      exact hinv.keyed
    · have hkey : before.userId = key := hinv.keyed _ _ hbefore
      rw [husers]
      exact hinv.keyed.insert hkey

theorem statusUpdated_not_activates (updated : PlatformUserRecord) (userId : String) :
    ¬ Activates userId (id, (.statusUpdated updated : LoginEvent κ)) := by
  rintro ⟨user, hevent, -⟩
  cases hevent

theorem UserInvariant.writtenAfter (hinv : UserInvariant env machine) (hphase : machine.calls.lookup id = some phase)
    (hmove : UserMove env machine.stores phase moved) {writer : Nat} {updated : PlatformUserRecord}
    {later earlier : List (Nat × LoginEvent κ)}
    (hhistory : (machine.moves id moved).history = later ++ (writer, .statusWritten updated) :: earlier)
    (hstatus : updated.status ≠ .active) (hlater : ∀ event ∈ later, ¬ Activates updated.userId event) :
    ∃ user, moved.1.users.lookup updated.userId = some user ∧ user.status ≠ .active := by
  simp only [LoginMachine.moves] at hhistory
  cases hevent : moved.2.2 with
  | none =>
    simp only [hevent, Option.toList_none, List.map_nil, List.nil_append] at hhistory
    obtain ⟨user, huser, hclosed⟩ := hinv.written writer updated later earlier hhistory hstatus hlater
    refine hinv.staysClosed hphase hmove huser hclosed fun event hsome => ?_
    cases hevent.symm.trans hsome
  | some event =>
    simp only [hevent, Option.toList_some, List.map_cons, List.map_nil, List.cons_append, List.nil_append] at hhistory
    cases later with
    | nil =>
      -- the move itself has written the status
      rw [List.nil_append, List.cons.injEq, Prod.mk.injEq] at hhistory
      obtain ⟨⟨-, rfl⟩, -⟩ := hhistory
      rcases hmove.event hevent with ⟨key, expectedVersion, status, -, rfl⟩ | ⟨other, -, -, hother⟩ | hother
      · rcases statusWrite_cases machine.stores key expectedVersion status with
          ⟨-, hnone⟩ | ⟨before, hbefore, -, -, husers, hwritten⟩
        · cases hevent.symm.trans hnone
        · cases hevent.symm.trans hwritten
          have hkey : before.userId = key := hinv.keyed _ _ hbefore
          refine ⟨_, ?_, hstatus⟩
          rw [husers, hkey, AList.lookup_insert]
      · cases hother
      · exact ((hother updated).1 rfl).elim
    | cons head later =>
      rw [List.cons_append, List.cons.injEq] at hhistory
      obtain ⟨rfl, hhistory⟩ := hhistory
      obtain ⟨hhead, hlater⟩ := List.forall_mem_cons.mp hlater
      obtain ⟨user, huser, hclosed⟩ := hinv.written writer updated later earlier hhistory hstatus hlater
      refine hinv.staysClosed hphase hmove huser hclosed fun other hother => ?_
      cases hevent.symm.trans hother
      exact hhead

theorem UserInvariant.sweptAfter (hinv : UserInvariant env machine) (hphase : machine.calls.lookup id = some phase)
    (hmove : UserMove env machine.stores phase moved) {writer : Nat} {updated : PlatformUserRecord}
    {later earlier : List (Nat × LoginEvent κ)} (hwriter : (machine.moves id moved).calls.lookup writer = some (.audit updated))
    (hhistory : (machine.moves id moved).history = later ++ (writer, .statusWritten updated) :: earlier)
    (hstatus : updated.status ≠ .active) (hlater : ∀ event ∈ later, ¬ Activates updated.userId event) :
    NoneActive moved.1.sessions updated.tenantId updated.userId := by
  simp only [LoginMachine.moves] at hhistory hwriter
  rcases insert_some hwriter with ⟨rfl, haudit⟩ | ⟨hother, hold⟩
  · rcases hmove.audits haudit.symm with hactive | hsessions
    · exact (hstatus hactive).elim
    · rw [hsessions]
      exact noneActive_disable _ _ _
  cases hevent : moved.2.2 with
  | none =>
    simp only [hevent, Option.toList_none, List.map_nil, List.nil_append] at hhistory
    exact hinv.noneActive hphase hmove (hinv.written writer updated later earlier hhistory hstatus hlater)
      (hinv.swept writer updated later earlier hold hhistory hstatus hlater)
  | some event =>
    simp only [hevent, Option.toList_some, List.map_cons, List.map_nil, List.cons_append, List.nil_append] at hhistory
    cases later with
    | nil =>
      rw [List.nil_append, List.cons.injEq, Prod.mk.injEq] at hhistory
      exact (hother hhistory.1.1.symm).elim
    | cons head later =>
      rw [List.cons_append, List.cons.injEq] at hhistory
      obtain ⟨rfl, hhistory⟩ := hhistory
      obtain ⟨-, hlater⟩ := List.forall_mem_cons.mp hlater
      exact hinv.noneActive hphase hmove (hinv.written writer updated later earlier hhistory hstatus hlater)
        (hinv.swept writer updated later earlier hold hhistory hstatus hlater)

/-- A user whose update has returned is one whose status was written. -/
theorem UserInvariant.closedUser (hinv : UserInvariant env machine) {writer : Nat} {updated : PlatformUserRecord}
    {later between earlier : List (Nat × LoginEvent κ)}
    (hhistory : machine.history =
      later ++ (writer, .statusUpdated updated) :: (between ++ (writer, .statusWritten updated) :: earlier))
    (hstatus : updated.status ≠ .active) (hlater : ∀ event ∈ later, ¬ Activates updated.userId event)
    (hbetween : ∀ event ∈ between, ¬ Activates updated.userId event) :
    ∃ user, machine.stores.users.lookup updated.userId = some user ∧ user.status ≠ .active := by
  apply hinv.written writer updated (later ++ (writer, .statusUpdated updated) :: between) earlier
  · rw [hhistory]
    simp
  · exact hstatus
  · intro event hevent
    rcases List.mem_append.mp hevent with hmem | hmem
    · exact hlater event hmem
    rcases List.mem_cons.mp hmem with rfl | hmem
    · exact statusUpdated_not_activates updated _
    · exact hbetween event hmem

theorem UserInvariant.closedAfter (hinv : UserInvariant env machine) (hphase : machine.calls.lookup id = some phase)
    (hmove : UserMove env machine.stores phase moved) {writer : Nat} {updated : PlatformUserRecord}
    {later between earlier : List (Nat × LoginEvent κ)}
    (hhistory : (machine.moves id moved).history =
      later ++ (writer, .statusUpdated updated) :: (between ++ (writer, .statusWritten updated) :: earlier))
    (hstatus : updated.status ≠ .active) (hlater : ∀ event ∈ later, ¬ Activates updated.userId event)
    (hbetween : ∀ event ∈ between, ¬ Activates updated.userId event) :
    NoneActive moved.1.sessions updated.tenantId updated.userId := by
  simp only [LoginMachine.moves] at hhistory
  cases hevent : moved.2.2 with
  | none =>
    simp only [hevent, Option.toList_none, List.map_nil, List.nil_append] at hhistory
    exact hinv.noneActive hphase hmove (hinv.closedUser hhistory hstatus hlater hbetween)
      (hinv.closed writer updated later between earlier hhistory hstatus hlater hbetween)
  | some event =>
    simp only [hevent, Option.toList_some, List.map_cons, List.map_nil, List.cons_append, List.nil_append] at hhistory
    cases later with
    | nil =>
      -- the move is the return of the update, whose sessions are swept
      rw [List.nil_append, List.cons.injEq, Prod.mk.injEq] at hhistory
      obtain ⟨⟨rfl, rfl⟩, hhistory⟩ := hhistory
      rcases hmove.event hevent with ⟨key, expectedVersion, status, -, rfl⟩ | ⟨other, rfl, hstores, hother⟩ | hother
      · rcases statusWrite_cases machine.stores key expectedVersion status with ⟨-, hnone⟩ | ⟨before, -, -, -, -, hwritten⟩
        · cases hevent.symm.trans hnone
        · cases hevent.symm.trans hwritten
      · cases hother
        rw [hstores]
        exact hinv.swept id updated between earlier hphase hhistory hstatus hbetween
      · exact ((hother updated).2 rfl).elim
    | cons head later =>
      rw [List.cons_append, List.cons.injEq] at hhistory
      obtain ⟨rfl, hhistory⟩ := hhistory
      obtain ⟨-, hlater⟩ := List.forall_mem_cons.mp hlater
      exact hinv.noneActive hphase hmove (hinv.closedUser hhistory hstatus hlater hbetween)
        (hinv.closed writer updated later between earlier hhistory hstatus hlater hbetween)

theorem UserInvariant.moves (hinv : UserInvariant env machine) (hphase : machine.calls.lookup id = some phase)
    (hmove : UserMove env machine.stores phase moved)
    (halone : ∀ userId expectedVersion status user, phase = .writeStatus userId expectedVersion status →
      status ≠ .active → machine.stores.users.lookup userId = some user → user.status ≠ .deleted →
      user.resourceVersion = expectedVersion →
      ∀ other found, machine.calls.lookup other = some found → found.opens env.hashes ≠ some userId) :
    UserInvariant env (machine.moves id moved) where
  keyed := hinv.keyedAfter hphase hmove
  opened := by
    intro other found userId user hfound hopens huser
    rcases insert_some hfound with ⟨rfl, rfl⟩ | ⟨-, hold⟩
    · rcases hmove.opens hopens with hbefore | ⟨hcheck, husers⟩
      · exact hinv.staysActive hphase hmove halone hphase hbefore huser
      · simp only [LoginMachine.moves, husers] at huser
        exact ensureUserCanLogin_ok hcheck huser
    · exact hinv.staysActive hphase hmove halone hold hopens huser
  existing := by
    intro other login progress remaining user hfound huser
    rcases insert_some hfound with ⟨rfl, hnext⟩ | ⟨-, hold⟩
    · rcases hmove.existing hnext.symm huser with ⟨before, earlier, rfl, hbefore⟩ | ⟨userId, hopens, hlookup⟩
      · exact hinv.existing other login before earlier user hphase hbefore
      · exact hinv.opened other phase userId user hphase hopens hlookup
    · exact hinv.existing other login progress remaining user hold huser
  written := fun _ _ _ _ hhistory hstatus hlater => hinv.writtenAfter hphase hmove hhistory hstatus hlater
  swept := fun _ _ _ _ hwriter hhistory hstatus hlater =>
    hinv.sweptAfter hphase hmove hwriter hhistory hstatus hlater
  closed := fun _ _ _ _ _ hhistory hstatus hlater hbetween =>
    hinv.closedAfter hphase hmove hhistory hstatus hlater hbetween

end Move

theorem UserInvariant.step {next : LoginMachine κ} {action : LoginStep κ} (hinv : UserInvariant env machine)
    (halone : machine.writesAlone env action = true) (hstep : machine.step env action = some next) :
    UserInvariant env next := by
  rcases LoginMachine.step_cases hstep with
    ⟨id, phase, -, harrives, rfl⟩ | ⟨id, phase, moved, hphase, hmoves, haction, rfl⟩
  · exact hinv.arrives harrives
  · apply hinv.moves hphase hmoves.userMove
    intro userId expectedVersion status user hwrite
    subst hwrite
    rcases haction with rfl | hawaits
    · exact LoginMachine.writesAlone_write halone hphase
    · exact False.elim hawaits

end Invariant

/-- A disabled user has no working session: no token of its sessions is accepted and its status stays without access
until a later update gives it, in a run where a status without access is written only while no login of the user is
between its check and its last write. -/
theorem closedUser_hasNoSession {κ : Type} {env : LoginEnv κ} {stores : LoginStores}
    (hkeyed : Keyed (·.userId) stores.users) {steps : List (LoginStep κ)} {final : LoginMachine κ}
    (hmeets : Meets (fun machine step => machine.step env step) (fun machine step => machine.writesAlone env step = true)
      (LoginMachine.start stores) steps)
    (hrun : run (fun machine step => machine.step env step) (LoginMachine.start stores) steps = some final)
    {tenantId userId : String} (hclosed : Closed final.history tenantId userId) :
    (∀ authorization rawToken record, bearerToken authorization = some rawToken →
      final.stores.sessions.lookup (env.hashes.sessionToken (Library.Text.trim rawToken)) = some record →
      record.actor.tenantId = tenantId → record.actor.principalId = userId →
      ∀ actor, authenticatedActorFromHeaders final.stores.sessions env.hashes.sessionToken env.credential
        authorization ≠ .ok actor) ∧
    ∃ user, final.stores.users.lookup userId = some user ∧ user.status ≠ .active := by
  have hinv : UserInvariant env final := by
    apply run_invariant (fun machine step next hinv halone hnext => UserInvariant.step hinv halone hnext) _ hmeets hrun
    exact UserInvariant.start hkeyed
  obtain ⟨id, updated, later, between, earlier, hhistory, rfl, rfl, hstatus, hlater, hbetween⟩ := hclosed
  constructor
  · intro authorization rawToken record htoken hrecord htenant hprincipal actor
    exact (hinv.closed id updated later between earlier hhistory hstatus hlater hbetween).rejects htoken hrecord htenant
      hprincipal actor
  · exact hinv.closedUser hhistory hstatus hlater hbetween

section Examples

def singleUserEnv : LoginEnv Unit where
  grants := []
  hashes := ⟨id, id, id, id, fun _ _ subject => subject⟩
  library := ⟨fun _ => none, fun _ _ _ _ _ => none⟩
  credential := fun _ => .error (.authenticationFailed "credential_not_found")
  singleUserAuth := some ⟨"root", "word", "Root", none⟩

/-- The single user with a session, and another owner of the tenant. -/
def singleUserStores : LoginStores where
  users := (∅ : Index PlatformUserRecord).insert singleUserId
    ⟨singleUserId, singleUserTenantId, some singleUserOrganizationId, some singleUserProjectId, none, "Root", .active, 1⟩
  externalIdentities := ∅
  providers := ∅
  attempts := ∅
  sessions := ((∅ : Index PlatformAuthSessionRecord).insert "owner"
    ⟨"sess_owner", "owner", ⟨singleUserTenantId, none, none, "usr_owner", .user⟩, .active⟩).insert "old"
    ⟨"sess_old", "old", singleUserActor, .active⟩
  access :=
    { memberships := ⟨∅, ∅⟩
      roleBindings := (∅ : Index PlatformRoleBindingRecord).insert "rb_owner"
        ⟨"rb_owner", singleUserTenantId, none, none, "usr_owner", "tenant_owner", .active, 1⟩
      invitations := ∅ }

/-- The owner disables the single user, in seven steps. -/
def disableSingleUser : List (LoginStep Unit) :=
  .updateUserStatus 1 "Bearer owner" singleUserId ⟨1, "disabled", some "confirm"⟩ :: List.replicate 6 (.advance 1)

def logInSingleUser : LoginStep Unit := .singleUserLogin 0 "root" "word" "swp_sess_0123456789abcdef"

/-- A login of the user begins and ends between the checks and the write of the status, and another one finds the user
disabled before the sessions are swept. -/
def disableAmidLogins : List (LoginStep Unit) :=
  [.updateUserStatus 1 "Bearer owner" singleUserId ⟨1, "disabled", some "confirm"⟩, .advance 1, logInSingleUser,
    .advance 0, .advance 1, .advance 0, .advance 0, .advance 1, .advance 1,
    .singleUserLogin 2 "root" "word" "swp_sess_later", .advance 2, .advance 1, .advance 2, .advance 1]

def disabledSingleUser : PlatformUserRecord :=
  ⟨singleUserId, singleUserTenantId, some singleUserOrganizationId, some singleUserProjectId, none, "Root", .disabled, 2⟩

theorem singleUserStores_keyed : Keyed (·.userId) singleUserStores.users := (Keyed.empty _).insert rfl

theorem disabledSingleUser_closed :
    Closed [(1, .statusUpdated disabledSingleUser), (1, (.statusWritten disabledSingleUser : LoginEvent Unit))]
      singleUserTenantId singleUserId := by
  refine ⟨1, disabledSingleUser, [], [], [], rfl, rfl, rfl, by decide, ?_, ?_⟩
  · exact List.forall_mem_nil _
  · exact List.forall_mem_nil _

theorem disabledSingleUser_hasNoSession :
    ∃ final, run (fun machine step => machine.step singleUserEnv step) (LoginMachine.start singleUserStores)
        disableAmidLogins = some final ∧
      Closed final.history singleUserTenantId singleUserId ∧
      authenticatedActorFromHeaders final.stores.sessions id singleUserEnv.credential
        "Bearer swp_sess_0123456789abcdef" ≠ .ok singleUserActor := by
  have hsome : (run (fun machine step => machine.step singleUserEnv step) (LoginMachine.start singleUserStores)
      disableAmidLogins).isSome = true := by decide +kernel
  obtain ⟨final, hrun⟩ := Option.isSome_iff_exists.mp hsome
  have hevents : (run (fun machine step => machine.step singleUserEnv step) (LoginMachine.start singleUserStores)
      disableAmidLogins).map (·.history) =
        some [(1, .statusUpdated disabledSingleUser), (1, .statusWritten disabledSingleUser)] := by decide +kernel
  have hsession : ((run (fun machine step => machine.step singleUserEnv step) (LoginMachine.start singleUserStores)
      disableAmidLogins).bind fun final => (final.stores.sessions.lookup "swp_sess_0123456789abcdef").map fun record =>
        (record.actor, record.status)) = some (singleUserActor, .principalDisabled) := by decide +kernel
  have hmeets : Meets (fun machine step => machine.step singleUserEnv step)
      (fun machine step => machine.writesAlone singleUserEnv step = true) (LoginMachine.start singleUserStores)
      disableAmidLogins := by decide +kernel
  rw [hrun, Option.map_some, Option.some.injEq] at hevents
  rw [hrun, Option.bind_some] at hsession
  obtain ⟨record, hrecord, hfields⟩ := Option.map_eq_some_iff.mp hsession
  have hactor : record.actor = singleUserActor := congrArg Prod.fst hfields
  have hclosed : Closed final.history singleUserTenantId singleUserId := hevents ▸ disabledSingleUser_closed
  refine ⟨final, hrun, hclosed, ?_⟩
  apply (closedUser_hasNoSession singleUserStores_keyed hmeets hrun hclosed).1 "Bearer swp_sess_0123456789abcdef"
    "swp_sess_0123456789abcdef" record (by decide +kernel)
  · exact hrecord
  · rw [hactor]
    rfl
  · rw [hactor]
    rfl

theorem disabledSingleUser_logsIn :
    ∃ steps final, run (fun machine step => machine.step singleUserEnv step) (LoginMachine.start singleUserStores)
        steps = some final ∧
      Closed final.history singleUserTenantId singleUserId ∧
      authenticatedActorFromHeaders final.stores.sessions id singleUserEnv.credential
        "Bearer swp_sess_0123456789abcdef" = .ok singleUserActor ∧
      (final.stores.users.lookup singleUserId).map (·.status) = some .active := by
  have hfinal : ((run (fun machine step => machine.step singleUserEnv step) (LoginMachine.start singleUserStores)
      (logInSingleUser :: .advance 0 :: (disableSingleUser ++ [.advance 0, .advance 0]))).any fun final =>
        final.history == [(1, .statusUpdated disabledSingleUser), (1, .statusWritten disabledSingleUser)] &&
        decide (authenticatedActorFromHeaders final.stores.sessions id singleUserEnv.credential
          "Bearer swp_sess_0123456789abcdef" = .ok singleUserActor) &&
        (final.stores.users.lookup singleUserId).map (·.status) == some .active) = true := by decide +kernel
  obtain ⟨final, hrun, hholds⟩ := (Option.any_eq_true _ _).mp hfinal
  simp only [Bool.and_eq_true, beq_iff_eq, decide_eq_true_eq] at hholds
  obtain ⟨⟨hevents, hactor⟩, hactive⟩ := hholds
  exact ⟨_, final, hrun, hevents ▸ disabledSingleUser_closed, hactor, hactive⟩

end Examples

end Starweaver.Platform
