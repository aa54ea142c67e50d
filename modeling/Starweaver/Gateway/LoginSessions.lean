import Starweaver.Gateway.LoginAttempts
import Starweaver.Gateway.SessionAgreement

/-! An attempt of an external login is good for one session, for the provider that issued it and for its ten minutes,
however the handlers are interleaved. -/

namespace Starweaver.Gateway.Tenancy

open Library Library.AssocMap Library.Calendar Library.Checks Library.Interleaving Library.Machine

/-- The callback presents the state of the issued attempt in time, and the attempt has been consumed for it. -/
structure Presents (env : AuthEnv) (issued : IssuedLogin) (callback : LoginCallback) (record : LoginAttemptRecord) :
    Prop where
  record : ∃ redirectUri, record = { issued.record env redirectUri with status := .consumed }
  state : env.loginSecretHash callback.request.state = env.loginSecretHash issued.drawn.state
  inTime : callback.now < issued.now.addSeconds 600

/-- The provider has vouched for the claims, for the provider and the nonce of the attempt. -/
structure Vouched (env : AuthEnv) (callback : LoginCallback) (consumed : ConsumedLoginAttempt) (services : OidcServices)
    (claims : ExternalLoginVerifiedClaims) (session : AuthSessionRecord) : Prop where
  verified : externalLoginCallbackClaims env callback.provider services consumed callback.request callback.now =
    .ok claims
  attempt : validateExternalLoginClaimsAgainstAttempt env callback.provider consumed.record claims = .ok ()
  session : ∃ user authSessionId rawToken, user.status = .active ∧
    session = createAuthSession env user authSessionId rawToken callback.now

/-- What is known of a handler in progress. -/
def TaskLinked (env : AuthEnv) (issued : List IssuedLogin) : LoginTask → Prop
  | .storing stateHash codeVerifier =>
    ∃ login ∈ issued, env.loginSecretHash login.drawn.state = stateHash ∧ login.drawn.codeVerifier = codeVerifier
  | .taking callback record => ∃ login ∈ issued, Presents env login callback record
  | .verifying callback consumed =>
    ∃ login ∈ issued, Presents env login callback consumed.record ∧ login.drawn.codeVerifier = consumed.codeVerifier
  | .persisting callback consumed services claims session =>
    (∃ login ∈ issued, Presents env login callback consumed.record ∧
      login.drawn.codeVerifier = consumed.codeVerifier) ∧ Vouched env callback consumed services claims session

/-- The attempt that a handler has consumed. -/
def consumedBy : LoginTask → List String
  | .storing _ _ => []
  | .taking _ record => [record.stateHash]
  | .verifying _ consumed | .persisting _ consumed _ _ _ => [consumed.record.stateHash]

def OpenedSession.stateHash (opened : OpenedSession) : String := opened.consumed.record.stateHash

/-- The attempts that a callback has consumed or that a session was opened for. -/
def spent (s : LoginSystem) : List String := s.opened.map (·.stateHash) ++ s.inProgress.flatMap consumedBy

structure AttemptsLinked (env : AuthEnv) (s : LoginSystem) : Prop where
  apart : (s.issued.map fun login => env.loginSecretHash login.drawn.state).Nodup
  kept : ∀ login ∈ s.issued, (s.loginAttempts.lookup (env.loginSecretHash login.drawn.state)).isSome
  attempts : ∀ stateHash record, s.loginAttempts.lookup stateHash = some record →
    ∃ login ∈ s.issued, env.loginSecretHash login.drawn.state = stateHash ∧
      ∃ redirectUri, record = { login.record env redirectUri with status := record.status }
  verifiers : ∀ stateHash codeVerifier, s.loginAttemptCodeVerifiers.lookup stateHash = some codeVerifier →
    ∃ login ∈ s.issued, env.loginSecretHash login.drawn.state = stateHash ∧ login.drawn.codeVerifier = codeVerifier
  tasks : ∀ task ∈ s.inProgress, TaskLinked env s.issued task
  opened : ∀ opened ∈ s.opened,
    TaskLinked env s.issued
      (.persisting opened.callback opened.consumed opened.services opened.claims opened.session)
  once : (spent s).Nodup
  consumed : ∀ stateHash ∈ spent s,
    ∃ record, s.loginAttempts.lookup stateHash = some record ∧ record.status = .consumed

section Steps

variable {env : AuthEnv} {s next : LoginSystem}

theorem AttemptsLinked.start (loginProviders : Index LoginProviderRecord) (directory : DirectoryStore) :
    AttemptsLinked env (.start loginProviders directory) := by
  refine ⟨List.nodup_nil, ?_, ?_, ?_, ?_, ?_, List.nodup_nil, ?_⟩
  all_goals
    intros
    rename_i h
    cases h

theorem TaskLinked.mono {issued wider : List IssuedLogin} (hwider : issued ⊆ wider) {task : LoginTask}
    (h : TaskLinked env issued task) : TaskLinked env wider task := by
  cases task with
  | storing stateHash codeVerifier =>
    obtain ⟨login, hmem, hlogin⟩ := h
    exact ⟨login, hwider hmem, hlogin⟩
  | taking callback record =>
    obtain ⟨login, hmem, hlogin⟩ := h
    exact ⟨login, hwider hmem, hlogin⟩
  | verifying callback consumed =>
    obtain ⟨login, hmem, hlogin⟩ := h
    exact ⟨login, hwider hmem, hlogin⟩
  | persisting callback consumed services claims session =>
    obtain ⟨⟨login, hmem, hlogin⟩, hvouched⟩ := h
    exact ⟨⟨login, hwider hmem, hlogin⟩, hvouched⟩

theorem spent_perm {tasks others : List LoginTask} (hperm : s.inProgress.Perm (tasks ++ others)) :
    (spent s).Perm (tasks.flatMap consumedBy ++ spent { s with inProgress := others }) := by
  have hflat := hperm.flatMap_right consumedBy
  rw [List.flatMap_append] at hflat
  unfold spent
  refine (hflat.append_left _).trans ?_
  rw [← List.append_assoc, ← List.append_assoc]
  exact List.perm_append_comm.append_right _

/-- Handlers that leave the two tables alone and spend no attempt but the ones they hold. -/
theorem AttemptsLinked.of_spent (h : AttemptsLinked env s) (hattempts : next.loginAttempts = s.loginAttempts)
    (hissued : next.issued = s.issued)
    (hverifiers : ∀ stateHash codeVerifier, next.loginAttemptCodeVerifiers.lookup stateHash = some codeVerifier →
      ∃ login ∈ s.issued, env.loginSecretHash login.drawn.state = stateHash ∧ login.drawn.codeVerifier = codeVerifier)
    (htasks : ∀ task ∈ next.inProgress, TaskLinked env s.issued task)
    (hopened : ∀ opened ∈ next.opened,
      TaskLinked env s.issued
        (.persisting opened.callback opened.consumed opened.services opened.claims opened.session))
    (hspent : ∃ dropped, (dropped ++ spent next).Perm (spent s)) : AttemptsLinked env next := by
  obtain ⟨dropped, hperm⟩ := hspent
  refine ⟨hissued ▸ h.apart, ?_, ?_, hissued ▸ hverifiers, hissued ▸ htasks, hissued ▸ hopened, ?_, ?_⟩
  · rw [hissued, hattempts]
    exact h.kept
  · rw [hissued, hattempts]
    exact h.attempts
  · exact (List.nodup_append.mp (hperm.nodup_iff.mpr h.once)).2.1
  · intro stateHash hmem
    rw [hattempts]
    exact h.consumed stateHash (hperm.mem_iff.mp (List.mem_append_right _ hmem))

theorem AttemptsLinked.drop (h : AttemptsLinked env s) {tasks others : List LoginTask}
    (hperm : s.inProgress.Perm (tasks ++ others)) : AttemptsLinked env { s with inProgress := others } := by
  refine h.of_spent rfl rfl h.verifiers (fun task hmem => ?_) h.opened ⟨_, (spent_perm hperm).symm⟩
  exact h.tasks task (hperm.mem_iff.mpr (List.mem_append_right _ hmem))

theorem createLoginAttempt_linked (h : AttemptsLinked env s) {login : IssuedLogin} {redirectUri : String}
    (hok : createLoginAttempt env s login redirectUri = .ok next) : AttemptsLinked env next := by
  unfold createLoginAttempt at hok
  dsimp only at hok
  split at hok
  · cases hok
  rename_i hfree
  rw [Bool.not_eq_true, Option.isSome_eq_false_iff, Option.isNone_iff_eq_none] at hfree
  cases hok
  have hwider : s.issued ⊆ login :: s.issued := List.subset_cons_self _ _
  have hother {stateHash : String} (hsome : (s.loginAttempts.lookup stateHash).isSome) :
      stateHash ≠ (login.record env redirectUri).stateHash := by
    rintro rfl
    rw [hfree] at hsome
    cases hsome
  refine ⟨?_, ?_, ?_, ?_, ?_, ?_, ?_, ?_⟩
  · refine List.nodup_cons.mpr ⟨fun hmem => ?_, h.apart⟩
    obtain ⟨other, hmem, hsame⟩ := List.mem_map.mp hmem
    exact hother (h.kept other hmem) hsame
  · intro other hmem
    cases hmem with
    | head => exact (AList.lookup_insert (s := s.loginAttempts) ..) ▸ rfl
    | tail _ hmem =>
      have hkept := h.kept other hmem
      rwa [← AList.lookup_insert_ne (hother hkept)] at hkept
  · intro stateHash record hlookup
    rcases insert_some hlookup with ⟨rfl, rfl⟩ | ⟨-, hold⟩
    · exact ⟨login, List.mem_cons_self, rfl, redirectUri, rfl⟩
    · obtain ⟨other, hmem, hrecord⟩ := h.attempts stateHash record hold
      exact ⟨other, List.mem_cons_of_mem _ hmem, hrecord⟩
  · intro stateHash codeVerifier hlookup
    obtain ⟨other, hmem, hverifier⟩ := h.verifiers stateHash codeVerifier hlookup
    exact ⟨other, List.mem_cons_of_mem _ hmem, hverifier⟩
  · intro task hmem
    cases hmem with
    | head => exact ⟨login, List.mem_cons_self, rfl, rfl⟩
    | tail _ hmem => exact (h.tasks task hmem).mono hwider
  · exact fun opened hmem => (h.opened opened hmem).mono hwider
  · exact h.once
  · intro stateHash hmem
    obtain ⟨record, hlookup, hstatus⟩ := h.consumed stateHash hmem
    refine ⟨record, ?_, hstatus⟩
    dsimp only
    rw [AList.lookup_insert_ne (hother (Option.isSome_of_eq_some hlookup))]
    exact hlookup

/-- The attempt is marked, so that no other callback can spend it. -/
theorem consumeLoginAttempt_linked (h : AttemptsLinked env s) {callback : LoginCallback} {loginProviderId : String}
    (hok : consumeLoginAttempt env s callback loginProviderId = .ok next) : AttemptsLinked env next := by
  unfold consumeLoginAttempt at hok
  dsimp only at hok
  split at hok
  · cases hok
  rename_i attempt hattempt
  split at hok
  · cases hok
  rename_i hvalid
  simp only [not_or, not_not] at hvalid
  obtain ⟨-, hpending, hlive⟩ := hvalid
  cases hok
  obtain ⟨login, hmem, hstate, redirectUri, hrecord⟩ := h.attempts _ _ hattempt
  have hhash : attempt.stateHash = env.loginSecretHash callback.request.state := by
    rw [hrecord]
    exact hstate
  have hfresh : attempt.stateHash ∉ spent s := by
    intro hspent
    obtain ⟨record, hlookup, hstatus⟩ := h.consumed _ hspent
    rw [hhash, hattempt, Option.some.injEq] at hlookup
    rw [← hlookup, hpending] at hstatus
    cases hstatus
  have hspent : (spent { s with
      loginAttempts := s.loginAttempts.insert (env.loginSecretHash callback.request.state)
        { attempt with status := .consumed }
      inProgress := .taking callback { attempt with status := .consumed } :: s.inProgress }).Perm
      (attempt.stateHash :: spent s) := List.perm_middle
  have hexpires : attempt.expiresAt = login.now.addSeconds 600 := by rw [hrecord]; rfl
  refine ⟨h.apart, ?_, ?_, h.verifiers, ?_, h.opened, ?_, ?_⟩
  · intro other hother
    exact (isSome_insert_of_some hattempt _ _).trans (h.kept other hother)
  · intro stateHash record hlookup
    rcases insert_some hlookup with ⟨rfl, rfl⟩ | ⟨-, hold⟩
    · refine ⟨login, hmem, hstate, redirectUri, ?_⟩
      rw [hrecord]
    · exact h.attempts stateHash record hold
  · intro task htask
    cases htask with
    | head =>
      refine ⟨login, hmem, ⟨redirectUri, ?_⟩, hstate.symm, ?_⟩
      · rw [hrecord]
      · rw [← hexpires]
        exact not_le.mp (show ¬ attempt.expiresAt.nanos ≤ callback.now.nanos from hlive)
    | tail _ htask => exact h.tasks task htask
  · exact hspent.nodup_iff.mpr (List.nodup_cons.mpr ⟨hfresh, h.once⟩)
  · intro stateHash hmemSpent
    dsimp only
    rcases List.mem_cons.mp (hspent.mem_iff.mp hmemSpent) with rfl | hold
    · rw [hhash, AList.lookup_insert]
      exact ⟨_, rfl, rfl⟩
    · have hne : stateHash ≠ env.loginSecretHash callback.request.state := by
        rintro rfl
        exact hfresh (hhash ▸ hold)
      rw [AList.lookup_insert_ne hne]
      exact h.consumed stateHash hold

theorem activeLoginProvider_ok {loginProviderId : String} {provider : LoginProviderRecord}
    (h : activeLoginProvider s loginProviderId = .ok provider) :
    s.loginProviders.lookup loginProviderId = some provider ∧ provider.status = .active := by
  unfold activeLoginProvider at h
  split at h
  · cases h
  · rename_i found hfound
    split at h
    · cases h
    · rename_i hactive
      cases h
      exact ⟨hfound, not_not.mp hactive⟩

theorem startAuthLoginProvider_created {singleUserAuth : Bool} {loginProviderId : String}
    {authorizationEndpoint : Result String} {drawn : DrawnLogin} {now : DateTime}
    (hok : startAuthLoginProvider env s singleUserAuth loginProviderId authorizationEndpoint drawn now = .ok next) :
    ∃ provider redirectUri, activeLoginProvider s loginProviderId = .ok provider ∧
      createLoginAttempt env s ⟨provider, drawn, now⟩ redirectUri = .ok next := by
  unfold startAuthLoginProvider at hok
  split at hok
  · split at hok <;> cases hok
  obtain ⟨provider, hprovider, hok⟩ := bind_ok.mp hok
  obtain ⟨endpoint, -, hok⟩ := bind_ok.mp hok
  split at hok
  · cases hok
  split at hok
  · cases hok
  rename_i redirectUri _
  exact ⟨provider, redirectUri, hprovider, hok⟩

theorem completeAuthLoginProviderCallback_consumed {loginProviderId environment : String}
    {request : ExternalLoginCallbackRequest} {now : DateTime}
    (hok : completeAuthLoginProviderCallback env s loginProviderId request environment now = .ok next) :
    ∃ provider, consumeLoginAttempt env s ⟨provider, request, now⟩ loginProviderId = .ok next := by
  unfold completeAuthLoginProviderCallback at hok
  obtain ⟨provider, -, hok⟩ := bind_ok.mp hok
  obtain ⟨_, -, hok⟩ := bind_ok.mp hok
  obtain ⟨_, -, hok⟩ := bind_ok.mp hok
  exact ⟨provider, hok⟩

/-- A verified login goes on to store its session, or ends; the tables of the attempts stay as they are. -/
theorem verifyExternalLogin_cases {callback : LoginCallback} {consumed : ConsumedLoginAttempt}
    {services : OidcServices} {userId externalIdentityId authSessionId rawToken : String}
    (hok : verifyExternalLogin env s callback consumed services userId externalIdentityId authSessionId rawToken =
      .ok next) :
    ∃ directory, next = { s with directory := directory } ∨
      ∃ claims session, Vouched env callback consumed services claims session ∧ next = { s with
        directory := directory
        inProgress := .persisting callback consumed services claims session :: s.inProgress } := by
  unfold verifyExternalLogin at hok
  obtain ⟨claims, hclaims, hok⟩ := bind_ok.mp hok
  obtain ⟨_, hattempt, hok⟩ := bind_ok.mp hok
  obtain ⟨⟨user, identity, created, directory⟩, -, hok⟩ := bind_ok.mp hok
  refine ⟨directory, ?_⟩
  dsimp only at hok
  split at hok
  · cases hok
    exact .inl rfl
  · rename_i hactive
    cases hok
    exact .inr ⟨claims, _, ⟨hclaims, hattempt, user, authSessionId, rawToken, not_not.mp hactive, rfl⟩, rfl⟩

/-- A handler that is resumed passes its attempt on, to its next lock or to the session that it opens. -/
theorem resumeTask_linked (h : AttemptsLinked env s) {index : Nat} {task : LoginTask}
    (htask : s.inProgress[index]? = some task) (services : OidcServices)
    (userId externalIdentityId authSessionId rawToken : String) (insertAuthSession : Result Unit) :
    AttemptsLinked env (resumeTask env { s with inProgress := s.inProgress.eraseIdx index } task services userId
      externalIdentityId authSessionId rawToken insertAuthSession) := by
  have hperm : s.inProgress.Perm ([task] ++ s.inProgress.eraseIdx index) := perm_eraseIdx htask
  have hdropped := h.drop hperm
  have hlinked := h.tasks task (hperm.mem_iff.mpr List.mem_cons_self)
  have hothers : ∀ other ∈ s.inProgress.eraseIdx index, TaskLinked env s.issued other := hdropped.tasks
  have hspent := spent_perm hperm
  cases task with
  | storing stateHash codeVerifier =>
    refine h.of_spent rfl rfl (fun otherHash other hlookup => ?_) hothers h.opened ⟨[], hspent.symm⟩
    rcases insert_some hlookup with ⟨rfl, rfl⟩ | ⟨-, hold⟩
    · exact hlinked
    · exact h.verifiers otherHash other hold
  | taking callback record =>
    dsimp only [resumeTask]
    split
    · exact hdropped
    rename_i codeVerifier hverifier
    obtain ⟨login, hmem, hpresents⟩ := hlinked
    refine h.of_spent rfl rfl (fun otherHash other hlookup => ?_) (fun other hother => ?_) h.opened ⟨[], ?_⟩
    · exact h.verifiers otherHash other (erase_some hlookup)
    · rcases List.mem_cons.mp hother with rfl | hother
      · obtain ⟨holder, hholder, hstate, hdrawn⟩ := h.verifiers _ _ hverifier
        obtain ⟨redirectUri, hrecord⟩ := hpresents.record
        have hsame : env.loginSecretHash holder.drawn.state = env.loginSecretHash login.drawn.state := by
          rw [hstate, hrecord]
          rfl
        have hholderEq : holder = login := List.inj_on_of_nodup_map h.apart hholder hmem hsame
        exact ⟨login, hmem, hpresents, hholderEq ▸ hdrawn⟩
      · exact hothers other hother
    · exact List.perm_middle.trans hspent.symm
  | verifying callback consumed =>
    dsimp only [resumeTask]
    split
    · exact hdropped
    rename_i next hok
    obtain ⟨directory, rfl | ⟨claims, session, hvouched, rfl⟩⟩ := verifyExternalLogin_cases hok
    · exact hdropped.of_spent rfl rfl hdropped.verifiers hothers h.opened ⟨[], .refl _⟩
    · refine h.of_spent rfl rfl h.verifiers (fun other hother => ?_) h.opened ⟨[], ?_⟩
      · rcases List.mem_cons.mp hother with rfl | hother
        · exact ⟨hlinked, hvouched⟩
        · exact hothers other hother
      · exact List.perm_middle.trans hspent.symm
  | persisting callback consumed services claims session =>
    dsimp only [resumeTask]
    split
    · exact hdropped
    · refine h.of_spent rfl rfl h.verifiers hothers (fun opened hopened => ?_) ⟨[], hspent.symm⟩
      rcases List.mem_cons.mp hopened with rfl | hopened
      · exact hlinked
      · exact h.opened opened hopened

theorem loginStep_linked {action : LoginAction} (h : AttemptsLinked env s) (hstep : loginStep env s action = some next) :
    AttemptsLinked env next := by
  cases action with
  | startAuthLoginProvider singleUserAuth loginProviderId authorizationEndpoint drawn now =>
    dsimp only [loginStep] at hstep
    split at hstep
    · cases hstep
      exact h
    · rename_i started hok
      cases hstep
      obtain ⟨provider, redirectUri, -, hcreated⟩ := startAuthLoginProvider_created hok
      exact createLoginAttempt_linked h hcreated
  | completeAuthLoginProviderCallback loginProviderId request environment now =>
    dsimp only [loginStep] at hstep
    split at hstep
    · cases hstep
      exact h
    · rename_i completed hok
      cases hstep
      obtain ⟨provider, hconsumed⟩ := completeAuthLoginProviderCallback_consumed hok
      exact consumeLoginAttempt_linked h hconsumed
  | resume task services userId externalIdentityId authSessionId rawToken insertAuthSession =>
    dsimp only [loginStep] at hstep
    split at hstep
    · cases hstep
    · rename_i found hfound
      cases hstep
      exact resumeTask_linked h hfound services userId externalIdentityId authSessionId rawToken insertAuthSession
  | elsewhere loginProviders directory =>
    cases hstep
    exact h.of_spent rfl rfl h.verifiers h.tasks h.opened ⟨[], .refl _⟩

end Steps

section Runs

variable {env : AuthEnv} {loginProviders : Index LoginProviderRecord} {directory : DirectoryStore}
  {actions : List LoginAction} {s : LoginSystem}

theorem run_linked (hrun : run (loginStep env) (.start loginProviders directory) actions = some s) :
    AttemptsLinked env s :=
  run_invariant_always (fun _ _ _ h hstep => loginStep_linked h hstep) (.start loginProviders directory) hrun

theorem OpenedSession.presents (h : AttemptsLinked env s) {opened : OpenedSession} (hmem : opened ∈ s.opened) :
    ∃ login ∈ s.issued, Presents env login opened.callback opened.consumed.record ∧
      login.drawn.codeVerifier = opened.consumed.codeVerifier :=
  (h.opened opened hmem).1

theorem OpenedSession.stateHash_eq (h : AttemptsLinked env s) {opened : OpenedSession} (hmem : opened ∈ s.opened) :
    opened.stateHash = env.loginSecretHash opened.callback.request.state := by
  obtain ⟨login, -, hpresents, -⟩ := OpenedSession.presents h hmem
  obtain ⟨redirectUri, hrecord⟩ := hpresents.record
  rw [OpenedSession.stateHash, hrecord, hpresents.state]
  rfl

theorem AttemptsLinked.opened_nodup (h : AttemptsLinked env s) :
    (s.opened.map fun opened => env.loginSecretHash opened.callback.request.state).Nodup := by
  have honce := (List.nodup_append.mp h.once).1
  rwa [List.map_congr_left fun opened hmem => OpenedSession.stateHash_eq h hmem] at honce

/-- However the handlers are interleaved, one state opens one session at most. -/
theorem openedSessions_once (hrun : run (loginStep env) (.start loginProviders directory) actions = some s) :
    (s.opened.map fun opened => env.loginSecretHash opened.callback.request.state).Nodup :=
  (run_linked hrun).opened_nodup

/-- The code of the callback was exchanged with the verifier of the start, and the id token that the token endpoint
gave for it carries the subject of the claims and the nonce of the start. -/
structure Exchanged (env : AuthEnv) (login : IssuedLogin) (opened : OpenedSession) (metadata : OidcProviderMetadata)
    (request : OidcTokenRequest) (idToken : String) (token : OidcIdTokenClaims) : Prop where
  resolved : opened.services.metadata = .ok metadata
  endpoint : request.tokenEndpoint = metadata.tokenEndpoint
  form : [("grant_type", "authorization_code"), ("code", Library.Text.trim opened.callback.request.code),
    ("redirect_uri", opened.consumed.record.redirectUri), ("code_verifier", login.drawn.codeVerifier)] <+: request.form
  answered : opened.services.idToken request = some idToken
  accepted : ∃ clientId ∈ token.aud, loginConfigString opened.callback.provider.configDocument "client_id" = some clientId ∧
    opened.services.decode metadata clientId idToken = some token
  nonce : token.nonce.map env.loginSecretHash = some (env.loginSecretHash login.drawn.nonce)
  claims : opened.claims.subject = token.sub ∧ opened.claims.nonce = token.nonce ∧
    opened.claims.issuer = some token.iss

/-- What a session rests on: one start, its provider, its ten minutes, its nonce and its verifier. -/
structure RestsOn (env : AuthEnv) (login : IssuedLogin) (opened : OpenedSession) : Prop where
  state : env.loginSecretHash opened.callback.request.state = env.loginSecretHash login.drawn.state
  provider : opened.callback.provider.tenantId = login.provider.tenantId ∧
    opened.callback.provider.loginProviderId = login.provider.loginProviderId ∧
    opened.callback.provider.providerKind = login.provider.providerKind
  inTime : opened.callback.now < login.now.addSeconds 600
  nonce : login.provider.providerKind = "oidc" →
    opened.claims.nonce.map env.loginSecretHash = some (env.loginSecretHash login.drawn.nonce)
  codeVerifier : opened.consumed.codeVerifier = login.drawn.codeVerifier
  exchanged : usesLocalVerifiedClaims opened.callback.provider = false →
    ∃ metadata request idToken token, Exchanged env login opened metadata request idToken token
  localClaims : usesLocalVerifiedClaims opened.callback.provider = true →
    opened.callback.request.verifiedClaims = some opened.claims
  subject : Library.Text.trim opened.claims.subject ≠ ""
  session : opened.session.status = .active ∧
    opened.session.expiresAt = opened.callback.now.addSeconds defaultAuthSessionTtlSeconds

theorem validateExternalLoginClaims_subject {provider : LoginProviderRecord} {claims : ExternalLoginVerifiedClaims}
    {now : DateTime} (h : validateExternalLoginClaims provider claims now = .ok ()) :
    Library.Text.trim claims.subject ≠ "" := by
  unfold validateExternalLoginClaims at h
  split at h
  · cases h
  · assumption

theorem requiredLoginConfigString_ok {provider : LoginProviderRecord} {field value : String}
    (h : requiredLoginConfigString provider field = .ok value) :
    loginConfigString provider.configDocument field = some value := by
  unfold requiredLoginConfigString at h
  split at h
  · split at h
    · cases h
    · cases h
      assumption
  · cases h

theorem oidcTokenRequest_ok {provider : LoginProviderRecord} {services : OidcServices} {consumed : ConsumedLoginAttempt}
    {request : ExternalLoginCallbackRequest} {metadata : OidcProviderMetadata} {tokenRequest : OidcTokenRequest}
    (h : oidcTokenRequest provider services consumed request metadata = .ok tokenRequest) :
    tokenRequest.tokenEndpoint = metadata.tokenEndpoint ∧
      [("grant_type", "authorization_code"), ("code", Library.Text.trim request.code),
        ("redirect_uri", consumed.record.redirectUri), ("code_verifier", consumed.codeVerifier)] <+:
          tokenRequest.form := by
  obtain ⟨clientId, -, h⟩ := bind_ok.mp h
  obtain ⟨clientSecretRef, -, h⟩ := bind_ok.mp h
  split at h
  · cases h
  dsimp only at h
  split at h
  · cases h
    exact ⟨rfl, List.prefix_rfl⟩
  · split at h
    · cases h
      exact ⟨rfl, List.prefix_append _ _⟩
    · cases h

theorem validateOidcIdToken_ok {provider : LoginProviderRecord} {services : OidcServices}
    {consumed : ConsumedLoginAttempt} {metadata : OidcProviderMetadata} {idToken : String}
    {claims : ExternalLoginVerifiedClaims}
    (h : validateOidcIdToken env provider services consumed metadata idToken = .ok claims) :
    ∃ token, (∃ clientId ∈ token.aud, loginConfigString provider.configDocument "client_id" = some clientId ∧
        services.decode metadata clientId idToken = some token) ∧
      consumed.record.nonceHash = token.nonce.map env.loginSecretHash ∧
      claims.subject = token.sub ∧ claims.nonce = token.nonce ∧ claims.issuer = some token.iss := by
  obtain ⟨clientId, hclient, h⟩ := bind_ok.mp h
  split at h
  · cases h
  rename_i token hdecoded
  split at h
  · cases h
  rename_i haudience
  split at h
  · cases h
  rename_i nonce hnonce
  split at h
  · cases h
  rename_i hsame
  split at h
  · cases h
  cases h
  refine ⟨token, ⟨clientId, not_not.mp haudience, requiredLoginConfigString_ok hclient, hdecoded⟩, ?_, rfl, ?_, rfl⟩
  · rw [not_not.mp hsame, hnonce, Option.map_some]
  · exact hnonce.symm

/-- The claims of a callback are its own ones of a local provider, or those of the id token that the token endpoint
gave for the code and the verifier of the attempt. -/
theorem externalLoginCallbackClaims_ok {provider : LoginProviderRecord} {services : OidcServices}
    {consumed : ConsumedLoginAttempt} {request : ExternalLoginCallbackRequest} {now : DateTime}
    {claims : ExternalLoginVerifiedClaims}
    (h : externalLoginCallbackClaims env provider services consumed request now = .ok claims) :
    validateExternalLoginClaims provider claims now = .ok () ∧
      ((usesLocalVerifiedClaims provider = true ∧ request.verifiedClaims = some claims) ∨
        (usesLocalVerifiedClaims provider = false ∧ provider.providerKind = "oidc" ∧ ∃ metadata tokenRequest idToken,
          services.metadata = .ok metadata ∧
          oidcTokenRequest provider services consumed request metadata = .ok tokenRequest ∧
          services.idToken tokenRequest = some idToken ∧
          validateOidcIdToken env provider services consumed metadata idToken = .ok claims)) := by
  unfold externalLoginCallbackClaims at h
  split at h
  · rename_i hlocal
    split at h
    · cases h
    · rename_i presented hpresented
      obtain ⟨_, hvalid, hclaims⟩ := bind_ok.mp h
      cases hclaims
      exact ⟨hvalid, .inl ⟨hlocal, hpresented⟩⟩
  · rename_i hremote
    split at h
    · rename_i hoidc
      obtain ⟨metadata, hmetadata, h⟩ := bind_ok.mp h
      obtain ⟨idToken, hexchange, h⟩ := bind_ok.mp h
      obtain ⟨verified, hverified, h⟩ := bind_ok.mp h
      obtain ⟨_, hvalid, hclaims⟩ := bind_ok.mp h
      cases hclaims
      obtain ⟨tokenRequest, hrequest, hanswer⟩ := bind_ok.mp hexchange
      have hidToken : services.idToken tokenRequest = some idToken := by
        split at hanswer
        · cases hanswer
        · split at hanswer
          · cases hanswer
          · cases hanswer
            assumption
      exact ⟨hvalid, .inr ⟨by simpa using hremote, hoidc, metadata, tokenRequest, idToken, hmetadata, hrequest, hidToken,
        hverified⟩⟩
    · cases h

theorem Vouched.restsOn {login : IssuedLogin} {opened : OpenedSession}
    (hvouched : Vouched env opened.callback opened.consumed opened.services opened.claims opened.session)
    (hpresents : Presents env login opened.callback opened.consumed.record)
    (hverifier : login.drawn.codeVerifier = opened.consumed.codeVerifier) : RestsOn env login opened := by
  obtain ⟨hclaims, hattempt, user, authSessionId, rawToken, -, hsession⟩ := hvouched
  obtain ⟨redirectUri, hrecord⟩ := hpresents.record
  obtain ⟨hvalid, hsource⟩ := externalLoginCallbackClaims_ok hclaims
  unfold validateExternalLoginClaimsAgainstAttempt at hattempt
  split at hattempt
  · cases hattempt
  rename_i hprovider
  split at hattempt
  · cases hattempt
  rename_i hnonce
  have hissued : login.provider.providerKind = "oidc" →
      opened.consumed.record.nonceHash = some (env.loginSecretHash login.drawn.nonce) := by
    intro hoidc
    simp [hrecord, IssuedLogin.record, IssuedLogin.nonce, hoidc]
  rw [hrecord] at hprovider
  simp only [IssuedLogin.record, not_or, not_not] at hprovider
  have hkind := hprovider.2.2.symm
  refine ⟨hpresents.state, ⟨hprovider.1.symm, hprovider.2.1.symm, hkind⟩, hpresents.inTime, ?_, hverifier.symm,
    fun hremote => ?_, fun hlocal => ?_, validateExternalLoginClaims_subject hvalid, ?_⟩
  · intro hoidc
    rw [← hissued hoidc]
    exact (not_not.mp fun hne => hnonce ⟨hkind.trans hoidc, hne⟩).symm
  · rcases hsource with ⟨hlocal, -⟩ | ⟨-, hoidc, metadata, request, idToken, hmetadata, hrequest, hidToken, htoken⟩
    · cases hremote.symm.trans hlocal
    obtain ⟨hendpoint, hform⟩ := oidcTokenRequest_ok hrequest
    obtain ⟨token, haccepted, htokenNonce, hsame⟩ := validateOidcIdToken_ok htoken
    refine ⟨metadata, request, idToken, token, hmetadata, hendpoint, ?_, hidToken, haccepted, ?_, hsame⟩
    · rw [hverifier]
      exact hform
    · rw [← htokenNonce]
      exact hissued (hkind.symm.trans hoidc)
  · rcases hsource with ⟨-, hpresented⟩ | ⟨hremote, -⟩
    · exact hpresented
    · cases hremote.symm.trans hlocal
  · rw [hsession]
    exact ⟨rfl, rfl⟩

/-- The start is one of the actions, at a time when its provider was active. -/
def StartedIn (actions : List LoginAction) (login : IssuedLogin) : Prop :=
  login.provider.status = .active ∧ ∃ singleUserAuth loginProviderId authorizationEndpoint,
    .startAuthLoginProvider singleUserAuth loginProviderId authorizationEndpoint login.drawn login.now ∈ actions

theorem loginStep_issued {action : LoginAction} {next : LoginSystem} (hstep : loginStep env s action = some next) :
    ∀ login ∈ next.issued, login ∈ s.issued ∨ StartedIn [action] login := by
  intro login hmem
  cases action with
  | startAuthLoginProvider singleUserAuth loginProviderId authorizationEndpoint drawn now =>
    dsimp only [loginStep] at hstep
    split at hstep
    · cases hstep
      exact .inl hmem
    · rename_i started hok
      cases hstep
      obtain ⟨provider, redirectUri, hprovider, hcreated⟩ := startAuthLoginProvider_created hok
      unfold createLoginAttempt at hcreated
      dsimp only at hcreated
      split at hcreated
      · cases hcreated
      · cases hcreated
        rcases List.mem_cons.mp hmem with rfl | hmem
        · exact .inr ⟨(activeLoginProvider_ok hprovider).2, singleUserAuth, loginProviderId, authorizationEndpoint,
            List.mem_cons_self⟩
        · exact .inl hmem
  | completeAuthLoginProviderCallback loginProviderId request environment now =>
    dsimp only [loginStep] at hstep
    split at hstep
    · cases hstep
      exact .inl hmem
    · rename_i completed hok
      cases hstep
      obtain ⟨provider, hconsumed⟩ := completeAuthLoginProviderCallback_consumed hok
      unfold consumeLoginAttempt at hconsumed
      dsimp only at hconsumed
      split at hconsumed
      · cases hconsumed
      split at hconsumed
      · cases hconsumed
      · cases hconsumed
        exact .inl hmem
  | resume task services userId externalIdentityId authSessionId rawToken insertAuthSession =>
    dsimp only [loginStep] at hstep
    split at hstep
    · cases hstep
    rename_i found hfound
    cases hstep
    left
    cases found with
    | storing stateHash codeVerifier => exact hmem
    | taking callback record =>
      dsimp only [resumeTask] at hmem
      split at hmem
      · exact hmem
      · exact hmem
    | verifying callback consumed =>
      dsimp only [resumeTask] at hmem
      split at hmem
      · exact hmem
      · rename_i next hok
        obtain ⟨directory, rfl | ⟨claims, session, -, rfl⟩⟩ := verifyExternalLogin_cases hok
        · exact hmem
        · exact hmem
    | persisting callback consumed services claims session =>
      dsimp only [resumeTask] at hmem
      split at hmem
      · exact hmem
      · exact hmem
  | elsewhere loginProviders directory =>
    cases hstep
    exact .inl hmem

theorem StartedIn.mono {wider : List LoginAction} (hwider : actions ⊆ wider) {login : IssuedLogin}
    (h : StartedIn actions login) : StartedIn wider login := by
  obtain ⟨hactive, singleUserAuth, loginProviderId, authorizationEndpoint, hmem⟩ := h
  exact ⟨hactive, singleUserAuth, loginProviderId, authorizationEndpoint, hwider hmem⟩

theorem run_issued {start : LoginSystem} (hrun : run (loginStep env) start actions = some s) :
    ∀ login ∈ s.issued, login ∈ start.issued ∨ StartedIn actions login := by
  induction actions generalizing start with
  | nil =>
    cases hrun
    exact fun login hmem => .inl hmem
  | cons action actions ih =>
    obtain ⟨next, hnext, hrest⟩ := run_cons hrun
    intro login hmem
    rcases ih hrest login hmem with hbefore | hstarted
    · rcases loginStep_issued hnext login hbefore with hstart | hstarted
      · exact .inl hstart
      · exact .inr (hstarted.mono (by simp))
    · exact .inr (hstarted.mono (List.subset_cons_self _ _))

/-- Every session that an external login opens rests on one start among the actions, and no other session does. -/
theorem openedSessions_started (hrun : run (loginStep env) (.start loginProviders directory) actions = some s) :
    ∀ opened ∈ s.opened, ∃ login, StartedIn actions login ∧ RestsOn env login opened ∧
      ∀ other ∈ s.opened, RestsOn env login other → other = opened := by
  have hlinked := run_linked hrun
  intro opened hmem
  obtain ⟨login, hissued, hpresents, hverifier⟩ := OpenedSession.presents hlinked hmem
  have hrests := (hlinked.opened opened hmem).2.restsOn hpresents hverifier
  refine ⟨login, ?_, hrests, fun other hother hrests' => ?_⟩
  · rcases run_issued hrun login hissued with hstart | hstarted
    · cases hstart
    · exact hstarted
  · have hsame : env.loginSecretHash other.callback.request.state =
        env.loginSecretHash opened.callback.request.state := hrests'.state.trans hrests.state.symm
    exact List.inj_on_of_nodup_map hlinked.opened_nodup hother hmem hsame

end Runs

def oidcProvider : LoginProviderRecord where
  loginProviderId := "lpr_1"
  tenantId := "ten_1"
  providerKind := "oidc"
  configDocument := .object [("issuer", .string "https://issuer.example"), ("client_id", .string "client_1"),
    ("client_secret_ref", .string "sec_1"), ("redirect_uri", .string "https://gateway.example/callback"),
    ("authorization_url", .string "https://issuer.example/authorize")]
  status := .active

def drawnLogin : DrawnLogin := ⟨"gwst_1", "gwnc_1", "verifier_1"⟩

def idToken : OidcIdTokenClaims :=
  ⟨"https://issuer.example", "subject_1", ["client_1"], 3600, some "gwnc_1", none, false, some "Subject", none⟩

/-- A provider that gives the id token only for the code and the verifier that belong together. -/
def oidcServices : OidcServices where
  metadata := .ok ⟨"https://issuer.example", "https://issuer.example/token", "https://issuer.example/keys", ["RS256"]⟩
  secretValue secretRef := if secretRef = "sec_1" then some "secret" else none
  idToken request :=
    if request.form.lookup "code" = some "code_1" ∧ request.form.lookup "code_verifier" = some "verifier_1" then
      some "token_1"
    else none
  decode _ clientId token := if clientId = "client_1" ∧ token = "token_1" then some idToken else none

def resumed (task : Nat) : LoginAction :=
  .resume task oidcServices "usr_1" "eid_1" "sess_1" "sws_1" (.ok ())

/-- A login whose callback is presented twice while the first one is still in progress. -/
def replayedLogin : List LoginAction :=
  [.startAuthLoginProvider false "lpr_1" (.ok "") drawnLogin ⟨0⟩, resumed 0,
    .completeAuthLoginProviderCallback "lpr_1" ⟨"gwst_1", "code_1", none⟩ "production" ⟨1⟩,
    .completeAuthLoginProviderCallback "lpr_1" ⟨"gwst_1", "code_1", none⟩ "production" ⟨2⟩,
    resumed 0, resumed 0, resumed 0]

def oidcProviders : Index LoginProviderRecord := (∅ : Index LoginProviderRecord).insert "lpr_1" oidcProvider

theorem replayedLogin_run :
    ∃ s, run (loginStep sampleAuthEnv) (.start oidcProviders (.fresh .empty)) replayedLogin = some s ∧
      s.opened.length = 1 := by
  have hrun : ((run (loginStep sampleAuthEnv) (.start oidcProviders (.fresh .empty)) replayedLogin).map
      fun s => s.opened.length) = some 1 := by
    decide +kernel
  exact Option.map_eq_some_iff.mp hrun

theorem openedSessions_once_replayed :
    ∃ s, run (loginStep sampleAuthEnv) (.start oidcProviders (.fresh .empty)) replayedLogin = some s ∧
      s.opened.length = 1 ∧
      (s.opened.map fun opened => sampleAuthEnv.loginSecretHash opened.callback.request.state).Nodup := by
  obtain ⟨s, hrun, hlength⟩ := replayedLogin_run
  exact ⟨s, hrun, hlength, openedSessions_once hrun⟩

theorem openedSessions_started_replayed :
    ∃ s opened login, run (loginStep sampleAuthEnv) (.start oidcProviders (.fresh .empty)) replayedLogin = some s ∧
      opened ∈ s.opened ∧ StartedIn replayedLogin login ∧ RestsOn sampleAuthEnv login opened := by
  obtain ⟨s, hrun, hlength⟩ := replayedLogin_run
  obtain ⟨opened, hopened⟩ := List.length_eq_one_iff.mp hlength
  have hmem : opened ∈ s.opened := by
    rw [hopened]
    exact List.mem_cons_self
  obtain ⟨login, hstarted, hrests, -⟩ := openedSessions_started hrun opened hmem
  exact ⟨s, opened, login, hrun, hmem, hstarted, hrests⟩

end Starweaver.Gateway.Tenancy
