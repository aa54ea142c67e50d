import Starweaver.Platform.LoginMachine

namespace Starweaver.Platform

open Library.AssocMap Library.Checks Library.Machine Library.OrderedMap

section Verified

variable {κ : Type}

/-- What the handler has checked of the attempt and of the ID token before it completes a login. -/
structure VerifiedLogin.Checked (env : LoginEnv κ) (login : VerifiedLogin κ) : Prop where
  attempt : validateOidcCallbackAttempt env.hashes login.provider login.attempt login.call.request login.call.nowUnix =
    .ok ()
  metadata : ∃ discovery, resolveOidcProviderMetadata login.provider discovery = .ok login.metadata
  token : validateOidcIdToken env.library login.metadata login.jwks login.idToken login.call.request.nonce
    login.call.nowUnix = .ok login.claims

/-- The ID token was signed under a usable key of the provider, for this provider, request and time. -/
def VerifiedLogin.TokenVerified (env : LoginEnv κ) (signed : String → κ → Algorithm → Prop) (login : VerifiedLogin κ) :
    Prop :=
  ∃ header jwk, env.library.decodeHeader login.idToken = some header ∧
    oidcAlgorithmIsAsymmetric header.alg = true ∧
    header.alg ∈ login.metadata.supportedIdTokenAlgorithms.filterMap oidcAlgorithmFromStr ∧
    jwk ∈ login.jwks ∧ signed login.idToken jwk.material header.alg ∧
    (∀ keyUse, jwk.publicKeyUse = some keyUse → keyUse = .signature) ∧
    (∀ name, jwk.keyAlgorithm = some name → oidcAlgorithmFromStr name = some header.alg) ∧
    (∀ kid, header.kid = some kid → jwk.keyId = some kid) ∧
    login.claims.issuer = login.provider.issuerUrl ∧
    (∃ audience ∈ login.claims.audiences, audience ∈ login.provider.acceptedAudiences) ∧
    login.claims.nonce = login.call.request.nonce ∧
    login.call.nowUnix < login.claims.expiresAtUnix

/-- The parts of an attempt that its consumption does not change. -/
structure SameAttempt (left right : OidcLoginAttemptRecord) : Prop where
  loginAttemptId : left.loginAttemptId = right.loginAttemptId
  tenantId : left.tenantId = right.tenantId
  identityProviderId : left.identityProviderId = right.identityProviderId
  stateHash : left.stateHash = right.stateHash
  nonceHash : left.nonceHash = right.nonceHash
  pkceVerifierHash : left.pkceVerifierHash = right.pkceVerifierHash

theorem SameAttempt.refl (attempt : OidcLoginAttemptRecord) : SameAttempt attempt attempt :=
  ⟨rfl, rfl, rfl, rfl, rfl, rfl⟩

theorem SameAttempt.consumed {left right : OidcLoginAttemptRecord} (h : SameAttempt left right) (consumedAtUnix : Int) :
    SameAttempt (left.consumed consumedAtUnix) right :=
  ⟨h.loginAttemptId, h.tenantId, h.identityProviderId, h.stateHash, h.nonceHash, h.pkceVerifierHash⟩

/-- No two attempts have one id: the ids are drawn afresh. -/
def DistinctAttempts (attempts : Index OidcLoginAttemptRecord) : Prop :=
  ∀ key other left right, attempts.lookup key = some left → attempts.lookup other = some right →
    left.loginAttemptId = right.loginAttemptId → key = other

theorem validateOidcCallbackAttempt_ok {hashes : LoginHashes} {provider : OidcLoginProviderRecord}
    {attempt : OidcLoginAttemptRecord} {request : OidcLoginCallbackRequest} {nowUnix : Int}
    (h : validateOidcCallbackAttempt hashes provider attempt request nowUnix = .ok ()) :
    attempt.stateHash = hashes.loginState (Library.Text.trim request.state) ∧
      attempt.nonceHash = hashes.loginNonce (Library.Text.trim request.nonce) ∧
      attempt.pkceVerifierHash = hashes.pkceVerifier (Library.Text.trim request.codeVerifier) := by
  unfold validateOidcCallbackAttempt at h
  split at h
  · cases h
  split at h
  · cases h
  split at h
  · cases h
  rename_i hstate
  split at h
  · cases h
  rename_i hnonce
  split at h
  · cases h
  rename_i hverifier
  exact ⟨not_not.mp hstate, not_not.mp hnonce, not_not.mp hverifier⟩

theorem resolveOidcProviderMetadata_ok {provider : OidcLoginProviderRecord} {discovery : Option OidcDiscoveryDocument}
    {metadata : OidcResolvedProviderMetadata} (h : resolveOidcProviderMetadata provider discovery = .ok metadata) :
    metadata.issuerUrl = provider.issuerUrl ∧ metadata.acceptedAudiences = provider.acceptedAudiences := by
  obtain ⟨-, h⟩ := bind_unit_ok.mp h
  split at h
  · cases h
  obtain ⟨authorizationEndpoint, -, h⟩ := bind_ok.mp h
  obtain ⟨tokenEndpoint, -, h⟩ := bind_ok.mp h
  obtain ⟨jwksUri, -, h⟩ := bind_ok.mp h
  obtain ⟨-, h⟩ := bind_unit_ok.mp h
  obtain ⟨-, h⟩ := bind_unit_ok.mp h
  obtain ⟨-, h⟩ := bind_unit_ok.mp h
  obtain ⟨algorithms, -, h⟩ := bind_ok.mp h
  cases h
  exact ⟨rfl, rfl⟩

/-- The selected key is one of the set that is usable for the token. -/
theorem selectOidcJwk_ok {jwks : List (Jwk κ)} {kid : Option String} {algorithm : Algorithm} {jwk : Jwk κ}
    (h : selectOidcJwk jwks kid algorithm = .ok jwk) : jwk ∈ jwks ∧ oidcJwkIsUsable jwk kid algorithm = true := by
  have hcandidate : jwk ∈ jwks.filter fun jwk => oidcJwkIsUsable jwk kid algorithm := by
    unfold selectOidcJwk at h
    simp only at h
    split at h
    · split at h
      · cases h
      · rename_i hfound
        cases h
        exact List.mem_of_find?_eq_some hfound
    · rename_i hsingle
      cases h
      rw [hsingle]
      exact List.mem_singleton_self jwk
    · cases h
  exact List.mem_filter.mp hcandidate

theorem oidcJwkIsUsable_true {jwk : Jwk κ} {kid : Option String} {algorithm : Algorithm}
    (h : oidcJwkIsUsable jwk kid algorithm = true) :
    (∀ keyUse, jwk.publicKeyUse = some keyUse → keyUse = .signature) ∧
      (∀ name, jwk.keyAlgorithm = some name → oidcAlgorithmFromStr name = some algorithm) ∧
      ∀ id, kid = some id → jwk.keyId = some id := by
  unfold oidcJwkIsUsable at h
  split at h
  · cases h
  rename_i huse
  split at h
  · cases h
  rename_i hkid
  refine ⟨fun keyUse hkeyUse => ?_, fun name hname => ?_, fun id hid => ?_⟩
  · by_contra hother
    exact huse (by simp [hkeyUse, hother])
  · simpa [hname] using h
  · subst hid
    simpa using hkid

theorem validateOidcClaimsAgainstMetadata_ok {metadata : OidcResolvedProviderMetadata} {claims : OidcVerifiedClaims}
    {expectedNonce : String} {nowUnix : Int}
    (h : validateOidcClaimsAgainstMetadata metadata claims expectedNonce nowUnix = .ok ()) :
    claims.issuer = metadata.issuerUrl ∧ (∃ audience ∈ claims.audiences, audience ∈ metadata.acceptedAudiences) ∧
      claims.nonce = expectedNonce ∧ nowUnix < claims.expiresAtUnix := by
  unfold validateOidcClaimsAgainstMetadata at h
  split at h
  · cases h
  rename_i hissuer
  split at h
  · cases h
  split at h
  · cases h
  rename_i haudience
  split at h
  · cases h
  rename_i hnonce
  split at h
  · cases h
  rename_i hexpiry
  refine ⟨not_not.mp hissuer, ?_, not_not.mp hnonce, not_le.mp hexpiry⟩
  simpa using haudience

/-- A login that has passed its checks has a verified token, when only signed tokens are decoded. -/
theorem VerifiedLogin.Checked.verified {env : LoginEnv κ} {signed : String → κ → Algorithm → Prop}
    (hdecode : ∀ token key algorithm issuer audiences claims,
      env.library.decode token key algorithm issuer audiences = some claims → signed token key algorithm)
    {login : VerifiedLogin κ} (h : login.Checked env) : login.TokenVerified env signed := by
  obtain ⟨discovery, hmetadata⟩ := h.metadata
  obtain ⟨hissuer, haudiences⟩ := resolveOidcProviderMetadata_ok hmetadata
  have htoken := h.token
  unfold validateOidcIdToken at htoken
  split at htoken
  · cases htoken
  rename_i header hheader
  simp only at htoken
  split at htoken
  · cases htoken
  rename_i halgorithm
  simp only [Bool.or_eq_true, Bool.not_eq_true', not_or, Bool.not_eq_false, List.any_eq_true, beq_iff_eq] at halgorithm
  obtain ⟨⟨supported, hsupported, rfl⟩, hasymmetric⟩ := halgorithm
  obtain ⟨jwk, hjwk, htoken⟩ := bind_ok.mp htoken
  obtain ⟨hmem, husable⟩ := selectOidcJwk_ok hjwk
  obtain ⟨hkeyUse, hkeyAlgorithm, hkid⟩ := oidcJwkIsUsable_true husable
  split at htoken
  · cases htoken
  rename_i decoded hdecoded
  obtain ⟨hclaims, htoken⟩ := bind_unit_ok.mp htoken
  obtain ⟨hclaimIssuer, hclaimAudience, hclaimNonce, hclaimExpiry⟩ := validateOidcClaimsAgainstMetadata_ok hclaims
  have hlogin : login.claims = _ := (Except.ok.inj htoken).symm
  refine ⟨header, jwk, hheader, hasymmetric, hsupported, hmem, hdecode _ _ _ _ _ _ hdecoded, hkeyUse, hkeyAlgorithm,
    hkid, ?_, ?_, ?_, ?_⟩
  · rw [hlogin, ← hissuer]
    exact hclaimIssuer
  · rw [hlogin, ← haudiences]
    exact hclaimAudience
  · rw [hlogin]
    exact hclaimNonce
  · rw [hlogin]
    exact hclaimExpiry

end Verified

section Stages

variable {completion : OidcLoginCompletionRecord} {progress : LoginProgress} {stores : LoginStores}

/-- The consumption marks an active attempt that the completion names. -/
theorem consumeAttempt_ok {attempts changed : Index OidcLoginAttemptRecord} {stateHash : String}
    (h : consumeAttempt attempts completion stateHash = .ok changed) :
    ∃ attempt, attempts.lookup stateHash = some attempt ∧ attempt.status = .active ∧
      completion.consumedAtUnix < attempt.expiresAtUnix ∧ completion.names attempt = true ∧
      changed = attempts.insert stateHash (attempt.consumed completion.consumedAtUnix) := by
  unfold consumeAttempt at h
  split at h
  · cases h
  rename_i attempt hattempt
  split at h
  · cases h
  rename_i hchecks
  cases h
  simp only [not_or, not_not, not_le, Bool.not_eq_true', Bool.not_eq_false] at hchecks
  obtain ⟨hactive, hexpiry, hnames⟩ := hchecks
  exact ⟨attempt, hattempt, hactive, hexpiry, hnames, rfl⟩

theorem LoginStage.run_attempts_other (completion : OidcLoginCompletionRecord) (progress : LoginProgress)
    (stores : LoginStores) {stage : LoginStage} (h : stage ≠ .consumeAttempt) :
    (stage.run completion progress stores).1.attempts = stores.attempts := by
  cases stage with
  | consumeAttempt => exact (h rfl).elim
  | readUser | linkIdentity | findAttempt => rfl
  | recordUser | recordSession | recordOrganizationMember | recordProjectMember | recordRoleBinding =>
    rw [run]
    apply wrote_keeps fun stores => stores.attempts
    exact fun _ => rfl

theorem LoginStage.run_consumeAttempt (completion : OidcLoginCompletionRecord) (progress : LoginProgress)
    (stores : LoginStores) :
    (∃ error, LoginStage.consumeAttempt.run completion progress stores = (stores, .error error)) ∨
    ∃ stateHash attempt, progress.stateHash = some stateHash ∧ stores.attempts.lookup stateHash = some attempt ∧
      attempt.status = .active ∧ completion.consumedAtUnix < attempt.expiresAtUnix ∧ completion.names attempt = true ∧
      LoginStage.consumeAttempt.run completion progress stores =
        ({ stores with
          attempts := stores.attempts.insert stateHash (attempt.consumed completion.consumedAtUnix) }, .ok progress) := by
  rw [run]
  split
  · exact .inl ⟨_, rfl⟩
  rename_i stateHash hstateHash
  rcases wrote_cases progress stores id (fun attempts => { stores with attempts })
    (Platform.consumeAttempt stores.attempts completion stateHash) with ⟨attempts, hattempts, hrun⟩ | ⟨error, hrun⟩
  · obtain ⟨attempt, hattempt, hactive, hexpiry, hnames, rfl⟩ := consumeAttempt_ok hattempts
    exact .inr ⟨stateHash, attempt, hstateHash, hattempt, hactive, hexpiry, hnames, hrun⟩
  · exact .inl ⟨error, hrun⟩

theorem SingleUserStage.run_attempts (config : PlatformSingleUserConfig) (session : PlatformAuthSessionRecord)
    (stores : LoginStores) (stage : SingleUserStage) :
    (stage.run config session stores).1.attempts = stores.attempts := by
  cases stage <;>
  · rw [run]
    apply wrote_keeps fun stores => stores.attempts
    exact fun _ => rfl

end Stages

section Moves

variable {κ : Type} (env : LoginEnv κ) (stores : LoginStores)

/-- The call may still record a session of an OIDC login. -/
def CallPhase.recordsSession : CallPhase κ → Bool
  | .readProvider _ | .readAttempt _ _ | .exchange _ _ _ | .checkUser _ => true
  | .completing _ _ remaining => remaining.contains .recordSession
  | _ => false

/-- The phases of an OIDC login from the attempt on. -/
def CallPhase.HoldsAttempt : CallPhase κ → Prop
  | .exchange _ _ _ | .checkUser _ | .completing _ _ _ => True
  | _ => False

/-- The moves of a call by what they do to the login attempts. -/
inductive AttemptMove : CallPhase κ → Moved κ → Prop
  | other (phase : CallPhase κ) (moved : Moved κ) (hattempts : moved.1.attempts = stores.attempts)
    (hholds : ¬ moved.2.1.HoldsAttempt) (hrecords : moved.2.1.recordsSession = true → phase.recordsSession = true)
    (hevent : ∀ login attempt, moved.2.2 ≠ some (.attemptConsumed login attempt) ∧
      moved.2.2 ≠ some (.sessionRecorded login)) : AttemptMove phase moved
  | read (call : CallbackCall) (provider : OidcLoginProviderRecord) (attempt : OidcLoginAttemptRecord)
    (hattempt : stores.attempts.lookup (env.hashes.loginState (Library.Text.trim call.request.state)) = some attempt)
    (hvalid : validateOidcCallbackAttempt env.hashes provider attempt call.request call.nowUnix = .ok ()) :
    AttemptMove (.readAttempt call provider) (stores, .exchange call provider attempt, none)
  | waits (call : CallbackCall) (provider : OidcLoginProviderRecord) (attempt : OidcLoginAttemptRecord) :
    AttemptMove (.exchange call provider attempt) (stores, .exchange call provider attempt, none)
  | verified (login : VerifiedLogin κ) (hlogin : validateOidcCallbackAttempt env.hashes login.provider login.attempt
      login.call.request login.call.nowUnix = .ok () → login.Checked env) :
    AttemptMove (.exchange login.call login.provider login.attempt) (stores, .checkUser login, none)
  | checked (login : VerifiedLogin κ) :
    AttemptMove (.checkUser login) (stores, .completing login .start completionStages, none)
  | stage (login : VerifiedLogin κ) (progress next : LoginProgress) (stage : LoginStage) (remaining : List LoginStage)
    (changed : LoginStores) (hrun : stage.run (login.completion env.hashes) progress stores = (changed, .ok next)) :
    AttemptMove (.completing login progress (stage :: remaining))
      (changed, .completing login next remaining, stage.event stores login progress)

variable {env stores}

theorem AttemptMove.returns {phase : CallPhase κ} {changed : LoginStores} (hattempts : changed.attempts = stores.attempts)
    (answer : Result Unit) : AttemptMove env stores phase (changed, .returned answer, none) :=
  .other _ _ hattempts nofun nofun fun _ _ => ⟨nofun, nofun⟩

theorem verifyLogin_ok {call : CallbackCall} {provider : OidcLoginProviderRecord} {attempt : OidcLoginAttemptRecord}
    {answers : ProviderAnswers κ} {login : VerifiedLogin κ}
    (h : verifyLogin env call provider attempt answers = .ok login) :
    login.call = call ∧ login.provider = provider ∧ login.attempt = attempt ∧
      (validateOidcCallbackAttempt env.hashes provider attempt call.request call.nowUnix = .ok () →
        login.Checked env) := by
  unfold verifyLogin at h
  simp only at h
  obtain ⟨metadata, hmetadata, h⟩ := bind_ok.mp h
  split at h
  · cases h
  obtain ⟨claims, hclaims, h⟩ := bind_ok.mp h
  cases h
  exact ⟨rfl, rfl, rfl, fun hattempt => ⟨hattempt, ⟨_, mapError_ok.mp hmetadata⟩, mapError_ok.mp hclaims⟩⟩

theorem CallPhase.advance_attemptMove (phase : CallPhase κ) : AttemptMove env stores phase (phase.advance env stores) := by
  cases phase with
  | readProvider call =>
    rw [advance]
    split
    · exact .returns rfl _
    · exact .other _ _ rfl nofun (fun _ => rfl) fun _ _ => ⟨nofun, nofun⟩
  | readAttempt call provider =>
    rw [advance]
    split
    · exact .returns rfl _
    rename_i attempt hattempt
    cases hvalid : validateOidcCallbackAttempt env.hashes provider attempt call.request call.nowUnix with
    | ok => exact .read call provider attempt hattempt hvalid
    | error error => exact .returns rfl _
  | exchange call provider attempt => exact .waits call provider attempt
  | checkUser login =>
    rw [advance]
    cases ensureUserCanLogin stores.users (login.completion env.hashes).userId with
    | ok => exact .checked login
    | error error => exact .returns rfl _
  | completing login progress remaining =>
    cases remaining with
    | nil => exact .returns rfl _
    | cons stage remaining =>
      rw [advance]
      split
      · rename_i changed error hrun
        apply AttemptMove.returns
        by_cases hstage : stage = .consumeAttempt
        · subst hstage
          rcases LoginStage.run_consumeAttempt (login.completion env.hashes) progress stores with
            ⟨other, hother⟩ | ⟨stateHash, attempt, -, -, -, -, -, hother⟩
          · cases hother.symm.trans hrun
            rfl
          · cases hother.symm.trans hrun
        · have hattempts := LoginStage.run_attempts_other (login.completion env.hashes) progress stores hstage
          rw [hrun] at hattempts
          exact hattempts
      · rename_i changed next hrun
        exact .stage login progress next stage remaining changed hrun
  | checkSingleUser config sessionToken =>
    rw [advance]
    cases ensureUserCanLogin stores.users singleUserId with
    | ok => exact .other _ _ rfl nofun nofun fun _ _ => ⟨nofun, nofun⟩
    | error error => exact .returns rfl _
  | recordingSingleUser config sessionToken remaining =>
    cases remaining with
    | nil => exact .returns rfl _
    | cons stage remaining =>
      have hattempts := stage.run_attempts config (singleUserSession env.hashes sessionToken) stores
      rw [advance]
      cases hrun : stage.run config (singleUserSession env.hashes sessionToken) stores with
      | mk changed answer =>
        rw [hrun] at hattempts
        cases answer with
        | ok next => exact .other _ _ hattempts nofun nofun fun _ _ => ⟨nofun, nofun⟩
        | error error => exact .returns hattempts _
  | authenticate authorization userId request =>
    rw [advance]
    cases authenticatedActorFromHeaders stores.sessions env.hashes.sessionToken env.credential authorization with
    | ok actor => exact .other _ _ rfl nofun nofun fun _ _ => ⟨nofun, nofun⟩
    | error error => exact .returns rfl _
  | readUser actor userId request =>
    rw [advance]
    split
    · exact .returns rfl _
    · exact .other _ _ rfl nofun nofun fun _ _ => ⟨nofun, nofun⟩
  | authorizeUpdate actor before userId request =>
    rw [advance]
    cases authorizeStatusUpdate stores env.grants actor before request with
    | ok status => exact .other _ _ rfl nofun nofun fun _ _ => ⟨nofun, nofun⟩
    | error error => exact .returns rfl _
  | writeStatus userId expectedVersion status =>
    have hnext : ¬ (statusWrite stores userId expectedVersion status : Moved κ).2.1.HoldsAttempt ∧
        (statusWrite stores userId expectedVersion status : Moved κ).2.1.recordsSession = false := by
      simp only [statusWrite, onAnswer]
      split
      · split
        · exact ⟨nofun, rfl⟩
        · exact ⟨nofun, rfl⟩
      · exact ⟨nofun, rfl⟩
    refine .other _ _ rfl hnext.1 (fun hrecords => ?_) fun login attempt => ?_
    · cases hnext.2.symm.trans hrecords
    · simp only [advance, statusWrite]
      split
      · exact ⟨nofun, nofun⟩
      · simp
  | disableSessions updated => exact .other _ _ rfl nofun nofun fun _ _ => ⟨nofun, nofun⟩
  | audit updated => exact .other _ _ rfl nofun nofun fun _ _ => ⟨nofun, nofun⟩
  | returned answer => exact .returns rfl _

theorem CallPhase.Moves.attemptMove {phase : CallPhase κ} {moved : Moved κ} (h : phase.Moves env stores moved) :
    AttemptMove env stores phase moved := by
  cases h with
  | advance => exact phase.advance_attemptMove
  | exchange call provider attempt answers =>
    cases hverify : verifyLogin env call provider attempt answers with
    | ok login =>
      obtain ⟨rfl, rfl, rfl, hchecked⟩ := verifyLogin_ok hverify
      exact .verified login hchecked
    | error error => exact .returns rfl _
  | interrupt error => exact .returns rfl _

end Moves

/-- The attempt is stored, up to its consumption. -/
def AttemptStored (attempts : Index OidcLoginAttemptRecord) (attempt : OidcLoginAttemptRecord) : Prop :=
  ∃ stored, attempts.lookup attempt.stateHash = some stored ∧ SameAttempt stored attempt

/-- What a call knows of its attempt and of its token. -/
def CallPhase.Knows {κ : Type} (env : LoginEnv κ) (attempts : Index OidcLoginAttemptRecord) : CallPhase κ → Prop
  | .exchange call provider attempt => AttemptStored attempts attempt ∧
      validateOidcCallbackAttempt env.hashes provider attempt call.request call.nowUnix = .ok ()
  | .checkUser login => AttemptStored attempts login.attempt ∧ login.Checked env
  | .completing login _ remaining => AttemptStored attempts login.attempt ∧ login.Checked env ∧
      remaining <:+ completionStages
  | _ => True

/-- The attempt that was consumed for a login was the one of the login, active and not expired. -/
structure ConsumedFor {κ : Type} (login : VerifiedLogin κ) (attempt : OidcLoginAttemptRecord) : Prop where
  active : attempt.status = .active
  unexpired : login.call.nowUnix < attempt.expiresAtUnix
  tenantId : attempt.tenantId = login.provider.tenantId
  identityProviderId : attempt.identityProviderId = login.provider.identityProviderId
  same : SameAttempt attempt login.attempt

def LoginEvent.recordedAttempt {κ : Type} : LoginEvent κ → Option String
  | .sessionRecorded login => some login.attempt.stateHash
  | _ => none

/-- What a run keeps of the attempts, the logins and the history. -/
structure AttemptInvariant {κ : Type} (env : LoginEnv κ) (machine : LoginMachine κ) : Prop where
  keyed : Keyed (·.stateHash) machine.stores.attempts
  distinct : DistinctAttempts machine.stores.attempts
  knows : ∀ id phase, machine.calls.lookup id = some phase → phase.Knows env machine.stores.attempts
  consumed : ∀ id login attempt, (id, .attemptConsumed login attempt) ∈ machine.history →
    ConsumedFor login attempt ∧ login.Checked env ∧
      ∃ stored, machine.stores.attempts.lookup attempt.stateHash = some stored ∧ stored.status ≠ .active
  once : ∀ id other login attempt another found, (id, .attemptConsumed login attempt) ∈ machine.history →
    (other, .attemptConsumed another found) ∈ machine.history → attempt.stateHash = found.stateHash → id = other
  holds : ∀ id login progress remaining, machine.calls.lookup id = some (.completing login progress remaining) →
    .consumeAttempt ∉ remaining → ∃ attempt, (id, .attemptConsumed login attempt) ∈ machine.history
  recorded : ∀ id login, (id, .sessionRecorded login) ∈ machine.history →
    (∃ attempt, (id, .attemptConsumed login attempt) ∈ machine.history) ∧
      ∃ phase, machine.calls.lookup id = some phase ∧ phase.recordsSession = false
  nodup : (machine.history.filterMap fun event => event.2.recordedAttempt).Nodup

section Attempts

variable {κ : Type} {env : LoginEnv κ} {machine : LoginMachine κ}

theorem AttemptInvariant.start {stores : LoginStores} (hkeyed : Keyed (·.stateHash) stores.attempts)
    (hdistinct : DistinctAttempts stores.attempts) :
    AttemptInvariant env (LoginMachine.start stores : LoginMachine κ) where
  keyed := hkeyed
  distinct := hdistinct
  knows := by rintro id phase ⟨⟩
  consumed := by rintro id login attempt ⟨⟩
  once := by rintro id other login attempt another found ⟨⟩
  holds := by rintro id login progress remaining ⟨⟩
  recorded := by rintro id login ⟨⟩
  nodup := List.nodup_nil

theorem AttemptInvariant.arrives (hinv : AttemptInvariant env machine) {id : Nat} {phase : CallPhase κ}
    (hnew : machine.calls.lookup id = none) (harrives : phase.Arrives) :
    AttemptInvariant env { machine with calls := machine.calls.insert id phase } := by
  refine { hinv with knows := ?_, holds := ?_, recorded := ?_ }
  · intro other found hfound
    rcases insert_some hfound with ⟨-, rfl⟩ | ⟨-, hold⟩
    · cases harrives <;> trivial
    · exact hinv.knows other found hold
  · intro other login progress remaining hfound
    rcases insert_some hfound with ⟨-, rfl⟩ | ⟨-, hold⟩
    · cases harrives
    · exact hinv.holds other login progress remaining hold
  · intro other login hrecorded
    obtain ⟨hconsumed, found, hfound, hrecords⟩ := hinv.recorded other login hrecorded
    refine ⟨hconsumed, found, ?_, hrecords⟩
    rw [AList.lookup_insert_ne, hfound]
    rintro rfl
    cases hnew.symm.trans hfound

section Move

variable {id : Nat} {phase : CallPhase κ} {moved : Moved κ}

theorem mem_moves_history {other : Nat} {event : LoginEvent κ} :
    (other, event) ∈ (machine.moves id moved).history ↔
      (other = id ∧ moved.2.2 = some event) ∨ (other, event) ∈ machine.history := by
  cases hevent : moved.2.2 with
  | none => simp [LoginMachine.moves, hevent]
  | some new => simp [LoginMachine.moves, hevent, eq_comm]

theorem moves_recordedAttempts :
    ((machine.moves id moved).history.filterMap fun event => event.2.recordedAttempt) =
      (moved.2.2.bind LoginEvent.recordedAttempt).toList ++
        machine.history.filterMap fun event => event.2.recordedAttempt := by
  cases hevent : moved.2.2 with
  | none => simp [LoginMachine.moves, hevent]
  | some new =>
    cases hrecorded : new.recordedAttempt with
    | none => simp [LoginMachine.moves, hevent, hrecorded]
    | some stateHash => simp [LoginMachine.moves, hevent, hrecorded]

/-- A call that has recorded its session cannot record another one, whatever it does next. -/
theorem AttemptInvariant.recordedPhase (hinv : AttemptInvariant env machine)
    (hphase : machine.calls.lookup id = some phase)
    (hrecords : moved.2.1.recordsSession = true → phase.recordsSession = true) {other : Nat} {login : VerifiedLogin κ}
    (hrecorded : (other, .sessionRecorded login) ∈ machine.history) :
    ∃ found, (machine.moves id moved).calls.lookup other = some found ∧ found.recordsSession = false := by
  obtain ⟨-, found, hfound, hdone⟩ := hinv.recorded other login hrecorded
  by_cases hsame : other = id
  · subst hsame
    cases hphase.symm.trans hfound
    refine ⟨moved.2.1, AList.lookup_insert _, ?_⟩
    by_contra hstill
    rw [Bool.not_eq_false] at hstill
    cases hdone.symm.trans (hrecords hstill)
  · exact ⟨found, (AList.lookup_insert_ne hsame).trans hfound, hdone⟩

/-- Moves that leave the attempts as they are and consume none. -/
theorem AttemptInvariant.keepsAttempts (hinv : AttemptInvariant env machine)
    (hattempts : moved.1.attempts = machine.stores.attempts)
    (hknows : moved.2.1.Knows env machine.stores.attempts)
    (hholds : ∀ login progress remaining, moved.2.1 = .completing login progress remaining →
      .consumeAttempt ∉ remaining → ∃ attempt, (id, .attemptConsumed login attempt) ∈ machine.history)
    (hevent : ∀ login attempt, moved.2.2 ≠ some (.attemptConsumed login attempt))
    (hrecorded : ∀ other login, (other, .sessionRecorded login) ∈ (machine.moves id moved).history →
      (∃ attempt, (other, .attemptConsumed login attempt) ∈ machine.history) ∧
        ∃ found, (machine.moves id moved).calls.lookup other = some found ∧ found.recordsSession = false)
    (hnodup : ((machine.moves id moved).history.filterMap fun event => event.2.recordedAttempt).Nodup) :
    AttemptInvariant env (machine.moves id moved) := by
  have hconsumed {other : Nat} {login : VerifiedLogin κ} {attempt : OidcLoginAttemptRecord}
      (h : (other, .attemptConsumed login attempt) ∈ (machine.moves id moved).history) :
      (other, .attemptConsumed login attempt) ∈ machine.history := by
    rcases mem_moves_history.mp h with ⟨-, hnew⟩ | hold
    · exact (hevent login attempt hnew).elim
    · exact hold
  refine ⟨?_, ?_, ?_, ?_, ?_, ?_, ?_, hnodup⟩
  · rw [LoginMachine.moves, hattempts]
    exact hinv.keyed
  · rw [LoginMachine.moves, hattempts]
    exact hinv.distinct
  · intro other found hfound
    rw [LoginMachine.moves, hattempts]
    rcases insert_some hfound with ⟨-, rfl⟩ | ⟨-, hold⟩
    · exact hknows
    · exact hinv.knows other found hold
  · intro other login attempt h
    rw [LoginMachine.moves, hattempts]
    exact hinv.consumed other login attempt (hconsumed h)
  · intro other another login attempt second found h hsecond
    exact hinv.once other another login attempt second found (hconsumed h) (hconsumed hsecond)
  · intro other login progress remaining hfound hnot
    rcases insert_some hfound with ⟨rfl, hnext⟩ | ⟨-, hold⟩
    · obtain ⟨attempt, hattempt⟩ := hholds login progress remaining hnext.symm hnot
      exact ⟨attempt, mem_moves_history.mpr (.inr hattempt)⟩
    · obtain ⟨attempt, hattempt⟩ := hinv.holds other login progress remaining hold hnot
      exact ⟨attempt, mem_moves_history.mpr (.inr hattempt)⟩
  · intro other login h
    obtain ⟨⟨attempt, hattempt⟩, hphase⟩ := hrecorded other login h
    exact ⟨⟨attempt, mem_moves_history.mpr (.inr hattempt)⟩, hphase⟩

/-- Moves that leave the attempts as they are and are no event of a login. -/
theorem AttemptInvariant.quiet (hinv : AttemptInvariant env machine) (hphase : machine.calls.lookup id = some phase)
    (hattempts : moved.1.attempts = machine.stores.attempts)
    (hknows : moved.2.1.Knows env machine.stores.attempts)
    (hholds : ∀ login progress remaining, moved.2.1 = .completing login progress remaining →
      .consumeAttempt ∉ remaining → ∃ attempt, (id, .attemptConsumed login attempt) ∈ machine.history)
    (hrecords : moved.2.1.recordsSession = true → phase.recordsSession = true)
    (hevent : ∀ login attempt, moved.2.2 ≠ some (.attemptConsumed login attempt) ∧
      moved.2.2 ≠ some (.sessionRecorded login)) : AttemptInvariant env (machine.moves id moved) := by
  refine hinv.keepsAttempts hattempts hknows hholds (fun login attempt => (hevent login attempt).1) ?_ ?_
  · intro other login h
    rcases mem_moves_history.mp h with ⟨-, hnew⟩ | hold
    · exact ((hevent login login.attempt).2 hnew).elim
    · exact ⟨(hinv.recorded other login hold).1, hinv.recordedPhase hphase hrecords hold⟩
  · have hnone : moved.2.2.bind LoginEvent.recordedAttempt = none := by
      cases hnew : moved.2.2 with
      | none => rfl
      | some event =>
        cases event with
        | sessionRecorded login => exact ((hevent login login.attempt).2 hnew).elim
        | attemptConsumed | statusWritten | statusUpdated => rfl
    rw [moves_recordedAttempts, hnone]
    exact hinv.nodup

theorem AttemptStored.consume {attempts : Index OidcLoginAttemptRecord} {attempt old : OidcLoginAttemptRecord}
    {key : String} (h : AttemptStored attempts attempt) (hold : attempts.lookup key = some old) (consumedAtUnix : Int) :
    AttemptStored (attempts.insert key (old.consumed consumedAtUnix)) attempt := by
  obtain ⟨stored, hstored, hsame⟩ := h
  by_cases hkey : attempt.stateHash = key
  · rw [hkey] at hstored
    cases hold.symm.trans hstored
    refine ⟨old.consumed consumedAtUnix, ?_, hsame.consumed consumedAtUnix⟩
    rw [hkey, AList.lookup_insert]
  · exact ⟨stored, (AList.lookup_insert_ne hkey).trans hstored, hsame⟩

theorem CallPhase.Knows.consume {attempts : Index OidcLoginAttemptRecord} {old : OidcLoginAttemptRecord} {key : String}
    (h : phase.Knows env attempts) (hold : attempts.lookup key = some old) (consumedAtUnix : Int) :
    phase.Knows env (attempts.insert key (old.consumed consumedAtUnix)) := by
  cases phase with
  | exchange call provider attempt => exact ⟨h.1.consume hold consumedAtUnix, h.2⟩
  | checkUser login => exact ⟨h.1.consume hold consumedAtUnix, h.2⟩
  | completing login progress remaining => exact ⟨h.1.consume hold consumedAtUnix, h.2⟩
  | readProvider | readAttempt | checkSingleUser | recordingSingleUser | authenticate | readUser | authorizeUpdate
  | writeStatus | disableSessions | audit | returned => trivial

theorem DistinctAttempts.consume {attempts : Index OidcLoginAttemptRecord} {old : OidcLoginAttemptRecord} {key : String}
    (h : DistinctAttempts attempts) (hold : attempts.lookup key = some old) (consumedAtUnix : Int) :
    DistinctAttempts (attempts.insert key (old.consumed consumedAtUnix)) := by
  have hbefore {other : String} {attempt : OidcLoginAttemptRecord}
      (hattempt : (attempts.insert key (old.consumed consumedAtUnix)).lookup other = some attempt) :
      ∃ stored, attempts.lookup other = some stored ∧ stored.loginAttemptId = attempt.loginAttemptId := by
    rcases insert_some hattempt with ⟨rfl, rfl⟩ | ⟨-, hstored⟩
    · exact ⟨old, hold, rfl⟩
    · exact ⟨attempt, hstored, rfl⟩
  intro left right leftAttempt rightAttempt hleft hright hsame
  obtain ⟨leftStored, hleftStored, hleftId⟩ := hbefore hleft
  obtain ⟨rightStored, hrightStored, hrightId⟩ := hbefore hright
  exact h left right leftStored rightStored hleftStored hrightStored (hleftId.trans (hsame.trans hrightId.symm))

/-- The attempt that a completion names is the one that the login began with. -/
theorem AttemptInvariant.consumedFor (hinv : AttemptInvariant env machine) {login : VerifiedLogin κ}
    {attempt : OidcLoginAttemptRecord} {key : String} (hstored : AttemptStored machine.stores.attempts login.attempt)
    (hattempt : machine.stores.attempts.lookup key = some attempt) (hactive : attempt.status = .active)
    (hexpiry : login.call.nowUnix < attempt.expiresAtUnix) (hnames : (login.completion env.hashes).names attempt = true) :
    ConsumedFor login attempt := by
  simp only [OidcLoginCompletionRecord.names, Bool.and_eq_true, beq_iff_eq] at hnames
  obtain ⟨⟨hid, htenant⟩, hprovider⟩ := hnames
  refine ⟨hactive, hexpiry, htenant, hprovider, ?_⟩
  obtain ⟨stored, hlookup, hsame⟩ := hstored
  have hkey := hinv.distinct _ _ _ _ hlookup hattempt (hsame.loginAttemptId.trans hid.symm)
  rw [hkey] at hlookup
  cases hlookup.symm.trans hattempt
  exact hsame

theorem AttemptInvariant.consumes (hinv : AttemptInvariant env machine) {login : VerifiedLogin κ}
    {progress : LoginProgress} {remaining : List LoginStage} {key : String} {attempt : OidcLoginAttemptRecord}
    (hphase : machine.calls.lookup id = some (.completing login progress (.consumeAttempt :: remaining)))
    (hattempt : machine.stores.attempts.lookup key = some attempt) (hactive : attempt.status = .active)
    (hexpiry : login.call.nowUnix < attempt.expiresAtUnix)
    (hnames : (login.completion env.hashes).names attempt = true) (consumedAtUnix : Int) :
    AttemptInvariant env (machine.moves id
      ({ machine.stores with attempts := machine.stores.attempts.insert key (attempt.consumed consumedAtUnix) },
        .completing login progress remaining, some (.attemptConsumed login attempt))) := by
  obtain ⟨hstored, hchecked, hsuffix⟩ := hinv.knows id _ hphase
  have hconsumedFor := hinv.consumedFor hstored hattempt hactive hexpiry hnames
  have hkey : attempt.stateHash = key := hinv.keyed _ _ hattempt
  have hmarked {stateHash : String} {stored : OidcLoginAttemptRecord}
      (hbefore : machine.stores.attempts.lookup stateHash = some stored) (hdone : stored.status ≠ .active) :
      ∃ after, (machine.stores.attempts.insert key (attempt.consumed consumedAtUnix)).lookup stateHash = some after ∧
        after.status ≠ .active := by
    by_cases hsame : stateHash = key
    · subst hsame
      exact ⟨_, AList.lookup_insert _, nofun⟩
    · exact ⟨stored, (AList.lookup_insert_ne hsame).trans hbefore, hdone⟩
  -- an attempt that an earlier event has consumed is no longer active
  have hfresh {other : Nat} {another : VerifiedLogin κ} {found : OidcLoginAttemptRecord}
      (hfound : (other, .attemptConsumed another found) ∈ machine.history) : found.stateHash ≠ attempt.stateHash := by
    intro hsame
    obtain ⟨-, -, stored, hlookup, hdone⟩ := hinv.consumed other another found hfound
    rw [hsame, hkey] at hlookup
    cases hlookup.symm.trans hattempt
    exact hdone hactive
  refine ⟨hinv.keyed.insert hkey, hinv.distinct.consume hattempt consumedAtUnix, ?_, ?_, ?_, ?_, ?_, ?_⟩
  · intro other found hfound
    rcases insert_some hfound with ⟨-, rfl⟩ | ⟨-, hold⟩
    · exact ⟨hstored.consume hattempt consumedAtUnix, hchecked, (List.suffix_cons _ _).trans hsuffix⟩
    · exact (hinv.knows other found hold).consume hattempt consumedAtUnix
  · intro other another found hfound
    rcases mem_moves_history.mp hfound with ⟨-, hnew⟩ | hold
    · cases hnew
      refine ⟨hconsumedFor, hchecked, attempt.consumed consumedAtUnix, ?_, nofun⟩
      rw [hkey]
      exact AList.lookup_insert _
    · obtain ⟨hfor, hfacts, stored, hlookup, hdone⟩ := hinv.consumed other another found hold
      exact ⟨hfor, hfacts, hmarked hlookup hdone⟩
  · intro other second another found third last hfound hlast hsame
    rcases mem_moves_history.mp hfound with ⟨rfl, hnew⟩ | hold
    · rcases mem_moves_history.mp hlast with ⟨rfl, -⟩ | hlastOld
      · rfl
      · cases hnew
        exact (hfresh hlastOld hsame.symm).elim
    · rcases mem_moves_history.mp hlast with ⟨rfl, hnew⟩ | hlastOld
      · cases hnew
        exact (hfresh hold hsame).elim
      · exact hinv.once other second another found third last hold hlastOld hsame
  · intro other another before rest hfound hnot
    rcases insert_some hfound with ⟨rfl, hnext⟩ | ⟨-, hold⟩
    · cases hnext
      exact ⟨attempt, mem_moves_history.mpr (.inl ⟨rfl, rfl⟩)⟩
    · obtain ⟨found, hconsumed⟩ := hinv.holds other another before rest hold hnot
      exact ⟨found, mem_moves_history.mpr (.inr hconsumed)⟩
  · intro other another hrecorded
    rcases mem_moves_history.mp hrecorded with ⟨-, hnew⟩ | hold
    · cases hnew
    · obtain ⟨⟨found, hconsumed⟩, -⟩ := hinv.recorded other another hold
      refine ⟨⟨found, mem_moves_history.mpr (.inr hconsumed)⟩, hinv.recordedPhase hphase ?_ hold⟩
      intro hrecords
      simpa [CallPhase.recordsSession] using hrecords
  · rw [moves_recordedAttempts]
    exact hinv.nodup

/-- The stages from the session on come after the consumption. -/
theorem recordSession_suffix {remaining : List LoginStage} (h : .recordSession :: remaining <:+ completionStages) :
    .consumeAttempt ∉ LoginStage.recordSession :: remaining ∧ .recordSession ∉ remaining := by
  simp only [completionStages, List.suffix_cons_iff, List.cons.injEq, reduceCtorEq, false_and, false_or, or_false,
    true_and, List.suffix_nil] at h
  subst h
  decide

theorem AttemptInvariant.records (hinv : AttemptInvariant env machine) {login : VerifiedLogin κ}
    {progress next : LoginProgress} {remaining : List LoginStage} {changed : LoginStores}
    (hphase : machine.calls.lookup id = some (.completing login progress (.recordSession :: remaining)))
    (hattempts : changed.attempts = machine.stores.attempts) :
    AttemptInvariant env (machine.moves id
      (changed, .completing login next remaining, some (.sessionRecorded login))) := by
  obtain ⟨hstored, hchecked, hsuffix⟩ := hinv.knows id _ hphase
  obtain ⟨hafter, hlast⟩ := recordSession_suffix hsuffix
  obtain ⟨attempt, hconsumed⟩ := hinv.holds id login progress _ hphase hafter
  apply hinv.keepsAttempts hattempts
  · exact ⟨hstored, hchecked, (List.suffix_cons _ _).trans hsuffix⟩
  · intro another before rest hnext _
    cases hnext
    exact ⟨attempt, hconsumed⟩
  · intro another consumed hnew
    cases hnew
  · intro other another hrecorded
    rcases mem_moves_history.mp hrecorded with ⟨rfl, hnew⟩ | hold
    · cases hnew
      refine ⟨⟨attempt, hconsumed⟩, _, AList.lookup_insert _, ?_⟩
      simpa [CallPhase.recordsSession] using hlast
    · refine ⟨(hinv.recorded other another hold).1, hinv.recordedPhase hphase (fun _ => ?_) hold⟩
      simp [CallPhase.recordsSession]
  · rw [moves_recordedAttempts]
    refine List.nodup_cons.mpr ⟨fun hmem => ?_, hinv.nodup⟩
    -- an earlier session of the attempt would be one of this call, which has not recorded its own
    obtain ⟨⟨other, event⟩, hevent, hsame⟩ := List.mem_filterMap.mp hmem
    cases event with
    | sessionRecorded another =>
      simp only [LoginEvent.recordedAttempt, Option.some.injEq] at hsame
      obtain ⟨⟨found, hfound⟩, before, hbefore, hdone⟩ := hinv.recorded other another hevent
      obtain ⟨hfor, -, -⟩ := hinv.consumed id login attempt hconsumed
      obtain ⟨hfoundFor, -, -⟩ := hinv.consumed other another found hfound
      have hkeys : attempt.stateHash = found.stateHash :=
        hfor.same.stateHash.trans (hsame.symm.trans hfoundFor.same.stateHash.symm)
      cases hinv.once id other login attempt another found hconsumed hfound hkeys
      cases hphase.symm.trans hbefore
      simp [CallPhase.recordsSession] at hdone
    | attemptConsumed | statusWritten | statusUpdated => cases hsame

theorem AttemptInvariant.stage (hinv : AttemptInvariant env machine) {login : VerifiedLogin κ}
    {progress next : LoginProgress} {stage : LoginStage} {remaining : List LoginStage} {changed : LoginStores}
    (hphase : machine.calls.lookup id = some (.completing login progress (stage :: remaining)))
    (hrun : stage.run (login.completion env.hashes) progress machine.stores = (changed, .ok next)) :
    AttemptInvariant env (machine.moves id
      (changed, .completing login next remaining, stage.event machine.stores login progress)) := by
  by_cases hconsume : stage = .consumeAttempt
  · subst hconsume
    rcases LoginStage.run_consumeAttempt (login.completion env.hashes) progress machine.stores with
      ⟨error, hother⟩ | ⟨key, attempt, hkey, hattempt, hactive, hexpiry, hnames, hother⟩
    · cases hother.symm.trans hrun
    · cases hother.symm.trans hrun
      have hevent : LoginStage.consumeAttempt.event machine.stores login progress =
          some (.attemptConsumed login attempt) := by
        simp [LoginStage.event, hkey, hattempt]
      rw [hevent]
      exact hinv.consumes hphase hattempt hactive hexpiry hnames _
  have hattempts := LoginStage.run_attempts_other (login.completion env.hashes) progress machine.stores hconsume
  rw [hrun] at hattempts
  by_cases hrecord : stage = .recordSession
  · subst hrecord
    exact hinv.records hphase hattempts
  obtain ⟨hstored, hchecked, hsuffix⟩ := hinv.knows id _ hphase
  apply hinv.quiet hphase hattempts
  · exact ⟨hstored, hchecked, (List.suffix_cons _ _).trans hsuffix⟩
  · intro other before rest hnext hnot
    cases hnext
    apply hinv.holds id login progress _ hphase
    simp only [List.mem_cons, not_or]
    exact ⟨fun h => hconsume h.symm, hnot⟩
  · intro hrecords
    simp only [CallPhase.recordsSession, List.contains_cons, Bool.or_eq_true] at hrecords ⊢
    exact .inr hrecords
  · intro other attempt
    cases stage <;> simp_all [LoginStage.event]

theorem AttemptInvariant.moves (hinv : AttemptInvariant env machine) (hphase : machine.calls.lookup id = some phase)
    (hmove : AttemptMove env machine.stores phase moved) : AttemptInvariant env (machine.moves id moved) := by
  cases hmove with
  | other _ _ hattempts hholds hrecords hevent =>
    refine hinv.quiet hphase hattempts ?_ ?_ hrecords hevent
    · cases hnext : moved.2.1 <;> simp_all [CallPhase.HoldsAttempt, CallPhase.Knows]
    · intro login progress remaining hnext
      rw [hnext] at hholds
      exact (hholds trivial).elim
  | read call provider attempt hattempt hvalid =>
    have hkey : attempt.stateHash = _ := hinv.keyed _ _ hattempt
    have hstored : AttemptStored machine.stores.attempts attempt := ⟨attempt, hkey ▸ hattempt, .refl attempt⟩
    exact hinv.quiet hphase rfl ⟨hstored, hvalid⟩ (fun _ _ _ hnext => by cases hnext) (fun _ => rfl)
      fun _ _ => ⟨nofun, nofun⟩
  | waits call provider attempt =>
    exact hinv.quiet hphase rfl (hinv.knows id _ hphase) (fun _ _ _ hnext => by cases hnext) (fun _ => rfl)
      fun _ _ => ⟨nofun, nofun⟩
  | verified login hlogin =>
    obtain ⟨hstored, hvalid⟩ := hinv.knows id _ hphase
    exact hinv.quiet hphase rfl ⟨hstored, hlogin hvalid⟩ (fun _ _ _ hnext => by cases hnext) (fun _ => rfl)
      fun _ _ => ⟨nofun, nofun⟩
  | checked login =>
    obtain ⟨hstored, hchecked⟩ := hinv.knows id _ hphase
    refine hinv.quiet hphase rfl ⟨hstored, hchecked, List.suffix_refl _⟩ ?_ (fun _ => rfl) fun _ _ => ⟨nofun, nofun⟩
    intro other progress remaining hnext hnot
    cases hnext
    exact (hnot (by decide)).elim
  | stage login progress next stage remaining changed hrun => exact hinv.stage hphase hrun

end Move

theorem AttemptInvariant.step {next : LoginMachine κ} {action : LoginStep κ} (hinv : AttemptInvariant env machine)
    (hstep : machine.step env action = some next) : AttemptInvariant env next := by
  rcases LoginMachine.step_cases hstep with
    ⟨id, phase, hnew, harrives, rfl⟩ | ⟨id, phase, moved, hphase, hmoves, -, rfl⟩
  · exact hinv.arrives hnew harrives
  · exact hinv.moves hphase hmoves.attemptMove

end Attempts

/-- A session of an OIDC login is issued only for a verified, one-time login: its attempt was active, not expired and
of the provider when it was consumed, with the hashes of the request, the ID token was verified, and no attempt has
two sessions. -/
theorem recordedSessions_verified {κ : Type} {env : LoginEnv κ} {signed : String → κ → Algorithm → Prop}
    (hdecode : ∀ token key algorithm issuer audiences claims,
      env.library.decode token key algorithm issuer audiences = some claims → signed token key algorithm)
    {stores : LoginStores} (hkeyed : Keyed (·.stateHash) stores.attempts) (hdistinct : DistinctAttempts stores.attempts)
    {steps : List (LoginStep κ)} {final : LoginMachine κ}
    (hrun : run (fun machine step => machine.step env step) (LoginMachine.start stores) steps = some final) :
    (∀ id login, (id, .sessionRecorded login) ∈ final.history →
      (∃ attempt, (id, .attemptConsumed login attempt) ∈ final.history ∧
        attempt.loginAttemptId = login.attempt.loginAttemptId ∧
        attempt.status = .active ∧ login.call.nowUnix < attempt.expiresAtUnix ∧
        attempt.tenantId = login.provider.tenantId ∧ attempt.identityProviderId = login.provider.identityProviderId ∧
        attempt.stateHash = env.hashes.loginState (Library.Text.trim login.call.request.state) ∧
        attempt.nonceHash = env.hashes.loginNonce (Library.Text.trim login.call.request.nonce) ∧
        attempt.pkceVerifierHash = env.hashes.pkceVerifier (Library.Text.trim login.call.request.codeVerifier)) ∧
      login.TokenVerified env signed) ∧
    (final.history.filterMap fun event => event.2.recordedAttempt).Nodup := by
  have hinv : AttemptInvariant env final :=
    run_invariant_always (fun machine step next hinv hnext => AttemptInvariant.step hinv hnext)
      (AttemptInvariant.start hkeyed hdistinct) hrun
  refine ⟨fun id login hrecorded => ?_, hinv.nodup⟩
  obtain ⟨⟨attempt, hconsumed⟩, -⟩ := hinv.recorded id login hrecorded
  obtain ⟨hfor, hchecked, -⟩ := hinv.consumed id login attempt hconsumed
  obtain ⟨hstate, hnonce, hverifier⟩ := validateOidcCallbackAttempt_ok hchecked.attempt
  exact ⟨⟨attempt, hconsumed, hfor.same.loginAttemptId, hfor.active, hfor.unexpired, hfor.tenantId,
    hfor.identityProviderId, hfor.same.stateHash.trans hstate, hfor.same.nonceHash.trans hnonce,
    hfor.same.pkceVerifierHash.trans hverifier⟩, hchecked.verified hdecode⟩

section Examples

def loginClaims : OidcIdTokenClaims :=
  ⟨"https://issuer", "subject", ["client"], 200, "nonce", none, false, none, none⟩

/-- A library that knows one token, signed under one key. -/
def oneTokenLibrary : TokenLibrary String where
  decodeHeader token := if token = "token" then some ⟨.rs256, some "kid"⟩ else none
  decode token key algorithm issuer audiences :=
    if token = "token" ∧ key = "key" ∧ algorithm = .rs256 ∧ issuer = loginClaims.iss ∧ "client" ∈ audiences then
      some loginClaims
    else none

def oneTokenEnv : LoginEnv String where
  grants := []
  hashes := ⟨id, id, id, id, fun _ _ subject => subject⟩
  library := oneTokenLibrary
  credential := fun _ => .error (.authenticationFailed "credential_not_found")
  singleUserAuth := none

def loginProvider : OidcLoginProviderRecord :=
  ⟨"idp_a", "ten_a", "Provider", "https://issuer", "https://issuer/authorize", "https://issuer/token",
    "https://issuer/keys", "client", none, .none, "https://service/callback", ["openid"], ["client"], .active⟩

def loginAttempt : OidcLoginAttemptRecord :=
  ⟨"ola_a", "ten_a", "idp_a", "state", "nonce", "verifier", "https://service/callback", .active, 100, none⟩

def loginStores : LoginStores where
  users := ∅
  externalIdentities := ∅
  providers := (∅ : Index OidcLoginProviderRecord).insert "idp_a" loginProvider
  attempts := (∅ : Index OidcLoginAttemptRecord).insert "state" loginAttempt
  sessions := ∅
  access := ⟨⟨∅, ∅⟩, ∅, ∅⟩

def loginAnswers : ProviderAnswers String where
  discovery := ⟨"", "", "", "", []⟩
  idToken := "token"
  jwks := [⟨some .signature, some "RS256", some "kid", "key"⟩]
  sessionToken := "swp_sess_0123456789abcdef"

/-- A callback up to the record of its session. -/
def loginSteps : List (LoginStep String) :=
  [.callback 0 ⟨"idp_a", ⟨"state", "code", "nonce", "verifier"⟩, 10⟩, .advance 0, .advance 0, .exchange 0 loginAnswers,
    .advance 0] ++ List.replicate 6 (.advance 0)

theorem loginStores_keyed : Keyed (·.stateHash) loginStores.attempts := (Keyed.empty _).insert rfl

theorem loginStores_distinct : DistinctAttempts loginStores.attempts := by
  intro key other left right hleft hright _
  rcases insert_some hleft with ⟨rfl, -⟩ | ⟨-, ⟨⟩⟩
  rcases insert_some hright with ⟨rfl, -⟩ | ⟨-, ⟨⟩⟩
  rfl

theorem login_verified :
    ∃ final id login, run (fun machine step => machine.step oneTokenEnv step) (LoginMachine.start loginStores)
        loginSteps = some final ∧
      (id, .sessionRecorded login) ∈ final.history ∧ login.provider = loginProvider ∧
      login.TokenVerified oneTokenEnv fun token key algorithm =>
        token = "token" ∧ key = "key" ∧ algorithm = .rs256 := by
  have hfinal : ((run (fun machine step => machine.step oneTokenEnv step) (LoginMachine.start loginStores)
      loginSteps).any fun final => final.history.any fun event => match event.2 with
        | .sessionRecorded login => login.provider == loginProvider
        | _ => false) = true := by decide +kernel
  obtain ⟨final, hrun, hany⟩ := (Option.any_eq_true _ _).mp hfinal
  obtain ⟨⟨id, event⟩, hevent, hlogin⟩ := List.any_eq_true.mp hany
  have hsigned (token key : String) (algorithm : Algorithm) (issuer : String) (audiences : List String)
      (claims : OidcIdTokenClaims) (h : oneTokenEnv.library.decode token key algorithm issuer audiences = some claims) :
      token = "token" ∧ key = "key" ∧ algorithm = .rs256 := by
    simp only [oneTokenEnv, oneTokenLibrary] at h
    split at h
    · rename_i hsigned
      exact ⟨hsigned.1, hsigned.2.1, hsigned.2.2.1⟩
    · cases h
  have hverified := recordedSessions_verified hsigned loginStores_keyed loginStores_distinct hrun
  cases event with
  | sessionRecorded login =>
    exact ⟨final, id, login, hrun, hevent, by simpa using hlogin, (hverified.1 id login hevent).2⟩
  | attemptConsumed | statusWritten | statusUpdated => cases hlogin

end Examples

end Starweaver.Platform
