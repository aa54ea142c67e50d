import Starweaver.Library.Base64
import Starweaver.Library.PercentCode
import Starweaver.Gateway.LoginSessions

/-! The URL that a login starts with: what the provider reads off it is what the gateway has put in. -/

namespace Starweaver.Gateway.Tenancy

open Library Library.Calendar Library.Checks Library.PercentCode Library.Text Library.TextCode

def base64Table : List Char := "ABCDEFGHIJKLMNOPQRSTUVWXYZabcdefghijklmnopqrstuvwxyz0123456789-_".toList

def chunksOfThree : List UInt8 → List (List UInt8)
  | [] => []
  | first :: second :: third :: rest => [first, second, third] :: chunksOfThree rest
  | last => [last]

def base64Chunk (chunk : List UInt8) : List Char :=
  let first := chunk.getD 0 0
  let second := chunk.getD 1 0
  let third := chunk.getD 2 0
  [base64Table.getD (first >>> 2).toNat 'A', base64Table.getD (((first &&& 0x03) <<< 4) ||| (second >>> 4)).toNat 'A'] ++
    (if chunk.length > 1 then [base64Table.getD (((second &&& 0x0f) <<< 2) ||| (third >>> 6)).toNat 'A'] else []) ++
    (if chunk.length > 2 then [base64Table.getD (third &&& 0x3f).toNat 'A'] else [])

def base64UrlNoPad (bytes : List UInt8) : String := String.ofList ((chunksOfThree bytes).flatMap base64Chunk)

def percentHex : List Char := "0123456789ABCDEF".toList

def isUnreserved (byte : UInt8) : Bool :=
  (0x30 ≤ byte && byte ≤ 0x39) || (0x41 ≤ byte && byte ≤ 0x5a) || (0x61 ≤ byte && byte ≤ 0x7a) ||
    byte == '-'.toUInt8 || byte == '.'.toUInt8 || byte == '_'.toUInt8 || byte == '~'.toUInt8

def percentEncode (value : String) : String :=
  String.ofList (value.toByteArray.data.toList.flatMap fun byte =>
    if isUnreserved byte then [Char.ofNat byte.toNat]
    else ['%', percentHex.getD (byte >>> 4).toNat '0', percentHex.getD (byte &&& 0x0f).toNat '0'])

def oauthQueryString (params : List (String × String)) : String :=
  "&".intercalate (params.map fun (key, value) => percentEncode key ++ "=" ++ percentEncode value)

def randomLoginToken (start : String) (bytes : List UInt8) : String := start ++ "_" ++ base64UrlNoPad bytes

def pkceS256Challenge (sha256 : List UInt8 → List UInt8) (codeVerifier : String) : String :=
  base64UrlNoPad (sha256 codeVerifier.toByteArray.data.toList)

def loginProviderScopeValues (provider : LoginProviderRecord) : List String :=
  match provider.configDocument.get "scopes" with
  | some (.array scopes) =>
    let configured := ((scopes.filterMap Json.asStr).map trim).filter (· ≠ "")
    if configured ≠ [] then configured else ["openid", "email", "profile"]
  | _ => ["openid", "email", "profile"]

/-- The random bytes of a start, thirty-two for each of its three secrets. -/
structure LoginBytes where
  state : List UInt8
  nonce : List UInt8
  codeVerifier : List UInt8

def LoginBytes.drawn (bytes : LoginBytes) : DrawnLogin where
  state := randomLoginToken "gwst" bytes.state
  nonce := randomLoginToken "gwnc" bytes.nonce
  codeVerifier := base64UrlNoPad bytes.codeVerifier

structure LoginStart where
  authorizationUrl : String
  state : String
  nonce : Option String
  codeChallenge : String
  codeChallengeMethod : String
  expiresInSeconds : Int
deriving DecidableEq, Repr

def authorizationParams (provider : LoginProviderRecord) (clientId redirectUri state codeChallenge : String)
    (nonce : Option String) : List (String × String) :=
  [("response_type", "code"), ("client_id", clientId), ("redirect_uri", redirectUri),
    ("scope", " ".intercalate (loginProviderScopeValues provider)), ("state", state),
    ("code_challenge", codeChallenge), ("code_challenge_method", "S256")] ++
    (nonce.map fun nonce => ("nonce", nonce)).toList

section Start

variable (env : AuthEnv) (sha256 : List UInt8 → List UInt8) (s : LoginSystem)

def loginProviderStartResponse (provider : LoginProviderRecord) (discovered : Result String) (bytes : LoginBytes)
    (now : DateTime) : Result (LoginStart × LoginSystem) := do
  let authorizationEndpoint ← loginProviderAuthorizationEndpoint provider discovered
  match loginConfigString provider.configDocument "client_id" with
  | none => .error (.badRequest "login_provider_client_id_missing")
  | some clientId =>
    match loginConfigString provider.configDocument "redirect_uri" with
    | none => .error (.badRequest "login_provider_redirect_uri_missing")
    | some redirectUri =>
      let issued : IssuedLogin := ⟨provider, bytes.drawn, now⟩
      let codeChallenge := pkceS256Challenge sha256 issued.drawn.codeVerifier
      let next ← createLoginAttempt env s issued redirectUri
      let params := authorizationParams provider clientId redirectUri issued.drawn.state codeChallenge issued.nonce
      .ok (⟨authorizationEndpoint ++ "?" ++ oauthQueryString params, issued.drawn.state, issued.nonce, codeChallenge,
        "S256", 600⟩, next)

end Start

section Bytes

theorem toNat_sextet (a b : UInt8) {high low : Nat} (ha : a.toNat = high * 2 ^ low) (hb : b.toNat < 2 ^ low) :
    (a ||| b).toNat = high * 2 ^ low + b.toNat := by
  rw [UInt8.toNat_or, ha, ← Nat.shiftLeft_eq, Nat.shiftLeft_add_eq_or_of_lt hb]

theorem toNat_first (first : UInt8) : (first >>> 2).toNat = first.toNat / 4 := by
  rw [UInt8.toNat_shiftRight, Nat.shiftRight_eq_div_pow]
  rfl

theorem toNat_second (first second : UInt8) :
    (((first &&& 0x03) <<< 4) ||| (second >>> 4)).toNat = first.toNat % 4 * 16 + second.toNat / 16 := by
  have hlow : (second >>> 4).toNat = second.toNat / 16 := by
    rw [UInt8.toNat_shiftRight, Nat.shiftRight_eq_div_pow]
    rfl
  have hhigh : ((first &&& 0x03) <<< 4).toNat = first.toNat % 4 * 2 ^ 4 := by
    have hmask : (first &&& 0x03).toNat = first.toNat % 4 := Nat.and_two_pow_sub_one_eq_mod first.toNat 2
    rw [UInt8.toNat_shiftLeft, hmask, Nat.shiftLeft_eq, Nat.mod_eq_of_lt]
    · rfl
    · have := Nat.mod_lt first.toNat (show 4 > 0 by decide)
      change first.toNat % 4 * 16 < 256
      omega
  have hlt := second.toNat_lt
  rw [toNat_sextet _ _ hhigh (by omega), hlow]
  rfl

theorem toNat_third (second third : UInt8) :
    (((second &&& 0x0f) <<< 2) ||| (third >>> 6)).toNat = second.toNat % 16 * 4 + third.toNat / 64 := by
  have hlow : (third >>> 6).toNat = third.toNat / 64 := by
    rw [UInt8.toNat_shiftRight, Nat.shiftRight_eq_div_pow]
    rfl
  have hhigh : ((second &&& 0x0f) <<< 2).toNat = second.toNat % 16 * 2 ^ 2 := by
    have hmask : (second &&& 0x0f).toNat = second.toNat % 16 := Nat.and_two_pow_sub_one_eq_mod second.toNat 4
    rw [UInt8.toNat_shiftLeft, hmask, Nat.shiftLeft_eq, Nat.mod_eq_of_lt]
    · rfl
    · have := Nat.mod_lt second.toNat (show 16 > 0 by decide)
      change second.toNat % 16 * 4 < 256
      omega
  have hlt := third.toNat_lt
  rw [toNat_sextet _ _ hhigh (by omega), hlow]
  rfl

theorem toNat_fourth (third : UInt8) : (third &&& 0x3f).toNat = third.toNat % 64 :=
  Nat.and_two_pow_sub_one_eq_mod third.toNat 6

theorem base64Chunk_one (first : UInt8) :
    base64Chunk [first] =
      [Base64.digit (first >>> 2).toNat, Base64.digit (((first &&& 0x03) <<< 4) ||| ((0 : UInt8) >>> 4)).toNat] := rfl

theorem base64Chunk_two (first second : UInt8) :
    base64Chunk [first, second] =
      [Base64.digit (first >>> 2).toNat, Base64.digit (((first &&& 0x03) <<< 4) ||| (second >>> 4)).toNat,
        Base64.digit (((second &&& 0x0f) <<< 2) ||| ((0 : UInt8) >>> 6)).toNat] := rfl

theorem base64Chunk_three (first second third : UInt8) :
    base64Chunk [first, second, third] =
      [Base64.digit (first >>> 2).toNat, Base64.digit (((first &&& 0x03) <<< 4) ||| (second >>> 4)).toNat,
        Base64.digit (((second &&& 0x0f) <<< 2) ||| (third >>> 6)).toNat, Base64.digit (third &&& 0x3f).toNat] := rfl

theorem base64Chunk_flatMap (bytes : List UInt8) : (chunksOfThree bytes).flatMap base64Chunk = Base64.encode bytes := by
  induction bytes using Base64.encode.induct with
  | case1 => rfl
  | case2 a =>
    have hchunks : chunksOfThree [a] = [[a]] := rfl
    rw [hchunks, List.flatMap_singleton, base64Chunk_one, toNat_first, toNat_second]
    rfl
  | case3 a b =>
    have hchunks : chunksOfThree [a, b] = [[a, b]] := rfl
    rw [hchunks, List.flatMap_singleton, base64Chunk_two, toNat_first, toNat_second, toNat_third]
    rfl
  | case4 a b c rest ih =>
    rw [chunksOfThree, List.flatMap_cons, ih, base64Chunk_three, toNat_first, toNat_second, toNat_third, toNat_fourth]
    rfl

/-- The URL-safe code of the gateway is the one of the library. -/
theorem toList_base64UrlNoPad (bytes : List UInt8) : (base64UrlNoPad bytes).toList = Base64.encode bytes := by
  rw [base64UrlNoPad, String.toList_ofList, base64Chunk_flatMap]

end Bytes

section Query

def delimiters : List Char := ['&', '=', '?', '#']

theorem delimiters_avoided :
    ∀ c ∈ delimiters, c ∉ "%0123456789ABCDEF".toList ∧ isUnreserved (UInt8.ofNat c.toNat) = false := by
  unfold delimiters
  -- one by one: deciding the bounded statement could go through all characters
  simp only [List.forall_mem_cons]
  refine ⟨?_, ?_, ?_, ?_, List.forall_mem_nil _⟩ <;> decide +kernel

/-- The code of the query strings: every text can be read back, and none holds a delimiter. -/
def queryCode : Code delimiters := percentCode isUnreserved delimiters (by decide +kernel) delimiters_avoided

theorem encodeByte_eq (byte : UInt8) :
    encodeByte isUnreserved byte =
      if isUnreserved byte then [Char.ofNat byte.toNat]
      else ['%', percentHex.getD (byte >>> 4).toNat '0', percentHex.getD (byte &&& 0x0f).toNat '0'] := by
  have hhigh : (byte >>> 4).toNat = byte.toNat / 16 := by
    rw [UInt8.toNat_shiftRight, Nat.shiftRight_eq_div_pow]
    rfl
  have hlow : (byte &&& 0x0f).toNat = byte.toNat % 16 := Nat.and_two_pow_sub_one_eq_mod byte.toNat 4
  rw [hhigh, hlow]
  rfl

theorem toList_percentEncode (value : String) : (percentEncode value).toList = queryCode.encode value := by
  rw [percentEncode, String.toList_ofList]
  exact List.flatMap_congr fun byte _ => (encodeByte_eq byte).symm

theorem toList_oauthQueryString (params : List (String × String)) :
    (oauthQueryString params).toList = joinPairs queryCode '&' '=' params := by
  have hpair (pair : String × String) :
      (percentEncode pair.1 ++ "=" ++ percentEncode pair.2).toList = encodePair queryCode '=' pair := by
    simp [encodePair, toList_percentEncode]
  rw [oauthQueryString, String.toList_intercalate, joinPairs, List.map_map]
  congr 1
  exact List.map_congr_left fun pair _ => hpair pair

theorem splitPairs_oauthQueryString (params : List (String × String)) :
    splitPairs queryCode '&' '=' (oauthQueryString params).toList = some params := by
  rw [toList_oauthQueryString]
  exact splitPairs_joinPairs (by decide) (by decide) (by decide) params

end Query

section Read

variable {env : AuthEnv} {sha256 : List UInt8 → List UInt8} {s next : LoginSystem} {provider : LoginProviderRecord}
  {discovered : Result String} {bytes : LoginBytes} {now : DateTime} {start : LoginStart}

theorem createLoginAttempt_stored {issued : IssuedLogin} {redirectUri : String}
    (h : createLoginAttempt env s issued redirectUri = .ok next) :
    next.loginAttempts.lookup (env.loginSecretHash issued.drawn.state) = some (issued.record env redirectUri) := by
  unfold createLoginAttempt at h
  dsimp only at h
  split at h
  · cases h
  · cases h
    exact AList.lookup_insert _

theorem loginProviderStartResponse_ok
    (h : loginProviderStartResponse env sha256 s provider discovered bytes now = .ok (start, next)) :
    ∃ endpoint clientId redirectUri, loginProviderAuthorizationEndpoint provider discovered = .ok endpoint ∧
      loginConfigString provider.configDocument "client_id" = some clientId ∧
      loginConfigString provider.configDocument "redirect_uri" = some redirectUri ∧
      createLoginAttempt env s ⟨provider, bytes.drawn, now⟩ redirectUri = .ok next ∧
      start = ⟨endpoint ++ "?" ++ oauthQueryString (authorizationParams provider clientId redirectUri bytes.drawn.state
          (pkceS256Challenge sha256 bytes.drawn.codeVerifier) (IssuedLogin.nonce ⟨provider, bytes.drawn, now⟩)),
        bytes.drawn.state, IssuedLogin.nonce ⟨provider, bytes.drawn, now⟩,
        pkceS256Challenge sha256 bytes.drawn.codeVerifier, "S256", 600⟩ := by
  obtain ⟨endpoint, hendpoint, h⟩ := bind_ok.mp h
  split at h
  · cases h
  rename_i clientId hclient
  split at h
  · cases h
  rename_i redirectUri hredirect
  obtain ⟨created, hcreated, h⟩ := bind_ok.mp h
  cases h
  exact ⟨endpoint, clientId, redirectUri, hendpoint, hclient, hredirect, hcreated, rfl⟩

/-- The start of a login is the lookup of its provider and the answer, with the bytes of the answer as what it draws. -/
theorem startAuthLoginProvider_response {singleUserAuth : Bool} {loginProviderId : String}
    (hprovider : loginProviderId ≠ singleUserProviderId) :
    startAuthLoginProvider env s singleUserAuth loginProviderId discovered bytes.drawn now = .ok next ↔
      ∃ provider start, activeLoginProvider s loginProviderId = .ok provider ∧
        loginProviderStartResponse env sha256 s provider discovered bytes now = .ok (start, next) := by
  unfold startAuthLoginProvider
  rw [if_neg hprovider]
  constructor
  · intro h
    obtain ⟨provider, hactive, h⟩ := bind_ok.mp h
    obtain ⟨endpoint, hendpoint, h⟩ := bind_ok.mp h
    split at h
    · cases h
    rename_i clientId hclient
    split at h
    · cases h
    rename_i redirectUri hredirect
    have hcreated : createLoginAttempt env s ⟨provider, bytes.drawn, now⟩ redirectUri = .ok next := h
    unfold loginProviderStartResponse
    exact ⟨provider, _, hactive, by rw [hendpoint]; simp only [hclient, hredirect, hcreated]; rfl⟩
  · rintro ⟨provider, start, hactive, hresponse⟩
    obtain ⟨endpoint, clientId, redirectUri, hendpoint, hclient, hredirect, hcreated, -⟩ :=
      loginProviderStartResponse_ok hresponse
    refine bind_ok.mpr ⟨provider, hactive, bind_ok.mpr ⟨endpoint, hendpoint, ?_⟩⟩
    rw [hclient, hredirect]
    exact hcreated

theorem decode_randomLoginToken (kind : String) (bytes : List UInt8) :
    Base64.decode ((randomLoginToken kind bytes).toList.drop (kind.length + 1)) = some bytes := by
  have hlength : kind.length + 1 = (kind.toList ++ ['_']).length := by rw [List.length_append, String.length_toList]; rfl
  have htoken : (randomLoginToken kind bytes).toList = kind.toList ++ ['_'] ++ Base64.encode bytes := by
    simp [randomLoginToken, toList_base64UrlNoPad]
  rw [htoken, hlength, List.drop_left, Base64.decode_encode]

/-- What can be read off the answer to a start, and what the gateway has kept of it. -/
structure ReadsBack (env : AuthEnv) (sha256 : List UInt8 → List UInt8) (provider : LoginProviderRecord)
    (bytes : LoginBytes) (start : LoginStart) (next : LoginSystem) (query clientId redirectUri : String) : Prop where
  delimited : '?' ∉ query.toList ∧ '#' ∉ query.toList
  params : splitPairs queryCode '&' '=' query.toList =
    some (authorizationParams provider clientId redirectUri start.state start.codeChallenge start.nonce)
  state : startsWith start.state "gwst_" = true ∧ Base64.decode (start.state.toList.drop 5) = some bytes.state
  nonce : start.nonce.isSome = (provider.providerKind == "oidc") ∧ ∀ nonce, start.nonce = some nonce →
    startsWith nonce "gwnc_" = true ∧ Base64.decode (nonce.toList.drop 5) = some bytes.nonce
  challenge : Base64.decode start.codeChallenge.toList =
    some (sha256 bytes.drawn.codeVerifier.toByteArray.data.toList)
  attempt : ∃ attempt, next.loginAttempts.lookup (env.loginSecretHash start.state) = some attempt ∧
    attempt.status = .pending ∧ attempt.redirectUri = redirectUri ∧
    attempt.nonceHash = start.nonce.map env.loginSecretHash ∧
    attempt.codeVerifierHash = env.loginSecretHash bytes.drawn.codeVerifier

theorem notMem_oauthQueryString {c : Char} (hc : c ∈ delimiters) (hpairs : c ≠ '&') (hpair : c ≠ '=')
    (params : List (String × String)) : c ∉ (oauthQueryString params).toList := by
  rw [toList_oauthQueryString]
  exact notMem_joinPairs hc hpairs hpair params

theorem startsWith_randomLoginToken (kind : String) (bytes : List UInt8) :
    startsWith (randomLoginToken kind bytes) (kind ++ "_") = true := by
  simp [startsWith, randomLoginToken]

/-- Whatever the configuration and the drawn bytes are, the URL of a start splits into its parameters again, and the
attempt that is stored is the one that its state names. -/
theorem authorizationUrl_readsBack
    (h : loginProviderStartResponse env sha256 s provider discovered bytes now = .ok (start, next)) :
    ∃ endpoint clientId redirectUri query, loginProviderAuthorizationEndpoint provider discovered = .ok endpoint ∧
      loginConfigString provider.configDocument "client_id" = some clientId ∧
      loginConfigString provider.configDocument "redirect_uri" = some redirectUri ∧
      start.authorizationUrl = endpoint ++ "?" ++ query ∧
      ReadsBack env sha256 provider bytes start next query clientId redirectUri := by
  obtain ⟨endpoint, clientId, redirectUri, hendpoint, hclient, hredirect, hcreated, rfl⟩ :=
    loginProviderStartResponse_ok h
  refine ⟨endpoint, clientId, redirectUri, _, hendpoint, hclient, hredirect, rfl, ?_⟩
  have hdecoded := decode_randomLoginToken "gwst" bytes.state
  have hnonce := decode_randomLoginToken "gwnc" bytes.nonce
  constructor
  · exact ⟨notMem_oauthQueryString (by decide) (by decide) (by decide) _,
      notMem_oauthQueryString (by decide) (by decide) (by decide) _⟩
  · exact splitPairs_oauthQueryString _
  · exact ⟨startsWith_randomLoginToken "gwst" bytes.state, hdecoded⟩
  · refine ⟨?_, fun nonce hsome => ?_⟩
    · by_cases hkind : provider.providerKind = "oidc" <;> simp [IssuedLogin.nonce, hkind]
    · dsimp only [IssuedLogin.nonce] at hsome
      split at hsome
      · cases hsome
        exact ⟨startsWith_randomLoginToken "gwnc" bytes.nonce, hnonce⟩
      · cases hsome
  · rw [pkceS256Challenge, toList_base64UrlNoPad, Base64.decode_encode]
  · exact ⟨_, createLoginAttempt_stored hcreated, rfl, rfl, rfl, rfl⟩

end Read

/-- A digest of the right length for a run by hand. -/
def sampleDigest (bytes : List UInt8) : List UInt8 := (bytes ++ List.replicate 32 0).take 32

def sampleBytes : LoginBytes :=
  ⟨List.replicate 32 1, List.replicate 32 2, (List.range 32).map UInt8.ofNat⟩

def sampleStart : Result (LoginStart × LoginSystem) :=
  loginProviderStartResponse sampleAuthEnv sampleDigest (.start oidcProviders (.fresh .empty)) oidcProvider (.ok "")
    sampleBytes ⟨0⟩

theorem authorizationUrl_readsBack_oidc :
    ∃ start next query clientId redirectUri, sampleStart = .ok (start, next) ∧
      start.state = "gwst_AQEBAQEBAQEBAQEBAQEBAQEBAQEBAQEBAQEBAQEBAQE" ∧
      ReadsBack sampleAuthEnv sampleDigest oidcProvider sampleBytes start next query clientId redirectUri := by
  have hstate : (sampleStart.toOption.map fun answer => answer.1.state) =
      some "gwst_AQEBAQEBAQEBAQEBAQEBAQEBAQEBAQEBAQEBAQEBAQE" := by decide +kernel
  obtain ⟨⟨start, next⟩, hstart, hstate⟩ := Option.map_eq_some_iff.mp hstate
  have hok : sampleStart = .ok (start, next) := by
    cases hanswer : sampleStart with
    | error error =>
      rw [hanswer] at hstart
      cases hstart
    | ok answer =>
      rw [hanswer] at hstart
      cases hstart
      rfl
  obtain ⟨endpoint, clientId, redirectUri, query, -, -, -, -, hreads⟩ := authorizationUrl_readsBack hok
  exact ⟨start, next, query, clientId, redirectUri, hok, hstate, hreads⟩

example : percentEncode "openid email" = "openid%20email" := by decide +kernel

end Starweaver.Gateway.Tenancy
