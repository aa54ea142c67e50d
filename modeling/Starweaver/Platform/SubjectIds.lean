import Starweaver.Library.Hex
import Starweaver.Platform.LoginAtomicity

namespace Starweaver.Platform

open Library.AssocMap Library.Checks Library.Hex Library.OrderedMap Library.Text

section Suffix

variable (sha256 : ByteArray → List UInt8)

def nul : Char := Char.ofNat 0

/-- What is hashed of a tenant, a provider and a trimmed subject. -/
def subjectHashInput (tenantId providerId subject : String) : ByteArray :=
  (String.ofList ("starweaver-platform-oidc-subject-id-v1".toList ++ nul :: (tenantId.toList ++
    nul :: (providerId.toList ++ nul :: subject.toList)))).toUTF8

def subjectHashSuffix (tenantId providerId subject : String) : String :=
  lowerHex ((sha256 (subjectHashInput tenantId providerId subject)).take 20)

def stableOidcSubjectSuffix (tenantId providerId subject : String) : String :=
  subjectHashSuffix sha256 tenantId providerId (trim subject)

def LoginHashes.withSubjectHash (hashes : LoginHashes) : LoginHashes :=
  { hashes with stableOidcSubjectSuffix := subjectHashSuffix sha256 }

/-- The two inputs do not collide on the first 20 bytes of their hashes. -/
def CollisionFree (input other : ByteArray) : Prop := (sha256 input).take 20 = (sha256 other).take 20 → input = other

end Suffix

section Pieces

/-- The parts of the text between its NUL characters. -/
def nulPieces (text : String) : List (List Char) := text.toList.splitOn nul

/-- The pieces of the tenant, the provider and the trimmed subject, one after the other. -/
def subjectPieces (tenantId providerId subject : String) : List (List Char) :=
  nulPieces tenantId ++ (nulPieces providerId ++ nulPieces (trim subject))

theorem splitOn_injective (separator : Char) : Function.Injective (List.splitOn separator) := by
  intro xs ys h
  have hjoined := congrArg (List.intercalate [separator]) h
  rwa [List.intercalate_splitOn, List.intercalate_splitOn] at hjoined

theorem subjectHashInput_inj {tenantId providerId subject tenantId' providerId' subject' : String} :
    subjectHashInput tenantId providerId (trim subject) = subjectHashInput tenantId' providerId' (trim subject') ↔
      subjectPieces tenantId providerId subject = subjectPieces tenantId' providerId' subject' := by
  unfold subjectHashInput subjectPieces nulPieces
  rw [String.toUTF8_eq_toByteArray, String.toUTF8_eq_toByteArray, String.toByteArray_inj, String.ofList_inj,
    List.append_cancel_left_eq, List.cons.injEq]
  simp only [true_and]
  rw [← (splitOn_injective nul).eq_iff]
  simp only [List.splitOn_append_cons_self]

/-- Without NUL characters the ids are told apart by the tenant, the provider and the trimmed subject. -/
theorem subjectPieces_inj {tenantId providerId subject tenantId' providerId' subject' : String}
    (htenant : nul ∉ tenantId.toList) (hprovider : nul ∉ providerId.toList) (htenant' : nul ∉ tenantId'.toList)
    (hprovider' : nul ∉ providerId'.toList) :
    subjectPieces tenantId providerId subject = subjectPieces tenantId' providerId' subject' ↔
      tenantId = tenantId' ∧ providerId = providerId' ∧ trim subject = trim subject' := by
  unfold subjectPieces nulPieces
  rw [List.splitOn_eq_singleton htenant, List.splitOn_eq_singleton hprovider, List.splitOn_eq_singleton htenant',
    List.splitOn_eq_singleton hprovider']
  simp only [List.singleton_append, List.cons.injEq, String.toList_inj, (splitOn_injective nul).eq_iff]

end Pieces

/-- No id of one login is an id of the other, and the second leaves what is stored for the subject of the first. -/
structure SubjectsApart (left right : OidcLoginCompletionRecord) : Prop where
  user : left.userId ≠ right.userId
  organization : left.organizationId ≠ right.organizationId
  project : left.projectId ≠ right.projectId
  organizationMember : left.organizationMemberId ≠ right.organizationMemberId
  projectMember : left.projectMemberId ≠ right.projectMemberId
  roleBinding : left.organizationRoleBindingId ≠ right.organizationRoleBindingId
  externalIdentity : left.externalIdentityId ≠ right.externalIdentityId
  kept : ∀ identities, Keyed (·.externalIdentityId) identities → ∀ stored,
    identities.lookup left.externalIdentityId = some stored → left.externalIdentity.sameSubject stored = true →
      (upsertExternalIdentity identities right.externalIdentity).1.lookup left.externalIdentityId = some stored

section Identities

variable {identities : Index PlatformExternalIdentityRecord}

/-- An upsert writes at the id of the new record, or at the id of a record with its subject. -/
theorem upsertExternalIdentity_cases (hkeyed : Keyed (·.externalIdentityId) identities)
    (record : PlatformExternalIdentityRecord) :
    (upsertExternalIdentity identities record).1 = identities ∨
      (upsertExternalIdentity identities record).1 = identities.insert record.externalIdentityId record ∨
        ∃ existing, identities.lookup existing.externalIdentityId = some existing ∧ record.sameSubject existing = true ∧
          (upsertExternalIdentity identities record).1 =
            identities.insert existing.externalIdentityId (record.linkedFrom existing) := by
  unfold upsertExternalIdentity
  cases validateExternalIdentity record with
  | error error => exact .inl rfl
  | ok =>
    cases hfound : findOrdered record.sameSubject identities with
    | none => exact .inr (.inl rfl)
    | some entry =>
      obtain ⟨hlookup, hsubject⟩ := hkeyed.findOrdered hfound
      simp only [hlookup]
      split
      · exact .inl rfl
      · exact .inr (.inr ⟨entry.2, hlookup, hsubject, rfl⟩)

theorem upsertExternalIdentity_keeps (hkeyed : Keyed (·.externalIdentityId) identities)
    {record stored : PlatformExternalIdentityRecord} {id : String} (hstored : identities.lookup id = some stored)
    (hid : id ≠ record.externalIdentityId) (hsubject : record.sameSubject stored ≠ true) :
    (upsertExternalIdentity identities record).1.lookup id = some stored := by
  rcases upsertExternalIdentity_cases hkeyed record with h | h | ⟨existing, hexisting, hsame, h⟩
  · rwa [h]
  · rwa [h, AList.lookup_insert_ne hid]
  · have hother : id ≠ existing.externalIdentityId := by
      rintro rfl
      cases hstored.symm.trans hexisting
      exact hsubject hsame
    rwa [h, AList.lookup_insert_ne hother]

theorem sameSubject_iff {record existing : PlatformExternalIdentityRecord} :
    record.sameSubject existing = true ↔ existing.tenantId = record.tenantId ∧
      existing.identityProviderId = record.identityProviderId ∧ existing.providerSubject = record.providerSubject := by
  simp only [PlatformExternalIdentityRecord.sameSubject, Bool.and_eq_true, beq_iff_eq, and_assoc]

end Identities

section Logins

variable {κ : Type} {sha256 : ByteArray → List UInt8}

def VerifiedLogin.hashInput (login : VerifiedLogin κ) : ByteArray :=
  subjectHashInput login.provider.tenantId login.provider.identityProviderId (trim login.claims.subject)

def VerifiedLogin.pieces (login : VerifiedLogin κ) : List (List Char) :=
  subjectPieces login.provider.tenantId login.provider.identityProviderId login.claims.subject

def VerifiedLogin.suffix (sha256 : ByteArray → List UInt8) (login : VerifiedLogin κ) : String :=
  stableOidcSubjectSuffix sha256 login.provider.tenantId login.provider.identityProviderId login.claims.subject

theorem suffix_inj {left right : VerifiedLogin κ} (hfree : CollisionFree sha256 left.hashInput right.hashInput) :
    left.suffix sha256 = right.suffix sha256 ↔ left.pieces = right.pieces := by
  refine Iff.trans ⟨fun h => hfree (lowerHex_injective h), fun h => ?_⟩ subjectHashInput_inj
  unfold VerifiedLogin.suffix stableOidcSubjectSuffix subjectHashSuffix
  rw [show subjectHashInput left.provider.tenantId left.provider.identityProviderId (trim left.claims.subject) =
    subjectHashInput right.provider.tenantId right.provider.identityProviderId (trim right.claims.subject) from h]

theorem oidcSubjects_apart_iff {hashes : LoginHashes} {left right : VerifiedLogin κ}
    (hfree : CollisionFree sha256 left.hashInput right.hashInput) :
    SubjectsApart (left.completion (hashes.withSubjectHash sha256)) (right.completion (hashes.withSubjectHash sha256)) ↔
      left.pieces ≠ right.pieces := by
  rw [ne_eq, ← suffix_inj hfree]
  constructor
  · intro hapart hsame
    have huser : "usr_oidc_" ++ left.suffix sha256 ≠ "usr_oidc_" ++ right.suffix sha256 := hapart.user
    rw [hsame] at huser
    exact huser rfl
  · intro hne
    have happended (start : String) : start ++ left.suffix sha256 ≠ start ++ right.suffix sha256 :=
      fun h => hne ((String.append_right_inj start).mp h)
    refine ⟨happended _, happended _, happended _, happended _, happended _, happended _, happended _,
      fun identities hkeyed stored hstored hsubject => upsertExternalIdentity_keeps hkeyed hstored (happended _) ?_⟩
    intro hsame
    obtain ⟨htenant, hprovider, hsubject⟩ := sameSubject_iff.mp hsubject
    obtain ⟨htenant', hprovider', hsubject'⟩ := sameSubject_iff.mp hsame
    have htenants : left.provider.tenantId = right.provider.tenantId := htenant.symm.trans htenant'
    have hproviders : left.provider.identityProviderId = right.provider.identityProviderId := hprovider.symm.trans hprovider'
    have hsubjects : left.claims.subject = right.claims.subject := hsubject.symm.trans hsubject'
    apply hne
    unfold VerifiedLogin.suffix
    rw [htenants, hproviders, hsubjects]

end Logins

section Examples

/-- A digest that turns the bytes around. -/
def reversedBytes (bytes : ByteArray) : List UInt8 := bytes.data.toList.reverse

/-- A library in which each token is signed for the subject that it spells. -/
def subjectLibrary : TokenLibrary String where
  decodeHeader _ := some ⟨.rs256, some "kid"⟩
  decode token _ _ issuer _ := if issuer = "https://issuer" then some { loginClaims with sub := token } else none

def subjectEnv : LoginEnv String := { oneTokenEnv with library := subjectLibrary }

def subjectMetadata : OidcResolvedProviderMetadata :=
  ⟨"idp_a", "ten_a", "https://issuer", "https://issuer/authorize", "https://issuer/token", "https://issuer/keys",
    "client", none, .none, "https://service/callback", ["client"], ["RS256"]⟩

def loginOf (subject : String) : VerifiedLogin String where
  call := ⟨"idp_a", ⟨"state", "code", "nonce", "verifier"⟩, 10⟩
  provider := loginProvider
  attempt := loginAttempt
  metadata := subjectMetadata
  jwks := loginAnswers.jwks
  idToken := subject
  claims := ⟨"https://issuer", subject, ["client"], "nonce", 200, none, false, none⟩
  sessionToken := loginAnswers.sessionToken

def completionOf (subject : String) : OidcLoginCompletionRecord :=
  (loginOf subject).completion (oneTokenEnv.hashes.withSubjectHash reversedBytes)

theorem alice_checked : (loginOf "alice").Checked subjectEnv :=
  ⟨by decide +kernel, ⟨none, by decide +kernel⟩, by decide +kernel⟩

theorem paddedAlice_checked : (loginOf "alice ").Checked subjectEnv :=
  ⟨by decide +kernel, ⟨none, by decide +kernel⟩, by decide +kernel⟩

theorem differentSubjects_apart : SubjectsApart (completionOf "alice") (completionOf "bob") := by
  have hfree : CollisionFree reversedBytes (loginOf "alice").hashInput (loginOf "bob").hashInput := by
    intro h
    exact absurd h (by decide +kernel)
  exact (oidcSubjects_apart_iff hfree).mpr (by decide +kernel)

/-- A subject with a trailing blank is another one for the provider and the identity store, and gets the same ids. -/
theorem paddedSubject_merges :
    (loginOf "alice").Checked subjectEnv ∧ (loginOf "alice ").Checked subjectEnv ∧
      (loginOf "alice").claims.subject ≠ (loginOf "alice ").claims.subject ∧
      CollisionFree reversedBytes (loginOf "alice").hashInput (loginOf "alice ").hashInput ∧
      (completionOf "alice").userId = (completionOf "alice ").userId ∧
      (upsertExternalIdentity (upsertExternalIdentity ∅ (completionOf "alice").externalIdentity).1
          (completionOf "alice ").externalIdentity).1.lookup (completionOf "alice").externalIdentityId =
        some (completionOf "alice ").externalIdentity ∧
      ¬ SubjectsApart (completionOf "alice") (completionOf "alice ") := by
  have huser : (completionOf "alice").userId = (completionOf "alice ").userId := by decide +kernel
  exact ⟨alice_checked, paddedAlice_checked, by decide +kernel, fun _ => by decide +kernel, huser, by decide +kernel,
    fun hapart => hapart.user huser⟩

end Examples

end Starweaver.Platform
