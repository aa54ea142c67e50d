import Starweaver.Library.Alphabet
import Starweaver.Library.Json
import Starweaver.Library.PrefixCode
import Starweaver.Library.UrlPath
import Starweaver.Gateway.AdminResources

namespace Starweaver.Gateway

open Library Library.PrefixCode Library.UrlPath

/-- What the adapter calls of the URL library; an error is the text that the library prints for it. -/
structure UrlLibrary (Url : Type) where
  parse : String → Except String Url
  path : Url → String
  setPath : Url → String → Url
  join : Url → String → Except String Url
  scheme : Url → String
  hostStr : Url → Option String
  port : Url → Option Nat
  cannotBeABase : Url → Bool
  toString : Url → String

structure ProviderAdapterTarget where
  protocolFamily : ProtocolFamily
  providerEndpoint : ProviderEndpoint
  upstreamModelId : String
  upstreamCredential : Option ProviderAdapterCredential

structure ProviderAdapterHeader where
  name : String
  value : String

structure ProviderAdapterRequestMetadata where
  protocolFamily : ProtocolFamily
  providerEndpointId : String
  providerKind : String
  upstreamModelId : String
  upstreamCredentialId : Option String
  credentialKind : Option String
  urlOrigin : String
  urlPath : String

structure ProviderAdapterRequest where
  protocolFamily : ProtocolFamily
  method : String
  url : String
  headers : List ProviderAdapterHeader
  body : Json
  safeMetadata : ProviderAdapterRequestMetadata

section Adapter

variable {Url : Type} (urls : UrlLibrary Url)

def hexDigit (value : Nat) : Char := if value ≤ 9 then Char.ofNat (48 + value) else Char.ofNat (65 + (value - 10))

def isAsciiAlphanumeric (byte : UInt8) : Bool :=
  let n := byte.toNat
  (48 ≤ n && n ≤ 57) || (65 ≤ n && n ≤ 90) || (97 ≤ n && n ≤ 122)

def encodedByte (byte : UInt8) : List Char :=
  if isAsciiAlphanumeric byte ∨ Char.ofNat byte.toNat ∈ ['-', '_', '.', '~'] then [Char.ofNat byte.toNat]
  else ['%', hexDigit (byte.toNat / 16), hexDigit (byte.toNat % 16)]

def percentEncodePathSegment (value : String) : String :=
  String.ofList (value.toByteArray.data.toList.flatMap encodedByte)

def insertField (key : String) (value : Json) : List (String × Json) → List (String × Json)
  | [] => [(key, value)]
  | field :: fields => if field.1 = key then (key, value) :: fields else field :: insertField key value fields

def rewriteProviderModel (body : Json) (protocolFamily : ProtocolFamily) (upstreamModelId : String) : Json :=
  match protocolFamily with
  | .openAiResponses | .openAiChat | .anthropicMessages | .providerNative =>
    match body with
    | .object fields => .object (insertField "model" (.string upstreamModelId) fields)
    | _ => body
  | .geminiGenerateContent | .bedrockConverse => body

def providerRequestPath (protocolFamily : ProtocolFamily) (upstreamModelId : String) : String :=
  match protocolFamily with
  | .openAiResponses => "responses"
  | .openAiChat => "chat/completions"
  | .anthropicMessages => "messages"
  | .geminiGenerateContent => "models/" ++ percentEncodePathSegment upstreamModelId ++ ":generateContent"
  | .bedrockConverse => "model/invoke"
  | .providerNative => "native/invoke"

def providerBaseDir (base : Url) : Url :=
  if (urls.path base).toList.getLast? = some '/' then base else urls.setPath base (urls.path base ++ "/")

def providerRequestUrl (upstreamBaseUrl : String) (protocolFamily : ProtocolFamily) (upstreamModelId : String) :
    Result Url := do
  let base ← (urls.parse upstreamBaseUrl).mapError fun error => .badRequest s!"invalid upstream_base_url: {error}"
  let path := providerRequestPath protocolFamily upstreamModelId
  (urls.join (providerBaseDir urls base) path).mapError fun error =>
    .badRequest s!"invalid provider request path: {error}"

def providerAdapterHeaders (target : ProviderAdapterTarget) : List ProviderAdapterHeader :=
  match target.upstreamCredential with
  | none => []
  | some credential =>
    if credential.credentialKind ∈ ["api_key", "bearer_token", "upstream_api_key", "codex_oauth"] then
      [⟨"authorization", s!"Bearer {credential.secretValue}"⟩]
    else []

def urlOrigin (url : Url) : String :=
  match urls.hostStr url with
  | none => urls.scheme url
  | some host =>
    match urls.port url with
    | none => s!"{urls.scheme url}://{host}"
    | some port => s!"{urls.scheme url}://{host}:{port}"

def buildProviderAdapterRequest (target : ProviderAdapterTarget) (body : Json) : Result ProviderAdapterRequest := do
  let upstreamBody := rewriteProviderModel body target.protocolFamily target.upstreamModelId
  let url ← providerRequestUrl urls target.providerEndpoint.upstreamBaseUrl target.protocolFamily target.upstreamModelId
  let safeMetadata : ProviderAdapterRequestMetadata :=
    { protocolFamily := target.protocolFamily
      providerEndpointId := target.providerEndpoint.providerEndpointId
      providerKind := target.providerEndpoint.providerKind
      upstreamModelId := target.upstreamModelId
      upstreamCredentialId := target.upstreamCredential.map (·.upstreamCredentialId)
      credentialKind := target.upstreamCredential.map (·.credentialKind)
      urlOrigin := urlOrigin urls url
      urlPath := urls.path url }
  return { protocolFamily := target.protocolFamily
           method := "POST"
           url := urls.toString url
           headers := providerAdapterHeaders target
           body := upstreamBody
           safeMetadata }

end Adapter

section Encoding

/-- A byte by its two halves, so that a fact about all bytes is decided in two short rounds. -/
theorem forall_byte {P : Nat → Prop} (h : ∀ high < 16, ∀ low < 16, P (16 * high + low)) : ∀ n < 256, P n := by
  intro n hn
  rw [← Nat.div_add_mod n 16]
  exact h _ (by omega) _ (by omega)

theorem encodedByte_chars : ∀ n < 256, (encodedByte (UInt8.ofNat n)).all (fun c => isPathChar c && c != '/') = true :=
  forall_byte (by decide +kernel)

/-- A byte stands for itself or is written as an escape; the sign of the escapes never stands for itself. -/
theorem encodedByte_eq : ∀ n < 256,
    (encodedByte (UInt8.ofNat n) = [Char.ofNat n] ∧ Char.ofNat n ≠ '%') ∨
      encodedByte (UInt8.ofNat n) = ['%', hexDigit (n / 16), hexDigit (n % 16)] :=
  forall_byte (by decide +kernel)

theorem ofNat_inj : ∀ n < 256, (Char.ofNat n).toNat = n := forall_byte (by decide +kernel)

theorem hexDigit_eq : ∀ n < 16, hexDigit n = Alphabet.digit Alphabet.hexUpper n := by decide +kernel

theorem encodedByte_begins {a b : UInt8} (h : encodedByte a <+: encodedByte b) : a = b := by
  have ha := a.toNat_lt
  have hb := b.toNat_lt
  have hspec := encodedByte_eq a.toNat ha
  have hspec' := encodedByte_eq b.toNat hb
  rw [UInt8.ofNat_toNat] at hspec hspec'
  apply UInt8.toNat_inj.mp
  rcases hspec with ⟨hself, hplain⟩ | hescape
  · rcases hspec' with ⟨hself', -⟩ | hescape'
    · rw [hself, hself', List.cons_prefix_cons] at h
      rw [← ofNat_inj a.toNat ha, h.1, ofNat_inj b.toNat hb]
    · rw [hself, hescape', List.cons_prefix_cons] at h
      exact absurd h.1 hplain
  · rcases hspec' with ⟨hself', -⟩ | hescape'
    · rw [hescape, hself'] at h
      exact absurd h.length_le (by simp)
    · rw [hescape, hescape'] at h
      have hdigits := h.eq_of_length rfl
      rw [hexDigit_eq _ (by omega), hexDigit_eq _ (by omega), hexDigit_eq _ (by omega), hexDigit_eq _ (by omega)] at hdigits
      simp only [List.cons.injEq, true_and, and_true] at hdigits
      have hsize : Alphabet.hexUpper.length = 16 := rfl
      have hhigh := Alphabet.digit_inj Alphabet.hexUpper_nodup (by omega) (by omega) hdigits.1
      have hlow := Alphabet.digit_inj Alphabet.hexUpper_nodup (by omega) (by omega) hdigits.2
      omega

theorem encodedByte_prefixFree : PrefixFree encodedByte where
  nonempty byte := by
    unfold encodedByte
    split
    · exact List.cons_ne_nil _ _
    · exact List.cons_ne_nil _ _
  begins := encodedByte_begins

theorem percentEncodePathSegment_injective : Function.Injective percentEncodePathSegment := by
  intro value other h
  have hbytes := encodedByte_prefixFree.flatMap_injective (String.ofList_injective h)
  exact String.toByteArray_inj.mp (ByteArray.ext (Array.toList_inj.mp hbytes))

theorem percentEncodePathSegment_chars (value : String) :
    (percentEncodePathSegment value).toList.all (fun c => isPathChar c && c != '/') = true := by
  rw [percentEncodePathSegment, String.toList_ofList, List.all_flatMap, List.all_eq_true]
  intro byte _
  have hchars := encodedByte_chars byte.toNat byte.toNat_lt
  rwa [UInt8.ofNat_toNat] at hchars

end Encoding

section Body

variable {key other : String} {value : Json} {fields : List (String × Json)}

theorem lookup_insertField : (insertField key value fields).lookup key = some value := by
  induction fields with
  | nil => simp [insertField]
  | cons field fields ih =>
    rw [insertField]
    split
    · simp
    · rename_i hne
      rw [List.lookup_cons, beq_false_of_ne (Ne.symm hne)]
      exact ih

theorem lookup_insertField_ne (hne : other ≠ key) : (insertField key value fields).lookup other = fields.lookup other := by
  induction fields with
  | nil => simp [insertField, List.lookup_cons, beq_false_of_ne hne]
  | cons field fields ih =>
    rw [insertField]
    split
    · rename_i hkey
      rw [List.lookup_cons, List.lookup_cons, hkey]
      simp [beq_false_of_ne hne]
    · rw [List.lookup_cons, List.lookup_cons, ih]

variable {protocolFamily : ProtocolFamily} {upstreamModelId model model' : String}

theorem rewriteProviderModel_other (hne : key ≠ "model") :
    (rewriteProviderModel (.object fields) protocolFamily upstreamModelId).get key = (Json.object fields).get key := by
  cases protocolFamily with
  | openAiResponses | openAiChat | anthropicMessages | providerNative => exact lookup_insertField_ne hne
  | geminiGenerateContent | bedrockConverse => rfl

/-- Outside the two families with the model in the path, the body holds the model. -/
theorem rewriteProviderModel_ne (hgemini : protocolFamily ≠ .geminiGenerateContent)
    (hbedrock : protocolFamily ≠ .bedrockConverse) (hmodels : model ≠ model') :
    rewriteProviderModel (.object fields) protocolFamily model ≠
      rewriteProviderModel (.object fields) protocolFamily model' := by
  have hinserted (upstreamModelId : String) :
      (rewriteProviderModel (.object fields) protocolFamily upstreamModelId).get "model" =
        some (.string upstreamModelId) := by
    cases protocolFamily with
    | openAiResponses | openAiChat | anthropicMessages | providerNative => exact lookup_insertField
    | geminiGenerateContent => exact absurd rfl hgemini
    | bedrockConverse => exact absurd rfl hbedrock
  intro heq
  have hget := hinserted model
  rw [heq, hinserted model', Option.some.injEq, Json.string.injEq] at hget
  exact hmodels hget.symm

end Body

section Paths

theorem isDotSegment_of_colon {segment : List Char} (h : ':' ∈ segment) : isDotSegment segment = false := by
  have hlower : ':' ∈ segment.map Char.toLower := List.mem_map.mpr ⟨':', h, rfl⟩
  rw [isDotSegment, decide_eq_false_iff_not]
  intro hdots
  simp only [List.mem_cons, List.not_mem_nil, or_false] at hdots
  rcases hdots with hdots | hdots | hdots | hdots | hdots | hdots
  all_goals
    rw [hdots] at hlower
    exact absurd hlower (by decide)

theorem models_relative : RelativePath "models".toList := by
  rw [String.toList_ofList]
  decide +kernel

/-- The model does not leave its segment of the path, whatever it is. -/
theorem geminiPath_relative (upstreamModelId : String) :
    RelativePath (providerRequestPath .geminiGenerateContent upstreamModelId).toList := by
  let segment := (percentEncodePathSegment upstreamModelId).toList ++ ":generateContent".toList
  have hpath : (providerRequestPath .geminiGenerateContent upstreamModelId).toList =
      "models".toList ++ '/' :: segment := by
    rw [providerRequestPath, String.toList_append, String.toList_append, List.append_assoc, String.toList_ofList,
      String.toList_ofList]
    rfl
  have hchars : segment.all (fun c => isPathChar c && c != '/') = true := by
    rw [List.all_append, percentEncodePathSegment_chars, String.toList_ofList]
    decide +kernel
  have hcolon : ':' ∈ segment := by
    apply List.mem_append_right
    rw [String.toList_ofList]
    exact List.mem_cons_self
  have hslash : '/' ∉ segment := fun h => absurd (List.all_eq_true.mp hchars '/' h) (by decide)
  rw [hpath]
  refine models_relative.append ?_ ?_
  · rw [List.all_eq_true] at hchars ⊢
    exact fun c hc => (Bool.and_eq_true_iff.mp (hchars c hc)).1
  · intro part hpart
    rw [List.splitOn_eq_singleton hslash, List.mem_singleton] at hpart
    rw [hpart]
    exact isDotSegment_of_colon hcolon

theorem providerRequestPath_relative (protocolFamily : ProtocolFamily) (upstreamModelId : String) :
    RelativePath (providerRequestPath protocolFamily upstreamModelId).toList := by
  cases protocolFamily with
  | geminiGenerateContent => exact geminiPath_relative upstreamModelId
  | openAiResponses | openAiChat | anthropicMessages | bedrockConverse | providerNative =>
    dsimp only [-String.reduceToList, providerRequestPath]
    rw [String.toList_ofList]
    decide +kernel

end Paths

end Starweaver.Gateway
