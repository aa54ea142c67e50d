import Starweaver.Gateway.UsageBounds

namespace Starweaver.Gateway

open Library Library.MachineInt

/-- The names under which a wire protocol reports its usage. -/
structure UsageNames where
  input : String
  output : String
  total : String

def ProtocolFamily.usageNames : ProtocolFamily → Option UsageNames
  | .openAiResponses | .anthropicMessages => some ⟨"input_tokens", "output_tokens", "total_tokens"⟩
  | .openAiChat => some ⟨"prompt_tokens", "completion_tokens", "total_tokens"⟩
  | .geminiGenerateContent => some ⟨"promptTokenCount", "candidatesTokenCount", "totalTokenCount"⟩
  | .bedrockConverse => some ⟨"inputTokens", "outputTokens", "totalTokens"⟩
  | .providerNative => none

def inputAliases : List String := ["input_tokens", "promptTokenCount", "inputTokens"]

def outputAliases : List String := ["output_tokens", "candidatesTokenCount", "outputTokens"]

def totalAliases : List String := ["total_tokens", "totalTokenCount", "totalTokens"]

/-- The block carries the counts in the protocol's own names, with their sum where a total is present. -/
structure CarriesUsage (names : UsageNames) (usage : Json) (i o : Int) : Prop where
  input : usage.get names.input = some (.number i)
  output : usage.get names.output = some (.number o)
  total : ∀ value, usage.get names.total = some value → value = .number (i + o)
  input_nonneg : 0 ≤ i
  output_nonneg : 0 ≤ o
  fits : i + o ≤ i64Max

/-- The normalized usage is labelled exact and reads these counts and their sum. -/
structure ReadsUsage (result : Json × UsageConfidence) (i o : Int) : Prop where
  confidence : result.2 = .exact
  input : result.1.get "input_tokens" = some (.number i)
  output : result.1.get "output_tokens" = some (.number o)
  total : result.1.get "total_tokens" = some (.number (i + o))

section Aliases

variable (usage : Json) (aliases : List String) (n : Int)

def HoldsInteger (name : String) : Prop := usage.get name = some (.number n) ∧ InI64 n

/-- The first of the names that holds a 64-bit integer holds this one. -/
def FirstHeld : Prop :=
  ∃ before name after, aliases = before ++ name :: after ∧ HoldsInteger usage n name ∧
    ∀ earlier ∈ before, ∀ m, ¬ HoldsInteger usage m earlier

def NoneHeld : Prop := ∀ name ∈ aliases, ∀ m, ¬ HoldsInteger usage m name

end Aliases

section Aliases

variable {usage : Json} {aliases : List String} {n : Int}

theorem asI64_eq_some_iff {value : Json} : value.asI64 = some n ↔ value = .number n ∧ InI64 n := by
  constructor
  · intro h
    refine ⟨?_, Json.asI64_bounds h⟩
    cases value with
    | number m =>
      simp only [Json.asI64, Option.ite_none_right_eq_some, Option.some.injEq] at h
      rw [h.2]
    | null => cases h
    | bool b => cases h
    | float lexeme => cases h
    | string text => cases h
    | array items => cases h
    | object fields => cases h
  · rintro ⟨rfl, hn⟩
    exact if_pos hn

theorem read_eq_some_iff {name : String} :
    ((usage.get name).bind Json.asI64) = some n ↔ HoldsInteger usage n name := by
  rw [Option.bind_eq_some_iff]
  constructor
  · rintro ⟨value, hget, hvalue⟩
    obtain ⟨rfl, hn⟩ := asI64_eq_some_iff.mp hvalue
    exact ⟨hget, hn⟩
  · rintro ⟨hget, hn⟩
    exact ⟨_, hget, asI64_eq_some_iff.mpr ⟨rfl, hn⟩⟩

theorem read_eq_none_iff {name : String} :
    ((usage.get name).bind Json.asI64) = none ↔ ∀ m, ¬ HoldsInteger usage m name := by
  rw [Option.eq_none_iff_forall_ne_some]
  exact forall_congr' fun m => not_congr read_eq_some_iff

theorem firstI64_eq_some_iff : firstI64 usage aliases = some n ↔ FirstHeld usage aliases n := by
  unfold firstI64 FirstHeld
  rw [List.findSome?_eq_some_iff]
  simp only [read_eq_some_iff, read_eq_none_iff]

theorem firstI64_eq_none_iff : firstI64 usage aliases = none ↔ NoneHeld usage aliases := by
  unfold firstI64 NoneHeld
  rw [List.findSome?_eq_none_iff]
  simp only [read_eq_none_iff]

theorem firstI64_getD_iff :
    (firstI64 usage aliases).getD 0 = n ↔ FirstHeld usage aliases n ∨ NoneHeld usage aliases ∧ n = 0 := by
  rw [← firstI64_eq_some_iff, ← firstI64_eq_none_iff]
  cases firstI64 usage aliases with
  | none => simp [eq_comm]
  | some m => simp

end Aliases

/-- The first recognised name of each count holds the right number, and where none does the number is zero; a total
that is not reported is the sum of two counts that are. -/
structure ReadRight (usage : Json) (i o : Int) : Prop where
  input : FirstHeld usage inputAliases i ∨ NoneHeld usage inputAliases ∧ i = 0
  output : FirstHeld usage outputAliases o ∨ NoneHeld usage outputAliases ∧ o = 0
  total : FirstHeld usage totalAliases (i + o) ∨ NoneHeld usage totalAliases ∧
    (FirstHeld usage inputAliases i ∧ FirstHeld usage outputAliases o ∨ i + o = 0)

def OnlyAlias (usage : Json) (own : String) (aliases : List String) : Prop :=
  ∀ name ∈ aliases, name ≠ own → usage.get name = none

/-- Of the names that the code knows, the block has none of another protocol. -/
structure OwnNamesOnly (names : UsageNames) (usage : Json) : Prop where
  input : OnlyAlias usage names.input inputAliases
  output : OnlyAlias usage names.output outputAliases
  total : OnlyAlias usage names.total totalAliases

section Reading

variable {protocolFamily : ProtocolFamily} {names : UsageNames} {body usage : Json} {i o : Int}

theorem total_getD_iff (hfits : InI64 (i + o)) (hinput : (firstI64 usage inputAliases).getD 0 = i)
    (houtput : (firstI64 usage outputAliases).getD 0 = o) :
    ((firstI64 usage totalAliases).or ((firstI64 usage inputAliases).bind fun input =>
      (firstI64 usage outputAliases).map fun output => wrap (input + output))).getD 0 = i + o ↔
    FirstHeld usage totalAliases (i + o) ∨ NoneHeld usage totalAliases ∧
      (FirstHeld usage inputAliases i ∧ FirstHeld usage outputAliases o ∨ i + o = 0) := by
  simp only [← firstI64_eq_some_iff, ← firstI64_eq_none_iff]
  cases firstI64 usage totalAliases with
  | some total => simp
  | none =>
    rw [Option.none_or]
    cases hi : firstI64 usage inputAliases with
    | none => simp [eq_comm]
    | some input =>
      cases ho : firstI64 usage outputAliases with
      | none => simp [eq_comm]
      | some output =>
        rw [hi, Option.getD_some] at hinput
        rw [ho, Option.getD_some] at houtput
        subst hinput houtput
        rw [Option.bind_some, Option.map_some, Option.getD_some, wrap_of_bounds hfits.1 hfits.2]
        simp

theorem readsUsage_iff (hblock : usageBlock protocolFamily body = some usage) (hfits : InI64 (i + o)) :
    ReadsUsage (normalizedUsagePayload protocolFamily body) i o ↔ ReadRight usage i o := by
  have hpayload : normalizedUsagePayload protocolFamily body =
      (.object (("input_tokens", .number ((firstI64 usage inputAliases).getD 0)) ::
        ("output_tokens", .number ((firstI64 usage outputAliases).getD 0)) ::
        ("total_tokens", .number (((firstI64 usage totalAliases).or ((firstI64 usage inputAliases).bind fun input =>
          (firstI64 usage outputAliases).map fun output => wrap (input + output))).getD 0)) ::
        emptyUsageFields.drop 3), .exact) := by
    unfold normalizedUsagePayload
    rw [hblock]
    rfl
  rw [hpayload]
  constructor
  · rintro ⟨-, hi, ho, ht⟩
    have hinput := Json.number.inj (Option.some.inj hi)
    have houtput := Json.number.inj (Option.some.inj ho)
    exact ⟨firstI64_getD_iff.mp hinput, firstI64_getD_iff.mp houtput,
      (total_getD_iff hfits hinput houtput).mp (Json.number.inj (Option.some.inj ht))⟩
  · rintro ⟨hi, ho, ht⟩
    have hinput := firstI64_getD_iff.mpr hi
    have houtput := firstI64_getD_iff.mpr ho
    exact ⟨rfl, congrArg (fun n => some (Json.number n)) hinput, congrArg (fun n => some (Json.number n)) houtput,
      congrArg (fun n => some (Json.number n)) ((total_getD_iff hfits hinput houtput).mpr ht)⟩

end Reading

section OwnNames

variable {protocolFamily : ProtocolFamily} {names : UsageNames} {usage : Json} {aliases : List String} {own : String}
  {i o n : Int}

theorem OnlyAlias.firstHeld (h : OnlyAlias usage own aliases) (hown : own ∈ aliases) (hheld : HoldsInteger usage n own) :
    FirstHeld usage aliases n := by
  obtain ⟨before, after, heq, hbefore⟩ := List.eq_append_cons_of_mem hown
  refine ⟨before, own, after, heq, hheld, fun earlier hearlier m hm => ?_⟩
  have hne : earlier ≠ own := fun hsame => hbefore (hsame ▸ hearlier)
  have hnone := h earlier (by rw [heq]; exact List.mem_append_left _ hearlier) hne
  rw [hm.1] at hnone
  cases hnone

theorem OnlyAlias.noneHeld (h : OnlyAlias usage own aliases) (hown : own ∉ aliases ∨ usage.get own = none) :
    NoneHeld usage aliases := by
  intro name hname m hm
  have hnone : usage.get name = none := by
    by_cases hsame : name = own
    · subst hsame
      exact hown.resolve_left (not_not.mpr hname)
    · exact h name hname hsame
  rw [hm.1] at hnone
  cases hnone

theorem OwnNamesOnly.total_held (h : OwnNamesOnly names usage) (hcarries : CarriesUsage names usage i o)
    (hfits : InI64 (i + o)) (htotal : names.total ∈ totalAliases) :
    FirstHeld usage totalAliases (i + o) ∨ NoneHeld usage totalAliases := by
  cases hget : usage.get names.total with
  | none => exact Or.inr (h.total.noneHeld (Or.inr hget))
  | some value =>
    have hvalue := hcarries.total value hget
    subst hvalue
    exact Or.inl (h.total.firstHeld htotal ⟨hget, hfits⟩)

/-- Every protocol but Chat finds its names among those that the code knows; Chat finds the total only. -/
theorem usageNames_known (hnames : protocolFamily.usageNames = some names) : names.total ∈ totalAliases ∧
    if protocolFamily = .openAiChat then names.input ∉ inputAliases ∧ names.output ∉ outputAliases
    else names.input ∈ inputAliases ∧ names.output ∈ outputAliases := by
  cases protocolFamily <;> cases hnames <;> decide

theorem OwnNamesOnly.readRight_iff (h : OwnNamesOnly names usage) (hnames : protocolFamily.usageNames = some names)
    (hcarries : CarriesUsage names usage i o) :
    ReadRight usage i o ↔ (protocolFamily = .openAiChat → i = 0 ∧ o = 0) := by
  obtain ⟨htotal, hknown⟩ := usageNames_known hnames
  have hi := hcarries.input_nonneg
  have ho := hcarries.output_nonneg
  have hsum := hcarries.fits
  have hmin : i64Min ≤ 0 := by decide
  have hfits : InI64 (i + o) := ⟨by omega, hsum⟩
  have hheld := h.total_held hcarries hfits htotal
  by_cases hchat : protocolFamily = .openAiChat
  · rw [if_pos hchat] at hknown
    have hinput := h.input.noneHeld (Or.inl hknown.1)
    have houtput := h.output.noneHeld (Or.inl hknown.2)
    have hnot : ∀ {aliases : List String} {n : Int}, NoneHeld usage aliases → ¬ FirstHeld usage aliases n := by
      rintro aliases n hnone hfirst
      rw [← firstI64_eq_none_iff] at hnone
      rw [← firstI64_eq_some_iff, hnone] at hfirst
      cases hfirst
    constructor
    · rintro ⟨hi', ho', -⟩ -
      exact ⟨(hi'.resolve_left (hnot hinput)).2, (ho'.resolve_left (hnot houtput)).2⟩
    · intro hzero
      obtain ⟨rfl, rfl⟩ := hzero hchat
      exact ⟨Or.inr ⟨hinput, rfl⟩, Or.inr ⟨houtput, rfl⟩, hheld.imp_right fun hnone => ⟨hnone, Or.inr rfl⟩⟩
  · rw [if_neg hchat] at hknown
    have hinput := h.input.firstHeld hknown.1 ⟨hcarries.input, ⟨by omega, by omega⟩⟩
    have houtput := h.output.firstHeld hknown.2 ⟨hcarries.output, ⟨by omega, by omega⟩⟩
    refine iff_of_true ⟨Or.inl hinput, Or.inl houtput, ?_⟩ fun hsame => absurd hsame hchat
    exact hheld.imp_right fun hnone => ⟨hnone, Or.inl ⟨hinput, houtput⟩⟩

end OwnNames

/-- Usage is read right exactly when the first known name of each count holds it; with the names of no other protocol
in the block, that is every protocol but Chat, whose counts are read as zero. -/
theorem usage_readRight {protocolFamily : ProtocolFamily} {names : UsageNames}
    (hnames : protocolFamily.usageNames = some names) {body usage : Json}
    (hblock : usageBlock protocolFamily body = some usage) {i o : Int} (hcarries : CarriesUsage names usage i o) :
    (ReadsUsage (normalizedUsagePayload protocolFamily body) i o ↔ ReadRight usage i o) ∧
    (OwnNamesOnly names usage →
      (ReadsUsage (normalizedUsagePayload protocolFamily body) i o ↔
        (protocolFamily = .openAiChat → i = 0 ∧ o = 0))) := by
  have hfits : InI64 (i + o) := by
    have hi := hcarries.input_nonneg
    have ho := hcarries.output_nonneg
    exact ⟨le_trans (by decide) (add_nonneg hi ho), hcarries.fits⟩
  have hiff := readsUsage_iff hblock hfits
  exact ⟨hiff, fun honly => hiff.trans (honly.readRight_iff hnames hcarries)⟩

section Examples

def geminiUsage : Json := .object [("promptTokenCount", .number 7), ("candidatesTokenCount", .number 5)]

def chatUsage : Json :=
  .object [("prompt_tokens", .number 7), ("completion_tokens", .number 5), ("total_tokens", .number 12)]

theorem geminiUsage_read :
    ProtocolFamily.geminiGenerateContent.usageNames =
      some ⟨"promptTokenCount", "candidatesTokenCount", "totalTokenCount"⟩ ∧
    usageBlock .geminiGenerateContent (.object [("usageMetadata", geminiUsage)]) = some geminiUsage ∧
    CarriesUsage ⟨"promptTokenCount", "candidatesTokenCount", "totalTokenCount"⟩ geminiUsage 7 5 ∧
    ReadsUsage (normalizedUsagePayload .geminiGenerateContent (.object [("usageMetadata", geminiUsage)])) 7 5 := by
  have hcarries : CarriesUsage ⟨"promptTokenCount", "candidatesTokenCount", "totalTokenCount"⟩ geminiUsage 7 5 :=
    ⟨rfl, rfl, fun value hvalue => (by cases hvalue), by decide, by decide, by decide⟩
  have honly : OwnNamesOnly ⟨"promptTokenCount", "candidatesTokenCount", "totalTokenCount"⟩ geminiUsage := by
    constructor <;> simp [OnlyAlias, inputAliases, outputAliases, totalAliases, geminiUsage, Json.get]
  refine ⟨rfl, rfl, hcarries, ?_⟩
  exact ((usage_readRight rfl rfl hcarries).2 honly).mpr fun hchat => by cases hchat

/-- Chat reports 7 and 5, and the normalized usage has 0 and 0 with the label exact. -/
theorem chatUsage_readZero :
    ProtocolFamily.openAiChat.usageNames = some ⟨"prompt_tokens", "completion_tokens", "total_tokens"⟩ ∧
    usageBlock .openAiChat (.object [("usage", chatUsage)]) = some chatUsage ∧
    CarriesUsage ⟨"prompt_tokens", "completion_tokens", "total_tokens"⟩ chatUsage 7 5 ∧
    normalizedUsagePayload .openAiChat (.object [("usage", chatUsage)]) =
      (.object (("input_tokens", .number 0) :: ("output_tokens", .number 0) :: ("total_tokens", .number 12) ::
        emptyUsageFields.drop 3), .exact) ∧
    ¬ ReadsUsage (normalizedUsagePayload .openAiChat (.object [("usage", chatUsage)])) 7 5 := by
  refine ⟨rfl, rfl, ⟨rfl, rfl, fun value hvalue => (Option.some.inj hvalue).symm, by decide, by decide, by decide⟩, rfl,
    fun hreads => ?_⟩
  have hinput := Json.number.inj (Option.some.inj hreads.input)
  exact absurd hinput (by decide)

end Examples

end Starweaver.Gateway
