import Mathlib.Data.List.Forall2
import Mathlib.Data.String.Basic
import Starweaver.Gateway.Pricing

namespace Starweaver.Gateway

open Library.Calendar Library.SortBy Library.Text

section MinBy

variable {α : Type} {cmp : α → α → Ordering} {xs : List α}

theorem minBy_eq_none : minBy cmp xs = none ↔ xs = [] := by
  cases xs <;> simp [minBy]

theorem foldl_least [Std.TransCmp cmp] (start : α) (xs : List α) :
    let best := xs.foldl (fun best y => if cmp y best = .lt then y else best) start
    best ∈ start :: xs ∧ ∀ x ∈ start :: xs, (cmp best x).isLE = true := by
  have hself (x : α) : (cmp x x).isLE = true := by
    have heq : cmp x x = .eq := Std.ReflCmp.compare_self
    rw [heq]
    rfl
  induction xs generalizing start with
  | nil =>
    refine ⟨List.mem_singleton.mpr rfl, fun x hx => ?_⟩
    rw [List.mem_singleton.mp hx]
    exact hself start
  | cons y xs ih =>
    rw [List.foldl_cons]
    let next := if cmp y start = .lt then y else start
    have hnext : next ∈ [start, y] ∧ (cmp next start).isLE = true ∧ (cmp next y).isLE = true := by
      by_cases hlt : cmp y start = .lt
      · simp only [next, if_pos hlt]
        exact ⟨by simp, by rw [hlt]; rfl, hself y⟩
      · simp only [next, if_neg hlt]
        refine ⟨by simp, hself start, Ordering.isLE_iff_ne_gt.mpr fun hgt => ?_⟩
        exact hlt (Std.OrientedCmp.gt_iff_lt.mp hgt)
    obtain ⟨hmem, hleast⟩ := ih next
    have hfirst := hleast next List.mem_cons_self
    constructor
    · rcases List.mem_cons.mp hmem with heq | hrest
      · rw [heq]
        exact List.mem_append_left xs hnext.1
      · exact List.mem_cons_of_mem _ (List.mem_cons_of_mem _ hrest)
    · intro x hx
      rcases List.mem_cons.mp hx with rfl | hx
      · exact Std.TransCmp.isLE_trans hfirst hnext.2.1
      · rcases List.mem_cons.mp hx with rfl | hx
        · exact Std.TransCmp.isLE_trans hfirst hnext.2.2
        · exact hleast x (List.mem_cons_of_mem _ hx)

/-- The least element by the comparison stands in the list and comes before every other. -/
theorem minBy_least [Std.TransCmp cmp] {best : α} (h : minBy cmp xs = some best) :
    best ∈ xs ∧ ∀ x ∈ xs, (cmp best x).isLE = true := by
  cases xs with
  | nil => cases h
  | cons start xs =>
    cases h
    exact foldl_least start xs

end MinBy

/-- More literal characters first, then the name, then the id. -/
def comparePricingSkus (left right : PricingSkuRecord) : Ordering :=
  (compare (pricingSkuSpecificity right) (pricingSkuSpecificity left)).then
    ((compare left.name right.name).then (compare left.pricingSkuId right.pricingSkuId))

instance : Std.TransCmp comparePricingSkus :=
  have : Std.TransCmp (fun a b : PricingSkuRecord => compareOn pricingSkuSpecificity b a) := Std.TransCmp.opposite
  inferInstanceAs (Std.TransCmp (compareLex (fun a b => compareOn pricingSkuSpecificity b a)
    (compareLex (compareOn PricingSkuRecord.name) (compareOn PricingSkuRecord.pricingSkuId))))

section Selection

variable (actor : AuthenticatedActor) (upstreamModelId providerEndpointId : String) (now : DateTime)

structure PricingSkuRecord.Applies (sku : PricingSkuRecord) : Prop where
  available : runtimePricingSkuIsAvailable sku actor now = true
  model : pricingPatternsMatch sku.modelIdPatterns upstreamModelId = true
  endpoint : sku.providerEndpointPatterns = [] ∨
    pricingPatternsMatch sku.providerEndpointPatterns providerEndpointId = true

/-- The price that the code settles on when the target names none. -/
def resolvedPrice (skus : List PricingSkuRecord) : Option PricingSkuRecord :=
  resolveRuntimePricingSku skus actor upstreamModelId providerEndpointId none now

def applicableSkus (skus : List PricingSkuRecord) : List PricingSkuRecord :=
  (pricingSkusForTenant skus actor.tenantId).filter fun sku =>
    runtimePricingSkuIsAvailable sku actor now && pricingPatternsMatch sku.modelIdPatterns upstreamModelId &&
      (sku.providerEndpointPatterns.isEmpty || pricingPatternsMatch sku.providerEndpointPatterns providerEndpointId)

end Selection

section Selected

variable {actor : AuthenticatedActor} {upstreamModelId providerEndpointId : String} {now : DateTime}
  {skus : List PricingSkuRecord} {sku : PricingSkuRecord}

theorem resolvedPrice_eq : resolvedPrice actor upstreamModelId providerEndpointId now skus =
    minBy comparePricingSkus (applicableSkus actor upstreamModelId providerEndpointId now skus) := rfl

theorem mem_applicableSkus : sku ∈ applicableSkus actor upstreamModelId providerEndpointId now skus ↔
    sku ∈ skus ∧ sku.Applies actor upstreamModelId providerEndpointId now := by
  unfold applicableSkus pricingSkusForTenant
  rw [List.mem_filter, mem_sortBy, List.mem_filter]
  simp only [Bool.and_eq_true, Bool.or_eq_true, List.isEmpty_iff, beq_iff_eq]
  constructor
  · rintro ⟨⟨hmem, -⟩, ⟨havailable, hmodel⟩, hendpoint⟩
    exact ⟨hmem, havailable, hmodel, hendpoint⟩
  · rintro ⟨hmem, happlies⟩
    have htenant : sku.tenantId = actor.tenantId := by
      have havailable := happlies.available
      simp only [runtimePricingSkuIsAvailable, Bool.and_eq_true, beq_iff_eq] at havailable
      exact havailable.1.1.1.1
    exact ⟨⟨hmem, htenant⟩, ⟨happlies.available, happlies.model⟩, happlies.endpoint⟩

theorem resolvedPrice_least (h : resolvedPrice actor upstreamModelId providerEndpointId now skus = some sku) :
    (sku ∈ skus ∧ sku.Applies actor upstreamModelId providerEndpointId now) ∧
      ∀ other ∈ skus, other.Applies actor upstreamModelId providerEndpointId now →
        (comparePricingSkus sku other).isLE = true := by
  rw [resolvedPrice_eq] at h
  obtain ⟨hmem, hleast⟩ := minBy_least h
  exact ⟨mem_applicableSkus.mp hmem, fun other hother happlies =>
    hleast other (mem_applicableSkus.mpr ⟨hother, happlies⟩)⟩

theorem resolvedPrice_eq_none : resolvedPrice actor upstreamModelId providerEndpointId now skus = none ↔
    ∀ sku ∈ skus, ¬ sku.Applies actor upstreamModelId providerEndpointId now := by
  rw [resolvedPrice_eq, minBy_eq_none, List.eq_nil_iff_forall_not_mem]
  simp only [mem_applicableSkus, not_and]

end Selected

/-- The same record, its two pattern lists stored in another order. -/
structure SamePatterns (sku reordered : PricingSkuRecord) : Prop where
  models : sku.modelIdPatterns.Perm reordered.modelIdPatterns
  endpoints : sku.providerEndpointPatterns.Perm reordered.providerEndpointPatterns
  others : { reordered with
    modelIdPatterns := sku.modelIdPatterns, providerEndpointPatterns := sku.providerEndpointPatterns } = sku

theorem pricingPatternsMatch_perm {patterns reordered : List String} (h : patterns.Perm reordered) (value : String) :
    pricingPatternsMatch patterns value = pricingPatternsMatch reordered value := h.any_eq

namespace SamePatterns

variable {sku reordered sku' reordered' : PricingSkuRecord}

theorem field_eq {β : Type} (field : PricingSkuRecord → β) (h : SamePatterns sku reordered)
    (hfield : field { reordered with
      modelIdPatterns := sku.modelIdPatterns, providerEndpointPatterns := sku.providerEndpointPatterns } =
        field reordered) : field reordered = field sku :=
  hfield.symm.trans (congrArg field h.others)

theorem specificity (h : SamePatterns sku reordered) : pricingSkuSpecificity reordered = pricingSkuSpecificity sku :=
  ((h.models.append h.endpoints).map _).sum_eq.symm

theorem applies (h : SamePatterns sku reordered) {actor : AuthenticatedActor} {upstreamModelId providerEndpointId : String} {now : DateTime} :
    reordered.Applies actor upstreamModelId providerEndpointId now ↔
      sku.Applies actor upstreamModelId providerEndpointId now := by
  have havailable := field_eq (fun record => runtimePricingSkuIsAvailable record actor now) h rfl
  have hmodel := pricingPatternsMatch_perm h.models upstreamModelId
  have hendpoint := pricingPatternsMatch_perm h.endpoints providerEndpointId
  have hempty : reordered.providerEndpointPatterns = [] ↔ sku.providerEndpointPatterns = [] := by
    constructor
    · exact fun hnil => (hnil ▸ h.endpoints).eq_nil
    · exact fun hnil => (hnil ▸ h.endpoints).symm.eq_nil
  constructor
  · rintro ⟨h1, h2, h3⟩
    exact ⟨havailable.symm.trans h1, hmodel.trans h2, h3.imp hempty.mp hendpoint.trans⟩
  · rintro ⟨h1, h2, h3⟩
    exact ⟨havailable.trans h1, hmodel.symm.trans h2, h3.imp hempty.mpr hendpoint.symm.trans⟩

theorem compare_eq (h : SamePatterns sku reordered) (h' : SamePatterns sku' reordered') :
    comparePricingSkus reordered reordered' = comparePricingSkus sku sku' := by
  unfold comparePricingSkus
  rw [h.specificity, h'.specificity, field_eq PricingSkuRecord.name h rfl, field_eq PricingSkuRecord.name h' rfl,
    field_eq PricingSkuRecord.pricingSkuId h rfl, field_eq PricingSkuRecord.pricingSkuId h' rfl]

end SamePatterns

section Reordered

variable {actor : AuthenticatedActor} {upstreamModelId providerEndpointId : String} {now : DateTime}
  {skus ordered reordered : List PricingSkuRecord}

theorem exists_right_of_forall₂ {α β : Type} {r : α → β → Prop} {xs : List α} {ys : List β} (h : List.Forall₂ r xs ys) :
    ∀ x ∈ xs, ∃ y ∈ ys, r x y := by
  induction h with
  | nil => simp
  | cons hxy _ ih =>
    refine List.forall_mem_cons.mpr ⟨⟨_, List.mem_cons_self, hxy⟩, fun x hx => ?_⟩
    obtain ⟨y, hy, hr⟩ := ih x hx
    exact ⟨y, List.mem_cons_of_mem _ hy, hr⟩

theorem pricingSkuId_eq_of_compare {left right : PricingSkuRecord} (h : comparePricingSkus left right = .eq) :
    left.pricingSkuId = right.pricingSkuId := by
  have hid := (Ordering.then_eq_eq.mp (Ordering.then_eq_eq.mp h).2).2
  rwa [compare_eq_iff_eq] at hid

/-- Two prices that compare equal in both directions are one, since no id is stored twice. -/
theorem eq_of_isLE {left right : PricingSkuRecord} (hnodup : (skus.map PricingSkuRecord.pricingSkuId).Nodup)
    (hleft : left ∈ skus) (hright : right ∈ skus) (hle : (comparePricingSkus left right).isLE = true)
    (hge : (comparePricingSkus right left).isLE = true) : left = right := by
  have hid := pricingSkuId_eq_of_compare (Std.OrientedCmp.isLE_antisymm hle hge)
  exact List.inj_on_of_nodup_map hnodup hleft hright hid

theorem resolvedPrice_reordered (hnodup : (skus.map PricingSkuRecord.pricingSkuId).Nodup) (hperm : skus.Perm ordered)
    (hpatterns : List.Forall₂ SamePatterns ordered reordered) :
    Option.Rel SamePatterns (resolvedPrice actor upstreamModelId providerEndpointId now skus)
      (resolvedPrice actor upstreamModelId providerEndpointId now reordered) := by
  have hpartner : ∀ sku ∈ skus, ∃ other ∈ reordered, SamePatterns sku other := by
    intro sku hsku
    exact exists_right_of_forall₂ hpatterns sku (hperm.subset hsku)
  have hpartner' : ∀ other ∈ reordered, ∃ sku ∈ skus, SamePatterns sku other := by
    intro other hother
    obtain ⟨sku, hsku, hsame⟩ := exists_right_of_forall₂ hpatterns.flip other hother
    exact ⟨sku, hperm.symm.subset hsku, hsame⟩
  cases hskus : resolvedPrice actor upstreamModelId providerEndpointId now skus with
  | none =>
    have hnone : resolvedPrice actor upstreamModelId providerEndpointId now reordered = none := by
      rw [resolvedPrice_eq_none] at hskus ⊢
      intro other hother happlies
      obtain ⟨sku, hsku, hsame⟩ := hpartner' other hother
      exact hskus sku hsku (hsame.applies.mp happlies)
    rw [hnone]
    exact .none
  | some sku =>
    obtain ⟨⟨hsku, happlies⟩, hleast⟩ := resolvedPrice_least hskus
    obtain ⟨moved, hmoved, hsame⟩ := hpartner sku hsku
    cases hreordered : resolvedPrice actor upstreamModelId providerEndpointId now reordered with
    | none => exact absurd (hsame.applies.mpr happlies) (resolvedPrice_eq_none.mp hreordered moved hmoved)
    | some other =>
      obtain ⟨⟨hother, happlies'⟩, hleast'⟩ := resolvedPrice_least hreordered
      obtain ⟨origin, horigin, hsame'⟩ := hpartner' other hother
      have hle := hleast origin horigin (hsame'.applies.mp happlies')
      have hge := hleast' moved hmoved (hsame.applies.mpr happlies)
      rw [hsame'.compare_eq hsame] at hge
      have heq : sku = origin := eq_of_isLE hnodup hsku horigin hle hge
      subst heq
      exact .some hsame'

end Reordered

/-- The price with more literal characters over all its patterns comes first, then the lesser name, then the lesser id. -/
def Outranks (sku other : PricingSkuRecord) : Prop :=
  pricingSkuSpecificity other < pricingSkuSpecificity sku ∨
    pricingSkuSpecificity other = pricingSkuSpecificity sku ∧
      (sku.name < other.name ∨ sku.name = other.name ∧ sku.pricingSkuId ≤ other.pricingSkuId)

theorem outranks_of_isLE {sku other : PricingSkuRecord} (h : (comparePricingSkus sku other).isLE = true) :
    Outranks sku other := by
  unfold comparePricingSkus at h
  rcases lt_trichotomy (pricingSkuSpecificity other) (pricingSkuSpecificity sku) with hlt | heq | hgt
  · exact Or.inl hlt
  · rw [compare_eq_iff_eq.mpr heq, Ordering.eq_then] at h
    refine Or.inr ⟨heq, ?_⟩
    rcases lt_trichotomy sku.name other.name with hname | hname | hname
    · exact Or.inl hname
    · rw [compare_eq_iff_eq.mpr hname, Ordering.eq_then] at h
      exact Or.inr ⟨hname, not_lt.mp fun hid => by rw [compare_gt_iff_gt.mpr hid] at h; cases h⟩
    · rw [compare_gt_iff_gt.mpr hname] at h
      cases h
  · rw [compare_gt_iff_gt.mpr hgt] at h
    cases h

section BestMatch

def literalCount (pattern : String) : Nat := (pattern.toList.filter (· != '*')).length

/-- The most literal characters of one pattern of the list that matches the value. -/
def bestMatch (patterns : List String) (value : String) : Nat :=
  ((patterns.filter fun pattern => pricingPatternMatches (trim pattern) value).map literalCount).foldr max 0

def PricingSkuRecord.bestMatch (sku : PricingSkuRecord) (upstreamModelId providerEndpointId : String) : Nat :=
  Gateway.bestMatch sku.modelIdPatterns upstreamModelId + Gateway.bestMatch sku.providerEndpointPatterns providerEndpointId

variable {patterns : List String} {value : String} {sku : PricingSkuRecord} {upstreamModelId providerEndpointId : String}

theorem bestMatch_le : bestMatch patterns value ≤ (patterns.map literalCount).sum := by
  unfold bestMatch
  induction patterns with
  | nil => exact le_refl 0
  | cons pattern patterns ih =>
    rw [List.map_cons, List.sum_cons, List.filter_cons]
    split
    · rw [List.map_cons, List.foldr_cons]
      omega
    · omega

theorem bestMatch_single (hlength : patterns.length ≤ 1)
    (hmatch : patterns = [] ∨ pricingPatternsMatch patterns value = true) :
    bestMatch patterns value = (patterns.map literalCount).sum := by
  cases patterns with
  | nil => rfl
  | cons pattern rest =>
    obtain rfl : rest = [] := List.length_eq_zero_iff.mp (Nat.le_zero.mp (Nat.le_of_succ_le_succ hlength))
    have hpattern : pricingPatternMatches (trim pattern) value = true := by
      simpa only [pricingPatternsMatch, List.any_cons, List.any_nil, Bool.or_false] using
        hmatch.resolve_left (List.cons_ne_nil _ _)
    have hfilter : [pattern].filter (fun pattern => pricingPatternMatches (trim pattern) value) = [pattern] := by
      rw [List.filter_cons, if_pos hpattern, List.filter_nil]
    rw [bestMatch, hfilter, List.map_cons, List.map_nil, List.foldr_cons, List.foldr_nil, List.sum_cons, List.sum_nil]
    omega

theorem pricingSkuSpecificity_eq : pricingSkuSpecificity sku =
    (sku.modelIdPatterns.map literalCount).sum + (sku.providerEndpointPatterns.map literalCount).sum := by
  unfold pricingSkuSpecificity
  rw [List.map_append, List.sum_append]
  rfl

theorem skuBestMatch_le : sku.bestMatch upstreamModelId providerEndpointId ≤ pricingSkuSpecificity sku := by
  rw [pricingSkuSpecificity_eq]
  exact Nat.add_le_add bestMatch_le bestMatch_le

/-- Where no list has a second pattern, the literals that are counted are those of the patterns that match. -/
theorem skuBestMatch_single {actor : AuthenticatedActor} {now : DateTime}
    (h : sku.Applies actor upstreamModelId providerEndpointId now) (hmodels : sku.modelIdPatterns.length ≤ 1)
    (hendpoints : sku.providerEndpointPatterns.length ≤ 1) :
    sku.bestMatch upstreamModelId providerEndpointId = pricingSkuSpecificity sku := by
  rw [pricingSkuSpecificity_eq]
  exact congrArg₂ (· + ·) (bestMatch_single hmodels (Or.inr h.model)) (bestMatch_single hendpoints h.endpoint)

end BestMatch

/-- Without an explicit SKU the price that applies and has the most literal characters is taken, in whatever order
the prices and their patterns are stored. -/
theorem resolvedPrice_mostLiterals (skus : List PricingSkuRecord)
    (hnodup : (skus.map PricingSkuRecord.pricingSkuId).Nodup) (actor : AuthenticatedActor)
    (upstreamModelId providerEndpointId : String) (now : DateTime) :
    (∀ sku, resolveRuntimePricingSku skus actor upstreamModelId providerEndpointId none now = some sku →
      sku ∈ skus ∧ sku.Applies actor upstreamModelId providerEndpointId now ∧
      (∀ other ∈ skus, other.Applies actor upstreamModelId providerEndpointId now → Outranks sku other) ∧
      (sku.modelIdPatterns.length ≤ 1 → sku.providerEndpointPatterns.length ≤ 1 → ∀ other ∈ skus,
        other.Applies actor upstreamModelId providerEndpointId now →
          other.bestMatch upstreamModelId providerEndpointId ≤ sku.bestMatch upstreamModelId providerEndpointId)) ∧
    (∀ ordered reordered, skus.Perm ordered → List.Forall₂ SamePatterns ordered reordered →
      Option.Rel SamePatterns (resolveRuntimePricingSku skus actor upstreamModelId providerEndpointId none now)
        (resolveRuntimePricingSku reordered actor upstreamModelId providerEndpointId none now)) ∧
    (resolveRuntimePricingSku skus actor upstreamModelId providerEndpointId none now = none →
      ∀ sku ∈ skus, ¬ sku.Applies actor upstreamModelId providerEndpointId now) := by
  refine ⟨fun sku hresolved => ?_, fun _ _ hperm hpatterns => resolvedPrice_reordered hnodup hperm hpatterns,
    resolvedPrice_eq_none.mp⟩
  obtain ⟨⟨hmem, happlies⟩, hleast⟩ := resolvedPrice_least hresolved
  have houtranks : ∀ other ∈ skus, other.Applies actor upstreamModelId providerEndpointId now → Outranks sku other :=
    fun other hother hother' => outranks_of_isLE (hleast other hother hother')
  refine ⟨hmem, happlies, houtranks, fun hmodels hendpoints other hother hother' => ?_⟩
  have hcount : pricingSkuSpecificity other ≤ pricingSkuSpecificity sku := by
    rcases houtranks other hother hother' with hlt | ⟨heq, -⟩
    · exact hlt.le
    · exact heq.le
  rw [skuBestMatch_single happlies hmodels hendpoints]
  exact skuBestMatch_le.trans hcount

section Examples

def patternSku (pricingSkuId : String) (modelIdPatterns : List String) : PricingSkuRecord :=
  ⟨pricingSkuId, "tenant_1", none, pricingSkuId, "USD", "micro_usd", modelIdPatterns, [], .object [], 1, ⟨0⟩, none, .active⟩

def patternedSkus : List PricingSkuRecord :=
  [patternSku "sku_1" ["gpt-4.1-*"], patternSku "sku_2" ["gpt-*", "claude-sonnet-*"]]

theorem patternedSkus_resolved :
    (patternedSkus.map PricingSkuRecord.pricingSkuId).Nodup ∧
    Option.Rel SamePatterns (resolveRuntimePricingSku patternedSkus tenantActor "gpt-4.1-mini" "endpoint_1" none ⟨5⟩)
      (resolveRuntimePricingSku patternedSkus.reverse tenantActor "gpt-4.1-mini" "endpoint_1" none ⟨5⟩) := by
  refine ⟨by decide, ?_⟩
  have hsame : ∀ sku, SamePatterns sku sku := fun sku => ⟨.refl _, .refl _, rfl⟩
  exact (resolvedPrice_mostLiterals patternedSkus (by decide) tenantActor "gpt-4.1-mini" "endpoint_1" ⟨5⟩).2.1
    patternedSkus.reverse patternedSkus.reverse (List.reverse_perm _).symm (List.forall₂_same.mpr fun sku _ => hsame sku)

/-- The literals of a pattern that does not match count too: the price with the worse match is taken. -/
theorem worseMatch_resolved :
    resolveRuntimePricingSku patternedSkus tenantActor "gpt-4.1-mini" "endpoint_1" none ⟨5⟩ =
      some (patternSku "sku_2" ["gpt-*", "claude-sonnet-*"]) ∧
    (patternSku "sku_1" ["gpt-4.1-*"]).Applies tenantActor "gpt-4.1-mini" "endpoint_1" ⟨5⟩ ∧
    (patternSku "sku_2" ["gpt-*", "claude-sonnet-*"]).bestMatch "gpt-4.1-mini" "endpoint_1" <
      (patternSku "sku_1" ["gpt-4.1-*"]).bestMatch "gpt-4.1-mini" "endpoint_1" := by
  refine ⟨rfl, ⟨by decide +kernel, by decide +kernel, Or.inl rfl⟩, by decide +kernel⟩

end Examples

end Starweaver.Gateway
