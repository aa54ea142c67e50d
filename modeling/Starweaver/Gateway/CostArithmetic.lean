import Mathlib.Data.Rat.Floor
import Starweaver.Library.Capped
import Starweaver.Gateway.UsageBounds

namespace Starweaver.Gateway

open Library Library.MachineInt

/-- The cost in whole units, by the rounding mode of the pricing document. -/
def roundedCost (roundingMode : String) (exact : ℚ) : Int :=
  if roundingMode == "floor_per_event" then ⌊exact⌋ else ⌈exact⌉

/-- The token counts that are priced, each with the name of its rate. -/
def tokenComponents : List (String × String) :=
  [("input_tokens", "input_per_million"), ("output_tokens", "output_per_million"),
    ("cache_read_tokens", "cache_read_per_million"), ("cache_write_tokens", "cache_write_per_million"),
    ("cache_write_5m_tokens", "cache_write_5m_per_million"), ("cache_write_1h_tokens", "cache_write_1h_per_million"),
    ("reasoning_tokens", "reasoning_per_million")]

/-- The reported costs, each with the components that it sums. -/
def reportedComponents : List (String × List (String × String)) :=
  [("input_cost", [("input_tokens", "input_per_million")]), ("output_cost", [("output_tokens", "output_per_million")]),
    ("cache_read_cost", [("cache_read_tokens", "cache_read_per_million")]),
    ("cache_write_cost", [("cache_write_tokens", "cache_write_per_million"),
      ("cache_write_5m_tokens", "cache_write_5m_per_million"), ("cache_write_1h_tokens", "cache_write_1h_per_million")]),
    ("reasoning_cost", [("reasoning_tokens", "reasoning_per_million")]), ("media_cost", [])]

def reportedCosts : List String := reportedComponents.map Prod.fst ++ ["request_cost"]

section Sku

variable (sku : PricingSkuRecord) (usagePayload : Json)

def PricingSkuRecord.roundingMode : String := ((sku.pricingDocument.get "rounding").bind Json.asStr).getD "ceil_per_event"

def PricingSkuRecord.tokenPrices : Json := (sku.pricingDocument.get "tokens").getD .null

def PricingSkuRecord.requestCost : Int := nonNegativeI64 sku.pricingDocument "flat_request_cost"

/-- Count times rate, in units of the currency. -/
def exactCost (component : String × String) : ℚ :=
  (nonNegativeI64 usagePayload component.1 * nonNegativeI64 sku.tokenPrices component.2 : Int) / (1000000 : Nat)

def exactTotal : ℚ := (tokenComponents.map (exactCost sku usagePayload)).sum + sku.requestCost

def roundedComponent (component : String × String) : Int :=
  roundedCost sku.roundingMode (exactCost sku usagePayload component)

def roundedTotal : Int := (tokenComponents.map (roundedComponent sku usagePayload)).sum + sku.requestCost

end Sku

section Rounding

variable {units price : Int} {roundingMode : String}

theorem fixedPerMillionCost_eq (hunits : 0 ≤ units) (hprice : 0 ≤ price) (roundingMode : String) :
    fixedPerMillionCost units price roundingMode =
      capped (roundedCost roundingMode ((units * price : Int) / (1000000 : Nat))) := by
  have hraw : 0 ≤ units * price := mul_nonneg hunits hprice
  unfold fixedPerMillionCost roundedCost
  rw [Rat.floor_intCast_div_natCast, Rat.ceil_intCast_div_natCast]
  generalize units * price = raw at hraw
  have hfloor : raw.tdiv 1000000 = raw / 1000000 := Int.tdiv_eq_ediv_of_nonneg hraw
  have hceil : (raw + 1000000 - 1).tdiv 1000000 = (raw + 1000000 - 1) / 1000000 :=
    Int.tdiv_eq_ediv_of_nonneg (by omega)
  simp only [hfloor, hceil]
  unfold capped i64Min i64Max
  push_cast
  split
  · split <;> omega
  · split <;> split <;> omega

theorem roundedCost_nonneg {exact : ℚ} (h : 0 ≤ exact) : 0 ≤ roundedCost roundingMode exact := by
  unfold roundedCost
  split
  · exact Int.floor_nonneg.mpr h
  · exact Int.ceil_nonneg h

theorem roundedCost_mono {exact larger : ℚ} (h : exact ≤ larger) :
    roundedCost roundingMode exact ≤ roundedCost roundingMode larger := by
  unfold roundedCost
  split
  · exact Int.floor_mono h
  · exact Int.ceil_mono h

theorem abs_roundedCost_sub (roundingMode : String) (exact : ℚ) : |roundedCost roundingMode exact - exact| ≤ 1 := by
  unfold roundedCost
  rw [abs_le]
  split
  · have hle := Int.floor_le exact
    have hlt := Int.lt_floor_add_one exact
    constructor <;> linarith
  · have hle := Int.le_ceil exact
    have hlt := Int.ceil_lt_add_one exact
    constructor <;> linarith

end Rounding

section Components

variable (sku : PricingSkuRecord) (usagePayload : Json)

theorem nonNegativeI64_number {value : Json} {key : String} {n : Int} (hget : value.get key = some (.number n))
    (hlow : 0 ≤ n) (hhigh : n ≤ i64Max) : nonNegativeI64 value key = n := by
  have hread : usagePayloadI64 value key = n := usagePayloadI64_number hget ⟨le_trans (by decide) hlow, hhigh⟩
  unfold nonNegativeI64
  rw [show ((value.get key).bind Json.asI64).getD 0 = n from hread]
  exact max_eq_left hlow

theorem nonNegativeI64_le (value : Json) (key : String) : nonNegativeI64 value key ≤ i64Max := by
  unfold nonNegativeI64
  refine max_le ?_ (by decide)
  cases hread : (value.get key).bind Json.asI64 with
  | none => exact (by decide : (0 : Int) ≤ i64Max)
  | some n =>
    obtain ⟨field, -, hfield⟩ := Option.bind_eq_some_iff.mp hread
    exact (Json.asI64_bounds hfield).2

theorem exactCost_nonneg (component : String × String) : 0 ≤ exactCost sku usagePayload component := by
  have hraw : 0 ≤ nonNegativeI64 usagePayload component.1 * nonNegativeI64 sku.tokenPrices component.2 :=
    mul_nonneg (nonNegativeI64_nonneg _ _) (nonNegativeI64_nonneg _ _)
  unfold exactCost
  have hcast : (0 : ℚ) ≤ (nonNegativeI64 usagePayload component.1 * nonNegativeI64 sku.tokenPrices component.2 : Int) :=
    Int.cast_nonneg hraw
  positivity

theorem roundedComponent_nonneg (component : String × String) : 0 ≤ roundedComponent sku usagePayload component :=
  roundedCost_nonneg (exactCost_nonneg sku usagePayload component)

theorem tokenComponentCost_eq (component : String × String) :
    tokenComponentCost usagePayload sku.tokenPrices component.1 component.2 sku.roundingMode =
      capped (roundedComponent sku usagePayload component) :=
  fixedPerMillionCost_eq (nonNegativeI64_nonneg _ _) (nonNegativeI64_nonneg _ _) _

theorem roundedSum_nonneg (components : List (String × String)) :
    0 ≤ (components.map (roundedComponent sku usagePayload)).sum := by
  refine List.sum_nonneg fun cost hcost => ?_
  obtain ⟨component, -, rfl⟩ := List.mem_map.mp hcost
  exact roundedComponent_nonneg sku usagePayload component

theorem requestCost_capped : capped sku.requestCost = sku.requestCost := capped_of_le (nonNegativeI64_le _ _)

/-- A field of the cost that is reported as a capped number is read back as it is. -/
theorem usagePayloadI64_capped {cost : Json} {key : String} {n m : Int} (hget : cost.get key = some (.number n))
    (hn : n = capped m) (hm : 0 ≤ m) : usagePayloadI64 cost key = capped m := by
  subst hn
  exact usagePayloadI64_number hget ⟨le_trans (by decide) (capped_nonneg hm), capped_le m⟩

theorem cacheWriteCost_eq :
    saturatingAdd (saturatingAdd
        (tokenComponentCost usagePayload sku.tokenPrices "cache_write_tokens" "cache_write_per_million" sku.roundingMode)
        (tokenComponentCost usagePayload sku.tokenPrices "cache_write_5m_tokens" "cache_write_5m_per_million"
          sku.roundingMode))
      (tokenComponentCost usagePayload sku.tokenPrices "cache_write_1h_tokens" "cache_write_1h_per_million"
        sku.roundingMode) =
    capped (roundedComponent sku usagePayload ("cache_write_tokens", "cache_write_per_million") +
      (roundedComponent sku usagePayload ("cache_write_5m_tokens", "cache_write_5m_per_million") +
        roundedComponent sku usagePayload ("cache_write_1h_tokens", "cache_write_1h_per_million"))) := by
  have hnonneg := roundedComponent_nonneg sku usagePayload
  rw [tokenComponentCost_eq sku usagePayload ("cache_write_tokens", "cache_write_per_million"),
    tokenComponentCost_eq sku usagePayload ("cache_write_5m_tokens", "cache_write_5m_per_million"),
    tokenComponentCost_eq sku usagePayload ("cache_write_1h_tokens", "cache_write_1h_per_million"),
    saturatingAdd_capped (hnonneg _) (hnonneg _), saturatingAdd_capped (add_nonneg (hnonneg _) (hnonneg _)) (hnonneg _),
    add_assoc]

theorem reportedComponents_eq : ∀ reported ∈ reportedComponents,
    usagePayloadI64 (costPayloadFromPricingSku sku usagePayload) reported.1 =
      capped (reported.2.map (roundedComponent sku usagePayload)).sum := by
  have hcomponent := tokenComponentCost_eq sku usagePayload
  have hnonneg := roundedComponent_nonneg sku usagePayload
  simp only [reportedComponents, List.forall_mem_cons, List.not_mem_nil, IsEmpty.forall_iff, implies_true, and_true,
    List.map_cons, List.map_nil, List.sum_cons, List.sum_nil, add_zero]
  refine ⟨?_, ?_, ?_, ?_, ?_, rfl⟩
  · exact usagePayloadI64_capped rfl (hcomponent ("input_tokens", "input_per_million")) (hnonneg _)
  · exact usagePayloadI64_capped rfl (hcomponent ("output_tokens", "output_per_million")) (hnonneg _)
  · exact usagePayloadI64_capped rfl (hcomponent ("cache_read_tokens", "cache_read_per_million")) (hnonneg _)
  · exact usagePayloadI64_capped rfl (cacheWriteCost_eq sku usagePayload)
      (add_nonneg (hnonneg _) (add_nonneg (hnonneg _) (hnonneg _)))
  · exact usagePayloadI64_capped rfl (hcomponent ("reasoning_tokens", "reasoning_per_million")) (hnonneg _)

theorem requestCost_eq :
    usagePayloadI64 (costPayloadFromPricingSku sku usagePayload) "request_cost" = sku.requestCost :=
  usagePayloadI64_number rfl ⟨le_trans (by decide) (nonNegativeI64_nonneg _ _), nonNegativeI64_le _ _⟩

theorem totalCost_eq :
    usagePayloadI64 (costPayloadFromPricingSku sku usagePayload) "total_cost" = capped (roundedTotal sku usagePayload) := by
  have hnonneg := roundedComponent_nonneg sku usagePayload
  have hrequest : 0 ≤ sku.requestCost := nonNegativeI64_nonneg _ _
  let parts := [roundedComponent sku usagePayload ("output_tokens", "output_per_million"),
    roundedComponent sku usagePayload ("cache_read_tokens", "cache_read_per_million"),
    roundedComponent sku usagePayload ("cache_write_tokens", "cache_write_per_million") +
      (roundedComponent sku usagePayload ("cache_write_5m_tokens", "cache_write_5m_per_million") +
        roundedComponent sku usagePayload ("cache_write_1h_tokens", "cache_write_1h_per_million")),
    roundedComponent sku usagePayload ("reasoning_tokens", "reasoning_per_million"), 0, sku.requestCost]
  have hparts : ∀ part ∈ parts, 0 ≤ part := by
    simp only [parts, List.forall_mem_cons, List.not_mem_nil, IsEmpty.forall_iff, implies_true, and_true]
    exact ⟨hnonneg _, hnonneg _, add_nonneg (hnonneg _) (add_nonneg (hnonneg _) (hnonneg _)), hnonneg _, le_refl 0,
      hrequest⟩
  have hfold := foldl_saturatingAdd_capped hparts (hnonneg ("input_tokens", "input_per_million"))
  have hsum : roundedComponent sku usagePayload ("input_tokens", "input_per_million") + parts.sum =
      roundedTotal sku usagePayload := by
    simp only [parts, roundedTotal, tokenComponents, List.map_cons, List.map_nil, List.sum_cons, List.sum_nil]
    omega
  refine usagePayloadI64_capped rfl ?_ (add_nonneg (roundedSum_nonneg sku usagePayload _) hrequest)
  rw [← hsum, ← hfold]
  simp only [parts, List.map_cons, List.map_nil, ← cacheWriteCost_eq, ← tokenComponentCost_eq, requestCost_capped]
  rfl

theorem totalCost_reported :
    usagePayloadI64 (costPayloadFromPricingSku sku usagePayload) "total_cost" =
      capped (reportedCosts.map (usagePayloadI64 (costPayloadFromPricingSku sku usagePayload))).sum := by
  let parts := reportedComponents.map (fun reported => (reported.2.map (roundedComponent sku usagePayload)).sum) ++
    [sku.requestCost]
  have hparts : ∀ part ∈ parts, 0 ≤ part := by
    intro part hpart
    rcases List.mem_append.mp hpart with hcomponents | hrequest
    · obtain ⟨reported, -, rfl⟩ := List.mem_map.mp hcomponents
      exact roundedSum_nonneg sku usagePayload _
    · rw [List.mem_singleton.mp hrequest]
      exact nonNegativeI64_nonneg _ _
  have hreported : reportedCosts.map (usagePayloadI64 (costPayloadFromPricingSku sku usagePayload)) =
      parts.map capped := by
    simp only [parts, reportedCosts, List.map_append, List.map_map, List.map_cons, List.map_nil, requestCost_eq,
      requestCost_capped]
    congr 1
    exact List.map_congr_left (reportedComponents_eq sku usagePayload)
  have hsum : parts.sum = roundedTotal sku usagePayload := by
    simp only [parts, roundedTotal, reportedComponents, tokenComponents, List.map_cons, List.map_nil, List.sum_cons,
      List.sum_nil, List.cons_append, List.nil_append]
    omega
  rw [hreported, capped_sum_capped hparts, hsum, totalCost_eq]

theorem abs_roundedTotal_sub :
    |(roundedTotal sku usagePayload : ℚ) - exactTotal sku usagePayload| ≤ tokenComponents.length := by
  have hsums (components : List (String × String)) :
      |((components.map (roundedComponent sku usagePayload)).sum : ℚ) - (components.map (exactCost sku usagePayload)).sum| ≤
        components.length := by
    induction components with
    | nil => simp
    | cons component components ih =>
      have hone := abs_roundedCost_sub sku.roundingMode (exactCost sku usagePayload component)
      have hsplit : ((component :: components).map (roundedComponent sku usagePayload)).sum -
          (((component :: components).map (exactCost sku usagePayload)).sum : ℚ) =
          (roundedComponent sku usagePayload component - exactCost sku usagePayload component) +
            ((components.map (roundedComponent sku usagePayload)).sum -
              (components.map (exactCost sku usagePayload)).sum) := by
        rw [List.map_cons, List.map_cons, List.sum_cons, List.sum_cons]
        push_cast
        ring
      rw [hsplit, List.length_cons, Nat.cast_add, Nat.cast_one, add_comm (components.length : ℚ)]
      exact (abs_add_le _ _).trans (add_le_add hone ih)
  have htotal := hsums tokenComponents
  unfold roundedTotal exactTotal
  push_cast at htotal ⊢
  rwa [add_sub_add_right_eq_sub]

theorem roundedTotal_mono {larger : Json}
    (h : ∀ component ∈ tokenComponents, nonNegativeI64 usagePayload component.1 ≤ nonNegativeI64 larger component.1) :
    roundedTotal sku usagePayload ≤ roundedTotal sku larger := by
  unfold roundedTotal
  refine add_le_add_left (List.sum_le_sum fun component hcomponent => roundedCost_mono ?_) _
  unfold exactCost
  have hraw := mul_le_mul_of_nonneg_right (h component hcomponent) (nonNegativeI64_nonneg sku.tokenPrices component.2)
  have hcast : ((nonNegativeI64 usagePayload component.1 * nonNegativeI64 sku.tokenPrices component.2 : Int) : ℚ) ≤
      (nonNegativeI64 larger component.1 * nonNegativeI64 sku.tokenPrices component.2 : Int) := Int.cast_le.mpr hraw
  gcongr

end Components

def InI128 (n : Int) : Prop := -2 ^ 127 ≤ n ∧ n ≤ 2 ^ 127 - 1

/-- The product and the sum before the division stay inside the 128-bit integers. -/
theorem costProduct_inI128 {units price : Int} (hunits : 0 ≤ units) (hunits' : units ≤ i64Max) (hprice : 0 ≤ price)
    (hprice' : price ≤ i64Max) : InI128 (units * price) ∧ InI128 (units * price + 1000000 - 1) := by
  have hlow : 0 ≤ units * price := mul_nonneg hunits hprice
  have hhigh : units * price ≤ i64Max * i64Max := mul_le_mul hunits' hprice' hprice (by decide)
  have hmax : i64Max * i64Max = 85070591730234615847396907784232501249 := by decide
  unfold InI128
  omega

/-- The costs are exact up to the rounding, and stop at the largest integer. -/
theorem cost_exactUpToRounding (sku : PricingSkuRecord) (usagePayload : Json) :
    let cost := costPayloadFromPricingSku sku usagePayload
    (∀ value key n, Json.get value key = some (.number n) → 0 ≤ n → n ≤ i64Max → nonNegativeI64 value key = n) ∧
    (∀ reported ∈ reportedComponents,
      usagePayloadI64 cost reported.1 = capped (reported.2.map (roundedComponent sku usagePayload)).sum) ∧
    usagePayloadI64 cost "request_cost" = sku.requestCost ∧
    usagePayloadI64 cost "total_cost" = capped (reportedCosts.map (usagePayloadI64 cost)).sum ∧
    usagePayloadI64 cost "total_cost" = capped (roundedTotal sku usagePayload) ∧
    |(roundedTotal sku usagePayload : ℚ) - exactTotal sku usagePayload| ≤ tokenComponents.length ∧
    0 ≤ usagePayloadI64 cost "total_cost" ∧
    (∀ larger, (∀ component ∈ tokenComponents,
        nonNegativeI64 usagePayload component.1 ≤ nonNegativeI64 larger component.1) →
      usagePayloadI64 cost "total_cost" ≤ usagePayloadI64 (costPayloadFromPricingSku sku larger) "total_cost") ∧
    ∀ component ∈ tokenComponents,
      InI128 (nonNegativeI64 usagePayload component.1 * nonNegativeI64 sku.tokenPrices component.2) ∧
      InI128 (nonNegativeI64 usagePayload component.1 * nonNegativeI64 sku.tokenPrices component.2 + 1000000 - 1) := by
  refine ⟨fun value key n hget hlow hhigh => nonNegativeI64_number hget hlow hhigh, reportedComponents_eq sku usagePayload,
    requestCost_eq sku usagePayload, totalCost_reported sku usagePayload, totalCost_eq sku usagePayload,
    abs_roundedTotal_sub sku usagePayload, costPayload_nonneg sku usagePayload, fun larger hlarger => ?_,
    fun component _ => ?_⟩
  · rw [totalCost_eq, totalCost_eq]
    exact capped_mono (roundedTotal_mono sku usagePayload hlarger)
  · exact costProduct_inI128 (nonNegativeI64_nonneg _ _) (nonNegativeI64_le _ _) (nonNegativeI64_nonneg _ _)
      (nonNegativeI64_le _ _)

section Examples

def pricedSku (flatRequestCost inputPerMillion outputPerMillion : Int) : PricingSkuRecord :=
  ⟨"sku_1", "tenant_1", none, "sku", "USD", "micro_usd", ["*"], [],
    .object [("flat_request_cost", .number flatRequestCost),
      ("tokens", .object [("input_per_million", .number inputPerMillion), ("output_per_million", .number outputPerMillion)])],
    1, ⟨0⟩, none, .active⟩

def countedTokens (inputTokens outputTokens : Int) : Json :=
  .object [("input_tokens", .number inputTokens), ("output_tokens", .number outputTokens)]

example : usagePayloadI64 (costPayloadFromPricingSku (pricedSku 5 3000000 1) (countedTokens 7 1)) "total_cost" = 27 := by
  decide +kernel

/-- Two roundings reach the largest integer from an exact total below it, and a rate above it costs nothing. -/
theorem cost_notExact :
    usagePayloadI64 (costPayloadFromPricingSku (pricedSku (i64Max - 1) 1 1) (countedTokens 1 1)) "total_cost" = i64Max ∧
    exactTotal (pricedSku (i64Max - 1) 1 1) (countedTokens 1 1) < i64Max ∧
    roundedTotal (pricedSku (i64Max - 1) 1 1) (countedTokens 1 1) = i64Max + 1 ∧
    usagePayloadI64 (costPayloadFromPricingSku (pricedSku 0 (i64Max + 1) 0) (countedTokens 1000000 0)) "input_cost" = 0 := by
  refine ⟨by decide +kernel, by decide +kernel, by decide +kernel, by decide +kernel⟩

end Examples

end Starweaver.Gateway
