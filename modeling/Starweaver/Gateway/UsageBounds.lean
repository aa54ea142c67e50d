import Starweaver.Gateway.Billing
import Starweaver.Gateway.LedgerCurrency
import Starweaver.Gateway.Preflight

namespace Starweaver.Gateway

open Library Library.Calendar Library.Machine Library.MachineInt

/-- A response that is accounted for, or the sum over the buckets of the tenant that a budget policy asks for. -/
inductive AccountingAction
  | respond (actor : AuthenticatedActor) (input : TerminalUsageInput)
  | preflight (policy : BudgetPolicyRecord) (now : DateTime)

def accountingStep (store : UsageStore) : AccountingAction → Option UsageStore
  | .respond actor input => some (recordTerminalUsageEvent store actor input)
  | .preflight _ _ => some store

def reportedTokens (input : TerminalUsageInput) (keys : List String) : Option Int :=
  (usageBlock input.responseProtocolFamily input.responseBody).bind fun usage => firstI64 usage keys

def reportedInput (input : TerminalUsageInput) : Option Int :=
  reportedTokens input ["input_tokens", "promptTokenCount", "inputTokens"]

def reportedOutput (input : TerminalUsageInput) : Option Int :=
  reportedTokens input ["output_tokens", "candidatesTokenCount", "outputTokens"]

def reportedTotal (input : TerminalUsageInput) : Option Int :=
  reportedTokens input ["total_tokens", "totalTokenCount", "totalTokens"]

/-- The two counts are added only for a body that does not report their total. -/
def TotalFits (input : TerminalUsageInput) : Prop :=
  reportedTotal input = none → ∀ i o, reportedInput input = some i → reportedOutput input = some o → InI64 (i + o)

def UsageEventRecord.mediaParts (event : UsageEventRecord) : List Int :=
  ["image_input_units", "image_output_units", "audio_input_units", "audio_output_units", "request_units"].map
    (usagePayloadI64 event.usagePayload)

/-- The exact results of the additions that fold the event into the buckets, one bucket after the other. -/
def foldAdditions (event : UsageEventRecord) : List BucketKind → LedgerBuckets → List UsageCounters
  | [], _ => []
  | kind :: kinds, buckets =>
    (((buckets.lookup (event.bucketKey kind)).getD (.opened event kind)).counters + event.counters) ::
      foldAdditions event kinds (foldUsageEventIntoBucket buckets event kind)

def recordAdditions (store : UsageStore) (event : UsageEventRecord) : List UsageCounters :=
  if UsageStore.isDuplicate store.usageEvents event then [] else foldAdditions event bucketKinds store.ledgerBuckets

/-- The counters under a key; a bucket is opened with counters of zero. -/
def UsageStore.countersAt (store : UsageStore) (key : String) : UsageCounters :=
  ((store.ledgerBuckets.lookup key).map LedgerBucketRecord.counters).getD 0

def UsageCounters.AtMost (a b : UsageCounters) : Prop := List.Forall₂ (· ≤ ·) a.toList b.toList

structure RespondSound (store : UsageStore) (actor : AuthenticatedActor) (input : TerminalUsageInput) : Prop where
  total : TotalFits input
  media : ∀ front, front <+: (terminalUsageEvent actor input).mediaParts → InI64 front.sum
  additions : ∀ counters ∈ recordAdditions store (terminalUsageEvent actor input), counters.Fits
  monotone : ∀ key, (store.countersAt key).AtMost ((recordTerminalUsageEvent store actor input).countersAt key)

/-- No partial sum of the bucket values overflows, in whatever order the buckets come. -/
def PreflightSound (store : UsageStore) (policy : BudgetPolicyRecord) (now : DateTime) : Prop :=
  ∀ buckets : List LedgerBucketRecord, buckets.Perm (store.ledgerBucketsForTenant policy.tenantId) →
    ∀ front, front <+: (buckets.filter fun bucket => runtimeBudgetBucketMatches policy bucket now).map
      (runtimeBudgetBucketValue policy) → InI64 front.sum

def AccountingSound (store : UsageStore) : AccountingAction → Prop
  | .respond actor input => RespondSound store actor input
  | .preflight policy now => PreflightSound store policy now

def UsageCounters.Below (counters : UsageCounters) : Prop := ∀ n ∈ counters.toList, n ≤ i64Max

structure RespondBounded (store : UsageStore) (actor : AuthenticatedActor) (input : TerminalUsageInput) : Prop where
  total : TotalFits input
  tokens : UsageStore.isDuplicate store.usageEvents (terminalUsageEvent actor input) = false →
    0 ≤ (reportedInput input).getD 0 ∧ 0 ≤ (reportedOutput input).getD 0
  room : UsageStore.isDuplicate store.usageEvents (terminalUsageEvent actor input) = false →
    ∀ kind bucket, store.ledgerBuckets.lookup ((terminalUsageEvent actor input).bucketKey kind) = some bucket →
      (bucket.counters + (terminalUsageEvent actor input).counters).Below

def PreflightBounded (store : UsageStore) (policy : BudgetPolicyRecord) (now : DateTime) : Prop :=
  (((store.ledgerBucketsForTenant policy.tenantId).filter fun bucket =>
    runtimeBudgetBucketMatches policy bucket now).map (runtimeBudgetBucketValue policy)).sum ≤ i64Max

def AccountingBounded (store : UsageStore) : AccountingAction → Prop
  | .respond actor input => RespondBounded store actor input
  | .preflight policy now => PreflightBounded store policy now

section Counters

def UsageCounters.NonNeg (counters : UsageCounters) : Prop := ∀ n ∈ counters.toList, 0 ≤ n

theorem UsageCounters.toList_add (a e : UsageCounters) : (a + e).toList = a.toList.zipWith (· + ·) e.toList := rfl

theorem UsageCounters.sound_add_iff {a e : UsageCounters} (ha : a.NonNeg) :
    ((a + e).Fits ∧ a.AtMost ((a + e).map wrap)) ↔ e.NonNeg ∧ (a + e).Below := by
  have hlists := inI64_zipAdd_iff (show a.toList.length = e.toList.length from rfl) ha
  rw [← UsageCounters.toList_add] at hlists
  refine Iff.trans ?_ hlists
  constructor
  · rintro ⟨hfits, hle⟩
    rw [(UsageCounters.fits_iff _).mp hfits] at hle
    exact ⟨hfits, hle⟩
  · rintro ⟨hfits, hle⟩
    rw [(UsageCounters.fits_iff _).mp hfits]
    exact ⟨hfits, hle⟩

end Counters

section Payload

theorem firstI64_bounds {value : Json} {keys : List String} {n : Int} (h : firstI64 value keys = some n) : InI64 n := by
  obtain ⟨key, -, hkey⟩ := List.exists_of_findSome?_eq_some h
  obtain ⟨field, -, hfield⟩ := Option.bind_eq_some_iff.mp hkey
  exact Json.asI64_bounds hfield

theorem reportedTokens_bounds (input : TerminalUsageInput) (keys : List String) :
    InI64 ((reportedTokens input keys).getD 0) := by
  cases htokens : reportedTokens input keys with
  | none => exact ⟨by decide, by decide⟩
  | some n =>
    obtain ⟨usage, -, hfirst⟩ := Option.bind_eq_some_iff.mp htokens
    exact firstI64_bounds hfirst

theorem usagePayloadI64_number {payload : Json} {key : String} {n : Int} (hget : payload.get key = some (.number n))
    (hn : InI64 n) : usagePayloadI64 payload key = n := by
  have hnumber : (Json.number n).asI64 = some n := if_pos hn
  rw [usagePayloadI64, hget, Option.bind_some, hnumber, Option.getD_some]

theorem normalizedUsagePayload_fields (input : TerminalUsageInput) :
    ∃ total, (normalizedUsagePayload input.responseProtocolFamily input.responseBody).1 =
      .object (("input_tokens", .number ((reportedInput input).getD 0)) ::
        ("output_tokens", .number ((reportedOutput input).getD 0)) :: ("total_tokens", .number total) ::
          emptyUsageFields.drop 3) := by
  unfold normalizedUsagePayload reportedInput reportedOutput reportedTokens
  cases usageBlock input.responseProtocolFamily input.responseBody with
  | none => exact ⟨_, rfl⟩
  | some usage => exact ⟨_, rfl⟩

variable (actor : AuthenticatedActor) (input : TerminalUsageInput)

theorem terminalUsageEvent_tokens :
    (terminalUsageEvent actor input).counters.inputTokens = (reportedInput input).getD 0 ∧
      (terminalUsageEvent actor input).counters.outputTokens = (reportedOutput input).getD 0 := by
  obtain ⟨total, hpayload⟩ := normalizedUsagePayload_fields input
  have hevent : (terminalUsageEvent actor input).usagePayload = _ := hpayload
  constructor
  · show usagePayloadI64 (terminalUsageEvent actor input).usagePayload "input_tokens" = _
    rw [hevent]
    exact usagePayloadI64_number rfl (reportedTokens_bounds input _)
  · show usagePayloadI64 (terminalUsageEvent actor input).usagePayload "output_tokens" = _
    rw [hevent]
    exact usagePayloadI64_number rfl (reportedTokens_bounds input _)

theorem terminalUsageEvent_units :
    (terminalUsageEvent actor input).counters.reasoningTokens = 0 ∧
      (terminalUsageEvent actor input).mediaParts = [0, 0, 0, 0, 0] ∧
      (terminalUsageEvent actor input).counters.mediaUnits = 0 := by
  obtain ⟨total, hpayload⟩ := normalizedUsagePayload_fields input
  have hevent : (terminalUsageEvent actor input).usagePayload = _ := hpayload
  unfold UsageEventRecord.counters UsageEventRecord.mediaParts
  rw [hevent]
  exact ⟨rfl, rfl, rfl⟩

theorem nonNegativeI64_nonneg (value : Json) (key : String) : 0 ≤ nonNegativeI64 value key := le_max_right _ _

theorem fixedPerMillionCost_nonneg {units price : Int} (hunits : 0 ≤ units) (hprice : 0 ≤ price)
    (roundingMode : String) : 0 ≤ fixedPerMillionCost units price roundingMode := by
  have hraw : 0 ≤ units * price := mul_nonneg hunits hprice
  have hfloor : 0 ≤ (units * price).tdiv 1000000 := Int.tdiv_nonneg hraw (by decide)
  have hceil : 0 ≤ (units * price + 1000000 - 1).tdiv 1000000 := Int.tdiv_nonneg (by omega) (by decide)
  have hclamped {value : Int} (hvalue : 0 ≤ value) :
      0 ≤ if i64Min ≤ value ∧ value ≤ i64Max then value else i64Max := by
    split
    · exact hvalue
    · decide
  apply hclamped
  split
  · exact hfloor
  · split
    · exact le_refl 0
    · exact hceil

theorem foldl_saturatingAdd_nonneg {costs : List Int} (hcosts : ∀ cost ∈ costs, 0 ≤ cost) {start : Int}
    (hstart : 0 ≤ start) : 0 ≤ costs.foldl saturatingAdd start := by
  induction costs generalizing start with
  | nil => exact hstart
  | cons cost costs ih =>
    obtain ⟨hcost, hrest⟩ := List.forall_mem_cons.mp hcosts
    exact ih hrest (saturatingAdd_nonneg hstart hcost)

theorem usagePayloadI64_nonneg {payload : Json} {key : String} {n : Int} (hget : payload.get key = some (.number n))
    (hn : 0 ≤ n) : 0 ≤ usagePayloadI64 payload key := by
  unfold usagePayloadI64
  rw [hget, Option.bind_some]
  by_cases hbounds : i64Min ≤ n ∧ n ≤ i64Max
  · simpa only [Json.asI64, if_pos hbounds, Option.getD_some] using hn
  · simp only [Json.asI64, if_neg hbounds, Option.getD_none, le_refl]

theorem costPayload_nonneg (sku : PricingSkuRecord) (usagePayload : Json) :
    0 ≤ usagePayloadI64 (costPayloadFromPricingSku sku usagePayload) "total_cost" := by
  have hcomponent (prices : Json) (usageKey priceKey mode : String) :
      0 ≤ tokenComponentCost usagePayload prices usageKey priceKey mode :=
    fixedPerMillionCost_nonneg (nonNegativeI64_nonneg _ _) (nonNegativeI64_nonneg _ _) mode
  refine usagePayloadI64_nonneg rfl ?_
  apply foldl_saturatingAdd_nonneg
  · simp only [List.forall_mem_cons, List.not_mem_nil, IsEmpty.forall_iff, implies_true, and_true]
    refine ⟨hcomponent _ _ _ _, hcomponent _ _ _ _, ?_, hcomponent _ _ _ _, le_refl 0, nonNegativeI64_nonneg _ _⟩
    exact saturatingAdd_nonneg (saturatingAdd_nonneg (hcomponent _ _ _ _) (hcomponent _ _ _ _)) (hcomponent _ _ _ _)
  · exact hcomponent _ _ _ _

theorem terminalUsageEvent_cost : 0 ≤ (terminalUsageEvent actor input).counters.estimatedCostMicros := by
  show 0 ≤ usagePayloadI64 (runtimeCostPayload actor input _) "total_cost"
  unfold runtimeCostPayload
  split
  · exact le_refl 0
  · exact costPayload_nonneg _ _

theorem counts_bounds (event : UsageEventRecord) :
    ∀ n ∈ [event.counters.requestCount, event.counters.successCount, event.counters.errorCount,
      event.counters.blockedCount, event.counters.usageMissingCount, event.counters.usageEstimatedCount],
      0 ≤ n ∧ n ≤ 1 := by
  have hcount (p : Prop) [Decidable p] : 0 ≤ (if p then (1 : Int) else 0) ∧ (if p then (1 : Int) else 0) ≤ 1 := by
    split <;> decide
  simp only [UsageEventRecord.counters, List.forall_mem_cons, List.not_mem_nil, IsEmpty.forall_iff, implies_true,
    and_true]
  exact ⟨⟨by decide, le_refl 1⟩, hcount _, hcount _, hcount _, hcount _, hcount _⟩

/-- Only the two reported counts can make an event negative: the units are zero and the prices are clamped. -/
theorem terminalUsageEvent_nonNeg_iff :
    (terminalUsageEvent actor input).counters.NonNeg ↔
      0 ≤ (reportedInput input).getD 0 ∧ 0 ≤ (reportedOutput input).getD 0 := by
  obtain ⟨hinput, houtput⟩ := terminalUsageEvent_tokens actor input
  obtain ⟨hreasoning, -, hmedia⟩ := terminalUsageEvent_units actor input
  have hcost := terminalUsageEvent_cost actor input
  rw [← hinput, ← houtput]
  unfold UsageCounters.NonNeg UsageCounters.toList
  have hcounts := counts_bounds (terminalUsageEvent actor input)
  simp only [List.forall_mem_cons, List.not_mem_nil, IsEmpty.forall_iff, implies_true, and_true, hreasoning, hmedia,
    hcost, le_refl, true_and] at hcounts ⊢
  simp only [hcounts, and_true]

theorem terminalUsageEvent_below : (terminalUsageEvent actor input).counters.Below := by
  obtain ⟨hinput, houtput⟩ := terminalUsageEvent_tokens actor input
  obtain ⟨hreasoning, -, hmedia⟩ := terminalUsageEvent_units actor input
  have hin : (terminalUsageEvent actor input).counters.inputTokens ≤ i64Max :=
    hinput ▸ (reportedTokens_bounds input _).2
  have hout : (terminalUsageEvent actor input).counters.outputTokens ≤ i64Max :=
    houtput ▸ (reportedTokens_bounds input _).2
  have hcost : (terminalUsageEvent actor input).counters.estimatedCostMicros ≤ i64Max := (totalCost_bounds _).2
  have hcounts := counts_bounds (terminalUsageEvent actor input)
  have hone : 1 ≤ i64Max := by decide
  unfold UsageCounters.Below UsageCounters.toList
  simp only [List.forall_mem_cons, List.not_mem_nil, IsEmpty.forall_iff, implies_true, and_true, hreasoning,
    hmedia] at hcounts ⊢
  omega

end Payload

section Store

variable {store : UsageStore} {event : UsageEventRecord}

theorem getD_counters (kind : BucketKind) (key : String) :
    ((store.ledgerBuckets.lookup key).getD (.opened event kind)).counters = store.countersAt key := by
  unfold UsageStore.countersAt
  cases store.ledgerBuckets.lookup key <;> rfl

theorem foldAdditions_eq {kinds : List BucketKind} (hnodup : kinds.Nodup) (buckets : LedgerBuckets) :
    foldAdditions event kinds buckets = kinds.map fun kind =>
      ((buckets.lookup (event.bucketKey kind)).getD (.opened event kind)).counters + event.counters := by
  induction kinds generalizing buckets with
  | nil => rfl
  | cons kind kinds ih =>
    obtain ⟨hhead, hrest⟩ := List.nodup_cons.mp hnodup
    rw [foldAdditions, ih hrest, List.map_cons, List.cons.injEq]
    refine ⟨rfl, List.map_congr_left fun other hother => ?_⟩
    have hne : event.bucketKey other ≠ event.bucketKey kind := by
      intro heq
      have hsame : other = kind := bucketKey_kind heq
      exact hhead (hsame ▸ hother)
    unfold foldUsageEventIntoBucket
    rw [AList.lookup_insert_ne hne]

variable (hnew : UsageStore.isDuplicate store.usageEvents event = false)

include hnew

theorem recordAdditions_fit_iff :
    (∀ counters ∈ recordAdditions store event, counters.Fits) ↔
      ∀ kind, (store.countersAt (event.bucketKey kind) + event.counters).Fits := by
  unfold recordAdditions
  rw [if_neg (by simp [hnew]), foldAdditions_eq (by decide)]
  simp only [getD_counters, List.forall_mem_map]
  exact ⟨fun h kind => h kind (mem_bucketKinds kind), fun h kind _ => h kind⟩

theorem countersAt_recorded (kind : BucketKind) :
    (store.recordUsageEvent event).countersAt (event.bucketKey kind) =
      (store.countersAt (event.bucketKey kind) + event.counters).map wrap := by
  rw [UsageStore.countersAt, recordUsageEvent_lookup hnew, Option.map_some, Option.getD_some,
    LedgerBucketRecord.add, getD_counters]

theorem countersAt_unrecorded {key : String} (hkey : ∀ kind, key ≠ event.bucketKey kind) :
    (store.recordUsageEvent event).countersAt key = store.countersAt key := by
  unfold UsageStore.countersAt
  rw [recordUsageEvent_new hnew, lookup_fold_ne event fun kind _ => hkey kind]

theorem counters_monotone_iff :
    (∀ key, (store.countersAt key).AtMost ((store.recordUsageEvent event).countersAt key)) ↔
      ∀ kind, (store.countersAt (event.bucketKey kind)).AtMost
        ((store.countersAt (event.bucketKey kind) + event.counters).map wrap) := by
  constructor
  · intro h kind
    rw [← countersAt_recorded hnew]
    exact h _
  · intro h key
    by_cases hkey : ∃ kind, key = event.bucketKey kind
    · obtain ⟨kind, rfl⟩ := hkey
      rw [countersAt_recorded hnew]
      exact h kind
    · rw [countersAt_unrecorded hnew fun kind heq => hkey ⟨kind, heq⟩]
      exact List.forall₂_refl _

end Store

section Steps

variable {store : UsageStore}

def UsageStore.NonNeg (store : UsageStore) : Prop := ∀ key, (store.countersAt key).NonNeg

theorem UsageCounters.NonNeg.of_atMost {a b : UsageCounters} (ha : a.NonNeg) (hle : a.AtMost b) : b.NonNeg :=
  nonneg_of_forall₂ hle ha

theorem nonNeg_empty : UsageStore.empty.NonNeg := by
  intro key
  show (0 : UsageCounters).NonNeg
  unfold UsageCounters.NonNeg
  decide

theorem countersAt_below_iff {event : UsageEventRecord} (hevent : event.counters.Below) (key : String) :
    (store.countersAt key + event.counters).Below ↔
      ∀ bucket, store.ledgerBuckets.lookup key = some bucket → (bucket.counters + event.counters).Below := by
  unfold UsageStore.countersAt
  cases hlookup : store.ledgerBuckets.lookup key with
  | none => simpa using hevent
  | some bucket => simp

theorem respondSound_iff (hstore : store.NonNeg) (actor : AuthenticatedActor) (input : TerminalUsageInput) :
    RespondSound store actor input ↔ RespondBounded store actor input := by
  have hmedia : ∀ front, front <+: (terminalUsageEvent actor input).mediaParts → InI64 front.sum := by
    have hparts := (terminalUsageEvent_units actor input).2.1
    rw [hparts, inI64_sums_iff (by decide)]
    decide
  cases hdup : UsageStore.isDuplicate store.usageEvents (terminalUsageEvent actor input) with
  | true =>
    constructor
    · intro hsound
      exact ⟨hsound.total, by simp [hdup], by simp [hdup]⟩
    · intro hbounded
      refine ⟨hbounded.total, hmedia, by simp [recordAdditions, hdup], fun key => ?_⟩
      rw [recordTerminalUsageEvent, recordUsageEvent_duplicate hdup]
      exact List.forall₂_refl _
  | false =>
    have hkinds : (∀ counters ∈ recordAdditions store (terminalUsageEvent actor input), counters.Fits) ∧
        (∀ key, (store.countersAt key).AtMost ((recordTerminalUsageEvent store actor input).countersAt key)) ↔
        (terminalUsageEvent actor input).counters.NonNeg ∧ ∀ kind,
          (store.countersAt ((terminalUsageEvent actor input).bucketKey kind) +
            (terminalUsageEvent actor input).counters).Below := by
      rw [recordAdditions_fit_iff hdup, recordTerminalUsageEvent, counters_monotone_iff hdup, ← forall_and]
      simp only [UsageCounters.sound_add_iff (hstore _)]
      exact ⟨fun h => ⟨(h .event).1, fun kind => (h kind).2⟩, fun h kind => ⟨h.1, h.2 kind⟩⟩
    simp only [terminalUsageEvent_nonNeg_iff, countersAt_below_iff (terminalUsageEvent_below actor input)] at hkinds
    constructor
    · intro hsound
      obtain ⟨htokens, hroom⟩ := hkinds.mp ⟨hsound.additions, hsound.monotone⟩
      exact ⟨hsound.total, fun _ => htokens, fun _ => hroom⟩
    · intro hbounded
      obtain ⟨hadditions, hmonotone⟩ := hkinds.mpr ⟨hbounded.tokens hdup, hbounded.room hdup⟩
      exact ⟨hbounded.total, hmedia, hadditions, hmonotone⟩

theorem bucketValue_nonneg (hstore : store.NonNeg) (policy : BudgetPolicyRecord) {bucket : LedgerBucketRecord}
    (hbucket : bucket ∈ store.ledgerBucketsForTenant policy.tenantId) : 0 ≤ runtimeBudgetBucketValue policy bucket := by
  obtain ⟨entry, hentry, rfl⟩ := List.mem_map.mp (List.mem_of_mem_filter hbucket)
  have hlookup : store.ledgerBuckets.lookup entry.1 = some entry.2 := AList.mem_lookup_iff.mpr hentry
  have hcounters := hstore entry.1
  rw [UsageStore.countersAt, hlookup, Option.map_some, Option.getD_some] at hcounters
  simp only [UsageCounters.NonNeg, UsageCounters.toList, List.forall_mem_cons] at hcounters
  unfold runtimeBudgetBucketValue
  split
  · exact hcounters.2.2.2.2.1
  · exact saturatingAdd_nonneg (saturatingAdd_nonneg hcounters.1 hcounters.2.1) hcounters.2.2.1
  · exact hcounters.2.2.2.2.2.2.2.2.2.2.1
  · exact le_refl 0

theorem preflightSound_iff (hstore : store.NonNeg) (policy : BudgetPolicyRecord) (now : DateTime) :
    PreflightSound store policy now ↔ PreflightBounded store policy now := by
  have hnonneg (buckets : List LedgerBucketRecord)
      (hperm : buckets.Perm (store.ledgerBucketsForTenant policy.tenantId)) :
      ∀ value ∈ (buckets.filter fun bucket => runtimeBudgetBucketMatches policy bucket now).map
        (runtimeBudgetBucketValue policy), 0 ≤ value := by
    intro value hvalue
    obtain ⟨bucket, hbucket, rfl⟩ := List.mem_map.mp hvalue
    exact bucketValue_nonneg hstore policy (hperm.mem_iff.mp (List.mem_of_mem_filter hbucket))
  constructor
  · intro hsound
    exact (inI64_sums_iff (hnonneg _ (.refl _))).mp (hsound _ (.refl _))
  · intro hbounded buckets hperm
    apply (inI64_sums_iff (hnonneg buckets hperm)).mpr
    have hsum := ((hperm.filter fun bucket => runtimeBudgetBucketMatches policy bucket now).map
      (runtimeBudgetBucketValue policy)).sum_eq
    rw [hsum]
    exact hbounded

theorem accountingSound_iff (hstore : store.NonNeg) (action : AccountingAction) :
    AccountingSound store action ↔ AccountingBounded store action := by
  cases action with
  | respond actor input => exact respondSound_iff hstore actor input
  | preflight policy now => exact preflightSound_iff hstore policy now

theorem accountingStep_nonNeg (hstore : store.NonNeg) {action : AccountingAction}
    (hbounded : AccountingBounded store action) {next : UsageStore} (hnext : accountingStep store action = some next) :
    next.NonNeg := by
  cases action with
  | respond actor input =>
    cases hnext
    intro key
    exact (hstore key).of_atMost (((respondSound_iff hstore actor input).mpr hbounded).monotone key)
  | preflight policy now =>
    cases hnext
    exact hstore

end Steps

/-- A run accounts without overflow and without a falling counter exactly when each of its steps is bounded. -/
theorem accounting_sound_iff (actions : List AccountingAction) :
    Meets accountingStep AccountingSound UsageStore.empty actions ↔
      Meets accountingStep AccountingBounded UsageStore.empty actions :=
  meets_iff_of_invariant (fun _ _ _ hstore hbounded hnext => accountingStep_nonNeg hstore hbounded hnext)
    (fun _ action hstore => accountingSound_iff hstore action) nonNeg_empty actions

def reportedUsage (requestId : String) (input output : Int) : AccountingAction :=
  .respond { tenantActor with requestId := requestId }
    { sampleTerminalInput requestId with
      responseBody := .object [("usage", .object [("input_tokens", .number input), ("output_tokens", .number output)])] }

def monthKey : String := (terminalUsageEvent tenantActor (sampleTerminalInput "use_1")).bucketKey .month

/-- A negative count takes back what an earlier response was charged, and two reported counts overflow their total. -/
theorem accounting_not_sound :
    (∃ first second, run accountingStep .empty [reportedUsage "req_1" 7 5] = some first ∧
      run accountingStep .empty [reportedUsage "req_1" 7 5, reportedUsage "req_2" (-5) 5] = some second ∧
      (first.countersAt monthKey).inputTokens = 7 ∧ (second.countersAt monthKey).inputTokens = 2) ∧
    ¬ Meets accountingStep AccountingSound .empty [reportedUsage "req_1" 7 5, reportedUsage "req_2" (-5) 5] ∧
    ¬ Meets accountingStep AccountingSound .empty [reportedUsage "req_1" i64Max 1] := by
  refine ⟨⟨_, _, rfl, rfl, rfl, rfl⟩, ?_, ?_⟩
  · intro hsound
    have hsecond : RespondSound _ _ _ := (hsound.2 _ rfl).1
    have hle := (List.forall₂_cons.mp (hsecond.monotone monthKey)).1
    exact absurd hle (by decide)
  · intro hsound
    have hfirst : RespondSound _ _ _ := hsound.1
    exact absurd (hfirst.total rfl i64Max 1 rfl rfl) (by unfold InI64; decide)

end Starweaver.Gateway
