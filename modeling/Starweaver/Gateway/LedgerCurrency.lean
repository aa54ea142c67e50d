import Starweaver.Library.Machine
import Starweaver.Gateway.LedgerConservation

namespace Starweaver.Gateway

open Library Library.Machine Library.MachineInt

def UsageEventRecord.totalCost (event : UsageEventRecord) : Int := usagePayloadI64 event.costPayload "total_cost"

def UsageEventRecord.currencyCode (event : UsageEventRecord) : String :=
  ((event.costPayload.get "currency").bind Json.asStr).getD "USD"

/-- The recorded events that were folded into the bucket of this kind under this key. -/
def foldedEvents (events : List UsageEventRecord) (kind : BucketKind) (key : String) : List UsageEventRecord :=
  events.filter fun event => event.bucketKey kind = key

def costIn (currency : String) (events : List UsageEventRecord) : Int :=
  ((events.filter fun event => event.currencyCode = currency).map UsageEventRecord.totalCost).sum

/-- The cost of the bucket is the cost of its events in its currency, and its other events cost nothing. -/
structure CostsIn (events : List UsageEventRecord) (bucket : LedgerBucketRecord) : Prop where
  sum : bucket.counters.estimatedCostMicros = costIn bucket.currencyCode events
  others : ∀ event ∈ events, event.currencyCode ≠ bucket.currencyCode → event.totalCost = 0

def UsageStore.CostsSeparate (store : UsageStore) : Prop :=
  ∀ key bucket, store.ledgerBuckets.lookup key = some bucket →
    CostsIn (foldedEvents store.usageEvents bucket.bucketKind key) bucket

/-- A new event costs nothing or is in the currency of the buckets it falls into, and their costs stay 64-bit. -/
def KeepsCurrency (store : UsageStore) (event : UsageEventRecord) : Prop :=
  UsageStore.isDuplicate store.usageEvents event = false →
    ∀ kind bucket, store.ledgerBuckets.lookup (event.bucketKey kind) = some bucket →
      (event.currencyCode ≠ bucket.currencyCode → event.totalCost = 0) ∧
        i64Min ≤ bucket.counters.estimatedCostMicros + event.totalCost ∧
        bucket.counters.estimatedCostMicros + event.totalCost ≤ i64Max

section Costs

variable {events : List UsageEventRecord} {event : UsageEventRecord} {bucket : LedgerBucketRecord}

theorem totalCost_bounds (event : UsageEventRecord) : i64Min ≤ event.totalCost ∧ event.totalCost ≤ i64Max := by
  unfold UsageEventRecord.totalCost usagePayloadI64
  cases hcost : (event.costPayload.get "total_cost").bind Json.asI64 with
  | none => decide
  | some cost =>
    obtain ⟨value, -, hvalue⟩ := Option.bind_eq_some_iff.mp hcost
    exact Json.asI64_bounds hvalue

theorem costIn_append (currency : String) (events : List UsageEventRecord) (event : UsageEventRecord) :
    costIn currency (events ++ [event]) =
      costIn currency events + if event.currencyCode = currency then event.totalCost else 0 := by
  unfold costIn
  rw [List.filter_append, List.map_append, List.sum_append]
  by_cases hcurrency : event.currencyCode = currency
  · simp [hcurrency]
  · simp [hcurrency]

theorem add_cost (bucket : LedgerBucketRecord) (event : UsageEventRecord) :
    (bucket.add event).counters.estimatedCostMicros = wrap (bucket.counters.estimatedCostMicros + event.totalCost) :=
  rfl

/-- A further event keeps the costs of a bucket apart exactly when it costs nothing or has the currency of the
bucket, and the cost fits its counter. -/
theorem costsIn_add (h : CostsIn events bucket) :
    CostsIn (events ++ [event]) (bucket.add event) ↔
      (event.currencyCode ≠ bucket.currencyCode → event.totalCost = 0) ∧
        i64Min ≤ bucket.counters.estimatedCostMicros + event.totalCost ∧
        bucket.counters.estimatedCostMicros + event.totalCost ≤ i64Max := by
  have hcurrency : (bucket.add event).currencyCode = bucket.currencyCode := rfl
  have hsum : (event.currencyCode ≠ bucket.currencyCode → event.totalCost = 0) →
      costIn bucket.currencyCode (events ++ [event]) = bucket.counters.estimatedCostMicros + event.totalCost := by
    intro hother
    rw [costIn_append, ← h.sum]
    split
    · rfl
    · rename_i hne
      rw [hother hne]
  constructor
  · intro hadd
    have hother := hadd.others event (by simp)
    rw [hcurrency] at hother
    have hcost := hadd.sum
    rw [add_cost, hcurrency, hsum hother] at hcost
    exact ⟨hother, (wrap_eq_self_iff _).mp hcost⟩
  · rintro ⟨hother, hfits⟩
    constructor
    · rw [add_cost, hcurrency, hsum hother]
      exact (wrap_eq_self_iff _).mpr hfits
    · intro other hmem hne
      rw [hcurrency] at hne
      rcases List.mem_append.mp hmem with hold | hnew
      · exact h.others other hold hne
      · rw [List.mem_singleton] at hnew
        rw [hnew] at hne ⊢
        exact hother hne

theorem costsIn_opened (event : UsageEventRecord) (kind : BucketKind) :
    CostsIn [event] ((LedgerBucketRecord.opened event kind).add event) := by
  have hempty : CostsIn [] (LedgerBucketRecord.opened event kind) := ⟨rfl, by simp⟩
  have hbounds := totalCost_bounds event
  refine (costsIn_add hempty).mpr ⟨fun hne => absurd rfl hne, ?_⟩
  rw [show (LedgerBucketRecord.opened event kind).counters.estimatedCostMicros = 0 from rfl, Int.zero_add]
  exact hbounds

end Costs

section Steps

variable {store : UsageStore} {event : UsageEventRecord}

theorem foldedEvents_append (events : List UsageEventRecord) (event : UsageEventRecord) (kind : BucketKind)
    (key : String) :
    foldedEvents (events ++ [event]) kind key =
      foldedEvents events kind key ++ if event.bucketKey kind = key then [event] else [] := by
  unfold foldedEvents
  rw [List.filter_append]
  by_cases hkey : event.bucketKey kind = key <;> simp [hkey]

theorem recordUsageEvent_lookup (hnew : UsageStore.isDuplicate store.usageEvents event = false) (kind : BucketKind) :
    (store.recordUsageEvent event).ledgerBuckets.lookup (event.bucketKey kind) =
      some (((store.ledgerBuckets.lookup (event.bucketKey kind)).getD (.opened event kind)).add event) := by
  rw [recordUsageEvent_new hnew]
  exact lookup_fold_self event (by decide) (mem_bucketKinds kind) store.ledgerBuckets

variable (h : LedgerReflects store.usageEvents store.ledgerBuckets)

include h

theorem foldedEvents_of_lookup_none {kind : BucketKind} {key : String}
    (hnone : store.ledgerBuckets.lookup key = none) : foldedEvents store.usageEvents kind key = [] := by
  unfold foldedEvents
  rw [List.filter_eq_nil_iff]
  intro other hother hkey
  obtain ⟨bucket, hlookup, -⟩ := h.exists_bucket hother kind
  rw [of_decide_eq_true hkey, hnone] at hlookup
  cases hlookup

theorem bucketKind_of_lookup {kind : BucketKind} {bucket : LedgerBucketRecord}
    (hlookup : store.ledgerBuckets.lookup (event.bucketKey kind) = some bucket) : bucket.bucketKind = kind := by
  obtain ⟨first, -, hkey, -⟩ := h.bucket hlookup
  exact bucketKey_kind hkey

theorem costsIn_recorded (hcosts : store.CostsSeparate)
    (hnew : UsageStore.isDuplicate store.usageEvents event = false) {kind : BucketKind} {bucket : LedgerBucketRecord}
    (hlookup : store.ledgerBuckets.lookup (event.bucketKey kind) = some bucket) :
    CostsIn (foldedEvents (store.recordUsageEvent event).usageEvents kind (event.bucketKey kind))
        (bucket.add event) ↔
      (event.currencyCode ≠ bucket.currencyCode → event.totalCost = 0) ∧
        i64Min ≤ bucket.counters.estimatedCostMicros + event.totalCost ∧
        bucket.counters.estimatedCostMicros + event.totalCost ≤ i64Max := by
  have hkind := bucketKind_of_lookup h hlookup
  have hold := hcosts _ _ hlookup
  rw [hkind] at hold
  rw [recordUsageEvent_new hnew, foldedEvents_append, if_pos rfl]
  exact costsIn_add hold

theorem recordUsageEvent_costsSeparate (hcosts : store.CostsSeparate)
    (hkeeps : KeepsCurrency store event) : (store.recordUsageEvent event).CostsSeparate := by
  cases hdup : UsageStore.isDuplicate store.usageEvents event with
  | true => rwa [recordUsageEvent_duplicate hdup]
  | false =>
    intro key bucket hbucket
    by_cases hkey : ∃ kind, event.bucketKey kind = key
    · obtain ⟨kind, rfl⟩ := hkey
      have hkind := bucketKind_of_lookup (recordUsageEvent_reflects h event) hbucket
      rw [recordUsageEvent_lookup hdup, Option.some.injEq] at hbucket
      rw [hkind]
      cases hlookup : store.ledgerBuckets.lookup (event.bucketKey kind) with
      | none =>
        rw [hlookup, Option.getD_none] at hbucket
        rw [recordUsageEvent_new hdup, foldedEvents_append, if_pos rfl, foldedEvents_of_lookup_none h hlookup,
          ← hbucket]
        exact costsIn_opened event kind
      | some old =>
        rw [hlookup, Option.getD_some] at hbucket
        rw [← hbucket]
        exact (costsIn_recorded h hcosts hdup hlookup).mpr (hkeeps hdup kind old hlookup)
    · rw [recordUsageEvent_new hdup] at hbucket ⊢
      rw [lookup_fold_ne event fun kind _ heq => hkey ⟨kind, heq.symm⟩] at hbucket
      rw [foldedEvents_append, if_neg fun heq => hkey ⟨_, heq⟩, List.append_nil]
      exact hcosts key bucket hbucket

theorem keepsCurrency_of_costsSeparate (hcosts : store.CostsSeparate)
    (hafter : (store.recordUsageEvent event).CostsSeparate) : KeepsCurrency store event := by
  intro hnew kind bucket hlookup
  have hbucket := recordUsageEvent_lookup hnew kind
  rw [hlookup, Option.getD_some] at hbucket
  have hkind : (bucket.add event).bucketKind = kind :=
    bucketKind_of_lookup (recordUsageEvent_reflects h event) hbucket
  have hcostsIn := hafter _ _ hbucket
  rw [hkind] at hcostsIn
  exact (costsIn_recorded h hcosts hnew hlookup).mp hcostsIn

end Steps

theorem reflects_empty : LedgerReflects UsageStore.empty.usageEvents UsageStore.empty.ledgerBuckets :=
  (recordAll_empty []).2

theorem costsSeparate_empty : UsageStore.empty.CostsSeparate := by
  intro key bucket hlookup
  cases hlookup

/-- The buckets keep the currencies apart in every state of a run exactly when every event of the run does. -/
theorem ledgerCosts_separate_iff (records : List UsageEventRecord) :
    (∀ prior, prior <+: records → (UsageStore.empty.recordAll prior).CostsSeparate) ↔
      Meets (fun store event => some (store.recordUsageEvent event)) KeepsCurrency UsageStore.empty records := by
  have hstep : ∀ (store : UsageStore) (event : UsageEventRecord),
      LedgerReflects store.usageEvents store.ledgerBuckets → store.CostsSeparate →
      ((store.recordUsageEvent event).CostsSeparate ↔ KeepsCurrency store event) :=
    fun store event hstore hcosts =>
      ⟨keepsCurrency_of_costsSeparate hstore hcosts, recordUsageEvent_costsSeparate hstore hcosts⟩
  exact (meets_iff_always (fun store event hstore => recordUsageEvent_reflects hstore event) hstep reflects_empty
    costsSeparate_empty records).symm

def pricedEvent (usageEventId requestId : String) (cost : Int) (currency : String) : UsageEventRecord :=
  { sampleEvent usageEventId requestId 0 with
    costPayload := .object [("currency", .string currency), ("total_cost", .number cost)] }

def dollarsThenEuros : UsageStore :=
  UsageStore.empty.recordAll [pricedEvent "use_1" "req_1" 3 "USD", pricedEvent "use_2" "req_2" 5 "EUR"]

/-- A request priced in dollars and one priced in euros meet in one bucket of eight dollars. -/
theorem dollarsThenEuros_bucket :
    ∃ key bucket, dollarsThenEuros.ledgerBuckets.lookup key = some bucket ∧ bucket.currencyCode = "USD" ∧
      bucket.counters.estimatedCostMicros = 8 ∧
      costIn "USD" (foldedEvents dollarsThenEuros.usageEvents bucket.bucketKind key) = 3 := by
  have hfirst : UsageStore.isDuplicate UsageStore.empty.usageEvents (pricedEvent "use_1" "req_1" 3 "USD") = false :=
    rfl
  have hsecond : UsageStore.isDuplicate (UsageStore.empty.recordUsageEvent
      (pricedEvent "use_1" "req_1" 3 "USD")).usageEvents (pricedEvent "use_2" "req_2" 5 "EUR") = false := by decide
  have hopened := recordUsageEvent_lookup hfirst .month
  have hlookup := recordUsageEvent_lookup hsecond .month
  have hkey : (pricedEvent "use_2" "req_2" 5 "EUR").bucketKey .month =
      (pricedEvent "use_1" "req_1" 3 "USD").bucketKey .month := rfl
  rw [hkey, hopened, Option.getD_some] at hlookup
  refine ⟨_, _, hlookup, rfl, by decide, ?_⟩
  have hevents : dollarsThenEuros.usageEvents =
      [pricedEvent "use_1" "req_1" 3 "USD", pricedEvent "use_2" "req_2" 5 "EUR"] := rfl
  have hfolded : foldedEvents dollarsThenEuros.usageEvents .month
      ((pricedEvent "use_1" "req_1" 3 "USD").bucketKey .month) =
        [pricedEvent "use_1" "req_1" 3 "USD", pricedEvent "use_2" "req_2" 5 "EUR"] := by
    simp [hevents, foldedEvents, hkey]
  exact (congrArg (costIn "USD") hfolded).trans (by decide)

theorem ledgerCosts_mixed :
    (∃ key bucket, dollarsThenEuros.ledgerBuckets.lookup key = some bucket ∧ bucket.currencyCode = "USD" ∧
      bucket.counters.estimatedCostMicros = 8 ∧
      costIn "USD" (foldedEvents dollarsThenEuros.usageEvents bucket.bucketKind key) = 3) ∧
    ¬ dollarsThenEuros.CostsSeparate := by
  refine ⟨dollarsThenEuros_bucket, fun hseparate => ?_⟩
  obtain ⟨key, bucket, hlookup, hcurrency, hcost, hdollars⟩ := dollarsThenEuros_bucket
  have hsum := (hseparate key bucket hlookup).sum
  rw [hcurrency, hdollars, hcost] at hsum
  cases hsum

end Starweaver.Gateway
