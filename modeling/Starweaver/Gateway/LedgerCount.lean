import Starweaver.Library.KeyedSum
import Starweaver.Gateway.LedgerConservation
import Starweaver.Gateway.Preflight

namespace Starweaver.Gateway

open Library Library.Calendar Library.KeyedSum Library.MachineInt

def countersIn (buckets : List LedgerBucketRecord) : UsageCounters := (buckets.map (·.counters)).sum

/-- Over the buckets of one kind that pass a test, the counters sum to what the events in those buckets add to them,
in 64-bit arithmetic. -/
theorem LedgerReflects.wrap_sum {events : List UsageEventRecord} {buckets : LedgerBuckets}
    (h : LedgerReflects events buckets) (kind : BucketKind) (p : LedgerBucketRecord → Bool)
    (hp : ∀ bucket, p bucket = true → bucket.bucketKind = kind) :
    (countersIn ((buckets.entries.map Sigma.snd).filter p)).map wrap =
      (countersOf (events.filter fun event => (buckets.lookup (event.bucketKey kind)).any p)).map wrap := by
  have hkeys := sum_by_key p (fun event : UsageEventRecord => event.bucketKey kind) UsageEventRecord.counters events
    buckets
  have hcounters : ∀ entry ∈ buckets.entries.filter (fun entry => p entry.2), entry.2.counters =
      (countersOf (events.filter fun event => event.bucketKey kind = entry.1)).map wrap := by
    intro entry hentry
    obtain ⟨hmem, hpass⟩ := List.mem_filter.mp hentry
    obtain ⟨first, -, -, -, hcounters⟩ := h.bucket (AList.mem_lookup_iff.mpr hmem)
    rwa [hp entry.2 hpass] at hcounters
  have hbuckets : (countersIn ((buckets.entries.map Sigma.snd).filter p)) =
      (((buckets.entries.filter fun entry => p entry.2).map fun entry =>
        countersOf (events.filter fun event => event.bucketKey kind = entry.1)).map (UsageCounters.map wrap)).sum := by
    rw [countersIn, List.filter_map, List.map_map, List.map_map]
    exact congrArg List.sum (List.map_congr_left hcounters)
  rw [hbuckets, UsageCounters.sum_map_wrap, countersOf, ← hkeys]
  rfl

/-- The bucket counts against the policy in the period of the given time. -/
def matchesBudget (policy : BudgetPolicyRecord) (now : DateTime) (bucket : LedgerBucketRecord) : Bool :=
  bucket.tenantId == policy.tenantId && runtimeBudgetBucketMatches policy bucket now

def budgetLedgerValue (policy : BudgetPolicyRecord) (ledger : UsageStore) (now : DateTime) : Int :=
  runtimeBudgetCurrent policy (ledger.ledgerBucketsForTenant policy.tenantId) now

def countsAgainst (policy : BudgetPolicyRecord) (now : DateTime) (buckets : LedgerBuckets)
    (event : UsageEventRecord) : Bool :=
  (buckets.lookup (event.bucketKey .event)).any (matchesBudget policy now)

def countedEvents (policy : BudgetPolicyRecord) (ledger : UsageStore) (now : DateTime) : List UsageEventRecord :=
  ledger.usageEvents.filter (countsAgainst policy now ledger.ledgerBuckets)

theorem matchesBudget_kind {policy : BudgetPolicyRecord} {now : DateTime} {bucket : LedgerBucketRecord}
    (h : matchesBudget policy now bucket = true) : bucket.bucketKind = .event := by
  simp only [matchesBudget, runtimeBudgetBucketMatches, Bool.and_eq_true, beq_iff_eq] at h
  exact h.2.1.1.1

section Count

variable {policy : BudgetPolicyRecord} {ledger : UsageStore}

theorem budgetLedgerValue_eq (hkind : policy.limitKind = .requests)
    (h : LedgerReflects ledger.usageEvents ledger.ledgerBuckets) (now : DateTime) :
    budgetLedgerValue policy ledger now = wrap (countedEvents policy ledger now).length := by
  have hones : ∀ list : List UsageEventRecord, (countersOf list).requestCount = (list.length : Int) := by
    intro list
    induction list with
    | nil => rfl
    | cons event list ih =>
      rw [countersOf, List.map_cons, List.sum_cons, List.length_cons, Nat.cast_add, add_comm, ← ih]
      rfl
  have hvalues : ∀ list : List LedgerBucketRecord,
      (list.map (runtimeBudgetBucketValue policy)).sum = (countersIn list).requestCount := by
    intro list
    induction list with
    | nil => rfl
    | cons bucket list ih =>
      rw [countersIn, List.map_cons, List.map_cons, List.sum_cons, List.sum_cons, ih, runtimeBudgetBucketValue, hkind]
      rfl
  have hsum := congrArg UsageCounters.requestCount
    (h.wrap_sum .event (matchesBudget policy now) (fun _ => matchesBudget_kind))
  unfold budgetLedgerValue runtimeBudgetCurrent UsageStore.ledgerBucketsForTenant
  rw [List.filter_filter, wrapSum_eq, hvalues]
  unfold matchesBudget at hsum
  simp only [Bool.and_comm] at hsum ⊢
  exact hsum.trans (congrArg wrap (hones _))

def budgetPeriod (policy : BudgetPolicyRecord) (time : DateTime) : List Int :=
  match policy.period with
  | .calendarDay => [time.dateNaive]
  | .calendarMonth => [time.year, time.month]
  | _ => []

theorem runtimeBudgetPeriodMatches_iff (policy : BudgetPolicyRecord) (time now : DateTime) :
    runtimeBudgetPeriodMatches policy time now = true ↔ budgetPeriod policy time = budgetPeriod policy now := by
  unfold runtimeBudgetPeriodMatches budgetPeriod
  cases policy.period <;> simp

theorem budgetPeriod_of_timestamp {time other : DateTime} (h : time.timestamp = other.timestamp)
    (policy : BudgetPolicyRecord) : budgetPeriod policy time = budgetPeriod policy other := by
  unfold budgetPeriod DateTime.year DateTime.month DateTime.civil DateTime.dateNaive
  rw [h]

theorem runtimeBudgetReservationKey_of_period {time other : DateTime}
    (h : budgetPeriod policy time = budgetPeriod policy other) :
    runtimeBudgetReservationKey policy time = runtimeBudgetReservationKey policy other := by
  have hperiod : runtimeBudgetReservationPeriodKey policy time = runtimeBudgetReservationPeriodKey policy other := by
    unfold budgetPeriod at h
    unfold runtimeBudgetReservationPeriodKey
    cases hkind : policy.period with
    | calendarDay =>
      simp only [hkind, List.cons.injEq, and_true] at h
      simp only [DateTime.civil, h]
    | calendarMonth =>
      simp only [hkind, List.cons.injEq, and_true, DateTime.year, DateTime.month] at h
      simp only [h.1, h.2]
    | _ => rfl
  unfold runtimeBudgetReservationKey
  rw [hperiod]

theorem matchesBudget_of_period {time other : DateTime} (h : budgetPeriod policy time = budgetPeriod policy other)
    (bucket : LedgerBucketRecord) : matchesBudget policy time bucket = matchesBudget policy other bucket := by
  have hperiod : runtimeBudgetPeriodMatches policy bucket.bucketStart time =
      runtimeBudgetPeriodMatches policy bucket.bucketStart other := by
    rw [Bool.eq_iff_iff, runtimeBudgetPeriodMatches_iff, runtimeBudgetPeriodMatches_iff, h]
  unfold matchesBudget runtimeBudgetBucketMatches
  rw [hperiod]

theorem countedEvents_of_period {time other : DateTime} (h : budgetPeriod policy time = budgetPeriod policy other) :
    countedEvents policy ledger time = countedEvents policy ledger other := by
  have hsame : matchesBudget policy time = matchesBudget policy other := funext (matchesBudget_of_period h)
  unfold countedEvents countsAgainst
  rw [hsame]

theorem countsAgainst_fold (h : LedgerReflects ledger.usageEvents ledger.ledgerBuckets) (record : UsageEventRecord)
    (now : DateTime) {event : UsageEventRecord} (hevent : event ∈ ledger.usageEvents) :
    countsAgainst policy now (bucketKinds.foldl
        (fun buckets kind => foldUsageEventIntoBucket buckets record kind) ledger.ledgerBuckets) event =
      countsAgainst policy now ledger.ledgerBuckets event := by
  unfold countsAgainst
  by_cases hkey : event.bucketKey .event = record.bucketKey .event
  · obtain ⟨bucket, hlookup, -⟩ := h.exists_bucket hevent .event
    rw [hkey, lookup_fold_self record (by decide) (by decide), ← hkey, hlookup]
    rfl
  · rw [lookup_fold_ne record]
    intro kind _ heq
    obtain rfl : BucketKind.event = kind := bucketKey_kind heq
    exact hkey heq

theorem countsAgainst_period {events : List UsageEventRecord} {buckets : LedgerBuckets}
    (h : LedgerReflects events buckets) {event : UsageEventRecord} {now : DateTime}
    (hcounts : countsAgainst policy now buckets event = true) :
    budgetPeriod policy event.occurredAt = budgetPeriod policy now := by
  obtain ⟨bucket, hlookup, hmatch⟩ := Option.any_eq_true _ _ |>.mp hcounts
  obtain ⟨first, -, hkey, hcounted, -⟩ := h.bucket hlookup
  have hkind := matchesBudget_kind hmatch
  have hstart := hcounted.2
  rw [hkind] at hkey hstart
  obtain ⟨-, htime⟩ := usageBucketKey_suffix hkey
  have hperiod : runtimeBudgetPeriodMatches policy bucket.bucketStart now = true := by
    simp only [matchesBudget, runtimeBudgetBucketMatches, Bool.and_eq_true] at hmatch
    exact hmatch.2.1.1.2
  rw [runtimeBudgetPeriodMatches_iff, hstart] at hperiod
  rw [← hperiod]
  exact (budgetPeriod_of_timestamp htime policy).symm

theorem countedEvents_record (policy : BudgetPolicyRecord)
    (h : LedgerReflects ledger.usageEvents ledger.ledgerBuckets) (record : UsageEventRecord) (now : DateTime) :
    (countedEvents policy (ledger.recordUsageEvent record) now).length ≤
      (countedEvents policy ledger now).length +
        if budgetPeriod policy record.occurredAt = budgetPeriod policy now then 1 else 0 := by
  unfold UsageStore.recordUsageEvent
  by_cases hdup : UsageStore.isDuplicate ledger.usageEvents record = true
  · rw [if_pos hdup]
    omega
  rw [if_neg hdup]
  unfold countedEvents
  simp only [List.filter_append, List.length_append]
  rw [List.filter_congr fun event hevent => countsAgainst_fold h record now hevent, Nat.add_le_add_iff_left]
  by_cases hcounts : countsAgainst policy now (bucketKinds.foldl
      (fun buckets kind => foldUsageEventIntoBucket buckets record kind) ledger.ledgerBuckets) record = true
  · have hperiod := countsAgainst_period (h.append record) hcounts
    rw [if_pos hperiod, List.filter_cons_of_pos hcounts]
    simp
  · rw [List.filter_cons_of_neg hcounts]
    simp

end Count

end Starweaver.Gateway
