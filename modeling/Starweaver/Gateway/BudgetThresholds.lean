import Mathlib.Data.List.Destutter
import Starweaver.Library.Machine
import Starweaver.Gateway.LedgerCount
import Starweaver.Gateway.UsageBounds

namespace Starweaver.Gateway

open Library Library.Calendar Library.KeyedSum Library.Machine Library.MachineInt Library.SortBy

/-- A budget policy with the fields that only its notifications read. -/
structure NotifiedBudgetPolicyRecord extends BudgetPolicyRecord where
  softLimit : Option Int
  thresholds : List Int
deriving DecidableEq, Repr

inductive RuntimeBudgetThresholdKind
  | softLimit
  | hardLimit
  | threshold
deriving DecidableEq, Repr

def RuntimeBudgetThresholdKind.asStr : RuntimeBudgetThresholdKind → String
  | .softLimit => "soft_limit"
  | .hardLimit => "hard_limit"
  | .threshold => "threshold"

def RuntimeBudgetThresholdKind.eventKind : RuntimeBudgetThresholdKind → String
  | .softLimit => "gateway.budget.soft_limit_reached"
  | .hardLimit => "gateway.budget.hard_limit_reached"
  | .threshold => "gateway.budget.threshold_reached"

def RuntimeBudgetThresholdKind.reason : RuntimeBudgetThresholdKind → String
  | .softLimit => "soft_limit_reached"
  | .hardLimit => "hard_limit_reached"
  | .threshold => "threshold_reached"

structure RuntimeBudgetThreshold where
  thresholdKind : RuntimeBudgetThresholdKind
  value : Int
deriving DecidableEq, Repr

/-- What `enqueue_runtime_budget_threshold_event` is called with. -/
structure RuntimeBudgetThresholdEvent where
  policy : NotifiedBudgetPolicyRecord
  threshold : RuntimeBudgetThreshold
  previousValue : Int
  currentValue : Int
deriving DecidableEq, Repr

def runtimeBudgetTerminalValue (policy : BudgetPolicyRecord) (usagePayload costPayload : Json) : Int :=
  match policy.limitKind with
  | .requests => 1
  | .tokens => terminalUsageTokenCount usagePayload
  | .cost => usagePayloadI64 costPayload "total_cost"
  | _ => 0

def compareThresholds (left right : RuntimeBudgetThreshold) : Ordering :=
  (compare left.value right.value).then (compare left.thresholdKind.asStr right.thresholdKind.asStr)

def runtimeBudgetTerminalThresholds (policy : NotifiedBudgetPolicyRecord) : List RuntimeBudgetThreshold :=
  (sortBy compareThresholds ((policy.softLimit.map fun value => ⟨.softLimit, value⟩).toList ++
    (policy.hardLimit.map fun value => ⟨.hardLimit, value⟩).toList ++
      policy.thresholds.map fun value => ⟨.threshold, value⟩)).destutter (· ≠ ·)

def notifiedPoliciesForTenant (policies : List NotifiedBudgetPolicyRecord) (tenantId : String) :
    List NotifiedBudgetPolicyRecord :=
  sortBy (fun left right => (compare left.scopeKind.asStr right.scopeKind.asStr).then
      ((compare left.scopeId right.scopeId).then ((compare left.limitKind.asStr right.limitKind.asStr).then
        (compare left.budgetPolicyId right.budgetPolicyId))))
    (policies.filter fun policy => policy.tenantId == tenantId)

section Finalize

variable (policies : List NotifiedBudgetPolicyRecord) (ledgerBuckets : List LedgerBucketRecord)
  (actor : AuthenticatedActor) (input : TerminalUsageInput) (usagePayload costPayload : Json)

def thresholdEvents (policy : NotifiedBudgetPolicyRecord) : List RuntimeBudgetThresholdEvent :=
  let eventValue := runtimeBudgetTerminalValue policy.toBudgetPolicyRecord usagePayload costPayload
  if eventValue ≤ 0 then []
  else
    let current := runtimeBudgetCurrent policy.toBudgetPolicyRecord ledgerBuckets input.endedAt
    let previous := saturatingSub current eventValue
    ((runtimeBudgetTerminalThresholds policy).filter fun threshold =>
      decide (previous < threshold.value ∧ threshold.value ≤ current)).map
        fun threshold => ⟨policy, threshold, previous, current⟩

def finalizeRuntimeBudgetTerminal : List RuntimeBudgetThresholdEvent :=
  ((notifiedPoliciesForTenant policies actor.tenantId).filter fun policy => policy.status == .active &&
    runtimeBudgetPolicyMatchesRequest policy.toBudgetPolicyRecord actor (some input.selected)).flatMap
      (thresholdEvents ledgerBuckets input usagePayload costPayload)

end Finalize

/-- The store of the usage events, and the threshold events that were enqueued. -/
structure BudgetNotices where
  store : UsageStore
  reports : List RuntimeBudgetThresholdEvent

def BudgetNotices.start (store : UsageStore) : BudgetNotices := ⟨store, []⟩

abbrev Response := AuthenticatedActor × TerminalUsageInput

/-- The threshold events of a response, from the ledger after its usage event is recorded. -/
def thresholdReports (policies : List NotifiedBudgetPolicyRecord) (store : UsageStore) :
    Response → List RuntimeBudgetThresholdEvent
  | (actor, input) =>
    finalizeRuntimeBudgetTerminal policies
      ((recordTerminalUsageEvent store actor input).ledgerBucketsForTenant actor.tenantId) actor input
      (terminalUsageEvent actor input).usagePayload (terminalUsageEvent actor input).costPayload

def terminalStep (policies : List NotifiedBudgetPolicyRecord) (notices : BudgetNotices) (response : Response) :
    Option BudgetNotices :=
  some ⟨recordTerminalUsageEvent notices.store response.1 response.2,
    notices.reports ++ thresholdReports policies notices.store response⟩

/-- The cumulative value is below the threshold before and at or above it after. -/
def Crosses (policy : BudgetPolicyRecord) (before after : UsageStore) (now : DateTime)
    (threshold : RuntimeBudgetThreshold) : Prop :=
  budgetLedgerValue policy before now < threshold.value ∧ threshold.value ≤ budgetLedgerValue policy after now

instance (policy : BudgetPolicyRecord) (before after : UsageStore) (now : DateTime)
    (threshold : RuntimeBudgetThreshold) : Decidable (Crosses policy before after now threshold) :=
  inferInstanceAs (Decidable (_ ∧ _))

def ReportsCrossings (policies : List NotifiedBudgetPolicyRecord) (policy : NotifiedBudgetPolicyRecord)
    (notices : BudgetNotices) (response : Response) : Prop :=
  ∀ threshold ∈ runtimeBudgetTerminalThresholds policy,
    (∃ report ∈ thresholdReports policies notices.store response,
      report.policy = policy ∧ report.threshold = threshold) ↔
    Crosses policy.toBudgetPolicyRecord notices.store
      (recordTerminalUsageEvent notices.store response.1 response.2) response.2.endedAt threshold

def reportCount (reports : List RuntimeBudgetThresholdEvent) (policy : NotifiedBudgetPolicyRecord)
    (threshold : RuntimeBudgetThreshold) : Nat :=
  (reports.filter fun report => report.policy = policy ∧ report.threshold = threshold).length

section Condition

variable (policy : BudgetPolicyRecord) (store : UsageStore)

/-- The bucket that the event is added to. -/
def takingBucket (event : UsageEventRecord) : LedgerBucketRecord :=
  (store.ledgerBuckets.lookup (event.bucketKey .event)).getD (.opened event .event)

/-- What the counters are worth in the unit of the policy, without a bound. -/
def budgetWorth (counters : UsageCounters) : Int :=
  match policy.limitKind with
  | .requests => counters.requestCount
  | .tokens => counters.inputTokens + counters.outputTokens + counters.reasoningTokens
  | .cost => counters.estimatedCostMicros
  | _ => 0

/-- The sum over the buckets of the policy, without a bound. -/
def budgetTotal (now : DateTime) : Int :=
  total (fun bucket => if matchesBudget policy now bucket then runtimeBudgetBucketValue policy bucket else 0)
    store.ledgerBuckets

/-- The event is recorded in a bucket that counts against the policy. -/
def Charged (event : UsageEventRecord) : Prop :=
  UsageStore.isDuplicate store.usageEvents event = false ∧
    matchesBudget policy event.occurredAt (takingBucket store event) = true

def CoversResponse (response : Response) : Prop :=
  policy.tenantId = response.1.tenantId ∧ policy.status = .active ∧
    runtimeBudgetPolicyMatchesRequest policy response.1 (some response.2.selected) = true

instance (response : Response) : Decidable (CoversResponse policy response) := inferInstanceAs (Decidable (_ ∧ _ ∧ _))

instance (event : UsageEventRecord) : Decidable (Charged policy store event) := inferInstanceAs (Decidable (_ ∧ _))

/-- Adding the event overflows neither its bucket nor the sum over the buckets. -/
def ChargeFits (event : UsageEventRecord) : Prop :=
  InI64 (budgetTotal policy store event.occurredAt) ∧ (Charged policy store event →
    runtimeBudgetBucketValue policy ((takingBucket store event).add event) =
      runtimeBudgetBucketValue policy (takingBucket store event) + budgetWorth policy event.counters ∧
    InI64 (budgetTotal policy store event.occurredAt + budgetWorth policy event.counters))

/-- A response that the policy covers is charged to it, with the tokens that it reports as its total. -/
def ChargedInFull (response : Response) : Prop :=
  let event := terminalUsageEvent response.1 response.2
  (policy.limitKind = .tokens → CoversResponse policy response →
    max (terminalUsageTokenCount event.usagePayload) 0 = budgetWorth policy event.counters) ∧
  (budgetWorth policy event.counters ≠ 0 → (Charged policy store event ↔ CoversResponse policy response)) ∧
  ChargeFits policy store event

end Condition

section Thresholds

instance : Std.TransCmp compareThresholds :=
  inferInstanceAs (Std.TransCmp (compareLex (compareOn RuntimeBudgetThreshold.value)
    (compareOn fun threshold : RuntimeBudgetThreshold => threshold.thresholdKind.asStr)))

theorem RuntimeBudgetThresholdKind.asStr_injective : Function.Injective RuntimeBudgetThresholdKind.asStr := by
  intro left right h
  cases left <;> cases right <;> first | rfl | exact absurd h (by decide)

theorem eq_of_compareThresholds {left right : RuntimeBudgetThreshold} (h : compareThresholds left right = .eq) :
    left = right := by
  obtain ⟨hvalue, hkind⟩ := Ordering.then_eq_eq.mp h
  rw [compare_eq_iff_eq] at hvalue hkind
  obtain ⟨leftKind, leftValue⟩ := left
  obtain ⟨rightKind, rightValue⟩ := right
  exact congrArg₂ RuntimeBudgetThreshold.mk (RuntimeBudgetThresholdKind.asStr_injective hkind) hvalue

theorem runtimeBudgetTerminalThresholds_nodup (policy : NotifiedBudgetPolicyRecord) :
    (runtimeBudgetTerminalThresholds policy).Nodup := by
  have hantisymm : Std.Antisymm fun left right => compareThresholds left right ≠ .gt := by
    refine ⟨fun left right hle hge => eq_of_compareThresholds ?_⟩
    have hswap : compareThresholds right left = (compareThresholds left right).swap := Std.OrientedCmp.eq_swap
    cases hcmp : compareThresholds left right with
    | eq => rfl
    | gt => exact absurd hcmp hle
    | lt =>
      rw [hcmp] at hswap
      exact absurd hswap hge
  rw [runtimeBudgetTerminalThresholds, (pairwise_sortBy _).destutter_eq_dedup]
  exact List.nodup_dedup _

theorem mem_notifiedPoliciesForTenant {policies : List NotifiedBudgetPolicyRecord}
    {policy : NotifiedBudgetPolicyRecord} {tenantId : String} :
    policy ∈ notifiedPoliciesForTenant policies tenantId ↔ policy ∈ policies ∧ policy.tenantId = tenantId := by
  rw [notifiedPoliciesForTenant, mem_sortBy, List.mem_filter, beq_iff_eq]

theorem thresholdEvents_policy {ledgerBuckets : List LedgerBucketRecord} {input : TerminalUsageInput}
    {usagePayload costPayload : Json} (policy : NotifiedBudgetPolicyRecord) :
    ∀ report ∈ thresholdEvents ledgerBuckets input usagePayload costPayload policy, report.policy = policy := by
  intro report hreport
  rw [thresholdEvents] at hreport
  split at hreport
  · cases hreport
  · obtain ⟨threshold, -, rfl⟩ := List.mem_map.mp hreport
    rfl

end Thresholds

section Ledger

variable {policy : BudgetPolicyRecord} {store : UsageStore} {event : UsageEventRecord}

theorem budgetLedgerValue_eq_wrap (policy : BudgetPolicyRecord) (store : UsageStore) (now : DateTime) :
    budgetLedgerValue policy store now = wrap (budgetTotal policy store now) := by
  have hfilter := sum_filter (matchesBudget policy now) (runtimeBudgetBucketValue policy)
    (store.ledgerBuckets.entries.map Sigma.snd)
  rw [List.map_map] at hfilter
  unfold budgetLedgerValue runtimeBudgetCurrent UsageStore.ledgerBucketsForTenant
  rw [List.filter_filter, wrapSum_eq]
  unfold matchesBudget at hfilter
  simp only [Bool.and_comm] at hfilter ⊢
  rw [hfilter]
  unfold budgetTotal matchesBudget total
  simp only [Function.comp_def]

theorem budgetTotal_of_period {now other : DateTime} (h : budgetPeriod policy now = budgetPeriod policy other) :
    budgetTotal policy store now = budgetTotal policy store other := by
  unfold budgetTotal
  simp only [matchesBudget_of_period h]

theorem budgetLedgerValue_of_period {now other : DateTime} (h : budgetPeriod policy now = budgetPeriod policy other) :
    budgetLedgerValue policy store now = budgetLedgerValue policy store other := by
  rw [budgetLedgerValue_eq_wrap, budgetLedgerValue_eq_wrap, budgetTotal_of_period h]

/-- The recorded event changes the total by what its own bucket changes. -/
theorem budgetTotal_recorded (policy : BudgetPolicyRecord) (hledger : LedgerReflects store.usageEvents store.ledgerBuckets)
    (hnew : UsageStore.isDuplicate store.usageEvents event = false) (now : DateTime) :
    budgetTotal policy (store.recordUsageEvent event) now =
      budgetTotal policy store now + if matchesBudget policy now (takingBucket store event) then
        runtimeBudgetBucketValue policy ((takingBucket store event).add event) -
          runtimeBudgetBucketValue policy (takingBucket store event) else 0 := by
  have hrecorded := recordUsageEvent_reflects hledger event
  rw [recordUsageEvent_new hnew] at hrecorded ⊢
  let share := fun bucket => if matchesBudget policy now bucket then runtimeBudgetBucketValue policy bucket else 0
  have hkind {events : List UsageEventRecord} {buckets : LedgerBuckets} (hreflects : LedgerReflects events buckets)
      {kind : BucketKind} (hkind : kind ≠ .event) : amountAt share buckets (event.bucketKey kind) = 0 := by
    unfold amountAt
    cases hlookup : buckets.lookup (event.bucketKey kind) with
    | none => rfl
    | some bucket =>
      obtain ⟨first, -, hkey, -⟩ := hreflects.bucket hlookup
      have hne : ¬ matchesBudget policy now bucket = true := fun hmatch =>
        hkind ((bucketKey_kind hkey).symm.trans (matchesBudget_kind hmatch))
      exact if_neg hne
  have hothers (other : String) (hne : other ≠ event.bucketKey .event) :
      amountAt share (bucketKinds.foldl (fun buckets kind => foldUsageEventIntoBucket buckets event kind)
        store.ledgerBuckets) other = amountAt share store.ledgerBuckets other := by
    by_cases hbucket : ∃ kind, other = event.bucketKey kind
    · obtain ⟨kind, rfl⟩ := hbucket
      have hnot : kind ≠ .event := fun heq => hne (heq ▸ rfl)
      rw [hkind hrecorded hnot, hkind hledger hnot]
    · unfold amountAt
      rw [lookup_fold_ne event fun kind _ heq => hbucket ⟨kind, heq⟩]
  have hbefore : amountAt share store.ledgerBuckets (event.bucketKey .event) = share (takingBucket store event) := by
    unfold amountAt takingBucket
    cases store.ledgerBuckets.lookup (event.bucketKey .event) with
    | some bucket => rfl
    | none =>
      have hopened : runtimeBudgetBucketValue policy (.opened event .event) = 0 := by
        unfold runtimeBudgetBucketValue
        cases policy.limitKind <;> rfl
      simp only [Option.map_none, Option.getD_none, share, hopened, ite_self]
  have hafter : amountAt share (bucketKinds.foldl (fun buckets kind => foldUsageEventIntoBucket buckets event kind)
      store.ledgerBuckets) (event.bucketKey .event) = share ((takingBucket store event).add event) := by
    unfold amountAt
    rw [lookup_fold_self event (by decide) (mem_bucketKinds .event)]
    rfl
  have hchanged := total_changed hothers
  rw [hbefore, hafter] at hchanged
  have hsame : matchesBudget policy now ((takingBucket store event).add event) =
      matchesBudget policy now (takingBucket store event) := rfl
  have htotal : budgetTotal policy ⟨store.usageEvents ++ [event], bucketKinds.foldl
      (fun buckets kind => foldUsageEventIntoBucket buckets event kind) store.ledgerBuckets⟩ now +
        share (takingBucket store event) =
      budgetTotal policy store now + share ((takingBucket store event).add event) := hchanged
  simp only [share, hsame] at htotal
  by_cases hmatch : matchesBudget policy now (takingBucket store event) = true
  · rw [if_pos hmatch, if_pos hmatch] at htotal
    rw [if_pos hmatch]
    omega
  · rw [if_neg hmatch, if_neg hmatch] at htotal
    rw [if_neg hmatch]
    omega

/-- The event adds its worth to the ledger value exactly when it is charged. -/
theorem budgetLedgerValue_charged (hledger : LedgerReflects store.usageEvents store.ledgerBuckets)
    (hfits : ChargeFits policy store event) :
    budgetLedgerValue policy store event.occurredAt = budgetTotal policy store event.occurredAt ∧
    (Charged policy store event → budgetLedgerValue policy (store.recordUsageEvent event) event.occurredAt =
      budgetLedgerValue policy store event.occurredAt + budgetWorth policy event.counters) ∧
    (¬ Charged policy store event → budgetLedgerValue policy (store.recordUsageEvent event) event.occurredAt =
      budgetLedgerValue policy store event.occurredAt) := by
  obtain ⟨hbefore, hcharge⟩ := hfits
  have hvalue : budgetLedgerValue policy store event.occurredAt = budgetTotal policy store event.occurredAt := by
    rw [budgetLedgerValue_eq_wrap, wrap_of_bounds hbefore.1 hbefore.2]
  refine ⟨hvalue, fun hcharged => ?_, fun hcharged => ?_⟩
  · obtain ⟨hbucket, hafter⟩ := hcharge hcharged
    have htotal := budgetTotal_recorded policy hledger hcharged.1 event.occurredAt
    rw [if_pos hcharged.2, hbucket, add_sub_cancel_left] at htotal
    rw [hvalue, budgetLedgerValue_eq_wrap, htotal, wrap_of_bounds hafter.1 hafter.2]
  · cases hdup : UsageStore.isDuplicate store.usageEvents event with
    | true => rw [recordUsageEvent_duplicate hdup]
    | false =>
      have hother : ¬ matchesBudget policy event.occurredAt (takingBucket store event) = true := fun hmatch =>
        hcharged ⟨hdup, hmatch⟩
      have htotal := budgetTotal_recorded policy hledger hdup event.occurredAt
      rw [if_neg hother, add_zero] at htotal
      rw [budgetLedgerValue_eq_wrap, budgetLedgerValue_eq_wrap, htotal]

end Ledger

section Steps

variable {policies : List NotifiedBudgetPolicyRecord} {policy : NotifiedBudgetPolicyRecord} {store : UsageStore}
  {actor : AuthenticatedActor} {input : TerminalUsageInput}

theorem thresholdReports_of_policy (hids : (policies.map (·.budgetPolicyId)).Nodup) (hpolicy : policy ∈ policies)
    (store : UsageStore) (response : Response) :
    (thresholdReports policies store response).filter (fun report => report.policy = policy) =
      if CoversResponse policy.toBudgetPolicyRecord response then
        thresholdEvents ((recordTerminalUsageEvent store response.1 response.2).ledgerBucketsForTenant
          response.1.tenantId) response.2 (terminalUsageEvent response.1 response.2).usagePayload
          (terminalUsageEvent response.1 response.2).costPayload policy
      else [] := by
  have hnodup : (notifiedPoliciesForTenant policies response.1.tenantId).Nodup :=
    (sortBy_perm _ _).nodup_iff.mpr (hids.of_map.filter _)
  have hcovers : policy ∈ (notifiedPoliciesForTenant policies response.1.tenantId).filter (fun policy =>
      policy.status == .active &&
        runtimeBudgetPolicyMatchesRequest policy.toBudgetPolicyRecord response.1 (some response.2.selected)) ↔
      CoversResponse policy.toBudgetPolicyRecord response := by
    simp only [List.mem_filter, mem_notifiedPoliciesForTenant, hpolicy, true_and, Bool.and_eq_true, beq_iff_eq, CoversResponse]
  unfold thresholdReports finalizeRuntimeBudgetTerminal
  rw [filter_flatMap_key thresholdEvents_policy (hnodup.filter _)]
  simp only [hcovers]

/-- The response is worth to the policy what its event adds to the buckets. -/
theorem runtimeBudgetTerminalValue_worth {response : Response}
    (htokens : policy.limitKind = .tokens → max (terminalUsageTokenCount
      (terminalUsageEvent response.1 response.2).usagePayload) 0 =
        budgetWorth policy.toBudgetPolicyRecord (terminalUsageEvent response.1 response.2).counters) :
    max (runtimeBudgetTerminalValue policy.toBudgetPolicyRecord (terminalUsageEvent response.1 response.2).usagePayload
      (terminalUsageEvent response.1 response.2).costPayload) 0 =
        budgetWorth policy.toBudgetPolicyRecord (terminalUsageEvent response.1 response.2).counters := by
  have hcost := terminalUsageEvent_cost response.1 response.2
  unfold runtimeBudgetTerminalValue budgetWorth at *
  cases hkind : policy.limitKind with
  | requests => rfl
  | tokens => simpa only [hkind] using htokens hkind
  | cost => exact max_eq_left hcost
  | concurrency | streamSeconds => rfl

theorem thresholdReports_crossings (hids : (policies.map (·.budgetPolicyId)).Nodup) (hpolicy : policy ∈ policies)
    (hledger : LedgerReflects store.usageEvents store.ledgerBuckets) {response : Response}
    (hfull : ChargedInFull policy.toBudgetPolicyRecord store response) :
    (thresholdReports policies store response).filter (fun report => report.policy = policy) =
      ((runtimeBudgetTerminalThresholds policy).filter fun threshold => Crosses policy.toBudgetPolicyRecord store
        (recordTerminalUsageEvent store response.1 response.2) response.2.endedAt threshold).map fun threshold =>
          ⟨policy, threshold, budgetLedgerValue policy.toBudgetPolicyRecord store response.2.endedAt,
            budgetLedgerValue policy.toBudgetPolicyRecord (recordTerminalUsageEvent store response.1 response.2)
              response.2.endedAt⟩ := by
  obtain ⟨htokens, hcharged, hfits⟩ := hfull
  obtain ⟨hvalue, hadded, hkept⟩ := budgetLedgerValue_charged hledger hfits
  have hstill (hworth : budgetWorth policy.toBudgetPolicyRecord (terminalUsageEvent response.1 response.2).counters = 0 ∨
      ¬ Charged policy.toBudgetPolicyRecord store (terminalUsageEvent response.1 response.2)) :
      (runtimeBudgetTerminalThresholds policy).filter (fun threshold => Crosses policy.toBudgetPolicyRecord store
        (recordTerminalUsageEvent store response.1 response.2) response.2.endedAt threshold) = [] := by
    have hsame : budgetLedgerValue policy.toBudgetPolicyRecord (recordTerminalUsageEvent store response.1 response.2)
        response.2.endedAt = budgetLedgerValue policy.toBudgetPolicyRecord store response.2.endedAt := by
      by_cases hcase : Charged policy.toBudgetPolicyRecord store (terminalUsageEvent response.1 response.2)
      · have hzero := hworth.resolve_right fun hnot => hnot hcase
        exact (hadded hcase).trans (by rw [hzero, add_zero]; rfl)
      · exact hkept hcase
    refine List.filter_eq_nil_iff.mpr fun threshold _ hcross => ?_
    obtain ⟨hbelow, habove⟩ := of_decide_eq_true hcross
    omega
  rw [thresholdReports_of_policy hids hpolicy]
  by_cases hcovers : CoversResponse policy.toBudgetPolicyRecord response
  · rw [if_pos hcovers]
    have hworth := runtimeBudgetTerminalValue_worth fun hkind => htokens hkind hcovers
    unfold thresholdEvents
    dsimp only
    split
    · rename_i hnone
      rw [hstill (.inl (by omega)), List.map_nil]
    · rename_i hsome
      have hcharge := (hcharged (by omega)).mpr hcovers
      have hafter := hadded hcharge
      have hcurrent : runtimeBudgetCurrent policy.toBudgetPolicyRecord ((recordTerminalUsageEvent store response.1
          response.2).ledgerBucketsForTenant response.1.tenantId) response.2.endedAt =
          budgetLedgerValue policy.toBudgetPolicyRecord (recordTerminalUsageEvent store response.1 response.2)
            response.2.endedAt := by
        rw [budgetLedgerValue, hcovers.1]
      have hprevious : saturatingSub (budgetLedgerValue policy.toBudgetPolicyRecord
          (recordTerminalUsageEvent store response.1 response.2) response.2.endedAt)
          (runtimeBudgetTerminalValue policy.toBudgetPolicyRecord (terminalUsageEvent response.1 response.2).usagePayload
            (terminalUsageEvent response.1 response.2).costPayload) =
          budgetLedgerValue policy.toBudgetPolicyRecord store response.2.endedAt := by
        have hbounds : InI64 (budgetLedgerValue policy.toBudgetPolicyRecord store response.2.endedAt) :=
          hvalue ▸ hfits.1
        have hsum : budgetLedgerValue policy.toBudgetPolicyRecord (recordTerminalUsageEvent store response.1 response.2)
            response.2.endedAt = budgetLedgerValue policy.toBudgetPolicyRecord store response.2.endedAt +
              budgetWorth policy.toBudgetPolicyRecord (terminalUsageEvent response.1 response.2).counters := hafter
        unfold saturatingSub
        unfold InI64 at hbounds
        omega
      rw [hcurrent, hprevious]
      rfl
  · rw [if_neg hcovers, hstill, List.map_nil]
    by_cases hzero : budgetWorth policy.toBudgetPolicyRecord (terminalUsageEvent response.1 response.2).counters = 0
    · exact .inl hzero
    · exact .inr fun hcharge => hcovers ((hcharged hzero).mp hcharge)

theorem reportsCrossings_of_full (hids : (policies.map (·.budgetPolicyId)).Nodup) (hpolicy : policy ∈ policies)
    {notices : BudgetNotices} (hledger : LedgerReflects notices.store.usageEvents notices.store.ledgerBuckets)
    {response : Response} (hfull : ChargedInFull policy.toBudgetPolicyRecord notices.store response) :
    ReportsCrossings policies policy notices response := by
  intro threshold hthreshold
  have hreports := thresholdReports_crossings hids hpolicy hledger hfull
  have hreported : (∃ report ∈ thresholdReports policies notices.store response,
      report.policy = policy ∧ report.threshold = threshold) ↔
      ∃ report ∈ (thresholdReports policies notices.store response).filter (fun report => report.policy = policy),
        report.threshold = threshold := by
    simp only [List.mem_filter, decide_eq_true_eq, and_assoc]
  rw [hreported, hreports]
  simp only [List.mem_map, List.mem_filter, decide_eq_true_eq]
  constructor
  · rintro ⟨report, ⟨crossed, ⟨-, hcross⟩, rfl⟩, rfl⟩
    exact hcross
  · intro hcross
    exact ⟨_, ⟨threshold, ⟨hthreshold, hcross⟩, rfl⟩, rfl⟩

theorem reportCount_append (left right : List RuntimeBudgetThresholdEvent) (threshold : RuntimeBudgetThreshold) :
    reportCount (left ++ right) policy threshold =
      reportCount left policy threshold + reportCount right policy threshold := by
  rw [reportCount, List.filter_append, List.length_append]
  rfl

theorem reportCount_crossings (hids : (policies.map (·.budgetPolicyId)).Nodup) (hpolicy : policy ∈ policies)
    (hledger : LedgerReflects store.usageEvents store.ledgerBuckets) {response : Response}
    (hfull : ChargedInFull policy.toBudgetPolicyRecord store response) {threshold : RuntimeBudgetThreshold}
    (hthreshold : threshold ∈ runtimeBudgetTerminalThresholds policy) :
    reportCount (thresholdReports policies store response) policy threshold =
      if Crosses policy.toBudgetPolicyRecord store (recordTerminalUsageEvent store response.1 response.2)
        response.2.endedAt threshold then 1 else 0 := by
  have hreports := thresholdReports_crossings hids hpolicy hledger hfull
  have hfilter : (thresholdReports policies store response).filter
      (fun report => report.policy = policy ∧ report.threshold = threshold) =
      ((thresholdReports policies store response).filter (fun report => report.policy = policy)).filter
        fun report => report.threshold = threshold := by
    simp only [List.filter_filter, Bool.decide_and, Bool.and_comm]
  have hnodup := (runtimeBudgetTerminalThresholds_nodup policy).filter fun threshold =>
    Crosses policy.toBudgetPolicyRecord store (recordTerminalUsageEvent store response.1 response.2)
      response.2.endedAt threshold
  have hcount := hnodup.count (a := threshold)
  rw [reportCount, hfilter, hreports, List.filter_map, List.length_map, ← List.countP_eq_length_filter]
  simp only [List.mem_filter, hthreshold, true_and, decide_eq_true_eq] at hcount
  rw [← hcount, List.count]
  refine List.countP_congr fun crossed _ => ?_
  simp

theorem budgetLedgerValue_mono (hledger : LedgerReflects store.usageEvents store.ledgerBuckets) {response : Response}
    (hfull : ChargedInFull policy.toBudgetPolicyRecord store response) :
    budgetLedgerValue policy.toBudgetPolicyRecord store response.2.endedAt ≤
      budgetLedgerValue policy.toBudgetPolicyRecord (recordTerminalUsageEvent store response.1 response.2)
        response.2.endedAt := by
  obtain ⟨htokens, hcharged, hfits⟩ := hfull
  obtain ⟨-, hadded, hkept⟩ := budgetLedgerValue_charged hledger hfits
  by_cases hcharge : Charged policy.toBudgetPolicyRecord store (terminalUsageEvent response.1 response.2)
  · have hsum : budgetLedgerValue policy.toBudgetPolicyRecord (recordTerminalUsageEvent store response.1 response.2)
        response.2.endedAt = budgetLedgerValue policy.toBudgetPolicyRecord store response.2.endedAt +
          budgetWorth policy.toBudgetPolicyRecord (terminalUsageEvent response.1 response.2).counters := hadded hcharge
    by_cases hzero : budgetWorth policy.toBudgetPolicyRecord (terminalUsageEvent response.1 response.2).counters = 0
    · omega
    · have hworth := runtimeBudgetTerminalValue_worth fun hkind => htokens hkind ((hcharged hzero).mp hcharge)
      omega
  · exact (hkept hcharge).ge

/-- From one state to a later one: the ledger value rises, and each threshold is reported as often as it is crossed. -/
def CountsCrossings (policy : NotifiedBudgetPolicyRecord) (now : DateTime) (before after : BudgetNotices) : Prop :=
  budgetLedgerValue policy.toBudgetPolicyRecord before.store now ≤
    budgetLedgerValue policy.toBudgetPolicyRecord after.store now ∧
  ∀ threshold ∈ runtimeBudgetTerminalThresholds policy,
    reportCount after.reports policy threshold = reportCount before.reports policy threshold +
      if Crosses policy.toBudgetPolicyRecord before.store after.store now threshold then 1 else 0

theorem CountsCrossings.refl (policy : NotifiedBudgetPolicyRecord) (now : DateTime) (notices : BudgetNotices) :
    CountsCrossings policy now notices notices := by
  refine ⟨le_refl _, fun threshold _ => ?_⟩
  have hnot : ¬ Crosses policy.toBudgetPolicyRecord notices.store notices.store now threshold := fun hcross =>
    absurd (hcross.1.trans_le hcross.2) (lt_irrefl _)
  rw [if_neg hnot, add_zero]

theorem CountsCrossings.trans {now : DateTime} {first second third : BudgetNotices}
    (hleft : CountsCrossings policy now first second) (hright : CountsCrossings policy now second third) :
    CountsCrossings policy now first third := by
  obtain ⟨hrise, hcount⟩ := hleft
  obtain ⟨hrise', hcount'⟩ := hright
  refine ⟨hrise.trans hrise', fun threshold hthreshold => ?_⟩
  rw [hcount' threshold hthreshold, hcount threshold hthreshold, add_assoc]
  rcases le_or_gt threshold.value (budgetLedgerValue policy.toBudgetPolicyRecord second.store now) with hreached | hbelow
  · have hlater : ¬ Crosses policy.toBudgetPolicyRecord second.store third.store now threshold := fun hcross =>
      absurd hcross.1 (not_lt.mpr hreached)
    have hfirst : Crosses policy.toBudgetPolicyRecord first.store third.store now threshold ↔
        Crosses policy.toBudgetPolicyRecord first.store second.store now threshold :=
      ⟨fun hcross => ⟨hcross.1, hreached⟩, fun hcross => ⟨hcross.1, hreached.trans hrise'⟩⟩
    simp only [hfirst, hlater, if_false, add_zero]
  · have hearlier : ¬ Crosses policy.toBudgetPolicyRecord first.store second.store now threshold := fun hcross =>
      absurd hcross.2 (not_le.mpr hbelow)
    have hsecond : Crosses policy.toBudgetPolicyRecord first.store third.store now threshold ↔
        Crosses policy.toBudgetPolicyRecord second.store third.store now threshold :=
      ⟨fun hcross => ⟨hbelow, hcross.2⟩, fun hcross => ⟨hrise.trans_lt hcross.1, hcross.2⟩⟩
    simp only [hsecond, hearlier, if_false, zero_add]

theorem terminalStep_counts (hids : (policies.map (·.budgetPolicyId)).Nodup) (hpolicy : policy ∈ policies)
    {notices next : BudgetNotices} (hledger : LedgerReflects notices.store.usageEvents notices.store.ledgerBuckets)
    {response : Response} {now : DateTime}
    (hperiod : budgetPeriod policy.toBudgetPolicyRecord response.2.endedAt = budgetPeriod policy.toBudgetPolicyRecord now)
    (hfull : ChargedInFull policy.toBudgetPolicyRecord notices.store response)
    (hnext : terminalStep policies notices response = some next) :
    LedgerReflects next.store.usageEvents next.store.ledgerBuckets ∧ CountsCrossings policy now notices next := by
  cases hnext
  have hrise := budgetLedgerValue_mono hledger hfull
  refine ⟨recordUsageEvent_reflects hledger _, ?_, fun threshold hthreshold => ?_⟩
  · rwa [budgetLedgerValue_of_period hperiod, budgetLedgerValue_of_period hperiod] at hrise
  · have hcount := reportCount_crossings hids hpolicy hledger hfull hthreshold
    have hcrosses (before after : UsageStore) : Crosses policy.toBudgetPolicyRecord before after response.2.endedAt
        threshold ↔ Crosses policy.toBudgetPolicyRecord before after now threshold := by
      unfold Crosses
      rw [budgetLedgerValue_of_period hperiod, budgetLedgerValue_of_period hperiod]
    simp only [hcrosses] at hcount
    rw [reportCount_append, hcount]

end Steps

/-- In one period, each threshold is reported where it is crossed, and once, as long as the covered responses are
charged in full. -/
theorem thresholds_reportedOnce {policies : List NotifiedBudgetPolicyRecord} {policy : NotifiedBudgetPolicyRecord}
    (hids : (policies.map (·.budgetPolicyId)).Nodup) (hpolicy : policy ∈ policies) {store : UsageStore}
    (hledger : LedgerReflects store.usageEvents store.ledgerBuckets) {responses : List Response} {now : DateTime}
    (hmeets : Meets (terminalStep policies) (fun notices response =>
      budgetPeriod policy.toBudgetPolicyRecord response.2.endedAt = budgetPeriod policy.toBudgetPolicyRecord now ∧
        ChargedInFull policy.toBudgetPolicyRecord notices.store response) (.start store) responses) :
    Meets (terminalStep policies) (ReportsCrossings policies policy) (.start store) responses ∧
    ∀ final, run (terminalStep policies) (.start store) responses = some final →
      ∀ threshold ∈ runtimeBudgetTerminalThresholds policy, reportCount final.reports policy threshold =
        if Crosses policy.toBudgetPolicyRecord store final.store now threshold then 1 else 0 := by
  have hstep (notices : BudgetNotices) (response : Response) (next : BudgetNotices)
      (hreflects : LedgerReflects notices.store.usageEvents notices.store.ledgerBuckets)
      (hcondition : budgetPeriod policy.toBudgetPolicyRecord response.2.endedAt =
        budgetPeriod policy.toBudgetPolicyRecord now ∧
          ChargedInFull policy.toBudgetPolicyRecord notices.store response)
      (hnext : terminalStep policies notices response = some next) :
      LedgerReflects next.store.usageEvents next.store.ledgerBuckets ∧ CountsCrossings policy now notices next :=
    terminalStep_counts hids hpolicy hreflects hcondition.1 hcondition.2 hnext
  refine ⟨?_, fun final hrun threshold hthreshold => ?_⟩
  · refine hmeets.imp_of_invariant (fun notices response next hreflects hcondition hnext =>
      (hstep notices response next hreflects hcondition hnext).1) ?_ hledger
    intro notices response hreflects hcondition
    exact reportsCrossings_of_full hids hpolicy hreflects hcondition.2
  · have hcounts := (run_relates (CountsCrossings.refl policy now) CountsCrossings.trans hstep hledger hmeets hrun).2
    have hcount := hcounts.2 threshold hthreshold
    rwa [BudgetNotices.start, show reportCount [] policy threshold = 0 from rfl, zero_add] at hcount

section Examples

instance (policy : BudgetPolicyRecord) (store : UsageStore) (event : UsageEventRecord) :
    Decidable (ChargeFits policy store event) := by
  unfold ChargeFits InI64
  infer_instance

instance (policy : BudgetPolicyRecord) (store : UsageStore) (response : Response) :
    Decidable (ChargedInFull policy store response) := by
  unfold ChargedInFull
  infer_instance

def notifiedTokens : NotifiedBudgetPolicyRecord where
  toBudgetPolicyRecord := { requestBudget "bud_1" 100 with limitKind := .tokens }
  softLimit := some 10
  thresholds := [20]

def tokensResponse (requestId : String) : Response :=
  ({ tenantActor with requestId }, sampleTerminalInput ("use_" ++ requestId))

/-- A response in the usage block of the Chat protocol, whose counts have names that are not read. -/
def chatResponse (requestId : String) : Response :=
  ({ tenantActor with requestId }, { sampleTerminalInput ("use_" ++ requestId) with
    responseProtocolFamily := .openAiChat
    responseBody := .object [("usage", .object [("prompt_tokens", .number 7), ("completion_tokens", .number 5),
      ("total_tokens", .number 12)])] })

def softThreshold : RuntimeBudgetThreshold := ⟨.softLimit, 10⟩

theorem chargedTokens_reportedOnce :
    ∃ final, run (terminalStep [notifiedTokens]) (.start .empty) [tokensResponse "req_1", tokensResponse "req_2"] =
        some final ∧
      softThreshold ∈ runtimeBudgetTerminalThresholds notifiedTokens ∧
      reportCount final.reports notifiedTokens softThreshold = 1 := by
  have hmeets : Meets (terminalStep [notifiedTokens]) (fun notices response =>
      budgetPeriod notifiedTokens.toBudgetPolicyRecord response.2.endedAt =
        budgetPeriod notifiedTokens.toBudgetPolicyRecord ⟨0⟩ ∧
          ChargedInFull notifiedTokens.toBudgetPolicyRecord notices.store response) (.start .empty)
      [tokensResponse "req_1", tokensResponse "req_2"] := by decide +kernel
  have hthreshold : softThreshold ∈ runtimeBudgetTerminalThresholds notifiedTokens := by decide +kernel
  refine ⟨_, rfl, hthreshold, ?_⟩
  rw [(thresholds_reportedOnce (by decide) List.mem_cons_self reflects_empty hmeets).2 _ rfl _ hthreshold]
  exact if_pos (by decide +kernel)

/-- The second response crosses nothing and is reported all the same. -/
theorem chatResponse_reportedTwice :
    ∃ first final, run (terminalStep [notifiedTokens]) (.start .empty) [tokensResponse "req_1"] = some first ∧
      run (terminalStep [notifiedTokens]) (.start .empty) [tokensResponse "req_1", chatResponse "req_2"] = some final ∧
      softThreshold ∈ runtimeBudgetTerminalThresholds notifiedTokens ∧
      ¬ ReportsCrossings [notifiedTokens] notifiedTokens first (chatResponse "req_2") ∧
      reportCount final.reports notifiedTokens softThreshold = 2 := by
  refine ⟨_, _, rfl, rfl, by decide +kernel, fun hreports => ?_, by decide +kernel⟩
  have hcrossed := (hreports softThreshold (by decide +kernel)).mp (by decide +kernel)
  exact absurd hcrossed (by decide +kernel)

end Examples

end Starweaver.Gateway
