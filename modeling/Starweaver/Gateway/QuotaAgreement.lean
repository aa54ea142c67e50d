import Starweaver.Library.Machine
import Starweaver.Gateway.Billing
import Starweaver.Gateway.Reconciler

namespace Starweaver.Gateway

open Library Library.Calendar Library.Counters Library.Machine Library.MachineInt Library.Separated Library.SortBy

/-- A table of quota policies with ids as the gateway makes them. -/
structure QuotaTable where
  policies : List QuotaPolicyRecord
  ids_nodup : (policies.map (·.quotaPolicyId)).Nodup
  barFree : ∀ policy ∈ policies, BarFree policy.tenantId ∧ BarFree policy.quotaPolicyId

/-- A request that has ended; no duration is longer than `i64::MAX` milliseconds. -/
structure CompletedRequest where
  actor : AuthenticatedActor
  input : TerminalUsageInput
  duration_le : input.endedAt.nanos - input.startedAt.nanos ≤ i64Max * 1000000

def CompletedRequest.usageEvent (request : CompletedRequest) : MeasuredUsageEvent :=
  measuredUsageEvent request.actor request.input

/-- The policies of one kind whose counters a completed request raises. -/
def chargedPolicies (quotaPolicies : List QuotaPolicyRecord) (request : CompletedRequest)
    (counterKind : QuotaCounterKind) (incrementSource : QuotaIncrementSource) : List QuotaPolicyRecord :=
  (quotaPoliciesForTenant quotaPolicies request.actor.tenantId).filter fun policy =>
    policy.status == .active && policy.counterKind == counterKind && policy.incrementSource == incrementSource &&
      runtimeQuotaPolicyMatchesRequest policy request.actor request.input.replayCase (some request.input.selected)

def charges (quotaPolicies : List QuotaPolicyRecord) (request : CompletedRequest) (counterKind : QuotaCounterKind)
    (incrementSource : QuotaIncrementSource) (amount : Int) : List (String × Int) :=
  (chargedPolicies quotaPolicies request counterKind incrementSource).map fun policy =>
    (runtimeQuotaCounterKey policy request.input.endedAt, amount)

/-- The adjustments that the end of a request makes, in their order. -/
def quotaAdjustments (quotaPolicies : List QuotaPolicyRecord) (request : CompletedRequest) : List (String × Int) :=
  let tokens := terminalUsageTokenCount request.usageEvent.usagePayload
  (if tokens ≤ 0 then [] else charges quotaPolicies request .tokenActualRate .terminalUsageEvent tokens) ++
    if !request.input.replayCase.streaming then []
    else charges quotaPolicies request .streamDuration .streamStart (runtimeStreamDurationSeconds request.input)

def adjustAll (store : RuntimePolicyStore) (adjustments : List (String × Int)) : RuntimePolicyStore :=
  adjustments.foldl (fun store adjustment => (store.adjustRuntimePolicyCounter adjustment.1 adjustment.2).1) store

/-- What a list of adjustments adds to one counter. -/
def owed (adjustments : List (String × Int)) (key : String) : Int :=
  ((adjustments.filter (·.1 == key)).map (·.2)).sum

def recordMeasuredUsageEvent (usageEvents : List MeasuredUsageEvent) (event : MeasuredUsageEvent) :
    List MeasuredUsageEvent :=
  if UsageStore.isDuplicate (usageEvents.map (·.toUsageEventRecord)) event.toUsageEventRecord then usageEvents
  else usageEvents ++ [event]

structure QuotaUsage where
  usageEvents : List MeasuredUsageEvent
  store : RuntimePolicyStore

namespace QuotaUsage

def empty : QuotaUsage := ⟨[], .empty⟩

def completeRequest (quotaPolicies : List QuotaPolicyRecord) (state : QuotaUsage) (request : CompletedRequest) :
    QuotaUsage :=
  ⟨recordMeasuredUsageEvent state.usageEvents request.usageEvent,
    finalizeRuntimeQuotaTerminal quotaPolicies request.actor request.input request.usageEvent.usagePayload state.store⟩

end QuotaUsage

/-- The durable usage of a policy as the reconciler computes it, from the events of the policy's tenant. -/
def durableUsage (usageEvents : List MeasuredUsageEvent) (policy : QuotaPolicyRecord) (now : DateTime) : Int :=
  runtimeQuotaDurableUsageValueForPolicy policy (usageEvents.filter fun event => event.tenantId == policy.tenantId) now

/-- At every time, the counter of the policy holds its durable usage. -/
def CounterAgrees (policy : QuotaPolicyRecord) (state : QuotaUsage) : Prop :=
  ∀ now, state.store.runtimePolicyCounter (runtimeQuotaCounterKey policy now) = durableUsage state.usageEvents policy now

/-- The policy belongs to the tenant of the request and its scope covers it. -/
def Covers (policy : QuotaPolicyRecord) (request : CompletedRequest) : Prop :=
  policy.tenantId = request.actor.tenantId ∧
    runtimeQuotaPolicyMatchesRequest policy request.actor request.input.replayCase (some request.input.selected) = true

instance (policy : QuotaPolicyRecord) (request : CompletedRequest) : Decidable (Covers policy request) :=
  inferInstanceAs (Decidable (_ ∧ _))

/-- A policy that covers the request is charged what the usage event adds: a dropped event comes with no charge (or one
to a full counter), and a recorded one with a charge by an active policy, to a counter that has room for it. -/
def ChargedAsRecorded (policy : QuotaPolicyRecord) (state : QuotaUsage) (request : CompletedRequest) : Prop :=
  Covers policy request →
    let amount := runtimeQuotaDurableUsageEventValue policy request.usageEvent
    let counter := state.store.runtimePolicyCounter (runtimeQuotaCounterKey policy request.input.endedAt)
    if UsageStore.isDuplicate (state.usageEvents.map (·.toUsageEventRecord)) request.usageEvent.toUsageEventRecord then
      amount ≤ 0 ∨ policy.status ≠ .active ∨ counter = i64Max
    else amount = 0 ∨ 0 < amount ∧ policy.status = .active ∧ counter + amount ≤ i64Max

/-- A request that the policy covers has its event recorded, with a value that the counter has room for. -/
def RecordedInFull (policy : QuotaPolicyRecord) (state : QuotaUsage) (request : CompletedRequest) : Prop :=
  Covers policy request →
    UsageStore.isDuplicate (state.usageEvents.map (·.toUsageEventRecord)) request.usageEvent.toUsageEventRecord = false ∧
      0 ≤ runtimeQuotaDurableUsageEventValue policy request.usageEvent ∧
      state.store.runtimePolicyCounter (runtimeQuotaCounterKey policy request.input.endedAt) +
        runtimeQuotaDurableUsageEventValue policy request.usageEvent ≤ i64Max

section Matching

theorem measuredEvent_matches (policy : QuotaPolicyRecord) (request : CompletedRequest) :
    runtimeQuotaUsageEventMatchesPolicy policy request.usageEvent.toUsageEventRecord =
      runtimeQuotaPolicyMatchesRequest policy request.actor request.input.replayCase (some request.input.selected) := by
  unfold runtimeQuotaUsageEventMatchesPolicy runtimeQuotaPolicyMatchesRequest
  cases policy.scopeKind with
  | tenant => exact Bool.beq_comm
  | organization => rfl
  | project => rfl
  | credential => rfl
  | modelAlias => rfl
  | endpoint => rfl
  | protocolFamily => rfl

theorem durableStreamDuration_eq (request : CompletedRequest) :
    durableStreamDurationSeconds request.usageEvent =
      if request.input.replayCase.streaming then runtimeStreamDurationSeconds request.input else 0 := by
  unfold CompletedRequest.usageEvent measuredUsageEvent durableStreamDurationSeconds runtimeStreamDurationSeconds
  generalize request.input.endedAt.nanos - request.input.startedAt.nanos = elapsed
  by_cases hstream : request.input.replayCase.streaming = true
  · simp only [hstream, if_true, Option.getD_some]
    -- a negative duration counts as one second on both sides
    rcases le_or_gt 0 elapsed with hpos | hneg
    · rw [Int.tdiv_eq_ediv_of_nonneg hpos, Int.tdiv_eq_ediv_of_nonneg hpos]
      omega
    · have hmillis : 0 ≤ (-elapsed).tdiv 1000000 := Int.tdiv_nonneg (by omega) (by decide)
      have hseconds : 0 ≤ (-elapsed).tdiv 1000000000 := Int.tdiv_nonneg (by omega) (by decide)
      rw [Int.neg_tdiv] at hmillis hseconds
      omega
  · simp [hstream]

theorem terminalUsageTokenCount_bounds (usagePayload : Json) :
    InI64 (terminalUsageTokenCount usagePayload) := by
  have hzero : InI64 0 := by
    unfold InI64
    decide
  unfold terminalUsageTokenCount
  simp only
  cases htotal : (usagePayload.get "total_tokens").bind Json.asI64 with
  | some total =>
    obtain ⟨value, -, hvalue⟩ := Option.bind_eq_some_iff.mp htotal
    exact Json.asI64_bounds hvalue
  | none =>
    rw [Option.none_or]
    cases (usagePayload.get "input_tokens").bind Json.asI64 with
    | none => exact hzero
    | some input =>
      cases (usagePayload.get "output_tokens").bind Json.asI64 with
      | none => exact hzero
      | some output => exact inI64_saturatingAdd _ _

theorem usageEventValue_le (policy : QuotaPolicyRecord) (request : CompletedRequest) :
    runtimeQuotaDurableUsageEventValue policy request.usageEvent ≤ i64Max := by
  unfold runtimeQuotaDurableUsageEventValue
  split
  · exact (terminalUsageTokenCount_bounds _).2
  · rw [durableStreamDuration_eq]
    split
    · have hduration := request.duration_le
      unfold runtimeStreamDurationSeconds
      rcases le_or_gt 0 (request.input.endedAt.nanos - request.input.startedAt.nanos) with hpos | hneg
      · rw [Int.tdiv_eq_ediv_of_nonneg hpos]
        unfold i64Max at *
        omega
      · have hseconds := Int.tdiv_nonneg (a := -(request.input.endedAt.nanos - request.input.startedAt.nanos))
          (b := 1000000000) (by omega) (by decide)
        rw [Int.neg_tdiv] at hseconds
        unfold i64Max
        omega
    · decide
  · decide

end Matching

section Keys

/-- For a repairable policy, the counters of two times are the same one exactly when an event of the one time is in
the window of the other. -/
theorem counterKey_eq_iff {policy : QuotaPolicyRecord} (hrepair : runtimeQuotaPolicyHasDurableRepairSource policy = true)
    (event : UsageEventRecord) (now : DateTime) :
    runtimeQuotaCounterKey policy event.occurredAt = runtimeQuotaCounterKey policy now ↔
      runtimeQuotaUsageEventMatchesWindow policy event now = true := by
  have hkey : runtimeQuotaCounterKey policy event.occurredAt = runtimeQuotaCounterKey policy now ↔
      runtimeQuotaWindowSlot policy event.occurredAt = runtimeQuotaWindowSlot policy now := by
    constructor
    · intro h
      have hfree : BarFree policy.window.asStr := by cases policy.window <;> decide
      exact (joined_lasts_inj (List.cons_ne_nil policy.tenantId [_, _, _, _])
        (List.cons_ne_nil policy.tenantId [_, _, _, _]) hfree hfree (barFree_windowSlot policy _)
        (barFree_windowSlot policy _) h).2
    · intro h
      unfold runtimeQuotaCounterKey
      rw [h]
  rw [hkey]
  unfold runtimeQuotaWindowSlot runtimeQuotaUsageEventMatchesWindow
  unfold runtimeQuotaPolicyHasDurableRepairSource at hrepair
  cases hwindow : policy.window with
  | fixed => simp
  | sliding => simp
  | ledgerBucket => simp
  | requestLifetime => simp [hwindow] at hrepair
  | streamLifetime => simp [hwindow] at hrepair

variable (table : QuotaTable)

theorem QuotaTable.policy_of_key {policy other : QuotaPolicyRecord} (hp : policy ∈ table.policies)
    (ho : other ∈ table.policies) {now later : DateTime}
    (hkey : runtimeQuotaCounterKey policy now = runtimeQuotaCounterKey other later) : policy = other :=
  List.inj_on_of_nodup_map table.ids_nodup hp ho
    (runtimeQuotaCounterKey_inj (table.barFree policy hp).1 (table.barFree other ho).1
      (table.barFree policy hp).2 (table.barFree other ho).2 hkey)

theorem mem_chargedPolicies {policy : QuotaPolicyRecord} {request : CompletedRequest} {counterKind : QuotaCounterKind}
    {incrementSource : QuotaIncrementSource} :
    policy ∈ chargedPolicies table.policies request counterKind incrementSource ↔ policy ∈ table.policies ∧
      policy.status = .active ∧ policy.counterKind = counterKind ∧ policy.incrementSource = incrementSource ∧
        Covers policy request := by
  unfold chargedPolicies quotaPoliciesForTenant Covers
  simp [mem_sortBy]
  tauto

theorem nodup_chargedPolicies (request : CompletedRequest) (counterKind : QuotaCounterKind)
    (incrementSource : QuotaIncrementSource) :
    (chargedPolicies table.policies request counterKind incrementSource).Nodup := by
  unfold chargedPolicies quotaPoliciesForTenant
  apply List.Nodup.filter
  rw [(sortBy_perm _ _).nodup_iff]
  exact (List.Nodup.of_map _ table.ids_nodup).filter _

end Keys

section Adjustments

theorem finalize_eq_adjustAll {store : RuntimePolicyStore} (havailable : store.runtimePolicyHotStateAvailable = true)
    (quotaPolicies : List QuotaPolicyRecord) (request : CompletedRequest) :
    finalizeRuntimeQuotaTerminal quotaPolicies request.actor request.input request.usageEvent.usagePayload store =
      adjustAll store (quotaAdjustments quotaPolicies request) := by
  have haccumulate (counterKind : QuotaCounterKind) (incrementSource : QuotaIncrementSource) (amount : Int)
      (store : RuntimePolicyStore) : accumulateTerminalQuota quotaPolicies request.actor request.input counterKind
        incrementSource amount store = adjustAll store (charges quotaPolicies request counterKind incrementSource amount) := by
    unfold accumulateTerminalQuota adjustAll charges chargedPolicies
    rw [List.foldl_map]
  unfold finalizeRuntimeQuotaTerminal finalizeRuntimeTokenActualQuotaTerminal
    finalizeRuntimeStreamDurationQuotaTerminal quotaAdjustments
  simp only [havailable, haccumulate, Bool.not_true, Bool.false_eq_true, if_false]
  unfold adjustAll
  rw [List.foldl_append]
  split <;> split <;> rfl

theorem owed_append (first second : List (String × Int)) (key : String) :
    owed (first ++ second) key = owed first key + owed second key := by
  simp [owed]

theorem owed_cons (adjustment : String × Int) (adjustments : List (String × Int)) (key : String) :
    owed (adjustment :: adjustments) key =
      (if adjustment.1 = key then adjustment.2 else 0) + owed adjustments key := by
  unfold owed
  by_cases h : adjustment.1 = key <;> simp [h]

theorem owed_nonneg {adjustments : List (String × Int)} (hpos : ∀ adjustment ∈ adjustments, 0 ≤ adjustment.2)
    (key : String) : 0 ≤ owed adjustments key := by
  apply List.sum_nonneg
  intro amount hamount
  obtain ⟨adjustment, hmem, rfl⟩ := List.mem_map.mp hamount
  exact hpos adjustment (List.mem_filter.mp hmem).1

/-- No counter is negative or out of range. -/
def CountersInRange (store : RuntimePolicyStore) : Prop :=
  ∀ key, 0 ≤ store.runtimePolicyCounter key ∧ store.runtimePolicyCounter key ≤ i64Max

theorem adjust_inRange {store : RuntimePolicyStore} (hrange : CountersInRange store) (key : String) (delta : Int) :
    CountersInRange (store.adjustRuntimePolicyCounter key delta).1 := by
  intro other
  unfold RuntimePolicyStore.runtimePolicyCounter
  rw [RuntimePolicyStore.adjust_counters]
  by_cases h : other = key
  · subst h
    rw [value_adjust_self, adjust_snd]
    have hbounds := inI64_saturatingAdd (value store.runtimeQuotaCounters other) delta
    unfold InI64 i64Max at *
    omega
  · rw [value_adjust_ne _ _ h]
    exact hrange other

theorem counter_adjust {store : RuntimePolicyStore} (hrange : CountersInRange store) (key other : String) {delta : Int}
    (hdelta : 0 ≤ delta) : (store.adjustRuntimePolicyCounter key delta).1.runtimePolicyCounter other =
      saturatingAdd (store.runtimePolicyCounter other) (if key = other then delta else 0) :=
  value_raise store.runtimeQuotaCounters key other hdelta (hrange other).1 (hrange other).2

theorem adjustAll_inRange {store : RuntimePolicyStore} (hrange : CountersInRange store)
    (adjustments : List (String × Int)) : CountersInRange (adjustAll store adjustments) := by
  induction adjustments generalizing store with
  | nil => exact hrange
  | cons adjustment adjustments ih => exact ih (adjust_inRange hrange adjustment.1 adjustment.2)

theorem adjustAll_available (store : RuntimePolicyStore) (adjustments : List (String × Int)) :
    (adjustAll store adjustments).runtimePolicyHotStateAvailable = store.runtimePolicyHotStateAvailable := by
  induction adjustments generalizing store with
  | nil => rfl
  | cons adjustment adjustments ih => exact ih _

theorem counter_adjustAll {store : RuntimePolicyStore} (hrange : CountersInRange store)
    {adjustments : List (String × Int)} (hpos : ∀ adjustment ∈ adjustments, 0 ≤ adjustment.2) (key : String) :
    (adjustAll store adjustments).runtimePolicyCounter key =
      saturatingAdd (store.runtimePolicyCounter key) (owed adjustments key) := by
  induction adjustments generalizing store with
  | nil =>
    obtain ⟨hlow, hhigh⟩ := hrange key
    have hnil : owed [] key = 0 := rfl
    rw [hnil, saturatingAdd_of_le (by unfold i64Min; omega) (by omega), add_zero]
    rfl
  | cons adjustment adjustments ih =>
    obtain ⟨hhead, htail⟩ := List.forall_mem_cons.mp hpos
    have hfirst : 0 ≤ if adjustment.1 = key then adjustment.2 else 0 := by split <;> omega
    have hrest := ih (adjust_inRange hrange adjustment.1 adjustment.2) htail
    rw [counter_adjust hrange _ _ hhead, saturatingAdd_add (hrange key).1 hfirst (owed_nonneg htail key)] at hrest
    rw [owed_cons]
    exact hrest

variable (table : QuotaTable) {policy : QuotaPolicyRecord} (request : CompletedRequest)

theorem owed_charges (hpolicy : policy ∈ table.policies) (counterKind : QuotaCounterKind)
    (incrementSource : QuotaIncrementSource) (amount : Int) (now : DateTime) :
    owed (charges table.policies request counterKind incrementSource amount) (runtimeQuotaCounterKey policy now) =
      if policy ∈ chargedPolicies table.policies request counterKind incrementSource ∧
        runtimeQuotaCounterKey policy request.input.endedAt = runtimeQuotaCounterKey policy now then amount else 0 := by
  unfold owed charges
  rw [List.filter_map, List.map_map]
  have hown {other : QuotaPolicyRecord}
      (hother : other ∈ chargedPolicies table.policies request counterKind incrementSource)
      (hkey : runtimeQuotaCounterKey other request.input.endedAt = runtimeQuotaCounterKey policy now) : other = policy :=
    table.policy_of_key ((mem_chargedPolicies table).mp hother).1 hpolicy hkey
  by_cases hkey : runtimeQuotaCounterKey policy request.input.endedAt = runtimeQuotaCounterKey policy now
  · have hfilter : (chargedPolicies table.policies request counterKind incrementSource).filter
        ((fun adjustment : String × Int => adjustment.1 == runtimeQuotaCounterKey policy now) ∘
          fun other => (runtimeQuotaCounterKey other request.input.endedAt, amount)) =
        (chargedPolicies table.policies request counterKind incrementSource).filter (· == policy) := by
      apply List.filter_congr
      intro other hother
      rw [Bool.eq_iff_iff]
      simp only [Function.comp_apply, beq_iff_eq]
      constructor
      · exact hown hother
      · rintro rfl
        exact hkey
    rw [hfilter, List.filter_beq, (nodup_chargedPolicies table request _ _).count]
    by_cases hmem : policy ∈ chargedPolicies table.policies request counterKind incrementSource <;> simp [hmem, hkey]
  · have hfilter : (chargedPolicies table.policies request counterKind incrementSource).filter
        ((fun adjustment : String × Int => adjustment.1 == runtimeQuotaCounterKey policy now) ∘
          fun other => (runtimeQuotaCounterKey other request.input.endedAt, amount)) = [] := by
      rw [List.filter_eq_nil_iff]
      intro other hother heq
      have hsame := beq_iff_eq.mp heq
      obtain rfl := hown hother hsame
      exact hkey hsame
    rw [hfilter, if_neg fun h => hkey h.2]
    rfl

theorem charged_iff (hpolicy : policy ∈ table.policies)
    (hrepair : runtimeQuotaPolicyHasDurableRepairSource policy = true) :
    (policy ∈ chargedPolicies table.policies request .tokenActualRate .terminalUsageEvent ↔
      policy.counterKind = .tokenActualRate ∧ policy.status = .active ∧ Covers policy request) ∧
    (policy ∈ chargedPolicies table.policies request .streamDuration .streamStart ↔
      policy.counterKind = .streamDuration ∧ policy.status = .active ∧ Covers policy request) ∧
    (policy.counterKind = .tokenActualRate ∨ policy.counterKind = .streamDuration) := by
  rw [mem_chargedPolicies, mem_chargedPolicies]
  unfold runtimeQuotaPolicyHasDurableRepairSource at hrepair
  cases hkind : policy.counterKind <;> cases hsource : policy.incrementSource <;> simp_all

/-- The end of a request raises the counter of an active policy that covers it by the value of its usage event. -/
theorem owed_quotaAdjustments (hpolicy : policy ∈ table.policies)
    (hrepair : runtimeQuotaPolicyHasDurableRepairSource policy = true) (now : DateTime) :
    owed (quotaAdjustments table.policies request) (runtimeQuotaCounterKey policy now) =
      if (policy.status = .active ∧ Covers policy request) ∧
          runtimeQuotaCounterKey policy request.input.endedAt = runtimeQuotaCounterKey policy now then
        max (runtimeQuotaDurableUsageEventValue policy request.usageEvent) 0 else 0 := by
  obtain ⟨htoken, hstream, hkinds⟩ := charged_iff table request hpolicy hrepair
  have hnil : owed [] (runtimeQuotaCounterKey policy now) = 0 := rfl
  unfold quotaAdjustments
  simp only [owed_append, apply_ite (fun adjustments => owed adjustments (runtimeQuotaCounterKey policy now)), hnil,
    owed_charges table request hpolicy, htoken, hstream]
  rcases hkinds with hkind | hkind
  · simp only [hkind, runtimeQuotaDurableUsageEventValue, reduceCtorEq, true_and, false_and, if_false, ite_self, add_zero]
    split
    · rename_i htokens
      rw [max_eq_right htokens, ite_self]
    · rename_i htokens
      rw [max_eq_left (by omega)]
  · simp only [hkind, runtimeQuotaDurableUsageEventValue, reduceCtorEq, true_and, false_and, if_false, ite_self, zero_add,
      durableStreamDuration_eq]
    by_cases hstreaming : request.input.replayCase.streaming = true
    · have hseconds : 0 ≤ runtimeStreamDurationSeconds request.input := by
        unfold runtimeStreamDurationSeconds
        omega
      simp [hstreaming, max_eq_left hseconds]
    · simp [hstreaming]

theorem quotaAdjustments_nonneg (quotaPolicies : List QuotaPolicyRecord) :
    ∀ adjustment ∈ quotaAdjustments quotaPolicies request, 0 ≤ adjustment.2 := by
  intro adjustment hmem
  unfold quotaAdjustments charges at hmem
  simp only at hmem
  rcases List.mem_append.mp hmem with htoken | hstream
  · split at htoken
    · cases htoken
    · obtain ⟨policy, -, rfl⟩ := List.mem_map.mp htoken
      show 0 ≤ terminalUsageTokenCount _
      omega
  · split at hstream
    · cases hstream
    · obtain ⟨policy, -, rfl⟩ := List.mem_map.mp hstream
      show 0 ≤ runtimeStreamDurationSeconds request.input
      unfold runtimeStreamDurationSeconds
      omega

end Adjustments

section Durable

variable {policy : QuotaPolicyRecord} (request : CompletedRequest) (usageEvents : List MeasuredUsageEvent)

theorem durableUsage_append (event : MeasuredUsageEvent) (now : DateTime) :
    durableUsage (usageEvents ++ [event]) policy now = wrap (durableUsage usageEvents policy now +
      if event.tenantId = policy.tenantId ∧ durableUsageEventMatches policy now event = true then
        runtimeQuotaDurableUsageEventValue policy event else 0) := by
  unfold durableUsage runtimeQuotaDurableUsageValueForPolicy
  simp only [wrapSum_eq, List.filter_append, List.map_append, List.sum_append, wrap_wrap_add]
  congr 2
  by_cases htenant : event.tenantId = policy.tenantId
  · by_cases hmatches : durableUsageEventMatches policy now event = true <;> simp [htenant, hmatches]
  · simp [htenant]

theorem durableUsage_inI64 (policy : QuotaPolicyRecord) (now : DateTime) : InI64 (durableUsage usageEvents policy now) := by
  unfold durableUsage runtimeQuotaDurableUsageValueForPolicy
  rw [wrapSum_eq]
  exact wrap_bounds _

/-- What the recorded event of a request adds to the durable usage of a policy. -/
theorem durableUsage_record (hrepair : runtimeQuotaPolicyHasDurableRepairSource policy = true) (now : DateTime) :
    durableUsage (recordMeasuredUsageEvent usageEvents request.usageEvent) policy now =
      wrap (durableUsage usageEvents policy now +
        if UsageStore.isDuplicate (usageEvents.map (·.toUsageEventRecord)) request.usageEvent.toUsageEventRecord = false ∧
          Covers policy request ∧
            runtimeQuotaCounterKey policy request.input.endedAt = runtimeQuotaCounterKey policy now then
          runtimeQuotaDurableUsageEventValue policy request.usageEvent else 0) := by
  unfold recordMeasuredUsageEvent
  split
  · rename_i hduplicate
    obtain ⟨hlow, hhigh⟩ := durableUsage_inI64 usageEvents policy now
    rw [if_neg (by simp [hduplicate]), add_zero, wrap_of_bounds hlow hhigh]
  · rename_i hnew
    rw [durableUsage_append]
    congr 3
    have hwindow := counterKey_eq_iff hrepair request.usageEvent.toUsageEventRecord now
    have htime : request.usageEvent.occurredAt = request.input.endedAt := rfl
    have htenant : request.usageEvent.tenantId = request.actor.tenantId := rfl
    have hstatus : (request.usageEvent.status == .success) = true := rfl
    rw [htime] at hwindow
    unfold durableUsageEventMatches Covers
    simp only [hwindow, htenant, hstatus, measuredEvent_matches, Bool.true_and, Bool.and_eq_true, hnew,
      true_and, eq_comm (a := policy.tenantId), and_assoc]

end Durable

section Agreement

variable {table : QuotaTable} {state : QuotaUsage} {policy : QuotaPolicyRecord} (request : CompletedRequest)

/-- A saturating charge of one amount and a wrapping record of another keep a counter and a sum together. -/
theorem charge_eq_record_iff {counter amount : Int} (hlow : 0 ≤ counter) (hhigh : counter ≤ i64Max)
    (hamount : amount ≤ i64Max) (hamount' : i64Min ≤ amount) (active duplicate : Bool) :
    saturatingAdd counter (if active then max amount 0 else 0) =
        wrap (counter + if duplicate then 0 else amount) ↔
      if duplicate then amount ≤ 0 ∨ active = false ∨ counter = i64Max
      else amount = 0 ∨ 0 < amount ∧ active = true ∧ counter + amount ≤ i64Max := by
  have hzero : saturatingAdd counter 0 = counter := by
    rw [saturatingAdd_of_le] <;> unfold i64Min at * <;> omega
  have hself : wrap counter = counter := wrap_of_bounds (by unfold i64Min; omega) hhigh
  cases duplicate with
  | true =>
    cases active with
    | true =>
      simp only [if_true, add_zero, hself, Bool.true_eq_false, false_or]
      unfold saturatingAdd i64Min i64Max at *
      omega
    | false => simp [hzero, hself]
  | false =>
    rcases lt_trichotomy amount 0 with hneg | rfl | hpos
    · have hwrap : wrap (counter + amount) = counter + amount := wrap_of_bounds (by omega) (by omega)
      have hcharge : (if active = true then max amount 0 else 0) = 0 := by
        rw [max_eq_right hneg.le, ite_self]
      simp only [hcharge, hzero, hwrap, Bool.false_eq_true, if_false]
      omega
    · simp [hzero, hself]
    · cases active with
      | true =>
        simp only [if_true, Bool.false_eq_true, if_false, max_eq_left hpos.le, true_and]
        rw [saturatingAdd_eq_wrap_iff hlow hhigh hpos.le hamount]
        omega
      | false =>
        simp only [Bool.false_eq_true, if_false, hzero, false_and, and_false, or_false]
        constructor
        · intro h
          rcases le_or_gt (counter + amount) i64Max with hroom | hover
          · rw [wrap_of_bounds (by unfold i64Min; omega) hroom] at h
            omega
          · rw [wrap_of_gt hover (by omega)] at h
            unfold i64Max at *
            omega
        · intro h
          omega

theorem usageEventValue_ge (policy : QuotaPolicyRecord) :
    i64Min ≤ runtimeQuotaDurableUsageEventValue policy request.usageEvent := by
  unfold runtimeQuotaDurableUsageEventValue
  split
  · exact (terminalUsageTokenCount_bounds _).1
  · unfold durableStreamDurationSeconds i64Min
    split <;> omega
  · decide

/-- The hot state is there and its counters are numbers the code can hold. -/
structure HotStateReady (state : QuotaUsage) : Prop where
  available : state.store.runtimePolicyHotStateAvailable = true
  inRange : CountersInRange state.store

theorem HotStateReady.complete (hready : HotStateReady state) (quotaPolicies : List QuotaPolicyRecord) :
    HotStateReady (state.completeRequest quotaPolicies request) := by
  unfold QuotaUsage.completeRequest
  rw [finalize_eq_adjustAll hready.available]
  constructor
  · show (adjustAll _ _).runtimePolicyHotStateAvailable = true
    rw [adjustAll_available, hready.available]
  · exact adjustAll_inRange hready.inRange _

theorem counter_complete (hready : HotStateReady state) (hpolicy : policy ∈ table.policies)
    (hrepair : runtimeQuotaPolicyHasDurableRepairSource policy = true) (now : DateTime) :
    (state.completeRequest table.policies request).store.runtimePolicyCounter (runtimeQuotaCounterKey policy now) =
      saturatingAdd (state.store.runtimePolicyCounter (runtimeQuotaCounterKey policy now))
        (if (policy.status = .active ∧ Covers policy request) ∧
            runtimeQuotaCounterKey policy request.input.endedAt = runtimeQuotaCounterKey policy now then
          max (runtimeQuotaDurableUsageEventValue policy request.usageEvent) 0 else 0) := by
  unfold QuotaUsage.completeRequest
  rw [finalize_eq_adjustAll hready.available, ← owed_quotaAdjustments table request hpolicy hrepair]
  exact counter_adjustAll hready.inRange (quotaAdjustments_nonneg request table.policies) _

/-- A request keeps the counter of a policy at its durable usage exactly when it is charged as it is recorded. -/
theorem counterAgrees_complete_iff (hready : HotStateReady state) (hagree : CounterAgrees policy state)
    (hpolicy : policy ∈ table.policies) (hrepair : runtimeQuotaPolicyHasDurableRepairSource policy = true) :
    CounterAgrees policy (state.completeRequest table.policies request) ↔ ChargedAsRecorded policy state request := by
  unfold CounterAgrees ChargedAsRecorded
  have hevents : (state.completeRequest table.policies request).usageEvents =
    recordMeasuredUsageEvent state.usageEvents request.usageEvent := rfl
  simp only [counter_complete request hready hpolicy hrepair, hevents, durableUsage_record request _ hrepair,
    ← hagree _]
  have hcharge := charge_eq_record_iff (hready.inRange (runtimeQuotaCounterKey policy request.input.endedAt)).1
    (hready.inRange (runtimeQuotaCounterKey policy request.input.endedAt)).2 (usageEventValue_le policy request)
    (usageEventValue_ge request policy) (policy.status == .active)
    (UsageStore.isDuplicate (state.usageEvents.map (·.toUsageEventRecord)) request.usageEvent.toUsageEventRecord)
  simp only [beq_iff_eq, beq_eq_false_iff_ne] at hcharge
  constructor
  · intro hall hcovers
    have hown := hall request.input.endedAt
    simp only [hcovers, and_true] at hown
    refine hcharge.mp ?_
    rw [hown]
    cases UsageStore.isDuplicate _ _ <;> simp
  · intro hcounted now
    obtain ⟨hlow, hhigh⟩ := hready.inRange (runtimeQuotaCounterKey policy now)
    by_cases hmoved : Covers policy request ∧
        runtimeQuotaCounterKey policy request.input.endedAt = runtimeQuotaCounterKey policy now
    · obtain ⟨hcovers, hkey⟩ := hmoved
      have hown := hcharge.mpr (hcounted hcovers)
      simp only [hcovers, ← hkey, and_true]
      rw [hown]
      cases UsageStore.isDuplicate _ _ <;> simp
    · rw [if_neg fun h => hmoved ⟨h.1.2, h.2⟩, if_neg fun h => hmoved h.2, add_zero, saturatingAdd_of_le,
        wrap_of_bounds, add_zero] <;> unfold i64Min at * <;> omega

theorem hotStateReady_empty : HotStateReady .empty := by
  refine ⟨rfl, fun key => ?_⟩
  show 0 ≤ (0 : Int) ∧ (0 : Int) ≤ i64Max
  decide

theorem counterAgrees_empty (policy : QuotaPolicyRecord) : CounterAgrees policy .empty := fun _ => rfl

theorem chargedAsRecorded_of_active (hactive : policy.status = .active) (hrecorded : RecordedInFull policy state request) :
    ChargedAsRecorded policy state request := by
  intro hcovers
  obtain ⟨hnew, hamount, hroom⟩ := hrecorded hcovers
  simp only [hnew, Bool.false_eq_true, if_false]
  rcases hamount.lt_or_eq with hpos | hzero
  · exact Or.inr ⟨hpos, hactive, hroom⟩
  · exact Or.inl hzero.symm

end Agreement

section Runs

variable (table : QuotaTable) {policy : QuotaPolicyRecord} (hpolicy : policy ∈ table.policies)
  (hrepair : runtimeQuotaPolicyHasDurableRepairSource policy = true)

include hpolicy hrepair

/-- The counter of a policy holds its durable usage after every request of a run exactly when each request is charged as
its event is recorded. -/
theorem counterAgrees_always_iff (requests : List CompletedRequest) :
    (∀ prior, prior <+: requests →
      CounterAgrees policy (prior.foldl (QuotaUsage.completeRequest table.policies) .empty)) ↔
    Meets (fun state request => some (state.completeRequest table.policies request)) (ChargedAsRecorded policy) .empty
      requests := by
  have hbase (state : QuotaUsage) (request : CompletedRequest) (hready : HotStateReady state) :
      HotStateReady (state.completeRequest table.policies request) := hready.complete request table.policies
  refine (meets_iff_always hbase ?_ hotStateReady_empty (counterAgrees_empty policy) requests).symm
  intro state request hready hagree
  exact counterAgrees_complete_iff request hready hagree hpolicy hrepair

theorem activeCounter_agrees (hactive : policy.status = .active) (requests : List CompletedRequest)
    (hmeets : Meets (fun state request => some (state.completeRequest table.policies request)) (RecordedInFull policy)
      .empty requests) (now : DateTime) :
    (requests.foldl (QuotaUsage.completeRequest table.policies) .empty).store.runtimePolicyCounter
        (runtimeQuotaCounterKey policy now) =
      durableUsage (requests.foldl (QuotaUsage.completeRequest table.policies) .empty).usageEvents policy now := by
  have hcharged := hmeets.imp fun state request hrecorded => chargedAsRecorded_of_active request hactive hrecorded
  exact (counterAgrees_always_iff table hpolicy hrepair requests).mpr hcharged requests (List.prefix_refl _) now

end Runs

section Samples

def tokenQuota (status : ResourceStatus) : QuotaPolicyRecord :=
  { concurrentRequestQuota with
    counterKind := .tokenActualRate
    window := .fixed
    incrementSource := .terminalUsageEvent
    status := status }

def tokenQuotaTable (status : ResourceStatus) : QuotaTable where
  policies := [tokenQuota status]
  ids_nodup := List.nodup_singleton _
  barFree := by
    intro policy hpolicy
    rw [List.mem_singleton.mp hpolicy]
    show BarFree "tenant_1" ∧ BarFree "qta_1"
    decide

def twelveTokens (requestId : String) : CompletedRequest where
  actor := { tenantActor with requestId := requestId }
  input := sampleTerminalInput requestId
  duration_le := by
    show (0 : Int) - 0 ≤ i64Max * 1000000
    decide

/-- A disabled policy is not charged, while the usage events of its tenant are recorded. -/
theorem disabledCounter_disagrees :
    ¬ ∀ (table : QuotaTable), ∀ policy ∈ table.policies, runtimeQuotaPolicyHasDurableRepairSource policy = true →
      ∀ requests : List CompletedRequest,
        CounterAgrees policy (requests.foldl (QuotaUsage.completeRequest table.policies) .empty) := by
  intro hall
  have hagrees := hall (tokenQuotaTable .disabled) (tokenQuota .disabled) (List.mem_singleton_self _) rfl
    [twelveTokens "request_1"] ⟨0⟩
  exact absurd hagrees (by decide)

theorem twoRequests_agree :
    ((tokenQuota .active).status = .active ∧ runtimeQuotaPolicyHasDurableRepairSource (tokenQuota .active) = true) ∧
    durableUsage ([twelveTokens "request_1", twelveTokens "request_2"].foldl
      (QuotaUsage.completeRequest [tokenQuota .active]) .empty).usageEvents (tokenQuota .active) ⟨0⟩ = 24 ∧
    ([twelveTokens "request_1", twelveTokens "request_2"].foldl
      (QuotaUsage.completeRequest [tokenQuota .active]) .empty).store.runtimePolicyCounter
        (runtimeQuotaCounterKey (tokenQuota .active) ⟨0⟩) = 24 := by
  have hdurable : durableUsage ([twelveTokens "request_1", twelveTokens "request_2"].foldl
      (QuotaUsage.completeRequest [tokenQuota .active]) .empty).usageEvents (tokenQuota .active) ⟨0⟩ = 24 := by decide
  refine ⟨⟨rfl, rfl⟩, hdurable, hdurable ▸ ?_⟩
  apply activeCounter_agrees (tokenQuotaTable .active) (List.mem_singleton_self _) rfl rfl
  refine .cons rfl ?_ (.cons rfl ?_ trivial)
  · intro _
    decide
  · intro _
    decide

end Samples

end Starweaver.Gateway
