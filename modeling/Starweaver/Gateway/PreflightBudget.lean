import Starweaver.Gateway.Preflight

namespace Starweaver.Gateway

open Library.Calendar Library.Checks Library.Counters Library.MachineInt Library.Separated Library.SortBy

def QuotaPolicyRecord.isConcurrency (policy : QuotaPolicyRecord) : Bool :=
  policy.counterKind == .concurrentRequest || policy.counterKind == .concurrentStream

/-- Ids, leases and counters as the gateway creates them: policy ids are distinct, no id has a bar, lease ids are
new, and a counter that the call may raise stands between zero and the largest value. -/
structure PreflightReady (input : PreflightInput) (store : RuntimePolicyStore) : Prop where
  budget_ids : (input.budgetPolicies.map (·.budgetPolicyId)).Nodup
  quota_ids : (input.quotaPolicies.map (·.quotaPolicyId)).Nodup
  ids_apart : ∀ policy ∈ input.budgetPolicies, ∀ quota ∈ input.quotaPolicies,
    policy.budgetPolicyId ≠ quota.quotaPolicyId
  budget_barFree : ∀ policy ∈ input.budgetPolicies, BarFree policy.tenantId ∧ BarFree policy.budgetPolicyId
  quota_barFree : ∀ quota ∈ input.quotaPolicies, BarFree quota.tenantId ∧ BarFree quota.quotaPolicyId
  leases_injective : Function.Injective input.leaseIds
  leases_fresh : ∀ n, store.runtimeBudgetLeases.lookup (input.leaseIds n) = none
  budget_counters : ∀ policy ∈ input.budgetPolicies,
    0 ≤ store.runtimePolicyCounter (runtimeBudgetReservationKey policy input.now) ∧
      store.runtimePolicyCounter (runtimeBudgetReservationKey policy input.now) < i64Max
  quota_counters : ∀ quota ∈ input.quotaPolicies, quota.isConcurrency = true →
    0 ≤ store.runtimePolicyCounter (runtimeQuotaCounterKey quota input.now) ∧
      store.runtimePolicyCounter (runtimeQuotaCounterKey quota input.now) < i64Max
  allowances : ∀ quota ∈ input.quotaPolicies, quota.isConcurrency = true →
    0 ≤ store.runtimePolicyLossAllowanceCounter (runtimeQuotaLossAllowanceKey quota input.now) ∧
      store.runtimePolicyLossAllowanceCounter (runtimeQuotaLossAllowanceKey quota input.now) < i64Max

theorem PreflightReady.budgetId_of_key {input : PreflightInput} {store : RuntimePolicyStore}
    (hready : PreflightReady input store) {policy other : BudgetPolicyRecord} (hp : policy ∈ input.budgetPolicies)
    (ho : other ∈ input.budgetPolicies) {now later : DateTime}
    (hkey : runtimeBudgetReservationKey policy now = runtimeBudgetReservationKey other later) :
    policy.budgetPolicyId = other.budgetPolicyId :=
  runtimeBudgetReservationKey_inj (hready.budget_barFree policy hp).1 (hready.budget_barFree other ho).1
    (hready.budget_barFree policy hp).2 (hready.budget_barFree other ho).2 hkey

theorem PreflightReady.quota_of_key {input : PreflightInput} {store : RuntimePolicyStore}
    (hready : PreflightReady input store) {quota other : QuotaPolicyRecord} (hq : quota ∈ input.quotaPolicies)
    (ho : other ∈ input.quotaPolicies) {now later : DateTime}
    (hkey : runtimeQuotaCounterKey quota now = runtimeQuotaCounterKey other later) : quota = other :=
  List.inj_on_of_nodup_map hready.quota_ids hq ho
    (runtimeQuotaCounterKey_inj (hready.quota_barFree quota hq).1 (hready.quota_barFree other ho).1
      (hready.quota_barFree quota hq).2 (hready.quota_barFree other ho).2 hkey)

theorem PreflightReady.keys_apart {input : PreflightInput} {store : RuntimePolicyStore}
    (hready : PreflightReady input store) {policy : BudgetPolicyRecord} {quota : QuotaPolicyRecord}
    (hp : policy ∈ input.budgetPolicies) (hq : quota ∈ input.quotaPolicies) (now later : DateTime) :
    runtimeBudgetReservationKey policy now ≠ runtimeQuotaCounterKey quota later :=
  budgetKey_ne_quotaKey (hready.budget_barFree policy hp).1 (hready.quota_barFree quota hq).1
    (hready.budget_barFree policy hp).2 (hready.quota_barFree quota hq).2 (hready.ids_apart policy hp quota hq) now later

inductive BudgetDecision
  | passes
  | reserves
  | overLedger
  | refused
deriving DecidableEq, Repr

/-- What a budget policy decides about the request, from the ledger and its own counter before the call. -/
def budgetDecision (input : PreflightInput) (store : RuntimePolicyStore) (policy : BudgetPolicyRecord) :
    BudgetDecision :=
  match policy.hardLimit with
  | none => .passes
  | some limit =>
    if !runtimeBudgetPolicyIsPreflightEnforced policy ||
        !runtimeBudgetPolicyMatchesRequest policy input.actor input.selected then .passes
    else if runtimeBudgetExceeded policy (runtimeBudgetCurrent policy input.ledgerBuckets input.now) limit then
      .overLedger
    else if policy.limitKind ≠ .requests then .passes
    else if !store.runtimePolicyHotStateAvailable then .refused
    else if limit < saturatingAdd (runtimeBudgetCurrent policy input.ledgerBuckets input.now)
        (store.runtimePolicyCounter (runtimeBudgetReservationKey policy input.now) + 1) then .refused
    else .reserves

/-- The units and leases that a call holds over the counters and leases it started from. -/
structure BudgetHeld (base : CounterMap String) (leases : AList (fun _ : String => RuntimeBudgetLeaseRecord))
    (store : RuntimePolicyStore) (reservations : List RuntimeBudgetReservation) (others : Multiset String) :
    Prop where
  holding : Holding base store.runtimeQuotaCounters (↑(reservations.map (·.counterKey)) + others)
  amounts : ∀ reservation ∈ reservations, reservation.amount = 1
  lease_ids : (reservations.map (·.leaseId)).Nodup
  reserved : ∀ reservation ∈ reservations, ∃ lease,
    store.runtimeBudgetLeases.lookup reservation.leaseId = some lease ∧ lease.status = .reserved
  created : ∀ id lease, store.runtimeBudgetLeases.lookup id = some lease → lease.status = .reserved →
    leases.lookup id = none → id ∈ reservations.map (·.leaseId)
  fresh : ∀ reservation ∈ reservations, leases.lookup reservation.leaseId = none

section BudgetRelease

variable {base : CounterMap String} {leases : AList (fun _ : String => RuntimeBudgetLeaseRecord)}
  {store : RuntimePolicyStore} {reservation : RuntimeBudgetReservation}
  {reservations : List RuntimeBudgetReservation} {others : Multiset String}

def afterRelease (store : RuntimePolicyStore) (reservation : RuntimeBudgetReservation)
    (lease : RuntimeBudgetLeaseRecord) : RuntimePolicyStore :=
  { store with
    runtimeQuotaCounters := (adjust store.runtimeQuotaCounters reservation.counterKey (-1)).1
    runtimeBudgetLeases := store.runtimeBudgetLeases.insert reservation.leaseId { lease with status := .released } }

theorem BudgetHeld.release_step (h : BudgetHeld base leases store (reservation :: reservations) others) :
    ∃ lease, releaseRuntimeBudgetReservations store (reservation :: reservations) =
      releaseRuntimeBudgetReservations (afterRelease store reservation lease) reservations ∧
      BudgetHeld base leases (afterRelease store reservation lease) reservations others := by
  obtain ⟨lease, hlookup, hstatus⟩ := h.reserved reservation (by simp)
  have hamount := h.amounts reservation (by simp)
  obtain ⟨hnotin, hnodup⟩ := List.nodup_cons.mp h.lease_ids
  refine ⟨lease, ?_, ?_, fun r hr => h.amounts r (by simp [hr]), hnodup, ?_, ?_, fun r hr => h.fresh r (by simp [hr])⟩
  · simp only [releaseRuntimeBudgetReservations, List.foldl_cons, RuntimePolicyStore.releaseRuntimeBudgetLease,
      hlookup, hstatus, hamount, ne_eq, not_true_eq_false, if_false]
    rfl
  · have hmem : reservation.counterKey ∈
        (↑((reservation :: reservations).map (·.counterKey)) + others : Multiset String) := by simp
    have hreleased := h.holding.release hmem
    rwa [List.map_cons, ← Multiset.cons_coe, Multiset.cons_add, Multiset.erase_cons_head] at hreleased
  · intro r hr
    obtain ⟨other, hother, hreserved⟩ := h.reserved r (by simp [hr])
    have hne : r.leaseId ≠ reservation.leaseId := fun heq => hnotin (List.mem_map.mpr ⟨r, hr, heq⟩)
    exact ⟨other, by rw [afterRelease, AList.lookup_insert_ne hne, hother], hreserved⟩
  · intro id other hother hreserved hfresh
    by_cases hid : id = reservation.leaseId
    · subst hid
      rw [afterRelease, AList.lookup_insert, Option.some.injEq] at hother
      rw [← hother] at hreserved
      cases hreserved
    · rw [afterRelease, AList.lookup_insert_ne hid] at hother
      have hmem := h.created id other hother hreserved hfresh
      exact (List.mem_cons.mp hmem).resolve_left hid

theorem BudgetHeld.release (h : BudgetHeld base leases store reservations others) :
    BudgetHeld base leases (releaseRuntimeBudgetReservations store reservations) [] others ∧
      (releaseRuntimeBudgetReservations store reservations).runtimePolicyLossAllowances =
        store.runtimePolicyLossAllowances := by
  induction reservations generalizing store with
  | nil => exact ⟨h, rfl⟩
  | cons reservation reservations ih =>
    obtain ⟨lease, heq, hnext⟩ := h.release_step
    rw [heq]
    exact ih hnext

end BudgetRelease

def BudgetDecision.continues : BudgetDecision → Bool
  | .passes | .reserves => true
  | .overLedger | .refused => false

section BudgetStep

variable {input : PreflightInput} {start : RuntimePolicyStore} {store : RuntimePolicyStore}
  {policy : BudgetPolicyRecord} {policies : List BudgetPolicyRecord} {reservations : List RuntimeBudgetReservation}

theorem coe_map_append (reservations : List RuntimeBudgetReservation) (reservation : RuntimeBudgetReservation) :
    (↑((reservations ++ [reservation]).map (·.counterKey)) : Multiset String) =
      reservation.counterKey ::ₘ ↑(reservations.map (·.counterKey)) := by
  rw [List.map_append, List.map_singleton, Multiset.cons_coe, Multiset.coe_eq_coe]
  exact List.perm_append_singleton _ _

/-- Where the loop stands: what it holds so far, and what it will still draw from. -/
structure BudgetLoop (input : PreflightInput) (start store : RuntimePolicyStore)
    (reservations : List RuntimeBudgetReservation) : Prop where
  held : BudgetHeld start.runtimeQuotaCounters start.runtimeBudgetLeases store reservations 0
  available : store.runtimePolicyHotStateUnavailable = start.runtimePolicyHotStateUnavailable
  allowances : store.runtimePolicyLossAllowances = start.runtimePolicyLossAllowances
  drawn : ∀ reservation ∈ reservations, ∃ n < reservations.length, reservation.leaseId = input.leaseIds n

theorem BudgetLoop.value_eq (h : BudgetLoop input start store reservations)
    (hout : runtimeBudgetReservationKey policy input.now ∉ reservations.map (·.counterKey)) :
    value store.runtimeQuotaCounters (runtimeBudgetReservationKey policy input.now) =
      start.runtimePolicyCounter (runtimeBudgetReservationKey policy input.now) :=
  h.held.holding.value_of_notMem (by simpa using hout)

theorem BudgetLoop.adjust_up (h : BudgetLoop input start store reservations) (hready : PreflightReady input start)
    (hpolicy : policy ∈ input.budgetPolicies)
    (hout : runtimeBudgetReservationKey policy input.now ∉ reservations.map (·.counterKey)) :
    Holding start.runtimeQuotaCounters
        (adjust store.runtimeQuotaCounters (runtimeBudgetReservationKey policy input.now) 1).1
        (runtimeBudgetReservationKey policy input.now ::ₘ (↑(reservations.map (·.counterKey)) + 0)) ∧
      (adjust store.runtimeQuotaCounters (runtimeBudgetReservationKey policy input.now) 1).2 =
        start.runtimePolicyCounter (runtimeBudgetReservationKey policy input.now) + 1 := by
  obtain ⟨hlow, hhigh⟩ := hready.budget_counters policy hpolicy
  have hcount : (↑(reservations.map (·.counterKey)) + 0 : Multiset String).count
      (runtimeBudgetReservationKey policy input.now) = 0 := Multiset.count_eq_zero.mpr (by simpa using hout)
  unfold RuntimePolicyStore.runtimePolicyCounter at hlow hhigh ⊢
  have hroom : value start.runtimeQuotaCounters (runtimeBudgetReservationKey policy input.now) +
      ((↑(reservations.map (·.counterKey)) + 0 : Multiset String).count
        (runtimeBudgetReservationKey policy input.now) : Int) < i64Max := by
    rw [hcount]
    omega
  refine ⟨h.held.holding.acquire hlow hroom, ?_⟩
  have hresult := h.held.holding.acquire_result hlow hroom
  rw [hcount] at hresult
  simpa using hresult

def afterReserve (input : PreflightInput) (policy : BudgetPolicyRecord) (leaseId : String)
    (store : RuntimePolicyStore) : RuntimePolicyStore :=
  (store.adjustRuntimePolicyCounter (runtimeBudgetReservationKey policy input.now) 1).1.recordRuntimeBudgetLease
    (requestBudgetLease input policy leaseId)

theorem BudgetLoop.leaseId_new (h : BudgetLoop input start store reservations) (hready : PreflightReady input start) :
    input.leaseIds reservations.length ∉ reservations.map (·.leaseId) := by
  intro hmem
  obtain ⟨r, hr, heq⟩ := List.mem_map.mp hmem
  obtain ⟨n, hn, hid⟩ := h.drawn r hr
  have := hready.leases_injective (hid.symm.trans heq)
  omega

theorem BudgetLoop.reserve_held (h : BudgetLoop input start store reservations) (hready : PreflightReady input start)
    (hpolicy : policy ∈ input.budgetPolicies)
    (hout : runtimeBudgetReservationKey policy input.now ∉ reservations.map (·.counterKey)) :
    BudgetHeld start.runtimeQuotaCounters start.runtimeBudgetLeases
      (afterReserve input policy (input.leaseIds reservations.length) store)
      (reservations ++ [⟨input.leaseIds reservations.length, runtimeBudgetReservationKey policy input.now, 1⟩]) 0 := by
  have hnew := h.leaseId_new hready
  constructor
  · rw [coe_map_append, Multiset.cons_add]
    exact (h.adjust_up hready hpolicy hout).1
  · intro r hr
    rcases List.mem_append.mp hr with hr | hr
    · exact h.held.amounts r hr
    · rw [List.mem_singleton.mp hr]
  · rw [List.map_append, List.map_singleton]
    refine List.nodup_append.mpr ⟨h.held.lease_ids, by simp, ?_⟩
    intro id hid other hother heq
    have hsame : id = input.leaseIds reservations.length := heq.trans (List.mem_singleton.mp hother)
    exact hnew (hsame ▸ hid)
  · intro r hr
    rcases List.mem_append.mp hr with hr | hr
    · obtain ⟨lease, hlookup, hstatus⟩ := h.held.reserved r hr
      refine ⟨lease, ?_, hstatus⟩
      rw [afterReserve, RuntimePolicyStore.record_leases, AList.lookup_insert_ne]
      · exact hlookup
      · exact fun heq => hnew (List.mem_map.mpr ⟨r, hr, heq⟩)
    · rw [List.mem_singleton.mp hr]
      exact ⟨_, AList.lookup_insert _, rfl⟩
  · intro id lease hlookup hstatus hfresh
    rw [List.map_append, List.map_singleton, List.mem_append, List.mem_singleton]
    by_cases hid : id = input.leaseIds reservations.length
    · exact .inr hid
    · rw [afterReserve, RuntimePolicyStore.record_leases] at hlookup
      have hother := (AList.lookup_insert_ne hid).symm.trans hlookup
      exact .inl (h.held.created id lease hother hstatus hfresh)
  · intro r hr
    rcases List.mem_append.mp hr with hr | hr
    · exact h.held.fresh r hr
    · rw [List.mem_singleton.mp hr]
      exact hready.leases_fresh _

theorem BudgetLoop.reserve (h : BudgetLoop input start store reservations) (hready : PreflightReady input start)
    (hpolicy : policy ∈ input.budgetPolicies)
    (hout : runtimeBudgetReservationKey policy input.now ∉ reservations.map (·.counterKey)) :
    BudgetLoop input start (afterReserve input policy (input.leaseIds reservations.length) store)
      (reservations ++ [⟨input.leaseIds reservations.length, runtimeBudgetReservationKey policy input.now, 1⟩]) := by
  refine ⟨h.reserve_held hready hpolicy hout, h.available, h.allowances, ?_⟩
  intro r hr
  rw [List.length_append, List.length_singleton]
  rcases List.mem_append.mp hr with hr | hr
  · obtain ⟨n, hn, hid⟩ := h.drawn r hr
    exact ⟨n, by omega, hid⟩
  · rw [List.mem_singleton.mp hr]
    exact ⟨reservations.length, by omega, rfl⟩

theorem BudgetLoop.reserve_eq (h : BudgetLoop input start store reservations) (hready : PreflightReady input start)
    (hpolicy : policy ∈ input.budgetPolicies)
    (hout : runtimeBudgetReservationKey policy input.now ∉ reservations.map (·.counterKey)) {current limit : Int}
    (leaseId : String) (havailable : store.runtimePolicyHotStateAvailable = true)
    (hfits : ¬ limit < saturatingAdd current
      (start.runtimePolicyCounter (runtimeBudgetReservationKey policy input.now) + 1)) :
    reserveRuntimeRequestBudget input policy current limit leaseId store =
      (.ok ⟨leaseId, runtimeBudgetReservationKey policy input.now, 1⟩, afterReserve input policy leaseId store) := by
  obtain ⟨-, hresult⟩ := h.adjust_up hready hpolicy hout
  simp only [reserveRuntimeRequestBudget, havailable, Bool.not_true, Bool.false_eq_true, if_false,
    RuntimePolicyStore.adjust_result, hresult, if_neg hfits, afterReserve]

theorem BudgetLoop.refuse (h : BudgetLoop input start store reservations) (hready : PreflightReady input start)
    (hpolicy : policy ∈ input.budgetPolicies)
    (hout : runtimeBudgetReservationKey policy input.now ∉ reservations.map (·.counterKey)) {current limit : Int}
    (leaseId : String)
    (hrefused : store.runtimePolicyHotStateAvailable = false ∨ limit < saturatingAdd current
      (start.runtimePolicyCounter (runtimeBudgetReservationKey policy input.now) + 1)) :
    ∃ error next, reserveRuntimeRequestBudget input policy current limit leaseId store = (.error error, next) ∧
      BudgetLoop input start next reservations := by
  cases havailable : store.runtimePolicyHotStateAvailable with
  | false =>
    refine ⟨.budgetExceeded "budget_hot_state_unavailable", store, ?_, h⟩
    simp only [reserveRuntimeRequestBudget, havailable, Bool.not_false, if_true]
  | true =>
    rw [havailable] at hrefused
    obtain ⟨hholding, hresult⟩ := h.adjust_up hready hpolicy hout
    have hlimit := hrefused.resolve_left (by decide)
    refine ⟨.budgetExceeded "hard_limit_reserved", ((store.adjustRuntimePolicyCounter
      (runtimeBudgetReservationKey policy input.now) 1).1.adjustRuntimePolicyCounter
      (runtimeBudgetReservationKey policy input.now) (-1)).1, ?_, ?_, h.available, h.allowances, h.drawn⟩
    · simp only [reserveRuntimeRequestBudget, havailable, Bool.not_true, Bool.false_eq_true, if_false,
        RuntimePolicyStore.adjust_result, hresult, if_pos hlimit]
    · refine ⟨?_, h.held.amounts, h.held.lease_ids, h.held.reserved, h.held.created, h.held.fresh⟩
      have hback := hholding.release (Multiset.mem_cons_self _ _)
      rwa [Multiset.erase_cons_head] at hback

theorem BudgetLoop.step (h : BudgetLoop input start store reservations) (hready : PreflightReady input start)
    (hpolicy : policy ∈ input.budgetPolicies)
    (hout : runtimeBudgetReservationKey policy input.now ∉ reservations.map (·.counterKey))
    (policies : List BudgetPolicyRecord) :
    match budgetDecision input start policy with
    | .passes => reserveBudgetPolicies input (policy :: policies) reservations store =
        reserveBudgetPolicies input policies reservations store
    | .reserves => reserveBudgetPolicies input (policy :: policies) reservations store =
        reserveBudgetPolicies input policies
          (reservations ++ [⟨input.leaseIds reservations.length, runtimeBudgetReservationKey policy input.now, 1⟩])
          (afterReserve input policy (input.leaseIds reservations.length) store)
    | .overLedger => ∃ error, reserveBudgetPolicies input (policy :: policies) reservations store =
        (.error error, releaseRuntimeBudgetReservations store reservations)
    | .refused => ∃ error next, reserveBudgetPolicies input (policy :: policies) reservations store =
        (.error error, next) ∧ BudgetLoop input start next reservations := by
  have havailable : store.runtimePolicyHotStateAvailable = start.runtimePolicyHotStateAvailable :=
    congrArg Bool.not h.available
  rw [reserveBudgetPolicies]
  unfold budgetDecision
  cases hlimit : policy.hardLimit with
  | none => rfl
  | some limit =>
    simp only
    by_cases hskip : (!runtimeBudgetPolicyIsPreflightEnforced policy ||
        !runtimeBudgetPolicyMatchesRequest policy input.actor input.selected) = true
    · simp only [if_pos hskip]
    simp only [if_neg hskip]
    by_cases hexceeded : runtimeBudgetExceeded policy
        (runtimeBudgetCurrent policy input.ledgerBuckets input.now) limit = true
    · simp only [if_pos hexceeded]
      exact ⟨_, rfl⟩
    simp only [if_neg hexceeded]
    by_cases hkind : policy.limitKind = .requests
    swap
    · simp only [hkind, ne_eq, not_false_eq_true, if_true, if_false]
    simp only [hkind, ne_eq, not_true_eq_false, if_true, if_false]
    by_cases hrefused : start.runtimePolicyHotStateAvailable = false ∨
        limit < saturatingAdd (runtimeBudgetCurrent policy input.ledgerBuckets input.now)
          (start.runtimePolicyCounter (runtimeBudgetReservationKey policy input.now) + 1)
    · have hdecision : (if (!start.runtimePolicyHotStateAvailable) = true then BudgetDecision.refused
          else if limit < saturatingAdd (runtimeBudgetCurrent policy input.ledgerBuckets input.now)
            (start.runtimePolicyCounter (runtimeBudgetReservationKey policy input.now) + 1) then .refused
          else .reserves) = .refused := by
        rcases hrefused with hu | hl
        · rw [if_pos (by simpa using hu)]
        · rw [if_pos hl, ite_self]
      obtain ⟨error, next, heq, hloop⟩ :=
        h.refuse hready hpolicy hout (input.leaseIds reservations.length) (havailable ▸ hrefused)
      rw [hdecision, heq]
      exact ⟨error, next, rfl, hloop⟩
    · have hon : start.runtimePolicyHotStateAvailable = true := by
        simpa using fun hu => hrefused (.inl hu)
      have hfits := fun hl => hrefused (.inr hl)
      rw [if_neg (by simp [hon]), if_neg hfits]
      simp only [h.reserve_eq hready hpolicy hout (input.leaseIds reservations.length) (havailable.trans hon) hfits]

/-- The keys of policies that the loop has not reached are not among those it holds. -/
def KeysAhead (input : PreflightInput) (policies : List BudgetPolicyRecord)
    (reservations : List RuntimeBudgetReservation) : Prop :=
  ∀ policy ∈ policies, runtimeBudgetReservationKey policy input.now ∉ reservations.map (·.counterKey)

theorem KeysAhead.reserve (hready : PreflightReady input start)
    (hpolicies : ∀ other ∈ policy :: policies, other ∈ input.budgetPolicies)
    (hnodup : ((policy :: policies).map (·.budgetPolicyId)).Nodup)
    (h : KeysAhead input (policy :: policies) reservations) (leaseId : String) :
    KeysAhead input policies (reservations ++ [⟨leaseId, runtimeBudgetReservationKey policy input.now, 1⟩]) := by
  intro other hother hmem
  rw [List.map_append, List.map_singleton, List.mem_append, List.mem_singleton] at hmem
  rcases hmem with hold | hnew
  · exact h other (List.mem_cons_of_mem _ hother) hold
  · have hin := hpolicies other (List.mem_cons_of_mem _ hother)
    have hid := hready.budgetId_of_key hin (hpolicies policy List.mem_cons_self) hnew
    exact (List.nodup_cons.mp hnodup).1 (List.mem_map.mpr ⟨other, hother, hid⟩)

def budgetContinues (input : PreflightInput) (start : RuntimePolicyStore) (policy : BudgetPolicyRecord) : Bool :=
  (budgetDecision input start policy).continues

theorem reserveBudgetPolicies_ok (hready : PreflightReady input start)
    (hpolicies : ∀ policy ∈ policies, policy ∈ input.budgetPolicies)
    (hnodup : (policies.map (·.budgetPolicyId)).Nodup) (hloop : BudgetLoop input start store reservations)
    (hahead : KeysAhead input policies reservations)
    (hall : firstFailing (budgetContinues input start) policies = none) :
    ∃ final next, reserveBudgetPolicies input policies reservations store = (.ok final, next) ∧
      BudgetLoop input start next final ∧ ∀ reservation ∈ final, reservation ∈ reservations ∨
        ∃ policy ∈ policies, reservation.counterKey = runtimeBudgetReservationKey policy input.now := by
  induction policies generalizing reservations store with
  | nil => exact ⟨reservations, store, rfl, hloop, fun r hr => .inl hr⟩
  | cons policy policies ih =>
    have hpolicy := hpolicies policy List.mem_cons_self
    have hrest := fun other hother => hpolicies other (List.mem_cons_of_mem _ hother)
    have hnodup' := (List.nodup_cons.mp hnodup).2
    have hstep := hloop.step hready hpolicy (hahead policy List.mem_cons_self) policies
    cases hdecision : budgetDecision input start policy with
    | passes =>
      rw [firstFailing_cons_ok (by simp [budgetContinues, hdecision, BudgetDecision.continues]),
        Option.map_eq_none_iff] at hall
      rw [hdecision] at hstep
      obtain ⟨final, next, heq, hnext, hfrom⟩ := ih hrest hnodup' hloop
        (fun other hother => hahead other (List.mem_cons_of_mem _ hother)) hall
      refine ⟨final, next, hstep.trans heq, hnext, fun r hr => ?_⟩
      rcases hfrom r hr with hr | ⟨other, hother, hkey⟩
      · exact .inl hr
      · exact .inr ⟨other, List.mem_cons_of_mem _ hother, hkey⟩
    | reserves =>
      rw [firstFailing_cons_ok (by simp [budgetContinues, hdecision, BudgetDecision.continues]),
        Option.map_eq_none_iff] at hall
      rw [hdecision] at hstep
      obtain ⟨final, next, heq, hnext, hfrom⟩ := ih hrest hnodup'
        (hloop.reserve hready hpolicy (hahead policy List.mem_cons_self))
        (KeysAhead.reserve hready hpolicies hnodup hahead _) hall
      refine ⟨final, next, hstep.trans heq, hnext, fun r hr => ?_⟩
      rcases hfrom r hr with hr | ⟨other, hother, hkey⟩
      · rcases List.mem_append.mp hr with hr | hr
        · exact .inl hr
        · exact .inr ⟨policy, List.mem_cons_self, by rw [List.mem_singleton.mp hr]⟩
      · exact .inr ⟨other, List.mem_cons_of_mem _ hother, hkey⟩
    | overLedger =>
      rw [firstFailing_cons_fails (by simp [budgetContinues, hdecision, BudgetDecision.continues])] at hall
      cases hall
    | refused =>
      rw [firstFailing_cons_fails (by simp [budgetContinues, hdecision, BudgetDecision.continues])] at hall
      cases hall

theorem reserveBudgetPolicies_error (hready : PreflightReady input start)
    (hpolicies : ∀ policy ∈ policies, policy ∈ input.budgetPolicies)
    (hnodup : (policies.map (·.budgetPolicyId)).Nodup) (hloop : BudgetLoop input start store reservations)
    (hahead : KeysAhead input policies reservations) {before : List BudgetPolicyRecord}
    (hfails : firstFailing (budgetContinues input start) policies = some (before, policy)) :
    ∃ error next left, reserveBudgetPolicies input policies reservations store = (.error error, next) ∧
      BudgetHeld start.runtimeQuotaCounters start.runtimeBudgetLeases next left 0 ∧
      next.runtimePolicyLossAllowances = start.runtimePolicyLossAllowances ∧
      (left = [] ↔ budgetDecision input start policy = .refused →
        reservations = [] ∧ ∀ other ∈ before, budgetDecision input start other ≠ .reserves) := by
  induction policies generalizing reservations store before with
  | nil => cases hfails
  | cons head policies ih =>
    have hpolicy := hpolicies head List.mem_cons_self
    have hrest := fun other hother => hpolicies other (List.mem_cons_of_mem _ hother)
    have hnodup' := (List.nodup_cons.mp hnodup).2
    have hstep := hloop.step hready hpolicy (hahead head List.mem_cons_self) policies
    cases hdecision : budgetDecision input start head with
    | passes =>
      rw [firstFailing_cons_ok (by simp [budgetContinues, hdecision, BudgetDecision.continues]),
        Option.map_eq_some_iff] at hfails
      obtain ⟨⟨before', policy'⟩, hfails, hpair⟩ := hfails
      cases hpair
      rw [hdecision] at hstep
      obtain ⟨error, next, left, heq, hheld, hallowances, hleft⟩ := ih hrest hnodup' hloop
        (fun other hother => hahead other (List.mem_cons_of_mem _ hother)) hfails
      refine ⟨error, next, left, hstep.trans heq, hheld, hallowances, ?_⟩
      rw [hleft, List.forall_mem_cons, hdecision]
      simp
    | reserves =>
      rw [firstFailing_cons_ok (by simp [budgetContinues, hdecision, BudgetDecision.continues]),
        Option.map_eq_some_iff] at hfails
      obtain ⟨⟨before', policy'⟩, hfails, hpair⟩ := hfails
      cases hpair
      rw [hdecision] at hstep
      obtain ⟨error, next, left, heq, hheld, hallowances, hleft⟩ := ih hrest hnodup'
        (hloop.reserve hready hpolicy (hahead head List.mem_cons_self))
        (KeysAhead.reserve hready hpolicies hnodup hahead _) hfails
      refine ⟨error, next, left, hstep.trans heq, hheld, hallowances, ?_⟩
      rw [hleft, List.forall_mem_cons, hdecision]
      simp
    | overLedger =>
      rw [firstFailing_cons_fails (by simp [budgetContinues, hdecision, BudgetDecision.continues])] at hfails
      cases hfails
      rw [hdecision] at hstep
      obtain ⟨error, heq⟩ := hstep
      obtain ⟨hheld, hallowances⟩ := hloop.held.release
      refine ⟨error, _, [], heq, hheld, hallowances.trans hloop.allowances, ?_⟩
      simp [hdecision]
    | refused =>
      rw [firstFailing_cons_fails (by simp [budgetContinues, hdecision, BudgetDecision.continues])] at hfails
      cases hfails
      rw [hdecision] at hstep
      obtain ⟨error, next, heq, hnext⟩ := hstep
      refine ⟨error, next, reservations, heq, hnext.held, hnext.allowances, ?_⟩
      simp [hdecision]

end BudgetStep

end Starweaver.Gateway
