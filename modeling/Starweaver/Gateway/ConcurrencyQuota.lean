import Starweaver.Library.Machine
import Starweaver.Gateway.PreflightBudget

namespace Starweaver.Gateway

open Library.Calendar Library.Checks Library.Counters Library.Machine Library.MachineInt

/-- The requests that a concurrency policy counts: those it admitted, with the reservation they hold, and those that
were over the limit and have not yet taken their unit back. -/
structure QuotaRuntime where
  store : RuntimePolicyStore
  running : List (String × RuntimeQuotaReservation)
  overLimit : List (String × String)

def QuotaRuntime.inFlight (s : QuotaRuntime) : Nat := s.running.length + s.overLimit.length

inductive QuotaAction
  | add (requestId : String) (now : DateTime)
  | compensate (requestId counterKey : String)
  | complete (requestId : String) (reservation : RuntimeQuotaReservation)
  | adjustOther (counterKey : String) (delta : Int)
  | countOther (counterKey : String) (amount limit : Int)
deriving DecidableEq, Repr

def concurrencyQuotaKey (policy : QuotaPolicyRecord) : String := runtimeQuotaCounterKey policy ⟨0⟩

def quotaStep (policy : QuotaPolicyRecord) (s : QuotaRuntime) : QuotaAction → Option QuotaRuntime
  | .add requestId now =>
    -- memory holds fewer than `i64Max` requests at once
    if i64Max ≤ (s.inFlight : Int) then none
    else
      let counterKey := runtimeQuotaCounterKey policy now
      let (taken, current) := s.store.adjustRuntimePolicyCounter counterKey 1
      if policy.limit < current then
        some { s with store := taken, overLimit := (requestId, counterKey) :: s.overLimit }
      else some { s with store := taken, running := (requestId, ⟨counterKey, 1, .hotState⟩) :: s.running }
  | .compensate requestId counterKey =>
    if (requestId, counterKey) ∈ s.overLimit then
      some { s with
        store := (s.store.adjustRuntimePolicyCounter counterKey (-1)).1
        overLimit := s.overLimit.erase (requestId, counterKey) }
    else none
  | .complete requestId reservation =>
    if (requestId, reservation) ∈ s.running then
      some { s with
        store := releaseRuntimeQuotaReservations s.store [reservation]
        running := s.running.erase (requestId, reservation) }
    else none
  | .adjustOther counterKey delta =>
    if counterKey = concurrencyQuotaKey policy then none
    else some { s with store := (s.store.adjustRuntimePolicyCounter counterKey delta).1 }
  | .countOther counterKey amount limit =>
    if counterKey = concurrencyQuotaKey policy then none
    else some { s with store := (s.store.incrementRuntimeQuotaCounter counterKey amount limit).1 }

section Exact

variable {policy : QuotaPolicyRecord} {s next : QuotaRuntime}

theorem runtimeQuotaCounterKey_concurrency (hshape : validateQuotaPolicyShape policy = .ok ())
    (hkind : policy.isConcurrency = true) (now : DateTime) :
    runtimeQuotaCounterKey policy now = concurrencyQuotaKey policy := by
  have hwindow := (validateQuotaPolicyShape_shape hshape).window_supported
  have hslot : ∀ time, runtimeQuotaWindowSlot policy time = "active" := by
    intro time
    unfold QuotaPolicyRecord.isConcurrency at hkind
    unfold runtimeQuotaWindowSlot
    rcases (Bool.or_eq_true _ _).mp hkind with hkind | hkind
    · rw [beq_iff_eq.mp hkind] at hwindow
      rw [beq_iff_eq.mp hwindow]
    · rw [beq_iff_eq.mp hkind] at hwindow
      rw [beq_iff_eq.mp hwindow]
  unfold concurrencyQuotaKey runtimeQuotaCounterKey
  rw [hslot, hslot]

/-- The steps of a request are those of the source: an addition, and either the reservation or the subtraction. -/
theorem reserveRuntimeQuotaCounter_run (policy : QuotaPolicyRecord) (s : QuotaRuntime) (requestId reason : String)
    (now : DateTime) (hroom : ¬ i64Max ≤ (s.inFlight : Int)) :
    match reserveRuntimeQuotaCounter policy 1 reason now s.store with
    | (.ok reservation, store) => run (quotaStep policy) s [.add requestId now] =
        some { s with store := store, running := (requestId, reservation) :: s.running }
    | (.error _, store) => run (quotaStep policy) s
        [.add requestId now, .compensate requestId (runtimeQuotaCounterKey policy now)] =
          some { s with store := store } := by
  unfold reserveRuntimeQuotaCounter
  by_cases hover : policy.limit < (s.store.adjustRuntimePolicyCounter (runtimeQuotaCounterKey policy now) 1).2
  · simp only [if_pos hover]
    simp only [run, quotaStep, if_neg hroom, if_pos hover, Option.bind_some, List.mem_cons_self, if_true,
      List.erase_cons_head]
  · simp only [if_neg hover]
    simp only [run, quotaStep, if_neg hroom, if_neg hover, Option.bind_some]

/-- The counter of the policy stands for its requests in flight, and is absent when there is none. -/
structure QuotaExact (policy : QuotaPolicyRecord) (s : QuotaRuntime) : Prop where
  lookup : s.store.runtimeQuotaCounters.lookup (concurrencyQuotaKey policy) =
    if s.inFlight = 0 then none else some (s.inFlight : Int)
  bounded : (s.inFlight : Int) ≤ i64Max
  admitted : (s.running.length : Int) ≤ policy.limit
  running_keys : ∀ request ∈ s.running, request.2 = ⟨concurrencyQuotaKey policy, 1, .hotState⟩
  overLimit_keys : ∀ request ∈ s.overLimit, request.2 = concurrencyQuotaKey policy

theorem QuotaExact.value_eq (h : QuotaExact policy s) :
    value s.store.runtimeQuotaCounters (concurrencyQuotaKey policy) = s.inFlight := by
  unfold value
  rw [h.lookup]
  split
  · rename_i hzero
    simp [hzero]
  · rfl

theorem QuotaExact.move (h : QuotaExact policy s) (delta : Int)
    (hstore : next.store.runtimeQuotaCounters =
      (adjust s.store.runtimeQuotaCounters (concurrencyQuotaKey policy) delta).1)
    (hcount : (next.inFlight : Int) = s.inFlight + delta) (hbounded : (next.inFlight : Int) ≤ i64Max)
    (hadmitted : (next.running.length : Int) ≤ policy.limit)
    (hrunning : ∀ request ∈ next.running, request.2 = ⟨concurrencyQuotaKey policy, 1, .hotState⟩)
    (hover : ∀ request ∈ next.overLimit, request.2 = concurrencyQuotaKey policy) : QuotaExact policy next := by
  refine ⟨?_, hbounded, hadmitted, hrunning, hover⟩
  have hresult := adjust_of_bounds s.store.runtimeQuotaCounters (concurrencyQuotaKey policy) delta
    (by rw [h.value_eq]; omega) (by rw [h.value_eq]; omega)
  rw [hstore, lookup_adjust_self, hresult, h.value_eq, ← hcount]
  simp only [Int.natCast_eq_zero]

theorem QuotaExact.other (h : QuotaExact policy s)
    (hlookup : next.store.runtimeQuotaCounters.lookup (concurrencyQuotaKey policy) =
      s.store.runtimeQuotaCounters.lookup (concurrencyQuotaKey policy))
    (hrunning : next.running = s.running) (hover : next.overLimit = s.overLimit) : QuotaExact policy next := by
  have hflight : next.inFlight = s.inFlight := by simp only [QuotaRuntime.inFlight, hrunning, hover]
  refine ⟨?_, ?_, ?_, ?_, ?_⟩
  · rw [hlookup, hflight, h.lookup]
  · rw [hflight]
    exact h.bounded
  · rw [hrunning]
    exact h.admitted
  · rw [hrunning]
    exact h.running_keys
  · rw [hover]
    exact h.overLimit_keys

theorem QuotaExact.step_add (h : QuotaExact policy s) (hshape : validateQuotaPolicyShape policy = .ok ())
    (hkind : policy.isConcurrency = true) {requestId : String} {now : DateTime}
    (hstep : quotaStep policy s (.add requestId now) = some next) : QuotaExact policy next := by
  have hkey := runtimeQuotaCounterKey_concurrency hshape hkind now
  simp only [quotaStep, hkey] at hstep
  split at hstep
  · cases hstep
  rename_i hroom
  have hresult : (adjust s.store.runtimeQuotaCounters (concurrencyQuotaKey policy) 1).2 = s.inFlight + 1 := by
    rw [← h.value_eq]
    exact adjust_of_bounds _ _ _ (by rw [h.value_eq]; omega) (by rw [h.value_eq]; omega)
  have hlength : s.running.length ≤ s.inFlight := Nat.le_add_right _ _
  simp only [RuntimePolicyStore.adjust_result, hresult] at hstep
  split at hstep
  · cases hstep
    have hcount : ((s.running.length + (s.overLimit.length + 1) : Nat) : Int) = s.inFlight + 1 := by
      simp only [QuotaRuntime.inFlight]
      omega
    refine h.move 1 rfl hcount (hcount ▸ by omega) h.admitted h.running_keys ?_
    intro request hrequest
    rcases List.mem_cons.mp hrequest with rfl | hrequest
    · rfl
    · exact h.overLimit_keys request hrequest
  · rename_i hfits
    cases hstep
    have hcount : ((s.running.length + 1 + s.overLimit.length : Nat) : Int) = s.inFlight + 1 := by
      simp only [QuotaRuntime.inFlight]
      omega
    refine h.move 1 rfl hcount (hcount ▸ by omega) ?_ ?_ h.overLimit_keys
    · simp only [List.length_cons]
      omega
    · intro request hrequest
      rcases List.mem_cons.mp hrequest with rfl | hrequest
      · rfl
      · exact h.running_keys request hrequest

theorem QuotaExact.step_compensate (h : QuotaExact policy s) {requestId counterKey : String}
    (hstep : quotaStep policy s (.compensate requestId counterKey) = some next) : QuotaExact policy next := by
  simp only [quotaStep] at hstep
  split at hstep
  swap
  · cases hstep
  rename_i hmem
  cases hstep
  have hkey : counterKey = concurrencyQuotaKey policy := h.overLimit_keys _ hmem
  have hpos := List.length_pos_of_mem hmem
  have hbounded := h.bounded
  have hcount : ((s.running.length + (s.overLimit.erase (requestId, counterKey)).length : Nat) : Int) =
      s.inFlight + -1 := by
    rw [List.length_erase_of_mem hmem]
    simp only [QuotaRuntime.inFlight]
    omega
  refine h.move (-1) (by rw [hkey]; rfl) hcount (hcount ▸ by omega) h.admitted h.running_keys ?_
  intro request hrequest
  exact h.overLimit_keys request (List.mem_of_mem_erase hrequest)

theorem QuotaExact.step_complete (h : QuotaExact policy s) {requestId : String}
    {reservation : RuntimeQuotaReservation}
    (hstep : quotaStep policy s (.complete requestId reservation) = some next) : QuotaExact policy next := by
  simp only [quotaStep] at hstep
  split at hstep
  swap
  · cases hstep
  rename_i hmem
  cases hstep
  have hreservation : reservation = ⟨concurrencyQuotaKey policy, 1, .hotState⟩ := h.running_keys _ hmem
  have hpos := List.length_pos_of_mem hmem
  have hbounded := h.bounded
  have hadmitted := h.admitted
  have hlength := List.length_erase_of_mem hmem
  have hcount : (((s.running.erase (requestId, reservation)).length + s.overLimit.length : Nat) : Int) =
      s.inFlight + -1 := by
    rw [hlength]
    simp only [QuotaRuntime.inFlight]
    omega
  refine h.move (-1) (by rw [hreservation]; rfl) hcount (hcount ▸ by omega) ?_ ?_ h.overLimit_keys
  · simp only [hlength]
    omega
  · intro request hrequest
    exact h.running_keys request (List.mem_of_mem_erase hrequest)

theorem QuotaExact.step (hshape : validateQuotaPolicyShape policy = .ok ()) (hkind : policy.isConcurrency = true)
    (h : QuotaExact policy s) {action : QuotaAction} (hstep : quotaStep policy s action = some next) :
    QuotaExact policy next := by
  cases action with
  | add requestId now => exact h.step_add hshape hkind hstep
  | compensate requestId counterKey => exact h.step_compensate hstep
  | complete requestId reservation => exact h.step_complete hstep
  | adjustOther counterKey delta =>
    simp only [quotaStep] at hstep
    split at hstep
    · cases hstep
    rename_i hne
    cases hstep
    exact h.other (lookup_adjust_ne _ delta (Ne.symm hne)) rfl rfl
  | countOther counterKey amount limit =>
    simp only [quotaStep] at hstep
    split at hstep
    · cases hstep
    rename_i hne
    cases hstep
    exact h.other (AList.lookup_insert_ne (Ne.symm hne)) rfl rfl

theorem QuotaExact.initial (hshape : validateQuotaPolicyShape policy = .ok ()) {store : RuntimePolicyStore}
    (habsent : store.runtimeQuotaCounters.lookup (concurrencyQuotaKey policy) = none) :
    QuotaExact policy ⟨store, [], []⟩ := by
  have hpos := (validateQuotaPolicyShape_shape hshape).limit_pos
  refine ⟨habsent, by simp [QuotaRuntime.inFlight, i64Max], ?_, by simp, by simp⟩
  simp only [List.length_nil]
  omega

/-- Over any interleaving of requests a concurrency quota is exact. -/
theorem concurrencyQuota_exact (hshape : validateQuotaPolicyShape policy = .ok ())
    (hkind : policy.isConcurrency = true) {store : RuntimePolicyStore}
    (habsent : store.runtimeQuotaCounters.lookup (concurrencyQuotaKey policy) = none)
    {actions : List QuotaAction} {final : QuotaRuntime}
    (hrun : run (quotaStep policy) ⟨store, [], []⟩ actions = some final) :
    (final.running.length : Int) ≤ policy.limit ∧
      (∀ now, final.store.runtimePolicyCounter (runtimeQuotaCounterKey policy now) =
        final.running.length + final.overLimit.length) ∧
      (final.running = [] → final.overLimit = [] → ∀ now,
        final.store.runtimeQuotaCounters.lookup (runtimeQuotaCounterKey policy now) = none) := by
  have hexact : QuotaExact policy final :=
    run_invariant_always (fun _ _ _ hs hnext => QuotaExact.step hshape hkind hs hnext)
      (QuotaExact.initial hshape habsent) hrun
  refine ⟨hexact.admitted, fun now => ?_, fun hrunning hover now => ?_⟩
  · rw [runtimeQuotaCounterKey_concurrency hshape hkind now]
    refine hexact.value_eq.trans ?_
    simp only [QuotaRuntime.inFlight]
    push_cast
    rfl
  · rw [runtimeQuotaCounterKey_concurrency hshape hkind now, hexact.lookup]
    simp [QuotaRuntime.inFlight, hrunning, hover]

end Exact

def overtakenRun : List QuotaAction :=
  [.add "request_1" ⟨0⟩, .add "request_2" ⟨1⟩, .adjustOther "other" 3,
    .complete "request_1" ⟨concurrencyQuotaKey concurrentRequestQuota, 1, .hotState⟩]

theorem concurrencyQuota_exact_overtaken :
    ∃ final, run (quotaStep concurrentRequestQuota) ⟨RuntimePolicyStore.empty, [], []⟩ overtakenRun = some final ∧
      final.overLimit = [("request_2", concurrencyQuotaKey concurrentRequestQuota)] ∧
      (final.running.length : Int) ≤ concurrentRequestQuota.limit ∧
      (∀ now, final.store.runtimePolicyCounter (runtimeQuotaCounterKey concurrentRequestQuota now) =
        final.running.length + final.overLimit.length) := by
  obtain ⟨final, hrun⟩ : ∃ final,
      run (quotaStep concurrentRequestQuota) ⟨RuntimePolicyStore.empty, [], []⟩ overtakenRun = some final :=
    ⟨_, rfl⟩
  have hexact := concurrencyQuota_exact (by decide) (by decide) rfl hrun
  refine ⟨final, hrun, ?_, hexact.1, hexact.2.1⟩
  cases hrun
  decide

end Starweaver.Gateway
