import Starweaver.Gateway.PreflightBudget

namespace Starweaver.Gateway

open Library.Calendar Library.Checks Library.Counters Library.MachineInt Library.Separated Library.SortBy

section HotState

variable {base : CounterMap String} {leases : AList (fun _ : String => RuntimeBudgetLeaseRecord)}
  {store : RuntimePolicyStore} {budgets : List RuntimeBudgetReservation} {quotas : List RuntimeQuotaReservation}

theorem BudgetHeld.of_counters {others others' : Multiset String} {next : RuntimePolicyStore} {base' : CounterMap String}
    (h : BudgetHeld base leases store budgets others)
    (hholding : Holding base' next.runtimeQuotaCounters (↑(budgets.map (·.counterKey)) + others'))
    (hleases : next.runtimeBudgetLeases = store.runtimeBudgetLeases) :
    BudgetHeld base' leases next budgets others' := by
  refine ⟨hholding, h.amounts, h.lease_ids, ?_, ?_, h.fresh⟩
  · rw [hleases]
    exact h.reserved
  · rw [hleases]
    exact h.created

theorem release_quotas (hplain : ∀ r ∈ quotas, r.amount = 1 ∧ r.counterBackend = .hotState)
    (h : BudgetHeld base leases store budgets ↑(quotas.map (·.counterKey))) :
    BudgetHeld base leases (releaseRuntimeQuotaReservations store quotas) budgets 0 ∧
      (releaseRuntimeQuotaReservations store quotas).runtimePolicyLossAllowances =
        store.runtimePolicyLossAllowances := by
  induction quotas generalizing store with
  | nil => exact ⟨h, rfl⟩
  | cons reservation quotas ih =>
    obtain ⟨hamount, hbackend⟩ := hplain reservation List.mem_cons_self
    have hstep : releaseRuntimeQuotaReservations store (reservation :: quotas) =
        releaseRuntimeQuotaReservations
          (store.adjustRuntimePolicyCounter reservation.counterKey (-1)).1 quotas := by
      simp only [releaseRuntimeQuotaReservations, List.foldl_cons, hbackend, hamount]
    have hmem : reservation.counterKey ∈ (↑(budgets.map (·.counterKey)) +
        ↑((reservation :: quotas).map (·.counterKey)) : Multiset String) := by simp
    have hreleased := h.holding.release hmem
    rw [List.map_cons, ← Multiset.cons_coe, Multiset.add_cons, Multiset.erase_cons_head] at hreleased
    rw [hstep]
    exact ih (fun r hr => hplain r (List.mem_cons_of_mem _ hr)) (h.of_counters hreleased rfl)

end HotState

/-- The key of a counter that accumulates, as those of rates and durations do, and is never given back. -/
def RateKey (input : PreflightInput) (key : String) : Prop :=
  ∃ quota ∈ input.quotaPolicies, quota.isConcurrency = false ∧ ∃ time, key = runtimeQuotaCounterKey quota time

/-- Where the quota loop stands while hot state is available: rate counters may have moved under the units held. -/
structure QuotaLoop (input : PreflightInput) (start store : RuntimePolicyStore) (base : CounterMap String)
    (budgets : List RuntimeBudgetReservation) (quotas : List RuntimeQuotaReservation) : Prop where
  held : BudgetHeld base start.runtimeBudgetLeases store budgets ↑(quotas.map (·.counterKey))
  plain : ∀ r ∈ quotas, r.amount = 1 ∧ r.counterBackend = .hotState
  base_eq : ∀ key, ¬ RateKey input key → value base key = start.runtimePolicyCounter key
  allowances : store.runtimePolicyLossAllowances = start.runtimePolicyLossAllowances
  budget_origin : ∀ r ∈ budgets, ∃ policy ∈ input.budgetPolicies,
    r.counterKey = runtimeBudgetReservationKey policy input.now
  quota_origin : ∀ r ∈ quotas, ∃ quota ∈ input.quotaPolicies,
    quota.isConcurrency = true ∧ r.counterKey = runtimeQuotaCounterKey quota input.now

section QuotaStep

variable {input : PreflightInput} {start store : RuntimePolicyStore} {base : CounterMap String}
  {budgets : List RuntimeBudgetReservation} {quotas : List RuntimeQuotaReservation} {quota : QuotaPolicyRecord}

theorem not_rateKey_of_concurrency (hready : PreflightReady input start) (hq : quota ∈ input.quotaPolicies)
    (hconcurrency : quota.isConcurrency = true) (time : DateTime) :
    ¬ RateKey input (runtimeQuotaCounterKey quota time) := by
  rintro ⟨other, ho, hrate, later, hkey⟩
  have hsame := hready.quota_of_key hq ho hkey
  rw [hsame, hrate] at hconcurrency
  cases hconcurrency

theorem not_rateKey_of_budget (hready : PreflightReady input start) {policy : BudgetPolicyRecord}
    (hp : policy ∈ input.budgetPolicies) (time : DateTime) :
    ¬ RateKey input (runtimeBudgetReservationKey policy time) := by
  rintro ⟨other, ho, -, later, hkey⟩
  exact hready.keys_apart hp ho _ _ hkey

theorem QuotaLoop.budgetKey_ne (h : QuotaLoop input start store base budgets quotas)
    (hready : PreflightReady input start) (hq : quota ∈ input.quotaPolicies) (time : DateTime) :
    runtimeQuotaCounterKey quota time ∉ budgets.map (·.counterKey) := by
  intro hmem
  obtain ⟨r, hr, hkey⟩ := List.mem_map.mp hmem
  obtain ⟨policy, hp, hpolicy⟩ := h.budget_origin r hr
  exact hready.keys_apart hp hq _ _ (hpolicy.symm.trans hkey)

theorem QuotaLoop.rate_notMem (h : QuotaLoop input start store base budgets quotas)
    (hready : PreflightReady input start) {key : String} (hkey : RateKey input key) :
    key ∉ (↑(budgets.map (·.counterKey)) + ↑(quotas.map (·.counterKey)) : Multiset String) := by
  rw [Multiset.mem_add, Multiset.mem_coe, Multiset.mem_coe, not_or]
  constructor
  · obtain ⟨quota, hq, -, time, rfl⟩ := hkey
    exact h.budgetKey_ne hready hq time
  · intro hmem
    obtain ⟨r, hr, rfl⟩ := List.mem_map.mp hmem
    obtain ⟨other, ho, hconcurrency, hother⟩ := h.quota_origin r hr
    rw [hother] at hkey
    exact not_rateKey_of_concurrency hready ho hconcurrency input.now hkey

theorem QuotaLoop.count_rate (h : QuotaLoop input start store base budgets quotas)
    (hready : PreflightReady input start) {key : String} (hrate : RateKey input key) (limit : Int) :
    QuotaLoop input start (store.incrementRuntimeQuotaCounter key 1 limit).1 (increment base key 1).1 budgets
      quotas := by
  refine ⟨?_, h.plain, ?_, h.allowances, h.budget_origin, h.quota_origin⟩
  · exact h.held.of_counters (h.held.holding.increment (h.rate_notMem hready hrate) 1) rfl
  · intro other hother
    have hne : other ≠ key := fun heq => hother (heq ▸ hrate)
    rw [value_increment_ne _ _ hne]
    exact h.base_eq other hother

theorem QuotaLoop.adjust_rate (h : QuotaLoop input start store base budgets quotas)
    (hready : PreflightReady input start) {key : String} (hrate : RateKey input key) (amount : Int) :
    QuotaLoop input start (store.adjustRuntimePolicyCounter key amount).1 (adjust base key amount).1 budgets
      quotas := by
  refine ⟨?_, h.plain, ?_, h.allowances, h.budget_origin, h.quota_origin⟩
  · exact h.held.of_counters (h.held.holding.adjust (h.rate_notMem hready hrate) amount) rfl
  · intro other hother
    have hne : other ≠ key := fun heq => hother (heq ▸ hrate)
    rw [value_adjust_ne _ _ hne]
    exact h.base_eq other hother

theorem coe_quotas_append (quotas : List RuntimeQuotaReservation) (reservation : RuntimeQuotaReservation) :
    (↑((quotas ++ [reservation]).map (·.counterKey)) : Multiset String) =
      reservation.counterKey ::ₘ ↑(quotas.map (·.counterKey)) := by
  rw [List.map_append, List.map_singleton, Multiset.cons_coe, Multiset.coe_eq_coe]
  exact List.perm_append_singleton _ _

theorem QuotaLoop.adjust_up (h : QuotaLoop input start store base budgets quotas)
    (hready : PreflightReady input start) (hq : quota ∈ input.quotaPolicies)
    (hconcurrency : quota.isConcurrency = true)
    (hout : runtimeQuotaCounterKey quota input.now ∉ quotas.map (·.counterKey)) :
    Holding base (adjust store.runtimeQuotaCounters (runtimeQuotaCounterKey quota input.now) 1).1
      (runtimeQuotaCounterKey quota input.now ::ₘ
        (↑(budgets.map (·.counterKey)) + ↑(quotas.map (·.counterKey)))) := by
  obtain ⟨hlow, hhigh⟩ := hready.quota_counters quota hq hconcurrency
  have hbase := h.base_eq _ (not_rateKey_of_concurrency hready hq hconcurrency input.now)
  have hcount : (↑(budgets.map (·.counterKey)) + ↑(quotas.map (·.counterKey)) : Multiset String).count
      (runtimeQuotaCounterKey quota input.now) = 0 := by
    rw [Multiset.count_eq_zero, Multiset.mem_add, Multiset.mem_coe, Multiset.mem_coe, not_or]
    exact ⟨h.budgetKey_ne hready hq input.now, hout⟩
  apply h.held.holding.acquire
  · rw [hbase]
    exact hlow
  · rw [hbase, hcount]
    simpa using hhigh

theorem QuotaLoop.acquire (h : QuotaLoop input start store base budgets quotas)
    (hready : PreflightReady input start) (hq : quota ∈ input.quotaPolicies)
    (hconcurrency : quota.isConcurrency = true)
    (hout : runtimeQuotaCounterKey quota input.now ∉ quotas.map (·.counterKey)) :
    QuotaLoop input start (store.adjustRuntimePolicyCounter (runtimeQuotaCounterKey quota input.now) 1).1 base budgets
      (quotas ++ [⟨runtimeQuotaCounterKey quota input.now, 1, .hotState⟩]) := by
  refine ⟨?_, ?_, h.base_eq, h.allowances, h.budget_origin, ?_⟩
  · refine h.held.of_counters ?_ rfl
    rw [coe_quotas_append, Multiset.add_cons]
    exact h.adjust_up hready hq hconcurrency hout
  · intro r hr
    rcases List.mem_append.mp hr with hr | hr
    · exact h.plain r hr
    · rw [List.mem_singleton.mp hr]
      exact ⟨rfl, rfl⟩
  · intro r hr
    rcases List.mem_append.mp hr with hr | hr
    · exact h.quota_origin r hr
    · rw [List.mem_singleton.mp hr]
      exact ⟨quota, hq, hconcurrency, rfl⟩

theorem QuotaLoop.give_back (h : QuotaLoop input start store base budgets quotas)
    (hready : PreflightReady input start) (hq : quota ∈ input.quotaPolicies)
    (hconcurrency : quota.isConcurrency = true)
    (hout : runtimeQuotaCounterKey quota input.now ∉ quotas.map (·.counterKey)) :
    QuotaLoop input start ((store.adjustRuntimePolicyCounter (runtimeQuotaCounterKey quota input.now)
      1).1.adjustRuntimePolicyCounter (runtimeQuotaCounterKey quota input.now) (-1)).1 base budgets quotas := by
  refine ⟨h.held.of_counters ?_ rfl, h.plain, h.base_eq, h.allowances, h.budget_origin, h.quota_origin⟩
  have hback := (h.adjust_up hready hq hconcurrency hout).release (Multiset.mem_cons_self _ _)
  rwa [Multiset.erase_cons_head] at hback

/-- After an error every quota unit is given back and only request-rate counters may have moved. -/
def QuotaStopped (input : PreflightInput) (start store : RuntimePolicyStore)
    (budgets : List RuntimeBudgetReservation) : Prop :=
  ∃ base, BudgetHeld base start.runtimeBudgetLeases store budgets 0 ∧
    (∀ key, ¬ RateKey input key → value base key = start.runtimePolicyCounter key) ∧
    store.runtimePolicyLossAllowances = start.runtimePolicyLossAllowances

theorem QuotaLoop.stop (h : QuotaLoop input start store base budgets quotas) :
    QuotaStopped input start (releaseRuntimeQuotaReservations store quotas) budgets := by
  obtain ⟨hheld, hallowances⟩ := release_quotas h.plain h.held
  exact ⟨base, hheld, h.base_eq, hallowances.trans h.allowances⟩

/-- One policy of the loop with hot state available: it stops cleanly, or it goes on with at most one more unit,
held under its own key. -/
theorem QuotaLoop.step (h : QuotaLoop input start store base budgets quotas)
    (hready : PreflightReady input start) (hq : quota ∈ input.quotaPolicies)
    (hout : runtimeQuotaCounterKey quota input.now ∉ quotas.map (·.counterKey)) :
    (∃ error next, reserveQuotaPolicy input true quota quotas store = (.error error, next) ∧
      QuotaStopped input start next budgets) ∨
    ∃ reservation next base', reserveQuotaPolicy input true quota quotas store = (.ok reservation, next) ∧
      QuotaLoop input start next base' budgets (quotas ++ reservation.toList) ∧
      ∀ r ∈ reservation, r.counterKey = runtimeQuotaCounterKey quota input.now := by
  have hconcurrent : ∀ reason, quota.isConcurrency = true →
      (∃ error next, reserveQuotaPolicy.acquire input quota quotas store reason = (.error error, next) ∧
        QuotaStopped input start next budgets) ∨
      ∃ reservation next base',
        reserveQuotaPolicy.acquire input quota quotas store reason = (.ok reservation, next) ∧
        QuotaLoop input start next base' budgets (quotas ++ reservation.toList) ∧
        ∀ r ∈ reservation, r.counterKey = runtimeQuotaCounterKey quota input.now := by
    intro reason hconcurrency
    by_cases hlimit :
        quota.limit < (store.adjustRuntimePolicyCounter (runtimeQuotaCounterKey quota input.now) 1).2
    · refine .inl ⟨.quotaExceeded reason, _, ?_, (h.give_back hready hq hconcurrency hout).stop⟩
      simp only [reserveQuotaPolicy.acquire, reserveRuntimeQuotaCounter, if_pos hlimit]
    · refine .inr ⟨some ⟨runtimeQuotaCounterKey quota input.now, 1, .hotState⟩, _, base, ?_,
        h.acquire hready hq hconcurrency hout, by simp⟩
      simp only [reserveQuotaPolicy.acquire, reserveRuntimeQuotaCounter, if_neg hlimit]
  unfold reserveQuotaPolicy
  simp only [Bool.not_true, Bool.and_false, Bool.false_eq_true, if_false]
  split
  · rename_i hkind _
    have hrate : RateKey input (runtimeQuotaCounterKey quota input.now) :=
      ⟨quota, hq, by simp [QuotaPolicyRecord.isConcurrency, hkind], input.now, rfl⟩
    have hcounted := h.count_rate hready hrate quota.limit
    split
    · exact .inl ⟨_, _, rfl, hcounted.stop⟩
    · exact .inr ⟨none, _, _, rfl, by simpa using hcounted, by simp⟩
  · rename_i hkind _
    exact hconcurrent _ (by simp [QuotaPolicyRecord.isConcurrency, hkind])
  · rename_i hkind _
    exact hconcurrent _ (by simp [QuotaPolicyRecord.isConcurrency, hkind])
  · exact .inr ⟨none, store, base, rfl, by simpa using h, by simp⟩

/-- With hot state available the loop either stops with nothing of the quotas held, or ends with what it reserved. -/
theorem reserveRuntimeQuotaPreflight_hot {policies : List QuotaPolicyRecord} (hready : PreflightReady input start)
    (hpolicies : ∀ quota ∈ policies, quota ∈ input.quotaPolicies)
    (hnodup : (policies.map (·.quotaPolicyId)).Nodup) (h : QuotaLoop input start store base budgets quotas)
    (hahead : ∀ quota ∈ policies, runtimeQuotaCounterKey quota input.now ∉ quotas.map (·.counterKey)) :
    (∃ error final, reserveRuntimeQuotaPreflight input true policies quotas store = (.error error, final) ∧
      QuotaStopped input start final budgets) ∨
    ∃ reserved final base', reserveRuntimeQuotaPreflight input true policies quotas store = (.ok reserved, final) ∧
      QuotaLoop input start final base' budgets reserved := by
  induction policies generalizing quotas store base with
  | nil => exact .inr ⟨quotas, store, base, rfl, h⟩
  | cons quota policies ih =>
    have hrest := fun other hother => hpolicies other (List.mem_cons_of_mem _ hother)
    obtain ⟨hfresh, hnodup'⟩ := List.nodup_cons.mp hnodup
    have hq := hpolicies quota List.mem_cons_self
    rw [reserveRuntimeQuotaPreflight]
    split
    · exact ih hrest hnodup' h (fun other hother => hahead other (List.mem_cons_of_mem _ hother))
    · rcases h.step hready hq (hahead quota List.mem_cons_self) with
        ⟨error', next, heq, hstopped⟩ | ⟨reservation, next, base', heq, hnext, hkeys⟩
      · rw [heq]
        exact .inl ⟨error', next, rfl, hstopped⟩
      · rw [heq]
        refine ih hrest hnodup' hnext (fun other hother hmem => ?_)
        rw [List.map_append, List.mem_append] at hmem
        rcases hmem with hold | hnew
        · exact hahead other (List.mem_cons_of_mem _ hother) hold
        · obtain ⟨r, hr, hkey⟩ := List.mem_map.mp hnew
          have hown := hkeys r (Option.mem_toList.mp hr)
          have hsame := hready.quota_of_key (hrest other hother) hq (hkey.symm.trans hown)
          exact hfresh (List.mem_map.mpr ⟨other, hother, by rw [hsame]⟩)

end QuotaStep

end Starweaver.Gateway
