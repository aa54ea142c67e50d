import Starweaver.Gateway.PreflightRollback
import Starweaver.Gateway.TerminalUsage

namespace Starweaver.Gateway

open Library Library.Calendar Library.Checks Library.Counters Library.MachineInt Library.SortBy

/-- What an admitted request holds: units of the hot state, or allowances taken while hot state is unavailable. -/
def PreflightHeld (input : PreflightInput) (start store : RuntimePolicyStore) (preflight : RuntimePolicyPreflight) :
    Prop :=
  (∃ base, QuotaLoop input start store base preflight.budgetReservations preflight.quotaReservations) ∨
  (BudgetHeld start.runtimeQuotaCounters start.runtimeBudgetLeases store preflight.budgetReservations 0 ∧
    store.runtimePolicyHotStateAvailable = false ∧ ∃ taken, (∀ quota ∈ taken, quota ∈ input.quotaPolicies) ∧
      (taken.map (·.quotaPolicyId)).Nodup ∧ preflight.quotaReservations = lossReservations input taken ∧
      LossTaken input start store taken)

section Admitted

variable {input : PreflightInput} {start store : RuntimePolicyStore} {preflight : RuntimePolicyPreflight}

theorem enforceRuntimeBudgetPreflight_held (hready : PreflightReady input start)
    {reservations : List RuntimeBudgetReservation}
    (hok : enforceRuntimeBudgetPreflight input start = (.ok reservations, store)) :
    BudgetLoop input start store reservations ∧ ∀ r ∈ reservations, ∃ policy ∈ input.budgetPolicies,
      r.counterKey = runtimeBudgetReservationKey policy input.now := by
  unfold enforceRuntimeBudgetPreflight at hok
  split at hok
  · cases hok
  cases hstop : budgetStop input start with
  | some found =>
    obtain ⟨error, next, heq⟩ := budgetStop_error hready hstop
    rw [heq] at hok
    cases hok
  | none =>
    obtain ⟨reservations', next, heq, hloop, horigin⟩ := budgetStop_none hready hstop
    rw [heq] at hok
    cases hok
    exact ⟨hloop, horigin⟩

theorem enforceRuntimeQuotaPreflight_held (hready : PreflightReady input start)
    {reservations : List RuntimeBudgetReservation} {quotas : List RuntimeQuotaReservation}
    {final : RuntimePolicyStore} (hloop : BudgetLoop input start store reservations) (horigin : ∀ r ∈ reservations,
      ∃ policy ∈ input.budgetPolicies, r.counterKey = runtimeBudgetReservationKey policy input.now)
    (hok : enforceRuntimeQuotaPreflight input store = (.ok quotas, final)) :
    PreflightHeld input start final ⟨reservations, quotas⟩ := by
  unfold enforceRuntimeQuotaPreflight at hok
  simp only at hok
  split at hok
  · cases hok
  cases hhot : store.runtimePolicyHotStateAvailable with
  | true =>
    rw [hhot] at hok
    rcases reserveRuntimeQuotaPreflight_hot hready (fun _ => matchingQuotaPolicies_mem)
        (matchingQuotaPolicies_nodup hready.quota_ids) (QuotaLoop.initial hloop horigin) (fun _ _ => by simp) with
      ⟨error, next, heq, -⟩ | ⟨reserved, next, base, heq, hnext⟩
    · rw [heq] at hok
      cases hok
    · rw [heq] at hok
      cases hok
      exact .inl ⟨base, hnext⟩
  | false =>
    rw [hhot] at hok
    cases hfailing : firstFailing (lossContinues input start) (matchingQuotaPolicies input) with
    | some found =>
      obtain ⟨error, next, heq, -⟩ := reserveRuntimeQuotaPreflight_loss_error hready
        (fun _ => matchingQuotaPolicies_mem) (matchingQuotaPolicies_nodup hready.quota_ids) hloop.lossTaken
        (fun _ _ _ hother => by cases hother) hfailing
      rw [heq] at hok
      cases hok
    | none =>
      obtain ⟨next, heq, hcounters, hleases, hflag, htaken⟩ := reserveRuntimeQuotaPreflight_loss_ok hready
        (fun _ => matchingQuotaPolicies_mem) (matchingQuotaPolicies_nodup hready.quota_ids) hloop.lossTaken
        (fun _ _ _ hother => by cases hother) hfailing
      rw [heq] at hok
      cases hok
      rw [List.nil_append] at htaken
      have hsub : List.Sublist (takenAllowances input start (matchingQuotaPolicies input))
        (matchingQuotaPolicies input) := List.filter_sublist
      refine .inr ⟨hloop.held.of_counters (hcounters ▸ hloop.held.holding) hleases,
        (congrArg Bool.not hflag).trans hhot, _, ?_, ?_, rfl, htaken⟩
      · exact fun quota hquota => matchingQuotaPolicies_mem (hsub.subset hquota)
      · exact (matchingQuotaPolicies_nodup hready.quota_ids).sublist (hsub.map _)

theorem enforceRuntimePolicyPreflight_held (hready : PreflightReady input start)
    (hok : enforceRuntimePolicyPreflight input start = (.ok preflight, store)) :
    PreflightHeld input start store preflight := by
  unfold enforceRuntimePolicyPreflight at hok
  cases hbudget : enforceRuntimeBudgetPreflight input start with
  | mk result next =>
    cases result with
    | error error =>
      rw [hbudget] at hok
      cases hok
    | ok reservations =>
      obtain ⟨hloop, horigin⟩ := enforceRuntimeBudgetPreflight_held hready hbudget
      cases hquota : enforceRuntimeQuotaPreflight input next with
      | mk result final =>
        cases result with
        | error error =>
          simp only [hbudget, hquota] at hok
          cases hok
        | ok quotas =>
          simp only [hbudget, hquota] at hok
          cases hok
          exact enforceRuntimeQuotaPreflight_held hready hloop horigin hquota

end Admitted

section Terminal

variable {input : PreflightInput} {start store : RuntimePolicyStore} {preflight : RuntimePolicyPreflight}
  {base : CounterMap String} {budgets : List RuntimeBudgetReservation} {quotas : List RuntimeQuotaReservation}
  {response : TerminalUsageInput}

theorem QuotaLoop.accumulate (h : QuotaLoop input start store base budgets quotas)
    (hready : PreflightReady input start) (actor : AuthenticatedActor) {counterKind : QuotaCounterKind}
    (hkind : counterKind ≠ .concurrentRequest ∧ counterKind ≠ .concurrentStream)
    (incrementSource : QuotaIncrementSource) (amount : Int) :
    ∃ base', QuotaLoop input start (accumulateTerminalQuota input.quotaPolicies actor response counterKind
      incrementSource amount store) base' budgets quotas := by
  unfold accumulateTerminalQuota
  have hall : ∀ policy ∈ (quotaPoliciesForTenant input.quotaPolicies actor.tenantId).filter fun policy =>
      policy.status == .active && policy.counterKind == counterKind && policy.incrementSource == incrementSource &&
        runtimeQuotaPolicyMatchesRequest policy actor response.replayCase (some response.selected),
      RateKey input (runtimeQuotaCounterKey policy response.endedAt) := by
    intro policy hpolicy
    obtain ⟨hmem, htest⟩ := List.mem_filter.mp hpolicy
    simp only [Bool.and_eq_true, beq_iff_eq] at htest
    refine ⟨policy, List.mem_of_mem_filter (mem_sortBy.mp hmem), ?_, _, rfl⟩
    simp [QuotaPolicyRecord.isConcurrency, htest.1.1.2, hkind]
  generalize (quotaPoliciesForTenant input.quotaPolicies actor.tenantId).filter _ = policies at hall
  induction policies generalizing store base with
  | nil => exact ⟨base, h⟩
  | cons policy policies ih =>
    rw [List.foldl_cons]
    exact ih (h.adjust_rate hready (hall policy List.mem_cons_self) amount)
      (fun other hother => hall other (List.mem_cons_of_mem _ hother))

/-- The terminal accounting of a response keeps what the request holds. -/
theorem PreflightHeld.terminal (h : PreflightHeld input start store preflight) (hready : PreflightReady input start)
    (actor : AuthenticatedActor) (response : TerminalUsageInput) (usagePayload : Json) :
    PreflightHeld input start
      (finalizeRuntimeQuotaTerminal input.quotaPolicies actor response usagePayload store) preflight := by
  unfold finalizeRuntimeQuotaTerminal
  rcases h with ⟨base, hloop⟩ | ⟨hheld, hunavailable, htaken⟩
  · split
    · exact .inl ⟨base, hloop⟩
    have htokens : ∃ base', QuotaLoop input start (finalizeRuntimeTokenActualQuotaTerminal input.quotaPolicies actor
        response usagePayload store) base' preflight.budgetReservations preflight.quotaReservations := by
      unfold finalizeRuntimeTokenActualQuotaTerminal
      split
      · exact ⟨base, hloop⟩
      · exact hloop.accumulate hready actor (by decide) _ _
    obtain ⟨base', htokens⟩ := htokens
    unfold finalizeRuntimeStreamDurationQuotaTerminal
    split
    · exact .inl ⟨base', htokens⟩
    · exact .inl (htokens.accumulate hready actor (by decide) _ _)
  · rw [if_pos (by simp [hunavailable])]
    exact .inr ⟨hheld, hunavailable, htaken⟩

end Terminal

section Release

variable {input : PreflightInput} {start store : RuntimePolicyStore} {preflight : RuntimePolicyPreflight}
  {taken : List QuotaPolicyRecord}

theorem release_lossReservations_cons (input : PreflightInput) (quota : QuotaPolicyRecord)
    (taken : List QuotaPolicyRecord) (store : RuntimePolicyStore) (hconcurrency : quota.isConcurrency = true) :
    releaseRuntimeQuotaReservations store (lossReservations input (quota :: taken)) =
      releaseRuntimeQuotaReservations
        (store.adjustRuntimePolicyLossAllowanceCounter (runtimeQuotaLossAllowanceKey quota input.now) (-1)).1
        (lossReservations input taken) := by
  unfold lossReservations releaseRuntimeQuotaReservations
  rw [List.filter_cons_of_pos hconcurrency, List.map_cons, List.foldl_cons]

theorem release_lossReservations_frame (input : PreflightInput) (taken : List QuotaPolicyRecord)
    (store : RuntimePolicyStore) :
    (releaseRuntimeQuotaReservations store (lossReservations input taken)).runtimeQuotaCounters =
        store.runtimeQuotaCounters ∧
      (releaseRuntimeQuotaReservations store (lossReservations input taken)).runtimeBudgetLeases =
        store.runtimeBudgetLeases := by
  induction taken generalizing store with
  | nil => exact ⟨rfl, rfl⟩
  | cons quota taken ih =>
    by_cases hconcurrency : quota.isConcurrency = true
    · rw [release_lossReservations_cons input quota taken store hconcurrency]
      exact ih _
    · unfold lossReservations at ih ⊢
      rw [List.filter_cons_of_neg hconcurrency]
      exact ih store

theorem release_lossReservations_ne (key : String)
    (hkey : ∀ quota ∈ taken, quota.isConcurrency = true → key ≠ runtimeQuotaLossAllowanceKey quota input.now) :
    (releaseRuntimeQuotaReservations store (lossReservations input taken)).runtimePolicyLossAllowanceCounter key =
      store.runtimePolicyLossAllowanceCounter key := by
  induction taken generalizing store with
  | nil => rfl
  | cons quota taken ih =>
    have hrest := fun other hother => hkey other (List.mem_cons_of_mem _ hother)
    by_cases hconcurrency : quota.isConcurrency = true
    · rw [release_lossReservations_cons input quota taken store hconcurrency, ih hrest]
      exact value_adjust_ne _ _ (hkey quota List.mem_cons_self hconcurrency)
    · have hskip : lossReservations input (quota :: taken) = lossReservations input taken := by
        unfold lossReservations
        rw [List.filter_cons_of_neg hconcurrency]
      rw [hskip]
      exact ih hrest

theorem release_lossReservations_self (hready : PreflightReady input start)
    (hin : ∀ quota ∈ taken, quota ∈ input.quotaPolicies) (hnodup : (taken.map (·.quotaPolicyId)).Nodup)
    {quota : QuotaPolicyRecord} (hmem : quota ∈ taken) (hconcurrency : quota.isConcurrency = true)
    (hlow : 1 ≤ store.runtimePolicyLossAllowanceCounter (runtimeQuotaLossAllowanceKey quota input.now))
    (hhigh : store.runtimePolicyLossAllowanceCounter (runtimeQuotaLossAllowanceKey quota input.now) ≤ i64Max) :
    (releaseRuntimeQuotaReservations store (lossReservations input taken)).runtimePolicyLossAllowanceCounter
        (runtimeQuotaLossAllowanceKey quota input.now) =
      store.runtimePolicyLossAllowanceCounter (runtimeQuotaLossAllowanceKey quota input.now) - 1 := by
  obtain ⟨before, after, rfl⟩ := List.append_of_mem hmem
  have hapart : ∀ other ∈ before ++ after, runtimeQuotaLossAllowanceKey quota input.now ≠
      runtimeQuotaLossAllowanceKey other input.now := by
    intro other hother heq
    have ho : other ∈ input.quotaPolicies := hin other (by
      rcases List.mem_append.mp hother with hother | hother <;> simp [hother])
    have hsame := hready.quota_of_key (hin quota hmem) ho (runtimeQuotaLossAllowanceKey_inj heq)
    rw [List.map_append, List.map_cons] at hnodup
    have hfresh := (List.nodup_middle.mp hnodup).notMem
    apply hfresh
    rw [← List.map_append]
    exact List.mem_map.mpr ⟨other, hother, by rw [hsame]⟩
  have hsplit : releaseRuntimeQuotaReservations store (lossReservations input (before ++ quota :: after)) =
      releaseRuntimeQuotaReservations (releaseRuntimeQuotaReservations store (lossReservations input before))
        (lossReservations input (quota :: after)) := by
    rw [lossReservations_append]
    exact List.foldl_append
  have hbefore : (releaseRuntimeQuotaReservations store (lossReservations input before)).runtimePolicyLossAllowanceCounter
      (runtimeQuotaLossAllowanceKey quota input.now) =
        store.runtimePolicyLossAllowanceCounter (runtimeQuotaLossAllowanceKey quota input.now) :=
    release_lossReservations_ne _ (fun other hother _ => hapart other (by simp [hother]))
  rw [hsplit, release_lossReservations_cons input quota after _ hconcurrency,
    release_lossReservations_ne _ (fun other hother _ => hapart other (by simp [hother]))]
  refine (value_adjust_self _ _ (-1)).trans ?_
  unfold RuntimePolicyStore.runtimePolicyLossAllowanceCounter at hbefore hlow hhigh ⊢
  rw [adjust_of_bounds _ _ _ (by omega) (by omega)]
  omega

theorem LossTaken.release (h : LossTaken input start store taken) (hready : PreflightReady input start)
    (hin : ∀ quota ∈ taken, quota ∈ input.quotaPolicies) (hnodup : (taken.map (·.quotaPolicyId)).Nodup)
    {quota : QuotaPolicyRecord} (hq : quota ∈ input.quotaPolicies) (hconcurrency : quota.isConcurrency = true)
    (time : DateTime) :
    (releaseRuntimeQuotaReservations store (lossReservations input taken)).runtimePolicyLossAllowanceCounter
        (runtimeQuotaLossAllowanceKey quota time) =
      start.runtimePolicyLossAllowanceCounter (runtimeQuotaLossAllowanceKey quota time) := by
  by_cases hmoved : ∃ other ∈ taken,
      runtimeQuotaLossAllowanceKey quota time = runtimeQuotaLossAllowanceKey other input.now
  · obtain ⟨other, hother, hkey⟩ := hmoved
    have hsame := hready.quota_of_key hq (hin other hother) (runtimeQuotaLossAllowanceKey_inj hkey)
    subst hsame
    rw [hkey]
    obtain ⟨hlow, hroom⟩ := hready.allowances quota hq hconcurrency
    have htouched := h.touched quota hother
    rw [saturatingAdd_of_le (by unfold i64Min; omega) (by omega)] at htouched
    rw [release_lossReservations_self hready hin hnodup hother hconcurrency (by omega) (by omega)]
    omega
  · simp only [not_exists, not_and] at hmoved
    rw [release_lossReservations_ne _ (fun other hother _ => hmoved other hother)]
    exact h.untouched _ hmoved

/-- Releasing what an admitted request holds leaves nothing of it. -/
theorem PreflightHeld.release (h : PreflightHeld input start store preflight) (hready : PreflightReady input start) :
    Restored input start (releaseRuntimePolicyReservations store preflight) := by
  unfold releaseRuntimePolicyReservations
  rcases h with ⟨base, hloop⟩ | ⟨hheld, -, taken, hin, hnodup, hquotas, htaken⟩
  · obtain ⟨hbudgets, hsame⟩ := hloop.held.release
    obtain ⟨hreleased, hsame'⟩ := release_quotas hloop.plain hbudgets
    refine Restored.of_held hready hreleased hloop.base_eq (fun quota _ _ time => ?_)
    unfold RuntimePolicyStore.runtimePolicyLossAllowanceCounter
    rw [hsame', hsame, hloop.allowances]
  · obtain ⟨hbudgets, hsame⟩ := hheld.release
    have htaken' : LossTaken input start
        (releaseRuntimeBudgetReservations store preflight.budgetReservations) taken := by
      constructor
      · intro key hkey
        exact (congrArg (value · key) hsame).trans (htaken.untouched key hkey)
      · intro quota hquota
        exact (congrArg (value · _) hsame).trans (htaken.touched quota hquota)
    rw [hquotas]
    obtain ⟨hcounters, hleases⟩ := release_lossReservations_frame input taken
      (releaseRuntimeBudgetReservations store preflight.budgetReservations)
    refine Restored.of_held hready (hbudgets.of_counters (hcounters ▸ hbudgets.holding) hleases)
      (fun _ _ => rfl) (fun quota hq hconcurrency time => ?_)
    exact htaken'.release hready hin hnodup hq hconcurrency time

end Release

end Starweaver.Gateway
