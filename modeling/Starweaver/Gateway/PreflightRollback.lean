import Starweaver.Gateway.PreflightLoss

namespace Starweaver.Gateway

open Library.Calendar Library.Checks Library.Counters Library.MachineInt Library.Separated Library.SortBy

/-- Nothing of a call is left: every budget and concurrency counter is back, and no lease that the call created is
still reserved. -/
structure Restored (input : PreflightInput) (start final : RuntimePolicyStore) : Prop where
  budgets : ∀ policy ∈ input.budgetPolicies, ∀ time,
    final.runtimePolicyCounter (runtimeBudgetReservationKey policy time) =
      start.runtimePolicyCounter (runtimeBudgetReservationKey policy time)
  quotas : ∀ quota ∈ input.quotaPolicies, quota.isConcurrency = true → ∀ time,
    final.runtimePolicyCounter (runtimeQuotaCounterKey quota time) =
      start.runtimePolicyCounter (runtimeQuotaCounterKey quota time)
  allowances : ∀ quota ∈ input.quotaPolicies, quota.isConcurrency = true → ∀ time,
    final.runtimePolicyLossAllowanceCounter (runtimeQuotaLossAllowanceKey quota time) =
      start.runtimePolicyLossAllowanceCounter (runtimeQuotaLossAllowanceKey quota time)
  leases : ∀ id lease, start.runtimeBudgetLeases.lookup id = none →
    final.runtimeBudgetLeases.lookup id = some lease → lease.status ≠ .reserved

/-- The budget policies of the tenant up to the first one that does not let the request go on. -/
def budgetStop (input : PreflightInput) (start : RuntimePolicyStore) :
    Option (List BudgetPolicyRecord × BudgetPolicyRecord) :=
  firstFailing (budgetContinues input start) (budgetPoliciesForTenant input.budgetPolicies input.actor.tenantId)

/-- The policies that had reserved a unit when a later policy refused its own reservation. -/
def strandedReservations (input : PreflightInput) (start : RuntimePolicyStore) : List BudgetPolicyRecord :=
  if (activeForceBudgetBlockPolicy input).isSome then []
  else match budgetStop input start with
    | some (before, policy) =>
      if budgetDecision input start policy = .refused then
        before.filter fun other => budgetDecision input start other == .reserves
      else []
    | none => []

/-- The concurrency policies whose loss allowance had been taken when a later policy, or the policy itself,
refused the request. -/
def strandedAllowances (input : PreflightInput) (start : RuntimePolicyStore) : List QuotaPolicyRecord :=
  if (activeForceBudgetBlockPolicy input).isSome || (budgetStop input start).isSome ||
      start.runtimePolicyHotStateAvailable then []
  else match enforceRuntimeQuotaPreflightLimits input start false (matchingQuotaPolicies input),
      firstFailing (lossContinues input start) (matchingQuotaPolicies input) with
    | .ok (), some (before, quota) => (usedAllowances input start before quota).filter (·.isConcurrency)
    | _, _ => []

section Rollback

variable {input : PreflightInput} {start store final : RuntimePolicyStore} {error : GatewayError}

theorem budgetPoliciesForTenant_mem {policy : BudgetPolicyRecord}
    (h : policy ∈ budgetPoliciesForTenant input.budgetPolicies input.actor.tenantId) :
    policy ∈ input.budgetPolicies :=
  List.mem_of_mem_filter (mem_sortBy.mp h)

theorem budgetPoliciesForTenant_nodup (hids : (input.budgetPolicies.map (·.budgetPolicyId)).Nodup) :
    ((budgetPoliciesForTenant input.budgetPolicies input.actor.tenantId).map (·.budgetPolicyId)).Nodup := by
  have hperm := (sortBy_perm (fun left right : BudgetPolicyRecord =>
    (compare left.scopeKind.asStr right.scopeKind.asStr).then ((compare left.scopeId right.scopeId).then
      ((compare left.limitKind.asStr right.limitKind.asStr).then
        (compare left.budgetPolicyId right.budgetPolicyId))))
    (input.budgetPolicies.filter fun policy => policy.tenantId == input.actor.tenantId)).map (·.budgetPolicyId)
  exact hperm.nodup_iff.mpr (hids.sublist (List.filter_sublist.map _))

theorem matchingQuotaPolicies_mem {quota : QuotaPolicyRecord} (h : quota ∈ matchingQuotaPolicies input) :
    quota ∈ input.quotaPolicies :=
  List.mem_of_mem_filter (mem_sortBy.mp (List.mem_of_mem_filter h))

theorem matchingQuotaPolicies_nodup (hids : (input.quotaPolicies.map (·.quotaPolicyId)).Nodup) :
    ((matchingQuotaPolicies input).map (·.quotaPolicyId)).Nodup := by
  have hperm := (sortBy_perm (fun left right : QuotaPolicyRecord =>
    (compare left.scopeKind.asStr right.scopeKind.asStr).then ((compare left.scopeId right.scopeId).then
      ((compare left.counterKind.asStr right.counterKind.asStr).then
        (compare left.quotaPolicyId right.quotaPolicyId))))
    (input.quotaPolicies.filter fun policy => policy.tenantId == input.actor.tenantId)).map (·.quotaPolicyId)
  have hsorted : ((quotaPoliciesForTenant input.quotaPolicies input.actor.tenantId).map (·.quotaPolicyId)).Nodup :=
    hperm.nodup_iff.mpr (hids.sublist (List.filter_sublist.map _))
  exact hsorted.sublist (List.filter_sublist.map _)

theorem BudgetLoop.initial (input : PreflightInput) (start : RuntimePolicyStore) :
    BudgetLoop input start start [] := by
  have hheld : BudgetHeld start.runtimeQuotaCounters start.runtimeBudgetLeases start [] 0 := by
    refine ⟨Holding.none _, by simp, by simp, by simp, ?_, by simp⟩
    intro id lease hlookup _ hfresh
    rw [hfresh] at hlookup
    cases hlookup
  exact ⟨hheld, rfl, rfl, by simp⟩

theorem Restored.of_held (hready : PreflightReady input start) {base : CounterMap String}
    (hheld : BudgetHeld base start.runtimeBudgetLeases final [] 0)
    (hbase : ∀ key, ¬ RateKey input key → value base key = start.runtimePolicyCounter key)
    (hallowances : ∀ quota ∈ input.quotaPolicies, quota.isConcurrency = true → ∀ time,
      final.runtimePolicyLossAllowanceCounter (runtimeQuotaLossAllowanceKey quota time) =
        start.runtimePolicyLossAllowanceCounter (runtimeQuotaLossAllowanceKey quota time)) :
    Restored input start final := by
  have hvalue : ∀ key, ¬ RateKey input key → final.runtimePolicyCounter key = start.runtimePolicyCounter key := by
    intro key hkey
    exact (hheld.holding.value_of_notMem (Multiset.notMem_zero key)).trans (hbase key hkey)
  refine ⟨fun policy hp time => hvalue _ (not_rateKey_of_budget hready hp time),
    fun quota hq hc time => hvalue _ (not_rateKey_of_concurrency hready hq hc time), hallowances, ?_⟩
  intro id lease hfresh hlookup hstatus
  exact absurd (hheld.created id lease hlookup hstatus hfresh) (by simp)

theorem not_restored_of_held {base : CounterMap String} {left : List RuntimeBudgetReservation}
    (hheld : BudgetHeld base start.runtimeBudgetLeases final left 0) (hleft : left ≠ []) :
    ¬ Restored input start final := by
  intro h
  obtain ⟨reservation, hr⟩ := List.exists_mem_of_ne_nil left hleft
  obtain ⟨lease, hlookup, hstatus⟩ := hheld.reserved reservation hr
  exact h.leases _ lease (hheld.fresh reservation hr) hlookup hstatus

theorem Restored.of_eq (h : start = final) : Restored input start final := by
  subst h
  refine ⟨fun _ _ _ => rfl, fun _ _ _ _ => rfl, fun _ _ _ _ => rfl, ?_⟩
  intro id lease hfresh hlookup
  rw [hfresh] at hlookup
  cases hlookup

theorem budgetStop_error (hready : PreflightReady input start) {before : List BudgetPolicyRecord}
    {policy : BudgetPolicyRecord} (hstop : budgetStop input start = some (before, policy)) :
    ∃ error next, reserveBudgetPolicies input
      (budgetPoliciesForTenant input.budgetPolicies input.actor.tenantId) [] start = (.error error, next) := by
  obtain ⟨error, next, left, heq, -⟩ :=
    reserveBudgetPolicies_error hready (fun _ => budgetPoliciesForTenant_mem) (budgetPoliciesForTenant_nodup hready.budget_ids)
      (BudgetLoop.initial input start) (fun _ _ => by simp) hstop
  exact ⟨error, next, heq⟩

theorem budgetStop_some (hready : PreflightReady input start) {before : List BudgetPolicyRecord}
    {policy : BudgetPolicyRecord} (hstop : budgetStop input start = some (before, policy))
    (herror : reserveBudgetPolicies input (budgetPoliciesForTenant input.budgetPolicies input.actor.tenantId) [] start =
      (.error error, final)) :
    Restored input start final ↔ (budgetDecision input start policy = .refused →
      ∀ other ∈ before, budgetDecision input start other ≠ .reserves) := by
  obtain ⟨error', next, left, heq, hheld, hallowances, hleft⟩ :=
    reserveBudgetPolicies_error hready (fun _ => budgetPoliciesForTenant_mem) (budgetPoliciesForTenant_nodup hready.budget_ids)
      (BudgetLoop.initial input start) (fun _ _ => by simp) hstop
  rw [heq] at herror
  cases herror
  simp only [true_and] at hleft
  rw [← hleft]
  constructor
  · intro hrestored
    by_contra hne
    exact not_restored_of_held hheld hne hrestored
  · intro hnil
    subst hnil
    refine Restored.of_held hready hheld (fun _ _ => rfl) (fun quota _ _ time => ?_)
    unfold RuntimePolicyStore.runtimePolicyLossAllowanceCounter
    rw [hallowances]

theorem budgetStop_none (hready : PreflightReady input start) (hstop : budgetStop input start = none) :
    ∃ reservations next, reserveBudgetPolicies input
        (budgetPoliciesForTenant input.budgetPolicies input.actor.tenantId) [] start = (.ok reservations, next) ∧
      BudgetLoop input start next reservations ∧ ∀ r ∈ reservations, ∃ policy ∈ input.budgetPolicies,
        r.counterKey = runtimeBudgetReservationKey policy input.now := by
  obtain ⟨reservations, next, heq, hloop, hfrom⟩ :=
    reserveBudgetPolicies_ok hready (fun _ => budgetPoliciesForTenant_mem) (budgetPoliciesForTenant_nodup hready.budget_ids)
      (BudgetLoop.initial input start) (fun _ _ => by simp) hstop
  refine ⟨reservations, next, heq, hloop, fun r hr => ?_⟩
  rcases hfrom r hr with hr | ⟨policy, hp, hkey⟩
  · cases hr
  · exact ⟨policy, budgetPoliciesForTenant_mem hp, hkey⟩

theorem QuotaLoop.initial {reservations : List RuntimeBudgetReservation}
    (hloop : BudgetLoop input start store reservations) (horigin : ∀ r ∈ reservations,
      ∃ policy ∈ input.budgetPolicies, r.counterKey = runtimeBudgetReservationKey policy input.now) :
    QuotaLoop input start store start.runtimeQuotaCounters reservations [] :=
  ⟨hloop.held, by simp, fun _ _ => rfl, hloop.allowances, horigin, by simp⟩

theorem QuotaStopped.restored (hready : PreflightReady input start) {reservations : List RuntimeBudgetReservation}
    (h : QuotaStopped input start store reservations) :
    Restored input start (releaseRuntimeBudgetReservations store reservations) := by
  obtain ⟨base, hheld, hbase, hallowances⟩ := h
  obtain ⟨hreleased, hsame⟩ := hheld.release
  refine Restored.of_held hready hreleased hbase (fun quota _ _ time => ?_)
  unfold RuntimePolicyStore.runtimePolicyLossAllowanceCounter
  rw [hsame, hallowances]

theorem BudgetLoop.stopped {reservations : List RuntimeBudgetReservation}
    (hloop : BudgetLoop input start store reservations) : QuotaStopped input start store reservations :=
  ⟨start.runtimeQuotaCounters, hloop.held, fun _ _ => rfl, hloop.allowances⟩

theorem BudgetLoop.lossTaken {reservations : List RuntimeBudgetReservation}
    (hloop : BudgetLoop input start store reservations) : LossTaken input start store [] := by
  refine ⟨fun key _ => ?_, by simp⟩
  unfold RuntimePolicyStore.runtimePolicyLossAllowanceCounter
  rw [hloop.allowances]

theorem LossTaken.allowances_iff (hready : PreflightReady input start) {taken : List QuotaPolicyRecord}
    (hin : ∀ quota ∈ taken, quota ∈ input.quotaPolicies) (h : LossTaken input start store taken) :
    (∀ quota ∈ input.quotaPolicies, quota.isConcurrency = true → ∀ time,
      store.runtimePolicyLossAllowanceCounter (runtimeQuotaLossAllowanceKey quota time) =
        start.runtimePolicyLossAllowanceCounter (runtimeQuotaLossAllowanceKey quota time)) ↔
      taken.filter (·.isConcurrency) = [] := by
  rw [List.filter_eq_nil_iff]
  constructor
  · intro hsame quota hquota hconcurrency
    have hmoved := h.touched quota hquota
    rw [hsame quota (hin quota hquota) hconcurrency input.now] at hmoved
    obtain ⟨hlow, hroom⟩ := hready.allowances quota (hin quota hquota) hconcurrency
    rw [saturatingAdd_of_le (by unfold i64Min; omega) (by omega)] at hmoved
    omega
  · intro hnone quota hq hconcurrency time
    apply h.untouched
    intro other hother hkey
    have hsame := hready.quota_of_key hq (hin other hother) (runtimeQuotaLossAllowanceKey_inj hkey)
    exact hnone other hother (hsame ▸ hconcurrency)

theorem usedAllowances_mem {before : List QuotaPolicyRecord} {quota other : QuotaPolicyRecord}
    (hstop : firstFailing (lossContinues input start) (matchingQuotaPolicies input) = some (before, quota))
    (h : other ∈ usedAllowances input start before quota) : other ∈ input.quotaPolicies := by
  obtain ⟨hbefore, hquota⟩ := firstFailing_mem hstop
  rcases List.mem_append.mp h with hother | hother
  · exact matchingQuotaPolicies_mem (hbefore other (List.mem_of_mem_filter hother))
  · split at hother
    · rw [List.mem_singleton.mp hother]
      exact matchingQuotaPolicies_mem hquota
    · cases hother

/-- With hot state unavailable no budget reservation exists, and the quota loop leaves the allowances it used. -/
theorem lossStop_iff (hready : PreflightReady input start) {reservations : List RuntimeBudgetReservation}
    (hloop : BudgetLoop input start store reservations) {before : List QuotaPolicyRecord} {quota : QuotaPolicyRecord}
    (hstop : firstFailing (lossContinues input start) (matchingQuotaPolicies input) = some (before, quota))
    (herror : reserveRuntimeQuotaPreflight input false (matchingQuotaPolicies input) [] store =
      (.error error, final)) :
    Restored input start (releaseRuntimeBudgetReservations final reservations) ↔
      (usedAllowances input start before quota).filter (·.isConcurrency) = [] := by
  obtain ⟨error', next, heq, hcounters, hleases, htaken⟩ :=
    reserveRuntimeQuotaPreflight_loss_error hready (fun _ => matchingQuotaPolicies_mem)
      (matchingQuotaPolicies_nodup hready.quota_ids) hloop.lossTaken (fun _ _ _ hother => by cases hother) hstop
  rw [heq] at herror
  cases herror
  rw [List.nil_append] at htaken
  have hheld : BudgetHeld start.runtimeQuotaCounters start.runtimeBudgetLeases final reservations 0 :=
    hloop.held.of_counters (hcounters ▸ hloop.held.holding) hleases
  obtain ⟨hreleased, hsame⟩ := hheld.release
  have hallowances := htaken.allowances_iff hready (fun other hother => usedAllowances_mem hstop hother)
  rw [← hallowances]
  unfold RuntimePolicyStore.runtimePolicyLossAllowanceCounter at *
  constructor
  · intro hrestored other ho hconcurrency time
    have hback := hrestored.allowances other ho hconcurrency time
    unfold RuntimePolicyStore.runtimePolicyLossAllowanceCounter at hback
    rwa [hsame] at hback
  · intro hback
    refine Restored.of_held hready hreleased (fun _ _ => rfl) (fun other ho hconcurrency time => ?_)
    unfold RuntimePolicyStore.runtimePolicyLossAllowanceCounter
    rw [hsame]
    exact hback other ho hconcurrency time

theorem enforceRuntimeQuotaPreflightLimits_unavailable (input : PreflightInput) (start store : RuntimePolicyStore)
    (policies : List QuotaPolicyRecord) : enforceRuntimeQuotaPreflightLimits input store false policies =
      enforceRuntimeQuotaPreflightLimits input start false policies := by
  simp [enforceRuntimeQuotaPreflightLimits]

theorem quotaStop_iff (hready : PreflightReady input start) {reservations : List RuntimeBudgetReservation}
    (hloop : BudgetLoop input start store reservations) (horigin : ∀ r ∈ reservations,
      ∃ policy ∈ input.budgetPolicies, r.counterKey = runtimeBudgetReservationKey policy input.now)
    (hforce : activeForceBudgetBlockPolicy input = none) (hstop : budgetStop input start = none)
    (herror : enforceRuntimeQuotaPreflight input store = (.error error, final)) :
    Restored input start (releaseRuntimeBudgetReservations final reservations) ↔
      strandedAllowances input start = [] := by
  have havailable : store.runtimePolicyHotStateAvailable = start.runtimePolicyHotStateAvailable :=
    congrArg Bool.not hloop.available
  unfold enforceRuntimeQuotaPreflight at herror
  rw [havailable] at herror
  unfold strandedAllowances
  cases hhot : start.runtimePolicyHotStateAvailable with
  | true =>
    simp only [Bool.or_true, if_true, iff_true]
    simp only [hhot] at herror
    split at herror
    · cases herror
      exact hloop.stopped.restored hready
    · rcases reserveRuntimeQuotaPreflight_hot hready (fun _ => matchingQuotaPolicies_mem)
          (matchingQuotaPolicies_nodup hready.quota_ids) (QuotaLoop.initial hloop horigin) (fun _ _ => by simp) with
        ⟨error', next, heq, hstopped⟩ | ⟨reserved, next, base, heq, -⟩
      · rw [heq] at herror
        cases herror
        exact hstopped.restored hready
      · rw [heq] at herror
        cases herror
  | false =>
    simp only [hforce, hstop, Option.isSome_none, Bool.or_false, Bool.false_eq_true, if_false]
    rw [hhot] at herror
    simp only [enforceRuntimeQuotaPreflightLimits_unavailable input start store] at herror
    cases hlimits : enforceRuntimeQuotaPreflightLimits input start false (matchingQuotaPolicies input) with
    | error limitError =>
      rw [hlimits] at herror
      cases herror
      simpa using hloop.stopped.restored hready
    | ok _ =>
      rw [hlimits] at herror
      cases hfailing : firstFailing (lossContinues input start) (matchingQuotaPolicies input) with
      | none =>
        obtain ⟨next, heq, -⟩ := reserveRuntimeQuotaPreflight_loss_ok hready
          (fun _ => matchingQuotaPolicies_mem) (matchingQuotaPolicies_nodup hready.quota_ids)
          hloop.lossTaken (fun _ _ _ hother => by cases hother) hfailing
        rw [heq] at herror
        cases herror
      | some found => exact lossStop_iff hready hloop hfailing herror

/-- A refused call leaves nothing reserved exactly when no unit was stranded by the policy that refused it. -/
theorem enforceRuntimePolicyPreflight_restored_iff (hready : PreflightReady input start)
    (herror : enforceRuntimePolicyPreflight input start = (.error error, final)) :
    Restored input start final ↔ strandedReservations input start = [] ∧ strandedAllowances input start = [] := by
  unfold enforceRuntimePolicyPreflight enforceRuntimeBudgetPreflight at herror
  cases hforce : activeForceBudgetBlockPolicy input with
  | some policy =>
    simp only [hforce, Option.isSome_some, if_true] at herror
    cases herror
    simp [strandedReservations, strandedAllowances, hforce, Restored.of_eq rfl]
  | none =>
    simp only [hforce, Option.isSome_none, Bool.false_eq_true, if_false] at herror
    cases hstop : budgetStop input start with
    | some found =>
      obtain ⟨before, policy⟩ := found
      have hallowances : strandedAllowances input start = [] := by simp [strandedAllowances, hstop]
      have hreservations : strandedReservations input start = [] ↔ (budgetDecision input start policy = .refused →
          ∀ other ∈ before, budgetDecision input start other ≠ .reserves) := by
        simp only [strandedReservations, hforce, Option.isSome_none, Bool.false_eq_true, if_false, hstop]
        split
        · rename_i hrefused
          simp [hrefused, List.filter_eq_nil_iff]
        · rename_i hother
          simp [hother]
      rw [hreservations, hallowances]
      simp only [and_true]
      obtain ⟨budgetError, next, hbudget⟩ := budgetStop_error hready hstop
      simp only [hbudget] at herror
      cases herror
      exact budgetStop_some hready hstop hbudget
    | none =>
      have hreservations : strandedReservations input start = [] := by simp [strandedReservations, hforce, hstop]
      obtain ⟨reservations, next, heq, hloop, horigin⟩ := budgetStop_none hready hstop
      simp only [heq] at herror
      rw [hreservations]
      simp only [true_and]
      cases hquota : enforceRuntimeQuotaPreflight input next with
      | mk result quotaStore =>
        cases result with
        | ok quotas =>
          rw [hquota] at herror
          cases herror
        | error quotaError =>
          rw [hquota] at herror
          cases herror
          exact quotaStop_iff hready hloop horigin hforce hstop hquota

end Rollback

def sampleLeaseIds (n : Nat) : String := "bls_" ++ String.ofList (List.replicate n '0')

theorem sampleLeaseIds_injective : Function.Injective sampleLeaseIds := by
  intro n m h
  have hlist := String.ofList_injective ((String.append_right_inj _).mp h)
  simpa using congrArg List.length hlist

def twoBudgetInput : PreflightInput where
  budgetPolicies := [requestBudget "bud_a" 5, requestBudget "bud_b" 1]
  quotaPolicies := []
  emergencyOperations := []
  ledgerBuckets := []
  actor := tenantActor
  replayCase := ⟨.openAiResponses, false⟩
  selected := none
  requestBodyBytes := 0
  now := ⟨0⟩
  leaseIds := sampleLeaseIds

def secondBudgetBusy : RuntimePolicyStore :=
  (RuntimePolicyStore.empty.adjustRuntimePolicyCounter
    (runtimeBudgetReservationKey (requestBudget "bud_b" 1) ⟨0⟩) 1).1

theorem enforceRuntimePolicyPreflight_not_restored :
    (enforceRuntimePolicyPreflight twoBudgetInput secondBudgetBusy).1 =
        .error (.budgetExceeded "hard_limit_reserved") ∧
      secondBudgetBusy.runtimePolicyCounter (runtimeBudgetReservationKey (requestBudget "bud_a" 5) ⟨0⟩) = 0 ∧
      (enforceRuntimePolicyPreflight twoBudgetInput secondBudgetBusy).2.runtimePolicyCounter
        (runtimeBudgetReservationKey (requestBudget "bud_a" 5) ⟨0⟩) = 1 ∧
      ¬ Restored twoBudgetInput secondBudgetBusy
        (enforceRuntimePolicyPreflight twoBudgetInput secondBudgetBusy).2 := by
  refine ⟨by decide, by decide, by decide, fun h => ?_⟩
  exact absurd (h.budgets (requestBudget "bud_a" 5) (by decide) ⟨0⟩) (by decide)

def bodySizeQuota : QuotaPolicyRecord where
  quotaPolicyId := "qta_body"
  tenantId := "tenant_1"
  scopeKind := .protocolFamily
  scopeId := "openai_responses"
  counterKind := .requestBodyBytes
  limit := 10
  burstLimit := none
  window := .fixed
  incrementSource := .requestBodyBytes
  lossBehavior := .failClosed
  status := .active

def bodyTooLargeInput : PreflightInput :=
  { twoBudgetInput with
    budgetPolicies := [requestBudget "bud_a" 5], quotaPolicies := [bodySizeQuota], requestBodyBytes := 20 }

theorem bodyTooLargeInput_ready : PreflightReady bodyTooLargeInput RuntimePolicyStore.empty := by
  refine ⟨by decide, by decide, by decide, by decide, by decide, sampleLeaseIds_injective, fun n => rfl,
    by decide, by decide, by decide⟩

theorem enforceRuntimePolicyPreflight_restored_body :
    (enforceRuntimePolicyPreflight bodyTooLargeInput RuntimePolicyStore.empty).1 =
        .error (.quotaExceeded "request_body_size_limit_reached") ∧
      Restored bodyTooLargeInput RuntimePolicyStore.empty
        (enforceRuntimePolicyPreflight bodyTooLargeInput RuntimePolicyStore.empty).2 := by
  have hrefused : (enforceRuntimePolicyPreflight bodyTooLargeInput RuntimePolicyStore.empty).1 =
      .error (.quotaExceeded "request_body_size_limit_reached") := by decide
  refine ⟨hrefused, ?_⟩
  exact (enforceRuntimePolicyPreflight_restored_iff bodyTooLargeInput_ready (Prod.ext hrefused rfl)).mpr
    ⟨by decide, by decide⟩

end Starweaver.Gateway
