import Starweaver.Gateway.PreflightRollback

namespace Starweaver.Gateway

open Library.Checks Library.Counters Library.MachineInt Library.Separated

/-- The counter under the key is what it was, and hot state is as available as before. -/
structure Untouched (key : String) (store next : RuntimePolicyStore) : Prop where
  counter : next.runtimePolicyCounter key = store.runtimePolicyCounter key
  hotState : next.runtimePolicyHotStateAvailable = store.runtimePolicyHotStateAvailable

section Untouched

variable {key : String} {store next last : RuntimePolicyStore}

theorem Untouched.refl (key : String) (store : RuntimePolicyStore) : Untouched key store store := ⟨rfl, rfl⟩

theorem Untouched.trans (h : Untouched key store next) (h' : Untouched key next last) : Untouched key store last :=
  ⟨h'.counter.trans h.counter, h'.hotState.trans h.hotState⟩

theorem Untouched.symm (h : Untouched key store next) : Untouched key next store := ⟨h.counter.symm, h.hotState.symm⟩

theorem adjust_untouched {other : String} (hne : other ≠ key) (delta : Int) :
    Untouched key store (store.adjustRuntimePolicyCounter other delta).1 :=
  ⟨value_adjust_ne store.runtimeQuotaCounters delta hne.symm, rfl⟩

theorem increment_untouched {other : String} (hne : other ≠ key) (amount limit : Int) :
    Untouched key store (store.incrementRuntimeQuotaCounter other amount limit).1 :=
  ⟨value_increment_ne store.runtimeQuotaCounters amount hne.symm, rfl⟩

theorem releaseBudgets_untouched {reservations : List RuntimeBudgetReservation}
    (hkeys : ∀ r ∈ reservations, r.counterKey ≠ key) :
    Untouched key store (releaseRuntimeBudgetReservations store reservations) := by
  induction reservations generalizing store with
  | nil => exact .refl key store
  | cons reservation reservations ih =>
    obtain ⟨hkey, hrest⟩ := List.forall_mem_cons.mp hkeys
    have hlease : Untouched key store (store.releaseRuntimeBudgetLease reservation.leaseId).1 := by
      unfold RuntimePolicyStore.releaseRuntimeBudgetLease
      split
      · exact .refl key store
      · split
        · exact .refl key store
        · exact ⟨rfl, rfl⟩
    rw [releaseRuntimeBudgetReservations, List.foldl_cons]
    cases hrelease : store.releaseRuntimeBudgetLease reservation.leaseId with
    | mk changed released =>
      rw [hrelease] at hlease
      cases released with
      | none => exact hlease.trans (ih hrest)
      | some lease => exact (hlease.trans (adjust_untouched hkey _)).trans (ih hrest)

theorem releaseQuotas_untouched {reservations : List RuntimeQuotaReservation}
    (hkeys : ∀ r ∈ reservations, r.counterKey ≠ key) :
    Untouched key store (releaseRuntimeQuotaReservations store reservations) := by
  induction reservations generalizing store with
  | nil => exact .refl key store
  | cons reservation reservations ih =>
    obtain ⟨hkey, hrest⟩ := List.forall_mem_cons.mp hkeys
    refine Untouched.trans ?_ (ih hrest)
    cases hbackend : reservation.counterBackend with
    | hotState =>
      simp only [hbackend]
      exact adjust_untouched hkey _
    | lossAllowance =>
      simp only [hbackend]
      exact ⟨rfl, rfl⟩

end Untouched

/-- Whether a budget policy refuses the request, from the ledger and its own counter. -/
def budgetRefuses (input : PreflightInput) (store : RuntimePolicyStore) (policy : BudgetPolicyRecord) : Bool :=
  policy.hardLimit.any fun limit =>
    runtimeBudgetPolicyIsPreflightEnforced policy &&
      runtimeBudgetPolicyMatchesRequest policy input.actor input.selected &&
      let current := runtimeBudgetCurrent policy input.ledgerBuckets input.now
      let reserved := max (saturatingAdd (store.runtimePolicyCounter (runtimeBudgetReservationKey policy input.now)) 1) 0
      runtimeBudgetExceeded policy current limit || policy.limitKind == .requests &&
        (!store.runtimePolicyHotStateAvailable || decide (limit < saturatingAdd current reserved))

/-- Whether the counter of a rate or concurrency policy has no room for the request. -/
def quotaRefuses (input : PreflightInput) (store : RuntimePolicyStore) (policy : QuotaPolicyRecord) : Bool :=
  let current := store.runtimePolicyCounter (runtimeQuotaCounterKey policy input.now)
  !runtimeQuotaPolicySkipsRequest policy input.replayCase &&
    match policy.counterKind, policy.incrementSource with
    | .requestRate, .acceptedPreflightRequest => decide (policy.limit < saturatingAdd current 1)
    | .concurrentRequest, .preflightAcquire => decide (policy.limit < max (saturatingAdd current 1) 0)
    | .concurrentStream, .streamStart => decide (policy.limit < max (saturatingAdd current 1) 0)
    | _, _ => false

section BudgetLoop

variable {input : PreflightInput} {store start : RuntimePolicyStore} {policy : BudgetPolicyRecord}
  {policies : List BudgetPolicyRecord} {reservations : List RuntimeBudgetReservation}

theorem budgetRefuses_congr (h : Untouched (runtimeBudgetReservationKey policy input.now) start store) :
    budgetRefuses input store policy = budgetRefuses input start policy := by
  unfold budgetRefuses
  rw [h.counter, h.hotState]

theorem reserveRuntimeRequestBudget_cases (policy : BudgetPolicyRecord) (current limit : Int) (leaseId : String)
    (store : RuntimePolicyStore) :
    let reserved := max (saturatingAdd (store.runtimePolicyCounter (runtimeBudgetReservationKey policy input.now)) 1) 0
    let refuses := !store.runtimePolicyHotStateAvailable || decide (limit < saturatingAdd current reserved)
    (refuses = true ∧ ∃ error next,
      reserveRuntimeRequestBudget input policy current limit leaseId store = (.error error, next) ∧
      ∀ key, runtimeBudgetReservationKey policy input.now ≠ key → Untouched key store next) ∨
    (refuses = false ∧ ∃ reservation next,
      reserveRuntimeRequestBudget input policy current limit leaseId store = (.ok reservation, next) ∧
      reservation.counterKey = runtimeBudgetReservationKey policy input.now ∧
      ∀ key, runtimeBudgetReservationKey policy input.now ≠ key → Untouched key store next) := by
  intro reserved refuses
  unfold reserveRuntimeRequestBudget
  cases hhot : store.runtimePolicyHotStateAvailable with
  | false =>
    refine .inl ⟨by simp only [refuses, hhot]; rfl, .budgetExceeded "budget_hot_state_unavailable", store, rfl, ?_⟩
    exact fun key _ => .refl key store
  | true =>
    have hreserved : (store.adjustRuntimePolicyCounter (runtimeBudgetReservationKey policy input.now) 1).2 = reserved := rfl
    simp only [Bool.not_true, Bool.false_eq_true, if_false, hreserved]
    by_cases hover : limit < saturatingAdd current reserved
    · rw [if_pos hover]
      refine .inl ⟨by simp only [refuses, hover, decide_true, Bool.or_true], _, _, rfl, fun key hne => ?_⟩
      exact (adjust_untouched hne 1).trans (adjust_untouched hne (-1))
    · rw [if_neg hover]
      refine .inr ⟨by simp only [refuses, hhot, hover, decide_false]; rfl, _, _, rfl, rfl, fun key hne => ?_⟩
      exact (adjust_untouched hne 1).trans ⟨rfl, rfl⟩

/-- One budget policy: it refuses, or the loop goes on with at most one more unit, held under its own key. -/
theorem reserveBudgetPolicies_step (input : PreflightInput) (policy : BudgetPolicyRecord)
    (policies : List BudgetPolicyRecord) (reservations : List RuntimeBudgetReservation) (store : RuntimePolicyStore) :
    (budgetRefuses input store policy = true ∧ ∃ error next,
      reserveBudgetPolicies input (policy :: policies) reservations store = (.error error, next) ∧
      ∀ key, runtimeBudgetReservationKey policy input.now ≠ key → (∀ r ∈ reservations, r.counterKey ≠ key) →
        Untouched key store next) ∨
    (budgetRefuses input store policy = false ∧ ∃ (reservation : Option RuntimeBudgetReservation) (next : _),
      reserveBudgetPolicies input (policy :: policies) reservations store =
        reserveBudgetPolicies input policies (reservations ++ reservation.toList) next ∧
      (∀ r ∈ reservation, r.counterKey = runtimeBudgetReservationKey policy input.now) ∧
      ∀ key, runtimeBudgetReservationKey policy input.now ≠ key → Untouched key store next) := by
  rw [reserveBudgetPolicies]
  unfold budgetRefuses
  cases hlimit : policy.hardLimit with
  | none => exact .inr ⟨rfl, none, store, by simp, by simp, fun key _ => .refl key store⟩
  | some limit =>
    simp only [Option.any_some]
    cases henforced : runtimeBudgetPolicyIsPreflightEnforced policy with
    | false => exact .inr ⟨rfl, none, store, by simp, by simp, fun key _ => .refl key store⟩
    | true =>
      cases hmatches : runtimeBudgetPolicyMatchesRequest policy input.actor input.selected with
      | false => exact .inr ⟨rfl, none, store, by simp, by simp, fun key _ => .refl key store⟩
      | true =>
        simp only [Bool.not_true, Bool.or_self, Bool.false_eq_true, if_false, Bool.true_and]
        cases hexceeded : runtimeBudgetExceeded policy (runtimeBudgetCurrent policy input.ledgerBuckets input.now)
            limit with
        | true => exact .inl ⟨rfl, _, _, rfl, fun key _ hkeys => releaseBudgets_untouched hkeys⟩
        | false =>
          simp only [Bool.false_or, Bool.false_eq_true, if_false]
          by_cases hkind : policy.limitKind = .requests
          · rw [if_pos hkind, beq_iff_eq.mpr hkind, Bool.true_and]
            rcases reserveRuntimeRequestBudget_cases policy (runtimeBudgetCurrent policy input.ledgerBuckets input.now)
              limit (input.leaseIds reservations.length) store with
              ⟨hrefuses, error, next, heq, hframe⟩ | ⟨hadmits, reservation, next, heq, hkey, hframe⟩
            · refine .inl ⟨hrefuses, error, next, ?_, fun key hne _ => hframe key hne⟩
              rw [heq]
            · refine .inr ⟨hadmits, some reservation, next, ?_, ?_, hframe⟩
              · rw [heq]
                rfl
              · rintro r ⟨⟩
                exact hkey
          · have hother : (policy.limitKind == BudgetLimitKind.requests) = false := beq_false_of_ne hkind
            rw [hother, if_neg hkind]
            exact .inr ⟨rfl, none, store, by simp, by simp, fun key _ => .refl key store⟩

/-- Ids as the gateway creates them: policy ids are distinct and no id has a bar. -/
structure PolicyIds (input : PreflightInput) : Prop where
  budget_ids : (input.budgetPolicies.map (·.budgetPolicyId)).Nodup
  quota_ids : (input.quotaPolicies.map (·.quotaPolicyId)).Nodup
  ids_apart : ∀ budget ∈ input.budgetPolicies, ∀ quota ∈ input.quotaPolicies,
    budget.budgetPolicyId ≠ quota.quotaPolicyId
  budget_barFree : ∀ budget ∈ input.budgetPolicies, BarFree budget.tenantId ∧ BarFree budget.budgetPolicyId
  quota_barFree : ∀ quota ∈ input.quotaPolicies, BarFree quota.tenantId ∧ BarFree quota.quotaPolicyId

/-- A key that is no budget policy's. -/
def NoBudgetKey (input : PreflightInput) (key : String) : Prop :=
  ∀ budget ∈ input.budgetPolicies, runtimeBudgetReservationKey budget input.now ≠ key

theorem reserveBudgetPolicies_decides (hids : PolicyIds input) (hin : ∀ budget ∈ policies, budget ∈ input.budgetPolicies)
    (hnodup : (policies.map (·.budgetPolicyId)).Nodup)
    (hsame : ∀ budget ∈ policies, Untouched (runtimeBudgetReservationKey budget input.now) start store)
    (horigin : ∀ key, NoBudgetKey input key → ∀ r ∈ reservations, r.counterKey ≠ key) :
    ((∃ budget ∈ policies, budgetRefuses input start budget = true) ∧ ∃ error next,
      reserveBudgetPolicies input policies reservations store = (.error error, next) ∧
      ∀ key, NoBudgetKey input key → Untouched key store next) ∨
    ((∀ budget ∈ policies, budgetRefuses input start budget = false) ∧ ∃ granted next,
      reserveBudgetPolicies input policies reservations store = (.ok granted, next) ∧
      ∀ key, NoBudgetKey input key → Untouched key store next ∧ ∀ r ∈ granted, r.counterKey ≠ key) := by
  induction policies generalizing reservations store with
  | nil =>
    exact .inr ⟨by simp, reservations, store, rfl, fun key hkey => ⟨.refl key store, horigin key hkey⟩⟩
  | cons budget policies ih =>
    obtain ⟨hbudget, hrest⟩ := List.forall_mem_cons.mp hin
    obtain ⟨hhead, htail⟩ := List.forall_mem_cons.mp hsame
    obtain ⟨hfresh, hnodup'⟩ := List.nodup_cons.mp hnodup
    have hcongr := budgetRefuses_congr hhead
    rcases reserveBudgetPolicies_step input budget policies reservations store with
      ⟨hrefuses, error, next, heq, hframe⟩ | ⟨hadmits, reservation, next, heq, hkeys, hframe⟩
    · refine .inl ⟨⟨budget, List.mem_cons_self, hcongr ▸ hrefuses⟩, error, next, heq, fun key hkey => ?_⟩
      exact hframe key (hkey budget hbudget) (horigin key hkey)
    · have hnext : ∀ other ∈ policies, Untouched (runtimeBudgetReservationKey other input.now) start next := by
        intro other hother
        refine (htail other hother).trans (hframe _ fun hsame => hfresh ?_)
        have hid := runtimeBudgetReservationKey_inj (hids.budget_barFree budget hbudget).1
          (hids.budget_barFree other (hrest other hother)).1 (hids.budget_barFree budget hbudget).2
          (hids.budget_barFree other (hrest other hother)).2 hsame
        exact List.mem_map.mpr ⟨other, hother, hid.symm⟩
      have horigin' : ∀ key, NoBudgetKey input key → ∀ r ∈ reservations ++ reservation.toList, r.counterKey ≠ key := by
        intro key hkey r hr
        rcases List.mem_append.mp hr with hr | hr
        · exact horigin key hkey r hr
        · rw [hkeys r (Option.mem_toList.mp hr)]
          exact hkey budget hbudget
      rw [heq]
      rcases ih hrest hnodup' hnext horigin' with
        ⟨⟨other, hother, hrefuses⟩, error, last, heq', hframe'⟩ | ⟨hall, granted, last, heq', hframe'⟩
      · refine .inl ⟨⟨other, List.mem_cons_of_mem _ hother, hrefuses⟩, error, last, heq', fun key hkey => ?_⟩
        exact (hframe key (hkey budget hbudget)).trans (hframe' key hkey)
      · refine .inr ⟨List.forall_mem_cons.mpr ⟨hcongr ▸ hadmits, hall⟩, granted, last, heq', fun key hkey => ?_⟩
        exact ⟨(hframe key (hkey budget hbudget)).trans (hframe' key hkey).1, (hframe' key hkey).2⟩

/-- The request passes the emergency block and every budget policy. -/
def BudgetsAdmit (input : PreflightInput) (store : RuntimePolicyStore) : Prop :=
  activeForceBudgetBlockPolicy input = none ∧
    ∀ budget ∈ budgetPoliciesForTenant input.budgetPolicies input.actor.tenantId, budgetRefuses input store budget = false

theorem enforceRuntimeBudgetPreflight_decides (hids : PolicyIds input) (store : RuntimePolicyStore) :
    (¬ BudgetsAdmit input store ∧ ∃ error next, enforceRuntimeBudgetPreflight input store = (.error error, next) ∧
      ∀ key, NoBudgetKey input key → Untouched key store next) ∨
    (BudgetsAdmit input store ∧ ∃ granted next, enforceRuntimeBudgetPreflight input store = (.ok granted, next) ∧
      ∀ key, NoBudgetKey input key → Untouched key store next ∧ ∀ r ∈ granted, r.counterKey ≠ key) := by
  unfold enforceRuntimeBudgetPreflight
  cases hforce : activeForceBudgetBlockPolicy input with
  | some budget =>
    refine .inl ⟨fun hadmitted => ?_, _, _, rfl, fun key _ => .refl key store⟩
    rw [hadmitted.1] at hforce
    cases hforce
  | none =>
    have hsame (budget : BudgetPolicyRecord) (_ : budget ∈ budgetPoliciesForTenant input.budgetPolicies input.actor.tenantId) :
        Untouched (runtimeBudgetReservationKey budget input.now) store store := .refl _ store
    rcases reserveBudgetPolicies_decides hids (fun _ => budgetPoliciesForTenant_mem)
      (budgetPoliciesForTenant_nodup hids.budget_ids) hsame
      (fun _ _ r hr => absurd hr List.not_mem_nil) with
      ⟨⟨budget, hbudget, hrefuses⟩, error, next, heq, hframe⟩ | ⟨hall, granted, next, heq, hframe⟩
    · refine .inl ⟨fun hadmitted => ?_, error, next, heq, hframe⟩
      rw [hadmitted.2 budget hbudget] at hrefuses
      cases hrefuses
    · exact .inr ⟨⟨hforce, hall⟩, granted, next, heq, hframe⟩

end BudgetLoop

section QuotaLoop

variable {input : PreflightInput} {store start : RuntimePolicyStore} {quota policy : QuotaPolicyRecord}
  {policies : List QuotaPolicyRecord} {reservations : List RuntimeQuotaReservation}

def QuotaPolicyRecord.CountsAccepted (policy : QuotaPolicyRecord) : Prop :=
  policy.counterKind = .requestRate ∧ policy.incrementSource = .acceptedPreflightRequest

theorem quotaRefuses_congr (h : Untouched (runtimeQuotaCounterKey quota input.now) start store) :
    quotaRefuses input store quota = quotaRefuses input start quota := by
  unfold quotaRefuses
  rw [h.counter]

theorem quotaKey_inj (hids : PolicyIds input) (hquota : quota ∈ input.quotaPolicies) (hpolicy : policy ∈ input.quotaPolicies)
    (hkey : runtimeQuotaCounterKey quota input.now = runtimeQuotaCounterKey policy input.now) : quota = policy :=
  List.inj_on_of_nodup_map hids.quota_ids hquota hpolicy
    (runtimeQuotaCounterKey_inj (hids.quota_barFree quota hquota).1 (hids.quota_barFree policy hpolicy).1
      (hids.quota_barFree quota hquota).2 (hids.quota_barFree policy hpolicy).2 hkey)

theorem noBudgetKey_of_quota (hids : PolicyIds input) (hquota : quota ∈ input.quotaPolicies) :
    NoBudgetKey input (runtimeQuotaCounterKey quota input.now) := fun budget hbudget =>
  budgetKey_ne_quotaKey (hids.budget_barFree budget hbudget).1 (hids.quota_barFree quota hquota).1
    (hids.budget_barFree budget hbudget).2 (hids.quota_barFree quota hquota).2
    (hids.ids_apart budget hbudget quota hquota) input.now input.now

/-- What one quota policy does to the other keys: nothing, when it goes on and when it gives everything back. -/
def LeavesOthers (input : PreflightInput) (quota : QuotaPolicyRecord) (reservations : List RuntimeQuotaReservation)
    (store next : RuntimePolicyStore) : Prop :=
  ∀ key, runtimeQuotaCounterKey quota input.now ≠ key → (∀ r ∈ reservations, r.counterKey ≠ key) →
    Untouched key store next

/-- What one quota policy of the loop comes to, with hot state available. -/
structure QuotaOutcome (input : PreflightInput) (quota : QuotaPolicyRecord)
    (reservations : List RuntimeQuotaReservation) (store : RuntimePolicyStore)
    (outcome : Result (Option RuntimeQuotaReservation) × RuntimePolicyStore) : Prop where
  refused : quotaRefuses input store quota = true → ∃ error, outcome.1 = .error error
  admitted : quotaRefuses input store quota = false → ∃ reservation, outcome.1 = .ok reservation ∧
    ∀ r ∈ reservation, r.counterKey = runtimeQuotaCounterKey quota input.now ∧ ¬ quota.CountsAccepted
  others : LeavesOthers input quota reservations store outcome.2
  hotState : outcome.2.runtimePolicyHotStateAvailable = store.runtimePolicyHotStateAvailable
  counted : quota.CountsAccepted → (∀ r ∈ reservations, r.counterKey ≠ runtimeQuotaCounterKey quota input.now) →
    outcome.2.runtimePolicyCounter (runtimeQuotaCounterKey quota input.now) =
      saturatingAdd (store.runtimePolicyCounter (runtimeQuotaCounterKey quota input.now)) 1

theorem releaseQuotas_hotState (reservations : List RuntimeQuotaReservation) (store : RuntimePolicyStore) :
    (releaseRuntimeQuotaReservations store reservations).runtimePolicyHotStateAvailable =
      store.runtimePolicyHotStateAvailable := by
  induction reservations generalizing store with
  | nil => rfl
  | cons reservation reservations ih =>
    refine (ih _).trans ?_
    cases hbackend : reservation.counterBackend with
    | hotState => simp only [hbackend]; rfl
    | lossAllowance => simp only [hbackend]; rfl

theorem acquire_outcome (hrefuses : quotaRefuses input store quota = decide (quota.limit <
      max (saturatingAdd (store.runtimePolicyCounter (runtimeQuotaCounterKey quota input.now)) 1) 0))
    (hkind : ¬ quota.CountsAccepted) (reason : String) :
    QuotaOutcome input quota reservations store (reserveQuotaPolicy.acquire input quota reservations store reason) := by
  have htaken : (store.adjustRuntimePolicyCounter (runtimeQuotaCounterKey quota input.now) 1).2 =
      max (saturatingAdd (store.runtimePolicyCounter (runtimeQuotaCounterKey quota input.now)) 1) 0 := rfl
  unfold reserveQuotaPolicy.acquire reserveRuntimeQuotaCounter
  simp only [htaken]
  by_cases hfull : quota.limit <
      max (saturatingAdd (store.runtimePolicyCounter (runtimeQuotaCounterKey quota input.now)) 1) 0
  · rw [decide_eq_true hfull] at hrefuses
    simp only [if_pos hfull]
    refine ⟨fun _ => ⟨_, rfl⟩, fun hadmits => ?_, fun key hne hkeys => ?_, releaseQuotas_hotState _ _,
      fun hcounts => absurd hcounts hkind⟩
    · rw [hrefuses] at hadmits
      cases hadmits
    · exact ((adjust_untouched hne 1).trans (adjust_untouched hne (-1))).trans (releaseQuotas_untouched hkeys)
  · rw [decide_eq_false hfull] at hrefuses
    simp only [if_neg hfull]
    refine ⟨fun hrefused => ?_, fun _ => ⟨_, rfl, ?_⟩, fun key hne _ => adjust_untouched hne 1, rfl,
      fun hcounts => absurd hcounts hkind⟩
    · rw [hrefuses] at hrefused
      cases hrefused
    · rintro r ⟨⟩
      exact ⟨rfl, hkind⟩

theorem reserveQuotaPolicy_outcome (hskip : runtimeQuotaPolicySkipsRequest quota input.replayCase = false) :
    QuotaOutcome input quota reservations store (reserveQuotaPolicy input true quota reservations store) := by
  unfold reserveQuotaPolicy
  simp only [Bool.not_true, Bool.and_false, Bool.false_eq_true, if_false]
  split
  · rename_i hkind hsource
    have hrefuses : quotaRefuses input store quota = decide (quota.limit <
        saturatingAdd (store.runtimePolicyCounter (runtimeQuotaCounterKey quota input.now)) 1) := by
      simp only [quotaRefuses, hskip, hkind, hsource, Bool.not_false, Bool.true_and]
    have hcounted (amount limit : Int) : (store.incrementRuntimeQuotaCounter (runtimeQuotaCounterKey quota input.now)
        amount limit).1.runtimePolicyCounter (runtimeQuotaCounterKey quota input.now) =
        saturatingAdd (store.runtimePolicyCounter (runtimeQuotaCounterKey quota input.now)) amount :=
      value_increment_self store.runtimeQuotaCounters _ amount
    have hallowed : (store.incrementRuntimeQuotaCounter (runtimeQuotaCounterKey quota input.now) 1
        quota.limit).2.allowed = decide (saturatingAdd
          (store.runtimePolicyCounter (runtimeQuotaCounterKey quota input.now)) 1 ≤ quota.limit) := rfl
    by_cases hfull : quota.limit < saturatingAdd (store.runtimePolicyCounter (runtimeQuotaCounterKey quota input.now)) 1
    · rw [decide_eq_true hfull] at hrefuses
      simp only [hallowed, decide_eq_false (not_le.mpr hfull), Bool.not_false, if_true]
      refine ⟨fun _ => ⟨_, rfl⟩, fun hadmits => ?_, fun key hne hkeys => ?_, releaseQuotas_hotState _ _,
        fun _ hkeys => ?_⟩
      · rw [hrefuses] at hadmits
        cases hadmits
      · exact (increment_untouched hne 1 quota.limit).trans (releaseQuotas_untouched hkeys)
      · exact (releaseQuotas_untouched hkeys).counter.trans (hcounted 1 quota.limit)
    · rw [decide_eq_false hfull] at hrefuses
      simp only [hallowed, decide_eq_true (not_lt.mp hfull), Bool.not_true, Bool.false_eq_true, if_false]
      refine ⟨fun hrefused => ?_, fun _ => ⟨none, rfl, by simp⟩, fun key hne _ => increment_untouched hne 1 quota.limit,
        rfl, fun _ _ => hcounted 1 quota.limit⟩
      rw [hrefuses] at hrefused
      cases hrefused
  · rename_i hkind hsource
    refine acquire_outcome ?_ (fun hcounts => by cases hkind.symm.trans hcounts.1) _
    simp only [quotaRefuses, hskip, hkind, hsource, Bool.not_false, Bool.true_and]
  · rename_i hkind hsource
    refine acquire_outcome ?_ (fun hcounts => by cases hkind.symm.trans hcounts.1) _
    simp only [quotaRefuses, hskip, hkind, hsource, Bool.not_false, Bool.true_and]
  · rename_i hrate hrequest hstream
    have hadmits : quotaRefuses input store quota = false := by
      simp only [quotaRefuses, hskip, Bool.not_false, Bool.true_and]
    refine ⟨fun hrefused => ?_, fun _ => ⟨none, rfl, by simp⟩, fun key _ _ => .refl key store, rfl, fun hcounts _ => ?_⟩
    · rw [hadmits] at hrefused
      cases hrefused
    · exact absurd hcounts.2 (hrate hcounts.1)

/-- The loop comes to the policy: no policy before it refuses. -/
def Reached (refuses : QuotaPolicyRecord → Bool) (policy : QuotaPolicyRecord) (policies : List QuotaPolicyRecord) : Prop :=
  ∃ before after, policies = before ++ policy :: after ∧ ∀ quota ∈ before, refuses quota = false

theorem reached_head (refuses : QuotaPolicyRecord → Bool) (policy : QuotaPolicyRecord) (policies : List QuotaPolicyRecord) :
    Reached refuses policy (policy :: policies) := ⟨[], policies, rfl, by simp⟩

theorem reached_cons {refuses : QuotaPolicyRecord → Bool} (hne : quota ≠ policy) :
    Reached refuses policy (quota :: policies) ↔ refuses quota = false ∧ Reached refuses policy policies := by
  constructor
  · rintro ⟨before, after, heq, hadmitted⟩
    cases before with
    | nil => exact absurd (List.cons.inj heq).1 hne
    | cons first before =>
      obtain ⟨rfl, hrest⟩ := List.cons.inj heq
      obtain ⟨hfirst, hbefore⟩ := List.forall_mem_cons.mp hadmitted
      exact ⟨hfirst, before, after, hrest, hbefore⟩
  · rintro ⟨hfirst, before, after, rfl, hbefore⟩
    exact ⟨quota :: before, after, rfl, List.forall_mem_cons.mpr ⟨hfirst, hbefore⟩⟩

theorem Reached.mem {refuses : QuotaPolicyRecord → Bool} (h : Reached refuses policy policies) : policy ∈ policies := by
  obtain ⟨before, after, rfl, -⟩ := h
  exact List.mem_append_right _ List.mem_cons_self

/-- How the loop ends, and what it has done to the counter of one policy that counts accepted requests. -/
structure LoopOutcome (input : PreflightInput) (start store : RuntimePolicyStore) (policy : QuotaPolicyRecord)
    (policies : List QuotaPolicyRecord) (outcome : Result (List RuntimeQuotaReservation) × RuntimePolicyStore) :
    Prop where
  refused : (∃ quota ∈ policies, quotaRefuses input start quota = true) → ∃ error, outcome.1 = .error error
  admitted : (∀ quota ∈ policies, quotaRefuses input start quota = false) → ∃ granted, outcome.1 = .ok granted ∧
    ∀ r ∈ granted, r.counterKey ≠ runtimeQuotaCounterKey policy input.now
  hotState : outcome.2.runtimePolicyHotStateAvailable = store.runtimePolicyHotStateAvailable
  counted : Reached (quotaRefuses input start) policy policies →
    outcome.2.runtimePolicyCounter (runtimeQuotaCounterKey policy input.now) =
      saturatingAdd (store.runtimePolicyCounter (runtimeQuotaCounterKey policy input.now)) 1
  uncounted : ¬ Reached (quotaRefuses input start) policy policies →
    outcome.2.runtimePolicyCounter (runtimeQuotaCounterKey policy input.now) =
      store.runtimePolicyCounter (runtimeQuotaCounterKey policy input.now)

/-- Past another policy that does not refuse, the loop stands where it stood. -/
theorem LoopOutcome.past {next : RuntimePolicyStore} {outcome : Result (List RuntimeQuotaReservation) × RuntimePolicyStore}
    (h : LoopOutcome input start next policy policies outcome) (hne : quota ≠ policy)
    (hadmits : quotaRefuses input start quota = false)
    (huntouched : Untouched (runtimeQuotaCounterKey policy input.now) store next) :
    LoopOutcome input start store policy (quota :: policies) outcome := by
  refine ⟨fun hrefused => h.refused ?_, fun hall => h.admitted (List.forall_mem_cons.mp hall).2,
    h.hotState.trans huntouched.hotState, fun hreached => ?_, fun hnot => ?_⟩
  · obtain ⟨other, hother, hrefuses⟩ := hrefused
    rcases List.mem_cons.mp hother with rfl | hother
    · rw [hadmits] at hrefuses
      cases hrefuses
    · exact ⟨other, hother, hrefuses⟩
  · rw [h.counted ((reached_cons hne).mp hreached).2, huntouched.counter]
  · rw [h.uncounted fun hreached => hnot ((reached_cons hne).mpr ⟨hadmits, hreached⟩), huntouched.counter]

/-- Past the policy itself its counter stays where it put it. -/
theorem LoopOutcome.past_self {next : RuntimePolicyStore}
    {outcome : Result (List RuntimeQuotaReservation) × RuntimePolicyStore}
    (h : LoopOutcome input start next policy policies outcome) (hnotin : policy ∉ policies)
    (hadmits : quotaRefuses input start policy = false)
    (hhot : next.runtimePolicyHotStateAvailable = store.runtimePolicyHotStateAvailable)
    (hcounted : next.runtimePolicyCounter (runtimeQuotaCounterKey policy input.now) =
      saturatingAdd (store.runtimePolicyCounter (runtimeQuotaCounterKey policy input.now)) 1) :
    LoopOutcome input start store policy (policy :: policies) outcome := by
  refine ⟨fun hrefused => h.refused ?_, fun hall => h.admitted (List.forall_mem_cons.mp hall).2, h.hotState.trans hhot,
    fun _ => (h.uncounted fun hreached => hnotin hreached.mem).trans hcounted,
    fun hnot => absurd (reached_head _ policy policies) hnot⟩
  obtain ⟨other, hother, hrefuses⟩ := hrefused
  rcases List.mem_cons.mp hother with rfl | hother
  · rw [hadmits] at hrefuses
    cases hrefuses
  · exact ⟨other, hother, hrefuses⟩

theorem skips_of_countsAccepted (hcounts : policy.CountsAccepted) (replayCase : GatewayReplayCase) :
    runtimeQuotaPolicySkipsRequest policy replayCase = false := by
  unfold runtimeQuotaPolicySkipsRequest runtimeQuotaPolicyRequiresStream
  rw [hcounts.1]
  rfl

theorem reserveRuntimeQuotaPreflight_outcome (hids : PolicyIds input) (hcounts : policy.CountsAccepted)
    (hlisted : policy ∈ input.quotaPolicies) (hin : ∀ quota ∈ policies, quota ∈ input.quotaPolicies)
    (hnodup : (policies.map (·.quotaPolicyId)).Nodup)
    (hsame : ∀ quota ∈ policies, Untouched (runtimeQuotaCounterKey quota input.now) start store)
    (hclear : ∀ r ∈ reservations, r.counterKey ≠ runtimeQuotaCounterKey policy input.now)
    (hahead : ∀ quota ∈ policies, ∀ r ∈ reservations, r.counterKey ≠ runtimeQuotaCounterKey quota input.now) :
    LoopOutcome input start store policy policies (reserveRuntimeQuotaPreflight input true policies reservations store) := by
  induction policies generalizing reservations store with
  | nil =>
    refine ⟨by simp, fun _ => ⟨reservations, rfl, hclear⟩, rfl, fun hreached => ?_, fun _ => rfl⟩
    exact absurd hreached.mem List.not_mem_nil
  | cons quota policies ih =>
    obtain ⟨hquota, hrest⟩ := List.forall_mem_cons.mp hin
    obtain ⟨hhead, htail⟩ := List.forall_mem_cons.mp hsame
    obtain ⟨hfresh, hnodup'⟩ := List.nodup_cons.mp hnodup
    obtain ⟨hnow, hlater⟩ := List.forall_mem_cons.mp hahead
    have hapart : ∀ other ∈ policies, runtimeQuotaCounterKey quota input.now ≠ runtimeQuotaCounterKey other input.now := by
      intro other hother hkey
      have hequal := quotaKey_inj hids hquota (hrest other hother) hkey
      exact hfresh (List.mem_map.mpr ⟨other, hother, congrArg (·.quotaPolicyId) hequal.symm⟩)
    have hother (hne : quota ≠ policy) : runtimeQuotaCounterKey quota input.now ≠ runtimeQuotaCounterKey policy input.now :=
      fun hkey => hne (quotaKey_inj hids hquota hlisted hkey)
    rw [reserveRuntimeQuotaPreflight]
    cases hskip : runtimeQuotaPolicySkipsRequest quota input.replayCase with
    | true =>
      have hne : quota ≠ policy := by
        rintro rfl
        rw [skips_of_countsAccepted hcounts] at hskip
        cases hskip
      have hadmits : quotaRefuses input start quota = false := by
        unfold quotaRefuses
        rw [hskip]
        rfl
      exact (ih hrest hnodup' htail hclear hlater).past hne hadmits (.refl _ store)
    | false =>
      have houtcome : QuotaOutcome input quota reservations store
          (reserveQuotaPolicy input true quota reservations store) := reserveQuotaPolicy_outcome hskip
      have hcongr := quotaRefuses_congr hhead
      simp only [Bool.false_eq_true, if_false]
      cases hrefuses : quotaRefuses input start quota with
      | true =>
        obtain ⟨error, herror⟩ := houtcome.refused (hcongr.trans hrefuses)
        cases hresult : reserveQuotaPolicy input true quota reservations store with
        | mk result next =>
          rw [hresult] at houtcome herror
          cases herror
          refine ⟨fun _ => ⟨error, rfl⟩, fun hall => ?_, houtcome.hotState, fun hreached => ?_, fun hnot => ?_⟩
          · rw [hall quota List.mem_cons_self] at hrefuses
            cases hrefuses
          · by_cases heq : quota = policy
            · subst heq
              exact houtcome.counted hcounts hclear
            · rw [((reached_cons heq).mp hreached).1] at hrefuses
              cases hrefuses
          · have hne : quota ≠ policy := fun heq => hnot (heq ▸ reached_head _ quota policies)
            exact (houtcome.others _ (hother hne) hclear).counter
      | false =>
        obtain ⟨reservation, hok, hkeys⟩ := houtcome.admitted (hcongr.trans hrefuses)
        cases hresult : reserveQuotaPolicy input true quota reservations store with
        | mk result next =>
          rw [hresult] at houtcome hok
          cases hok
          have hsame' : ∀ other ∈ policies, Untouched (runtimeQuotaCounterKey other input.now) start next :=
            fun other hmem => (htail other hmem).trans (houtcome.others _ (hapart other hmem) (hlater other hmem))
          have hadded {key : String} (hold : ∀ r ∈ reservations, r.counterKey ≠ key)
              (hnew : ¬ quota.CountsAccepted → runtimeQuotaCounterKey quota input.now ≠ key) :
              ∀ r ∈ reservations ++ reservation.toList, r.counterKey ≠ key := by
            intro r hr
            rcases List.mem_append.mp hr with hr | hr
            · exact hold r hr
            · obtain ⟨hkey, hnot⟩ := hkeys r (Option.mem_toList.mp hr)
              rw [hkey]
              exact hnew hnot
          have hloop := ih hrest hnodup' hsame' (hadded hclear fun hnot => hother fun heq => hnot (heq ▸ hcounts))
            (fun other hmem => hadded (hlater other hmem) fun _ => hapart other hmem)
          by_cases heq : quota = policy
          · subst heq
            refine hloop.past_self (fun hmem => hfresh (List.mem_map.mpr ⟨quota, hmem, rfl⟩)) hrefuses
              houtcome.hotState (houtcome.counted hcounts hclear)
          · exact hloop.past heq hrefuses (houtcome.others _ (hother heq) hclear)

/-- A key that is no quota policy's in the minute of the request. -/
def NoQuotaKey (input : PreflightInput) (key : String) : Prop :=
  ∀ quota ∈ input.quotaPolicies, runtimeQuotaCounterKey quota input.now ≠ key

theorem reserveRuntimeQuotaPreflight_untouched (store : RuntimePolicyStore) {key : String} (hkey : NoQuotaKey input key)
    (hin : ∀ quota ∈ policies, quota ∈ input.quotaPolicies) (hclear : ∀ r ∈ reservations, r.counterKey ≠ key) :
    let outcome := reserveRuntimeQuotaPreflight input true policies reservations store
    Untouched key store outcome.2 ∧ ∀ granted, outcome.1 = .ok granted → ∀ r ∈ granted, r.counterKey ≠ key := by
  induction policies generalizing reservations store with
  | nil =>
    refine ⟨.refl key store, fun granted hok => ?_⟩
    cases hok
    exact hclear
  | cons quota policies ih =>
    obtain ⟨hquota, hrest⟩ := List.forall_mem_cons.mp hin
    rw [reserveRuntimeQuotaPreflight]
    cases hskip : runtimeQuotaPolicySkipsRequest quota input.replayCase with
    | true => exact ih store hrest hclear
    | false =>
      have houtcome : QuotaOutcome input quota reservations store
          (reserveQuotaPolicy input true quota reservations store) := reserveQuotaPolicy_outcome hskip
      have hframe := houtcome.others key (hkey quota hquota) hclear
      simp only [Bool.false_eq_true, if_false]
      cases hresult : reserveQuotaPolicy input true quota reservations store with
      | mk result next =>
        rw [hresult] at houtcome hframe
        cases result with
        | error error => exact ⟨hframe, fun granted hok => (by cases hok)⟩
        | ok reservation =>
          have hadmits : quotaRefuses input store quota = false := by
            by_contra hrefuses
            obtain ⟨error, herror⟩ := houtcome.refused (Bool.not_eq_false _ ▸ hrefuses)
            cases herror
          obtain ⟨reservation', hok, hkeys⟩ := houtcome.admitted hadmits
          cases hok
          have hclear' : ∀ r ∈ reservations ++ reservation.toList, r.counterKey ≠ key := by
            intro r hr
            rcases List.mem_append.mp hr with hr | hr
            · exact hclear r hr
            · rw [(hkeys r (Option.mem_toList.mp hr)).1]
              exact hkey quota hquota
          obtain ⟨hnext, hgranted⟩ := ih next hrest hclear'
          exact ⟨hframe.trans hnext, hgranted⟩

end QuotaLoop

section Preflight

variable {input : PreflightInput} {store start : RuntimePolicyStore} {policy : QuotaPolicyRecord}

/-- No body is too large and no actual-token or stream-duration counter is used up. -/
def LimitsAdmit (input : PreflightInput) (store : RuntimePolicyStore) : Prop :=
  enforceRuntimeQuotaPreflightLimits input store true (matchingQuotaPolicies input) = .ok ()

theorem preflightLimits_congr {policies : List QuotaPolicyRecord}
    (h : ∀ quota ∈ policies, Untouched (runtimeQuotaCounterKey quota input.now) start store) :
    enforceRuntimeQuotaPreflightLimits input store true policies =
      enforceRuntimeQuotaPreflightLimits input start true policies := by
  refine checkAll_congr fun quota hquota => ?_
  have hcurrent : enforceRuntimeQuotaCurrentLimit quota input.now store =
      enforceRuntimeQuotaCurrentLimit quota input.now start := by
    unfold enforceRuntimeQuotaCurrentLimit runtimeQuotaCurrentValue
    rw [(h quota hquota).counter]
  rw [hcurrent]

/-- The preflight comes to the policy: nothing that is checked before it refuses the request. -/
def ReachesCounter (policy : QuotaPolicyRecord) (input : PreflightInput) (store : RuntimePolicyStore) : Prop :=
  BudgetsAdmit input store ∧ LimitsAdmit input store ∧
    Reached (quotaRefuses input store) policy (matchingQuotaPolicies input)

/-- What a preflight has done to the counter of the policy, and whether it accepted the request. -/
structure PreflightOutcome (policy : QuotaPolicyRecord) (input : PreflightInput) (start : RuntimePolicyStore)
    (outcome : Result RuntimePolicyPreflight × RuntimePolicyStore) : Prop where
  hotState : outcome.2.runtimePolicyHotStateAvailable = start.runtimePolicyHotStateAvailable
  granted : ∀ preflight, outcome.1 = .ok preflight →
    (∀ r ∈ preflight.budgetReservations, r.counterKey ≠ runtimeQuotaCounterKey policy input.now) ∧
      ∀ r ∈ preflight.quotaReservations, r.counterKey ≠ runtimeQuotaCounterKey policy input.now
  counted : ReachesCounter policy input start →
    outcome.2.runtimePolicyCounter (runtimeQuotaCounterKey policy input.now) =
      saturatingAdd (start.runtimePolicyCounter (runtimeQuotaCounterKey policy input.now)) 1
  accepted : ReachesCounter policy input start →
    ((∃ preflight, outcome.1 = .ok preflight) ↔
      ∀ quota ∈ matchingQuotaPolicies input, quotaRefuses input start quota = false)
  uncounted : ¬ ReachesCounter policy input start →
    outcome.2.runtimePolicyCounter (runtimeQuotaCounterKey policy input.now) =
      start.runtimePolicyCounter (runtimeQuotaCounterKey policy input.now)
  rejected : ¬ ReachesCounter policy input start → policy ∈ matchingQuotaPolicies input → ∃ error, outcome.1 = .error error

theorem PreflightOutcome.of_stop (hnot : ¬ ReachesCounter policy input start) (error : GatewayError)
    (h : Untouched (runtimeQuotaCounterKey policy input.now) start store) :
    PreflightOutcome policy input start (.error error, store) := by
  refine ⟨h.hotState, fun preflight hok => (by cases hok), fun hreaches => absurd hreaches hnot,
    fun hreaches => absurd hreaches hnot, fun _ => h.counter, fun _ _ => ⟨error, rfl⟩⟩

theorem enforceRuntimePolicyPreflight_outcome (hids : PolicyIds input) (hcounts : policy.CountsAccepted)
    (hlisted : policy ∈ input.quotaPolicies) (hhot : start.runtimePolicyHotStateAvailable = true) :
    PreflightOutcome policy input start (enforceRuntimePolicyPreflight input start) := by
  have hkey := noBudgetKey_of_quota hids hlisted
  unfold enforceRuntimePolicyPreflight
  rcases enforceRuntimeBudgetPreflight_decides hids start with
    ⟨hrefuse, error, next, heq, hframe⟩ | ⟨hadmitted, granted, next, heq, hframe⟩
  · rw [heq]
    exact .of_stop (fun hreaches => hrefuse hreaches.1) error (hframe _ hkey)
  · rw [heq]
    have hnext := (hframe _ hkey).1
    have hsame : ∀ quota ∈ matchingQuotaPolicies input, Untouched (runtimeQuotaCounterKey quota input.now) start next :=
      fun quota hquota => (hframe _ (noBudgetKey_of_quota hids (matchingQuotaPolicies_mem hquota))).1
    have hlimits := preflightLimits_congr hsame
    unfold enforceRuntimeQuotaPreflight
    simp only [hnext.hotState, hhot, hlimits]
    cases hlimit : enforceRuntimeQuotaPreflightLimits input start true (matchingQuotaPolicies input) with
    | error error =>
      have hnot : ¬ ReachesCounter policy input start := fun hreaches => by
        have hok := hreaches.2.1
        rw [LimitsAdmit, hlimit] at hok
        cases hok
      exact .of_stop hnot error (hnext.trans (releaseBudgets_untouched (hframe _ hkey).2))
    | ok _ =>
      have hreaches : ReachesCounter policy input start ↔
          Reached (quotaRefuses input start) policy (matchingQuotaPolicies input) :=
        ⟨fun h => h.2.2, fun h => ⟨hadmitted, hlimit, h⟩⟩
      have hnone (key : String) : ∀ r ∈ ([] : List RuntimeQuotaReservation), r.counterKey ≠ key := by simp
      have hloop := reserveRuntimeQuotaPreflight_outcome hids hcounts hlisted (fun _ => matchingQuotaPolicies_mem)
        (matchingQuotaPolicies_nodup hids.quota_ids) hsame (hnone _) (fun _ _ => hnone _)
      cases hquotas : reserveRuntimeQuotaPreflight input true (matchingQuotaPolicies input) [] next with
      | mk result last =>
        rw [hquotas] at hloop
        cases result with
        | error error =>
          have hlast : Untouched (runtimeQuotaCounterKey policy input.now) last
              (releaseRuntimeBudgetReservations last granted) := releaseBudgets_untouched (hframe _ hkey).2
          refine ⟨hlast.hotState.trans (hloop.hotState.trans hnext.hotState), fun preflight hok => (by cases hok),
            fun h => ?_, fun h => ?_, fun h => ?_, fun _ _ => ⟨error, rfl⟩⟩
          · exact hlast.counter.trans ((hloop.counted (hreaches.mp h)).trans (by rw [hnext.counter]))
          · refine iff_of_false (fun hok => ?_) fun hall => ?_
            · obtain ⟨preflight, hpreflight⟩ := hok
              cases hpreflight
            · obtain ⟨quotas, hquotas', -⟩ := hloop.admitted hall
              cases hquotas'
          · exact hlast.counter.trans ((hloop.uncounted (mt hreaches.mpr h)).trans hnext.counter)
        | ok quotas =>
          have hall : ∀ quota ∈ matchingQuotaPolicies input, quotaRefuses input start quota = false := by
            intro quota hquota
            by_contra hrefuses
            obtain ⟨error, herror⟩ := hloop.refused ⟨quota, hquota, Bool.not_eq_false _ ▸ hrefuses⟩
            cases herror
          obtain ⟨quotas', hquotas', hclear⟩ := hloop.admitted hall
          cases hquotas'
          refine ⟨hloop.hotState.trans hnext.hotState, fun preflight hok => ?_, fun h => ?_,
            fun _ => iff_of_true ⟨_, rfl⟩ hall, fun h => ?_, fun h hmem => ?_⟩
          · cases hok
            exact ⟨(hframe _ hkey).2, hclear⟩
          · exact (hloop.counted (hreaches.mp h)).trans (by rw [hnext.counter])
          · exact (hloop.uncounted (mt hreaches.mpr h)).trans hnext.counter
          · obtain ⟨before, after, hsplit⟩ := List.append_of_mem hmem
            refine absurd (hreaches.mpr ⟨before, after, hsplit, fun quota hquota => hall quota ?_⟩) h
            rw [hsplit]
            exact List.mem_append_left _ hquota

theorem enforceRuntimePolicyPreflight_untouched (hids : PolicyIds input) {key : String} (hbudget : NoBudgetKey input key)
    (hquota : NoQuotaKey input key) (hhot : start.runtimePolicyHotStateAvailable = true) :
    let outcome := enforceRuntimePolicyPreflight input start
    Untouched key start outcome.2 ∧ ∀ preflight, outcome.1 = .ok preflight →
      (∀ r ∈ preflight.budgetReservations, r.counterKey ≠ key) ∧ ∀ r ∈ preflight.quotaReservations, r.counterKey ≠ key := by
  unfold enforceRuntimePolicyPreflight
  rcases enforceRuntimeBudgetPreflight_decides hids start with
    ⟨-, error, next, heq, hframe⟩ | ⟨-, granted, next, heq, hframe⟩
  · rw [heq]
    exact ⟨hframe key hbudget, fun preflight hok => (by cases hok)⟩
  · rw [heq]
    obtain ⟨hnext, hclear⟩ := hframe key hbudget
    unfold enforceRuntimeQuotaPreflight
    simp only [hnext.hotState, hhot]
    cases hlimit : enforceRuntimeQuotaPreflightLimits input next true (matchingQuotaPolicies input) with
    | error error => exact ⟨hnext.trans (releaseBudgets_untouched hclear), fun preflight hok => (by cases hok)⟩
    | ok _ =>
      have hnone : ∀ r ∈ ([] : List RuntimeQuotaReservation), r.counterKey ≠ key := by simp
      obtain ⟨hloop, hkeys⟩ := reserveRuntimeQuotaPreflight_untouched next hquota
        (fun _ => matchingQuotaPolicies_mem) hnone
      cases hquotas : reserveRuntimeQuotaPreflight input true (matchingQuotaPolicies input) [] next with
      | mk result last =>
        rw [hquotas] at hloop hkeys
        cases result with
        | error error =>
          exact ⟨hnext.trans (hloop.trans (releaseBudgets_untouched hclear)), fun preflight hok => (by cases hok)⟩
        | ok quotas =>
          refine ⟨hnext.trans hloop, fun preflight hok => ?_⟩
          cases hok
          exact ⟨hclear, hkeys quotas rfl⟩

end Preflight

end Starweaver.Gateway
