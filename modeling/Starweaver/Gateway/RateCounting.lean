import Starweaver.Library.Machine
import Starweaver.Gateway.PreflightCounting

namespace Starweaver.Gateway

open Library.Calendar Library.Machine Library.MachineInt Library.Separated

/-- A preflight in the given minute, of a request that finds the policy in the store. -/
structure SlotPreflight (policy : QuotaPolicyRecord) (minute : Int) where
  input : PreflightInput
  ids : PolicyIds input
  listed : policy ∈ input.quotaPolicies
  slot : input.now.timestamp / 60 = minute

/-- A preflight, or a request that gives back what its preflight reserved. -/
inductive RateAction (policy : QuotaPolicyRecord) (minute : Int)
  | preflight (request : SlotPreflight policy minute)
  | finish (preflight : RuntimePolicyPreflight)

structure RateRuntime where
  store : RuntimePolicyStore
  granted : List RuntimePolicyPreflight
  accepted : Nat

def minuteStart (minute : Int) : DateTime := ⟨minute * 60000000000⟩

/-- The key of the policy's counter in the minute. -/
def rateKey (policy : QuotaPolicyRecord) (minute : Int) : String := runtimeQuotaCounterKey policy (minuteStart minute)

theorem stays_iff {n : Int} (hlow : 0 ≤ n) (hhigh : n ≤ i64Max) : saturatingAdd n 1 = n ↔ ¬ n < i64Max := by
  unfold saturatingAdd i64Min i64Max at *
  omega

theorem rises_iff {n : Int} (hlow : 0 ≤ n) : saturatingAdd n 1 = n + 1 ↔ n < i64Max := by
  unfold saturatingAdd i64Min i64Max
  omega

section Steps

variable {policy : QuotaPolicyRecord} {minute : Int}

/-- A preflight that returns Ok is counted as accepted when the policy matches its request. -/
def rateStep (s : RateRuntime) : RateAction policy minute → RateRuntime
  | .preflight request =>
    match enforceRuntimePolicyPreflight request.input s.store with
    | (.error _, store) => { s with store := store }
    | (.ok preflight, store) =>
      { store := store
        granted := preflight :: s.granted
        accepted := s.accepted + if policy ∈ matchingQuotaPolicies request.input then 1 else 0 }
  | .finish preflight =>
    if preflight ∈ s.granted then
      { s with
        store := releaseRuntimePolicyReservations s.store preflight
        granted := s.granted.erase preflight }
    else s

/-- A preflight that comes to the policy is refused neither by it nor by a policy after it; only where the counter
cannot rise any more is one of them to refuse. -/
def CountsOnlyAccepted (s : RateRuntime) : RateAction policy minute → Prop
  | .preflight request => ReachesCounter policy request.input s.store →
    ((∀ quota ∈ matchingQuotaPolicies request.input, quotaRefuses request.input s.store quota = false) ↔
      s.store.runtimePolicyCounter (rateKey policy minute) < i64Max)
  | .finish _ => True

structure RateReady (policy : QuotaPolicyRecord) (minute : Int) (s : RateRuntime) : Prop where
  hotState : s.store.runtimePolicyHotStateAvailable = true
  bounded : s.store.runtimePolicyCounter (rateKey policy minute) ≤ i64Max
  granted : ∀ preflight ∈ s.granted, (∀ r ∈ preflight.budgetReservations, r.counterKey ≠ rateKey policy minute) ∧
    ∀ r ∈ preflight.quotaReservations, r.counterKey ≠ rateKey policy minute

theorem SlotPreflight.key_eq (request : SlotPreflight policy minute) :
    runtimeQuotaCounterKey policy request.input.now = rateKey policy minute := by
  have hminute : (minuteStart minute).timestamp / 60 = minute := by
    unfold minuteStart DateTime.timestamp
    simp only
    omega
  have hslot : runtimeQuotaWindowSlot policy request.input.now = runtimeQuotaWindowSlot policy (minuteStart minute) := by
    unfold runtimeQuotaWindowSlot
    rw [request.slot, hminute]
  unfold rateKey runtimeQuotaCounterKey
  rw [hslot]

theorem SlotPreflight.outcome (request : SlotPreflight policy minute) (hcounts : policy.CountsAccepted) {s : RateRuntime}
    (h : RateReady policy minute s) :
    PreflightOutcome policy request.input s.store (enforceRuntimePolicyPreflight request.input s.store) :=
  enforceRuntimePolicyPreflight_outcome request.ids hcounts request.listed h.hotState

theorem release_untouched (store : RuntimePolicyStore) {preflight : RuntimePolicyPreflight} {key : String}
    (hkeys : (∀ r ∈ preflight.budgetReservations, r.counterKey ≠ key) ∧
      ∀ r ∈ preflight.quotaReservations, r.counterKey ≠ key) :
    Untouched key store (releaseRuntimePolicyReservations store preflight) :=
  (releaseBudgets_untouched hkeys.1).trans (releaseQuotas_untouched hkeys.2)

theorem RateReady.step (hcounts : policy.CountsAccepted) {s : RateRuntime} (h : RateReady policy minute s)
    (action : RateAction policy minute) : RateReady policy minute (rateStep s action) := by
  cases action with
  | finish preflight =>
    rw [rateStep]
    split
    · rename_i hmem
      have huntouched := release_untouched s.store (h.granted preflight hmem)
      refine ⟨huntouched.hotState.trans h.hotState, huntouched.counter.trans_le h.bounded, fun other hother => ?_⟩
      exact h.granted other (List.mem_of_mem_erase hother)
    · exact h
  | preflight request =>
    have houtcome := request.outcome hcounts h
    have hbounded : (enforceRuntimePolicyPreflight request.input s.store).2.runtimePolicyCounter
        (rateKey policy minute) ≤ i64Max := by
      by_cases hreaches : ReachesCounter policy request.input s.store
      · rw [← request.key_eq, houtcome.counted hreaches]
        exact (inI64_saturatingAdd _ _).2
      · rw [← request.key_eq, houtcome.uncounted hreaches, request.key_eq]
        exact h.bounded
    cases hresult : enforceRuntimePolicyPreflight request.input s.store with
    | mk result store =>
      rw [hresult] at houtcome hbounded
      rw [rateStep, hresult]
      cases result with
      | error error => exact ⟨houtcome.hotState.trans h.hotState, hbounded, h.granted⟩
      | ok preflight =>
        refine ⟨houtcome.hotState.trans h.hotState, hbounded, List.forall_mem_cons.mpr ⟨?_, h.granted⟩⟩
        rw [← request.key_eq]
        exact houtcome.granted preflight rfl

/-- The counter is the number of accepted requests that the policy matches. -/
def CounterExact (policy : QuotaPolicyRecord) (minute : Int) (s : RateRuntime) : Prop :=
  s.store.runtimePolicyCounter (rateKey policy minute) = s.accepted

theorem CounterExact.step_iff (hcounts : policy.CountsAccepted) {s : RateRuntime} (h : RateReady policy minute s)
    (hexact : CounterExact policy minute s) (action : RateAction policy minute) :
    CounterExact policy minute (rateStep s action) ↔ CountsOnlyAccepted s action := by
  cases action with
  | finish preflight =>
    refine iff_of_true ?_ trivial
    rw [rateStep]
    split
    · rename_i hmem
      exact (release_untouched s.store (h.granted preflight hmem)).counter.trans hexact
    · exact hexact
  | preflight request =>
    have houtcome := request.outcome hcounts h
    have hnonneg : (0 : Int) ≤ s.store.runtimePolicyCounter (rateKey policy minute) := by
      rw [hexact]
      exact Int.natCast_nonneg _
    have hbounded := h.bounded
    have hcounted := houtcome.counted
    have huncounted := houtcome.uncounted
    rw [request.key_eq] at hcounted huncounted
    cases hresult : enforceRuntimePolicyPreflight request.input s.store with
    | mk result store =>
      rw [hresult] at houtcome hcounted huncounted
      rw [CounterExact, rateStep, hresult, CountsOnlyAccepted]
      by_cases hreaches : ReachesCounter policy request.input s.store
      · have hmem : policy ∈ matchingQuotaPolicies request.input := hreaches.2.2.mem
        have haccepted := houtcome.accepted hreaches
        have hraised : store.runtimePolicyCounter (rateKey policy minute) =
            saturatingAdd (s.store.runtimePolicyCounter (rateKey policy minute)) 1 := hcounted hreaches
        cases result with
        | error error =>
          have hrefused := mt haccepted.mpr fun hok => by
            obtain ⟨preflight, hpreflight⟩ := hok
            cases hpreflight
          have hstays : store.runtimePolicyCounter (rateKey policy minute) = s.accepted ↔
              ¬ s.store.runtimePolicyCounter (rateKey policy minute) < i64Max := by
            rw [hraised, ← hexact]
            exact stays_iff hnonneg hbounded
          refine hstays.trans ⟨fun hfull _ => iff_of_false hrefused hfull, fun hcondition => ?_⟩
          exact mt (hcondition hreaches).mpr hrefused
        | ok preflight =>
          have hall := haccepted.mp ⟨preflight, rfl⟩
          have hrises : store.runtimePolicyCounter (rateKey policy minute) = ((s.accepted + 1 : Nat) : Int) ↔
              s.store.runtimePolicyCounter (rateKey policy minute) < i64Max := by
            rw [hraised, Nat.cast_add, Nat.cast_one, ← hexact]
            exact rises_iff hnonneg
          simp only [if_pos hmem]
          exact hrises.trans ⟨fun hroom _ => iff_of_true hall hroom, fun hcondition => (hcondition hreaches).mp hall⟩
      · refine iff_of_true ?_ fun hreaches' => absurd hreaches' hreaches
        cases result with
        | error error => exact (huncounted hreaches).trans hexact
        | ok preflight =>
          have hnot : policy ∉ matchingQuotaPolicies request.input := fun hmem => by
            obtain ⟨error, herror⟩ := houtcome.rejected hreaches hmem
            cases herror
          simp only [if_neg hnot, Nat.add_zero]
          exact (huncounted hreaches).trans hexact

end Steps

/-- In every run over one minute the counter is the number of accepted requests after each step exactly when no
preflight that comes to the policy is refused by it or later. -/
theorem rateCounter_countsAccepted {policy : QuotaPolicyRecord} (hcounts : policy.CountsAccepted) (minute : Int)
    {start : RuntimePolicyStore} (hhot : start.runtimePolicyHotStateAvailable = true)
    (hfresh : start.runtimePolicyCounter (rateKey policy minute) = 0) (actions : List (RateAction policy minute)) :
    Meets (fun s action => some (rateStep s action)) CountsOnlyAccepted ⟨start, [], 0⟩ actions ↔
      ∀ prior, prior <+: actions →
        (prior.foldl rateStep ⟨start, [], 0⟩).store.runtimePolicyCounter (rateKey policy minute) =
          (prior.foldl rateStep ⟨start, [], 0⟩).accepted := by
  have hready : RateReady policy minute ⟨start, [], 0⟩ :=
    ⟨hhot, hfresh.trans_le (by decide), fun preflight hpreflight => absurd hpreflight List.not_mem_nil⟩
  have hbase : ∀ (s : RateRuntime) (action : RateAction policy minute), RateReady policy minute s →
      RateReady policy minute (rateStep s action) := fun _ action h => h.step hcounts action
  have hstep : ∀ (s : RateRuntime) (action : RateAction policy minute), RateReady policy minute s →
      CounterExact policy minute s → (CounterExact policy minute (rateStep s action) ↔ CountsOnlyAccepted s action) :=
    fun _ action h hexact => hexact.step_iff hcounts h action
  exact meets_iff_always hbase hstep hready hfresh actions

section Examples

def projectRateQuota (limit : Int) : QuotaPolicyRecord where
  quotaPolicyId := "qta_rate"
  tenantId := "tenant_1"
  scopeKind := .organization
  scopeId := "org_1"
  counterKind := .requestRate
  limit := limit
  burstLimit := none
  window := .fixed
  incrementSource := .acceptedPreflightRequest
  lossBehavior := .failClosed
  status := .active

/-- A request of the organization, under its rate policy and the concurrency policy of the tenant. -/
def ratedRequest (limit : Int) : SlotPreflight (projectRateQuota limit) 0 where
  input :=
    { twoBudgetInput with
      budgetPolicies := []
      quotaPolicies := [projectRateQuota limit, concurrentRequestQuota]
      actor := { tenantActor with organizationId := some "org_1" } }
  ids := by
    refine ⟨List.nodup_nil, ?_, by simp, by simp, ?_⟩
    · simp [projectRateQuota, concurrentRequestQuota]
    · have hfree : BarFree "tenant_1" ∧ BarFree "qta_rate" ∧ BarFree "qta_1" := by decide
      exact List.forall_mem_cons.mpr ⟨⟨hfree.1, hfree.2.1⟩, List.forall_mem_singleton.mpr ⟨hfree.1, hfree.2.2⟩⟩
  listed := List.mem_cons_self
  slot := rfl

def heldRequest : RuntimePolicyPreflight := ⟨[], [⟨runtimeQuotaCounterKey concurrentRequestQuota ⟨0⟩, 1, .hotState⟩]⟩

def requestsInTurn : List (RateAction (projectRateQuota 5) 0) :=
  [.preflight (ratedRequest 5), .finish heldRequest, .preflight (ratedRequest 5)]

theorem requestsInTurn_counted :
    (projectRateQuota 5).CountsAccepted ∧
    RuntimePolicyStore.empty.runtimePolicyCounter (rateKey (projectRateQuota 5) 0) = 0 ∧
    (requestsInTurn.foldl rateStep ⟨.empty, [], 0⟩).store.runtimePolicyCounter (rateKey (projectRateQuota 5) 0) =
      (requestsInTurn.foldl rateStep ⟨.empty, [], 0⟩).accepted := by
  have hmeets : Meets (fun s action => some (rateStep s action)) CountsOnlyAccepted ⟨.empty, [], 0⟩ requestsInTurn := by
    refine .cons rfl (fun _ => ?_) (.cons rfl trivial (.cons rfl (fun _ => ?_) trivial))
    · exact iff_of_true (by decide +kernel) (by decide +kernel)
    · exact iff_of_true (by decide +kernel) (by decide +kernel)
  exact ⟨⟨rfl, rfl⟩, rfl,
    (rateCounter_countsAccepted ⟨rfl, rfl⟩ 0 rfl rfl requestsInTurn).mp hmeets requestsInTurn List.prefix_rfl⟩

def requestsAtOnce (limit : Int) : List (RateAction (projectRateQuota limit) 0) :=
  [.preflight (ratedRequest limit), .preflight (ratedRequest limit)]

/-- The second request is counted although the policy itself, or the concurrency policy after it, refuses it. -/
theorem refusedRequests_counted :
    (((requestsAtOnce 1).foldl rateStep ⟨.empty, [], 0⟩).store.runtimePolicyCounter (rateKey (projectRateQuota 1) 0) = 2 ∧
      ((requestsAtOnce 1).foldl rateStep ⟨.empty, [], 0⟩).accepted = 1) ∧
    ((requestsAtOnce 5).foldl rateStep ⟨.empty, [], 0⟩).store.runtimePolicyCounter (rateKey (projectRateQuota 5) 0) = 2 ∧
      ((requestsAtOnce 5).foldl rateStep ⟨.empty, [], 0⟩).accepted = 1 := by
  refine ⟨⟨by decide +kernel, by decide +kernel⟩, by decide +kernel, by decide +kernel⟩

end Examples

end Starweaver.Gateway
