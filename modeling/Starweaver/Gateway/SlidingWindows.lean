import Starweaver.Gateway.RateCounting

namespace Starweaver.Gateway

open Library.Calendar Library.Machine Library.MachineInt Library.Separated

/-- A preflight of a request that finds the policy in the store. -/
structure ListedPreflight (policy : QuotaPolicyRecord) where
  input : PreflightInput
  ids : PolicyIds input
  listed : policy ∈ input.quotaPolicies

/-- A preflight at any instant, or a request that gives back what its preflight reserved. -/
inductive WindowAction (policy : QuotaPolicyRecord)
  | preflight (request : ListedPreflight policy)
  | finish (preflight : RuntimePolicyPreflight)

/-- With the store, the instants of the preflights to which the policy applies, and of those that it has accepted. -/
structure WindowRuntime where
  store : RuntimePolicyStore
  granted : List RuntimePolicyPreflight
  arrived : List DateTime
  accepted : List DateTime

section Minutes

def minuteOf (instant : DateTime) : Int := instant.timestamp / 60

/-- The accepted preflights of the 60 seconds that start at the instant. -/
def acceptedInWindow (accepted : List DateTime) (start : DateTime) : Nat :=
  accepted.countP fun instant => decide (start ≤ instant ∧ instant < start.addSeconds 60)

def acceptedInMinute (accepted : List DateTime) (minute : Int) : Nat :=
  accepted.countP fun instant => decide (minuteOf instant = minute)

/-- The instants of earlier minutes that are less than 60 seconds back. -/
def justBefore (instants : List DateTime) (now : DateTime) : Nat :=
  instants.countP fun instant => decide (minuteOf instant < minuteOf now ∧ now < instant.addSeconds 60)

/-- The instants of later minutes that are less than 60 seconds away. -/
def justAfter (instants : List DateTime) (now : DateTime) : Nat :=
  instants.countP fun instant => decide (minuteOf now < minuteOf instant ∧ instant < now.addSeconds 60)

theorem countP_le_add {α : Type} {p q r : α → Bool} (h : ∀ x, p x = true → q x = true ∨ r x = true) (xs : List α) :
    xs.countP p ≤ xs.countP q + xs.countP r := by
  induction xs with
  | nil => simp
  | cons x xs ih =>
    simp only [List.countP_cons]
    cases hp : p x with
    | false => simp only [Bool.false_eq_true, if_false]; omega
    | true =>
      rcases h x hp with hq | hr
      · simp only [hq, if_true]; omega
      · simp only [hr, if_true]; omega

/-- A window that holds the instant reaches over its minute into one neighbour at most. -/
theorem acceptedInWindow_le (accepted : List DateTime) {start now : DateTime} (hstart : start ≤ now)
    (hend : now < start.addSeconds 60) :
    acceptedInWindow accepted start ≤ acceptedInMinute accepted (minuteOf now) + justBefore accepted now ∨
      acceptedInWindow accepted start ≤ acceptedInMinute accepted (minuteOf now) + justAfter accepted now := by
  have hlow : start.nanos ≤ now.nanos := hstart
  have hhigh : now.nanos < start.nanos + 60 * 1000000000 := hend
  by_cases hminute : minuteOf start = minuteOf now
  · refine .inr (countP_le_add (fun instant hat => ?_) accepted)
    obtain ⟨hfrom, hto⟩ := of_decide_eq_true hat
    have hfrom : start.nanos ≤ instant.nanos := hfrom
    have hto : instant.nanos < start.nanos + 60 * 1000000000 := hto
    by_cases hsame : minuteOf instant = minuteOf now
    · exact .inl (decide_eq_true hsame)
    · refine .inr (decide_eq_true ⟨?_, ?_⟩)
      · unfold minuteOf DateTime.timestamp at *
        omega
      · show instant.nanos < now.nanos + 60 * 1000000000
        omega
  · refine .inl (countP_le_add (fun instant hat => ?_) accepted)
    obtain ⟨hfrom, hto⟩ := of_decide_eq_true hat
    have hfrom : start.nanos ≤ instant.nanos := hfrom
    have hto : instant.nanos < start.nanos + 60 * 1000000000 := hto
    by_cases hsame : minuteOf instant = minuteOf now
    · exact .inl (decide_eq_true hsame)
    · refine .inr (decide_eq_true ⟨?_, ?_⟩)
      · unfold minuteOf DateTime.timestamp at *
        omega
      · show now.nanos < instant.nanos + 60 * 1000000000
        omega

/-- What is just before lies in the minute before. -/
theorem justBefore_le (accepted : List DateTime) (now : DateTime) :
    justBefore accepted now ≤ acceptedInMinute accepted (minuteOf (now.addSeconds (-60))) := by
  apply List.countP_mono_left
  intro instant _ hjust
  obtain ⟨hminute, hnear⟩ := of_decide_eq_true hjust
  have hnear : now.nanos < instant.nanos + 60 * 1000000000 := hnear
  apply decide_eq_true
  unfold minuteOf DateTime.timestamp DateTime.addSeconds at *
  dsimp only
  omega

theorem justAfter_le (accepted : List DateTime) (now : DateTime) :
    justAfter accepted now ≤ acceptedInMinute accepted (minuteOf (now.addSeconds 60)) := by
  apply List.countP_mono_left
  intro instant _ hjust
  obtain ⟨hminute, hnear⟩ := of_decide_eq_true hjust
  have hnear : instant.nanos < now.nanos + 60 * 1000000000 := hnear
  apply decide_eq_true
  unfold minuteOf DateTime.timestamp DateTime.addSeconds at *
  dsimp only
  omega

end Minutes

section Acceptance

instance Reached.decidable (refuses : QuotaPolicyRecord → Bool) (policy : QuotaPolicyRecord) :
    ∀ policies, Decidable (Reached refuses policy policies)
  | [] => .isFalse fun h => absurd h.mem List.not_mem_nil
  | quota :: policies =>
    if heq : quota = policy then .isTrue (heq ▸ reached_head refuses quota policies)
    else
      have := Reached.decidable refuses policy policies
      decidable_of_iff _ (reached_cons heq).symm

instance (input : PreflightInput) (store : RuntimePolicyStore) : Decidable (BudgetsAdmit input store) :=
  inferInstanceAs (Decidable (_ ∧ _))

instance (input : PreflightInput) (store : RuntimePolicyStore) : Decidable (LimitsAdmit input store) :=
  match h : enforceRuntimeQuotaPreflightLimits input store true (matchingQuotaPolicies input) with
  | .ok () => .isTrue h
  | .error error => .isFalse fun hok => by cases h.symm.trans hok

/-- The preflight comes to the policy, and the policy lets it pass. -/
def AcceptedBy (policy : QuotaPolicyRecord) (input : PreflightInput) (store : RuntimePolicyStore) : Prop :=
  ReachesCounter policy input store ∧ quotaRefuses input store policy = false

instance (policy : QuotaPolicyRecord) (input : PreflightInput) (store : RuntimePolicyStore) :
    Decidable (AcceptedBy policy input store) := inferInstanceAs (Decidable ((_ ∧ _ ∧ _) ∧ _))

end Acceptance

section Steps

variable {policy : QuotaPolicyRecord}

def windowStep (s : WindowRuntime) : WindowAction policy → WindowRuntime
  | .preflight request =>
    let arrived := if policy ∈ matchingQuotaPolicies request.input then request.input.now :: s.arrived else s.arrived
    let accepted := if AcceptedBy policy request.input s.store then request.input.now :: s.accepted else s.accepted
    match enforceRuntimePolicyPreflight request.input s.store with
    | (.error _, store) => ⟨store, s.granted, arrived, accepted⟩
    | (.ok preflight, store) => ⟨store, preflight :: s.granted, arrived, accepted⟩
  | .finish preflight =>
    if preflight ∈ s.granted then
      { s with
        store := releaseRuntimePolicyReservations s.store preflight
        granted := s.granted.erase preflight }
    else s

/-- How many preflights less than 60 seconds back the minute before can have admitted: they have arrived, and its
counter has counted them. -/
def crowdBefore (policy : QuotaPolicyRecord) (s : WindowRuntime) (now : DateTime) : Int :=
  min (justBefore s.arrived now) (s.store.runtimePolicyCounter (runtimeQuotaCounterKey policy (now.addSeconds (-60))))

def crowdAfter (policy : QuotaPolicyRecord) (s : WindowRuntime) (now : DateTime) : Int :=
  min (justAfter s.arrived now) (s.store.runtimePolicyCounter (runtimeQuotaCounterKey policy (now.addSeconds 60)))

/-- Unless the counter of the minute has reached the limit, it leaves room for the request also beside the arrivals of
the neighbouring minutes that are less than 60 seconds away. -/
def RoomNearby (s : WindowRuntime) : WindowAction policy → Prop
  | .preflight request => policy ∈ matchingQuotaPolicies request.input →
    let now := request.input.now
    let current := s.store.runtimePolicyCounter (runtimeQuotaCounterKey policy now)
    (policy.limit ≤ current ∧ current < i64Max) ∨
      (current + crowdBefore policy s now < policy.limit ∧ current + crowdAfter policy s now < policy.limit)
  | .finish _ => True

/-- Every half-open window of 60 seconds holds at most as many accepted preflights as the policy allows. -/
def WindowsBounded (policy : QuotaPolicyRecord) (s : WindowRuntime) : Prop :=
  ∀ start, (acceptedInWindow s.accepted start : Int) ≤ policy.limit

/-- The counter of a minute covers the preflights accepted in it, and no reservation is held under it. -/
structure WindowReady (policy : QuotaPolicyRecord) (s : WindowRuntime) : Prop where
  hotState : s.store.runtimePolicyHotStateAvailable = true
  arrived : s.accepted.Sublist s.arrived
  covered : ∀ instant, (acceptedInMinute s.accepted (minuteOf instant) : Int) ≤
    s.store.runtimePolicyCounter (runtimeQuotaCounterKey policy instant)
  bounded : ∀ instant, s.store.runtimePolicyCounter (runtimeQuotaCounterKey policy instant) ≤ i64Max
  granted : ∀ preflight ∈ s.granted, ∀ instant,
    (∀ r ∈ preflight.budgetReservations, r.counterKey ≠ runtimeQuotaCounterKey policy instant) ∧
      ∀ r ∈ preflight.quotaReservations, r.counterKey ≠ runtimeQuotaCounterKey policy instant

theorem runtimeQuotaCounterKey_minute {now later : DateTime} (h : minuteOf now = minuteOf later) :
    runtimeQuotaCounterKey policy now = runtimeQuotaCounterKey policy later := by
  have hslot : runtimeQuotaWindowSlot policy now = runtimeQuotaWindowSlot policy later := by
    have htimestamp : now.timestamp / 60 = later.timestamp / 60 := h
    unfold runtimeQuotaWindowSlot
    rw [htimestamp]
  unfold runtimeQuotaCounterKey
  rw [hslot]

/-- Keys of the policy in other minutes are no key of the request. -/
theorem ListedPreflight.apart (request : ListedPreflight policy) {instant : DateTime}
    (hne : runtimeQuotaCounterKey policy request.input.now ≠ runtimeQuotaCounterKey policy instant) :
    NoBudgetKey request.input (runtimeQuotaCounterKey policy instant) ∧
      NoQuotaKey request.input (runtimeQuotaCounterKey policy instant) := by
  have hids := request.ids
  have hfree := hids.quota_barFree policy request.listed
  constructor
  · intro budget hbudget
    exact budgetKey_ne_quotaKey (hids.budget_barFree budget hbudget).1 hfree.1 (hids.budget_barFree budget hbudget).2
      hfree.2 (hids.ids_apart budget hbudget policy request.listed) request.input.now instant
  · intro quota hquota hkey
    have hid : quota.quotaPolicyId = policy.quotaPolicyId :=
      runtimeQuotaCounterKey_inj (hids.quota_barFree quota hquota).1 hfree.1 (hids.quota_barFree quota hquota).2 hfree.2 hkey
    have hequal : quota = policy := List.inj_on_of_nodup_map hids.quota_ids hquota request.listed hid
    subst hequal
    exact hne hkey

/-- What a preflight does to the counters of the policy: an accepted one raises the counter of its minute, and none
lowers a counter. -/
structure CountersRise (policy : QuotaPolicyRecord) (input : PreflightInput) (store next : RuntimePolicyStore) : Prop where
  accepted : AcceptedBy policy input store → next.runtimePolicyCounter (runtimeQuotaCounterKey policy input.now) =
    saturatingAdd (store.runtimePolicyCounter (runtimeQuotaCounterKey policy input.now)) 1
  rises : ∀ instant, store.runtimePolicyCounter (runtimeQuotaCounterKey policy instant) ≤
    next.runtimePolicyCounter (runtimeQuotaCounterKey policy instant)
  bounded : ∀ instant, next.runtimePolicyCounter (runtimeQuotaCounterKey policy instant) ≤ i64Max

theorem saturatingAdd_one_ge {n : Int} (h : n ≤ i64Max) : n ≤ saturatingAdd n 1 := by
  unfold saturatingAdd i64Min i64Max at *
  omega

theorem ListedPreflight.rise (request : ListedPreflight policy) (hcounts : policy.CountsAccepted) {s : WindowRuntime}
    (h : WindowReady policy s) :
    CountersRise policy request.input s.store (enforceRuntimePolicyPreflight request.input s.store).2 := by
  have houtcome := enforceRuntimePolicyPreflight_outcome request.ids hcounts request.listed h.hotState
  have hnow : s.store.runtimePolicyCounter (runtimeQuotaCounterKey policy request.input.now) ≤
      (enforceRuntimePolicyPreflight request.input s.store).2.runtimePolicyCounter
        (runtimeQuotaCounterKey policy request.input.now) ∧
      (enforceRuntimePolicyPreflight request.input s.store).2.runtimePolicyCounter
        (runtimeQuotaCounterKey policy request.input.now) ≤ i64Max := by
    by_cases hreaches : ReachesCounter policy request.input s.store
    · rw [houtcome.counted hreaches]
      exact ⟨saturatingAdd_one_ge (h.bounded _), (inI64_saturatingAdd _ _).2⟩
    · rw [houtcome.uncounted hreaches]
      exact ⟨le_rfl, h.bounded _⟩
  have hother {instant : DateTime}
      (hne : runtimeQuotaCounterKey policy request.input.now ≠ runtimeQuotaCounterKey policy instant) :
      (enforceRuntimePolicyPreflight request.input s.store).2.runtimePolicyCounter (runtimeQuotaCounterKey policy instant) =
        s.store.runtimePolicyCounter (runtimeQuotaCounterKey policy instant) :=
    (enforceRuntimePolicyPreflight_untouched request.ids (request.apart hne).1 (request.apart hne).2 h.hotState).1.counter
  refine ⟨fun haccepted => houtcome.counted haccepted.1, fun instant => ?_, fun instant => ?_⟩
  · by_cases hkey : runtimeQuotaCounterKey policy request.input.now = runtimeQuotaCounterKey policy instant
    · exact hkey ▸ hnow.1
    · exact (hother hkey).ge
  · by_cases hkey : runtimeQuotaCounterKey policy request.input.now = runtimeQuotaCounterKey policy instant
    · exact hkey ▸ hnow.2
    · exact (hother hkey).trans_le (h.bounded instant)

theorem ListedPreflight.reserves_apart (request : ListedPreflight policy) (hcounts : policy.CountsAccepted)
    {s : WindowRuntime} (h : WindowReady policy s) {preflight : RuntimePolicyPreflight}
    (hok : (enforceRuntimePolicyPreflight request.input s.store).1 = .ok preflight) (instant : DateTime) :
    (∀ r ∈ preflight.budgetReservations, r.counterKey ≠ runtimeQuotaCounterKey policy instant) ∧
      ∀ r ∈ preflight.quotaReservations, r.counterKey ≠ runtimeQuotaCounterKey policy instant := by
  by_cases hkey : runtimeQuotaCounterKey policy request.input.now = runtimeQuotaCounterKey policy instant
  · rw [← hkey]
    have houtcome := enforceRuntimePolicyPreflight_outcome request.ids hcounts request.listed h.hotState
    exact houtcome.granted preflight hok
  · exact (enforceRuntimePolicyPreflight_untouched request.ids (request.apart hkey).1 (request.apart hkey).2 h.hotState).2
      preflight hok

theorem windowStep_preflight (s : WindowRuntime) (request : ListedPreflight policy) :
    let next := windowStep s (.preflight request)
    next.store = (enforceRuntimePolicyPreflight request.input s.store).2 ∧
      next.arrived = (if policy ∈ matchingQuotaPolicies request.input then request.input.now :: s.arrived
        else s.arrived) ∧
      next.accepted = (if AcceptedBy policy request.input s.store then request.input.now :: s.accepted else s.accepted) ∧
      ∀ preflight ∈ next.granted, preflight ∈ s.granted ∨
        (enforceRuntimePolicyPreflight request.input s.store).1 = .ok preflight := by
  dsimp only [windowStep]
  cases enforceRuntimePolicyPreflight request.input s.store with
  | mk result store =>
    cases result with
    | error error => exact ⟨rfl, rfl, rfl, fun preflight hmem => .inl hmem⟩
    | ok preflight =>
      refine ⟨rfl, rfl, rfl, fun other hmem => ?_⟩
      rcases List.mem_cons.mp hmem with rfl | hmem
      · exact .inr rfl
      · exact .inl hmem

/-- A request that the policy accepts is one that it applies to, and the limit check has let it pass. -/
theorem AcceptedBy.below (hcounts : policy.CountsAccepted) {input : PreflightInput} {store : RuntimePolicyStore}
    (h : AcceptedBy policy input store) : policy ∈ matchingQuotaPolicies input ∧
      saturatingAdd (store.runtimePolicyCounter (runtimeQuotaCounterKey policy input.now)) 1 ≤ policy.limit := by
  refine ⟨h.1.2.2.mem, ?_⟩
  have hpasses := h.2
  unfold quotaRefuses at hpasses
  rw [skips_of_countsAccepted hcounts, hcounts.1, hcounts.2] at hpasses
  simpa using hpasses

theorem crowd_covers {s : WindowRuntime} (h : WindowReady policy s) (now : DateTime) :
    (justBefore s.accepted now : Int) ≤ crowdBefore policy s now ∧
      (justAfter s.accepted now : Int) ≤ crowdAfter policy s now := by
  constructor
  · refine le_min ?_ ((Int.ofNat_le.mpr (justBefore_le s.accepted now)).trans (h.covered _))
    exact Int.ofNat_le.mpr h.arrived.countP_le
  · refine le_min ?_ ((Int.ofNat_le.mpr (justAfter_le s.accepted now)).trans (h.covered _))
    exact Int.ofNat_le.mpr h.arrived.countP_le

/-- An accepted preflight finds room beside the accepted ones of each neighbouring minute. -/
theorem AcceptedBy.room (hcounts : policy.CountsAccepted) {s : WindowRuntime} (hready : WindowReady policy s)
    {request : ListedPreflight policy} (haccepted : AcceptedBy policy request.input s.store)
    (hroom : RoomNearby s (.preflight request)) :
    s.store.runtimePolicyCounter (runtimeQuotaCounterKey policy request.input.now) +
        justBefore s.accepted request.input.now < policy.limit ∧
      s.store.runtimePolicyCounter (runtimeQuotaCounterKey policy request.input.now) +
        justAfter s.accepted request.input.now < policy.limit := by
  obtain ⟨hmatches, hlimit⟩ := haccepted.below hcounts
  have hnonneg := (Int.natCast_nonneg _).trans (hready.covered request.input.now)
  obtain ⟨hbefore, hafter⟩ := crowd_covers hready request.input.now
  rcases hroom hmatches with ⟨hreached, hbelow⟩ | ⟨hfits, hfits'⟩
  · unfold saturatingAdd i64Min at hlimit
    omega
  · omega

theorem WindowReady.finish {s : WindowRuntime} (h : WindowReady policy s) (preflight : RuntimePolicyPreflight) :
    WindowReady policy (windowStep s (.finish preflight : WindowAction policy)) := by
  rw [windowStep]
  split
  · rename_i hmem
    have huntouched (instant : DateTime) := release_untouched s.store (h.granted preflight hmem instant)
    refine ⟨(huntouched ⟨0⟩).hotState.trans h.hotState, h.arrived, fun instant => ?_, fun instant => ?_,
      fun other hother => ?_⟩
    · exact (h.covered instant).trans (huntouched instant).counter.ge
    · exact (huntouched instant).counter.trans_le (h.bounded instant)
    · exact h.granted other (List.mem_of_mem_erase hother)
  · exact h

/-- An accepted preflight that finds room raises the counter of its minute by one. -/
theorem CountersRise.counter_eq {s : WindowRuntime} {input : PreflightInput} {next : RuntimePolicyStore}
    (h : CountersRise policy input s.store next) (hready : WindowReady policy s) (hlimit : policy.limit ≤ i64Max)
    (haccepted : AcceptedBy policy input s.store)
    (hroom : s.store.runtimePolicyCounter (runtimeQuotaCounterKey policy input.now) < policy.limit) :
    next.runtimePolicyCounter (runtimeQuotaCounterKey policy input.now) =
      s.store.runtimePolicyCounter (runtimeQuotaCounterKey policy input.now) + 1 := by
  have hnonneg := (Int.natCast_nonneg _).trans (hready.covered input.now)
  rw [h.accepted haccepted]
  exact (rises_iff hnonneg).mpr (hroom.trans_le hlimit)

theorem WindowReady.step (hcounts : policy.CountsAccepted) (hlimit : policy.limit ≤ i64Max) {s : WindowRuntime}
    (h : WindowReady policy s) {action : WindowAction policy} (hroom : RoomNearby s action) :
    WindowReady policy (windowStep s action) := by
  cases action with
  | finish preflight => exact h.finish preflight
  | preflight request =>
    obtain ⟨hstore, harrived, haccepted, hgranted⟩ := windowStep_preflight s request
    have hrise := request.rise hcounts h
    have hhot := (enforceRuntimePolicyPreflight_outcome request.ids hcounts request.listed h.hotState).hotState
    refine ⟨?_, ?_, fun instant => ?_, fun instant => ?_, fun preflight hmem instant => ?_⟩
    · rw [hstore, hhot, h.hotState]
    · rw [harrived, haccepted]
      split
      · rename_i hby
        rw [if_pos (hby.below hcounts).1]
        exact h.arrived.cons_cons request.input.now
      · split
        · exact h.arrived.cons request.input.now
        · exact h.arrived
    · rw [hstore, haccepted]
      split
      · rename_i hby
        have hbefore : s.store.runtimePolicyCounter (runtimeQuotaCounterKey policy request.input.now) < policy.limit :=
          lt_of_le_of_lt (le_add_of_nonneg_right (Int.natCast_nonneg _)) (hby.room hcounts h hroom).1
        have hraised := hrise.counter_eq h hlimit hby hbefore
        have hcovered := h.covered instant
        simp only [acceptedInMinute, List.countP_cons] at hcovered ⊢
        by_cases hminute : minuteOf request.input.now = minuteOf instant
        · rw [runtimeQuotaCounterKey_minute hminute] at hraised
          rw [hraised, decide_eq_true hminute, if_pos rfl]
          omega
        · rw [decide_eq_false hminute]
          exact hcovered.trans (hrise.rises instant)
      · exact (h.covered instant).trans (hrise.rises instant)
    · rw [hstore]
      exact hrise.bounded instant
    · rcases hgranted preflight hmem with hmem | hok
      · exact h.granted preflight hmem instant
      · exact request.reserves_apart hcounts h hok instant

theorem WindowsBounded.step (hcounts : policy.CountsAccepted) {s : WindowRuntime} (hready : WindowReady policy s)
    (h : WindowsBounded policy s)
    {action : WindowAction policy} (hroom : RoomNearby s action) : WindowsBounded policy (windowStep s action) := by
  cases action with
  | finish preflight =>
    rw [windowStep]
    split
    · exact h
    · exact h
  | preflight request =>
    obtain ⟨-, -, haccepted, -⟩ := windowStep_preflight s request
    intro start
    rw [haccepted]
    split
    · rename_i hby
      obtain ⟨hbefore, hafter⟩ := hby.room hcounts hready hroom
      have hcovered := hready.covered request.input.now
      by_cases hin : start ≤ request.input.now ∧ request.input.now < start.addSeconds 60
      · have hcons : acceptedInWindow (request.input.now :: s.accepted) start = acceptedInWindow s.accepted start + 1 := by
          rw [acceptedInWindow, List.countP_cons, if_pos (decide_eq_true hin), acceptedInWindow]
        rw [hcons]
        rcases acceptedInWindow_le s.accepted hin.1 hin.2 with hwindow | hwindow
        · omega
        · omega
      · have hcons : acceptedInWindow (request.input.now :: s.accepted) start = acceptedInWindow s.accepted start := by
          rw [acceptedInWindow, List.countP_cons, decide_eq_false hin]
          rfl
        rw [hcons]
        exact h start
    · exact h start

end Steps

/-- A policy of accepted requests over sliding windows, as the store accepts it. -/
structure SlidingRate (policy : QuotaPolicyRecord) : Prop where
  shape : validateQuotaPolicyShape policy = .ok ()
  kind : policy.counterKind = .requestRate
  window : policy.window = .sliding
  limit_le : policy.limit ≤ i64Max

theorem SlidingRate.countsAccepted {policy : QuotaPolicyRecord} (h : SlidingRate policy) : policy.CountsAccepted := by
  have hsource := (validateQuotaPolicyShape_shape h.shape).source_supported
  rw [h.kind] at hsource
  refine ⟨h.kind, ?_⟩
  cases hpolicy : policy.incrementSource with
  | acceptedPreflightRequest => rfl
  | _ =>
    rw [hpolicy] at hsource
    cases hsource

/-- Every window of 60 seconds holds at most as many accepted preflights as the policy allows, in every run in which
the counters of neighbouring minutes leave room for each request that the policy applies to. -/
theorem slidingWindows_bounded {policy : QuotaPolicyRecord} (hrate : SlidingRate policy) {start : RuntimePolicyStore}
    (hhot : start.runtimePolicyHotStateAvailable = true)
    (hcounters : ∀ instant, 0 ≤ start.runtimePolicyCounter (runtimeQuotaCounterKey policy instant) ∧
      start.runtimePolicyCounter (runtimeQuotaCounterKey policy instant) ≤ i64Max)
    {actions : List (WindowAction policy)}
    (hmeets : Meets (fun s action => some (windowStep s action)) RoomNearby ⟨start, [], [], []⟩ actions) :
    WindowsBounded policy (actions.foldl windowStep ⟨start, [], [], []⟩) := by
  have hready : WindowReady policy ⟨start, [], [], []⟩ :=
    ⟨hhot, .slnil, fun instant => (hcounters instant).1, fun instant => (hcounters instant).2,
      fun preflight hmem => absurd hmem List.not_mem_nil⟩
  have hbounded : WindowsBounded policy ⟨start, [], [], []⟩ := fun _ => (validateQuotaPolicyShape_shape hrate.shape).limit_pos.le
  have hstep (s : WindowRuntime) (action : WindowAction policy) (next : WindowRuntime)
      (h : WindowReady policy s ∧ WindowsBounded policy s) (hroom : RoomNearby s action)
      (hnext : some (windowStep s action) = some next) : WindowReady policy next ∧ WindowsBounded policy next := by
    cases hnext
    exact ⟨h.1.step hrate.countsAccepted hrate.limit_le hroom, h.2.step hrate.countsAccepted h.1 hroom⟩
  exact (run_invariant hstep ⟨hready, hbounded⟩ hmeets (run_total windowStep _ actions)).2

section Examples

def slidingQuota (limit : Int) : QuotaPolicyRecord := { projectRateQuota limit with window := .sliding }

def requestAt (limit second : Int) : ListedPreflight (slidingQuota limit) where
  input :=
    { twoBudgetInput with
      budgetPolicies := []
      quotaPolicies := [slidingQuota limit]
      actor := { tenantActor with organizationId := some "org_1" }
      now := ⟨second * 1000000000⟩ }
  ids := by
    refine ⟨List.nodup_nil, List.nodup_singleton _, by simp, by simp, ?_⟩
    have hfree : BarFree "tenant_1" ∧ BarFree "qta_rate" := by decide
    exact List.forall_mem_singleton.mpr hfree
  listed := List.mem_cons_self

theorem slidingQuota_rate {limit : Int} (hpos : 0 < limit) (hlimit : limit ≤ i64Max) : SlidingRate (slidingQuota limit) := by
  refine ⟨?_, rfl, rfl, hlimit⟩
  have hnot : ¬ (slidingQuota limit).limit ≤ 0 := not_le.mpr hpos
  unfold validateQuotaPolicyShape
  rw [if_neg hnot]
  rfl

def aMinuteApart : List (WindowAction (slidingQuota 1)) := [.preflight (requestAt 1 59), .preflight (requestAt 1 119)]

theorem aMinuteApart_bounded : WindowsBounded (slidingQuota 1) (aMinuteApart.foldl windowStep ⟨.empty, [], [], []⟩) ∧
    (aMinuteApart.foldl windowStep ⟨.empty, [], [], []⟩).accepted.length = 2 := by
  have hmeets : Meets (fun s action => some (windowStep s action)) RoomNearby ⟨.empty, [], [], []⟩ aMinuteApart := by
    refine .cons rfl (fun _ => ?_) (.cons rfl (fun _ => ?_) trivial)
    · decide +kernel
    · decide +kernel
  have hcounters (instant : DateTime) :
      0 ≤ RuntimePolicyStore.empty.runtimePolicyCounter (runtimeQuotaCounterKey (slidingQuota 1) instant) ∧
        RuntimePolicyStore.empty.runtimePolicyCounter (runtimeQuotaCounterKey (slidingQuota 1) instant) ≤ i64Max := by
    show (0 : Int) ≤ 0 ∧ (0 : Int) ≤ i64Max
    decide
  exact ⟨slidingWindows_bounded (slidingQuota_rate (by decide) (by decide)) rfl hcounters hmeets, by decide +kernel⟩

def aSecondApart : List (WindowAction (slidingQuota 1)) := [.preflight (requestAt 1 59), .preflight (requestAt 1 60)]

/-- The second request falls into the next minute, and both are accepted within one second. -/
theorem aSecondApart_exceeds : SlidingRate (slidingQuota 1) ∧
    ¬ WindowsBounded (slidingQuota 1) (aSecondApart.foldl windowStep ⟨.empty, [], [], []⟩) := by
  refine ⟨slidingQuota_rate (by decide) (by decide), fun hbounded => ?_⟩
  have htwo : acceptedInWindow (aSecondApart.foldl windowStep ⟨.empty, [], [], []⟩).accepted ⟨59000000000⟩ = 2 := by decide +kernel
  have hone := hbounded ⟨59000000000⟩
  rw [htwo] at hone
  exact absurd hone (by decide)

end Examples

end Starweaver.Gateway
