import Starweaver.Gateway.PreflightQuota

namespace Starweaver.Gateway

open Library.Calendar Library.Checks Library.Counters Library.MachineInt Library.Separated

inductive LossDecision
  | passes
  | takes
  | exhausted
  | refused
deriving DecidableEq, Repr

/-- What a quota policy decides while hot state is unavailable, from its own allowance before the call. -/
def lossDecision (input : PreflightInput) (start : RuntimePolicyStore) (quota : QuotaPolicyRecord) : LossDecision :=
  if runtimeQuotaPolicySkipsRequest quota input.replayCase then .passes
  else if !runtimeQuotaPolicyNeedsHotState quota then .passes
  else match quota.lossBehavior with
    | .failOpen => .passes
    | .failClosed => .refused
    | .failLimited =>
      if quota.burstLimit.getD 0 ≤ 0 then .refused
      else if saturatingAdd (start.runtimePolicyLossAllowanceCounter
          (runtimeQuotaLossAllowanceKey quota input.now)) 1 ≤ quota.burstLimit.getD 0 then .takes
      else .exhausted

def LossDecision.continues : LossDecision → Bool
  | .passes | .takes => true
  | .exhausted | .refused => false

def lossContinues (input : PreflightInput) (start : RuntimePolicyStore) (quota : QuotaPolicyRecord) : Bool :=
  (lossDecision input start quota).continues

def takeAllowance (input : PreflightInput) (quota : QuotaPolicyRecord) (store : RuntimePolicyStore) :
    RuntimePolicyStore :=
  { store with
    runtimePolicyLossAllowances :=
      (increment store.runtimePolicyLossAllowances (runtimeQuotaLossAllowanceKey quota input.now) 1).1 }

/-- Only the allowances of the policies listed have moved, each by one unit. -/
structure LossTaken (input : PreflightInput) (start store : RuntimePolicyStore) (taken : List QuotaPolicyRecord) :
    Prop where
  untouched : ∀ key, (∀ quota ∈ taken, key ≠ runtimeQuotaLossAllowanceKey quota input.now) →
    store.runtimePolicyLossAllowanceCounter key = start.runtimePolicyLossAllowanceCounter key
  touched : ∀ quota ∈ taken, store.runtimePolicyLossAllowanceCounter (runtimeQuotaLossAllowanceKey quota input.now) =
    saturatingAdd (start.runtimePolicyLossAllowanceCounter (runtimeQuotaLossAllowanceKey quota input.now)) 1

section LossStep

variable {input : PreflightInput} {start store : RuntimePolicyStore} {taken policies : List QuotaPolicyRecord}
  {quota : QuotaPolicyRecord} {quotas : List RuntimeQuotaReservation}

theorem LossTaken.take (h : LossTaken input start store taken)
    (hout : ∀ other ∈ taken, runtimeQuotaLossAllowanceKey quota input.now ≠
      runtimeQuotaLossAllowanceKey other input.now) :
    LossTaken input start (takeAllowance input quota store) (taken ++ [quota]) := by
  unfold takeAllowance
  constructor
  · intro key hkey
    have hne : key ≠ runtimeQuotaLossAllowanceKey quota input.now := hkey quota (by simp)
    exact (value_increment_ne _ 1 hne).trans (h.untouched key fun other hother => hkey other (by simp [hother]))
  · intro other hother
    rcases List.mem_append.mp hother with hother | hother
    · exact (value_increment_ne _ 1 (hout other hother).symm).trans (h.touched other hother)
    · rw [List.mem_singleton.mp hother]
      refine (value_increment_self _ _ 1).trans ?_
      unfold increment
      exact congrArg (saturatingAdd · 1) (h.untouched _ hout)

/-- The reservations that stand for the allowances taken: only a concurrency policy gives its unit back. -/
def lossReservations (input : PreflightInput) (taken : List QuotaPolicyRecord) : List RuntimeQuotaReservation :=
  (taken.filter (·.isConcurrency)).map fun quota =>
    ⟨runtimeQuotaLossAllowanceKey quota input.now, 1, .lossAllowance⟩

theorem lossReservations_append (input : PreflightInput) (taken more : List QuotaPolicyRecord) :
    lossReservations input (taken ++ more) = lossReservations input taken ++ lossReservations input more := by
  unfold lossReservations
  rw [List.filter_append, List.map_append]

theorem lossAllowance_cases (hneeds : runtimeQuotaPolicyNeedsHotState quota = true)
    (hburst : ¬ quota.burstLimit.getD 0 ≤ 0)
    (hvalue : store.runtimePolicyLossAllowanceCounter (runtimeQuotaLossAllowanceKey quota input.now) =
      start.runtimePolicyLossAllowanceCounter (runtimeQuotaLossAllowanceKey quota input.now)) :
    (saturatingAdd (start.runtimePolicyLossAllowanceCounter (runtimeQuotaLossAllowanceKey quota input.now)) 1 ≤
      quota.burstLimit.getD 0 → ∃ reservation, reserveRuntimeQuotaLossAllowance quota input.now store =
        (.ok reservation, takeAllowance input quota store) ∧ reservation.toList = lossReservations input [quota]) ∧
    (¬ saturatingAdd (start.runtimePolicyLossAllowanceCounter (runtimeQuotaLossAllowanceKey quota input.now)) 1 ≤
      quota.burstLimit.getD 0 → ∃ error, reserveRuntimeQuotaLossAllowance quota input.now store =
        (.error error, takeAllowance input quota store)) := by
  have hallowed : (store.incrementRuntimePolicyLossAllowanceCounter (runtimeQuotaLossAllowanceKey quota input.now) 1
      (quota.burstLimit.getD 0)).2.allowed = decide (saturatingAdd (start.runtimePolicyLossAllowanceCounter
        (runtimeQuotaLossAllowanceKey quota input.now)) 1 ≤ quota.burstLimit.getD 0) := by
    rw [← hvalue]
    rfl
  unfold reserveRuntimeQuotaLossAllowance
  simp only [if_neg hburst, hallowed]
  constructor
  · intro hfits
    simp only [hfits, decide_true, Bool.not_true, Bool.false_eq_true, if_false]
    split
    · rename_i hkind _
      exact ⟨_, rfl, by simp [lossReservations, QuotaPolicyRecord.isConcurrency, hkind]⟩
    · rename_i hkind _
      exact ⟨_, rfl, by simp [lossReservations, QuotaPolicyRecord.isConcurrency, hkind]⟩
    · rename_i hrequest hstream
      refine ⟨none, rfl, ?_⟩
      -- a policy that needs hot state and holds a unit has one of the two combinations above
      unfold runtimeQuotaPolicyNeedsHotState at hneeds
      cases hkind : quota.counterKind <;> cases hsource : quota.incrementSource <;>
        simp_all [lossReservations, QuotaPolicyRecord.isConcurrency]
  · intro hfull
    simp only [hfull, decide_false, Bool.not_false, if_true]
    exact ⟨_, rfl⟩

theorem LossTaken.step (h : LossTaken input start store taken)
    (hout : ∀ other ∈ taken, runtimeQuotaLossAllowanceKey quota input.now ≠
      runtimeQuotaLossAllowanceKey other input.now) (policies : List QuotaPolicyRecord)
    (quotas : List RuntimeQuotaReservation) :
    match lossDecision input start quota with
    | .passes => reserveRuntimeQuotaPreflight input false (quota :: policies) quotas store =
        reserveRuntimeQuotaPreflight input false policies quotas store
    | .takes => reserveRuntimeQuotaPreflight input false (quota :: policies) quotas store =
        reserveRuntimeQuotaPreflight input false policies (quotas ++ lossReservations input [quota])
          (takeAllowance input quota store)
    | .exhausted => ∃ error, reserveRuntimeQuotaPreflight input false (quota :: policies) quotas store =
        (.error error, takeAllowance input quota store)
    | .refused => ∃ error, reserveRuntimeQuotaPreflight input false (quota :: policies) quotas store =
        (.error error, store) := by
  have hvalue := h.untouched _ hout
  rw [reserveRuntimeQuotaPreflight]
  unfold lossDecision
  by_cases hskip : runtimeQuotaPolicySkipsRequest quota input.replayCase = true
  · simp only [if_pos hskip]
  simp only [if_neg hskip]
  by_cases hneeds : runtimeQuotaPolicyNeedsHotState quota = true
  swap
  · have hidle : reserveQuotaPolicy input false quota quotas store = (.ok none, store) := by
      unfold runtimeQuotaPolicyNeedsHotState at hneeds
      unfold reserveQuotaPolicy
      rw [if_neg (by simp [runtimeQuotaPolicyNeedsHotState, hneeds])]
      split <;> simp_all
    simp [hneeds, hidle]
  have hloss : reserveQuotaPolicy input false quota quotas store =
      handleRuntimeQuotaHotStateLoss quota input.now store := by
    unfold reserveQuotaPolicy
    rw [if_pos (by simp [hneeds])]
  rw [hloss, if_neg (by simp [hneeds])]
  unfold handleRuntimeQuotaHotStateLoss
  cases hbehavior : quota.lossBehavior with
  | failOpen => simp
  | failClosed => exact ⟨_, rfl⟩
  | failLimited =>
    simp only
    by_cases hburst : quota.burstLimit.getD 0 ≤ 0
    · rw [if_pos hburst]
      refine ⟨.quotaExceeded "fail_limited_allowance_unconfigured", ?_⟩
      simp only [reserveRuntimeQuotaLossAllowance, if_pos hburst]
    · rw [if_neg hburst]
      have htaken := lossAllowance_cases hneeds hburst hvalue
      split
      · rename_i hdecision
        split at hdecision
        · cases hdecision
        · cases hdecision
      · rename_i hdecision
        split at hdecision
        · rename_i hfits
          obtain ⟨reservation, heq, hreservation⟩ := htaken.1 hfits
          rw [heq, ← hreservation]
        · cases hdecision
      · rename_i hdecision
        split at hdecision
        · cases hdecision
        · rename_i hfull
          obtain ⟨error, heq⟩ := htaken.2 hfull
          rw [heq]
          exact ⟨error, rfl⟩
      · rename_i hdecision
        split at hdecision <;> cases hdecision

/-- The allowances of policies that the loop has not reached are untouched. -/
def AllowancesAhead (input : PreflightInput) (policies taken : List QuotaPolicyRecord) : Prop :=
  ∀ quota ∈ policies, ∀ other ∈ taken, runtimeQuotaLossAllowanceKey quota input.now ≠
    runtimeQuotaLossAllowanceKey other input.now

theorem AllowancesAhead.take (hready : PreflightReady input start)
    (hpolicies : ∀ other ∈ quota :: policies, other ∈ input.quotaPolicies)
    (hnodup : ((quota :: policies).map (·.quotaPolicyId)).Nodup)
    (h : AllowancesAhead input (quota :: policies) taken) : AllowancesAhead input policies (taken ++ [quota]) := by
  intro later hlater other hother heq
  rcases List.mem_append.mp hother with hother | hother
  · exact h later (List.mem_cons_of_mem _ hlater) other hother heq
  · rw [List.mem_singleton.mp hother] at heq
    have hin := hpolicies later (List.mem_cons_of_mem _ hlater)
    have hsame := hready.quota_of_key hin (hpolicies quota List.mem_cons_self) (runtimeQuotaLossAllowanceKey_inj heq)
    exact (List.nodup_cons.mp hnodup).1 (List.mem_map.mpr ⟨later, hlater, by rw [hsame]⟩)

def takenAllowances (input : PreflightInput) (start : RuntimePolicyStore) (policies : List QuotaPolicyRecord) :
    List QuotaPolicyRecord :=
  policies.filter fun quota => lossDecision input start quota == .takes

theorem reserveRuntimeQuotaPreflight_loss_ok (hready : PreflightReady input start)
    (hpolicies : ∀ quota ∈ policies, quota ∈ input.quotaPolicies)
    (hnodup : (policies.map (·.quotaPolicyId)).Nodup) (h : LossTaken input start store taken)
    (hahead : AllowancesAhead input policies taken)
    (hall : firstFailing (lossContinues input start) policies = none) :
    ∃ next, reserveRuntimeQuotaPreflight input false policies quotas store =
        (.ok (quotas ++ lossReservations input (takenAllowances input start policies)), next) ∧
      next.runtimeQuotaCounters = store.runtimeQuotaCounters ∧
      next.runtimeBudgetLeases = store.runtimeBudgetLeases ∧
      next.runtimePolicyHotStateUnavailable = store.runtimePolicyHotStateUnavailable ∧
      LossTaken input start next (taken ++ takenAllowances input start policies) := by
  induction policies generalizing quotas store taken with
  | nil => exact ⟨store, by simp [reserveRuntimeQuotaPreflight, takenAllowances, lossReservations], rfl, rfl, rfl,
      by simpa [takenAllowances] using h⟩
  | cons quota policies ih =>
    have hrest := fun other hother => hpolicies other (List.mem_cons_of_mem _ hother)
    have hnodup' := (List.nodup_cons.mp hnodup).2
    have hout := hahead quota List.mem_cons_self
    have hstep := h.step hout policies quotas
    cases hdecision : lossDecision input start quota with
    | passes =>
      rw [firstFailing_cons_ok (by simp [lossContinues, hdecision, LossDecision.continues]),
        Option.map_eq_none_iff] at hall
      rw [hdecision] at hstep
      unfold takenAllowances
      rw [hstep, List.filter_cons_of_neg (by simp [hdecision])]
      exact ih hrest hnodup' h (fun other hother => hahead other (List.mem_cons_of_mem _ hother)) hall
    | takes =>
      rw [firstFailing_cons_ok (by simp [lossContinues, hdecision, LossDecision.continues]),
        Option.map_eq_none_iff] at hall
      rw [hdecision] at hstep
      obtain ⟨next, heq, hcounters, hleases, hflag, htaken⟩ := ih hrest hnodup' (h.take hout)
        (AllowancesAhead.take hready hpolicies hnodup hahead) hall
      refine ⟨next, ?_, hcounters, hleases, hflag, ?_⟩
      · rw [hstep, heq]
        unfold takenAllowances
        rw [List.filter_cons_of_pos (by simp [hdecision]), List.append_assoc, ← lossReservations_append]
        rfl
      · unfold takenAllowances at htaken ⊢
        rw [List.filter_cons_of_pos (by simp [hdecision])]
        rwa [List.append_assoc, List.singleton_append] at htaken
    | exhausted =>
      rw [firstFailing_cons_fails (by simp [lossContinues, hdecision, LossDecision.continues])] at hall
      cases hall
    | refused =>
      rw [firstFailing_cons_fails (by simp [lossContinues, hdecision, LossDecision.continues])] at hall
      cases hall

def usedAllowances (input : PreflightInput) (start : RuntimePolicyStore) (before : List QuotaPolicyRecord)
    (quota : QuotaPolicyRecord) : List QuotaPolicyRecord :=
  takenAllowances input start before ++
    if lossDecision input start quota = .exhausted then [quota] else []

theorem reserveRuntimeQuotaPreflight_loss_error (hready : PreflightReady input start)
    (hpolicies : ∀ quota ∈ policies, quota ∈ input.quotaPolicies)
    (hnodup : (policies.map (·.quotaPolicyId)).Nodup) (h : LossTaken input start store taken)
    (hahead : AllowancesAhead input policies taken) {before : List QuotaPolicyRecord}
    (hfails : firstFailing (lossContinues input start) policies = some (before, quota)) :
    ∃ error next, reserveRuntimeQuotaPreflight input false policies quotas store = (.error error, next) ∧
      next.runtimeQuotaCounters = store.runtimeQuotaCounters ∧
      next.runtimeBudgetLeases = store.runtimeBudgetLeases ∧
      LossTaken input start next (taken ++ usedAllowances input start before quota) := by
  induction policies generalizing quotas store taken before with
  | nil => cases hfails
  | cons head policies ih =>
    have hrest := fun other hother => hpolicies other (List.mem_cons_of_mem _ hother)
    have hnodup' := (List.nodup_cons.mp hnodup).2
    have hout := hahead head List.mem_cons_self
    have hstep := h.step hout policies quotas
    cases hdecision : lossDecision input start head with
    | passes =>
      rw [firstFailing_cons_ok (by simp [lossContinues, hdecision, LossDecision.continues]),
        Option.map_eq_some_iff] at hfails
      obtain ⟨⟨before', quota'⟩, hfails, hpair⟩ := hfails
      cases hpair
      rw [hdecision] at hstep
      obtain ⟨error, next, heq, hcounters, hleases, htaken⟩ := ih hrest hnodup' h
        (fun other hother => hahead other (List.mem_cons_of_mem _ hother)) hfails
      refine ⟨error, next, hstep.trans heq, hcounters, hleases, ?_⟩
      unfold usedAllowances takenAllowances at htaken ⊢
      rwa [List.filter_cons_of_neg (by simp [hdecision])]
    | takes =>
      rw [firstFailing_cons_ok (by simp [lossContinues, hdecision, LossDecision.continues]),
        Option.map_eq_some_iff] at hfails
      obtain ⟨⟨before', quota'⟩, hfails, hpair⟩ := hfails
      cases hpair
      rw [hdecision] at hstep
      obtain ⟨error, next, heq, hcounters, hleases, htaken⟩ := ih hrest hnodup' (h.take hout)
        (AllowancesAhead.take hready hpolicies hnodup hahead) hfails
      refine ⟨error, next, hstep.trans heq, hcounters, hleases, ?_⟩
      unfold usedAllowances takenAllowances at htaken ⊢
      rw [List.filter_cons_of_pos (by simp [hdecision])]
      rwa [List.append_assoc, List.singleton_append, ← List.cons_append] at htaken
    | exhausted =>
      rw [firstFailing_cons_fails (by simp [lossContinues, hdecision, LossDecision.continues])] at hfails
      cases hfails
      rw [hdecision] at hstep
      obtain ⟨error, heq⟩ := hstep
      refine ⟨error, _, heq, rfl, rfl, ?_⟩
      unfold usedAllowances
      rw [if_pos hdecision]
      exact h.take hout
    | refused =>
      rw [firstFailing_cons_fails (by simp [lossContinues, hdecision, LossDecision.continues])] at hfails
      cases hfails
      rw [hdecision] at hstep
      obtain ⟨error, heq⟩ := hstep
      refine ⟨error, store, heq, rfl, rfl, ?_⟩
      unfold usedAllowances
      rw [if_neg (by simp [hdecision])]
      simpa [takenAllowances] using h

end LossStep

end Starweaver.Gateway
