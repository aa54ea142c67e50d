import Starweaver.Gateway.QuotaRepair

namespace Starweaver.Gateway

open Library.Calendar Library.Counters Library.Interleaving Library.Machine Library.MachineInt Library.SortBy

section Within

/-- What keeps the reconciler from repairing too much: a request is not charged more than its usage event adds, a run
reads the usage events while no finished request has still to adjust a counter that it will look at, and no one else
adjusts a counter between a run's read of it and its repair. -/
def RepairsApart (table : QuotaTable) (s : RepairRuntime) : RepairAction → Prop
  | .recordUsageEvent request => ∀ policy ∈ table.policies, runtimeQuotaPolicyHasDurableRepairSource policy = true →
    Covers policy request →
      let amount := runtimeQuotaDurableUsageEventValue policy request.usageEvent
      if UsageStore.isDuplicate (s.usageEvents.map (·.toUsageEventRecord)) request.usageEvent.toUsageEventRecord then
        amount ≤ 0 ∨ policy.status ≠ .active
      else 0 ≤ amount ∧ durableUsage s.usageEvents policy request.input.endedAt + amount ≤ i64Max
  | .readUsage tenantId now =>
    ∀ target ∈ repairTargets table.policies s.usageEvents tenantId now, s.unadjusted target.1 = 0
  | .adjust counterKey _ _ => ∀ call ∈ s.calls, call.readKey ≠ some counterKey
  | .repairAdjust tick counterKey durable current rest =>
    ∀ call ∈ s.calls.erase (.repairRead tick counterKey durable current rest), call.readKey ≠ some counterKey
  | _ => True

/-- No counter of a repairable policy is above the durable usage and what the finished requests still add. -/
def CountersWithin (table : QuotaTable) (s : RepairRuntime) : Prop :=
  ∀ policy ∈ table.policies, runtimeQuotaPolicyHasDurableRepairSource policy = true → ∀ now,
    s.store.runtimePolicyCounter (runtimeQuotaCounterKey policy now) ≤
      durableUsage s.usageEvents policy now + s.unadjusted (runtimeQuotaCounterKey policy now)

/-- Raising the counter to the planned value leaves room for the finished requests. -/
def TargetWithin (table : QuotaTable) (s : RepairRuntime) (now : DateTime) (target : String × Int) : Prop :=
  ∃ policy ∈ table.policies, runtimeQuotaPolicyHasDurableRepairSource policy = true ∧
    target.1 = runtimeQuotaCounterKey policy now ∧
      target.2 + s.unadjusted target.1 ≤ durableUsage s.usageEvents policy now

def RepairCall.Planned (table : QuotaTable) (s : RepairRuntime) (call : RepairCall) : Prop :=
  (∀ run ∈ call.pending, ∀ target ∈ run.2, TargetWithin table s run.1.now target) ∧
    ∀ tick counterKey durable current rest, call = .repairRead tick counterKey durable current rest →
      s.store.runtimePolicyCounter counterKey = current

structure RepairWithin (table : QuotaTable) (s : RepairRuntime) : Prop where
  counters : ∀ policy ∈ table.policies, runtimeQuotaPolicyHasDurableRepairSource policy = true → ∀ now,
    s.store.runtimePolicyCounter (runtimeQuotaCounterKey policy now) + s.unadjusted (runtimeQuotaCounterKey policy now) ≤
      durableUsage s.usageEvents policy now
  calls : ∀ call ∈ s.calls, call.Planned table s

variable {table : QuotaTable} {s next : RepairRuntime}

/-- What the durable usage leaves for the counters does not shrink. -/
def RoomKept (table : QuotaTable) (s next : RepairRuntime) : Prop :=
  ∀ policy ∈ table.policies, runtimeQuotaPolicyHasDurableRepairSource policy = true → ∀ now,
    durableUsage s.usageEvents policy now + next.unadjusted (runtimeQuotaCounterKey policy now) ≤
      durableUsage next.usageEvents policy now + s.unadjusted (runtimeQuotaCounterKey policy now)

theorem durableUsage_window {policy : QuotaPolicyRecord} (usageEvents : List MeasuredUsageEvent)
    (hrepair : runtimeQuotaPolicyHasDurableRepairSource policy = true) {now later : DateTime}
    (hkey : runtimeQuotaCounterKey policy now = runtimeQuotaCounterKey policy later) :
    durableUsage usageEvents policy now = durableUsage usageEvents policy later := by
  have hmatches : durableUsageEventMatches policy now = durableUsageEventMatches policy later := by
    funext event
    unfold durableUsageEventMatches
    congr 1
    rw [Bool.eq_iff_iff, ← counterKey_eq_iff hrepair, ← counterKey_eq_iff hrepair, hkey]
  unfold durableUsage runtimeQuotaDurableUsageValueForPolicy
  rw [hmatches]

theorem owed_perm {adjustments adjustments' : List (String × Int)} (h : adjustments.Perm adjustments') (key : String) :
    owed adjustments key = owed adjustments' key :=
  ((h.filter _).map _).sum_eq

theorem TargetWithin.keep (hroom : RoomKept table s next) {now : DateTime} {target : String × Int}
    (h : TargetWithin table s now target) : TargetWithin table next now target := by
  obtain ⟨policy, hpolicy, hrepair, hkey, hle⟩ := h
  have hkept := hroom policy hpolicy hrepair now
  rw [← hkey] at hkept
  exact ⟨policy, hpolicy, hrepair, hkey, by omega⟩

theorem RepairCall.Planned.keep {call : RepairCall} (h : call.Planned table s) (hroom : RoomKept table s next)
    (hread : ∀ key, call.readKey = some key → next.store.runtimePolicyCounter key = s.store.runtimePolicyCounter key) :
    call.Planned table next := by
  refine ⟨fun run hrun target htarget => (h.1 run hrun target htarget).keep hroom, ?_⟩
  rintro tick counterKey durable current rest rfl
  rw [hread counterKey rfl]
  exact h.2 _ _ _ _ _ rfl

/-- A step that changes no quota counter. -/
theorem RepairWithin.keep (h : RepairWithin table s) (hsound : RepairSound s) (hroom : RoomKept table s next)
    (hcounters : ∀ key, IsQuotaKey key → next.store.runtimePolicyCounter key = s.store.runtimePolicyCounter key)
    (removed entered : List RepairCall) {others : List RepairCall} (hcalls : s.calls.Perm (removed ++ others))
    (hnext : next.calls = entered ++ others)
    (hentered : (∀ call ∈ removed, call.Planned table s) → ∀ call ∈ entered, call.Planned table next) :
    RepairWithin table next := by
  constructor
  · intro policy hpolicy hrepair now
    have hwithin := h.counters policy hpolicy hrepair now
    have hkept := hroom policy hpolicy hrepair now
    rw [hcounters _ ⟨policy, now, rfl⟩]
    omega
  · rw [hnext]
    intro call hcall
    rcases List.mem_append.mp hcall with hnew | hold
    · exact hentered (fun other hother => h.calls other (hcalls.mem_iff.mpr (List.mem_append_left _ hother))) call hnew
    · have hmem := hcalls.mem_iff.mpr (List.mem_append_right _ hold)
      refine (h.calls call hmem).keep hroom fun key hkey => ?_
      cases call with
      | repairRead tick counterKey durable current rest =>
        cases hkey
        exact hcounters _ ((hsound.calls _ hmem).2 _ List.mem_cons_self).1
      | finished adjustments => cases hkey
      | adjusting adjustments => cases hkey
      | expiring tenantId now leases => cases hkey
      | repairing tick targets => cases hkey

/-- A request that is not charged more than it adds leaves the room as it was. -/
theorem record_room {request : CompletedRequest} (hapart : RepairsApart table s (.recordUsageEvent request))
    {policy : QuotaPolicyRecord} (hpolicy : policy ∈ table.policies)
    (hrepair : runtimeQuotaPolicyHasDurableRepairSource policy = true) (now : DateTime) :
    durableUsage s.usageEvents policy now +
        owed (quotaAdjustments table.policies request) (runtimeQuotaCounterKey policy now) ≤
      durableUsage (recordMeasuredUsageEvent s.usageEvents request.usageEvent) policy now := by
  have hbounds := durableUsage_inI64 s.usageEvents policy now
  rw [durableUsage_record request _ hrepair, owed_quotaAdjustments table request hpolicy hrepair]
  by_cases hmoved : Covers policy request ∧
      runtimeQuotaCounterKey policy request.input.endedAt = runtimeQuotaCounterKey policy now
  · obtain ⟨hcovers, hkey⟩ := hmoved
    have hroom := hapart policy hpolicy hrepair hcovers
    simp only [durableUsage_window s.usageEvents hrepair hkey] at hroom
    cases hduplicate : UsageStore.isDuplicate (s.usageEvents.map (·.toUsageEventRecord))
        request.usageEvent.toUsageEventRecord with
    | true =>
      simp only [hduplicate, if_true] at hroom
      have hcharge : (if (policy.status = .active ∧ Covers policy request) ∧
          runtimeQuotaCounterKey policy request.input.endedAt = runtimeQuotaCounterKey policy now then
            max (runtimeQuotaDurableUsageEventValue policy request.usageEvent) 0 else 0) = 0 := by
        rcases hroom with hamount | hinactive
        · rw [max_eq_right hamount, ite_self]
        · exact if_neg fun h => hinactive h.1.1
      rw [hcharge, if_neg (by simp), wrap_of_bounds] <;> simp only [add_zero, hbounds.1, hbounds.2]
    | false =>
      simp only [hduplicate, Bool.false_eq_true, if_false] at hroom
      have hrecorded : (if false = false ∧ Covers policy request ∧
          runtimeQuotaCounterKey policy request.input.endedAt = runtimeQuotaCounterKey policy now then
            runtimeQuotaDurableUsageEventValue policy request.usageEvent else 0) =
          runtimeQuotaDurableUsageEventValue policy request.usageEvent := if_pos ⟨rfl, hcovers, hkey⟩
      have hlow := hbounds.1
      rw [hrecorded, wrap_of_bounds (by omega) hroom.2]
      split <;> omega
  · rw [if_neg fun h => hmoved ⟨h.1.2, h.2⟩, if_neg fun h => hmoved h.2, add_zero, wrap_of_bounds hbounds.1 hbounds.2]

theorem repairTargets_within (hunadjusted : ∀ target ∈ repairTargets table.policies s.usageEvents tenantId now,
    s.unadjusted target.1 = 0) :
    ∀ target ∈ repairTargets table.policies s.usageEvents tenantId now, TargetWithin table s now target := by
  intro target hmem
  have hzero := hunadjusted target hmem
  obtain ⟨hmem, -⟩ := List.mem_filter.mp hmem
  obtain ⟨policy, hlisted, rfl⟩ := List.mem_map.mp hmem
  obtain ⟨htenant, hrepairable⟩ := List.mem_filter.mp hlisted
  rw [quotaPoliciesForTenant, mem_sortBy, List.mem_filter, beq_iff_eq] at htenant
  obtain ⟨hpolicy, rfl⟩ := htenant
  refine ⟨policy, hpolicy, (Bool.and_eq_true_iff.mp hrepairable).2, rfl, ?_⟩
  rw [hzero, add_zero]
  exact le_refl _

theorem planned_idle {call : RepairCall} (hpending : call.pending = []) : call.Planned table s := by
  refine ⟨by simp [hpending], ?_⟩
  rintro tick counterKey durable current rest rfl
  cases hpending

theorem planned_repairing {tick : ReconcilerRun} {targets : List (String × Int)}
    (h : ∀ target ∈ targets, TargetWithin table s tick.now target) : (RepairCall.repairing tick targets).Planned table s :=
  ⟨List.forall_mem_singleton.mpr h, by simp⟩

/-- What is owed to a counter after a step of one call, in terms of what was owed before it. -/
theorem unadjusted_of_move {call : RepairCall} {entered : List RepairCall} {store : RuntimePolicyStore}
    (hmove : s.move call entered store = some next) (key : String) :
    s.unadjusted key + owed (entered.flatMap RepairCall.adjustments) key =
      next.unadjusted key + owed call.adjustments key := by
  obtain ⟨others, hcalls, rfl⟩ := moved_cases hmove
  unfold RepairRuntime.unadjusted
  rw [owed_perm (hcalls.flatMap_right RepairCall.adjustments), List.flatMap_append, List.flatMap_append,
    List.flatMap_singleton, owed_append, owed_append]
  omega

theorem RepairWithin.call_of_move (h : RepairWithin table s) {call : RepairCall} {entered : List RepairCall}
    {store : RuntimePolicyStore} (hmove : s.move call entered store = some next) : call.Planned table s := by
  obtain ⟨others, hcalls, -⟩ := moved_cases hmove
  exact h.calls call (hcalls.mem_iff.mpr (by simp))

theorem roomKept_move {call : RepairCall} {entered : List RepairCall} {store : RuntimePolicyStore}
    (hmove : s.move call entered store = some next) (howed : ∀ key, next.unadjusted key ≤ s.unadjusted key) :
    RoomKept table s next := by
  intro policy _ _ now
  have hle := howed (runtimeQuotaCounterKey policy now)
  obtain ⟨others, hcalls, rfl⟩ := moved_cases hmove
  exact add_le_add_right hle _

/-- A step of one call that changes no quota counter and owes no more than before. -/
theorem RepairWithin.move (h : RepairWithin table s) (hsound : RepairSound s) {call : RepairCall}
    {entered : List RepairCall} {store : RuntimePolicyStore} (hmove : s.move call entered store = some next)
    (hcounters : ∀ key, IsQuotaKey key → store.runtimePolicyCounter key = s.store.runtimePolicyCounter key)
    (howed : ∀ key, owed (entered.flatMap RepairCall.adjustments) key ≤ owed call.adjustments key)
    (hentered : RoomKept table s next → call.Planned table s → ∀ call ∈ entered, call.Planned table next) :
    RepairWithin table next := by
  have hroom : RoomKept table s next := by
    refine roomKept_move hmove fun key => ?_
    have hmoved := unadjusted_of_move hmove key
    have hle := howed key
    omega
  have hcall := hentered hroom (h.call_of_move hmove)
  obtain ⟨others, hcalls, rfl⟩ := moved_cases hmove
  exact h.keep hsound hroom hcounters [call] entered hcalls rfl fun _ => hcall

/-- A step that raises one counter, which no other call has read. -/
theorem RepairWithin.raise (h : RepairWithin table s) (hsound : RepairSound s) {call : RepairCall}
    {entered : List RepairCall} {counterKey : String} {delta : Int}
    (hmove : s.move call entered (s.store.adjustRuntimePolicyCounter counterKey delta).1 = some next)
    (howed : ∀ key, next.unadjusted key ≤ s.unadjusted key) (hdelta : 0 ≤ delta)
    (hread : ∀ other ∈ s.calls.erase call, other.readKey ≠ some counterKey)
    (hraised : ∀ policy ∈ table.policies, runtimeQuotaPolicyHasDurableRepairSource policy = true → ∀ now,
      counterKey = runtimeQuotaCounterKey policy now →
        saturatingAdd (s.store.runtimePolicyCounter counterKey) delta + next.unadjusted counterKey ≤
          durableUsage s.usageEvents policy now)
    (hentered : RoomKept table s next → ∀ call ∈ entered, call.Planned table next) : RepairWithin table next := by
  have hroom : RoomKept table s next := roomKept_move hmove howed
  have hnew := hentered hroom
  obtain ⟨others, hcalls, rfl⟩ := moved_cases hmove
  have hsame (key : String) (hne : counterKey ≠ key) :
      (s.store.adjustRuntimePolicyCounter counterKey delta).1.runtimePolicyCounter key =
        s.store.runtimePolicyCounter key := value_adjust_ne _ _ hne.symm
  constructor
  · intro policy hpolicy hrepair now
    by_cases hkey : counterKey = runtimeQuotaCounterKey policy now
    · have hafter := hraised policy hpolicy hrepair now hkey
      show (s.store.adjustRuntimePolicyCounter counterKey delta).1.runtimePolicyCounter _ + _ ≤ _
      rw [← hkey, counter_adjust hsound.inRange _ _ hdelta, if_pos rfl]
      exact hafter
    · have hwithin := h.counters policy hpolicy hrepair now
      have hkept := hroom policy hpolicy hrepair now
      show (s.store.adjustRuntimePolicyCounter counterKey delta).1.runtimePolicyCounter _ + _ ≤ _
      rw [hsame _ hkey]
      omega
  · refine forall_moved hcalls h.calls ?_ entered hnew
    intro other hother hplanned
    refine hplanned.keep hroom fun key hkey => hsame key ?_
    rintro rfl
    have hperm : (s.calls.erase call).Perm others := by
      have herase := hcalls.erase call
      rwa [List.singleton_append, List.erase_cons_head] at herase
    exact hread other (hperm.mem_iff.mpr hother) hkey

theorem adjust_within (hsound : RepairSound s) (h : RepairWithin table s) {counterKey : String} {amount : Int}
    {rest : List (String × Int)} (hapart : RepairsApart table s (.adjust counterKey amount rest))
    (hstep : repairStep table.policies s (.adjust counterKey amount rest) = some next) : RepairWithin table next := by
  obtain ⟨hamount, hrest⟩ := List.forall_mem_cons.mp (hsound.call_of_move hstep)
  have howed (key : String) : next.unadjusted key = s.unadjusted key - if counterKey = key then amount else 0 := by
    have hmoved := unadjusted_of_move hstep key
    simp only [List.flatMap_singleton, RepairCall.adjustments, owed_cons] at hmoved
    omega
  have hunadjusted := howed counterKey
  rw [if_pos rfl] at hunadjusted
  refine h.raise hsound hstep (fun key => ?_) hamount ?_ ?_ fun _ => List.forall_mem_singleton.mpr (planned_idle rfl)
  · rw [howed key]
    split <;> omega
  · intro other hother
    exact hapart other (List.mem_of_mem_erase hother)
  · intro policy hpolicy hrepair now hkey
    have hwithin := h.counters policy hpolicy hrepair now
    have hlow := (hsound.inRange counterKey).1
    rw [← hkey] at hwithin
    unfold saturatingAdd i64Min
    omega

theorem repairAdjust_within (hsound : RepairSound s) (h : RepairWithin table s) {tick : ReconcilerRun}
    {counterKey : String} {durable current : Int} {rest : List (String × Int)}
    (hapart : RepairsApart table s (.repairAdjust tick counterKey durable current rest))
    (hstep : repairStep table.policies s (.repairAdjust tick counterKey durable current rest) = some next) :
    RepairWithin table next := by
  obtain ⟨⟨hlow, hlt, hcurrent⟩, htargets⟩ := hsound.call_of_move hstep
  have hplanned := h.call_of_move hstep
  have hdelta : 0 ≤ saturatingSub durable current := by
    unfold saturatingSub i64Max
    omega
  have howed (key : String) : next.unadjusted key = s.unadjusted key := by
    have hmoved := unadjusted_of_move hstep key
    exact (add_right_cancel hmoved).symm
  refine h.raise hsound hstep (fun key => (howed key).le) hdelta hapart ?_ ?_
  · intro policy hpolicy hrepair now hkey
    obtain ⟨other, hother, -, hkey', hle⟩ := hplanned.1 _ (List.mem_singleton_self _) _ List.mem_cons_self
    have hsame := table.policy_of_key hpolicy hother (hkey.symm.trans hkey')
    subst hsame
    rw [(counter_repaired hlow hlt (List.forall_mem_cons.mp htargets).1.2 hcurrent (hsound.inRange _).2).2
      (hplanned.2 _ _ _ _ _ rfl), howed, durableUsage_window s.usageEvents hrepair (hkey.symm.trans hkey')]
    exact hle
  · intro hroom
    refine List.forall_mem_singleton.mpr (planned_repairing fun target htarget => ?_)
    exact (hplanned.1 _ (List.mem_singleton_self _) target (List.mem_cons_of_mem _ htarget)).keep hroom

theorem repairStep_within {action : RepairAction} (hsound : RepairSound s) (h : RepairWithin table s)
    (hapart : RepairsApart table s action) (hstep : repairStep table.policies s action = some next) :
    RepairWithin table next := by
  cases action with
  | recordUsageEvent request =>
    cases hstep
    refine h.keep hsound ?_ (fun _ _ => rfl) [] [_] (List.Perm.refl _) rfl
      fun _ => List.forall_mem_singleton.mpr (planned_idle rfl)
    intro policy hpolicy hrepair now
    have hroom := record_room hapart hpolicy hrepair now
    simp only [RepairRuntime.unadjusted, List.flatMap_cons, RepairCall.adjustments, owed_append]
    omega
  | finalizeQuota adjustments =>
    simp only [repairStep] at hstep
    split at hstep
    · have hnonneg : ∀ adjustment ∈ adjustments, 0 ≤ adjustment.2 := hsound.call_of_move hstep
      exact h.move hsound hstep (fun _ _ => rfl) (fun key => owed_nonneg hnonneg key) (by simp)
    · refine h.move hsound hstep (fun _ _ => rfl) (fun key => ?_)
        fun _ _ => List.forall_mem_singleton.mpr (planned_idle rfl)
      rw [List.flatMap_singleton]
      exact le_refl _
  | adjust counterKey amount rest => exact adjust_within hsound h hapart hstep
  | finalizeDone => exact h.move hsound hstep (fun _ _ => rfl) (fun key => le_refl _) (by simp)
  | setHotState unavailable =>
    cases hstep
    exact h.keep hsound (fun _ _ _ _ => le_refl _) (fun _ _ => rfl) [] [] (List.Perm.refl _) rfl (by simp)
  | expire tenantId now =>
    simp only [repairStep] at hstep
    split at hstep
    · cases hstep
      exact h
    · cases hstep
      exact h.keep hsound (fun _ _ _ _ => le_refl _) (fun _ _ => rfl) [] [_] (List.Perm.refl _) rfl
        fun _ => List.forall_mem_singleton.mpr (planned_idle rfl)
  | expireAdjust tenantId now lease rest =>
    obtain ⟨hkey, -⟩ := List.forall_mem_cons.mp (hsound.call_of_move hstep)
    exact h.move hsound hstep (fun _ hother => counter_adjust_reservation hkey _ hother) (fun key => le_refl _)
      fun _ _ => List.forall_mem_singleton.mpr (planned_idle rfl)
  | readUsage tenantId now =>
    refine h.move hsound hstep (fun _ _ => rfl) (fun key => le_refl _)
      fun hroom _ => List.forall_mem_singleton.mpr (planned_repairing ?_)
    intro target htarget
    exact (repairTargets_within hapart target htarget).keep hroom
  | repairRead tick counterKey durable rest =>
    simp only [repairStep] at hstep
    split at hstep
    · refine h.move hsound hstep (fun _ _ => rfl) (fun key => le_refl _)
        fun hroom hcall => List.forall_mem_singleton.mpr (planned_repairing ?_)
      intro target htarget
      exact (hcall.1 _ (List.mem_singleton_self _) target (List.mem_cons_of_mem _ htarget)).keep hroom
    · refine h.move hsound hstep (fun _ _ => rfl) (fun key => le_refl _)
        fun hroom hcall => List.forall_mem_singleton.mpr ⟨List.forall_mem_singleton.mpr ?_, ?_⟩
      · intro target htarget
        exact (hcall.1 _ (List.mem_singleton_self _) target htarget).keep hroom
      · intro tick' key' durable' current' rest' heq
        obtain ⟨others, -, rfl⟩ := moved_cases hstep
        cases heq
        rfl
  | repairAdjust tick counterKey durable current rest => exact repairAdjust_within hsound h hapart hstep
  | repairDone tick =>
    obtain ⟨mid, hmove, rfl⟩ := Option.map_eq_some_iff.mp hstep
    have hmid : RepairWithin table mid :=
      h.move hsound hmove (fun _ _ => rfl) (fun key => le_refl _) (by simp)
    exact ⟨hmid.counters, hmid.calls⟩

end Within

section Runs

/-- A start without calls in progress, with reservation counters under the leases and no counter above its usage. -/
structure RepairStart (table : QuotaTable) (s : RepairRuntime) : Prop where
  calls : s.calls = []
  returned : s.returned = []
  inRange : CountersInRange s.store
  leases : ∀ leaseId lease, s.store.runtimeBudgetLeases.lookup leaseId = some lease → IsReservationKey lease.counterKey
  counters : CountersWithin table s

variable {table : QuotaTable} {start mid final : RepairRuntime}

theorem RepairStart.sound (h : RepairStart table start) : RepairSound start :=
  ⟨h.inRange, h.leases, by simp [h.calls]⟩

theorem RepairStart.settled (h : RepairStart table start) : RepairSettled table.policies start :=
  ⟨by simp [h.calls], by simp [h.returned]⟩

theorem RepairStart.within (h : RepairStart table start) : RepairWithin table start := by
  refine ⟨fun policy hpolicy hrepair now => ?_, by simp [h.calls]⟩
  have hnone (key : String) : start.unadjusted key = 0 := by
    unfold RepairRuntime.unadjusted
    rw [h.calls]
    rfl
  have hcounter := h.counters policy hpolicy hrepair now
  rw [hnone] at hcounter ⊢
  omega

theorem RepairWithin.countersWithin (hsound : RepairSound final) (h : RepairWithin table final) :
    CountersWithin table final := by
  intro policy hpolicy hrepair now
  have hcounter := h.counters policy hpolicy hrepair now
  have hnonneg : 0 ≤ final.unadjusted (runtimeQuotaCounterKey policy now) := by
    apply owed_nonneg
    intro adjustment hmem
    obtain ⟨call, hcall, hadjustment⟩ := List.mem_flatMap.mp hmem
    have hcalls := hsound.calls call hcall
    cases call with
    | finished adjustments => exact hcalls adjustment hadjustment
    | adjusting adjustments => exact hcalls adjustment hadjustment
    | expiring tenantId now leases => cases hadjustment
    | repairing tick targets => cases hadjustment
    | repairRead tick counterKey durable current rest => cases hadjustment
  omega

theorem run_sound {actions : List RepairAction} (hsound : RepairSound mid)
    (hrun : run (repairStep table.policies) mid actions = some final) :
    RepairSound final ∧ QuotaRaised mid.store final.store := by
  have hstep (s : RepairRuntime) (action : RepairAction) (next : RepairRuntime)
      (hinv : RepairSound s ∧ QuotaRaised mid.store s.store) (hnext : repairStep table.policies s action = some next) :
      RepairSound next ∧ QuotaRaised mid.store next.store := by
    obtain ⟨hsound, hprogress⟩ := repairStep_sound hinv.1 hnext
    exact ⟨hsound, fun key hkey => le_trans (hinv.2 key hkey) (hprogress.raised key hkey)⟩
  exact run_invariant_always hstep ⟨hsound, QuotaRaised.refl _⟩ hrun

theorem run_settled {actions : List RepairAction} (hsound : RepairSound start)
    (hsettled : RepairSettled table.policies start)
    (hrun : run (repairStep table.policies) start actions = some final) : RepairSettled table.policies final := by
  have hstep (s : RepairRuntime) (action : RepairAction) (next : RepairRuntime)
      (hinv : RepairSound s ∧ RepairSettled table.policies s) (hnext : repairStep table.policies s action = some next) :
      RepairSound next ∧ RepairSettled table.policies next :=
    ⟨(repairStep_sound hinv.1 hnext).1, repairStep_settled hinv.1 hinv.2 hnext⟩
  exact (run_invariant_always hstep ⟨hsound, hsettled⟩ hrun).2

theorem run_within {actions : List RepairAction} (hsound : RepairSound start) (hwithin : RepairWithin table start)
    (hmeets : Meets (repairStep table.policies) (RepairsApart table) start actions)
    (hrun : run (repairStep table.policies) start actions = some final) : RepairWithin table final := by
  have hstep (s : RepairRuntime) (action : RepairAction) (next : RepairRuntime)
      (hinv : RepairSound s ∧ RepairWithin table s) (hapart : RepairsApart table s action)
      (hnext : repairStep table.policies s action = some next) : RepairSound next ∧ RepairWithin table next :=
    ⟨(repairStep_sound hinv.1 hnext).1, repairStep_within hinv.1 hinv.2 hapart hnext⟩
  exact (run_invariant hstep ⟨hsound, hwithin⟩ hmeets hrun).2

/-- In a run whose repairs stay apart from the requests, no repairable counter is ever above the durable usage and what
the finished requests still add, a second run of the reconciler changes nothing, and no counter is lowered. -/
theorem reconciler_never_overRepairs (before after : List RepairAction) (hstart : RepairStart table start)
    (hmeets : Meets (repairStep table.policies) (RepairsApart table) start (before ++ after))
    (hbefore : run (repairStep table.policies) start before = some mid)
    (hafter : run (repairStep table.policies) mid after = some final) :
    CountersWithin table final ∧ SecondRunQuiet table.policies final ∧ QuotaRaised mid.store final.store := by
  have hrun := run_append hbefore hafter
  have hmid := (run_sound hstart.sound hbefore).1
  obtain ⟨hsound, hraised⟩ := run_sound hmid hafter
  have hwithin := run_within hstart.sound hstart.within hmeets hrun
  have hsettled := run_settled hstart.sound hstart.settled hrun
  exact ⟨hwithin.countersWithin hsound, hsettled.secondRunQuiet hsound, hraised⟩

end Runs

section Samples

def RepairRuntime.empty : RepairRuntime := ⟨[], .empty, [], []⟩

def sampleTick : ReconcilerRun := ⟨"tenant_1", ⟨0⟩, 1⟩

def sampleKey : String := runtimeQuotaCounterKey (tokenQuota .active) ⟨0⟩

/-- A run of the reconciler that raises the sample counter from zero to twelve. -/
def repairTwelve : List RepairAction :=
  [.expire "tenant_1" ⟨0⟩, .readUsage "tenant_1" ⟨0⟩, .repairRead sampleTick sampleKey 12 [],
    .repairAdjust sampleTick sampleKey 12 0 [], .repairDone sampleTick]

/-- Between the usage event and the adjustment of a request, the reconciler adds what the request then adds again. -/
def repairBeforeAdjust : List RepairAction :=
  .recordUsageEvent (twelveTokens "request_1") :: repairTwelve ++
    [.finalizeQuota [(sampleKey, 12)], .adjust sampleKey 12 [], .finalizeDone]

/-- Without hot state the request is not counted; the reconciler repairs that once it is back. -/
def repairAfterOutage : List RepairAction :=
  [.setHotState true, .recordUsageEvent (twelveTokens "request_1"), .finalizeQuota [(sampleKey, 12)],
    .setHotState false] ++ repairTwelve

theorem repairStart_empty (table : QuotaTable) : RepairStart table .empty := by
  refine ⟨rfl, rfl, hotStateReady_empty.inRange, ?_, ?_⟩
  · intro leaseId lease hlookup
    cases hlookup
  · intro policy hpolicy hrepair now
    exact le_refl 0

theorem repairBeforeAdjust_overRepairs :
    ¬ ∀ (table : QuotaTable) (start final : RepairRuntime) (actions : List RepairAction), RepairStart table start →
      run (repairStep table.policies) start actions = some final → CountersWithin table final := by
  intro hall
  obtain ⟨final, hrun⟩ : ∃ final, run (repairStep (tokenQuotaTable .active).policies) .empty repairBeforeAdjust =
    some final := ⟨_, rfl⟩
  have hwithin := hall (tokenQuotaTable .active) .empty final _ (repairStart_empty _) hrun (tokenQuota .active)
    (List.mem_singleton_self _) rfl ⟨0⟩
  cases hrun
  exact absurd hwithin (by decide)

theorem repairAfterOutage_within :
    ∃ final, run (repairStep (tokenQuotaTable .active).policies) .empty repairAfterOutage = some final ∧
      final.store.runtimePolicyCounter sampleKey = 12 ∧ final.returned = [sampleTick] ∧
      CountersWithin (tokenQuotaTable .active) final ∧ SecondRunQuiet (tokenQuotaTable .active).policies final ∧
      QuotaRaised RepairRuntime.empty.store final.store := by
  refine ⟨_, rfl, by decide, rfl, ?_⟩
  refine reconciler_never_overRepairs [] repairAfterOutage (repairStart_empty _) ?_ rfl rfl
  refine .cons rfl trivial (.cons rfl ?_ (.cons rfl trivial (.cons rfl trivial (.cons rfl trivial
    (.cons rfl ?_ (.cons rfl trivial (.cons rfl ?_ (.cons rfl trivial trivial))))))))
  · intro policy hpolicy _ _
    cases List.mem_singleton.mp hpolicy
    decide
  · unfold RepairsApart
    decide
  · unfold RepairsApart
    decide

end Samples

end Starweaver.Gateway
