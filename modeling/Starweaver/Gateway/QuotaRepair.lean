import Starweaver.Library.Interleaving
import Starweaver.Gateway.LeaseAccounting
import Starweaver.Gateway.QuotaAgreement

namespace Starweaver.Gateway

open Library.AssocMap Library.Calendar Library.Counters Library.Interleaving Library.Machine Library.MachineInt
open Library.SortBy

/-- A run of the reconciler, with the number of usage events that it has read. -/
structure ReconcilerRun where
  tenantId : String
  now : DateTime
  usageCount : Nat
deriving DecidableEq, Repr

/-- Where a finished request or a run of the reconciler stands between two of its store operations. -/
inductive RepairCall
  | finished (adjustments : List (String × Int))
  | adjusting (adjustments : List (String × Int))
  | expiring (tenantId : String) (now : DateTime) (leases : List RuntimeBudgetLeaseRecord)
  | repairing (tick : ReconcilerRun) (targets : List (String × Int))
  | repairRead (tick : ReconcilerRun) (counterKey : String) (durable current : Int) (rest : List (String × Int))
deriving DecidableEq, Repr

structure RepairRuntime where
  usageEvents : List MeasuredUsageEvent
  store : RuntimePolicyStore
  calls : List RepairCall
  returned : List ReconcilerRun

inductive RepairAction
  | recordUsageEvent (request : CompletedRequest)
  | finalizeQuota (adjustments : List (String × Int))
  | adjust (counterKey : String) (amount : Int) (rest : List (String × Int))
  | finalizeDone
  | setHotState (unavailable : Bool)
  | expire (tenantId : String) (now : DateTime)
  | expireAdjust (tenantId : String) (now : DateTime) (lease : RuntimeBudgetLeaseRecord)
    (rest : List RuntimeBudgetLeaseRecord)
  | readUsage (tenantId : String) (now : DateTime)
  | repairRead (tick : ReconcilerRun) (counterKey : String) (durable : Int) (rest : List (String × Int))
  | repairAdjust (tick : ReconcilerRun) (counterKey : String) (durable current : Int) (rest : List (String × Int))
  | repairDone (tick : ReconcilerRun)

namespace RepairCall

/-- The adjustments of a finished request that are still to be made. -/
def adjustments : RepairCall → List (String × Int)
  | .finished adjustments | .adjusting adjustments => adjustments
  | _ => []

/-- A run past its read of the usage events, with the counters that it has still to look at. -/
def pending : RepairCall → List (ReconcilerRun × List (String × Int))
  | .repairing tick targets => [(tick, targets)]
  | .repairRead tick counterKey durable _ rest => [(tick, (counterKey, durable) :: rest)]
  | _ => []

/-- The counter that a run has read and not yet raised. -/
def readKey : RepairCall → Option String
  | .repairRead _ counterKey _ _ _ => some counterKey
  | _ => none

end RepairCall

namespace RepairRuntime

/-- What the finished requests have still to add to a counter. -/
def unadjusted (s : RepairRuntime) (key : String) : Int := owed (s.calls.flatMap RepairCall.adjustments) key

def move (s : RepairRuntime) (call : RepairCall) (entered : List RepairCall) (store : RuntimePolicyStore) :
    Option RepairRuntime :=
  (resume s.calls call entered).map fun calls => { s with store := store, calls := calls }

end RepairRuntime

/-- One store operation of a finished request or of the reconciler. -/
def repairStep (quotaPolicies : List QuotaPolicyRecord) (s : RepairRuntime) : RepairAction → Option RepairRuntime
  | .recordUsageEvent request =>
    some { s with
      usageEvents := recordMeasuredUsageEvent s.usageEvents request.usageEvent
      calls := .finished (quotaAdjustments quotaPolicies request) :: s.calls }
  | .finalizeQuota adjustments =>
    if !s.store.runtimePolicyHotStateAvailable then s.move (.finished adjustments) [] s.store
    else s.move (.finished adjustments) [.adjusting adjustments] s.store
  | .adjust counterKey amount rest =>
    s.move (.adjusting ((counterKey, amount) :: rest)) [.adjusting rest]
      (s.store.adjustRuntimePolicyCounter counterKey amount).1
  | .finalizeDone => s.move (.adjusting []) [] s.store
  | .setHotState unavailable => some { s with store := { s.store with runtimePolicyHotStateUnavailable := unavailable } }
  | .expire tenantId now =>
    if !s.store.runtimePolicyHotStateAvailable then some s
    else
      let (store, leases) := s.store.expireRuntimeBudgetLeases tenantId now
      some { s with store := store, calls := .expiring tenantId now leases :: s.calls }
  | .expireAdjust tenantId now lease rest =>
    s.move (.expiring tenantId now (lease :: rest)) [.expiring tenantId now rest]
      (s.store.adjustRuntimePolicyCounter lease.counterKey (-lease.amount)).1
  | .readUsage tenantId now =>
    s.move (.expiring tenantId now [])
      [.repairing ⟨tenantId, now, s.usageEvents.length⟩ (repairTargets quotaPolicies s.usageEvents tenantId now)] s.store
  | .repairRead tick counterKey durable rest =>
    let current := s.store.runtimePolicyCounter counterKey
    if durable ≤ current then s.move (.repairing tick ((counterKey, durable) :: rest)) [.repairing tick rest] s.store
    else s.move (.repairing tick ((counterKey, durable) :: rest)) [.repairRead tick counterKey durable current rest]
      s.store
  | .repairAdjust tick counterKey durable current rest =>
    s.move (.repairRead tick counterKey durable current rest) [.repairing tick rest]
      (s.store.adjustRuntimePolicyCounter counterKey (saturatingSub durable current)).1
  | .repairDone tick =>
    (s.move (.repairing tick []) [] s.store).map fun next => { next with returned := tick :: s.returned }

/-- One look at a counter by a run that nothing interrupts. -/
def repairCounter (store : RuntimePolicyStore) (target : String × Int) : RuntimePolicyStore :=
  let current := store.runtimePolicyCounter target.1
  if target.2 ≤ current then store
  else (store.adjustRuntimePolicyCounter target.1 (saturatingSub target.2 current)).1

def runRuntimePolicyReconcilerOnce (quotaPolicies : List QuotaPolicyRecord) (usageEvents : List MeasuredUsageEvent)
    (store : RuntimePolicyStore) (tenantId : String) (now : DateTime) : RuntimePolicyStore :=
  if !store.runtimePolicyHotStateAvailable then store
  else
    let (expired, leases) := store.expireRuntimeBudgetLeases tenantId now
    (repairTargets quotaPolicies usageEvents tenantId now).foldl repairCounter
      (adjustAll expired (leases.map fun lease => (lease.counterKey, -lease.amount)))

section Sound

/-- What every call in progress keeps to, whatever the interleaving. -/
def RepairCall.Sound (store : RuntimePolicyStore) : RepairCall → Prop
  | .finished adjustments | .adjusting adjustments => ∀ adjustment ∈ adjustments, 0 ≤ adjustment.2
  | .expiring _ _ leases => ∀ lease ∈ leases, IsReservationKey lease.counterKey
  | .repairing _ targets => ∀ target ∈ targets, IsQuotaKey target.1 ∧ target.2 ≤ i64Max
  | .repairRead _ counterKey durable current rest =>
    (0 ≤ current ∧ current < durable ∧ current ≤ store.runtimePolicyCounter counterKey) ∧
      ∀ target ∈ (counterKey, durable) :: rest, IsQuotaKey target.1 ∧ target.2 ≤ i64Max

structure RepairSound (s : RepairRuntime) : Prop where
  inRange : CountersInRange s.store
  leases : ∀ leaseId lease, s.store.runtimeBudgetLeases.lookup leaseId = some lease → IsReservationKey lease.counterKey
  calls : ∀ call ∈ s.calls, call.Sound s.store

/-- No quota counter is lowered. -/
def QuotaRaised (store changed : RuntimePolicyStore) : Prop :=
  ∀ key, IsQuotaKey key → store.runtimePolicyCounter key ≤ changed.runtimePolicyCounter key

variable {s next : RepairRuntime} {store : RuntimePolicyStore}

theorem RepairCall.Sound.raise (hraised : QuotaRaised s.store store) {call : RepairCall} (h : call.Sound s.store) :
    call.Sound store := by
  cases call with
  | finished adjustments => exact h
  | adjusting adjustments => exact h
  | expiring tenantId now leases => exact h
  | repairing tick targets => exact h
  | repairRead tick counterKey durable current rest =>
    obtain ⟨⟨hlow, hlt, hcurrent⟩, htargets⟩ := h
    have hkey := (htargets _ List.mem_cons_self).1
    exact ⟨⟨hlow, hlt, le_trans hcurrent (hraised counterKey hkey)⟩, htargets⟩

theorem quotaRaised_adjust (h : RepairSound s) (key : String) {delta : Int} (hdelta : 0 ≤ delta) :
    QuotaRaised s.store (s.store.adjustRuntimePolicyCounter key delta).1 := by
  intro other _
  rw [counter_adjust h.inRange key other hdelta]
  obtain ⟨hlow, hhigh⟩ := h.inRange other
  unfold saturatingAdd
  split <;> unfold i64Min at * <;> omega

theorem counter_adjust_reservation {key : String} (hkey : IsReservationKey key) (delta : Int) {other : String}
    (hother : IsQuotaKey other) : (store.adjustRuntimePolicyCounter key delta).1.runtimePolicyCounter other =
      store.runtimePolicyCounter other :=
  value_adjust_ne _ _ (reservation_ne_quota hkey hother).symm

theorem repairTargets_sound (quotaPolicies : List QuotaPolicyRecord) (usageEvents : List MeasuredUsageEvent)
    (tenantId : String) (now : DateTime) :
    ∀ target ∈ repairTargets quotaPolicies usageEvents tenantId now, IsQuotaKey target.1 ∧ target.2 ≤ i64Max := by
  intro target hmem
  obtain ⟨hmem, -⟩ := List.mem_filter.mp hmem
  obtain ⟨policy, -, rfl⟩ := List.mem_map.mp hmem
  refine ⟨⟨policy, now, rfl⟩, ?_⟩
  unfold runtimeQuotaDurableUsageValueForPolicy
  rw [wrapSum_eq]
  exact (wrap_bounds _).2

theorem mem_expired {tenantId : String} {now : DateTime} {lease : RuntimeBudgetLeaseRecord}
    (hmem : lease ∈ (store.expireRuntimeBudgetLeases tenantId now).2) :
    ∃ leaseId old, store.runtimeBudgetLeases.lookup leaseId = some old ∧ lease = expireLease tenantId now old := by
  obtain ⟨old, hold, rfl⟩ := List.mem_map.mp (mem_sortBy.mp hmem)
  obtain ⟨⟨leaseId, found⟩, hentry, rfl⟩ := List.mem_map.mp (List.mem_filter.mp hold).1
  exact ⟨leaseId, found, AList.mem_lookup_iff.mpr hentry, rfl⟩

theorem expireLease_key (tenantId : String) (now : DateTime) (lease : RuntimeBudgetLeaseRecord) :
    (expireLease tenantId now lease).counterKey = lease.counterKey := by
  unfold expireLease
  split <;> rfl

/-- No lease of the tenant is still to expire at the time. -/
def LeasesPast (tenantId : String) (now : DateTime) (store : RuntimePolicyStore) : Prop :=
  ∀ leaseId lease, store.runtimeBudgetLeases.lookup leaseId = some lease → leaseExpires tenantId now lease = false

theorem lookup_expired {tenantId leaseId : String} {now : DateTime} {lease : RuntimeBudgetLeaseRecord}
    (h : (store.expireRuntimeBudgetLeases tenantId now).1.runtimeBudgetLeases.lookup leaseId = some lease) :
    ∃ old, store.runtimeBudgetLeases.lookup leaseId = some old ∧ lease = expireLease tenantId now old := by
  simp only [RuntimePolicyStore.expireRuntimeBudgetLeases, lookup_mapValues, Option.map_eq_some_iff] at h
  obtain ⟨old, hold, rfl⟩ := h
  exact ⟨old, hold, rfl⟩

theorem leaseExpires_expireLease (tenantId other : String) (now later : DateTime) (lease : RuntimeBudgetLeaseRecord)
    (h : leaseExpires other later lease = false) : leaseExpires other later (expireLease tenantId now lease) = false := by
  unfold expireLease
  split
  · simp [leaseExpires]
  · exact h

theorem leasesPast_expire (store : RuntimePolicyStore) (tenantId : String) (now : DateTime) :
    LeasesPast tenantId now (store.expireRuntimeBudgetLeases tenantId now).1 := by
  intro leaseId lease hlookup
  obtain ⟨old, -, rfl⟩ := lookup_expired hlookup
  unfold expireLease
  split
  · simp [leaseExpires]
  · simp_all

/-- What no step takes back. -/
structure RepairProgress (s next : RepairRuntime) : Prop where
  raised : QuotaRaised s.store next.store
  events : s.usageEvents <+: next.usageEvents
  leases : ∀ tenantId now, LeasesPast tenantId now s.store → LeasesPast tenantId now next.store

theorem RepairSound.call_of_move (h : RepairSound s) {call : RepairCall} {entered : List RepairCall}
    (hmove : s.move call entered store = some next) : call.Sound s.store := by
  obtain ⟨others, hcalls, -⟩ := moved_cases hmove
  exact h.calls call (hcalls.mem_iff.mpr (by simp))

/-- A step that lowers no quota counter and leaves the leases as they are. -/
theorem RepairSound.move (h : RepairSound s) {call : RepairCall} {entered : List RepairCall}
    (hmove : s.move call entered store = some next) (hraised : QuotaRaised s.store store) (hrange : CountersInRange store)
    (hleases : store.runtimeBudgetLeases = s.store.runtimeBudgetLeases) (hentered : ∀ call ∈ entered, call.Sound store) :
    RepairSound next ∧ RepairProgress s next := by
  obtain ⟨others, hcalls, rfl⟩ := moved_cases hmove
  refine ⟨⟨hrange, ?_, ?_⟩, hraised, List.prefix_refl _, ?_⟩
  · intro leaseId lease hlookup
    exact h.leases leaseId lease (hleases ▸ hlookup)
  · exact forall_moved hcalls h.calls (fun _ _ hsound => hsound.raise hraised) entered hentered
  · intro tenantId now hpast leaseId lease hlookup
    exact hpast leaseId lease (hleases ▸ hlookup)

theorem QuotaRaised.refl (store : RuntimePolicyStore) : QuotaRaised store store := fun _ _ => le_refl _

theorem RepairSound.exchange (h : RepairSound s) {call : RepairCall} {entered : List RepairCall}
    (hmove : s.move call entered s.store = some next) (hentered : ∀ call ∈ entered, call.Sound s.store) :
    RepairSound next ∧ RepairProgress s next :=
  h.move hmove (QuotaRaised.refl _) h.inRange rfl hentered

theorem RepairSound.expire (h : RepairSound s) (tenantId : String) (now : DateTime) :
    RepairSound { s with
      store := (s.store.expireRuntimeBudgetLeases tenantId now).1
      calls := .expiring tenantId now (s.store.expireRuntimeBudgetLeases tenantId now).2 :: s.calls } := by
  refine ⟨h.inRange, ?_, List.forall_mem_cons.mpr ⟨?_, ?_⟩⟩
  · intro leaseId lease hlookup
    obtain ⟨old, hold, rfl⟩ := lookup_expired hlookup
    rw [expireLease_key]
    exact h.leases leaseId old hold
  · intro lease hmem
    obtain ⟨leaseId, old, hold, rfl⟩ := mem_expired hmem
    rw [expireLease_key]
    exact h.leases leaseId old hold
  · intro call hcall
    exact (h.calls call hcall).raise (QuotaRaised.refl _)

theorem repairStep_sound {quotaPolicies : List QuotaPolicyRecord} {action : RepairAction} (h : RepairSound s)
    (hstep : repairStep quotaPolicies s action = some next) : RepairSound next ∧ RepairProgress s next := by
  cases action with
  | recordUsageEvent request =>
    cases hstep
    refine ⟨⟨h.inRange, h.leases, List.forall_mem_cons.mpr ⟨?_, h.calls⟩⟩, QuotaRaised.refl _, ?_, fun _ _ => id⟩
    · exact quotaAdjustments_nonneg request quotaPolicies
    · unfold recordMeasuredUsageEvent
      split
      · exact List.prefix_refl _
      · exact List.prefix_append _ _
  | finalizeQuota adjustments =>
    simp only [repairStep] at hstep
    split at hstep
    · exact h.exchange hstep (by simp)
    · have hadjustments : ∀ adjustment ∈ adjustments, 0 ≤ adjustment.2 := h.call_of_move hstep
      exact h.exchange hstep (List.forall_mem_singleton.mpr hadjustments)
  | adjust counterKey amount rest =>
    obtain ⟨hamount, hrest⟩ := List.forall_mem_cons.mp (h.call_of_move hstep)
    exact h.move hstep (quotaRaised_adjust h counterKey hamount) (adjust_inRange h.inRange _ _) rfl
      (List.forall_mem_singleton.mpr hrest)
  | finalizeDone => exact h.exchange hstep (by simp)
  | setHotState unavailable =>
    cases hstep
    exact ⟨⟨h.inRange, h.leases, fun call hcall => (h.calls call hcall).raise (QuotaRaised.refl _)⟩,
      QuotaRaised.refl _, List.prefix_refl _, fun _ _ => id⟩
  | expire tenantId now =>
    simp only [repairStep] at hstep
    split at hstep
    · cases hstep
      exact ⟨h, QuotaRaised.refl _, List.prefix_refl _, fun _ _ => id⟩
    · cases hstep
      refine ⟨h.expire tenantId now, QuotaRaised.refl _, List.prefix_refl _, ?_⟩
      intro other later hpast leaseId lease hlookup
      obtain ⟨old, hold, rfl⟩ := lookup_expired hlookup
      exact leaseExpires_expireLease _ _ _ _ _ (hpast leaseId old hold)
  | expireAdjust tenantId now lease rest =>
    obtain ⟨hkey, hrest⟩ := List.forall_mem_cons.mp (h.call_of_move hstep)
    refine h.move hstep ?_ (adjust_inRange h.inRange _ _) rfl (List.forall_mem_singleton.mpr hrest)
    intro other hother
    rw [counter_adjust_reservation hkey _ hother]
  | readUsage tenantId now =>
    exact h.exchange hstep (List.forall_mem_singleton.mpr (repairTargets_sound _ _ _ _))
  | repairRead tick counterKey durable rest =>
    simp only [repairStep] at hstep
    split at hstep
    · exact h.exchange hstep (List.forall_mem_singleton.mpr (List.forall_mem_cons.mp (h.call_of_move hstep)).2)
    · rename_i hbelow
      refine h.exchange hstep (List.forall_mem_singleton.mpr ⟨⟨(h.inRange _).1, ?_, le_refl _⟩, h.call_of_move hstep⟩)
      omega
  | repairAdjust tick counterKey durable current rest =>
    obtain ⟨⟨hlow, hlt, -⟩, htargets⟩ := h.call_of_move hstep
    have hdelta : 0 ≤ saturatingSub durable current := by
      unfold saturatingSub i64Max
      omega
    exact h.move hstep (quotaRaised_adjust h counterKey hdelta) (adjust_inRange h.inRange _ _) rfl
      (List.forall_mem_singleton.mpr (List.forall_mem_cons.mp htargets).2)
  | repairDone tick =>
    obtain ⟨mid, hmove, rfl⟩ := Option.map_eq_some_iff.mp hstep
    obtain ⟨hsound, hprogress⟩ := h.exchange hmove (by simp)
    exact ⟨⟨hsound.inRange, hsound.leases, hsound.calls⟩, hprogress.raised, hprogress.events, hprogress.leases⟩

end Sound

section Settled

/-- The run has dealt with every counter that it planned to look at, apart from the pending ones. -/
structure Settling (quotaPolicies : List QuotaPolicyRecord) (s : RepairRuntime) (tick : ReconcilerRun)
    (targets : List (String × Int)) : Prop where
  count : tick.usageCount ≤ s.usageEvents.length
  leases : LeasesPast tick.tenantId tick.now s.store
  counters : ∀ target ∈ repairTargets quotaPolicies (s.usageEvents.take tick.usageCount) tick.tenantId tick.now,
    target ∈ targets ∨ target.2 ≤ s.store.runtimePolicyCounter target.1

def RepairCall.Settled (quotaPolicies : List QuotaPolicyRecord) (s : RepairRuntime) (call : RepairCall) : Prop :=
  (∀ run ∈ call.pending, Settling quotaPolicies s run.1 run.2) ∧
    ∀ tenantId now leases, call = .expiring tenantId now leases → LeasesPast tenantId now s.store

structure RepairSettled (quotaPolicies : List QuotaPolicyRecord) (s : RepairRuntime) : Prop where
  calls : ∀ call ∈ s.calls, call.Settled quotaPolicies s
  returned : ∀ tick ∈ s.returned, Settling quotaPolicies s tick []

variable {quotaPolicies : List QuotaPolicyRecord} {s next : RepairRuntime} {tick : ReconcilerRun}

theorem Settling.progress {targets : List (String × Int)} (h : Settling quotaPolicies s tick targets)
    (hprogress : RepairProgress s next) : Settling quotaPolicies next tick targets := by
  obtain ⟨rest, hevents⟩ := hprogress.events
  have htake : next.usageEvents.take tick.usageCount = s.usageEvents.take tick.usageCount := by
    rw [← hevents, List.take_append_of_le_length h.count]
  refine ⟨?_, hprogress.leases _ _ h.leases, ?_⟩
  · exact le_trans h.count (hprogress.events.length_le)
  · intro target hmem
    rw [htake] at hmem
    have hkey := (repairTargets_sound _ _ _ _ target hmem).1
    exact (h.counters target hmem).imp_right fun hle => le_trans hle (hprogress.raised _ hkey)

theorem RepairCall.Settled.progress {call : RepairCall} (h : call.Settled quotaPolicies s)
    (hprogress : RepairProgress s next) : call.Settled quotaPolicies next :=
  ⟨fun run hrun => (h.1 run hrun).progress hprogress,
    fun tenantId now leases heq => hprogress.leases _ _ (h.2 tenantId now leases heq)⟩

/-- A step keeps what the runs have settled if the call in step does. -/
theorem RepairSettled.enter (h : RepairSettled quotaPolicies s) (hprogress : RepairProgress s next)
    (removed entered : List RepairCall) {others : List RepairCall} (hcalls : s.calls.Perm (removed ++ others))
    (hnext : next.calls = entered ++ others) (hreturned : next.returned = s.returned)
    (hentered : (∀ call ∈ removed, call.Settled quotaPolicies s) → ∀ call ∈ entered, call.Settled quotaPolicies next) :
    RepairSettled quotaPolicies next := by
  constructor
  · rw [hnext]
    refine forall_moved hcalls h.calls (fun _ _ hcall => hcall.progress hprogress) entered (hentered ?_)
    intro call hcall
    exact h.calls call (hcalls.mem_iff.mpr (List.mem_append_left _ hcall))
  · intro tick htick
    rw [hreturned] at htick
    exact (h.returned tick htick).progress hprogress

theorem RepairSettled.move (h : RepairSettled quotaPolicies s) (hprogress : RepairProgress s next) {call : RepairCall}
    {entered : List RepairCall} {store : RuntimePolicyStore} (hmove : s.move call entered store = some next)
    (hentered : call.Settled quotaPolicies s → ∀ call ∈ entered, call.Settled quotaPolicies next) :
    RepairSettled quotaPolicies next := by
  obtain ⟨others, hcalls, rfl⟩ := moved_cases hmove
  exact h.enter hprogress [call] entered hcalls rfl rfl fun hremoved => hentered (hremoved call (List.mem_singleton_self _))

theorem settled_repairing {targets : List (String × Int)} (h : Settling quotaPolicies s tick targets) :
    (RepairCall.repairing tick targets).Settled quotaPolicies s :=
  ⟨List.forall_mem_singleton.mpr h, by simp⟩

theorem settled_finished (adjustments : List (String × Int)) :
    (RepairCall.adjusting adjustments).Settled quotaPolicies s ∧ (RepairCall.finished adjustments).Settled quotaPolicies s :=
  ⟨⟨by simp [RepairCall.pending], by simp⟩, ⟨by simp [RepairCall.pending], by simp⟩⟩

/-- The first pending counter is dealt with once it holds its durable value. -/
theorem Settling.tail {target : String × Int} {rest : List (String × Int)}
    (h : Settling quotaPolicies s tick (target :: rest)) (hcounter : target.2 ≤ s.store.runtimePolicyCounter target.1) :
    Settling quotaPolicies s tick rest := by
  refine ⟨h.count, h.leases, fun other hmem => ?_⟩
  rcases h.counters other hmem with hpending | hsettled
  · rcases List.mem_cons.mp hpending with rfl | hrest
    · exact Or.inr hcounter
    · exact Or.inl hrest
  · exact Or.inr hsettled

theorem counter_repaired {durable current counter : Int} (hlow : 0 ≤ current) (hlt : current < durable)
    (hdurable : durable ≤ i64Max) (hcurrent : current ≤ counter) (hcounter : counter ≤ i64Max) :
    durable ≤ saturatingAdd counter (saturatingSub durable current) ∧
      (counter = current → saturatingAdd counter (saturatingSub durable current) = durable) := by
  unfold saturatingAdd saturatingSub i64Min i64Max at *
  omega

theorem repairStep_settled {action : RepairAction} (hsound : RepairSound s) (h : RepairSettled quotaPolicies s)
    (hstep : repairStep quotaPolicies s action = some next) : RepairSettled quotaPolicies next := by
  obtain ⟨hnext, hprogress⟩ := repairStep_sound hsound hstep
  cases action with
  | recordUsageEvent request =>
    cases hstep
    exact h.enter hprogress [] [_] (List.Perm.refl _) rfl rfl
      fun _ => List.forall_mem_singleton.mpr (settled_finished _).2
  | finalizeQuota adjustments =>
    simp only [repairStep] at hstep
    split at hstep
    · exact h.move hprogress hstep (by simp)
    · exact h.move hprogress hstep fun _ => List.forall_mem_singleton.mpr (settled_finished _).1
  | adjust counterKey amount rest =>
    exact h.move hprogress hstep fun _ => List.forall_mem_singleton.mpr (settled_finished _).1
  | finalizeDone => exact h.move hprogress hstep (by simp)
  | setHotState unavailable =>
    cases hstep
    exact h.enter hprogress [] [] (List.Perm.refl _) rfl rfl (by simp)
  | expire tenantId now =>
    simp only [repairStep] at hstep
    split at hstep
    · cases hstep
      exact h
    · cases hstep
      refine h.enter hprogress [] [_] (List.Perm.refl _) rfl rfl fun _ => List.forall_mem_singleton.mpr ?_
      refine ⟨by simp [RepairCall.pending], ?_⟩
      intro other later leases heq
      cases heq
      exact leasesPast_expire s.store tenantId now
  | expireAdjust tenantId now lease rest =>
    refine h.move hprogress hstep fun hcall => List.forall_mem_singleton.mpr ⟨by simp [RepairCall.pending], ?_⟩
    intro other later leases heq
    cases heq
    exact hprogress.leases _ _ (hcall.2 _ _ _ rfl)
  | readUsage tenantId now =>
    refine h.move hprogress hstep fun hcall => List.forall_mem_singleton.mpr (settled_repairing ?_)
    obtain ⟨others, -, rfl⟩ := moved_cases hstep
    refine ⟨le_refl _, hcall.2 _ _ _ rfl, fun target hmem => Or.inl ?_⟩
    rwa [List.take_length] at hmem
  | repairRead tick counterKey durable rest =>
    simp only [repairStep] at hstep
    split at hstep
    · rename_i habove
      refine h.move hprogress hstep fun hcall => List.forall_mem_singleton.mpr (settled_repairing ?_)
      exact ((hcall.1 _ (List.mem_singleton_self _)).tail habove).progress hprogress
    · refine h.move hprogress hstep fun hcall => List.forall_mem_singleton.mpr ⟨?_, by simp⟩
      exact List.forall_mem_singleton.mpr ((hcall.1 _ (List.mem_singleton_self _)).progress hprogress)
  | repairAdjust tick counterKey durable current rest =>
    obtain ⟨⟨hlow, hlt, hcurrent⟩, htargets⟩ := hsound.call_of_move hstep
    have hdurable := (List.forall_mem_cons.mp htargets).1.2
    refine h.move hprogress hstep fun hcall => List.forall_mem_singleton.mpr (settled_repairing ?_)
    refine ((hcall.1 _ (List.mem_singleton_self _)).progress hprogress).tail ?_
    obtain ⟨others, -, rfl⟩ := moved_cases hstep
    have hdelta : 0 ≤ saturatingSub durable current := by
      unfold saturatingSub i64Max
      omega
    show durable ≤ (s.store.adjustRuntimePolicyCounter counterKey _).1.runtimePolicyCounter counterKey
    rw [counter_adjust hsound.inRange _ _ hdelta, if_pos rfl]
    exact (counter_repaired hlow hlt hdurable hcurrent (hsound.inRange _).2).1
  | repairDone tick =>
    obtain ⟨mid, hmove, rfl⟩ := Option.map_eq_some_iff.mp hstep
    obtain ⟨others, hcalls, rfl⟩ := moved_cases hmove
    have hcall := h.calls (.repairing tick []) (hcalls.mem_iff.mpr (by simp))
    refine ⟨?_, List.forall_mem_cons.mpr ⟨?_, ?_⟩⟩
    · exact forall_moved hcalls h.calls (fun _ _ hother => hother.progress hprogress) [] (by simp)
    · exact (hcall.1 _ (List.mem_singleton_self _)).progress hprogress
    · intro other hother
      exact (h.returned other hother).progress hprogress

end Settled

section SecondRun

variable {quotaPolicies : List QuotaPolicyRecord} {s : RepairRuntime} {usageEvents : List MeasuredUsageEvent}
  {store : RuntimePolicyStore} {tenantId : String} {now later : DateTime}

/-- A later run meets no usage event of a minute that the earlier run did not look at. -/
def NoLaterUsage (usageEvents : List MeasuredUsageEvent) (now later : DateTime) : Prop :=
  later.timestamp / 60 = now.timestamp / 60 ∨
    ∀ event ∈ usageEvents, event.occurredAt.timestamp / 60 ≠ later.timestamp / 60

theorem durable_later {policy : QuotaPolicyRecord} (hlater : NoLaterUsage usageEvents now later)
    (hdurable : 0 < runtimeQuotaDurableUsageValueForPolicy policy usageEvents later) :
    runtimeQuotaCounterKey policy later = runtimeQuotaCounterKey policy now ∧
      runtimeQuotaDurableUsageValueForPolicy policy usageEvents later =
        runtimeQuotaDurableUsageValueForPolicy policy usageEvents now := by
  have hcongr (hslot : runtimeQuotaWindowSlot policy later = runtimeQuotaWindowSlot policy now)
      (hmatches : ∀ event, runtimeQuotaUsageEventMatchesWindow policy event later =
        runtimeQuotaUsageEventMatchesWindow policy event now) :
      runtimeQuotaCounterKey policy later = runtimeQuotaCounterKey policy now ∧
        runtimeQuotaDurableUsageValueForPolicy policy usageEvents later =
          runtimeQuotaDurableUsageValueForPolicy policy usageEvents now := by
    unfold runtimeQuotaCounterKey runtimeQuotaDurableUsageValueForPolicy durableUsageEventMatches
    simp only [hslot, hmatches, and_self]
  rcases hlater with hsame | hnone
  · apply hcongr
    · unfold runtimeQuotaWindowSlot
      rw [hsame]
    · intro event
      unfold runtimeQuotaUsageEventMatchesWindow
      rw [hsame]
  · -- without an event in the minute, only a window that never closes counts any
    have hempty (hminute : ∀ event, runtimeQuotaUsageEventMatchesWindow policy event later = true →
        event.occurredAt.timestamp / 60 = later.timestamp / 60) : False := by
      have hfilter : usageEvents.filter (durableUsageEventMatches policy later) = [] := by
        rw [List.filter_eq_nil_iff]
        intro event hevent hmatches
        exact hnone event hevent (hminute _ (Bool.and_eq_true_iff.mp hmatches).2)
      unfold runtimeQuotaDurableUsageValueForPolicy at hdurable
      rw [hfilter] at hdurable
      exact lt_irrefl 0 hdurable
    cases hwindow : policy.window with
    | fixed => exact (hempty fun event => by simp [runtimeQuotaUsageEventMatchesWindow, hwindow]).elim
    | sliding => exact (hempty fun event => by simp [runtimeQuotaUsageEventMatchesWindow, hwindow]).elim
    | ledgerBucket =>
      exact hcongr (by simp [runtimeQuotaWindowSlot, hwindow])
        fun event => by simp [runtimeQuotaUsageEventMatchesWindow, hwindow]
    | requestLifetime => exact (hempty fun event => by simp [runtimeQuotaUsageEventMatchesWindow, hwindow]).elim
    | streamLifetime => exact (hempty fun event => by simp [runtimeQuotaUsageEventMatchesWindow, hwindow]).elim

theorem repairTargets_later (hlater : NoLaterUsage usageEvents now later) {target : String × Int}
    (hmem : target ∈ repairTargets quotaPolicies usageEvents tenantId later) :
    target ∈ repairTargets quotaPolicies usageEvents tenantId now := by
  unfold repairTargets at hmem ⊢
  obtain ⟨hmem, hpos⟩ := List.mem_filter.mp hmem
  obtain ⟨policy, hpolicy, rfl⟩ := List.mem_map.mp hmem
  have hlater' : NoLaterUsage (usageEvents.filter fun event => event.tenantId == tenantId) now later :=
    hlater.imp_right fun hnone event hevent => hnone event (List.mem_filter.mp hevent).1
  obtain ⟨hkey, hvalue⟩ := durable_later hlater' (of_decide_eq_true hpos)
  refine List.mem_filter.mpr ⟨List.mem_map.mpr ⟨policy, hpolicy, ?_⟩, hpos⟩
  rw [hkey, hvalue]

theorem repairAll_eq {targets : List (String × Int)}
    (hsettled : ∀ target ∈ targets, target.2 ≤ store.runtimePolicyCounter target.1) :
    targets.foldl repairCounter store = store := by
  induction targets with
  | nil => rfl
  | cons target targets ih =>
    obtain ⟨hhead, htail⟩ := List.forall_mem_cons.mp hsettled
    rw [List.foldl_cons, repairCounter, if_pos hhead]
    exact ih htail

theorem counter_adjustAll_reservation {adjustments : List (String × Int)}
    (hkeys : ∀ adjustment ∈ adjustments, IsReservationKey adjustment.1) {key : String} (hkey : IsQuotaKey key) :
    (adjustAll store adjustments).runtimePolicyCounter key = store.runtimePolicyCounter key := by
  induction adjustments generalizing store with
  | nil => rfl
  | cons adjustment adjustments ih =>
    obtain ⟨hhead, htail⟩ := List.forall_mem_cons.mp hkeys
    exact (ih htail).trans (counter_adjust_reservation hhead _ hkey)

theorem expire_eq_of_past (hpast : LeasesPast tenantId now store) :
    store.expireRuntimeBudgetLeases tenantId now = (store, []) := by
  have hleases : mapValues (expireLease tenantId now) store.runtimeBudgetLeases = store.runtimeBudgetLeases := by
    apply mapValues_eq_self
    intro leaseId lease hlookup
    exact if_neg (by simp [hpast leaseId lease hlookup])
  have hnone : (store.runtimeBudgetLeases.entries.map Sigma.snd).filter (leaseExpires tenantId now) = [] := by
    rw [List.filter_eq_nil_iff]
    intro lease hmem hexpires
    obtain ⟨entry, hentry, rfl⟩ := List.mem_map.mp hmem
    rw [hpast entry.1 entry.2 (AList.mem_lookup_iff.mpr hentry)] at hexpires
    cases hexpires
  unfold RuntimePolicyStore.expireRuntimeBudgetLeases
  simp only [hleases, hnone]
  rfl

/-- Once a run has returned and no usage event has come since its read, a second run finds nothing to repair. -/
theorem Settling.repairTargets_le {tick : ReconcilerRun} (h : Settling quotaPolicies s tick [])
    (hcount : tick.usageCount = s.usageEvents.length) (hlater : NoLaterUsage s.usageEvents tick.now later) :
    ∀ target ∈ repairTargets quotaPolicies s.usageEvents tick.tenantId later,
      target.2 ≤ s.store.runtimePolicyCounter target.1 := by
  intro target hmem
  have hplanned := repairTargets_later hlater hmem
  have hsettled := h.counters target
  rw [hcount, List.take_length] at hsettled
  exact (hsettled hplanned).resolve_left List.not_mem_nil

theorem Settling.secondRun {tick : ReconcilerRun} (hsound : RepairSound s) (h : Settling quotaPolicies s tick [])
    (hcount : tick.usageCount = s.usageEvents.length) (hlater : NoLaterUsage s.usageEvents tick.now later)
    {key : String} (hkey : IsQuotaKey key) :
    (runRuntimePolicyReconcilerOnce quotaPolicies s.usageEvents s.store tick.tenantId later).runtimePolicyCounter key =
      s.store.runtimePolicyCounter key := by
  unfold runRuntimePolicyReconcilerOnce
  split
  · rfl
  · have hleases : ∀ adjustment ∈ (s.store.expireRuntimeBudgetLeases tick.tenantId later).2.map fun lease =>
        (lease.counterKey, -lease.amount), IsReservationKey adjustment.1 := by
      intro adjustment hmem
      obtain ⟨lease, hlease, rfl⟩ := List.mem_map.mp hmem
      exact (hsound.expire tick.tenantId later).calls _ List.mem_cons_self lease hlease
    have hcounter {other : String} (hother : IsQuotaKey other) :
        (adjustAll (s.store.expireRuntimeBudgetLeases tick.tenantId later).1
          ((s.store.expireRuntimeBudgetLeases tick.tenantId later).2.map fun lease =>
            (lease.counterKey, -lease.amount))).runtimePolicyCounter other = s.store.runtimePolicyCounter other :=
      counter_adjustAll_reservation hleases hother
    simp only
    rw [repairAll_eq, hcounter hkey]
    intro target hmem
    rw [hcounter (repairTargets_sound _ _ _ _ target hmem).1]
    exact h.repairTargets_le hcount hlater target hmem

theorem Settling.sameRun {tick : ReconcilerRun} (h : Settling quotaPolicies s tick [])
    (hcount : tick.usageCount = s.usageEvents.length) :
    runRuntimePolicyReconcilerOnce quotaPolicies s.usageEvents s.store tick.tenantId tick.now = s.store := by
  unfold runRuntimePolicyReconcilerOnce
  split
  · rfl
  · rw [expire_eq_of_past h.leases]
    exact repairAll_eq (h.repairTargets_le hcount (Or.inl rfl))

/-- No run that has returned is worth a second one while there is no new usage event: at the same time it leaves the
store as it is, and at a later one the quota counters. -/
def SecondRunQuiet (quotaPolicies : List QuotaPolicyRecord) (s : RepairRuntime) : Prop :=
  ∀ tick ∈ s.returned, tick.usageCount = s.usageEvents.length →
    runRuntimePolicyReconcilerOnce quotaPolicies s.usageEvents s.store tick.tenantId tick.now = s.store ∧
      ∀ later, NoLaterUsage s.usageEvents tick.now later → ∀ key, IsQuotaKey key →
        (runRuntimePolicyReconcilerOnce quotaPolicies s.usageEvents s.store tick.tenantId later).runtimePolicyCounter key =
          s.store.runtimePolicyCounter key

theorem RepairSettled.secondRunQuiet (hsound : RepairSound s) (h : RepairSettled quotaPolicies s) :
    SecondRunQuiet quotaPolicies s := by
  intro tick htick hcount
  have hsettling := h.returned tick htick
  exact ⟨hsettling.sameRun hcount, fun later hlater key hkey => hsettling.secondRun hsound hcount hlater hkey⟩

end SecondRun

section Uninterrupted

variable (quotaPolicies : List QuotaPolicyRecord)

theorem RepairRuntime.move_head (s : RepairRuntime) (call : RepairCall) (calls entered : List RepairCall)
    (store : RuntimePolicyStore) : { s with calls := call :: calls }.move call entered store =
      some { s with store := store, calls := entered ++ calls } := by
  unfold RepairRuntime.move resume
  rw [if_pos List.mem_cons_self, List.erase_cons_head]
  rfl

theorem expireAll_run (s : RepairRuntime) (tenantId : String) (now : DateTime) (leases : List RuntimeBudgetLeaseRecord) :
    ∃ actions, run (repairStep quotaPolicies) { s with calls := .expiring tenantId now leases :: s.calls } actions =
      some { s with
        store := adjustAll s.store (leases.map fun lease => (lease.counterKey, -lease.amount))
        calls := .expiring tenantId now [] :: s.calls } := by
  induction leases generalizing s with
  | nil => exact ⟨[], rfl⟩
  | cons lease leases ih =>
    obtain ⟨actions, hrun⟩ := ih { s with
      store := (s.store.adjustRuntimePolicyCounter lease.counterKey (-lease.amount)).1 }
    refine ⟨.expireAdjust tenantId now lease leases :: actions, ?_⟩
    rw [run, repairStep, RepairRuntime.move_head]
    exact hrun

theorem repairAll_run (s : RepairRuntime) (tick : ReconcilerRun) (targets : List (String × Int)) :
    ∃ actions, run (repairStep quotaPolicies) { s with calls := .repairing tick targets :: s.calls } actions =
      some { s with store := targets.foldl repairCounter s.store, returned := tick :: s.returned } := by
  induction targets generalizing s with
  | nil =>
    refine ⟨[.repairDone tick], ?_⟩
    rw [run, repairStep, RepairRuntime.move_head]
    rfl
  | cons target targets ih =>
    obtain ⟨actions, hrun⟩ := ih { s with store := repairCounter s.store target }
    by_cases habove : target.2 ≤ s.store.runtimePolicyCounter target.1
    · refine ⟨.repairRead tick target.1 target.2 targets :: actions, ?_⟩
      rw [repairCounter, if_pos habove] at hrun
      rw [run, repairStep, if_pos habove, RepairRuntime.move_head, List.foldl_cons, repairCounter, if_pos habove]
      exact hrun
    · refine ⟨.repairRead tick target.1 target.2 targets ::
        .repairAdjust tick target.1 target.2 (s.store.runtimePolicyCounter target.1) targets :: actions, ?_⟩
      rw [repairCounter, if_neg habove] at hrun
      rw [run, repairStep, if_neg habove, RepairRuntime.move_head, List.foldl_cons, repairCounter, if_neg habove]
      have hadjust := s.move_head
        (.repairRead tick target.1 target.2 (s.store.runtimePolicyCounter target.1) targets) s.calls
        [.repairing tick targets] (s.store.adjustRuntimePolicyCounter target.1
          (saturatingSub target.2 (s.store.runtimePolicyCounter target.1))).1
      exact (congrArg (·.bind fun next => run (repairStep quotaPolicies) next actions) hadjust).trans hrun

/-- The reconciler's function is the run of its steps that nothing interrupts. -/
theorem reconcilerOnce_run (s : RepairRuntime) (havailable : s.store.runtimePolicyHotStateAvailable = true)
    (tenantId : String) (now : DateTime) :
    ∃ actions, run (repairStep quotaPolicies) s actions = some { s with
      store := runRuntimePolicyReconcilerOnce quotaPolicies s.usageEvents s.store tenantId now
      returned := ⟨tenantId, now, s.usageEvents.length⟩ :: s.returned } := by
  let expired := { s with store := (s.store.expireRuntimeBudgetLeases tenantId now).1 }
  let returned := (s.store.expireRuntimeBudgetLeases tenantId now).2.map fun lease => (lease.counterKey, -lease.amount)
  let adjusted := { s with store := adjustAll expired.store returned }
  have hexpire : repairStep quotaPolicies s (.expire tenantId now) = some { expired with
      calls := .expiring tenantId now (s.store.expireRuntimeBudgetLeases tenantId now).2 :: expired.calls } := by
    rw [repairStep, if_neg (by simp [havailable])]
  have hread : repairStep quotaPolicies { adjusted with calls := .expiring tenantId now [] :: adjusted.calls }
      (.readUsage tenantId now) = some { adjusted with
        calls := .repairing ⟨tenantId, now, s.usageEvents.length⟩
          (repairTargets quotaPolicies s.usageEvents tenantId now) :: adjusted.calls } := by
    rw [repairStep, RepairRuntime.move_head]
    rfl
  obtain ⟨returning, hreturning⟩ := expireAll_run quotaPolicies expired tenantId now
    (s.store.expireRuntimeBudgetLeases tenantId now).2
  obtain ⟨repairing, hrepairing⟩ := repairAll_run quotaPolicies adjusted ⟨tenantId, now, s.usageEvents.length⟩
    (repairTargets quotaPolicies s.usageEvents tenantId now)
  refine ⟨.expire tenantId now :: (returning ++ .readUsage tenantId now :: repairing), ?_⟩
  rw [run, hexpire, Option.bind_some, runRuntimePolicyReconcilerOnce, if_neg (by simp [havailable])]
  refine run_append hreturning ?_
  rw [run]
  exact (congrArg (·.bind fun next => run (repairStep quotaPolicies) next repairing) hread).trans hrepairing

end Uninterrupted

end Starweaver.Gateway
