import Starweaver.Library.Interleaving
import Starweaver.Library.Machine
import Starweaver.Gateway.Reconciler

namespace Starweaver.Gateway

open Library.AssocMap Library.Calendar Library.Counters Library.Interleaving Library.Machine Library.MachineInt
open Library.SortBy

/-- Where a call stands between two of its store operations. -/
inductive LeaseCall
  | overLimit (counterKey : String)
  | admitted (lease : RuntimeBudgetLeaseRecord)
  | releasing (reservations : List RuntimeBudgetReservation)
  | released (reservation : RuntimeBudgetReservation) (rest : List RuntimeBudgetReservation)
  | expiring (tenantId : String) (now : DateTime) (leases : List RuntimeBudgetLeaseRecord)
  | repairing (targets : List (String × Int))
  | repairRead (counterKey : String) (delta : Int) (rest : List (String × Int))
deriving DecidableEq, Repr

/-- The store, the calls in progress, the lease ids drawn so far, the reservations that were returned, and the id of
every lease once for each time it was subtracted from its counter. -/
structure LeaseRuntime where
  store : RuntimePolicyStore
  calls : List LeaseCall
  drawn : List String
  issued : List RuntimeBudgetReservation
  subtracted : List String

def LeaseRuntime.empty : LeaseRuntime := ⟨.empty, [], [], [], []⟩

inductive LeaseAction
  | increment (policy : BudgetPolicyRecord) (requestId : String) (current limit : Int) (now : DateTime)
    (leaseId : String)
  | compensate (counterKey : String)
  | recordLease (lease : RuntimeBudgetLeaseRecord)
  | release (reservations : List RuntimeBudgetReservation)
  | releaseLease (reservation : RuntimeBudgetReservation) (rest : List RuntimeBudgetReservation)
  | releaseAdjust (reservation : RuntimeBudgetReservation) (rest : List RuntimeBudgetReservation)
  | releaseDone
  | expire (tenantId : String) (now : DateTime)
  | expireAdjust (tenantId : String) (now : DateTime) (lease : RuntimeBudgetLeaseRecord)
    (rest : List RuntimeBudgetLeaseRecord)
  | readUsage (quotaPolicies : List QuotaPolicyRecord) (usageEvents : List MeasuredUsageEvent) (tenantId : String)
    (now : DateTime)
  | repairRead (counterKey : String) (durable : Int) (rest : List (String × Int))
  | repairAdjust (counterKey : String) (delta : Int) (rest : List (String × Int))
  | repairDone

namespace LeaseCall

/-- The counter that the call has incremented without a lease or a compensation so far. -/
def incremented : LeaseCall → List String
  | .overLimit counterKey => [counterKey]
  | .admitted lease => [lease.counterKey]
  | _ => []

/-- The leases whose status the call has changed and that it has not subtracted, each with its counter. -/
def changed : LeaseCall → List (String × String)
  | .released reservation _ => [(reservation.leaseId, reservation.counterKey)]
  | .expiring _ _ leases => leases.map fun lease => (lease.leaseId, lease.counterKey)
  | _ => []

/-- The reservations that a release has yet to come to. -/
def awaiting : LeaseCall → List RuntimeBudgetReservation
  | .releasing reservations => reservations
  | .released _ rest => rest
  | _ => []

end LeaseCall

def RuntimePolicyStore.reservedKeys (store : RuntimePolicyStore) : List String :=
  ((store.runtimeBudgetLeases.entries.map Sigma.snd).filter fun lease => lease.status == .reserved).map
    RuntimeBudgetLeaseRecord.counterKey

namespace LeaseRuntime

def incremented (s : LeaseRuntime) : List String := s.calls.flatMap LeaseCall.incremented

def changed (s : LeaseRuntime) : List (String × String) := s.calls.flatMap LeaseCall.changed

def awaiting (s : LeaseRuntime) : List RuntimeBudgetReservation := s.calls.flatMap LeaseCall.awaiting

/-- The units that the counters stand for. -/
def held (s : LeaseRuntime) : List String := s.store.reservedKeys ++ s.incremented ++ s.changed.map Prod.snd

def move (s : LeaseRuntime) (call : LeaseCall) (entered : List LeaseCall) (store : RuntimePolicyStore) :
    Option LeaseRuntime :=
  (resume s.calls call entered).map fun calls => { s with store := store, calls := calls }

end LeaseRuntime

/-- One store operation of a call. The reconciler's read of a lease's counter feeds only the audit event. -/
def leaseStep (s : LeaseRuntime) : LeaseAction → Option LeaseRuntime
  | .increment policy requestId current limit now leaseId =>
    -- `new_prefixed_id` draws no id twice, and memory holds fewer than `i64Max` units at once
    if leaseId ∈ s.drawn ∨ i64Max ≤ (s.held.length : Int) then none
    else if !s.store.runtimePolicyHotStateAvailable then some s
    else
      let counterKey := runtimeBudgetReservationKey policy now
      let (reserved, reservedAfterIncrement) := s.store.adjustRuntimePolicyCounter counterKey 1
      let call := if limit < saturatingAdd current reservedAfterIncrement then .overLimit counterKey
        else .admitted (budgetLease policy requestId now leaseId)
      some { s with store := reserved, calls := call :: s.calls, drawn := leaseId :: s.drawn }
  | .compensate counterKey =>
    s.move (.overLimit counterKey) [] (s.store.adjustRuntimePolicyCounter counterKey (-1)).1
  | .recordLease lease =>
    (s.move (.admitted lease) [] (s.store.recordRuntimeBudgetLease lease)).map fun next =>
      { next with issued := ⟨lease.leaseId, lease.counterKey, 1⟩ :: s.issued }
  | .release reservations =>
    -- a caller releases what it was given
    if ∀ reservation ∈ reservations, reservation ∈ s.issued then
      some { s with calls := .releasing reservations :: s.calls }
    else none
  | .releaseLease reservation rest =>
    match s.store.releaseRuntimeBudgetLease reservation.leaseId with
    | (store, some _) => s.move (.releasing (reservation :: rest)) [.released reservation rest] store
    | (store, none) => s.move (.releasing (reservation :: rest)) [.releasing rest] store
  | .releaseAdjust reservation rest =>
    (s.move (.released reservation rest) [.releasing rest]
      (s.store.adjustRuntimePolicyCounter reservation.counterKey (-reservation.amount)).1).map fun next =>
        { next with subtracted := reservation.leaseId :: s.subtracted }
  | .releaseDone => s.move (.releasing []) [] s.store
  | .expire tenantId now =>
    if !s.store.runtimePolicyHotStateAvailable then some s
    else
      let (store, leases) := s.store.expireRuntimeBudgetLeases tenantId now
      some { s with store := store, calls := .expiring tenantId now leases :: s.calls }
  | .expireAdjust tenantId now lease rest =>
    (s.move (.expiring tenantId now (lease :: rest)) [.expiring tenantId now rest]
      (s.store.adjustRuntimePolicyCounter lease.counterKey (-lease.amount)).1).map fun next =>
        { next with subtracted := lease.leaseId :: s.subtracted }
  | .readUsage quotaPolicies usageEvents tenantId now =>
    s.move (.expiring tenantId now []) [.repairing (repairTargets quotaPolicies usageEvents tenantId now)] s.store
  | .repairRead counterKey durable rest =>
    let current := s.store.runtimePolicyCounter counterKey
    if durable ≤ current then s.move (.repairing ((counterKey, durable) :: rest)) [.repairing rest] s.store
    else s.move (.repairing ((counterKey, durable) :: rest))
      [.repairRead counterKey (saturatingSub durable current) rest] s.store
  | .repairAdjust counterKey delta rest =>
    s.move (.repairRead counterKey delta rest) [.repairing rest]
      (s.store.adjustRuntimePolicyCounter counterKey delta).1
  | .repairDone => s.move (.repairing []) [] s.store

section Table

variable {store : RuntimePolicyStore} {lease : RuntimeBudgetLeaseRecord} {leaseId : String}

theorem reservedKeys_record (hnone : store.runtimeBudgetLeases.lookup lease.leaseId = none)
    (hstatus : lease.status = .reserved) :
    (store.recordRuntimeBudgetLease lease).reservedKeys = lease.counterKey :: store.reservedKeys := by
  have hentries := AList.entries_insert_of_notMem (b := lease) (AList.lookup_eq_none.mp hnone)
  unfold RuntimePolicyStore.reservedKeys
  rw [RuntimePolicyStore.record_leases, hentries, List.map_cons, List.filter_cons_of_pos (by simp [hstatus]),
    List.map_cons]

theorem reservedKeys_release (hlookup : store.runtimeBudgetLeases.lookup leaseId = some lease)
    (hstatus : lease.status = .reserved) :
    store.reservedKeys.Perm (lease.counterKey :: (store.releaseRuntimeBudgetLease leaseId).1.reservedKeys) := by
  have hperm := entries_perm hlookup
  have hkeys := ((hperm.map Sigma.snd).filter fun lease => lease.status == .reserved).map
    RuntimeBudgetLeaseRecord.counterKey
  simpa [RuntimePolicyStore.reservedKeys, RuntimePolicyStore.releaseRuntimeBudgetLease, hlookup, hstatus,
    AList.entries_insert, AList.erase] using hkeys

theorem expireLease_partition (tenantId : String) (now : DateTime) (leases : List RuntimeBudgetLeaseRecord) :
    ((leases.filter fun lease => lease.status == .reserved).map RuntimeBudgetLeaseRecord.counterKey).Perm
      (((leases.filter (leaseExpires tenantId now)).map (expireLease tenantId now)).map
          RuntimeBudgetLeaseRecord.counterKey ++
        ((leases.map (expireLease tenantId now)).filter fun lease => lease.status == .reserved).map
          RuntimeBudgetLeaseRecord.counterKey) := by
  induction leases with
  | nil => rfl
  | cons lease leases ih =>
    by_cases hexpires : leaseExpires tenantId now lease = true
    · have hreserved : lease.status = .reserved := by
        simp only [leaseExpires, Bool.and_eq_true, beq_iff_eq] at hexpires
        exact hexpires.1.2
      simpa [expireLease, hexpires, hreserved] using ih.cons lease.counterKey
    · have hkept : expireLease tenantId now lease = lease := if_neg hexpires
      by_cases hreserved : lease.status = .reserved
      · simpa [hkept, hexpires, hreserved] using (ih.cons lease.counterKey).trans List.perm_middle.symm
      · simpa [hkept, hexpires, hreserved] using ih

theorem reservedKeys_expire (store : RuntimePolicyStore) (tenantId : String) (now : DateTime) :
    store.reservedKeys.Perm ((store.expireRuntimeBudgetLeases tenantId now).2.map RuntimeBudgetLeaseRecord.counterKey ++
      (store.expireRuntimeBudgetLeases tenantId now).1.reservedKeys) := by
  have hpart := expireLease_partition tenantId now (store.runtimeBudgetLeases.entries.map Sigma.snd)
  have hsort := (sortBy_perm (fun left right => compare left.leaseId right.leaseId)
    (((store.runtimeBudgetLeases.entries.map Sigma.snd).filter (leaseExpires tenantId now)).map
      (expireLease tenantId now))).map RuntimeBudgetLeaseRecord.counterKey
  have hkeys : (store.expireRuntimeBudgetLeases tenantId now).1.reservedKeys =
      (((store.runtimeBudgetLeases.entries.map Sigma.snd).map (expireLease tenantId now)).filter fun lease =>
        lease.status == .reserved).map RuntimeBudgetLeaseRecord.counterKey := by
    simp [RuntimePolicyStore.reservedKeys, RuntimePolicyStore.expireRuntimeBudgetLeases, mapValues, Function.comp_def]
  rw [hkeys]
  exact hpart.trans (hsort.symm.append_right _)

end Table

section Invariant

def IsReservationKey (key : String) : Prop := ∃ policy now, key = runtimeBudgetReservationKey policy now

def IsQuotaKey (key : String) : Prop := ∃ policy now, key = runtimeQuotaCounterKey policy now

namespace LeaseCall

def units (call : LeaseCall) : List String := call.incremented ++ call.changed.map Prod.snd

def changedIds (call : LeaseCall) : List String := call.changed.map Prod.fst

def admittedIds : LeaseCall → List String
  | .admitted lease => [lease.leaseId]
  | _ => []

def Ok (issued : List RuntimeBudgetReservation) : LeaseCall → Prop
  | .overLimit _ => True
  | .admitted lease => lease.status = .reserved ∧ lease.amount = 1
  | .releasing reservations => ∀ reservation ∈ reservations, reservation ∈ issued
  | .released reservation rest => reservation ∈ issued ∧ ∀ other ∈ rest, other ∈ issued
  | .expiring _ _ leases => ∀ lease ∈ leases, lease.amount = 1
  | .repairing targets => ∀ target ∈ targets, IsQuotaKey target.1
  | .repairRead counterKey _ rest => IsQuotaKey counterKey ∧ ∀ target ∈ rest, IsQuotaKey target.1

end LeaseCall

/-- How often a lease is to be subtracted: once when it is no longer reserved. -/
def RuntimePolicyStore.subtractions (store : RuntimePolicyStore) (leaseId : String) : Nat :=
  ((store.runtimeBudgetLeases.lookup leaseId).map fun lease => if lease.status = .reserved then 0 else 1).getD 0

/-- Over the quota counters, which no lease touches, every counter stands for its units. -/
def Standing (counters : CounterMap String) (held : List String) : Prop :=
  ∃ base, Holding base counters held ∧ ∀ key, IsReservationKey key → value base key = 0

structure LeaseInv (s : LeaseRuntime) : Prop where
  standing : Standing s.store.runtimeQuotaCounters s.held
  keys : ∀ key ∈ s.held, IsReservationKey key
  table : ∀ leaseId lease, s.store.runtimeBudgetLeases.lookup leaseId = some lease →
    lease.leaseId = leaseId ∧ lease.amount = 1 ∧ leaseId ∈ s.drawn
  issued : ∀ reservation ∈ s.issued, reservation.amount = 1 ∧
    ∃ lease, s.store.runtimeBudgetLeases.lookup reservation.leaseId = some lease ∧
      lease.counterKey = reservation.counterKey
  calls : ∀ call ∈ s.calls, call.Ok s.issued
  admitted : ∀ leaseId ∈ s.calls.flatMap LeaseCall.admittedIds,
    leaseId ∈ s.drawn ∧ s.store.runtimeBudgetLeases.lookup leaseId = none
  distinct : (s.calls.flatMap LeaseCall.admittedIds).Nodup
  once : ∀ leaseId, s.subtracted.count leaseId + (s.calls.flatMap LeaseCall.changedIds).count leaseId =
    s.store.subtractions leaseId

variable {s next : LeaseRuntime}

theorem held_perm (s : LeaseRuntime) :
    s.held.Perm (s.store.reservedKeys ++ s.calls.flatMap LeaseCall.units) := by
  unfold LeaseRuntime.held
  rw [List.append_assoc]
  apply List.Perm.append_left
  have hmap : s.changed.map Prod.snd = s.calls.flatMap fun call => call.changed.map Prod.snd := by
    rw [LeaseRuntime.changed, List.map_flatMap]
  rw [hmap]
  exact List.flatMap_append_perm _ _ _

theorem Standing.perm {counters : CounterMap String} {held held' : List String} (h : Standing counters held)
    (hperm : held.Perm held') : Standing counters held' := by
  unfold Standing at *
  rwa [← Multiset.coe_eq_coe.mpr hperm]

theorem Standing.value_eq {counters : CounterMap String} {held : List String} (h : Standing counters held)
    {key : String} (hkey : IsReservationKey key) : value counters key = held.count key := by
  obtain ⟨base, hholding, hzero⟩ := h
  rw [hholding.value_eq key, hzero key hkey, zero_add, Multiset.coe_count]

theorem Standing.acquire {counters : CounterMap String} {held : List String} (h : Standing counters held)
    {key : String} (hkey : IsReservationKey key) (hroom : (held.length : Int) < i64Max) :
    Standing (adjust counters key 1).1 (key :: held) := by
  obtain ⟨base, hholding, hzero⟩ := h
  have hcount : held.count key ≤ held.length := List.count_le_length
  refine ⟨base, ?_, hzero⟩
  rw [← Multiset.cons_coe]
  exact hholding.acquire (by rw [hzero key hkey]) (by rw [hzero key hkey, Multiset.coe_count]; omega)

theorem Standing.release {counters : CounterMap String} {held : List String} {key : String}
    (h : Standing counters (key :: held)) : Standing (adjust counters key (-1)).1 held := by
  obtain ⟨base, hholding, hzero⟩ := h
  refine ⟨base, ?_, hzero⟩
  have hmem : key ∈ (↑(key :: held) : Multiset String) := by simp
  have hrelease := hholding.release hmem
  rwa [Multiset.coe_erase, List.erase_cons_head] at hrelease

theorem reservation_ne_quota {key other : String} (hkey : IsReservationKey key) (hother : IsQuotaKey other) :
    key ≠ other := by
  obtain ⟨policy, now, rfl⟩ := hkey
  obtain ⟨quota, later, rfl⟩ := hother
  exact reservationKey_ne_quotaKey policy quota now later

theorem Standing.adjust_quota {counters : CounterMap String} {held : List String} (h : Standing counters held)
    (hkeys : ∀ key ∈ held, IsReservationKey key) {key : String} (hkey : IsQuotaKey key) (delta : Int) :
    Standing (adjust counters key delta).1 held := by
  obtain ⟨base, hholding, hzero⟩ := h
  refine ⟨(adjust base key delta).1, ?_, ?_⟩
  · apply hholding.adjust
    intro hmem
    exact reservation_ne_quota (hkeys key hmem) hkey rfl
  · intro other hother
    rw [value_adjust_ne base delta (reservation_ne_quota hother hkey)]
    exact hzero other hother

theorem LeaseCall.Ok.mono {issued issued' : List RuntimeBudgetReservation}
    (hissued : ∀ reservation ∈ issued, reservation ∈ issued') {call : LeaseCall} (h : call.Ok issued) :
    call.Ok issued' := by
  cases call with
  | overLimit counterKey => trivial
  | admitted lease => exact h
  | releasing reservations => exact fun reservation hmem => hissued _ (h reservation hmem)
  | released reservation rest => exact ⟨hissued _ h.1, fun other hmem => hissued _ (h.2 other hmem)⟩
  | expiring tenantId now leases => exact h
  | repairing targets => exact h
  | repairRead counterKey delta rest => exact h

theorem calls_ok (h : LeaseInv s) {removed others : List LeaseCall} (hcalls : s.calls.Perm (removed ++ others))
    (entered : List LeaseCall) {issued : List RuntimeBudgetReservation} (hissued : ∀ reservation ∈ s.issued, reservation ∈ issued)
    (hentered : ∀ call ∈ entered, call.Ok issued) : ∀ call ∈ entered ++ others, call.Ok issued := by
  exact forall_moved hcalls h.calls (fun _ _ hok => hok.mono hissued) entered hentered

/-- A step that exchanges calls of equal standing and leaves the store as it is. -/
theorem LeaseInv.exchange (h : LeaseInv s) (removed entered : List LeaseCall) {others : List LeaseCall}
    (hcalls : s.calls.Perm (removed ++ others)) (hunits : (removed ++ entered).flatMap LeaseCall.units = [])
    (hids : (removed ++ entered).flatMap LeaseCall.changedIds = [])
    (hadmitted : (removed ++ entered).flatMap LeaseCall.admittedIds = [])
    (hentered : ∀ call ∈ entered, call.Ok s.issued) : LeaseInv { s with calls := entered ++ others } := by
  have hflat {f : LeaseCall → List String} (hf : (removed ++ entered).flatMap f = []) :
      (s.calls.flatMap f).Perm ((entered ++ others).flatMap f) := by
    rw [List.flatMap_append, List.append_eq_nil_iff] at hf
    apply flatMap_moved hcalls f []
    rw [hf.1, hf.2]
    rfl
  have hnext := held_perm { s with calls := entered ++ others }
  have hheld := (held_perm s).trans (((hflat hunits).append_left _).trans hnext.symm)
  constructor
  · exact h.standing.perm hheld
  · intro key hkey
    exact h.keys key (hheld.mem_iff.mpr hkey)
  · exact h.table
  · exact h.issued
  · exact calls_ok h hcalls entered (fun _ hmem => hmem) hentered
  · intro leaseId hmem
    exact h.admitted leaseId ((hflat hadmitted).mem_iff.mpr hmem)
  · exact (hflat hadmitted).nodup_iff.mp h.distinct
  · intro leaseId
    rw [← (hflat hids).count_eq leaseId]
    exact h.once leaseId

/-- A step that gives one unit back; `ids` are the leases that it subtracts. -/
theorem LeaseInv.subtract (h : LeaseInv s) (entered : List LeaseCall) (ids : List String) {call : LeaseCall}
    {others : List LeaseCall} (hcalls : s.calls.Perm ([call] ++ others)) {key : String}
    (hunits : call.units = key :: entered.flatMap LeaseCall.units)
    (hids : call.changedIds = ids ++ entered.flatMap LeaseCall.changedIds)
    (hadmitted : ([call] ++ entered).flatMap LeaseCall.admittedIds = [])
    (hentered : ∀ call ∈ entered, call.Ok s.issued) :
    LeaseInv { s with
      store := (s.store.adjustRuntimePolicyCounter key (-1)).1
      calls := entered ++ others
      subtracted := ids ++ s.subtracted } := by
  have hflat : (s.calls.flatMap LeaseCall.units).Perm (key :: (entered ++ others).flatMap LeaseCall.units) := by
    apply flatMap_moved hcalls LeaseCall.units [key]
    simp [hunits]
  have hflatIds : (s.calls.flatMap LeaseCall.changedIds).Perm
      (ids ++ (entered ++ others).flatMap LeaseCall.changedIds) := by
    apply flatMap_moved hcalls LeaseCall.changedIds ids
    simp [hids]
  have hflatAdmitted : (s.calls.flatMap LeaseCall.admittedIds).Perm
      ((entered ++ others).flatMap LeaseCall.admittedIds) := by
    rw [List.flatMap_append, List.append_eq_nil_iff] at hadmitted
    apply flatMap_moved hcalls LeaseCall.admittedIds []
    rw [hadmitted.1, hadmitted.2]
    rfl
  have hnext := held_perm { s with
    store := (s.store.adjustRuntimePolicyCounter key (-1)).1
    calls := entered ++ others
    subtracted := ids ++ s.subtracted }
  have hheld := (held_perm s).trans ((hflat.append_left _).trans (List.perm_middle.trans (hnext.symm.cons key)))
  constructor
  · exact (h.standing.perm hheld).release
  · intro other hother
    exact h.keys other (hheld.mem_iff.mpr (List.mem_cons_of_mem _ hother))
  · exact h.table
  · exact h.issued
  · exact calls_ok h hcalls entered (fun _ hmem => hmem) hentered
  · intro leaseId hmem
    exact h.admitted leaseId (hflatAdmitted.mem_iff.mpr hmem)
  · exact hflatAdmitted.nodup_iff.mp h.distinct
  · intro leaseId
    have honce := h.once leaseId
    rw [hflatIds.count_eq leaseId, List.count_append] at honce
    show (ids ++ s.subtracted).count leaseId + ((entered ++ others).flatMap LeaseCall.changedIds).count leaseId =
      s.store.subtractions leaseId
    rw [List.count_append]
    omega

theorem LeaseInv.enter (h : LeaseInv s) {call : LeaseCall} {key leaseId : String} (hkey : IsReservationKey key)
    (hunits : call.units = [key]) (hids : call.changedIds = [])
    (hadmitted : call.admittedIds = [] ∨ call.admittedIds = [leaseId]) (hok : call.Ok s.issued)
    (hfresh : leaseId ∉ s.drawn) (hroom : (s.held.length : Int) < i64Max) :
    LeaseInv { s with
      store := (s.store.adjustRuntimePolicyCounter key 1).1
      calls := call :: s.calls
      drawn := leaseId :: s.drawn } := by
  have hnext := held_perm { s with
    store := (s.store.adjustRuntimePolicyCounter key 1).1
    calls := call :: s.calls
    drawn := leaseId :: s.drawn }
  simp only [List.flatMap_cons, hunits, List.singleton_append] at hnext
  have hheld := ((held_perm s).cons key).trans (List.perm_middle.symm.trans hnext.symm)
  have hunused : s.store.runtimeBudgetLeases.lookup leaseId = none := by
    cases hlookup : s.store.runtimeBudgetLeases.lookup leaseId with
    | none => rfl
    | some lease => exact absurd (h.table leaseId lease hlookup).2.2 hfresh
  have hmem : ∀ other ∈ call.admittedIds, other = leaseId := by
    intro other hother
    rcases hadmitted with hnone | hone
    · rw [hnone] at hother
      cases hother
    · rw [hone] at hother
      exact List.mem_singleton.mp hother
  constructor
  · exact (h.standing.acquire hkey hroom).perm hheld
  · intro other hother
    rcases List.mem_cons.mp (hheld.mem_iff.mpr hother) with rfl | hold
    · exact hkey
    · exact h.keys other hold
  · intro id lease hlookup
    obtain ⟨hid, hamount, hdrawn⟩ := h.table id lease hlookup
    exact ⟨hid, hamount, List.mem_cons_of_mem _ hdrawn⟩
  · exact h.issued
  · exact List.forall_mem_cons.mpr ⟨hok, h.calls⟩
  · intro other hother
    rw [List.flatMap_cons] at hother
    rcases List.mem_append.mp hother with hnew | hold
    · rw [hmem other hnew]
      exact ⟨List.mem_cons_self, hunused⟩
    · obtain ⟨hdrawn, hnone⟩ := h.admitted other hold
      exact ⟨List.mem_cons_of_mem _ hdrawn, hnone⟩
  · rw [List.flatMap_cons]
    refine List.Nodup.append ?_ h.distinct ?_
    · rcases hadmitted with hnone | hone
      · rw [hnone]
        exact List.nodup_nil
      · rw [hone]
        exact List.nodup_singleton leaseId
    · intro other hnew hold
      rw [hmem other hnew] at hold
      exact hfresh (h.admitted leaseId hold).1
  · intro id
    rw [List.flatMap_cons, hids, List.nil_append]
    exact h.once id

theorem LeaseInv.recordLease (h : LeaseInv s) {lease : RuntimeBudgetLeaseRecord} {others : List LeaseCall}
    (hcalls : s.calls.Perm ([.admitted lease] ++ others)) :
    LeaseInv { s with
      store := s.store.recordRuntimeBudgetLease lease
      calls := others
      issued := ⟨lease.leaseId, lease.counterKey, 1⟩ :: s.issued } := by
  obtain ⟨hstatus, hamount⟩ := h.calls (.admitted lease) (hcalls.mem_iff.mpr (by simp))
  have hflat := hcalls.flatMap_right LeaseCall.admittedIds
  obtain ⟨hdrawn, hnone⟩ := h.admitted lease.leaseId (hflat.mem_iff.mpr (by simp [LeaseCall.admittedIds]))
  have hdistinct := hflat.nodup_iff.mp h.distinct
  rw [List.flatMap_append] at hdistinct hflat
  have hother : ∀ id ∈ others.flatMap LeaseCall.admittedIds, id ≠ lease.leaseId := by
    intro id hid heq
    exact (List.nodup_append.mp hdistinct).2.2 lease.leaseId (by simp [LeaseCall.admittedIds]) id hid heq.symm
  have hunits := hcalls.flatMap_right LeaseCall.units
  have hnext := held_perm { s with
    store := s.store.recordRuntimeBudgetLease lease
    calls := others
    issued := ⟨lease.leaseId, lease.counterKey, 1⟩ :: s.issued }
  simp only [reservedKeys_record hnone hstatus] at hnext
  have hheld := (held_perm s).trans ((hunits.append_left _).trans (List.perm_middle.trans hnext.symm))
  constructor
  · exact h.standing.perm hheld
  · intro key hkey
    exact h.keys key (hheld.mem_iff.mpr hkey)
  · intro id found hlookup
    rcases insert_some hlookup with ⟨rfl, rfl⟩ | ⟨-, hold⟩
    · exact ⟨rfl, hamount, hdrawn⟩
    · exact h.table id found hold
  · intro reservation hmem
    rcases List.mem_cons.mp hmem with rfl | hold
    · exact ⟨rfl, lease, AList.lookup_insert _, rfl⟩
    · obtain ⟨hone, found, hfound, hkey⟩ := h.issued reservation hold
      refine ⟨hone, found, ?_, hkey⟩
      rw [RuntimePolicyStore.record_leases, AList.lookup_insert_ne]
      · exact hfound
      · intro heq
        rw [heq, hnone] at hfound
        cases hfound
  · exact calls_ok h hcalls [] (fun _ hmem => List.mem_cons_of_mem _ hmem) (by simp)
  · intro id hid
    obtain ⟨hiddrawn, hidnone⟩ := h.admitted id (hflat.mem_iff.mpr (List.mem_append_right _ hid))
    refine ⟨hiddrawn, ?_⟩
    rw [RuntimePolicyStore.record_leases, AList.lookup_insert_ne (hother id hid)]
    exact hidnone
  · exact (List.nodup_append.mp hdistinct).2.1
  · intro id
    have honce := h.once id
    rw [(hcalls.flatMap_right LeaseCall.changedIds).count_eq id] at honce
    refine honce.trans ?_
    unfold RuntimePolicyStore.subtractions
    rw [RuntimePolicyStore.record_leases]
    by_cases heq : id = lease.leaseId
    · subst heq
      rw [AList.lookup_insert, hnone]
      simp [hstatus]
    · rw [AList.lookup_insert_ne heq]

theorem releaseRuntimeBudgetLease_some {store changed : RuntimePolicyStore} {leaseId : String}
    {released : RuntimeBudgetLeaseRecord}
    (h : store.releaseRuntimeBudgetLease leaseId = (changed, some released)) :
    ∃ lease, store.runtimeBudgetLeases.lookup leaseId = some lease ∧ lease.status = .reserved ∧
      changed = { store with
        runtimeBudgetLeases := store.runtimeBudgetLeases.insert leaseId { lease with status := .released } } := by
  unfold RuntimePolicyStore.releaseRuntimeBudgetLease at h
  split at h
  · cases h
  · rename_i lease hlookup
    split at h
    · cases h
    · rename_i hstatus
      cases h
      exact ⟨lease, hlookup, not_not.mp hstatus, rfl⟩

theorem releaseRuntimeBudgetLease_none {store changed : RuntimePolicyStore} {leaseId : String}
    (h : store.releaseRuntimeBudgetLease leaseId = (changed, none)) : changed = store := by
  unfold RuntimePolicyStore.releaseRuntimeBudgetLease at h
  split at h
  · cases h
    rfl
  · split at h
    · cases h
      rfl
    · cases h

theorem LeaseInv.releaseLease (h : LeaseInv s) {reservation : RuntimeBudgetReservation}
    {rest : List RuntimeBudgetReservation} {others : List LeaseCall} {store : RuntimePolicyStore}
    {released : RuntimeBudgetLeaseRecord}
    (hcalls : s.calls.Perm ([.releasing (reservation :: rest)] ++ others))
    (hrelease : s.store.releaseRuntimeBudgetLease reservation.leaseId = (store, some released)) :
    LeaseInv { s with store := store, calls := .released reservation rest :: others } := by
  obtain ⟨lease, hlookup, hstatus, hstore⟩ := releaseRuntimeBudgetLease_some hrelease
  have hok : ∀ other ∈ reservation :: rest, other ∈ s.issued :=
    h.calls (.releasing (reservation :: rest)) (hcalls.mem_iff.mpr (by simp))
  obtain ⟨hissued, hrest⟩ := List.forall_mem_cons.mp hok
  obtain ⟨-, found, hfound, hkey⟩ := h.issued reservation hissued
  rw [hlookup, Option.some.injEq] at hfound
  subst hfound
  have hleases : store.runtimeBudgetLeases =
      s.store.runtimeBudgetLeases.insert reservation.leaseId { lease with status := .released } := by rw [hstore]
  have hreserved := reservedKeys_release hlookup hstatus
  rw [hrelease, hkey] at hreserved
  have hnext := held_perm { s with store := store, calls := .released reservation rest :: others }
  have hunits := hcalls.flatMap_right LeaseCall.units
  have hheld : s.held.Perm _ := (held_perm s).trans ((hreserved.append hunits).trans
    (List.perm_middle.symm.trans hnext.symm))
  have hflat := hcalls.flatMap_right LeaseCall.admittedIds
  constructor
  · rw [hstore]
    rw [hstore] at hheld
    exact h.standing.perm hheld
  · intro key hmem
    exact h.keys key (hheld.mem_iff.mpr hmem)
  · intro id found hfound
    rw [hleases] at hfound
    rcases insert_some hfound with ⟨rfl, rfl⟩ | ⟨-, hold⟩
    · exact h.table _ lease hlookup
    · exact h.table id found hold
  · intro other hother
    obtain ⟨hone, found, hfound, hfoundKey⟩ := h.issued other hother
    rw [hleases]
    by_cases heq : other.leaseId = reservation.leaseId
    · rw [heq, hlookup, Option.some.injEq] at hfound
      rw [heq, AList.lookup_insert]
      exact ⟨hone, _, rfl, hfound ▸ hfoundKey⟩
    · rw [AList.lookup_insert_ne heq]
      exact ⟨hone, found, hfound, hfoundKey⟩
  · exact calls_ok h hcalls [.released reservation rest] (fun _ hmem => hmem)
      (List.forall_mem_singleton.mpr ⟨hissued, hrest⟩)
  · intro id hid
    obtain ⟨hdrawn, hnone⟩ := h.admitted id (hflat.mem_iff.mpr hid)
    refine ⟨hdrawn, ?_⟩
    rw [hleases, AList.lookup_insert_ne]
    · exact hnone
    · intro heq
      rw [heq, hlookup] at hnone
      cases hnone
  · exact hflat.nodup_iff.mp h.distinct
  · intro id
    have honce := h.once id
    rw [(hcalls.flatMap_right LeaseCall.changedIds).count_eq id] at honce
    unfold RuntimePolicyStore.subtractions at honce ⊢
    simp only [List.flatMap_cons, LeaseCall.changedIds, LeaseCall.changed, List.map_nil, List.map_cons,
      List.nil_append, List.singleton_append, hleases] at honce ⊢
    by_cases heq : id = reservation.leaseId
    · subst heq
      rw [hlookup] at honce
      rw [AList.lookup_insert, List.count_cons_self]
      simp only [Option.map_some, Option.getD_some, hstatus, if_true] at honce ⊢
      rw [if_neg (by decide)]
      omega
    · rw [AList.lookup_insert_ne heq, List.count_cons_of_ne (Ne.symm heq)]
      exact honce

theorem expireLease_fields (tenantId : String) (now : DateTime) (lease : RuntimeBudgetLeaseRecord) :
    (expireLease tenantId now lease).leaseId = lease.leaseId ∧
      (expireLease tenantId now lease).amount = lease.amount ∧
      (expireLease tenantId now lease).counterKey = lease.counterKey := by
  unfold expireLease
  split <;> exact ⟨rfl, rfl, rfl⟩

/-- The expired leases are those whose subtraction is now due, each once. -/
theorem subtractions_expire {store : RuntimePolicyStore}
    (htable : ∀ leaseId lease, store.runtimeBudgetLeases.lookup leaseId = some lease → lease.leaseId = leaseId)
    (tenantId : String) (now : DateTime) (id : String) :
    (store.expireRuntimeBudgetLeases tenantId now).1.subtractions id = store.subtractions id +
      ((store.expireRuntimeBudgetLeases tenantId now).2.map RuntimeBudgetLeaseRecord.leaseId).count id := by
  have hids : ((store.expireRuntimeBudgetLeases tenantId now).2.map RuntimeBudgetLeaseRecord.leaseId).Perm
      ((store.runtimeBudgetLeases.entries.filter fun entry => leaseExpires tenantId now entry.2).map Sigma.fst) := by
    refine ((sortBy_perm _ _).map _).trans ?_
    rw [List.map_map, List.filter_map, List.map_map]
    refine List.Perm.of_eq (List.map_congr_left fun entry hentry => ?_)
    have hlookup := AList.mem_lookup_iff.mpr (List.mem_of_mem_filter hentry)
    exact (expireLease_fields tenantId now entry.2).1.trans (htable entry.1 entry.2 hlookup)
  rw [hids.count_eq id]
  unfold RuntimePolicyStore.subtractions RuntimePolicyStore.expireRuntimeBudgetLeases
  rw [lookup_mapValues]
  cases hlookup : store.runtimeBudgetLeases.lookup id with
  | none =>
    have hmem : id ∉ (store.runtimeBudgetLeases.entries.filter fun entry =>
        leaseExpires tenantId now entry.2).map Sigma.fst := by
      intro hmem
      obtain ⟨entry, hentry, rfl⟩ := List.mem_map.mp hmem
      have hfound := AList.mem_lookup_iff.mpr (List.mem_of_mem_filter hentry)
      rw [Option.mem_def, hlookup] at hfound
      cases hfound
    rw [List.count_eq_zero.mpr hmem]
    rfl
  | some lease =>
    have hperm := ((entries_perm hlookup).filter fun entry => leaseExpires tenantId now entry.2).map Sigma.fst
    have herased : id ∉ ((store.runtimeBudgetLeases.erase id).entries.filter fun entry =>
        leaseExpires tenantId now entry.2).map Sigma.fst := by
      intro hmem
      obtain ⟨entry, hentry, hid⟩ := List.mem_map.mp hmem
      have hfound := AList.mem_lookup_iff.mpr (List.mem_of_mem_filter hentry)
      rw [Option.mem_def, hid, AList.lookup_erase] at hfound
      cases hfound
    rw [hperm.count_eq id]
    by_cases hexpires : leaseExpires tenantId now lease = true
    · have hreserved : lease.status = .reserved := by
        simp only [leaseExpires, Bool.and_eq_true, beq_iff_eq] at hexpires
        exact hexpires.1.2
      rw [List.filter_cons, if_pos hexpires, List.map_cons, List.count_cons_self, List.count_eq_zero.mpr herased]
      simp [expireLease, hexpires, hreserved]
    · rw [List.filter_cons, if_neg hexpires, List.count_eq_zero.mpr herased]
      simp [expireLease, hexpires]

theorem LeaseInv.expire (h : LeaseInv s) (tenantId : String) (now : DateTime) :
    LeaseInv { s with
      store := (s.store.expireRuntimeBudgetLeases tenantId now).1
      calls := .expiring tenantId now (s.store.expireRuntimeBudgetLeases tenantId now).2 :: s.calls } := by
  have hlookup (id : String) : (s.store.expireRuntimeBudgetLeases tenantId now).1.runtimeBudgetLeases.lookup id =
      (s.store.runtimeBudgetLeases.lookup id).map (expireLease tenantId now) := lookup_mapValues _ _ _
  have hreserved := reservedKeys_expire s.store tenantId now
  have hnext := held_perm { s with
    store := (s.store.expireRuntimeBudgetLeases tenantId now).1
    calls := .expiring tenantId now (s.store.expireRuntimeBudgetLeases tenantId now).2 :: s.calls }
  have hunits : (LeaseCall.expiring tenantId now (s.store.expireRuntimeBudgetLeases tenantId now).2).units =
      (s.store.expireRuntimeBudgetLeases tenantId now).2.map RuntimeBudgetLeaseRecord.counterKey := by
    simp [LeaseCall.units, LeaseCall.incremented, LeaseCall.changed, Function.comp_def]
  simp only [List.flatMap_cons, hunits] at hnext
  have hheld := (held_perm s).trans ((hreserved.append_right _).trans (List.Perm.trans
    (by rw [List.append_assoc]; exact List.perm_append_comm_assoc _ _ _) hnext.symm))
  constructor
  · exact h.standing.perm hheld
  · intro key hmem
    exact h.keys key (hheld.mem_iff.mpr hmem)
  · intro id found hfound
    rw [hlookup] at hfound
    obtain ⟨lease, hlease, rfl⟩ := Option.map_eq_some_iff.mp hfound
    obtain ⟨hid, hamount, -⟩ := expireLease_fields tenantId now lease
    rw [hid, hamount]
    exact h.table id lease hlease
  · intro reservation hmem
    obtain ⟨hone, lease, hlease, hkey⟩ := h.issued reservation hmem
    refine ⟨hone, expireLease tenantId now lease, ?_, (expireLease_fields tenantId now lease).2.2.trans hkey⟩
    rw [hlookup, hlease, Option.map_some]
  · refine List.forall_mem_cons.mpr ⟨?_, h.calls⟩
    intro expired hexpired
    obtain ⟨lease, hlease, rfl⟩ := List.mem_map.mp (mem_sortBy.mp hexpired)
    obtain ⟨entry, hentry, rfl⟩ := List.mem_map.mp (List.mem_of_mem_filter hlease)
    rw [(expireLease_fields tenantId now entry.2).2.1]
    exact (h.table entry.1 entry.2 (AList.mem_lookup_iff.mpr hentry)).2.1
  · intro id hid
    obtain ⟨hdrawn, hnone⟩ := h.admitted id hid
    refine ⟨hdrawn, ?_⟩
    rw [hlookup, hnone, Option.map_none]
  · exact h.distinct
  · intro id
    have htable := subtractions_expire (fun leaseId lease hlease => (h.table leaseId lease hlease).1) tenantId now id
    have hids : (LeaseCall.expiring tenantId now (s.store.expireRuntimeBudgetLeases tenantId now).2).changedIds =
        (s.store.expireRuntimeBudgetLeases tenantId now).2.map RuntimeBudgetLeaseRecord.leaseId := by
      simp [LeaseCall.changedIds, LeaseCall.changed, Function.comp_def]
    have honce := h.once id
    rw [List.flatMap_cons, List.count_append, hids]
    show s.subtracted.count id + _ = (s.store.expireRuntimeBudgetLeases tenantId now).1.subtractions id
    omega

theorem LeaseInv.repairAdjust (h : LeaseInv s) {counterKey : String} {delta : Int} {rest : List (String × Int)}
    {others : List LeaseCall} (hcalls : s.calls.Perm ([.repairRead counterKey delta rest] ++ others)) :
    LeaseInv { s with
      store := (s.store.adjustRuntimePolicyCounter counterKey delta).1
      calls := .repairing rest :: others } := by
  obtain ⟨hkey, hrest⟩ := h.calls (.repairRead counterKey delta rest) (hcalls.mem_iff.mpr (by simp))
  have hmoved := h.exchange [.repairRead counterKey delta rest] [.repairing rest] hcalls rfl rfl rfl
    (List.forall_mem_singleton.mpr hrest)
  exact ⟨hmoved.standing.adjust_quota hmoved.keys hkey delta, hmoved.keys, hmoved.table, hmoved.issued, hmoved.calls,
    hmoved.admitted, hmoved.distinct, hmoved.once⟩

theorem repairTargets_quota {quotaPolicies : List QuotaPolicyRecord} {usageEvents : List MeasuredUsageEvent}
    {tenantId : String} {now : DateTime} {target : String × Int}
    (h : target ∈ repairTargets quotaPolicies usageEvents tenantId now) : IsQuotaKey target.1 := by
  obtain ⟨policy, -, rfl⟩ := List.mem_map.mp (List.mem_of_mem_filter h)
  exact ⟨policy, now, rfl⟩

theorem leaseStep_inv (h : LeaseInv s) {action : LeaseAction} (hstep : leaseStep s action = some next) :
    LeaseInv next := by
  cases action with
  | increment policy requestId current limit now leaseId =>
    simp only [leaseStep] at hstep
    split at hstep
    · cases hstep
    rename_i hguard
    obtain ⟨hfresh, hroom⟩ := not_or.mp hguard
    split at hstep
    · cases hstep
      exact h
    have hkey : IsReservationKey (runtimeBudgetReservationKey policy now) := ⟨policy, now, rfl⟩
    split at hstep
    · cases hstep
      exact h.enter hkey rfl rfl (.inl rfl) trivial hfresh (by omega)
    · cases hstep
      exact h.enter hkey rfl rfl (.inr rfl) ⟨rfl, rfl⟩ hfresh (by omega)
  | compensate counterKey =>
    obtain ⟨others, hcalls, rfl⟩ := moved_cases hstep
    exact h.subtract [] [] hcalls rfl rfl rfl (by simp)
  | recordLease lease =>
    obtain ⟨moved, hmove, rfl⟩ := Option.map_eq_some_iff.mp hstep
    obtain ⟨others, hcalls, rfl⟩ := moved_cases hmove
    exact h.recordLease hcalls
  | release reservations =>
    simp only [leaseStep] at hstep
    split at hstep
    · rename_i hissued
      cases hstep
      exact h.exchange [] [.releasing reservations] (.refl _) rfl rfl rfl
        (List.forall_mem_singleton.mpr hissued)
    · cases hstep
  | releaseLease reservation rest =>
    simp only [leaseStep] at hstep
    split at hstep
    · rename_i store released hrelease
      obtain ⟨others, hcalls, rfl⟩ := moved_cases hstep
      exact h.releaseLease hcalls hrelease
    · rename_i store hrelease
      obtain ⟨others, hcalls, rfl⟩ := moved_cases hstep
      have hok : ∀ other ∈ reservation :: rest, other ∈ s.issued :=
        h.calls (.releasing (reservation :: rest)) (hcalls.mem_iff.mpr (by simp))
      rw [releaseRuntimeBudgetLease_none hrelease]
      exact h.exchange [.releasing (reservation :: rest)] [.releasing rest] hcalls
        rfl rfl rfl (List.forall_mem_singleton.mpr (List.forall_mem_cons.mp hok).2)
  | releaseAdjust reservation rest =>
    obtain ⟨moved, hmove, rfl⟩ := Option.map_eq_some_iff.mp hstep
    obtain ⟨others, hcalls, rfl⟩ := moved_cases hmove
    obtain ⟨hissued, hrest⟩ := h.calls (.released reservation rest) (hcalls.mem_iff.mpr (by simp))
    rw [(h.issued reservation hissued).1]
    exact h.subtract [.releasing rest] [reservation.leaseId] hcalls rfl rfl rfl
      (List.forall_mem_singleton.mpr hrest)
  | releaseDone =>
    obtain ⟨others, hcalls, rfl⟩ := moved_cases hstep
    exact h.exchange [.releasing []] [] hcalls rfl rfl rfl (by simp)
  | expire tenantId now =>
    simp only [leaseStep] at hstep
    split at hstep
    · cases hstep
      exact h
    · cases hstep
      exact h.expire tenantId now
  | expireAdjust tenantId now lease rest =>
    obtain ⟨moved, hmove, rfl⟩ := Option.map_eq_some_iff.mp hstep
    obtain ⟨others, hcalls, rfl⟩ := moved_cases hmove
    have hok : ∀ other ∈ lease :: rest, other.amount = 1 :=
      h.calls (.expiring tenantId now (lease :: rest)) (hcalls.mem_iff.mpr (by simp))
    obtain ⟨hamount, hrest⟩ := List.forall_mem_cons.mp hok
    rw [hamount]
    exact h.subtract [.expiring tenantId now rest] [lease.leaseId] hcalls
      (by simp [LeaseCall.units, LeaseCall.incremented, LeaseCall.changed])
      (by simp [LeaseCall.changedIds, LeaseCall.changed]) rfl (List.forall_mem_singleton.mpr hrest)
  | readUsage quotaPolicies usageEvents tenantId now =>
    obtain ⟨others, hcalls, rfl⟩ := moved_cases hstep
    exact h.exchange [.expiring tenantId now []]
      [.repairing (repairTargets quotaPolicies usageEvents tenantId now)] hcalls rfl rfl rfl
      (List.forall_mem_singleton.mpr fun target hmem => repairTargets_quota hmem)
  | repairRead counterKey durable rest =>
    have hrest {others : List LeaseCall}
        (hcalls : s.calls.Perm ([.repairing ((counterKey, durable) :: rest)] ++ others)) :
        IsQuotaKey counterKey ∧ ∀ target ∈ rest, IsQuotaKey target.1 := by
      have hok : ∀ target ∈ (counterKey, durable) :: rest, IsQuotaKey target.1 :=
        h.calls (.repairing ((counterKey, durable) :: rest)) (hcalls.mem_iff.mpr (by simp))
      exact List.forall_mem_cons.mp hok
    simp only [leaseStep] at hstep
    split at hstep
    · obtain ⟨others, hcalls, rfl⟩ := moved_cases hstep
      exact h.exchange [.repairing ((counterKey, durable) :: rest)] [.repairing rest]
        hcalls rfl rfl rfl (List.forall_mem_singleton.mpr (hrest hcalls).2)
    · obtain ⟨others, hcalls, rfl⟩ := moved_cases hstep
      exact h.exchange [.repairing ((counterKey, durable) :: rest)] [.repairRead _ _ _]
        hcalls rfl rfl rfl (List.forall_mem_singleton.mpr (hrest hcalls))
  | repairAdjust counterKey delta rest =>
    obtain ⟨others, hcalls, rfl⟩ := moved_cases hstep
    exact h.repairAdjust hcalls
  | repairDone =>
    obtain ⟨others, hcalls, rfl⟩ := moved_cases hstep
    exact h.exchange [.repairing []] [] hcalls rfl rfl rfl (by simp)

end Invariant

section Progress

def RuntimePolicyStore.LeaseOff (store : RuntimePolicyStore) (leaseId : String) : Prop :=
  ∃ lease, store.runtimeBudgetLeases.lookup leaseId = some lease ∧ lease.status ≠ .reserved

/-- No step puts a lease back, and a release drops a reservation only with its lease off. -/
structure LeaseProgress (s next : LeaseRuntime) : Prop where
  available : next.store.runtimePolicyHotStateAvailable = s.store.runtimePolicyHotStateAvailable
  off : ∀ leaseId, s.store.LeaseOff leaseId → next.store.LeaseOff leaseId
  awaiting : ∀ reservation ∈ s.awaiting, reservation ∈ next.awaiting ∨ next.store.LeaseOff reservation.leaseId

variable {s next : LeaseRuntime}

theorem LeaseProgress.refl (s : LeaseRuntime) : LeaseProgress s s := ⟨rfl, fun _ h => h, fun _ hmem => .inl hmem⟩

theorem LeaseProgress.trans {t u : LeaseRuntime} (h : LeaseProgress s t) (h' : LeaseProgress t u) :
    LeaseProgress s u := by
  refine ⟨h'.available.trans h.available, fun leaseId hoff => h'.off leaseId (h.off leaseId hoff), ?_⟩
  intro reservation hmem
  rcases h.awaiting reservation hmem with hawaiting | hoff
  · exact h'.awaiting reservation hawaiting
  · exact .inr (h'.off _ hoff)

/-- One call moves on: what it no longer awaits is off. -/
theorem LeaseProgress.moved {call : LeaseCall} {entered others : List LeaseCall}
    (hcalls : s.calls.Perm ([call] ++ others)) (hnext : next.calls = entered ++ others)
    (havailable : next.store.runtimePolicyHotStateAvailable = s.store.runtimePolicyHotStateAvailable)
    (hoff : ∀ leaseId, s.store.LeaseOff leaseId → next.store.LeaseOff leaseId)
    (hawaiting : ∀ reservation ∈ call.awaiting,
      reservation ∈ entered.flatMap LeaseCall.awaiting ∨ next.store.LeaseOff reservation.leaseId) :
    LeaseProgress s next := by
  refine ⟨havailable, hoff, fun reservation hmem => ?_⟩
  have hflat := (hcalls.flatMap_right LeaseCall.awaiting).mem_iff.mp hmem
  unfold LeaseRuntime.awaiting
  rw [hnext, List.flatMap_append, List.mem_append]
  rw [List.flatMap_append, List.flatMap_singleton, List.mem_append] at hflat
  rcases hflat with hcall | hother
  · exact (hawaiting reservation hcall).imp_left .inl
  · exact .inl (.inr hother)

theorem leaseOff_insert {store : RuntimePolicyStore} {leaseId id : String} {lease : RuntimeBudgetLeaseRecord}
    (hlease : store.LeaseOff leaseId → lease.status ≠ .reserved) (h : store.LeaseOff id) :
    { store with runtimeBudgetLeases := store.runtimeBudgetLeases.insert leaseId lease : RuntimePolicyStore }.LeaseOff
      id := by
  obtain ⟨found, hfound, hstatus⟩ := h
  by_cases heq : id = leaseId
  · subst heq
    exact ⟨lease, AList.lookup_insert _, hlease ⟨found, hfound, hstatus⟩⟩
  · exact ⟨found, (AList.lookup_insert_ne heq).trans hfound, hstatus⟩

theorem leaseOff_expire {store : RuntimePolicyStore} {id : String} (tenantId : String) (now : DateTime)
    (h : store.LeaseOff id) : (store.expireRuntimeBudgetLeases tenantId now).1.LeaseOff id := by
  obtain ⟨lease, hlookup, hstatus⟩ := h
  have hkept : expireLease tenantId now lease = lease := by
    apply if_neg
    simp [leaseExpires, hstatus]
  refine ⟨lease, ?_, hstatus⟩
  unfold RuntimePolicyStore.expireRuntimeBudgetLeases
  rw [lookup_mapValues, hlookup, Option.map_some, hkept]

/-- An expiry takes every lease of its tenant off whose time is up. -/
theorem leaseOff_expired {store : RuntimePolicyStore} {id tenantId : String} {now : DateTime}
    {lease : RuntimeBudgetLeaseRecord} (hlookup : store.runtimeBudgetLeases.lookup id = some lease)
    (htenant : lease.tenantId = tenantId) (hdue : lease.expiresAt ≤ now) :
    (store.expireRuntimeBudgetLeases tenantId now).1.LeaseOff id := by
  refine ⟨expireLease tenantId now lease, ?_, ?_⟩
  · unfold RuntimePolicyStore.expireRuntimeBudgetLeases
    rw [lookup_mapValues, hlookup, Option.map_some]
  · unfold expireLease leaseExpires
    by_cases hreserved : lease.status = .reserved
    · simp [htenant, hdue, hreserved]
    · simp [hreserved]

/-- After its release a lease is off, whether this release or an earlier step took it off. -/
theorem leaseOff_release {store : RuntimePolicyStore} {leaseId : String}
    (hlease : ∃ lease, store.runtimeBudgetLeases.lookup leaseId = some lease) :
    (store.releaseRuntimeBudgetLease leaseId).1.LeaseOff leaseId := by
  obtain ⟨lease, hlookup⟩ := hlease
  unfold RuntimePolicyStore.releaseRuntimeBudgetLease
  rw [hlookup]
  dsimp only
  split
  · rename_i hstatus
    exact ⟨lease, hlookup, hstatus⟩
  · exact ⟨_, AList.lookup_insert _, nofun⟩

theorem leaseOff_releaseOther {store : RuntimePolicyStore} {id : String} (leaseId : String) (h : store.LeaseOff id) :
    (store.releaseRuntimeBudgetLease leaseId).1.LeaseOff id := by
  unfold RuntimePolicyStore.releaseRuntimeBudgetLease
  split
  · exact h
  · split
    · exact h
    · exact leaseOff_insert (fun _ => nofun) h

theorem release_available (store : RuntimePolicyStore) (leaseId : String) :
    (store.releaseRuntimeBudgetLease leaseId).1.runtimePolicyHotStateAvailable =
      store.runtimePolicyHotStateAvailable := by
  unfold RuntimePolicyStore.releaseRuntimeBudgetLease
  split
  · rfl
  · split <;> rfl

theorem LeaseInv.released_off (h : LeaseInv s) {reservation : RuntimeBudgetReservation}
    {rest : List RuntimeBudgetReservation} {others : List LeaseCall}
    (hcalls : s.calls.Perm ([.releasing (reservation :: rest)] ++ others)) :
    (s.store.releaseRuntimeBudgetLease reservation.leaseId).1.LeaseOff reservation.leaseId := by
  have hissued : ∀ other ∈ reservation :: rest, other ∈ s.issued :=
    h.calls (.releasing (reservation :: rest)) (mem_of_moved hcalls)
  obtain ⟨-, lease, hlookup, -⟩ := h.issued reservation (hissued reservation List.mem_cons_self)
  exact leaseOff_release ⟨lease, hlookup⟩

theorem leaseStep_release (h : LeaseInv s) {reservation : RuntimeBudgetReservation}
    {rest : List RuntimeBudgetReservation} (hstep : leaseStep s (.releaseLease reservation rest) = some next) :
    LeaseProgress s next ∧ next.store.LeaseOff reservation.leaseId := by
  simp only [leaseStep] at hstep
  have hother {id : String} (hoff : s.store.LeaseOff id) := leaseOff_releaseOther reservation.leaseId hoff
  have havailable := release_available s.store reservation.leaseId
  split at hstep
  · rename_i store released hrelease
    obtain ⟨others, hcalls, rfl⟩ := moved_cases hstep
    have hoff := h.released_off hcalls
    rw [hrelease] at hoff hother havailable
    refine ⟨.moved hcalls rfl havailable (fun _ => hother) fun other hmem => ?_, hoff⟩
    rcases List.mem_cons.mp hmem with rfl | hrest
    · exact .inr hoff
    · exact .inl (by simpa [LeaseCall.awaiting] using hrest)
  · rename_i store hrelease
    obtain ⟨others, hcalls, rfl⟩ := moved_cases hstep
    have hoff := h.released_off hcalls
    rw [hrelease] at hoff hother havailable
    refine ⟨.moved hcalls rfl havailable (fun _ => hother) fun other hmem => ?_, hoff⟩
    rcases List.mem_cons.mp hmem with rfl | hrest
    · exact .inr hoff
    · exact .inl (by simpa [LeaseCall.awaiting] using hrest)

theorem leaseStep_progress (h : LeaseInv s) {action : LeaseAction} (hstep : leaseStep s action = some next) :
    LeaseProgress s next := by
  cases action with
  | increment policy requestId current limit now leaseId =>
    simp only [leaseStep] at hstep
    split at hstep
    · cases hstep
    split at hstep
    · cases hstep
      exact .refl s
    cases hstep
    refine ⟨rfl, fun _ hoff => hoff, fun reservation hmem => .inl ?_⟩
    exact List.mem_append_right _ hmem
  | compensate counterKey =>
    obtain ⟨others, hcalls, rfl⟩ := moved_cases hstep
    exact .moved hcalls rfl rfl (fun _ hoff => hoff) (by simp [LeaseCall.awaiting])
  | recordLease lease =>
    obtain ⟨moved, hmove, rfl⟩ := Option.map_eq_some_iff.mp hstep
    obtain ⟨others, hcalls, rfl⟩ := moved_cases hmove
    have hadmitted : lease.leaseId ∈ s.calls.flatMap LeaseCall.admittedIds :=
      List.mem_flatMap.mpr ⟨.admitted lease, mem_of_moved hcalls, List.mem_singleton_self _⟩
    obtain ⟨-, hnone⟩ := h.admitted lease.leaseId hadmitted
    refine .moved hcalls rfl rfl (fun id hoff => leaseOff_insert ?_ hoff) (by simp [LeaseCall.awaiting])
    rintro ⟨found, hfound, -⟩
    rw [hnone] at hfound
    cases hfound
  | release reservations =>
    simp only [leaseStep] at hstep
    split at hstep
    · cases hstep
      refine ⟨rfl, fun _ hoff => hoff, fun reservation hmem => .inl ?_⟩
      exact List.mem_append_right _ hmem
    · cases hstep
  | releaseLease reservation rest => exact (leaseStep_release h hstep).1
  | releaseAdjust reservation rest =>
    obtain ⟨moved, hmove, rfl⟩ := Option.map_eq_some_iff.mp hstep
    obtain ⟨others, hcalls, rfl⟩ := moved_cases hmove
    refine .moved hcalls rfl rfl (fun _ hoff => hoff) fun other hmem => .inl ?_
    simpa [LeaseCall.awaiting] using hmem
  | releaseDone =>
    obtain ⟨others, hcalls, rfl⟩ := moved_cases hstep
    exact .moved hcalls rfl rfl (fun _ hoff => hoff) (by simp [LeaseCall.awaiting])
  | expire tenantId now =>
    simp only [leaseStep] at hstep
    split at hstep
    · cases hstep
      exact .refl s
    · cases hstep
      exact ⟨rfl, fun _ => leaseOff_expire tenantId now, fun _ hmem => .inl hmem⟩
  | expireAdjust tenantId now lease rest =>
    obtain ⟨moved, hmove, rfl⟩ := Option.map_eq_some_iff.mp hstep
    obtain ⟨others, hcalls, rfl⟩ := moved_cases hmove
    exact .moved hcalls rfl rfl (fun _ hoff => hoff) (by simp [LeaseCall.awaiting])
  | readUsage quotaPolicies usageEvents tenantId now =>
    obtain ⟨others, hcalls, rfl⟩ := moved_cases hstep
    exact .moved hcalls rfl rfl (fun _ hoff => hoff) (by simp [LeaseCall.awaiting])
  | repairRead counterKey durable rest =>
    simp only [leaseStep] at hstep
    split at hstep
    · obtain ⟨others, hcalls, rfl⟩ := moved_cases hstep
      exact .moved hcalls rfl rfl (fun _ hoff => hoff) (by simp [LeaseCall.awaiting])
    · obtain ⟨others, hcalls, rfl⟩ := moved_cases hstep
      exact .moved hcalls rfl rfl (fun _ hoff => hoff) (by simp [LeaseCall.awaiting])
  | repairAdjust counterKey delta rest =>
    obtain ⟨others, hcalls, rfl⟩ := moved_cases hstep
    exact .moved hcalls rfl rfl (fun _ hoff => hoff) (by simp [LeaseCall.awaiting])
  | repairDone =>
    obtain ⟨others, hcalls, rfl⟩ := moved_cases hstep
    exact .moved hcalls rfl rfl (fun _ hoff => hoff) (by simp [LeaseCall.awaiting])

theorem leaseRun_progress (h : LeaseInv s) {actions : List LeaseAction} (hrun : run leaseStep s actions = some next) :
    LeaseInv next ∧ LeaseProgress s next :=
  run_relates LeaseProgress.refl (fun h h' => h.trans h')
    (fun _ _ _ hs _ hstep => ⟨leaseStep_inv hs hstep, leaseStep_progress hs hstep⟩) h (meets_true s actions) hrun

end Progress

section Runs

/-- The steps of a reservation that nothing interrupts are the reservation. -/
theorem reserveRuntimeRequestBudget_leaseRun (input : PreflightInput) (policy : BudgetPolicyRecord) (current limit : Int)
    {leaseId : String} {s : LeaseRuntime} (hfresh : leaseId ∉ s.drawn) (hroom : (s.held.length : Int) < i64Max)
    (havailable : s.store.runtimePolicyHotStateAvailable = true) :
    match reserveRuntimeRequestBudget input policy current limit leaseId s.store with
    | (.ok reservation, store) => run leaseStep s
        [.increment policy input.actor.requestId current limit input.now leaseId,
          .recordLease (requestBudgetLease input policy leaseId)] =
        some { s with store := store, drawn := leaseId :: s.drawn, issued := reservation :: s.issued }
    | (.error _, store) => run leaseStep s
        [.increment policy input.actor.requestId current limit input.now leaseId,
          .compensate (runtimeBudgetReservationKey policy input.now)] =
        some { s with store := store, drawn := leaseId :: s.drawn } := by
  have hguard : ¬ (leaseId ∈ s.drawn ∨ i64Max ≤ (s.held.length : Int)) := by
    rintro (hdrawn | hfull)
    · exact hfresh hdrawn
    · omega
  unfold reserveRuntimeRequestBudget
  by_cases hover : limit < saturatingAdd current
      (s.store.adjustRuntimePolicyCounter (runtimeBudgetReservationKey policy input.now) 1).2
  · simp only [havailable, Bool.not_true, Bool.false_eq_true, if_false, if_pos hover]
    simp only [run, leaseStep, LeaseRuntime.move, resume, if_neg hguard, havailable, Bool.not_true, Bool.false_eq_true,
      if_false, if_pos hover, Option.bind_some, List.mem_cons_self, if_true, List.erase_cons_head, List.nil_append,
      Option.map_some]
  · simp only [havailable, Bool.not_true, Bool.false_eq_true, if_false, if_neg hover]
    simp only [run, leaseStep, LeaseRuntime.move, resume, if_neg hguard, havailable, Bool.not_true, Bool.false_eq_true,
      if_false, if_neg hover, Option.bind_some, requestBudgetLease, List.mem_cons_self, if_true,
      List.erase_cons_head, List.nil_append, Option.map_some, budgetLease]

theorem releaseRuntimeBudgetReservations_leaseRun (reservations : List RuntimeBudgetReservation) (s : LeaseRuntime) :
    ∃ actions subtracted, run leaseStep { s with calls := .releasing reservations :: s.calls } actions =
      some { s with
        store := releaseRuntimeBudgetReservations s.store reservations
        subtracted := subtracted } := by
  induction reservations generalizing s with
  | nil => exact ⟨[.releaseDone], s.subtracted, by simp [run, leaseStep, LeaseRuntime.move, resume,
      releaseRuntimeBudgetReservations]⟩
  | cons reservation rest ih =>
    cases hrelease : s.store.releaseRuntimeBudgetLease reservation.leaseId with
    | mk store result =>
      cases result with
      | none =>
        obtain ⟨actions, subtracted, hrun⟩ := ih { s with store := store }
        refine ⟨.releaseLease reservation rest :: actions, subtracted, ?_⟩
        simpa [run, leaseStep, LeaseRuntime.move, resume, hrelease, releaseRuntimeBudgetReservations] using hrun
      | some released =>
        obtain ⟨actions, subtracted, hrun⟩ := ih { s with
          store := (store.adjustRuntimePolicyCounter reservation.counterKey (-reservation.amount)).1
          subtracted := reservation.leaseId :: s.subtracted }
        refine ⟨.releaseLease reservation rest :: .releaseAdjust reservation rest :: actions, subtracted, ?_⟩
        simpa [run, leaseStep, LeaseRuntime.move, resume, hrelease, releaseRuntimeBudgetReservations] using hrun

end Runs

/-- Every reservation counter stands for its reserved leases and for the calls in between, and a lease that is no
longer reserved is subtracted once: by now, or by the call that changed it. -/
structure LeasesInStep (s : LeaseRuntime) : Prop where
  counter : ∀ policy now, s.store.runtimePolicyCounter (runtimeBudgetReservationKey policy now) =
    s.store.reservedKeys.count (runtimeBudgetReservationKey policy now) +
      s.incremented.count (runtimeBudgetReservationKey policy now) +
      (s.changed.map Prod.snd).count (runtimeBudgetReservationKey policy now)
  idle : s.calls = [] → ∀ policy now, runtimeBudgetReservationKey policy now ∉ s.store.reservedKeys →
    s.store.runtimePolicyCounter (runtimeBudgetReservationKey policy now) = 0
  once : ∀ leaseId lease, s.store.runtimeBudgetLeases.lookup leaseId = some lease →
    s.subtracted.count leaseId + (s.changed.map Prod.fst).count leaseId = if lease.status = .reserved then 0 else 1

theorem leaseInv_empty : LeaseInv .empty := by
  refine ⟨⟨∅, Holding.none _, fun key _ => rfl⟩, ?_, ?_, ?_, ?_, ?_, List.nodup_nil, fun leaseId => rfl⟩
  · intro key hkey
    cases hkey
  · intro leaseId lease hlookup
    cases hlookup
  · intro reservation hmem
    cases hmem
  · intro call hcall
    cases hcall
  · intro leaseId hmem
    cases hmem

theorem LeaseInv.inStep {s : LeaseRuntime} (h : LeaseInv s) : LeasesInStep s := by
  have hcounter : ∀ policy now, s.store.runtimePolicyCounter (runtimeBudgetReservationKey policy now) =
      s.store.reservedKeys.count (runtimeBudgetReservationKey policy now) +
        s.incremented.count (runtimeBudgetReservationKey policy now) +
        (s.changed.map Prod.snd).count (runtimeBudgetReservationKey policy now) := by
    intro policy now
    have hvalue := h.standing.value_eq ⟨policy, now, rfl⟩
    unfold LeaseRuntime.held at hvalue
    rw [List.count_append, List.count_append] at hvalue
    exact_mod_cast hvalue
  refine ⟨hcounter, ?_, ?_⟩
  · intro hcalls policy now hreserved
    rw [hcounter, List.count_eq_zero.mpr hreserved]
    simp [LeaseRuntime.incremented, LeaseRuntime.changed, hcalls]
  · intro leaseId lease hlookup
    have honce := h.once leaseId
    have hids : s.changed.map Prod.fst = s.calls.flatMap LeaseCall.changedIds := List.map_flatMap
    rw [hids, honce, RuntimePolicyStore.subtractions, hlookup]
    rfl

/-- The lease is no longer reserved and is subtracted once: by now, or by the call that took it off. -/
def LeaseRuntime.TakenOff (s : LeaseRuntime) (leaseId : String) : Prop :=
  s.store.LeaseOff leaseId ∧ s.subtracted.count leaseId + (s.changed.map Prod.fst).count leaseId = 1

/-- What the releases and expiries of a run have done by its end. -/
structure LeasesTakenOff (actions : List LeaseAction) (final : LeaseRuntime) : Prop where
  released : ∀ reservation rest, .releaseLease reservation rest ∈ actions → final.TakenOff reservation.leaseId
  completed : ∀ reservations, .release reservations ∈ actions → ∀ reservation ∈ reservations,
    reservation ∈ final.awaiting ∨ final.TakenOff reservation.leaseId
  expired : ∀ before after tenantId now, actions = before ++ .expire tenantId now :: after →
    ∀ s, run leaseStep .empty before = some s → ∀ leaseId lease,
      s.store.runtimeBudgetLeases.lookup leaseId = some lease → lease.tenantId = tenantId → lease.expiresAt ≤ now →
        final.TakenOff leaseId

theorem LeaseInv.takenOff {s : LeaseRuntime} (h : LeaseInv s) {leaseId : String} (hoff : s.store.LeaseOff leaseId) :
    s.TakenOff leaseId := by
  obtain ⟨lease, hlookup, hstatus⟩ := hoff
  refine ⟨⟨lease, hlookup, hstatus⟩, ?_⟩
  rw [h.inStep.once leaseId lease hlookup, if_neg hstatus]

/-- The states around a step of a run from the empty store, and what the run keeps from there on. -/
theorem leaseRun_around {before after : List LeaseAction} {action : LeaseAction} {final : LeaseRuntime}
    (hrun : run leaseStep .empty (before ++ action :: after) = some final) :
    ∃ s next, run leaseStep .empty before = some s ∧ LeaseInv s ∧ LeaseProgress .empty s ∧
      leaseStep s action = some next ∧ LeaseInv final ∧ LeaseProgress next final := by
  obtain ⟨s, hbefore, hafter⟩ := run_append_cases hrun
  obtain ⟨next, hstep, hrest⟩ := run_cons hafter
  obtain ⟨hinv, hprogress⟩ := leaseRun_progress leaseInv_empty hbefore
  obtain ⟨hfinal, hkept⟩ := leaseRun_progress (leaseStep_inv hinv hstep) hrest
  exact ⟨s, next, hbefore, hinv, hprogress, hstep, hfinal, hkept⟩

theorem leasesTakenOff (actions : List LeaseAction) {final : LeaseRuntime}
    (hrun : run leaseStep .empty actions = some final) : LeasesTakenOff actions final := by
  constructor
  · intro reservation rest hmem
    obtain ⟨before, after, rfl⟩ := List.append_of_mem hmem
    obtain ⟨s, next, -, hinv, -, hstep, hfinal, hkept⟩ := leaseRun_around hrun
    exact hfinal.takenOff (hkept.off _ (leaseStep_release hinv hstep).2)
  · intro reservations hmem reservation hreservation
    obtain ⟨before, after, rfl⟩ := List.append_of_mem hmem
    obtain ⟨s, next, -, -, -, hstep, hfinal, hkept⟩ := leaseRun_around hrun
    simp only [leaseStep] at hstep
    split at hstep
    · cases hstep
      have hawaiting := hkept.awaiting reservation (List.mem_append_left _ hreservation)
      exact hawaiting.imp_right hfinal.takenOff
    · cases hstep
  · intro before after tenantId now hactions s hbefore leaseId lease hlookup htenant hdue
    subst hactions
    obtain ⟨s', next, hbefore', -, hprogress, hstep, hfinal, hkept⟩ := leaseRun_around hrun
    rw [hbefore, Option.some.injEq] at hbefore'
    subst hbefore'
    have havailable : s.store.runtimePolicyHotStateAvailable = true := hprogress.available
    simp only [leaseStep, havailable, Bool.not_true, Bool.false_eq_true, if_false, Option.some.injEq] at hstep
    subst hstep
    exact hfinal.takenOff (hkept.off _ (leaseOff_expired hlookup htenant hdue))

/-- The counters stay in step over every run, and a release or an expiry takes its leases off, each once. -/
theorem leases_in_step (actions : List LeaseAction) {final : LeaseRuntime}
    (hrun : run leaseStep .empty actions = some final) : LeasesInStep final ∧ LeasesTakenOff actions final :=
  ⟨(run_invariant_always (fun _ _ _ h hstep => leaseStep_inv h hstep) leaseInv_empty hrun).inStep,
    leasesTakenOff actions hrun⟩

def sampleLease : RuntimeBudgetLeaseRecord := budgetLease (requestBudget "bdg_1" 2) "req_1" ⟨0⟩ "bls_1"

/-- The lease expires while its release is under way. -/
def releasedAndExpired : List LeaseAction :=
  [.increment (requestBudget "bdg_1" 2) "req_1" 0 2 ⟨0⟩ "bls_1", .recordLease sampleLease,
    .release [⟨"bls_1", sampleLease.counterKey, 1⟩], .expire "tenant_1" ⟨300000000000⟩,
    .releaseLease ⟨"bls_1", sampleLease.counterKey, 1⟩ [],
    .expireAdjust "tenant_1" ⟨300000000000⟩ { sampleLease with status := .expired } [], .releaseDone,
    .readUsage [] [] "tenant_1" ⟨300000000000⟩, .repairDone]

theorem releasedAndExpired_in_step :
    ∃ final, run leaseStep .empty releasedAndExpired = some final ∧
      (LeasesInStep final ∧ LeasesTakenOff releasedAndExpired final) ∧ final.calls = [] ∧
      final.subtracted = ["bls_1"] ∧
      final.store.runtimeBudgetLeases.lookup "bls_1" = some { sampleLease with status := .expired } :=
  ⟨_, rfl, leases_in_step releasedAndExpired rfl, rfl, rfl, rfl⟩

end Starweaver.Gateway
