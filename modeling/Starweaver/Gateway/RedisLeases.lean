import Starweaver.Library.Interleaving
import Starweaver.Library.Machine
import Starweaver.Gateway.Reconciler

namespace Starweaver.Gateway

open Library.AssocMap Library.Calendar Library.Interleaving Library.Machine

/-- What Redis holds of the leases: the string under each lease key and the hash of each tenant. -/
structure RedisLeaseStore where
  leaseKeys : AList (fun _ : String => RuntimeBudgetLeaseRecord)
  tenantHashes : AList (fun _ : String => AList (fun _ : String => RuntimeBudgetLeaseRecord))

namespace RedisLeaseStore

def empty : RedisLeaseStore := ⟨∅, ∅⟩

variable (store : RedisLeaseStore)

def get (leaseId : String) : Option RuntimeBudgetLeaseRecord := store.leaseKeys.lookup leaseId

def hash (tenantId : String) : AList (fun _ : String => RuntimeBudgetLeaseRecord) :=
  (store.tenantHashes.lookup tenantId).getD ∅

def hvals (tenantId : String) : List RuntimeBudgetLeaseRecord := (store.hash tenantId).entries.map Sigma.snd

def set (record : RuntimeBudgetLeaseRecord) : RedisLeaseStore :=
  { store with leaseKeys := store.leaseKeys.insert record.leaseId record }

def hset (record : RuntimeBudgetLeaseRecord) : RedisLeaseStore :=
  { store with
    tenantHashes := store.tenantHashes.insert record.tenantId
      ((store.hash record.tenantId).insert record.leaseId record) }

def writeBudgetLease (record : RuntimeBudgetLeaseRecord) : RedisLeaseStore := (store.set record).hset record

def recorded (records : List RuntimeBudgetLeaseRecord) : RedisLeaseStore := records.foldl writeBudgetLease empty

end RedisLeaseStore

/-- A call that has leases to write: those to come, the one whose key is set and whose hash is not, and those it
returns when it is done. -/
structure LeaseWriter where
  waiting : List RuntimeBudgetLeaseRecord
  written : Option RuntimeBudgetLeaseRecord
  done : List RuntimeBudgetLeaseRecord
deriving DecidableEq, Repr

structure RedisRuntime where
  store : RedisLeaseStore
  calls : List LeaseWriter
  returned : List RuntimeBudgetLeaseRecord

inductive RedisAction
  | release (leaseId : String)
  | expire (tenantId : String) (now : DateTime)
  | set (lease : RuntimeBudgetLeaseRecord) (rest done : List RuntimeBudgetLeaseRecord)
  | hset (lease : RuntimeBudgetLeaseRecord) (rest done : List RuntimeBudgetLeaseRecord)
  | finish (done : List RuntimeBudgetLeaseRecord)

def redisLeaseExpires (now : DateTime) (lease : RuntimeBudgetLeaseRecord) : Bool :=
  lease.status == .reserved && decide (lease.expiresAt ≤ now)

/-- One Redis command of a call: a release reads its lease with GET and an expiry its tenant with HVALS, and each
lease that they change is written with SET and HSET. -/
def redisStep (s : RedisRuntime) : RedisAction → Option RedisRuntime
  | .release leaseId =>
    match s.store.get leaseId with
    | none => some s
    | some lease =>
      if lease.status ≠ .reserved then some s
      else some { s with calls := ⟨[{ lease with status := .released }], none, []⟩ :: s.calls }
  | .expire tenantId now =>
    let expired := ((s.store.hvals tenantId).filter (redisLeaseExpires now)).map fun lease =>
      { lease with status := .expired }
    some { s with calls := ⟨expired, none, []⟩ :: s.calls }
  | .set lease rest done =>
    (resume s.calls ⟨lease :: rest, none, done⟩ [⟨rest, some lease, done⟩]).map fun calls =>
      { s with store := s.store.set lease, calls := calls }
  | .hset lease rest done =>
    (resume s.calls ⟨rest, some lease, done⟩ [⟨rest, none, done ++ [lease]⟩]).map fun calls =>
      { s with store := s.store.hset lease, calls := calls }
  | .finish done =>
    (resume s.calls ⟨[], none, done⟩ []).map fun calls => { s with calls := calls, returned := done ++ s.returned }

section Lease

variable (leaseId tenantId : String)

def ofLease (lease : RuntimeBudgetLeaseRecord) : Bool := lease.leaseId == leaseId

namespace RedisRuntime

variable (s : RedisRuntime)

def waiting : Nat := (s.calls.flatMap LeaseWriter.waiting).countP (ofLease leaseId)

def written : Nat := (s.calls.flatMap fun call => call.written.toList).countP (ofLease leaseId)

def done : Nat := (s.calls.flatMap LeaseWriter.done).countP (ofLease leaseId)

end RedisRuntime

/-- At most one call returns the lease, and when no call is under way the two copies have one status. -/
structure GivenBackOnce (s : RedisRuntime) : Prop where
  once : s.returned.countP (ofLease leaseId) ≤ 1
  agree : s.calls = [] → (s.store.get leaseId).map RuntimeBudgetLeaseRecord.status =
    ((s.store.hash tenantId).lookup leaseId).map RuntimeBudgetLeaseRecord.status

/-- A call reads the lease as one to give back only while no other call is writing it. -/
def ReadsAlone (s : RedisRuntime) : RedisAction → Prop
  | .release id => ∀ lease, id = leaseId → s.store.get leaseId = some lease → lease.status = .reserved →
    s.waiting leaseId + s.written leaseId = 0
  | .expire tenant now => ∀ lease, (s.store.hash tenant).lookup leaseId = some lease →
    redisLeaseExpires now lease = true → s.waiting leaseId + s.written leaseId = 0
  | _ => True

structure LeaseWrites (s : RedisRuntime) : Prop where
  keyed : ∀ id lease, s.store.get id = some lease → lease.leaseId = id ∧ (id = leaseId → lease.tenantId = tenantId)
  fields : ∀ tenant id lease, (s.store.hash tenant).lookup id = some lease →
    lease.leaseId = id ∧ (id = leaseId → lease.tenantId = tenantId ∧ tenant = tenantId)
  owned : ∀ call ∈ s.calls, ∀ lease ∈ call.waiting ++ call.written.toList, lease.leaseId = leaseId →
    lease.tenantId = tenantId ∧ lease.status ≠ .reserved
  once : s.waiting leaseId + s.written leaseId + s.done leaseId + s.returned.countP (ofLease leaseId) ≤ 1
  agree : s.written leaseId = 0 → s.store.get leaseId = (s.store.hash tenantId).lookup leaseId
  current : ∀ call ∈ s.calls, ∀ lease, call.written = some lease → lease.leaseId = leaseId →
    s.store.get leaseId = some lease
  reserved : ∀ lease, s.store.get leaseId = some lease → lease.status = .reserved →
    s.written leaseId + s.done leaseId + s.returned.countP (ofLease leaseId) = 0

end Lease

section Commands

variable (store : RedisLeaseStore) (record : RuntimeBudgetLeaseRecord) (tenantId leaseId : String)

theorem get_set : (store.set record).get leaseId =
    if leaseId = record.leaseId then some record else store.get leaseId := by
  unfold RedisLeaseStore.get RedisLeaseStore.set
  split
  · rename_i heq
    rw [heq, AList.lookup_insert]
  · rename_i hne
    exact AList.lookup_insert_ne hne

@[simp] theorem hash_set : (store.set record).hash tenantId = store.hash tenantId := rfl

@[simp] theorem get_hset : (store.hset record).get leaseId = store.get leaseId := rfl

theorem lookup_hset : ((store.hset record).hash tenantId).lookup leaseId =
    if tenantId = record.tenantId ∧ leaseId = record.leaseId then some record
    else (store.hash tenantId).lookup leaseId := by
  unfold RedisLeaseStore.hset
  by_cases htenant : tenantId = record.tenantId
  · subst htenant
    have hhash : RedisLeaseStore.hash ⟨store.leaseKeys, store.tenantHashes.insert record.tenantId
        ((store.hash record.tenantId).insert record.leaseId record)⟩ record.tenantId =
        (store.hash record.tenantId).insert record.leaseId record := by
      simp [RedisLeaseStore.hash]
    rw [hhash]
    by_cases hid : leaseId = record.leaseId
    · rw [if_pos ⟨rfl, hid⟩, hid, AList.lookup_insert]
    · rw [if_neg fun h => hid h.2, AList.lookup_insert_ne hid]
  · have hhash : RedisLeaseStore.hash ⟨store.leaseKeys, store.tenantHashes.insert record.tenantId
        ((store.hash record.tenantId).insert record.leaseId record)⟩ tenantId = store.hash tenantId := by
      unfold RedisLeaseStore.hash
      rw [AList.lookup_insert_ne htenant]
    rw [hhash, if_neg fun h => htenant h.1]

theorem mem_hvals {lease : RuntimeBudgetLeaseRecord} :
    lease ∈ store.hvals tenantId ↔ ∃ id, (store.hash tenantId).lookup id = some lease := by
  unfold RedisLeaseStore.hvals
  constructor
  · intro hmem
    obtain ⟨entry, hentry, rfl⟩ := List.mem_map.mp hmem
    exact ⟨entry.1, AList.mem_lookup_iff.mpr hentry⟩
  · rintro ⟨id, hlookup⟩
    exact List.mem_map.mpr ⟨⟨id, lease⟩, AList.mem_lookup_iff.mp hlookup, rfl⟩

end Commands

section Steps

variable {leaseId tenantId : String} {s next : RedisRuntime}

theorem LeaseWrites.free (h : LeaseWrites leaseId tenantId s)
    (hfree : s.waiting leaseId + s.written leaseId = 0) {lease : RuntimeBudgetLeaseRecord}
    (hget : s.store.get leaseId = some lease) (hstatus : lease.status = .reserved) :
    s.waiting leaseId + s.written leaseId + s.done leaseId + s.returned.countP (ofLease leaseId) = 0 := by
  have hreserved := h.reserved lease hget hstatus
  omega

/-- A call that reads `leases` enters with them. -/
theorem LeaseWrites.enter (h : LeaseWrites leaseId tenantId s) (leases : List RuntimeBudgetLeaseRecord)
    (howned : ∀ lease ∈ leases, lease.leaseId = leaseId → lease.tenantId = tenantId ∧ lease.status ≠ .reserved)
    (honce : leases.countP (ofLease leaseId) + (s.waiting leaseId + s.written leaseId + s.done leaseId +
      s.returned.countP (ofLease leaseId)) ≤ 1) :
    LeaseWrites leaseId tenantId { s with calls := ⟨leases, none, []⟩ :: s.calls } := by
  constructor
  · exact h.keyed
  · exact h.fields
  · refine List.forall_mem_cons.mpr ⟨?_, h.owned⟩
    simpa using howned
  · simp only [RedisRuntime.waiting, RedisRuntime.written, RedisRuntime.done, List.flatMap_cons, List.countP_append,
      Option.toList_none, List.countP_nil] at honce ⊢
    omega
  · exact h.agree
  · refine List.forall_mem_cons.mpr ⟨?_, h.current⟩
    intro lease hwritten
    cases hwritten
  · exact h.reserved

theorem LeaseWrites.release (h : LeaseWrites leaseId tenantId s) {id : String}
    (halone : ReadsAlone leaseId s (.release id)) (hstep : redisStep s (.release id) = some next) :
    LeaseWrites leaseId tenantId next := by
  simp only [redisStep] at hstep
  split at hstep
  · cases hstep
    exact h
  rename_i lease hget
  split at hstep
  · cases hstep
    exact h
  rename_i hstatus
  cases hstep
  obtain ⟨hid, htenant⟩ := h.keyed id lease hget
  apply h.enter
  · rw [List.forall_mem_singleton]
    intro hlease
    exact ⟨htenant (hid.symm.trans hlease), by simp⟩
  · have honce := h.once
    by_cases heq : id = leaseId
    · subst heq
      have hfree := h.free (halone lease rfl hget (not_not.mp hstatus)) hget (not_not.mp hstatus)
      rw [hfree, List.countP_singleton]
      split <;> omega
    · have hne : ofLease leaseId { lease with status := .released } = false := by simpa [ofLease, hid] using heq
      simpa [hne] using honce

theorem countP_hvals (h : LeaseWrites leaseId tenantId s) (tenant : String) (now : DateTime) :
    (((s.store.hvals tenant).filter (redisLeaseExpires now)).map fun lease =>
      ({ lease with status := .expired } : RuntimeBudgetLeaseRecord)).countP (ofLease leaseId) =
      if ∃ lease, (s.store.hash tenant).lookup leaseId = some lease ∧ redisLeaseExpires now lease = true then 1
      else 0 := by
  have hentries : (((s.store.hvals tenant).filter (redisLeaseExpires now)).map fun lease =>
      ({ lease with status := .expired } : RuntimeBudgetLeaseRecord)).countP (ofLease leaseId) =
      ((s.store.hash tenant).entries.filter fun entry => redisLeaseExpires now entry.2).countP
        fun entry => entry.1 == leaseId := by
    rw [List.countP_map, RedisLeaseStore.hvals, List.filter_map, List.countP_map]
    apply List.countP_congr
    intro entry hentry
    have hfield := h.fields tenant entry.1 entry.2 (AList.mem_lookup_iff.mpr (List.mem_of_mem_filter hentry))
    simp [ofLease, hfield.1]
  rw [hentries]
  cases hlookup : (s.store.hash tenant).lookup leaseId with
  | none =>
    rw [if_neg (by simp), List.countP_eq_zero]
    intro entry hentry hid
    have hfound := AList.mem_lookup_iff.mpr (List.mem_of_mem_filter hentry)
    rw [beq_iff_eq.mp hid, Option.mem_def, hlookup] at hfound
    cases hfound
  | some lease =>
    have hperm := (entries_perm hlookup).filter fun entry => redisLeaseExpires now entry.2
    have herased : (((s.store.hash tenant).erase leaseId).entries.filter fun entry =>
        redisLeaseExpires now entry.2).countP (fun entry => entry.1 == leaseId) = 0 := by
      rw [List.countP_eq_zero]
      intro entry hentry hid
      have hfound := AList.mem_lookup_iff.mpr (List.mem_of_mem_filter hentry)
      rw [beq_iff_eq.mp hid, Option.mem_def, AList.lookup_erase] at hfound
      cases hfound
    rw [hperm.countP_eq, List.filter_cons]
    by_cases hexpires : redisLeaseExpires now lease = true
    · rw [if_pos hexpires, if_pos ⟨lease, rfl, hexpires⟩, List.countP_cons, herased]
      simp
    · rw [if_neg hexpires, if_neg, herased]
      rintro ⟨other, hother, hotherExpires⟩
      cases hother
      exact hexpires hotherExpires

theorem LeaseWrites.expire (h : LeaseWrites leaseId tenantId s) {tenant : String} {now : DateTime}
    (halone : ReadsAlone leaseId s (.expire tenant now)) (hstep : redisStep s (.expire tenant now) = some next) :
    LeaseWrites leaseId tenantId next := by
  cases hstep
  apply h.enter
  · intro lease hlease hid
    obtain ⟨old, hold, rfl⟩ := List.mem_map.mp hlease
    obtain ⟨field, hfield⟩ := (mem_hvals s.store tenant).mp (List.mem_of_mem_filter hold)
    obtain ⟨hfieldId, htenant⟩ := h.fields tenant field old hfield
    exact ⟨(htenant (hfieldId.symm.trans hid)).1, by simp⟩
  · rw [countP_hvals h]
    split
    · rename_i hexists
      obtain ⟨lease, hlookup, hexpires⟩ := hexists
      have halone := halone lease hlookup hexpires
      obtain rfl : tenant = tenantId := ((h.fields tenant leaseId lease hlookup).2 rfl).2
      have hget := (h.agree (by omega)).trans hlookup
      simp only [redisLeaseExpires, Bool.and_eq_true, beq_iff_eq] at hexpires
      have hfree := h.free halone hget hexpires.1
      omega
    · have honce := h.once
      omega

/-- The counts of the calls after a step, from the call in step and the calls that stay as they are. -/
theorem counts_moved {call : LeaseWriter} {others : List LeaseWriter} (hcalls : s.calls.Perm ([call] ++ others))
    (leaseId : String) :
    s.waiting leaseId = call.waiting.countP (ofLease leaseId) +
        (others.flatMap LeaseWriter.waiting).countP (ofLease leaseId) ∧
      s.written leaseId = call.written.toList.countP (ofLease leaseId) +
        (others.flatMap fun call => call.written.toList).countP (ofLease leaseId) ∧
      s.done leaseId = call.done.countP (ofLease leaseId) +
        (others.flatMap LeaseWriter.done).countP (ofLease leaseId) := by
  refine ⟨?_, ?_, ?_⟩
  · exact (countP_flatMap_moved hcalls _ _).trans (by simp)
  · exact (countP_flatMap_moved hcalls _ _).trans (by simp)
  · exact (countP_flatMap_moved hcalls _ _).trans (by simp)

theorem written_of_mem {others : List LeaseWriter} {call : LeaseWriter} (hcall : call ∈ others)
    {lease : RuntimeBudgetLeaseRecord} (hwritten : call.written = some lease) (hid : lease.leaseId = leaseId) :
    0 < (others.flatMap fun call => call.written.toList).countP (ofLease leaseId) := by
  rw [List.countP_pos_iff]
  exact ⟨lease, List.mem_flatMap.mpr ⟨call, hcall, by simp [hwritten]⟩, by simp [ofLease, hid]⟩

theorem LeaseWrites.set (h : LeaseWrites leaseId tenantId s) {lease : RuntimeBudgetLeaseRecord}
    {rest done : List RuntimeBudgetLeaseRecord} {others : List LeaseWriter}
    (hcalls : s.calls.Perm ([⟨lease :: rest, none, done⟩] ++ others)) :
    LeaseWrites leaseId tenantId
      { s with store := s.store.set lease, calls := [⟨rest, some lease, done⟩] ++ others } := by
  obtain ⟨hwaiting, hwritten, hdone⟩ := counts_moved hcalls leaseId
  obtain ⟨hwaiting', hwritten', hdone'⟩ := counts_moved
    (s := { s with store := s.store.set lease, calls := [⟨rest, some lease, done⟩] ++ others }) (.refl _) leaseId
  have howned := h.owned ⟨lease :: rest, none, done⟩ (hcalls.mem_iff.mpr (by simp))
  simp only [Option.toList_none, Option.toList_some, List.countP_nil, List.countP_cons, List.append_nil] at *
  have honce := h.once
  constructor
  · intro id found hget
    rw [get_set] at hget
    split at hget
    · rename_i hid
      cases hget
      exact ⟨hid.symm, fun hlease => (howned lease (by simp) (hid.symm.trans hlease)).1⟩
    · exact h.keyed id found hget
  · exact h.fields
  · refine forall_moved hcalls h.owned (fun _ _ hkept => hkept) [_] (List.forall_mem_singleton.mpr ?_)
    intro other hother
    exact howned other (by
      simp only [Option.toList_some, List.mem_append, List.mem_cons] at hother ⊢
      tauto)
  · simp only [hwaiting', hwritten', hdone']
    omega
  · intro hzero
    rw [hwritten'] at hzero
    have hne : leaseId ≠ lease.leaseId := by
      intro heq
      simp [ofLease, heq] at hzero
    rw [get_set, if_neg hne]
    exact h.agree (by omega)
  · intro call hcall other hother hid
    rw [get_set]
    rcases List.mem_cons.mp hcall with rfl | hold
    · cases hother
      rw [if_pos hid.symm]
    · replace hold : call ∈ others := hold
      rw [if_neg]
      · exact h.current call (hcalls.mem_iff.mpr (List.mem_append_right _ hold)) other hother hid
      · intro heq
        have hpos := written_of_mem hold hother hid
        have hlease : ofLease leaseId lease = true := by simp [ofLease, heq]
        rw [if_pos hlease] at hwaiting
        omega
  · intro found hget hstatus
    rw [get_set] at hget
    split at hget
    · rename_i hid
      cases hget
      exact absurd hstatus (howned lease (by simp) hid.symm).2
    · rename_i hne
      have hreserved := h.reserved found hget hstatus
      have hlease : ofLease leaseId lease ≠ true := by
        intro heq
        exact hne (beq_iff_eq.mp heq).symm
      rw [hwritten', hdone', if_neg hlease]
      show _ + _ + s.returned.countP (ofLease leaseId) = 0
      omega

theorem LeaseWrites.hset (h : LeaseWrites leaseId tenantId s) {lease : RuntimeBudgetLeaseRecord}
    {rest done : List RuntimeBudgetLeaseRecord} {others : List LeaseWriter}
    (hcalls : s.calls.Perm ([⟨rest, some lease, done⟩] ++ others)) :
    LeaseWrites leaseId tenantId
      { s with store := s.store.hset lease, calls := [⟨rest, none, done ++ [lease]⟩] ++ others } := by
  obtain ⟨hwaiting, hwritten, hdone⟩ := counts_moved hcalls leaseId
  obtain ⟨hwaiting', hwritten', hdone'⟩ := counts_moved
    (s := { s with store := s.store.hset lease, calls := [⟨rest, none, done ++ [lease]⟩] ++ others }) (.refl _) leaseId
  have hmem : (⟨rest, some lease, done⟩ : LeaseWriter) ∈ s.calls := hcalls.mem_iff.mpr (by simp)
  have howned := h.owned _ hmem
  have hcurrent := h.current _ hmem lease rfl
  simp only [Option.toList_none, Option.toList_some, List.countP_nil, List.countP_cons, List.countP_append] at *
  have honce := h.once
  constructor
  · exact h.keyed
  · intro tenant id found hlookup
    rw [lookup_hset] at hlookup
    split at hlookup
    · rename_i hfield
      cases hlookup
      refine ⟨hfield.2.symm, fun hlease => ?_⟩
      have htenant := (howned lease (by simp) (hfield.2.symm.trans hlease)).1
      exact ⟨htenant, hfield.1.trans htenant⟩
    · exact h.fields tenant id found hlookup
  · refine forall_moved hcalls h.owned (fun _ _ hkept => hkept) [_] (List.forall_mem_singleton.mpr ?_)
    intro other hother
    exact howned other (by
      simp only [Option.toList_none, List.append_nil, List.mem_append] at hother ⊢
      exact .inl hother)
  · simp only [hwaiting', hwritten', hdone']
    omega
  · intro hzero
    rw [get_hset, lookup_hset]
    split
    · rename_i hfield
      exact hcurrent hfield.2.symm
    · rename_i hfield
      apply h.agree
      have hlease : ofLease leaseId lease ≠ true := by
        intro heq
        have hid := beq_iff_eq.mp heq
        exact hfield ⟨(howned lease (by simp) hid).1.symm, hid.symm⟩
      rw [hwritten, if_neg hlease]
      omega
  · intro call hcall other hother hid
    rw [get_hset]
    rcases List.mem_cons.mp hcall with rfl | hold
    · cases hother
    · exact h.current call (hcalls.mem_iff.mpr (List.mem_append_right _ hold)) other hother hid
  · intro found hget hstatus
    have hreserved := h.reserved found hget hstatus
    rw [hwritten', hdone']
    show _ + _ + s.returned.countP (ofLease leaseId) = 0
    omega

theorem LeaseWrites.finish (h : LeaseWrites leaseId tenantId s) {done : List RuntimeBudgetLeaseRecord}
    {others : List LeaseWriter} (hcalls : s.calls.Perm ([⟨[], none, done⟩] ++ others)) :
    LeaseWrites leaseId tenantId { s with calls := others, returned := done ++ s.returned } := by
  obtain ⟨hwaiting, hwritten, hdone⟩ := counts_moved hcalls leaseId
  simp only [Option.toList_none, List.countP_nil, Nat.zero_add] at hwaiting hwritten hdone
  have honce := h.once
  have hkept : ∀ call ∈ others, call ∈ s.calls := fun call hcall =>
    hcalls.mem_iff.mpr (List.mem_append_right _ hcall)
  constructor
  · exact h.keyed
  · exact h.fields
  · intro call hcall
    exact h.owned call (hkept call hcall)
  · rw [hwaiting, hwritten, hdone] at honce
    simp only [RedisRuntime.waiting, RedisRuntime.written, RedisRuntime.done, List.countP_append]
    omega
  · intro hzero
    exact h.agree (hwritten.trans hzero)
  · intro call hcall
    exact h.current call (hkept call hcall)
  · intro found hget hstatus
    have hreserved := h.reserved found hget hstatus
    rw [hwritten, hdone] at hreserved
    simp only [RedisRuntime.written, RedisRuntime.done, List.countP_append]
    omega

theorem redisStep_writes (h : LeaseWrites leaseId tenantId s) {action : RedisAction}
    (halone : ReadsAlone leaseId s action) (hstep : redisStep s action = some next) :
    LeaseWrites leaseId tenantId next := by
  cases action with
  | release id => exact h.release halone hstep
  | expire tenant now => exact h.expire halone hstep
  | set lease rest done =>
    obtain ⟨others, hcalls, rfl⟩ := moved_cases hstep
    exact h.set hcalls
  | hset lease rest done =>
    obtain ⟨others, hcalls, rfl⟩ := moved_cases hstep
    exact h.hset hcalls
  | finish done =>
    obtain ⟨others, hcalls, rfl⟩ := moved_cases hstep
    exact h.finish hcalls

end Steps

section Recorded

/-- Every record stands under its own id, in both copies. -/
structure HoldsLeases (store : RedisLeaseStore) (leases : List RuntimeBudgetLeaseRecord) : Prop where
  get : ∀ id lease, store.get id = some lease → lease ∈ leases ∧ lease.leaseId = id
  hash : ∀ tenant id lease, (store.hash tenant).lookup id = some lease →
    lease ∈ leases ∧ lease.leaseId = id ∧ lease.tenantId = tenant
  copies : ∀ lease ∈ leases, store.get lease.leaseId = some lease ∧
    (store.hash lease.tenantId).lookup lease.leaseId = some lease

theorem HoldsLeases.write {store : RedisLeaseStore} {leases : List RuntimeBudgetLeaseRecord}
    (h : HoldsLeases store leases) {record : RuntimeBudgetLeaseRecord}
    (hfresh : ∀ lease ∈ leases, lease.leaseId ≠ record.leaseId) :
    HoldsLeases (store.writeBudgetLease record) (leases ++ [record]) := by
  have hget (id : String) : (store.writeBudgetLease record).get id =
      if id = record.leaseId then some record else store.get id := get_set store record id
  have hhash (tenant id : String) : ((store.writeBudgetLease record).hash tenant).lookup id =
      if tenant = record.tenantId ∧ id = record.leaseId then some record else (store.hash tenant).lookup id :=
    lookup_hset (store.set record) record tenant id
  constructor
  · intro id lease hlookup
    rw [hget] at hlookup
    split at hlookup
    · rename_i hid
      cases hlookup
      exact ⟨by simp, hid.symm⟩
    · obtain ⟨hmem, hid⟩ := h.get id lease hlookup
      exact ⟨List.mem_append_left _ hmem, hid⟩
  · intro tenant id lease hlookup
    rw [hhash] at hlookup
    split at hlookup
    · rename_i hfield
      cases hlookup
      exact ⟨by simp, hfield.2.symm, hfield.1.symm⟩
    · obtain ⟨hmem, hfield⟩ := h.hash tenant id lease hlookup
      exact ⟨List.mem_append_left _ hmem, hfield⟩
  · intro lease hlease
    rw [hget, hhash]
    rcases List.mem_append.mp hlease with hold | hnew
    · rw [if_neg (hfresh lease hold), if_neg fun hfield => hfresh lease hold hfield.2]
      exact h.copies lease hold
    · rw [List.mem_singleton.mp hnew, if_pos rfl, if_pos ⟨rfl, rfl⟩]
      exact ⟨rfl, rfl⟩

theorem holdsLeases_recorded (leases : List RuntimeBudgetLeaseRecord)
    (hdistinct : (leases.map RuntimeBudgetLeaseRecord.leaseId).Nodup) :
    HoldsLeases (RedisLeaseStore.recorded leases) leases := by
  induction leases using List.reverseRecOn with
  | nil =>
    refine ⟨?_, ?_, by simp⟩
    · intro id lease hget
      cases hget
    · intro tenant id lease hlookup
      cases hlookup
  | append_singleton leases record ih =>
    rw [List.map_append, List.nodup_append] at hdistinct
    have hstore : RedisLeaseStore.recorded (leases ++ [record]) =
        (RedisLeaseStore.recorded leases).writeBudgetLease record := by simp [RedisLeaseStore.recorded]
    rw [hstore]
    apply (ih hdistinct.1).write
    intro lease hlease
    exact hdistinct.2.2 lease.leaseId (List.mem_map_of_mem hlease) record.leaseId (by simp)

theorem HoldsLeases.writes {store : RedisLeaseStore} {leases : List RuntimeBudgetLeaseRecord}
    (h : HoldsLeases store leases) {lease : RuntimeBudgetLeaseRecord} (hlease : lease ∈ leases) :
    LeaseWrites lease.leaseId lease.tenantId ⟨store, [], []⟩ := by
  obtain ⟨hcopy, hfield⟩ := h.copies lease hlease
  have hsame {other : RuntimeBudgetLeaseRecord} (hother : other ∈ leases) (hid : other.leaseId = lease.leaseId) :
      other = lease := by
    have hget := (h.copies other hother).1
    rw [hid, hcopy, Option.some.injEq] at hget
    exact hget.symm
  constructor
  · intro id other hget
    obtain ⟨hmem, hid⟩ := h.get id other hget
    exact ⟨hid, fun heq => by rw [hsame hmem (hid.trans heq)]⟩
  · intro tenant id other hlookup
    obtain ⟨hmem, hid, htenant⟩ := h.hash tenant id other hlookup
    refine ⟨hid, fun heq => ?_⟩
    have hother := hsame hmem (hid.trans heq)
    rw [← htenant, hother]
    exact ⟨rfl, rfl⟩
  · intro call hcall
    cases hcall
  · exact Nat.zero_le 1
  · intro _
    exact hcopy.trans hfield.symm
  · intro call hcall
    cases hcall
  · intro other _ _
    rfl

end Recorded

theorem LeaseWrites.givenBackOnce {leaseId tenantId : String} {s : RedisRuntime}
    (h : LeaseWrites leaseId tenantId s) : GivenBackOnce leaseId tenantId s := by
  have honce := h.once
  refine ⟨by omega, fun hcalls => ?_⟩
  rw [h.agree (by simp [RedisRuntime.written, hcalls])]

/-- Of the calls that release or expire a recorded lease at most one returns it, in every run in which a call reads
the lease as one to give back only while no other call is writing it. -/
theorem redisLease_givenBackOnce {leases : List RuntimeBudgetLeaseRecord}
    (hdistinct : (leases.map RuntimeBudgetLeaseRecord.leaseId).Nodup) {lease : RuntimeBudgetLeaseRecord}
    (hlease : lease ∈ leases) {actions : List RedisAction}
    (halone : Meets redisStep (ReadsAlone lease.leaseId) ⟨.recorded leases, [], []⟩ actions) {final : RedisRuntime}
    (hrun : run redisStep ⟨.recorded leases, [], []⟩ actions = some final) :
    GivenBackOnce lease.leaseId lease.tenantId final := by
  have hstart := (holdsLeases_recorded leases hdistinct).writes hlease
  have hfinal := run_invariant (fun _ _ _ h hreads hstep => redisStep_writes h hreads hstep) hstart halone hrun
  exact hfinal.givenBackOnce

def redisLease : RuntimeBudgetLeaseRecord := budgetLease (requestBudget "bdg_1" 2) "req_1" ⟨0⟩ "bls_1"

def releasedLease : RuntimeBudgetLeaseRecord := { redisLease with status := .released }

def expiredLease : RuntimeBudgetLeaseRecord := { redisLease with status := .expired }

/-- The expiry scans the hash between the two reads and writes of a release. -/
def racedLease : List RedisAction :=
  [.release "bls_1", .expire "tenant_1" ⟨300000000000⟩, .set releasedLease [] [], .set expiredLease [] [],
    .hset expiredLease [] [], .hset releasedLease [] [], .finish [releasedLease], .finish [expiredLease]]

theorem racedLease_givenBackTwice :
    ∃ final, run redisStep ⟨.recorded [redisLease], [], []⟩ racedLease = some final ∧ final.calls = [] ∧
      final.returned = [expiredLease, releasedLease] ∧ final.store.get "bls_1" = some expiredLease ∧
      (final.store.hash "tenant_1").lookup "bls_1" = some releasedLease ∧
      ¬ GivenBackOnce "bls_1" "tenant_1" final := by
  refine ⟨_, rfl, rfl, rfl, rfl, rfl, fun h => ?_⟩
  exact absurd h.once (by decide)

/-- The expiry scans the hash once the release has written it. -/
def orderedLease : List RedisAction :=
  [.release "bls_1", .set releasedLease [] [], .hset releasedLease [] [], .expire "tenant_1" ⟨300000000000⟩,
    .finish [releasedLease], .finish []]

theorem orderedLease_givenBackOnce :
    ∃ final, run redisStep ⟨.recorded [redisLease], [], []⟩ orderedLease = some final ∧
      final.returned = [releasedLease] ∧ GivenBackOnce "bls_1" "tenant_1" final := by
  refine ⟨_, rfl, rfl, ?_⟩
  have hmeets : Meets redisStep (ReadsAlone "bls_1") ⟨.recorded [redisLease], [], []⟩ orderedLease := by
    refine Meets.cons rfl ?_ (Meets.cons rfl trivial (Meets.cons rfl trivial (Meets.cons rfl ?_
      (Meets.cons rfl trivial (Meets.cons rfl trivial trivial)))))
    · intro lease _ _ _
      rfl
    · intro lease _ _
      rfl
  exact redisLease_givenBackOnce (by decide) (show redisLease ∈ [redisLease] by simp) hmeets rfl

end Starweaver.Gateway
