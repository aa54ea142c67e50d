import Starweaver.Gateway.ConfigPublication

namespace Starweaver.Gateway

open Library.AssocMap Library.Calendar Library.Machine Library.MachineInt

structure ConfigInvalidationEvent where
  invalidationId : String
  tenantId : String
  snapshotId : String
  version : Int
  publishedAt : DateTime
deriving DecidableEq, Repr

inductive ConfigReloadSource
  | invalidation
  | polling
deriving DecidableEq, Repr

structure ConfigWorkerReloadRecord where
  snapshotId : String
  loadedVersion : Int
  lastKnownGoodSnapshotId : String
  lastKnownGoodVersion : Int
  reloadSource : ConfigReloadSource
  missedInvalidationCount : Nat
  publicationLagMs : Int
  reloadedAt : DateTime
deriving DecidableEq, Repr

/-- The store with the invalidation events in their order, the time of each tenant's publication and the last reload of
each worker of a tenant. -/
structure WorkerRuntime where
  store : GatewayStore
  invalidations : List ConfigInvalidationEvent
  publishedAt : Index DateTime
  reloads : AList (fun _ : String × String => ConfigWorkerReloadRecord)

def WorkerRuntime.start : WorkerRuntime := ⟨.empty, [], ∅, ∅⟩

inductive WorkerAction
  | publish (call : PublishCall) (invalidationId : String) (now : DateTime)
  | reloadFromInvalidation (tenantId workerId invalidationId : String) (now : DateTime)
  | reloadByPolling (tenantId workerId : String) (now : DateTime)

section Reloads

variable (s : WorkerRuntime)

def countMissedInvalidations (tenantId : String) (previous : Option ConfigWorkerReloadRecord) (targetVersion : Int) :
    Nat :=
  let previousVersion := previous.elim 0 (·.loadedVersion)
  s.invalidations.countP fun event =>
    event.tenantId == tenantId && decide (previousVersion < event.version) && decide (event.version ≤ targetVersion)

def configWorkerReloadRecord (snapshot : PublishedConfigSnapshot) (reloadSource : ConfigReloadSource)
    (missedInvalidationCount : Nat) (publishedAt reloadedAt : DateTime) : ConfigWorkerReloadRecord :=
  ⟨snapshot.snapshotId, snapshot.version, snapshot.snapshotId, snapshot.version, reloadSource, missedInvalidationCount,
    max 0 ((reloadedAt.nanos - publishedAt.nanos).tdiv 1000000), reloadedAt⟩

def WorkerRuntime.invalidation (tenantId invalidationId : String) : Option ConfigInvalidationEvent :=
  s.invalidations.find? fun event => event.tenantId == tenantId && event.invalidationId == invalidationId

def reloadConfigWorkerFromInvalidation (tenantId workerId invalidationId : String) (now : DateTime) :
    Result (ConfigWorkerReloadRecord × WorkerRuntime) :=
  match s.invalidation tenantId invalidationId with
  | none => .error (.notFound s!"config invalidation {invalidationId}")
  | some event =>
    match s.store.configSnapshot event.snapshotId with
    | none => .error (.notFound s!"config snapshot {event.snapshotId}")
    | some snapshot =>
      let missed := countMissedInvalidations s tenantId (s.reloads.lookup (tenantId, workerId)) event.version
      let record := configWorkerReloadRecord snapshot .invalidation (missed - 1) event.publishedAt now
      .ok (record, { s with reloads := s.reloads.insert (tenantId, workerId) record })

def reloadConfigWorkerByPolling (tenantId workerId : String) (now : DateTime) :
    Result (ConfigWorkerReloadRecord × WorkerRuntime) :=
  match s.store.configPublications.lookup tenantId with
  | none => .error (.notFound s!"config publication pointer {tenantId}")
  | some pointer =>
    match s.store.configSnapshot pointer.snapshotId with
    | none => .error (.notFound s!"config snapshot {pointer.snapshotId}")
    | some snapshot =>
      let missed := countMissedInvalidations s tenantId (s.reloads.lookup (tenantId, workerId)) pointer.version
      let record := configWorkerReloadRecord snapshot .polling missed ((s.publishedAt.lookup tenantId).getD now) now
      .ok (record, { s with reloads := s.reloads.insert (tenantId, workerId) record })

end Reloads

def workerStep (env : GatewayEnv) (s : WorkerRuntime) : WorkerAction → Option WorkerRuntime
  | .publish call invalidationId now =>
    if s.store.hasConfigSnapshot call.snapshotId then none
    else match publishCall env s.store call with
    | .error _ => some s
    | .ok (snapshot, store) => some { s with
        store := store
        invalidations := s.invalidations ++
          [⟨invalidationId, snapshot.tenantId, snapshot.snapshotId, snapshot.version, now⟩]
        publishedAt := s.publishedAt.insert snapshot.tenantId now }
  | .reloadFromInvalidation tenantId workerId invalidationId now =>
    match reloadConfigWorkerFromInvalidation s tenantId workerId invalidationId now with
    | .error _ => some s
    | .ok (_, s) => some s
  | .reloadByPolling tenantId workerId now =>
    match reloadConfigWorkerByPolling s tenantId workerId now with
    | .error _ => some s
    | .ok (_, s) => some s

/-- No worker has gone back to an older version. -/
def NotLowered (s next : WorkerRuntime) : Prop :=
  ∀ worker record, s.reloads.lookup worker = some record → ∃ now, next.reloads.lookup worker = some now ∧
    record.loadedVersion ≤ now.loadedVersion ∧ record.lastKnownGoodVersion ≤ now.lastKnownGoodVersion

/-- An event is delivered to a worker that has not loaded a newer version, and no version is the largest one. -/
def DeliveredInTime (s : WorkerRuntime) : WorkerAction → Prop
  | .publish call _ _ =>
    ∀ pointer, s.store.configPublications.lookup call.tenantId = some pointer → pointer.version < i64Max
  | .reloadFromInvalidation tenantId workerId invalidationId _ =>
    ∀ event record, s.invalidation tenantId invalidationId = some event →
      s.reloads.lookup (tenantId, workerId) = some record → record.loadedVersion ≤ event.version
  | .reloadByPolling _ _ _ => True

section Workers

variable {env : GatewayEnv} {s next later : WorkerRuntime} {action : WorkerAction}

/-- Every worker has loaded a published version. -/
structure LoadedPublished (s : WorkerRuntime) : Prop where
  published : ∀ tenantId, Published s.store tenantId
  events : ∀ event ∈ s.invalidations, ∃ snapshot, s.store.configSnapshot event.snapshotId = some snapshot ∧
    snapshot.version = event.version ∧ snapshot.tenantId = event.tenantId
  loaded : ∀ tenantId workerId record, s.reloads.lookup (tenantId, workerId) = some record →
    record.lastKnownGoodVersion = record.loadedVersion ∧
      ∃ pointer, s.store.configPublications.lookup tenantId = some pointer ∧ record.loadedVersion ≤ pointer.version

theorem NotLowered.refl (s : WorkerRuntime) : NotLowered s s :=
  fun _ record hrecord => ⟨record, hrecord, le_refl _, le_refl _⟩

theorem NotLowered.trans (h : NotLowered s next) (h' : NotLowered next later) : NotLowered s later := by
  intro worker record hrecord
  obtain ⟨mid, hmid, hloaded, hgood⟩ := h worker record hrecord
  obtain ⟨now, hnow, hloaded', hgood'⟩ := h' worker mid hmid
  exact ⟨now, hnow, hloaded.trans hloaded', hgood.trans hgood'⟩

/-- A reload of a published version that is not below the worker's own. -/
theorem LoadedPublished.reload (h : LoadedPublished s) {tenantId workerId : String} {record : ConfigWorkerReloadRecord}
    {pointer : ConfigPublicationPointer} (hgood : record.lastKnownGoodVersion = record.loadedVersion)
    (hpointer : s.store.configPublications.lookup tenantId = some pointer)
    (hle : record.loadedVersion ≤ pointer.version)
    (hnotOlder : ∀ old, s.reloads.lookup (tenantId, workerId) = some old → old.loadedVersion ≤ record.loadedVersion) :
    LoadedPublished { s with reloads := s.reloads.insert (tenantId, workerId) record } ∧
      NotLowered s { s with reloads := s.reloads.insert (tenantId, workerId) record } := by
  refine ⟨⟨h.published, h.events, fun tenant worker other hother => ?_⟩, fun worker old hold => ?_⟩
  · rcases insert_some hother with ⟨hkey, rfl⟩ | ⟨-, hsame⟩
    · cases hkey
      exact ⟨hgood, pointer, hpointer, hle⟩
    · exact h.loaded tenant worker other hsame
  · by_cases heq : worker = (tenantId, workerId)
    · subst heq
      have hloaded := hnotOlder old hold
      refine ⟨record, AList.lookup_insert _, hloaded, ?_⟩
      rw [hgood, (h.loaded _ _ old hold).1]
      exact hloaded
    · exact ⟨old, by rwa [AList.lookup_insert_ne heq], le_refl _, le_refl _⟩

theorem LoadedPublished.publish (h : LoadedPublished s) {call : PublishCall} {snapshot : PublishedConfigSnapshot}
    (hfresh : s.store.hasConfigSnapshot call.snapshotId = false)
    (hroom : ∀ pointer, s.store.configPublications.lookup call.tenantId = some pointer → pointer.version < i64Max)
    (hprepared : preparedSnapshot env s.store call = .ok snapshot) (invalidationId : String) (now : DateTime) :
    LoadedPublished { s with
      store := s.store.insertConfigSnapshot snapshot
      invalidations := s.invalidations ++
        [⟨invalidationId, snapshot.tenantId, snapshot.snapshotId, snapshot.version, now⟩]
      publishedAt := s.publishedAt.insert snapshot.tenantId now } := by
  obtain ⟨hid, htenant, hversion⟩ := preparedSnapshot_ok hprepared
  rw [← hid] at hfresh
  obtain ⟨hpositive, hnewer⟩ := (h.published call.tenantId).nextConfigVersion hroom
  rw [← hversion, ← htenant] at hnewer
  rw [← hversion] at hpositive
  have hinserted (tenantId : String) : Published (s.store.insertConfigSnapshot snapshot) tenantId := by
    by_cases hown : snapshot.tenantId = tenantId
    · subst hown
      exact (h.published _).insert_own rfl hfresh hpositive hnewer
    · exact (h.published tenantId).insert_other hown hfresh
  refine ⟨hinserted, fun event hevent => ?_, fun tenantId workerId record hrecord => ?_⟩
  · rcases List.mem_append.mp hevent with hold | hnew
    · obtain ⟨found, hfound, hrest⟩ := h.events event hold
      exact ⟨found, configSnapshot_of_fresh hfresh hfound, hrest⟩
    · rw [List.mem_singleton.mp hnew]
      refine ⟨snapshot, ?_, rfl, rfl⟩
      rw [configSnapshot_insert hfresh, if_pos rfl]
  · obtain ⟨hgood, pointer, hpointer, hle⟩ := h.loaded tenantId workerId record hrecord
    refine ⟨hgood, ?_⟩
    by_cases hown : tenantId = snapshot.tenantId
    · subst hown
      exact ⟨_, AList.lookup_insert _, hle.trans (hnewer pointer hpointer).le⟩
    · refine ⟨pointer, ?_, hle⟩
      show (s.store.configPublications.insert _ _).lookup tenantId = some pointer
      rwa [AList.lookup_insert_ne hown]

theorem LoadedPublished.step (h : LoadedPublished s) (htime : DeliveredInTime s action)
    (hnext : workerStep env s action = some next) : LoadedPublished next ∧ NotLowered s next := by
  cases action with
  | publish call invalidationId now =>
    simp only [workerStep] at hnext
    split at hnext
    · cases hnext
    · rename_i hfresh
      rw [publishCall_eq] at hnext
      cases hprepared : preparedSnapshot env s.store call with
      | error error =>
        rw [hprepared] at hnext
        cases hnext
        exact ⟨h, .refl s⟩
      | ok snapshot =>
        rw [hprepared] at hnext
        cases hnext
        exact ⟨h.publish (by simpa using hfresh) htime hprepared invalidationId now, .refl s⟩
  | reloadFromInvalidation tenantId workerId invalidationId now =>
    simp only [workerStep, reloadConfigWorkerFromInvalidation] at hnext
    cases hevent : s.invalidation tenantId invalidationId with
    | none =>
      rw [hevent] at hnext
      cases hnext
      exact ⟨h, .refl s⟩
    | some event =>
      obtain ⟨snapshot, hsnapshot, hversion, howner⟩ := h.events event (List.mem_of_find?_eq_some hevent)
      have htenant : event.tenantId = tenantId := by
        have hfound := List.find?_some hevent
        simp only [Bool.and_eq_true, beq_iff_eq] at hfound
        exact hfound.1
      obtain ⟨pointer, hpointer, hle⟩ := (h.published tenantId).bounded snapshot
        (List.mem_of_find?_eq_some hsnapshot) (howner.trans htenant)
      simp only [hevent, hsnapshot] at hnext
      cases hnext
      refine h.reload rfl hpointer hle fun old hold => ?_
      show old.loadedVersion ≤ snapshot.version
      rw [hversion]
      exact htime event old hevent hold
  | reloadByPolling tenantId workerId now =>
    simp only [workerStep, reloadConfigWorkerByPolling] at hnext
    cases hpointer : s.store.configPublications.lookup tenantId with
    | none =>
      rw [hpointer] at hnext
      cases hnext
      exact ⟨h, .refl s⟩
    | some pointer =>
      obtain ⟨latest, hlatest, -, hversion, -⟩ := (h.published tenantId).pointed pointer hpointer
      simp only [hpointer, hlatest] at hnext
      cases hnext
      refine h.reload rfl hpointer hversion.le fun old hold => ?_
      obtain ⟨-, named, hnamed, hle⟩ := h.loaded tenantId workerId old hold
      cases hpointer.symm.trans hnamed
      show old.loadedVersion ≤ latest.version
      rwa [hversion]

end Workers

theorem LoadedPublished.start : LoadedPublished .start := by
  refine ⟨fun tenantId => ⟨fun _ hpointer => (Option.some_ne_none _ hpointer.symm).elim, ?_, ?_⟩, ?_,
    fun _ _ _ hrecord => (Option.some_ne_none _ hrecord.symm).elim⟩ <;>
    simp [WorkerRuntime.start, GatewayStore.empty]

/-- From any point of a run to any later one, no worker goes back to an older version. -/
theorem workers_notLowered (env : GatewayEnv) (before after : List WorkerAction) {mid final : WorkerRuntime}
    (htime : Meets (workerStep env) DeliveredInTime .start (before ++ after))
    (hbefore : run (workerStep env) .start before = some mid)
    (hafter : run (workerStep env) mid after = some final) : NotLowered mid final := by
  have hstep (s : WorkerRuntime) (action : WorkerAction) (next : WorkerRuntime) (h : LoadedPublished s)
      (hdelivered : DeliveredInTime s action) (hnext : workerStep env s action = some next) :
      LoadedPublished next ∧ NotLowered s next := h.step hdelivered hnext
  obtain ⟨hfirst, hsecond⟩ := htime.of_append hbefore
  have hmid := (run_relates NotLowered.refl NotLowered.trans hstep LoadedPublished.start hfirst hbefore).1
  exact (run_relates NotLowered.refl NotLowered.trans hstep hmid hsecond hafter).2

def publishNext (snapshotId invalidationId : String) : WorkerAction :=
  .publish (publishNothing snapshotId) invalidationId ⟨0⟩

def firstReload : List WorkerAction :=
  [publishNext "cfg_1" "inv_1", .reloadFromInvalidation "tenant_1" "worker_1" "inv_1" ⟨0⟩]

/-- The worker misses the second event and catches up by polling. -/
def missedInvalidation : List WorkerAction :=
  [publishNext "cfg_2" "inv_2", .reloadByPolling "tenant_1" "worker_1" ⟨0⟩]

theorem missedInvalidation_inTime :
    Meets (workerStep nothingParsed) DeliveredInTime .start (firstReload ++ missedInvalidation) := by
  refine Meets.cons rfl (by rintro pointer ⟨⟩) ?_
  refine Meets.cons rfl (by rintro event record _ ⟨⟩) ?_
  refine Meets.cons rfl ?_ ?_
  · rintro pointer ⟨⟩
    decide
  · exact Meets.cons rfl trivial trivial

theorem missedInvalidation_notLowered :
    ∃ mid final, run (workerStep nothingParsed) .start firstReload = some mid ∧
      run (workerStep nothingParsed) mid missedInvalidation = some final ∧
      (mid.reloads.lookup ("tenant_1", "worker_1")).map (·.loadedVersion) = some 1 ∧
      (final.reloads.lookup ("tenant_1", "worker_1")).map (·.loadedVersion) = some 2 ∧ NotLowered mid final := by
  obtain ⟨mid, final, hbefore, hafter, hfirst, hsecond⟩ :
      ∃ mid final, run (workerStep nothingParsed) .start firstReload = some mid ∧
        run (workerStep nothingParsed) mid missedInvalidation = some final ∧
        (mid.reloads.lookup ("tenant_1", "worker_1")).map (·.loadedVersion) = some 1 ∧
        (final.reloads.lookup ("tenant_1", "worker_1")).map (·.loadedVersion) = some 2 :=
    ⟨_, _, rfl, rfl, rfl, rfl⟩
  exact ⟨mid, final, hbefore, hafter, hfirst, hsecond,
    workers_notLowered nothingParsed firstReload missedInvalidation missedInvalidation_inTime hbefore hafter⟩

/-- The first event is delivered after the worker has polled the second version: it loads the first one. -/
theorem lateInvalidation_lowers :
    ∃ mid final, run (workerStep nothingParsed) .start [publishNext "cfg_1" "inv_1", publishNext "cfg_2" "inv_2",
        .reloadByPolling "tenant_1" "worker_1" ⟨0⟩] = some mid ∧
      run (workerStep nothingParsed) mid [.reloadFromInvalidation "tenant_1" "worker_1" "inv_1" ⟨0⟩] = some final ∧
      (mid.reloads.lookup ("tenant_1", "worker_1")).map (·.loadedVersion) = some 2 ∧
      (final.reloads.lookup ("tenant_1", "worker_1")).map (·.loadedVersion) = some 1 ∧ ¬ NotLowered mid final := by
  refine ⟨_, _, rfl, rfl, rfl, rfl, fun h => ?_⟩
  obtain ⟨now, hnow, hloaded, -⟩ := h ("tenant_1", "worker_1") _ rfl
  cases hnow
  exact absurd hloaded (by decide)

end Starweaver.Gateway
