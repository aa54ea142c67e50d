import Starweaver.Library.AssocMap
import Starweaver.Library.Checks
import Starweaver.Library.Interleaving
import Starweaver.Library.Machine
import Starweaver.Gateway.GatewayStore

namespace Starweaver.Gateway

open Library.AssocMap Library.Checks Library.Interleaving Library.Machine Library.MachineInt

/-- The version that a publication takes. -/
def nextConfigVersion (store : GatewayStore) (tenantId : String) : Int :=
  match store.latestPublishedSnapshotForTenant tenantId with
  | none => 1
  | some snapshot => wrap (snapshot.version + 1)

inductive PublishSource
  | publish (payload : ConfigPayload)
  | rollback (sourceSnapshotId : String)

structure PublishCall where
  tenantId : String
  source : PublishSource
  snapshotId : String

/-- A publication up to its insert: the checks, and the version from the latest snapshot. -/
def preparedSnapshot (env : GatewayEnv) (store : GatewayStore) (call : PublishCall) : Result PublishedConfigSnapshot :=
  match call.source with
  | .publish payload => do
    validateConfigSnapshotPayload env payload
    .ok ⟨call.snapshotId, call.tenantId, nextConfigVersion store call.tenantId, payload, none⟩
  | .rollback sourceSnapshotId =>
    match store.configSnapshot sourceSnapshotId with
    | none => .error (.notFound s!"config snapshot {sourceSnapshotId}")
    | some source =>
      if source.tenantId ≠ call.tenantId then .error (.authorization "snapshot_tenant_mismatch")
      else .ok ⟨call.snapshotId, call.tenantId, nextConfigVersion store call.tenantId, source.payload,
        some sourceSnapshotId⟩

/-- A publication, all of it in one step. -/
def publishCall (env : GatewayEnv) (store : GatewayStore) (call : PublishCall) :
    Result (PublishedConfigSnapshot × GatewayStore) :=
  match call.source with
  | .publish payload => publishConfigSnapshot store env call.tenantId payload call.snapshotId
  | .rollback sourceSnapshotId => rollbackConfigSnapshot store call.tenantId sourceSnapshotId call.snapshotId

theorem publishCall_eq (env : GatewayEnv) (store : GatewayStore) (call : PublishCall) :
    publishCall env store call =
      (preparedSnapshot env store call).map fun snapshot => (snapshot, store.insertConfigSnapshot snapshot) := by
  unfold publishCall preparedSnapshot
  cases call.source with
  | publish payload =>
    simp only [publishConfigSnapshot]
    cases validateConfigSnapshotPayload env payload <;> rfl
  | rollback sourceSnapshotId =>
    simp only [rollbackConfigSnapshot]
    cases store.configSnapshot sourceSnapshotId with
    | none => rfl
    | some source =>
      simp only
      split <;> rfl

theorem preparedSnapshot_ok {env : GatewayEnv} {store : GatewayStore} {call : PublishCall}
    {snapshot : PublishedConfigSnapshot} (h : preparedSnapshot env store call = .ok snapshot) :
    snapshot.snapshotId = call.snapshotId ∧ snapshot.tenantId = call.tenantId ∧
      snapshot.version = nextConfigVersion store call.tenantId := by
  unfold preparedSnapshot at h
  split at h
  · obtain ⟨_, -, h⟩ := bind_ok.mp h
    cases h
    exact ⟨rfl, rfl, rfl⟩
  · split at h
    · cases h
    · split at h
      · cases h
      · cases h
        exact ⟨rfl, rfl, rfl⟩

def GatewayStore.hasConfigSnapshot (store : GatewayStore) (snapshotId : String) : Bool :=
  store.configSnapshots.any fun snapshot => snapshot.snapshotId == snapshotId

section Published

variable {store : GatewayStore} {tenantId : String} {snapshot : PublishedConfigSnapshot}

/-- The snapshots of a tenant are told apart by their versions, and its publication pointer names the newest. -/
structure Published (store : GatewayStore) (tenantId : String) : Prop where
  pointed : ∀ pointer, store.configPublications.lookup tenantId = some pointer →
    ∃ latest, store.configSnapshot pointer.snapshotId = some latest ∧ latest.tenantId = tenantId ∧
      latest.version = pointer.version ∧ 1 ≤ pointer.version
  bounded : ∀ snapshot ∈ store.configSnapshots, snapshot.tenantId = tenantId →
    ∃ pointer, store.configPublications.lookup tenantId = some pointer ∧ snapshot.version ≤ pointer.version
  distinct : (store.configSnapshots.filter (·.tenantId == tenantId)).Pairwise (·.version ≠ ·.version)

theorem configSnapshot_insert (hfresh : store.hasConfigSnapshot snapshot.snapshotId = false) (id : String) :
    (store.insertConfigSnapshot snapshot).configSnapshot id =
      if id = snapshot.snapshotId then some snapshot else store.configSnapshot id := by
  unfold GatewayStore.configSnapshot GatewayStore.insertConfigSnapshot
  rw [List.find?_append]
  split
  · rename_i heq
    have hnone : store.configSnapshots.find? (fun other => other.snapshotId == id) = none := by
      rw [heq]
      simpa [GatewayStore.hasConfigSnapshot] using hfresh
    rw [hnone, Option.none_or]
    simp [heq]
  · rename_i hne
    have hlast : [snapshot].find? (fun other => other.snapshotId == id) = none := by
      simpa using Ne.symm hne
    rw [hlast, Option.or_none]

/-- A snapshot that is in the store has an id that is taken. -/
theorem configSnapshot_of_fresh {id : String} {found : PublishedConfigSnapshot}
    (hfresh : store.hasConfigSnapshot snapshot.snapshotId = false) (h : store.configSnapshot id = some found) :
    (store.insertConfigSnapshot snapshot).configSnapshot id = some found := by
  rw [configSnapshot_insert hfresh, if_neg ?_, h]
  rintro rfl
  have hnone : store.configSnapshot snapshot.snapshotId = none := by
    simpa [GatewayStore.configSnapshot, GatewayStore.hasConfigSnapshot] using hfresh
  rw [hnone] at h
  cases h

theorem Published.insert_other (h : Published store tenantId) (hother : snapshot.tenantId ≠ tenantId)
    (hfresh : store.hasConfigSnapshot snapshot.snapshotId = false) :
    Published (store.insertConfigSnapshot snapshot) tenantId := by
  have hpointers : (store.insertConfigSnapshot snapshot).configPublications.lookup tenantId =
      store.configPublications.lookup tenantId := AList.lookup_insert_ne hother.symm
  refine ⟨fun pointer hpointer => ?_, fun stored hstored htenant => ?_, ?_⟩
  · rw [hpointers] at hpointer
    obtain ⟨latest, hlatest, hrest⟩ := h.pointed pointer hpointer
    exact ⟨latest, configSnapshot_of_fresh hfresh hlatest, hrest⟩
  · rw [hpointers]
    rcases List.mem_append.mp hstored with hold | hnew
    · exact h.bounded stored hold htenant
    · rw [List.mem_singleton.mp hnew] at htenant
      exact absurd htenant hother
  · simpa [GatewayStore.insertConfigSnapshot, List.filter_append, hother] using h.distinct

/-- A snapshot with a version above the published one becomes the newest. -/
theorem Published.insert_own (h : Published store tenantId) (hown : snapshot.tenantId = tenantId)
    (hfresh : store.hasConfigSnapshot snapshot.snapshotId = false) (hpositive : 1 ≤ snapshot.version)
    (hnewer : ∀ pointer, store.configPublications.lookup tenantId = some pointer → pointer.version < snapshot.version) :
    Published (store.insertConfigSnapshot snapshot) tenantId := by
  have hpointers : (store.insertConfigSnapshot snapshot).configPublications.lookup tenantId =
      some ⟨snapshot.snapshotId, snapshot.version⟩ := by
    rw [← hown]
    exact AList.lookup_insert _
  have hbelow (stored : PublishedConfigSnapshot) (hstored : stored ∈ store.configSnapshots)
      (htenant : stored.tenantId = tenantId) : stored.version < snapshot.version := by
    obtain ⟨pointer, hpointer, hle⟩ := h.bounded stored hstored htenant
    exact lt_of_le_of_lt hle (hnewer pointer hpointer)
  refine ⟨fun pointer hpointer => ?_, fun stored hstored htenant => ⟨_, hpointers, ?_⟩, ?_⟩
  · cases hpointers.symm.trans hpointer
    refine ⟨snapshot, ?_, hown, rfl, hpositive⟩
    rw [configSnapshot_insert hfresh, if_pos rfl]
  · rcases List.mem_append.mp hstored with hold | hnew
    · exact (hbelow stored hold htenant).le
    · rw [List.mem_singleton.mp hnew]
  · show ((store.configSnapshots ++ [snapshot]).filter (·.tenantId == tenantId)).Pairwise _
    rw [List.filter_append, List.pairwise_append]
    refine ⟨h.distinct, by simp [hown], ?_⟩
    intro stored hstored added hadded
    obtain ⟨hmem, htenant⟩ := List.mem_filter.mp hstored
    rw [List.mem_singleton.mp (List.mem_filter.mp hadded).1]
    exact (hbelow stored hmem (by simpa using htenant)).ne

/-- The next version is above the published one, as long as that is not the largest. -/
theorem Published.nextConfigVersion (h : Published store tenantId)
    (hroom : ∀ pointer, store.configPublications.lookup tenantId = some pointer → pointer.version < i64Max) :
    1 ≤ nextConfigVersion store tenantId ∧
      ∀ pointer, store.configPublications.lookup tenantId = some pointer →
        pointer.version < Gateway.nextConfigVersion store tenantId := by
  unfold Gateway.nextConfigVersion GatewayStore.latestPublishedSnapshotForTenant
  cases hpointer : store.configPublications.lookup tenantId with
  | none =>
    have hnone : store.configSnapshots.filter (fun snapshot => snapshot.tenantId == tenantId) = [] := by
      rw [List.filter_eq_nil_iff]
      intro stored hstored htenant
      obtain ⟨pointer, hsome, -⟩ := h.bounded stored hstored (by simpa using htenant)
      rw [hpointer] at hsome
      cases hsome
    simp [GatewayStore.newestSnapshot, hnone]
  | some pointer =>
    obtain ⟨latest, hlatest, -, hversion, hpositive⟩ := h.pointed pointer hpointer
    have hlt := hroom pointer hpointer
    have hwrap : wrap (latest.version + 1) = pointer.version + 1 := by
      rw [hversion]
      exact wrap_of_bounds (by unfold i64Min; omega) (by omega)
    simp only [hlatest, hwrap]
    refine ⟨by omega, fun other hother => ?_⟩
    cases hother
    omega

end Published

/-- The store with the publications that have read the latest version and not yet inserted their snapshot. -/
structure PublishRuntime where
  store : GatewayStore
  publishing : List PublishedConfigSnapshot

def PublishRuntime.start : PublishRuntime := ⟨.empty, []⟩

inductive PublishAction
  | read (call : PublishCall)
  | insert (index : Nat)

/-- An id that is drawn for a snapshot is a new one. -/
def PublishRuntime.taken (s : PublishRuntime) (snapshotId : String) : Bool :=
  s.store.hasConfigSnapshot snapshotId || s.publishing.any fun snapshot => snapshot.snapshotId == snapshotId

def publishStep (env : GatewayEnv) (s : PublishRuntime) : PublishAction → Option PublishRuntime
  | .read call =>
    if s.taken call.snapshotId then none
    else match preparedSnapshot env s.store call with
    | .error _ => some s
    | .ok snapshot => some { s with publishing := snapshot :: s.publishing }
  | .insert index =>
    match s.publishing[index]? with
    | none => none
    | some snapshot => some ⟨s.store.insertConfigSnapshot snapshot, s.publishing.eraseIdx index⟩

/-- The versions of a tenant's snapshots are pairwise distinct, and once no publication is in progress its pointer names
the snapshot with the highest version. -/
structure LinearPublication (s : PublishRuntime) (tenantId : String) : Prop where
  distinct : (s.store.configSnapshots.filter (·.tenantId == tenantId)).Pairwise (·.version ≠ ·.version)
  highest : s.publishing = [] → ∀ snapshot ∈ s.store.configSnapshots, snapshot.tenantId = tenantId →
    ∃ pointer latest, s.store.configPublications.lookup tenantId = some pointer ∧
      s.store.configSnapshot pointer.snapshotId = some latest ∧ latest.tenantId = tenantId ∧
      snapshot.version ≤ latest.version

/-- A publication reads the latest version while no other one of its tenant is in progress, and that version is not the
largest. -/
def ReadApart (s : PublishRuntime) : PublishAction → Prop
  | .read call => (∀ snapshot ∈ s.publishing, snapshot.tenantId ≠ call.tenantId) ∧
      ∀ pointer, s.store.configPublications.lookup call.tenantId = some pointer → pointer.version < i64Max
  | .insert _ => True

section Publications

variable {env : GatewayEnv} {s next : PublishRuntime} {tenantId : String}

structure PublishingOne (s : PublishRuntime) (tenantId : String) : Prop where
  published : Published s.store tenantId
  fresh : ∀ snapshot ∈ s.publishing, s.store.hasConfigSnapshot snapshot.snapshotId = false
  ids : s.publishing.Pairwise (·.snapshotId ≠ ·.snapshotId)
  single : s.publishing.Pairwise (·.tenantId ≠ ·.tenantId)
  newer : ∀ snapshot ∈ s.publishing, snapshot.tenantId = tenantId → 1 ≤ snapshot.version ∧
    ∀ pointer, s.store.configPublications.lookup tenantId = some pointer → pointer.version < snapshot.version

theorem hasConfigSnapshot_insert (store : GatewayStore) (snapshot : PublishedConfigSnapshot) (id : String) :
    (store.insertConfigSnapshot snapshot).hasConfigSnapshot id =
      (store.hasConfigSnapshot id || snapshot.snapshotId == id) := by
  simp [GatewayStore.hasConfigSnapshot, GatewayStore.insertConfigSnapshot, List.any_append]

theorem PublishingOne.read (h : PublishingOne s tenantId) {call : PublishCall} {snapshot : PublishedConfigSnapshot}
    (htaken : ¬ s.taken call.snapshotId) (hprepared : preparedSnapshot env s.store call = .ok snapshot)
    (hapart : ReadApart s (.read call)) : PublishingOne { s with publishing := snapshot :: s.publishing } tenantId := by
  obtain ⟨hid, htenant, hversion⟩ := preparedSnapshot_ok hprepared
  simp only [PublishRuntime.taken, Bool.or_eq_true, not_or, Bool.not_eq_true] at htaken
  obtain ⟨hstore, hpublishing⟩ := htaken
  refine ⟨h.published, List.forall_mem_cons.mpr ⟨hid ▸ hstore, h.fresh⟩, List.pairwise_cons.mpr ⟨?_, h.ids⟩,
    List.pairwise_cons.mpr ⟨?_, h.single⟩, List.forall_mem_cons.mpr ⟨fun hown => ?_, h.newer⟩⟩
  · intro other hother heq
    have hfree := List.any_eq_false.mp hpublishing other hother
    exact hfree (by simp [← heq, hid])
  · intro other hother heq
    exact hapart.1 other hother (heq ▸ htenant)
  · have heq : call.tenantId = tenantId := htenant.symm.trans hown
    rw [hversion, heq]
    exact h.published.nextConfigVersion (heq ▸ hapart.2)

theorem PublishingOne.insert (h : PublishingOne s tenantId) {index : Nat} {snapshot : PublishedConfigSnapshot}
    (hindex : s.publishing[index]? = some snapshot) :
    PublishingOne ⟨s.store.insertConfigSnapshot snapshot, s.publishing.eraseIdx index⟩ tenantId := by
  have hmem : snapshot ∈ s.publishing := List.mem_of_getElem? hindex
  have hids := ne_of_eraseIdx h.ids hindex
  have hsingle := ne_of_eraseIdx h.single hindex
  have hfresh := h.fresh snapshot hmem
  refine ⟨?_, fun other hother => ?_, h.ids.sublist (List.eraseIdx_sublist _ _),
    h.single.sublist (List.eraseIdx_sublist _ _), fun other hother hown => ?_⟩
  · by_cases hown : snapshot.tenantId = tenantId
    · exact h.published.insert_own hown hfresh (h.newer snapshot hmem hown).1 (h.newer snapshot hmem hown).2
    · exact h.published.insert_other hown hfresh
  · rw [hasConfigSnapshot_insert, h.fresh other (List.mem_of_mem_eraseIdx hother)]
    simpa using (hids other hother).symm
  · obtain ⟨hpositive, hnewer⟩ := h.newer other (List.mem_of_mem_eraseIdx hother) hown
    refine ⟨hpositive, fun pointer hpointer => hnewer pointer ?_⟩
    have hne : tenantId ≠ snapshot.tenantId := fun heq => hsingle other hother (hown.trans heq)
    rwa [← show (s.store.insertConfigSnapshot snapshot).configPublications.lookup tenantId =
      s.store.configPublications.lookup tenantId from AList.lookup_insert_ne hne]

theorem PublishingOne.step (h : PublishingOne s tenantId) {action : PublishAction} (hapart : ReadApart s action)
    (hnext : publishStep env s action = some next) : PublishingOne next tenantId := by
  cases action with
  | read call =>
    simp only [publishStep] at hnext
    split at hnext
    · cases hnext
    · rename_i htaken
      split at hnext
      · cases hnext
        exact h
      · rename_i snapshot hprepared
        cases hnext
        exact h.read htaken hprepared hapart
  | insert index =>
    simp only [publishStep] at hnext
    split at hnext
    · cases hnext
    · rename_i snapshot hindex
      cases hnext
      exact h.insert hindex

theorem PublishingOne.linear (h : PublishingOne s tenantId) : LinearPublication s tenantId := by
  refine ⟨h.published.distinct, fun _ snapshot hmem htenant => ?_⟩
  obtain ⟨pointer, hpointer, hle⟩ := h.published.bounded snapshot hmem htenant
  obtain ⟨latest, hlatest, hown, hversion, -⟩ := h.published.pointed pointer hpointer
  exact ⟨pointer, latest, hpointer, hlatest, hown, hversion ▸ hle⟩

end Publications

/-- Publications that read one after the other are linear for every tenant. -/
theorem publications_linear (env : GatewayEnv) (tenantId : String) {actions : List PublishAction}
    {final : PublishRuntime} (hapart : Meets (publishStep env) ReadApart .start actions)
    (hrun : run (publishStep env) .start actions = some final) : LinearPublication final tenantId := by
  have hstart : PublishingOne .start tenantId := by
    refine ⟨⟨fun _ hpointer => (Option.some_ne_none _ hpointer.symm).elim, ?_, ?_⟩, ?_, ?_, ?_, ?_⟩ <;>
      simp [PublishRuntime.start, GatewayStore.empty]
  have hstep (s : PublishRuntime) (action : PublishAction) (next : PublishRuntime) (h : PublishingOne s tenantId)
      (hread : ReadApart s action) (hnext : publishStep env s action = some next) : PublishingOne next tenantId :=
    h.step hread hnext
  exact (run_invariant hstep hstart hapart hrun).linear

def publishNothing (snapshotId : String) : PublishCall := ⟨"tenant_1", .publish ⟨none, none⟩, snapshotId⟩

def nothingParsed : GatewayEnv := ⟨fun uri => .error uri, fun _ => .ok (), fun key _ => key⟩

/-- A publication and its rollback, one after the other. -/
def publishedInSequence : List PublishAction :=
  [.read (publishNothing "cfg_1"), .insert 0, .read ⟨"tenant_1", .rollback "cfg_1", "cfg_2"⟩, .insert 0]

theorem publishedInSequence_apart : Meets (publishStep nothingParsed) ReadApart .start publishedInSequence := by
  refine Meets.cons rfl ⟨by simp [PublishRuntime.start], by rintro pointer ⟨⟩⟩ ?_
  refine Meets.cons rfl trivial ?_
  refine Meets.cons rfl ⟨by simp [PublishRuntime.start], ?_⟩ ?_
  · rintro pointer ⟨⟩
    decide
  · exact Meets.cons rfl trivial trivial

theorem publishedInSequence_linear :
    ∃ final, run (publishStep nothingParsed) .start publishedInSequence = some final ∧
      final.store.configSnapshots.map (·.version) = [1, 2] ∧ LinearPublication final "tenant_1" := by
  obtain ⟨final, hrun, hversions⟩ : ∃ final, run (publishStep nothingParsed) .start publishedInSequence = some final ∧
      final.store.configSnapshots.map (·.version) = [1, 2] := ⟨_, rfl, rfl⟩
  exact ⟨final, hrun, hversions, publications_linear nothingParsed "tenant_1" publishedInSequence_apart hrun⟩

/-- Two publishers read before either inserts and take one version; the slower one then points the tenant back. -/
theorem publishedAtOnce_notLinear :
    ∃ final, run (publishStep nothingParsed) .start [.read (publishNothing "cfg_1"), .read (publishNothing "cfg_2"),
        .insert 0, .read (publishNothing "cfg_3"), .insert 0, .insert 0] = some final ∧
      final.publishing = [] ∧
      final.store.configSnapshots.map (fun snapshot => (snapshot.snapshotId, snapshot.version)) =
        [("cfg_2", 1), ("cfg_3", 2), ("cfg_1", 1)] ∧
      final.store.configPublications.lookup "tenant_1" = some ⟨"cfg_1", 1⟩ ∧ ¬ LinearPublication final "tenant_1" := by
  refine ⟨_, rfl, rfl, rfl, rfl, fun h => ?_⟩
  have hfirst := List.rel_of_pairwise_cons h.distinct (List.mem_cons_of_mem _ (List.mem_singleton_self _))
  exact hfirst rfl

end Starweaver.Gateway
