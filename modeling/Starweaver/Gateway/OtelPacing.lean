import Mathlib.Data.List.Chain
import Starweaver.Gateway.OtelExporterRuns

/-! One worker leaves a configuration its interval between two due attempts. -/

namespace Starweaver.Gateway

open Library Library.AssocMap Library.Calendar Library.Checks Library.Machine

/-- A tick after the due configurations comes no sooner than the interval that it read. -/
def Spaced (earlier later : OtelAttempt) : Prop :=
  later.tick.mode = .dueOnly →
    later.config.exportIntervalSeconds ≤ secondsSince later.tick.now earlier.tick.now

/-- The worker starts a tick when it has none under way. -/
def StartsAlone (s : OtelSystem) : OtelAction → Prop
  | .startTick _ => s.inProgress = []
  | _ => True

/-- The configuration at hand was due when the tick looked, and nothing was recorded since. -/
def OtelTask.Due (s : OtelSystem) : OtelTask → Prop
  | .exporting _ _ => True
  | .recording run config _ _ =>
    run.tick.mode = .dueOnly → otelExportConfigDueForAttempt s config run.tick.now = true

structure Paced (s : OtelSystem) : Prop where
  health : ∀ id, s.health.lookup id = healthOf (s.attemptsFor id)
  single : s.inProgress.length ≤ 1
  due : ∀ task ∈ s.inProgress, task.Due s
  spaced : ∀ id, (s.attemptsFor id).IsChain Spaced

section Steps

variable {s next : OtelSystem} {attempts : List OtelAttempt} {earlier attempt : OtelAttempt}

theorem healthOf_getLast (h : earlier ∈ attempts.getLast?) :
    ∃ record, healthOf attempts = some record ∧ record.lastAttemptedAt = earlier.tick.now := by
  cases attempts with
  | nil => cases h
  | cons first rest =>
    refine ⟨_, rfl, ?_⟩
    have hlast : rest.getLastD first = earlier := by
      simpa [List.getLast?_cons] using h
    dsimp only
    rw [hlast]

/-- Due by the health that the attempts come to is spaced from the last of them. -/
theorem spaced_of_due (hhealth : ∀ id, s.health.lookup id = healthOf (s.attemptsFor id))
    (hdue : attempt.tick.mode = .dueOnly → otelExportConfigDueForAttempt s attempt.config attempt.tick.now = true)
    (hlast : earlier ∈ (s.attemptsFor attempt.configId).getLast?) : Spaced earlier attempt := by
  intro hmode
  obtain ⟨record, hrecord, hwhen⟩ := healthOf_getLast hlast
  have hlookup : s.health.lookup attempt.config.otelExportConfigId = some record := (hhealth _).trans hrecord
  have hchecked := hdue hmode
  unfold otelExportConfigDueForAttempt at hchecked
  rw [hlookup] at hchecked
  rw [← hwhen]
  exact of_decide_eq_true hchecked

theorem isChain_concat (hspaced : ∀ id, (s.attemptsFor id).IsChain Spaced)
    (hattempt : ∀ earlier ∈ (s.attemptsFor attempt.configId).getLast?, Spaced earlier attempt) (id : String) :
    ((s.attempts ++ [attempt]).filter fun attempt => attempt.configId = id).IsChain Spaced := by
  rw [List.filter_append]
  by_cases hid : attempt.configId = id
  · subst hid
    apply List.IsChain.append (hspaced attempt.configId)
    · simp
    · intro earlier hearlier later hlater
      have hsame : later = attempt := by simpa using hlater.symm
      exact hsame ▸ hattempt earlier hearlier
  · simpa [hid, OtelSystem.attemptsFor] using hspaced id

theorem recordOtelExporterHealth_eq (h : recordOtelExporterHealth s attempt = .ok next) :
    next = { s with
      health := s.health.insert attempt.configId (nextHealth (s.health.lookup attempt.configId) attempt)
      attempts := s.attempts ++ [attempt] } := by
  unfold recordOtelExporterHealth at h
  split at h
  · cases h
  split at h
  · cases h
  split at h
  · cases h
  · cases h
    rfl

/-- What writes neither the health nor the attempts leaves them paced. -/
theorem Paced.of_unrecorded (h : Paced s) (hhealth : next.health = s.health) (hattempts : next.attempts = s.attempts)
    (hsingle : next.inProgress.length ≤ 1) (hdue : ∀ task ∈ next.inProgress, task.Due s) : Paced next := by
  have hsame := attemptsFor_of_same hattempts
  refine ⟨fun id => ?_, hsingle, fun task htask => ?_, fun id => ?_⟩
  · rw [hhealth, hsame, h.health]
  · have hchecked := hdue task htask
    cases task with
    | exporting run configs => exact trivial
    | recording run config result configs =>
      intro hmode
      have h := hchecked hmode
      unfold otelExportConfigDueForAttempt at *
      rwa [hhealth]
  · rw [hsame]
    exact h.spaced id

theorem Paced.record (h : Paced s) (hidle : s.inProgress = []) {run : OtelRun} {config : OtelExportConfigRecord}
    {result : OtelExportAttemptResult} {configs : List OtelExportConfigRecord}
    (hdue : (OtelTask.recording run config result configs).Due s) (env : OtelEnv) (id : String) :
    Paced (resumeExport s env id (.recording run config result configs)) := by
  dsimp only [resumeExport]
  split
  · exact h.of_unrecorded rfl rfl h.single h.due
  · rename_i next hnext
    have heq := recordOtelExporterHealth_eq hnext
    subst heq
    refine ⟨health_insert h.health ⟨run.tick, config, result, id⟩, by simp [hidle], fun task htask => ?_, ?_⟩
    · have htask : task = .exporting { run with made := run.made ++ [⟨run.tick, config, result, id⟩] } configs := by
        simpa [hidle] using htask
      rw [htask]
      exact trivial
    · exact isChain_concat h.spaced fun earlier hearlier => spaced_of_due h.health hdue hearlier

theorem Paced.resume (h : Paced s) (hidle : s.inProgress = []) {task : OtelTask} (hdue : task.Due s) (env : OtelEnv)
    (id : String) : Paced (resumeExport s env id task) := by
  cases task with
  | recording run config result configs => exact h.record hidle hdue env id
  | exporting run configs =>
    cases configs with
    | nil => exact h.of_unrecorded rfl rfl h.single h.due
    | cons config configs =>
      dsimp only [resumeExport]
      split
      · exact h.of_unrecorded rfl rfl (by simp [hidle]) (by simp [hidle, OtelTask.Due])
      · rename_i hnotSkipped
        split
        · exact h.of_unrecorded rfl rfl h.single h.due
        · refine h.of_unrecorded rfl rfl ?_ ?_
          · simp [hidle]
          · simpa [hidle, OtelTask.Due] using hnotSkipped

theorem otelStep_paced (s : OtelSystem) (action : OtelAction) (next : OtelSystem) (h : Paced s)
    (halone : StartsAlone s action) (hstep : otelStep s action = some next) : Paced next := by
  cases action with
  | createOtelExportConfig config =>
    dsimp only [otelStep] at hstep
    split at hstep
    · cases hstep
    · cases hstep
      exact h.of_unrecorded rfl rfl h.single h.due
  | updateOtelExportConfig config =>
    dsimp only [otelStep] at hstep
    split at hstep
    · cases hstep
      exact h
    · cases hstep
      exact h.of_unrecorded rfl rfl h.single h.due
  | startTick tick =>
    have hidle : s.inProgress = [] := halone
    cases hstep
    exact h.of_unrecorded rfl rfl (by simp [hidle]) (by simp [hidle, OtelTask.Due])
  | resume task env id =>
    dsimp only [otelStep] at hstep
    split at hstep
    · cases hstep
    · rename_i found hfound
      cases hstep
      have hlone : s.inProgress.eraseIdx task = [] := by
        have hlt := (List.getElem?_eq_some_iff.mp hfound).1
        have hsingle := h.single
        apply List.eq_nil_of_length_eq_zero
        rw [List.length_eraseIdx_of_lt hlt]
        omega
      have hrest : Paced { s with inProgress := s.inProgress.eraseIdx task } := by
        exact h.of_unrecorded rfl rfl (by simp [hlone]) (by simp [hlone])
      apply hrest.resume hlone
      exact h.due found (List.mem_of_getElem? hfound)

end Steps

theorem paced_empty : Paced .empty := by
  refine ⟨fun id => rfl, Nat.zero_le 1, fun task htask => ?_, fun id => List.IsChain.nil⟩
  cases htask

/-- A worker that takes its ticks one after another comes back to a configuration when the interval that it has by then
is over since the last attempt, succeeded or not, and whichever kind of tick made it. -/
theorem dueAttempts_spaced {actions : List OtelAction} {final : OtelSystem}
    (halone : Meets otelStep StartsAlone .empty actions) (hrun : run otelStep .empty actions = some final)
    (id : String) : (final.attemptsFor id).IsChain Spaced :=
  (run_invariant otelStep_paced paced_empty halone hrun).spaced id

instance (s : OtelSystem) (action : OtelAction) : Decidable (StartsAlone s action) :=
  match action with
  | .startTick _ => decidable_of_iff (s.inProgress.isEmpty = true) List.isEmpty_iff
  | .createOtelExportConfig _ | .updateOtelExportConfig _ | .resume _ _ _ => .isTrue trivial

/-- The second tick comes too early, the third does not. -/
def oneWorkerExports : List OtelAction :=
  [.createOtelExportConfig sampleExportConfig, .startTick (exportTick "worker_a" 0 .dueOnly),
    .resume 0 (collectorEnv none) "otelh_1", .resume 0 (collectorEnv none) "otelh_1", .resume 0 (collectorEnv none) "",
    .startTick (exportTick "worker_a" 59 .dueOnly), .resume 0 (collectorEnv none) "", .resume 0 (collectorEnv none) "",
    .startTick (exportTick "worker_a" 60 .dueOnly), .resume 0 (collectorEnv (some 200)) "otelh_2",
    .resume 0 (collectorEnv none) "otelh_3", .resume 0 (collectorEnv none) ""]

theorem dueAttempts_spaced_oneWorker :
    ∃ final, run otelStep .empty oneWorkerExports = some final ∧ final.finished.length = 3 ∧
      (final.attemptsFor "otel_1").length = 2 ∧ (final.attemptsFor "otel_1").IsChain Spaced := by
  have halone : Meets otelStep StartsAlone .empty oneWorkerExports := by decide +kernel
  have hfacts : ((run otelStep .empty oneWorkerExports).map fun final =>
      (final.finished.length, (final.attemptsFor "otel_1").length)) = some (3, 2) := by
    decide +kernel
  obtain ⟨final, hrun, hvalues⟩ := Option.map_eq_some_iff.mp hfacts
  obtain ⟨hfinished, hattempts⟩ := Prod.mk.inj hvalues
  exact ⟨final, hrun, hfinished, hattempts, dueAttempts_spaced halone hrun "otel_1"⟩

end Starweaver.Gateway
