import Starweaver.Gateway.OtelExporter

/-! However the workers take turns, the health of a configuration is what its attempts come to. -/

namespace Starweaver.Gateway

open Library Library.AssocMap Library.Calendar Library.Checks Library.Machine Library.MachineInt Library.SortBy

def OtelAttempt.configId (attempt : OtelAttempt) : String := attempt.config.otelExportConfigId

def OtelSystem.attemptsFor (s : OtelSystem) (id : String) : List OtelAttempt :=
  s.attempts.filter fun attempt => attempt.configId = id

def OtelAttempt.succeeded (attempt : OtelAttempt) : Bool := decide (attempt.result.status = .succeeded)

def OtelAttempt.failed (attempt : OtelAttempt) : Bool := decide (attempt.result.status = .retryableFailed)

/-- The health that a history of attempts comes to: the last attempt, the failures since one that did not fail, the last
success, and the id and the time of the first attempt. -/
def healthOf : List OtelAttempt → Option OtelExporterHealthRecord
  | [] => none
  | first :: rest =>
    let last := rest.getLastD first
    some
      { otelExporterHealthId := first.otelExporterHealthId
        tenantId := last.tick.tenantId
        otelExportConfigId := last.configId
        workerId := last.tick.workerId
        status := last.result.status
        failureCount := capped ((first :: rest).reverse.takeWhile (·.failed)).length
        droppedMetricCount := last.result.droppedMetricCount
        exportedMetricCount := last.result.exportedMetricCount
        lastError := last.result.lastError
        lastAttemptedAt := last.tick.now
        lastSuccessfulExportAt := ((first :: rest).reverse.find? (·.succeeded)).map (·.tick.now)
        createdAt := first.tick.now
        updatedAt := last.tick.now }

section History

variable {attempts : List OtelAttempt} {attempt : OtelAttempt}

theorem failed_eq_false_iff : attempt.failed = false ↔
    attempt.result.status = .succeeded ∨ attempt.result.status = .disabled := by
  unfold OtelAttempt.failed
  cases attempt.result.status <;> simp

theorem capped_succ {n : Nat} : saturatingAdd (capped n) 1 = capped ((n + 1 : Nat) : Int) := by
  have hone : (1 : Int) = capped 1 := by decide
  rw [hone, saturatingAdd_capped (Int.natCast_nonneg n) (by decide), Nat.cast_succ]

theorem healthOf_failureCount {record : OtelExporterHealthRecord} (h : healthOf attempts = some record) :
    record.failureCount = capped (attempts.reverse.takeWhile (·.failed)).length := by
  cases attempts with
  | nil => cases h
  | cons first rest =>
    cases h
    rfl

/-- The count of the failures so far, from the one before the attempt. -/
theorem failureCount_concat (attempts : List OtelAttempt) (attempt : OtelAttempt) :
    (nextHealth (healthOf attempts) attempt).failureCount =
      capped ((attempts ++ [attempt]).reverse.takeWhile (·.failed)).length := by
  have hreverse : (attempts ++ [attempt]).reverse = attempt :: attempts.reverse := by simp
  rw [hreverse]
  by_cases hfailed : attempt.failed = true
  · have hstatus : ¬(attempt.result.status = .succeeded ∨ attempt.result.status = .disabled) := fun h => by
      rw [failed_eq_false_iff.mpr h] at hfailed
      cases hfailed
    rw [List.takeWhile_cons_of_pos hfailed, List.length_cons]
    dsimp only [nextHealth]
    rw [if_neg hstatus]
    cases hprevious : healthOf attempts with
    | none =>
      cases attempts with
      | nil => decide
      | cons first rest => cases hprevious
    | some record =>
      rw [Option.map_some, Option.getD_some, healthOf_failureCount hprevious]
      exact capped_succ
  · rw [List.takeWhile_cons_of_neg hfailed]
    dsimp only [nextHealth]
    rw [if_pos (failed_eq_false_iff.mp (by simpa using hfailed))]
    rfl

theorem healthOf_lastSuccessful {record : OtelExporterHealthRecord} (h : healthOf attempts = some record) :
    record.lastSuccessfulExportAt = (attempts.reverse.find? (·.succeeded)).map (·.tick.now) := by
  cases attempts with
  | nil => cases h
  | cons first rest =>
    cases h
    rfl

theorem lastSuccessful_concat (attempts : List OtelAttempt) (attempt : OtelAttempt) :
    (nextHealth (healthOf attempts) attempt).lastSuccessfulExportAt =
      ((attempts ++ [attempt]).reverse.find? (·.succeeded)).map (·.tick.now) := by
  have hreverse : (attempts ++ [attempt]).reverse = attempt :: attempts.reverse := by simp
  rw [hreverse]
  by_cases hsucceeded : attempt.result.status = .succeeded
  · simp [nextHealth, hsucceeded, OtelAttempt.succeeded]
  · have hnot : attempt.succeeded = false := by simp [OtelAttempt.succeeded, hsucceeded]
    rw [List.find?_cons_of_neg (by simp [hnot])]
    dsimp only [nextHealth]
    rw [if_neg hsucceeded]
    cases hprevious : healthOf attempts with
    | none =>
      cases attempts with
      | nil => rfl
      | cons first rest => cases hprevious
    | some record => exact healthOf_lastSuccessful hprevious

/-- One more attempt changes the health as the store changes it. -/
theorem healthOf_concat (attempts : List OtelAttempt) (attempt : OtelAttempt) :
    healthOf (attempts ++ [attempt]) = some (nextHealth (healthOf attempts) attempt) := by
  have hcount := failureCount_concat attempts attempt
  have hsuccess := lastSuccessful_concat attempts attempt
  cases attempts with
  | nil =>
    rw [List.nil_append] at *
    dsimp only [healthOf] at *
    rw [← hcount, ← hsuccess]
    rfl
  | cons first rest =>
    have hlast : (rest ++ [attempt]).getLastD first = attempt := by simp
    rw [List.cons_append] at *
    dsimp only [healthOf] at *
    rw [hlast, ← hcount, ← hsuccess]
    rfl

end History

section Results

/-- What the counts of a result can be. -/
structure OtelExportAttemptResult.Reported (result : OtelExportAttemptResult) : Prop where
  exported : 0 ≤ result.exportedMetricCount ∧ result.exportedMetricCount ≤ i64Max
  dropped : 0 ≤ result.droppedMetricCount ∧ result.droppedMetricCount ≤ i64Max
  exportedOnly : result.status ≠ .succeeded → result.exportedMetricCount = 0
  droppedOnly : result.status ≠ .retryableFailed → result.droppedMetricCount = 0

theorem zero_reported : (0 : Int) ≤ 0 ∧ (0 : Int) ≤ i64Max := by decide

theorem reported_disabled : OtelExportAttemptResult.disabled.Reported := by
  exact ⟨zero_reported, zero_reported, fun _ => rfl, fun _ => rfl⟩

variable {count : Int}

theorem reported_succeeded (hcount : 0 ≤ count ∧ count ≤ i64Max) :
    (OtelExportAttemptResult.succeeded count).Reported := by
  exact ⟨hcount, zero_reported, fun h => absurd rfl h, fun _ => rfl⟩

theorem reported_failed (hcount : 0 ≤ count ∧ count ≤ i64Max) (error : String) :
    (OtelExportAttemptResult.failed count error).Reported := by
  exact ⟨zero_reported, hcount, fun _ => rfl, fun h => absurd rfl h⟩

theorem executeOtelExport_cases (env : OtelEnv) (config : OtelExportConfigRecord) (count : Int) (now : DateTime)
    (transport : OtelExporterTransport) :
    executeOtelExport env config count now transport = .succeeded count ∨
      ∃ error, executeOtelExport env config count now transport = .failed count error := by
  cases transport with
  | synthetic =>
    dsimp only [executeOtelExport, syntheticOtelExportResult]
    split
    · exact .inr ⟨_, rfl⟩
    · exact .inl rfl
  | http =>
    dsimp only [executeOtelExport]
    split
    · exact .inr ⟨_, rfl⟩
    split
    · exact .inr ⟨_, rfl⟩
    split
    · exact .inr ⟨_, rfl⟩
    split
    · exact .inr ⟨_, rfl⟩
    split
    · exact .inl rfl
    split
    · exact .inr ⟨_, rfl⟩
    · exact .inr ⟨_, rfl⟩

theorem executeOtelExport_reported (env : OtelEnv) (config : OtelExportConfigRecord) (now : DateTime)
    (transport : OtelExporterTransport) (metricCount : Nat) :
    (executeOtelExport env config (capped metricCount) now transport).Reported := by
  have hcount : 0 ≤ capped metricCount ∧ capped metricCount ≤ i64Max :=
    ⟨capped_nonneg (Int.natCast_nonneg _), capped_le _⟩
  rcases executeOtelExport_cases env config (capped metricCount) now transport with h | ⟨error, h⟩
  · rw [h]
    exact reported_succeeded hcount
  · rw [h]
    exact reported_failed hcount error

end Results

/-- What a summary says of the attempts of its tick. -/
structure SumsUp (tick : OtelTick) (made : List OtelAttempt) (summary : OtelExporterRunSummary) : Prop where
  tenantId : summary.tenantId = tick.tenantId
  workerId : summary.workerId = tick.workerId
  attempted : summary.attemptedConfigCount = made.length
  succeeded : summary.succeededCount = made.countP (·.succeeded)
  failed : summary.failedCount = made.countP (·.failed)
  disabled : summary.disabledCount = made.countP fun attempt => decide (attempt.result.status = .disabled)
  exported : summary.exportedMetricCount = capped (made.map (·.result.exportedMetricCount)).sum
  dropped : summary.droppedMetricCount = capped (made.map (·.result.droppedMetricCount)).sum

section Summaries

variable {tick : OtelTick} {made : List OtelAttempt} {summary : OtelExporterRunSummary} {attempt : OtelAttempt}

theorem sumsUp_start (tick : OtelTick) : SumsUp tick [] (.start tick.tenantId tick.workerId) := by
  constructor <;> rfl

theorem sum_nonneg {value : OtelAttempt → Int} (h : ∀ attempt ∈ made, 0 ≤ value attempt) : 0 ≤ (made.map value).sum := by
  apply List.sum_nonneg
  simpa using h

theorem saturatingAdd_reported {total count : Int} (htotal : 0 ≤ total) (hcount : 0 ≤ count ∧ count ≤ i64Max) :
    saturatingAdd (capped total) count = capped (total + count) := by
  rw [← saturatingAdd_capped htotal hcount.1, capped_of_le hcount.2]

theorem SumsUp.add (h : SumsUp tick made summary) (hmade : ∀ attempt ∈ made, attempt.result.Reported)
    (hattempt : attempt.result.Reported) : SumsUp tick (made ++ [attempt]) (summary.add attempt.result) := by
  have hexported := sum_nonneg fun other hother => (hmade other hother).exported.1
  have hdropped := sum_nonneg fun other hother => (hmade other hother).dropped.1
  obtain ⟨htenant, hworker, hattempted, hsucceeded, hfailed, hdisabled, hsumExported, hsumDropped⟩ := h
  cases hstatus : attempt.result.status with
  | succeeded =>
    have hzero := hattempt.droppedOnly (by rw [hstatus]; decide)
    constructor <;>
      simp [OtelExporterRunSummary.add, hstatus, htenant, hworker, hattempted, hsucceeded, hfailed, hdisabled,
        hsumExported, hsumDropped, hzero, OtelAttempt.succeeded, OtelAttempt.failed,
        saturatingAdd_reported hexported hattempt.exported]
  | disabled =>
    have hzero := hattempt.droppedOnly (by rw [hstatus]; decide)
    have hnone := hattempt.exportedOnly (by rw [hstatus]; decide)
    constructor <;>
      simp [OtelExporterRunSummary.add, hstatus, htenant, hworker, hattempted, hsucceeded, hfailed, hdisabled,
        hsumExported, hsumDropped, hzero, hnone, OtelAttempt.succeeded, OtelAttempt.failed]
  | retryableFailed =>
    have hnone := hattempt.exportedOnly (by rw [hstatus]; decide)
    constructor <;>
      simp [OtelExporterRunSummary.add, hstatus, htenant, hworker, hattempted, hsucceeded, hfailed, hdisabled,
        hsumExported, hsumDropped, hnone, OtelAttempt.succeeded, OtelAttempt.failed,
        saturatingAdd_reported hdropped hattempt.dropped]

end Summaries

section Linked

/-- How a tick stands that has made its attempts and has the given configurations before it: of those that it found it has
left out none, unless it is after the due ones only. -/
structure OtelRun.Stands (s : OtelSystem) (run : OtelRun) (configs : List OtelExportConfigRecord) : Prop where
  among : run.made.Sublist s.attempts
  own : ∀ attempt ∈ run.made, attempt.tick = run.tick
  reported : ∀ attempt ∈ run.made, attempt.result.Reported
  distinct : (run.listed.map (·.otelExportConfigId)).Nodup
  tenant : ∀ config ∈ run.listed, ∃ stored, s.configs.lookup config.otelExportConfigId = some stored ∧
    stored.tenantId = run.tick.tenantId
  covered : (run.made.map (·.config) ++ configs).Sublist run.listed
  all : run.tick.mode = .all → run.made.map (·.config) ++ configs = run.listed

def OtelTask.Linked (s : OtelSystem) : OtelTask → Prop
  | .exporting run configs => run.Stands s configs ∧ SumsUp run.tick run.made run.summary
  | .recording run config result configs =>
    run.Stands s (config :: configs) ∧ result.Reported ∧
      ∃ before, SumsUp run.tick run.made before ∧ run.summary = before.add result

/-- A tick is over: with a summary when it has gone through its configurations, and otherwise because the metrics of one
could not be read. -/
structure FinishedTick.Linked (unread : GatewayError → Prop) (s : OtelSystem) (finished : FinishedTick) : Prop where
  stands : ∃ configs, finished.run.Stands s configs
  complete : ∀ summary, finished.outcome = .ok summary →
    finished.run.Stands s [] ∧ SumsUp finished.run.tick finished.run.made summary
  broken : ∀ error, finished.outcome = .error error → unread error

structure Exported (unread : GatewayError → Prop) (s : OtelSystem) : Prop where
  health : ∀ id, s.health.lookup id = healthOf (s.attemptsFor id)
  keys : ∀ id config, s.configs.lookup id = some config → config.otelExportConfigId = id
  tasks : ∀ task ∈ s.inProgress, task.Linked s
  finished : ∀ finished ∈ s.finished, finished.Linked unread s

/-- No attempt is forgotten, and no configuration changes its tenant. -/
structure OtelSystem.Grows (s next : OtelSystem) : Prop where
  attempts : s.attempts.Sublist next.attempts
  configs : ∀ id stored, s.configs.lookup id = some stored →
    ∃ after, next.configs.lookup id = some after ∧ after.tenantId = stored.tenantId

variable {unread : GatewayError → Prop} {s next : OtelSystem} {run : OtelRun} {configs : List OtelExportConfigRecord}

theorem grows_of_same (hattempts : next.attempts = s.attempts) (hconfigs : next.configs = s.configs) : s.Grows next := by
  refine ⟨hattempts ▸ List.Sublist.refl _, fun id stored hstored => ⟨stored, ?_, rfl⟩⟩
  rw [hconfigs, hstored]

theorem OtelRun.Stands.mono (h : run.Stands s configs) (hgrows : s.Grows next) : run.Stands next configs := by
  refine { h with among := h.among.trans hgrows.attempts, tenant := fun config hconfig => ?_ }
  obtain ⟨stored, hstored, htenant⟩ := h.tenant config hconfig
  obtain ⟨after, hafter, hsame⟩ := hgrows.configs _ stored hstored
  exact ⟨after, hafter, hsame.trans htenant⟩

theorem OtelTask.Linked.mono {task : OtelTask} (h : task.Linked s) (hgrows : s.Grows next) : task.Linked next := by
  cases task with
  | exporting run configs => exact ⟨h.1.mono hgrows, h.2⟩
  | recording run config result configs => exact ⟨h.1.mono hgrows, h.2⟩

theorem FinishedTick.Linked.mono {finished : FinishedTick} (h : finished.Linked unread s) (hgrows : s.Grows next) :
    finished.Linked unread next := by
  obtain ⟨configs, hstands⟩ := h.stands
  refine ⟨⟨configs, hstands.mono hgrows⟩, fun summary hsummary => ?_, h.broken⟩
  obtain ⟨hcomplete, hsums⟩ := h.complete summary hsummary
  exact ⟨hcomplete.mono hgrows, hsums⟩

theorem attemptsFor_of_same (hattempts : next.attempts = s.attempts) (id : String) :
    next.attemptsFor id = s.attemptsFor id := by
  unfold OtelSystem.attemptsFor
  rw [hattempts]

/-- The configuration at hand is passed over by a tick that is after the due ones. -/
theorem OtelRun.Stands.skip {config : OtelExportConfigRecord} (h : run.Stands s (config :: configs))
    (hmode : run.tick.mode = .dueOnly) : run.Stands s configs := by
  refine { h with covered := ?_, all := fun hall => ?_ }
  · apply List.Sublist.trans _ h.covered
    simp
  · rw [hmode] at hall
    cases hall

/-- The configuration at hand has its attempt recorded. -/
theorem OtelRun.Stands.concat {attempt : OtelAttempt} (h : run.Stands s (attempt.config :: configs))
    (hown : attempt.tick = run.tick) (hreported : attempt.result.Reported) (health : Index OtelExporterHealthRecord) :
    OtelRun.Stands { s with health := health, attempts := s.attempts ++ [attempt] }
      { run with made := run.made ++ [attempt] } configs := by
  have hmade : (run.made ++ [attempt]).map (·.config) ++ configs = run.made.map (·.config) ++ attempt.config :: configs := by
    simp
  constructor
  · exact h.among.append (List.Sublist.refl _)
  · exact List.forall_mem_append.mpr ⟨h.own, List.forall_mem_singleton.mpr hown⟩
  · exact List.forall_mem_append.mpr ⟨h.reported, List.forall_mem_singleton.mpr hreported⟩
  · exact h.distinct
  · exact h.tenant
  · exact hmade ▸ h.covered
  · exact fun hall => hmade.trans (h.all hall)

theorem OtelRun.Stands.nodup (h : run.Stands s configs) : (run.made.map (·.configId)).Nodup := by
  have hsublist := (List.sublist_append_left _ _).trans h.covered
  have hids := hsublist.map (·.otelExportConfigId)
  rw [List.map_map] at hids
  exact List.Nodup.sublist hids h.distinct

/-- A step that records no attempt. -/
theorem Exported.of_unrecorded (h : Exported unread s) (hgrows : s.Grows next) (hhealth : next.health = s.health)
    (hattempts : next.attempts = s.attempts)
    (hkeys : ∀ id config, next.configs.lookup id = some config → config.otelExportConfigId = id)
    (htasks : ∀ task ∈ next.inProgress, task ∈ s.inProgress ∨ task.Linked next)
    (hfinished : ∀ finished ∈ next.finished, finished ∈ s.finished ∨ finished.Linked unread next) :
    Exported unread next := by
  refine ⟨fun id => ?_, hkeys, fun task htask => ?_, fun finished hmem => ?_⟩
  · rw [hhealth, h.health id, attemptsFor_of_same hattempts]
  · rcases htasks task htask with hold | hnew
    · exact (h.tasks task hold).mono hgrows
    · exact hnew
  · rcases hfinished finished hmem with hold | hnew
    · exact (h.finished finished hold).mono hgrows
    · exact hnew

/-- A step of a tick that records nothing, with the task it goes on with. -/
theorem Exported.proceed (h : Exported unread s) {task : OtelTask} (htask : task.Linked s) :
    Exported unread { s with inProgress := task :: s.inProgress } := by
  refine h.of_unrecorded (grows_of_same rfl rfl) rfl rfl h.keys (fun other hother => ?_) fun _ hmem => .inl hmem
  rcases List.mem_cons.mp hother with rfl | hold
  · exact .inr (htask.mono (grows_of_same rfl rfl))
  · exact .inl hold

theorem Exported.finish (h : Exported unread s) {finished : FinishedTick} (hfinished : finished.Linked unread s) :
    Exported unread { s with finished := finished :: s.finished } := by
  refine h.of_unrecorded (grows_of_same rfl rfl) rfl rfl h.keys (fun _ hmem => .inl hmem) fun other hother => ?_
  rcases List.mem_cons.mp hother with rfl | hold
  · exact .inr (hfinished.mono (grows_of_same rfl rfl))
  · exact .inl hold

end Linked

section Recording

variable {unread : GatewayError → Prop} {s : OtelSystem} {env : OtelEnv} {run : OtelRun}
  {config : OtelExportConfigRecord} {result : OtelExportAttemptResult} {configs : List OtelExportConfigRecord}

/-- A reported result of a configuration of the tenant is always recorded. -/
theorem recordOtelExporterHealth_ok (attempt : OtelAttempt) (hreported : attempt.result.Reported)
    {stored : OtelExportConfigRecord} (hstored : s.configs.lookup attempt.config.otelExportConfigId = some stored)
    (htenant : stored.tenantId = attempt.tick.tenantId) :
    recordOtelExporterHealth s attempt = .ok { s with
      health := s.health.insert attempt.configId (nextHealth (s.health.lookup attempt.configId) attempt)
      attempts := s.attempts ++ [attempt] } := by
  unfold recordOtelExporterHealth
  rw [if_neg, hstored]
  · dsimp only
    rw [if_neg (not_not.mpr htenant)]
    rfl
  · rintro (hnegative | hnegative)
    · exact not_lt.mpr hreported.exported.1 hnegative
    · exact not_lt.mpr hreported.dropped.1 hnegative

theorem health_insert (hhealth : ∀ id, s.health.lookup id = healthOf (s.attemptsFor id)) (attempt : OtelAttempt)
    (id : String) :
    (s.health.insert attempt.configId (nextHealth (s.health.lookup attempt.configId) attempt)).lookup id =
      healthOf ((s.attempts ++ [attempt]).filter fun attempt => attempt.configId = id) := by
  by_cases hid : id = attempt.configId
  · subst hid
    rw [AList.lookup_insert, hhealth, List.filter_append, ← healthOf_concat]
    simp [OtelSystem.attemptsFor]
  · rw [AList.lookup_insert_ne hid, hhealth, List.filter_append]
    simp [OtelSystem.attemptsFor, Ne.symm hid]

theorem grows_recorded (s : OtelSystem) (attempt : OtelAttempt) (health : Index OtelExporterHealthRecord) :
    s.Grows { s with health := health, attempts := s.attempts ++ [attempt] } :=
  ⟨List.sublist_append_left _ _, fun _ stored hstored => ⟨stored, hstored, rfl⟩⟩

/-- The outcome of an attempt is recorded, and its tick goes on. -/
theorem Exported.record (h : Exported unread s) (hlinked : (OtelTask.recording run config result configs).Linked s)
    (id : String) : Exported unread (resumeExport s env id (.recording run config result configs)) := by
  obtain ⟨hstands, hreported, before, hsums, hsummary⟩ := hlinked
  obtain ⟨stored, hstored, htenant⟩ := hstands.tenant config (hstands.covered.subset (by simp))
  have hok := recordOtelExporterHealth_ok ⟨run.tick, config, result, id⟩ hreported hstored htenant
  dsimp only [resumeExport]
  rw [hok]
  apply Exported.proceed
  · refine ⟨health_insert h.health ⟨run.tick, config, result, id⟩, h.keys, fun task htask => ?_, fun finished hmem => ?_⟩
    · exact (h.tasks task htask).mono (grows_recorded s _ _)
    · exact (h.finished finished hmem).mono (grows_recorded s _ _)
  · refine ⟨OtelRun.Stands.concat hstands rfl hreported _, ?_⟩
    dsimp only
    rw [hsummary]
    exact hsums.add hstands.reported hreported

/-- A configuration that is due is exported; one that is not is passed over, and the last one ends the tick. -/
theorem Exported.export (h : Exported unread s) (hlinked : (OtelTask.exporting run configs).Linked s)
    (hunread : ∀ config error, env.metricCount config = .error error → unread error) (id : String) :
    Exported unread (resumeExport s env id (.exporting run configs)) := by
  obtain ⟨hstands, hsums⟩ := hlinked
  cases configs with
  | nil =>
    refine h.finish ⟨⟨[], hstands⟩, fun other hother => ?_, fun error herror => by cases herror⟩
    cases hother
    exact ⟨hstands, hsums⟩
  | cons config configs =>
    dsimp only [resumeExport]
    split
    · rename_i hskip
      exact h.proceed ⟨hstands.skip hskip.1, hsums⟩
    cases hcount : env.metricCount config with
    | error error =>
      refine h.finish ⟨⟨config :: configs, hstands⟩, fun other hother => (by cases hother), fun other hother => ?_⟩
      cases hother
      exact hunread config error hcount
    | ok metricCount =>
      refine h.proceed ⟨{ hstands with }, ?_, run.summary, hsums, rfl⟩
      split
      · exact executeOtelExport_reported env config run.tick.now run.tick.transport metricCount
      · exact reported_disabled

theorem Exported.resume (h : Exported unread s) {task : OtelTask} (hlinked : task.Linked s)
    (hunread : ∀ config error, env.metricCount config = .error error → unread error) (id : String) :
    Exported unread (resumeExport s env id task) := by
  cases task with
  | exporting run configs => exact h.export hlinked hunread id
  | recording run config result configs => exact h.record hlinked id

/-- A tick begins with the configurations of its tenant. -/
theorem Exported.stands (h : Exported unread s) (tick : OtelTick) (summary : OtelExporterRunSummary) :
    OtelRun.Stands s ⟨tick, otelExportConfigsForTenant s tick.tenantId, [], summary⟩
      (otelExportConfigsForTenant s tick.tenantId) := by
  have hkeys : s.configs.entries.map (fun entry => entry.2.otelExportConfigId) = s.configs.entries.keys := by
    apply List.map_congr_left
    intro entry hentry
    exact h.keys _ _ (AList.mem_lookup_iff.mpr hentry)
  have hall : ((s.configs.entries.map Sigma.snd).map (·.otelExportConfigId)).Nodup := by
    rw [List.map_map]
    exact hkeys ▸ s.configs.nodupKeys
  constructor
  · exact List.nil_sublist _
  · exact List.forall_mem_nil _
  · exact List.forall_mem_nil _
  · apply ((sortBy_perm _ _).map _).nodup_iff.mpr
    exact List.Nodup.sublist (List.filter_sublist.map _) hall
  · intro config hconfig
    obtain ⟨hmem, htenant⟩ := List.mem_filter.mp (mem_sortBy.mp hconfig)
    obtain ⟨entry, hentry, rfl⟩ := List.mem_map.mp hmem
    have hlookup : s.configs.lookup entry.1 = some entry.2 := AList.mem_lookup_iff.mpr hentry
    refine ⟨entry.2, ?_, by simpa using htenant⟩
    rw [h.keys _ _ hlookup, hlookup]
  · exact List.Sublist.refl _
  · exact fun _ => rfl

/-- A configuration is written under its id, by a call that keeps its tenant. -/
theorem Exported.write (h : Exported unread s) (config : OtelExportConfigRecord)
    (hsame : ∀ stored, s.configs.lookup config.otelExportConfigId = some stored → config.tenantId = stored.tenantId) :
    Exported unread { s with configs := s.configs.insert config.otelExportConfigId config } := by
  have hgrows : s.Grows { s with configs := s.configs.insert config.otelExportConfigId config } := by
    refine ⟨List.Sublist.refl _, fun id stored hstored => ?_⟩
    by_cases hid : id = config.otelExportConfigId
    · subst hid
      exact ⟨config, AList.lookup_insert _, hsame stored hstored⟩
    · exact ⟨stored, by rwa [AList.lookup_insert_ne hid], rfl⟩
  refine h.of_unrecorded hgrows rfl rfl (fun id found hfound => ?_) (fun _ hmem => .inl hmem) fun _ hmem => .inl hmem
  rcases insert_some hfound with ⟨rfl, rfl⟩ | ⟨-, hold⟩
  · rfl
  · exact h.keys id found hold

end Recording

section Runs

variable {unread : GatewayError → Prop} {s next final : OtelSystem} {actions : List OtelAction}

theorem exported_empty : Exported unread .empty := by
  refine ⟨fun id => rfl, fun id config h => ?_, fun task htask => ?_, fun finished hfinished => ?_⟩
  · cases h
  · cases htask
  · cases hfinished

/-- What breaks off a tick in this action. -/
def OtelAction.Unreads (unread : GatewayError → Prop) : OtelAction → Prop
  | .resume _ env _ => ∀ config error, env.metricCount config = .error error → unread error
  | _ => True

theorem otelStep_exported (s : OtelSystem) (action : OtelAction) (next : OtelSystem) (h : Exported unread s)
    (hunreads : action.Unreads unread) (hstep : otelStep s action = some next) : Exported unread next := by
  cases action with
  | createOtelExportConfig config =>
    dsimp only [otelStep] at hstep
    split at hstep
    · cases hstep
    · rename_i hfresh
      cases hstep
      apply h.write
      intro stored hstored
      exact absurd (by rw [hstored]; rfl) hfresh
  | updateOtelExportConfig config =>
    dsimp only [otelStep] at hstep
    split at hstep
    · cases hstep
      exact h
    · rename_i stored hstored
      cases hstep
      refine h.write { config with tenantId := stored.tenantId } fun found hfound => ?_
      have hsame : stored = found := Option.some.inj (hstored.symm.trans hfound)
      dsimp only
      rw [hsame]
  | startTick tick =>
    cases hstep
    exact h.proceed ⟨h.stands tick _, sumsUp_start tick⟩
  | resume task env id =>
    dsimp only [otelStep] at hstep
    split at hstep
    · cases hstep
    · rename_i found hfound
      cases hstep
      have hlinked := h.tasks found (List.mem_of_getElem? hfound)
      have hrest : Exported unread { s with inProgress := s.inProgress.eraseIdx task } := by
        refine h.of_unrecorded (grows_of_same rfl rfl) rfl rfl h.keys (fun other hother => ?_) fun _ hmem => .inl hmem
        exact .inl ((List.eraseIdx_sublist _ _).subset hother)
      exact hrest.resume (hlinked.mono (grows_of_same rfl rfl)) hunreads id

/-- In every run, the health of a configuration is what the attempts for it come to, in the order in which they were
recorded. A tick that is over has recorded one attempt at most for each configuration that it found; its summary counts
them, and when it was broken off then because metrics could not be read. -/
theorem exporterHealth_reflects (hrun : run otelStep .empty actions = some final) :
    (∀ id, final.health.lookup id = healthOf (final.attemptsFor id)) ∧
      ∀ finished ∈ final.finished, (finished.run.made.map (·.configId)).Nodup ∧ finished.Linked
        (fun error => ∃ task env id config, .resume task env id ∈ actions ∧ env.metricCount config = .error error)
        final := by
  have hallowed : ∀ action ∈ actions, action.Unreads fun error =>
      ∃ task env id config, .resume task env id ∈ actions ∧ env.metricCount config = .error error := by
    intro action haction
    cases action with
    | resume task env id => exact fun config error herror => ⟨task, env, id, config, haction, herror⟩
    | createOtelExportConfig config => exact trivial
    | updateOtelExportConfig config => exact trivial
    | startTick tick => exact trivial
  have h := run_invariant otelStep_exported exported_empty (meets_of_mem hallowed) hrun
  refine ⟨h.health, fun finished hfinished => ⟨?_, h.finished finished hfinished⟩⟩
  obtain ⟨configs, hstands⟩ := (h.finished finished hfinished).stands
  exact hstands.nodup

end Runs

section Samples

def sampleExportConfig : OtelExportConfigRecord where
  otelExportConfigId := "otel_1"
  tenantId := "ten_1"
  organizationId := none
  projectId := none
  endpointUrl := "https://collector.example"
  protocol := "otlp_http"
  headerRefs := []
  exportIntervalSeconds := 60
  timeoutSeconds := 10
  status := .active

def collectorEnv (answer : Option Nat) : OtelEnv where
  parseUri _ := none
  secretValue _ := none
  validHeader _ _ := true
  metricCount _ := .ok 3
  payload _ _ := some "payload"
  post _ _ _ _ := answer

def exportTick (workerId : String) (seconds : Int) (mode : OtelExporterTickMode) : OtelTick :=
  ⟨"ten_1", workerId, ⟨seconds * 1000000000⟩, .http, mode⟩

/-- Two workers go through the tenant at once; the collector answers only the second. -/
def twoWorkersExport : List OtelAction :=
  [.createOtelExportConfig sampleExportConfig, .startTick (exportTick "worker_a" 0 .all),
    .startTick (exportTick "worker_b" 5 .all), .resume 0 (collectorEnv (some 200)) "otelh_1",
    .resume 1 (collectorEnv none) "otelh_2", .resume 0 (collectorEnv none) "otelh_3",
    .resume 1 (collectorEnv none) "otelh_4", .resume 1 (collectorEnv none) "otelh_5",
    .resume 0 (collectorEnv none) "otelh_6"]

theorem exporterHealth_reflects_twoWorkers :
    ∃ final, run otelStep .empty twoWorkersExport = some final ∧ final.finished.length = 2 ∧
      (final.attemptsFor "otel_1").map (·.result.status) = [.retryableFailed, .succeeded] ∧
      final.health.lookup "otel_1" = healthOf (final.attemptsFor "otel_1") := by
  have hfacts : ((run otelStep .empty twoWorkersExport).map fun final =>
      (final.finished.length, (final.attemptsFor "otel_1").map (·.result.status))) =
        some (2, [.retryableFailed, .succeeded]) := by
    decide +kernel
  obtain ⟨final, hrun, hvalues⟩ := Option.map_eq_some_iff.mp hfacts
  obtain ⟨hfinished, hstatuses⟩ := Prod.mk.inj hvalues
  exact ⟨final, hrun, hfinished, hstatuses, (exporterHealth_reflects hrun).1 "otel_1"⟩

end Samples

end Starweaver.Gateway
