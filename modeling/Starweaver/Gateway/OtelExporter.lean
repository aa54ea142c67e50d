import Starweaver.Library.Capped
import Starweaver.Gateway.DeliveryTick

/-! The workers that export metrics, and the health they leave behind. -/

namespace Starweaver.Gateway

open Library Library.AssocMap Library.Calendar Library.Checks Library.Machine Library.MachineInt
  Library.SortBy

structure OtelHeaderRef where
  name : String
  secretRefId : String
deriving DecidableEq, Repr

structure OtelExportConfigRecord where
  otelExportConfigId : String
  tenantId : String
  organizationId : Option String
  projectId : Option String
  endpointUrl : String
  protocol : String
  headerRefs : List OtelHeaderRef
  exportIntervalSeconds : Int
  timeoutSeconds : Int
  status : ResourceStatus
deriving DecidableEq, Repr

inductive OtelExportStatus
  | succeeded
  | retryableFailed
  | disabled
deriving DecidableEq, Repr

structure OtelExporterHealthRecord where
  otelExporterHealthId : String
  tenantId : String
  otelExportConfigId : String
  workerId : String
  status : OtelExportStatus
  failureCount : Int
  droppedMetricCount : Int
  exportedMetricCount : Int
  lastError : Option String
  lastAttemptedAt : DateTime
  lastSuccessfulExportAt : Option DateTime
  createdAt : DateTime
  updatedAt : DateTime
deriving DecidableEq, Repr

inductive OtelExporterTransport
  | http
  | synthetic
deriving DecidableEq, Repr

inductive OtelExporterTickMode
  | all
  | dueOnly
deriving DecidableEq, Repr

/-- What an export reads beside the configuration: the URI parser, the secrets, which header lines HTTP allows, the
metrics of the moment, and the status that the collector answers a POST with, `none` when it does not answer. -/
structure OtelEnv where
  parseUri : String → Option UriParts
  secretValue : String → Option String
  validHeader : String → String → Bool
  metricCount : OtelExportConfigRecord → Result Nat
  payload : OtelExportConfigRecord → DateTime → Option String
  post : String → Int → List (String × String) → String → Option Nat

structure OtelExportAttemptResult where
  status : OtelExportStatus
  exportedMetricCount : Int
  droppedMetricCount : Int
  lastError : Option String
deriving DecidableEq, Repr

namespace OtelExportAttemptResult

def disabled : OtelExportAttemptResult := ⟨.disabled, 0, 0, none⟩

def succeeded (exportedMetricCount : Int) : OtelExportAttemptResult := ⟨.succeeded, exportedMetricCount, 0, none⟩

def failed (droppedMetricCount : Int) (lastError : String) : OtelExportAttemptResult :=
  ⟨.retryableFailed, 0, droppedMetricCount, some lastError⟩

end OtelExportAttemptResult

section Export

variable (env : OtelEnv) (config : OtelExportConfigRecord) (metricCount : Int) (now : DateTime)

def safeOtelEndpointHost (value : String) : Option String := safeWebhookEndpointHostWithPolicy env.parseUri value true

def otelExportEndpointUnavailable : Bool :=
  (safeOtelEndpointHost env config.endpointUrl).all fun host =>
    let host := host.toLower
    containsText host "unreachable" || containsText host "blackhole" || containsText host "fail"

def syntheticOtelExportResult : OtelExportAttemptResult :=
  if otelExportEndpointUnavailable env config then .failed metricCount "collector_unavailable" else .succeeded metricCount

def otelExportHeader (headerRef : OtelHeaderRef) : Option (String × String) :=
  match env.secretValue headerRef.secretRefId with
  | none => none
  | some secret => if env.validHeader headerRef.name secret then some (headerRef.name, secret) else none

def otelExportTimeoutSeconds : Int := if 1 ≤ config.timeoutSeconds ∧ config.timeoutSeconds ≤ 60 then config.timeoutSeconds else 10

def executeOtelExport (transport : OtelExporterTransport) : OtelExportAttemptResult :=
  match transport with
  | .synthetic => syntheticOtelExportResult env config metricCount
  | .http =>
    if config.protocol ≠ "otlp_http" then .failed metricCount "otel_protocol_unsupported"
    else match config.headerRefs.mapM (otelExportHeader env) with
      | none => .failed metricCount "otel_header_secret_missing"
      | some headers =>
        match env.payload config now with
        | none => .failed metricCount "otel_payload_read_failed"
        | some body =>
          match env.post config.endpointUrl (otelExportTimeoutSeconds config) headers body with
          | none => .failed metricCount "collector_unavailable"
          | some status =>
            if 200 ≤ status ∧ status ≤ 299 then .succeeded metricCount
            else if 400 ≤ status ∧ status ≤ 499 then .failed metricCount "collector_rejected"
            else .failed metricCount "collector_unavailable"

end Export

structure OtelExporterRunSummary where
  tenantId : String
  workerId : String
  attemptedConfigCount : Nat
  succeededCount : Nat
  failedCount : Nat
  disabledCount : Nat
  exportedMetricCount : Int
  droppedMetricCount : Int
deriving DecidableEq, Repr

def OtelExporterRunSummary.start (tenantId workerId : String) : OtelExporterRunSummary :=
  ⟨tenantId, workerId, 0, 0, 0, 0, 0, 0⟩

/-- How one attempt counts in the summary of its tick. -/
def OtelExporterRunSummary.add (summary : OtelExporterRunSummary) (result : OtelExportAttemptResult) :
    OtelExporterRunSummary :=
  match result.status with
  | .succeeded => { summary with
      attemptedConfigCount := summary.attemptedConfigCount + 1
      succeededCount := summary.succeededCount + 1
      exportedMetricCount := saturatingAdd summary.exportedMetricCount result.exportedMetricCount }
  | .disabled => { summary with
      attemptedConfigCount := summary.attemptedConfigCount + 1
      disabledCount := summary.disabledCount + 1 }
  | .retryableFailed => { summary with
      attemptedConfigCount := summary.attemptedConfigCount + 1
      failedCount := summary.failedCount + 1
      droppedMetricCount := saturatingAdd summary.droppedMetricCount result.droppedMetricCount }

/-- One call of a worker for a tenant. -/
structure OtelTick where
  tenantId : String
  workerId : String
  now : DateTime
  transport : OtelExporterTransport
  mode : OtelExporterTickMode
deriving DecidableEq, Repr

/-- An attempt with the configuration it was made for, as the tick has read it. -/
structure OtelAttempt where
  tick : OtelTick
  config : OtelExportConfigRecord
  result : OtelExportAttemptResult
  otelExporterHealthId : String
deriving DecidableEq, Repr

/-- What a tick has done so far: the configurations that it found, the attempts that it has recorded, its summary. -/
structure OtelRun where
  tick : OtelTick
  listed : List OtelExportConfigRecord
  made : List OtelAttempt
  summary : OtelExporterRunSummary

/-- Where a tick stands: before the rest of its configurations, or with an attempt whose outcome is to be recorded. -/
inductive OtelTask
  | exporting (run : OtelRun) (configs : List OtelExportConfigRecord)
  | recording (run : OtelRun) (config : OtelExportConfigRecord) (result : OtelExportAttemptResult)
    (configs : List OtelExportConfigRecord)

structure FinishedTick where
  run : OtelRun
  outcome : Result OtelExporterRunSummary

structure OtelSystem where
  configs : Index OtelExportConfigRecord
  health : Index OtelExporterHealthRecord
  inProgress : List OtelTask
  attempts : List OtelAttempt
  finished : List FinishedTick

def OtelSystem.empty : OtelSystem := ⟨∅, ∅, [], [], []⟩

inductive OtelAction
  | createOtelExportConfig (config : OtelExportConfigRecord)
  | updateOtelExportConfig (config : OtelExportConfigRecord)
  | startTick (tick : OtelTick)
  | resume (task : Nat) (env : OtelEnv) (otelExporterHealthId : String)

section Handlers

variable (s : OtelSystem)

def compareOptions (left right : Option String) : Ordering :=
  match left, right with
  | none, none => .eq
  | none, some _ => .lt
  | some _, none => .gt
  | some left, some right => compare left right

def compareOtelExportConfigs (left right : OtelExportConfigRecord) : Ordering :=
  (compareOptions left.organizationId right.organizationId).then
    ((compareOptions left.projectId right.projectId).then
      ((compare left.endpointUrl right.endpointUrl).then (compare left.otelExportConfigId right.otelExportConfigId)))

def otelExportConfigsForTenant (tenantId : String) : List OtelExportConfigRecord :=
  sortBy compareOtelExportConfigs ((s.configs.entries.map Sigma.snd).filter (·.tenantId == tenantId))

def secondsSince (now earlier : DateTime) : Int := (now.nanos - earlier.nanos).tdiv 1000000000

def otelExportConfigDueForAttempt (config : OtelExportConfigRecord) (now : DateTime) : Bool :=
  match s.health.lookup config.otelExportConfigId with
  | none => true
  | some health => decide (config.exportIntervalSeconds ≤ secondsSince now health.lastAttemptedAt)

/-- The record that an attempt leaves, after the one that stands. -/
def nextHealth (previous : Option OtelExporterHealthRecord) (attempt : OtelAttempt) : OtelExporterHealthRecord where
  otelExporterHealthId := (previous.map (·.otelExporterHealthId)).getD attempt.otelExporterHealthId
  tenantId := attempt.tick.tenantId
  otelExportConfigId := attempt.config.otelExportConfigId
  workerId := attempt.tick.workerId
  status := attempt.result.status
  failureCount :=
    if attempt.result.status = .succeeded ∨ attempt.result.status = .disabled then 0
    else (previous.map fun record => saturatingAdd record.failureCount 1).getD 1
  droppedMetricCount := attempt.result.droppedMetricCount
  exportedMetricCount := attempt.result.exportedMetricCount
  lastError := attempt.result.lastError
  lastAttemptedAt := attempt.tick.now
  lastSuccessfulExportAt :=
    if attempt.result.status = .succeeded then some attempt.tick.now
    else previous.bind (·.lastSuccessfulExportAt)
  createdAt := (previous.map (·.createdAt)).getD attempt.tick.now
  updatedAt := attempt.tick.now

def recordOtelExporterHealth (attempt : OtelAttempt) : Result OtelSystem :=
  if attempt.result.exportedMetricCount < 0 ∨ attempt.result.droppedMetricCount < 0 then
    .error (.badRequest "otel_exporter_metric_counts_invalid")
  else match s.configs.lookup attempt.config.otelExportConfigId with
    | none => .error (.notFound s!"otel export config {attempt.config.otelExportConfigId}")
    | some config =>
      if config.tenantId ≠ attempt.tick.tenantId then .error (.badRequest "otel_export_config_tenant_mismatch")
      else
        let id := attempt.config.otelExportConfigId
        .ok { s with
          health := s.health.insert id (nextHealth (s.health.lookup id) attempt)
          attempts := s.attempts ++ [attempt] }

def resumeExport (env : OtelEnv) (otelExporterHealthId : String) : OtelTask → OtelSystem
  | .exporting run [] => { s with finished := ⟨run, .ok run.summary⟩ :: s.finished }
  | .exporting run (config :: configs) =>
    if run.tick.mode = .dueOnly ∧ otelExportConfigDueForAttempt s config run.tick.now = false then
      { s with inProgress := .exporting run configs :: s.inProgress }
    else match env.metricCount config with
      | .error error => { s with finished := ⟨run, .error error⟩ :: s.finished }
      | .ok metricCount =>
        let result :=
          if config.status = .active then
            executeOtelExport env config (capped metricCount) run.tick.now run.tick.transport
          else .disabled
        { s with inProgress :=
            .recording { run with summary := run.summary.add result } config result configs :: s.inProgress }
  | .recording run config result configs =>
    let attempt : OtelAttempt := ⟨run.tick, config, result, otelExporterHealthId⟩
    match recordOtelExporterHealth s attempt with
    | .error error => { s with finished := ⟨run, .error error⟩ :: s.finished }
    | .ok next => { next with inProgress := .exporting { run with made := run.made ++ [attempt] } configs :: next.inProgress }

/-- An update keeps the id and the tenant of its configuration, whatever else it writes. -/
def otelStep : OtelAction → Option OtelSystem
  | .createOtelExportConfig config =>
    if (s.configs.lookup config.otelExportConfigId).isSome then none
    else some { s with configs := s.configs.insert config.otelExportConfigId config }
  | .updateOtelExportConfig config =>
    match s.configs.lookup config.otelExportConfigId with
    | none => some s
    | some stored =>
      some { s with configs := s.configs.insert config.otelExportConfigId { config with tenantId := stored.tenantId } }
  | .startTick tick =>
    let configs := otelExportConfigsForTenant s tick.tenantId
    some { s with inProgress := .exporting ⟨tick, configs, [], .start tick.tenantId tick.workerId⟩ configs :: s.inProgress }
  | .resume task env otelExporterHealthId =>
    match s.inProgress[task]? with
    | none => none
    | some found => some (resumeExport { s with inProgress := s.inProgress.eraseIdx task } env otelExporterHealthId found)

end Handlers

end Starweaver.Gateway
