import Starweaver.Library.KeyedOnce
import Starweaver.Library.TextCode
import Starweaver.Gateway.BudgetThresholds
import Starweaver.Gateway.DeliveryTick

/-! How a blocked request or a reached threshold becomes one notification for each subscription that asks for it. -/

namespace Starweaver.Gateway

open Library Library.AssocMap Library.Calendar Library.KeyedOnce Library.Machine Library.SortBy

structure TenantNotificationSink extends NotificationSinkRecord where
  notificationSinkId : String
  tenantId : String
  organizationId : Option String
  projectId : Option String

structure NotificationSubscriptionRecord where
  notificationSubscriptionId : String
  tenantId : String
  organizationId : Option String
  projectId : Option String
  notificationSinkId : String
  eventFamily : String
  filterDocument : Json
  status : ResourceStatus
  resourceVersion : Int

inductive NotificationPolicyEvidence
  | block (reason : String)
  | threshold (budgetPolicyId : String) (limitKind : BudgetLimitKind) (period : BudgetPeriod)
    (threshold : RuntimeBudgetThreshold) (previousValue currentValue : Int)
deriving DecidableEq, Repr

structure NotificationPayload where
  schema : String
  eventType : String
  eventFamily : String
  tenantId : String
  organizationId : Option String
  projectId : Option String
  scopeKind : String
  scopeId : String
  requestId : String
  protocolFamily : ProtocolFamily
  requestedModel : String
  actorKind : ActorKind
  actorId : String
  route : Option SelectedRouteEvidence
  policy : NotificationPolicyEvidence
  occurredAt : DateTime
deriving DecidableEq, Repr

/-- What makes two notifications of a subscription the same one. -/
inductive NoticeTopic
  | policyBlock (requestId eventKind : String)
  | budgetThreshold (budgetPolicyId periodKey thresholdKind : String) (value : Int)
deriving DecidableEq, Repr

def NoticeTopic.dedupeKey (notificationSubscriptionId : String) : NoticeTopic → String
  | .policyBlock requestId eventKind =>
    "runtime-policy-block" ++ ":" ++ requestId ++ ":" ++ notificationSubscriptionId ++ ":" ++ eventKind
  | .budgetThreshold budgetPolicyId periodKey thresholdKind value =>
    "runtime-budget-threshold" ++ ":" ++ budgetPolicyId ++ ":" ++ periodKey ++ ":" ++ thresholdKind ++ ":" ++
      toString value ++ ":" ++ notificationSubscriptionId

/-- What both of the functions that enqueue have at hand for every subscription. -/
structure Notice where
  actor : AuthenticatedActor
  eventFamily : String
  eventKind : String
  scopeKind : String
  scopeId : String
  topic : NoticeTopic
  payload : NotificationPayload
  now : DateTime
deriving DecidableEq, Repr

section Notices

variable (actor : AuthenticatedActor) (protocolFamily : ProtocolFamily) (requestedModel : String)

def runtimePolicyNotificationKind : GatewayError → Option (String × String × String)
  | .budgetExceeded reason => some ("budget", "gateway.budget.hard_block", reason)
  | .quotaExceeded reason => some ("quota", "gateway.quota.limit_exceeded", reason)
  | _ => none

def runtimeNotificationScope : String × String :=
  match actor.projectId with
  | some projectId => ("project", projectId)
  | none =>
    match actor.organizationId with
    | some organizationId => ("organization", organizationId)
    | none => ("tenant", actor.tenantId)

/-- The notice of `enqueue_runtime_policy_notification_events`. -/
def policyBlockNotice (selected : Option SelectedRouteEvidence) (error : GatewayError) (now : DateTime) : Option Notice :=
  (runtimePolicyNotificationKind error).map fun (eventFamily, eventKind, reason) =>
    let (scopeKind, scopeId) := runtimeNotificationScope actor
    { actor, eventFamily, eventKind, scopeKind, scopeId, now
      topic := .policyBlock actor.requestId eventKind
      payload := {
        schema := "gateway.notification.runtime_policy_block.v1"
        eventType := eventKind
        eventFamily
        tenantId := actor.tenantId
        organizationId := actor.organizationId
        projectId := actor.projectId
        scopeKind, scopeId
        requestId := actor.requestId
        protocolFamily, requestedModel
        actorKind := actor.actorKind
        actorId := actor.actorId
        route := selected
        policy := .block reason
        occurredAt := now } }

/-- The notice of `enqueue_runtime_budget_threshold_event`. -/
def budgetThresholdNotice (selected : SelectedRouteEvidence) (report : RuntimeBudgetThresholdEvent)
    (endedAt : DateTime) : Notice :=
  let policy := report.policy
  let kind := report.threshold.thresholdKind
  { actor
    eventFamily := "budget"
    eventKind := kind.eventKind
    scopeKind := policy.scopeKind.asStr
    scopeId := policy.scopeId
    now := endedAt
    topic := .budgetThreshold policy.budgetPolicyId
      (runtimeBudgetReservationPeriodKey policy.toBudgetPolicyRecord endedAt) kind.asStr report.threshold.value
    payload := {
      schema := "gateway.notification.runtime_budget_threshold.v1"
      eventType := kind.eventKind
      eventFamily := "budget"
      tenantId := actor.tenantId
      organizationId := actor.organizationId
      projectId := actor.projectId
      scopeKind := policy.scopeKind.asStr
      scopeId := policy.scopeId
      requestId := actor.requestId
      protocolFamily, requestedModel
      actorKind := actor.actorKind
      actorId := actor.actorId
      route := some selected
      policy := .threshold policy.budgetPolicyId policy.limitKind policy.period report.threshold report.previousValue
        report.currentValue
      occurredAt := endedAt } }

end Notices

def filterAllows (filter : Json) (field value : String) : Bool :=
  ((filter.get field).bind Json.asStr).all (· == value)

def notificationSubscriptionFilterMatches (filter : Json) (eventKind scopeKind scopeId : String) : Bool :=
  (match filter.get "event_types" with
    | some (.array eventTypes) => eventTypes.any fun candidate => candidate.asStr == some eventKind
    | _ => true) && filterAllows filter "scope_kind" scopeKind && filterAllows filter "scope_id" scopeId

def NotificationSubscriptionRecord.wants (subscription : NotificationSubscriptionRecord) (notice : Notice) : Bool :=
  subscription.status == .active && subscription.eventFamily == notice.eventFamily &&
    notificationSubscriptionFilterMatches subscription.filterDocument notice.eventKind notice.scopeKind notice.scopeId

/-- The fields of an outbox event that no delivery reads. -/
structure NotificationOutboxEventDetails where
  organizationId : Option String
  projectId : Option String
  notificationSubscriptionId : Option String
  payloadDocument : NotificationPayload
deriving DecidableEq, Repr

/-- A notice that has reached the outbox for a subscription; the outbox may have had it before. -/
structure Sending where
  notice : Notice
  subscription : NotificationSubscriptionRecord
  sink : TenantNotificationSink

def Sending.outboxEvent (sending : Sending) (notificationOutboxEventId : String) : NotificationOutboxEventRecord where
  notificationOutboxEventId := notificationOutboxEventId
  tenantId := sending.notice.actor.tenantId
  notificationSinkId := some sending.sink.notificationSinkId
  eventKind := sending.notice.eventKind
  dedupeKey := sending.notice.topic.dedupeKey sending.subscription.notificationSubscriptionId
  status := "pending"
  attemptCount := 0
  nextAttemptAt := some sending.notice.now
  createdAt := sending.notice.now
  updatedAt := sending.notice.now

def Sending.details (sending : Sending) : NotificationOutboxEventDetails where
  organizationId := sending.notice.actor.organizationId
  projectId := sending.notice.actor.projectId
  notificationSubscriptionId := some sending.subscription.notificationSubscriptionId
  payloadDocument := sending.notice.payload

def NotificationOutboxEventRecord.mark (event : NotificationOutboxEventRecord) : String × String :=
  (event.tenantId, event.dedupeKey)

/-- Where a handler stands between two locks: with a checked subscription, with the subscriptions that a notice is still
to reach, or with one of them and its sink. -/
inductive NotificationTask
  | subscribing (record : NotificationSubscriptionRecord)
  | fanningOut (notice : Notice) (subscriptions : List NotificationSubscriptionRecord)
  | appending (sending : Sending) (subscriptions : List NotificationSubscriptionRecord)

structure NotificationSystem where
  sinks : Index TenantNotificationSink
  subscriptions : Index NotificationSubscriptionRecord
  outbox : NotificationOutboxStore
  details : Index NotificationOutboxEventDetails
  inProgress : List NotificationTask
  sent : List Sending

def NotificationSystem.empty : NotificationSystem := ⟨∅, ∅, ⟨∅, []⟩, ∅, [], []⟩

structure CreateNotificationSubscriptionRequest where
  tenantId : String
  notificationSinkId : String
  eventFamily : String
  filterDocument : Json

/-- Of an update of a sink the write alone is a step: it may write any configuration, whatever it was merged from. -/
inductive NotificationAction
  | createNotificationSink (sink : TenantNotificationSink)
  | updateNotificationSink (notificationSinkId : String) (endpointConfig : Json) (status : Option ResourceStatus)
  | createNotificationSubscription (request : CreateNotificationSubscriptionRequest) (filterChecks : Result Unit)
    (notificationSubscriptionId : String)
  | updateNotificationSubscriptionStatus (notificationSubscriptionId : String) (expectedResourceVersion : Int)
    (status : ResourceStatus)
  | policyBlocked (actor : AuthenticatedActor) (protocolFamily : ProtocolFamily) (requestedModel : String)
    (selected : Option SelectedRouteEvidence) (error : GatewayError) (now : DateTime)
  | thresholdReached (actor : AuthenticatedActor) (protocolFamily : ProtocolFamily) (requestedModel : String)
    (selected : SelectedRouteEvidence) (report : RuntimeBudgetThresholdEvent) (endedAt : DateTime)
  | resume (task : Nat) (notificationOutboxEventId : String)
  | recordDeliveryAttempt (request : CreateNotificationDeliveryAttemptRequest) (attemptId : String) (now : DateTime)
  | replayDeadLettered (notificationOutboxEventId : String) (now : DateTime)

/-- The notice that an action raises, if it raises one. -/
def NotificationAction.notice? : NotificationAction → Option Notice
  | policyBlocked actor protocolFamily requestedModel selected error now =>
    policyBlockNotice actor protocolFamily requestedModel selected error now
  | thresholdReached actor protocolFamily requestedModel selected report endedAt =>
    some (budgetThresholdNotice actor protocolFamily requestedModel selected report endedAt)
  | _ => none

section Handlers

variable (s : NotificationSystem)

def validNotificationEventFamily (value : String) : Bool :=
  value ∈ ["usage", "budget", "quota", "routing", "provider_health", "credential", "admin", "delivery"]

/-- `filterChecks` is what the checks of the filter document and for a duplicate answer. -/
def validateNotificationSubscriptionRequest (request : CreateNotificationSubscriptionRequest)
    (filterChecks : Result Unit) : Result TenantNotificationSink :=
  match s.sinks.lookup request.notificationSinkId with
  | none => .error (.notFound s!"notification sink {request.notificationSinkId}")
  | some sink =>
    if sink.tenantId ≠ request.tenantId then .error (.authorization "notification_subscription_tenant_mismatch")
    else if sink.status = .deleted then .error (.badRequest "notification_subscription_deleted_sink")
    else if !validNotificationEventFamily request.eventFamily then
      .error (.badRequest "notification_subscription_event_family_invalid")
    else filterChecks.map fun _ => sink

def createNotificationSubscription (request : CreateNotificationSubscriptionRequest) (filterChecks : Result Unit)
    (notificationSubscriptionId : String) : Result NotificationSubscriptionRecord := do
  let sink ← validateNotificationSubscriptionRequest s request filterChecks
  .ok
    { notificationSubscriptionId
      tenantId := request.tenantId
      organizationId := sink.organizationId
      projectId := sink.projectId
      notificationSinkId := request.notificationSinkId
      eventFamily := request.eventFamily
      filterDocument := request.filterDocument
      status := .active
      resourceVersion := 1 }

def updateNotificationSubscriptionStatus (notificationSubscriptionId : String) (expectedResourceVersion : Int)
    (status : ResourceStatus) : Result NotificationSystem :=
  match s.subscriptions.lookup notificationSubscriptionId with
  | none => .error (.notFound s!"notification subscription {notificationSubscriptionId}")
  | some subscription =>
    if subscription.resourceVersion ≠ expectedResourceVersion then .error (.badRequest "stale_resource_version")
    else
      .ok { s with
        subscriptions := s.subscriptions.insert notificationSubscriptionId
          { subscription with status := status, resourceVersion := subscription.resourceVersion + 1 } }

def compareSubscriptions (left right : NotificationSubscriptionRecord) : Ordering :=
  (compare left.notificationSinkId right.notificationSinkId).then ((compare left.eventFamily right.eventFamily).then
    (compare left.notificationSubscriptionId right.notificationSubscriptionId))

def notificationSubscriptionsForTenant (tenantId : String) : List NotificationSubscriptionRecord :=
  sortBy compareSubscriptions ((s.subscriptions.entries.map Sigma.snd).filter (·.tenantId == tenantId))

/-- The subscriptions are read once; the sinks are read one by one afterwards. -/
def enqueueNotice (notice : Notice) : NotificationSystem :=
  let wanting := (notificationSubscriptionsForTenant s notice.actor.tenantId).filter (·.wants notice)
  { s with inProgress := .fanningOut notice wanting :: s.inProgress }

/-- An event with this key in the tenant's outbox is answered with, however far its delivery is. -/
def appendNotificationOutboxEvent (sending : Sending) (notificationOutboxEventId : String) : NotificationSystem :=
  let event := sending.outboxEvent notificationOutboxEventId
  if s.outbox.events.entries.any fun entry => decide (entry.2.mark = event.mark) then s
  else
    { s with
      outbox := { s.outbox with events := s.outbox.events.insert notificationOutboxEventId event }
      details := s.details.insert notificationOutboxEventId sending.details }

def resumeNotification (task : NotificationTask) (notificationOutboxEventId : String) : Option NotificationSystem :=
  match task with
  | .subscribing record =>
    if (s.subscriptions.lookup record.notificationSubscriptionId).isSome then none
    else some { s with subscriptions := s.subscriptions.insert record.notificationSubscriptionId record }
  | .fanningOut _ [] => some s
  | .fanningOut notice (subscription :: subscriptions) =>
    match s.sinks.lookup subscription.notificationSinkId with
    | none => some { s with inProgress := .fanningOut notice subscriptions :: s.inProgress }
    | some sink =>
      if sink.status ≠ .active then some { s with inProgress := .fanningOut notice subscriptions :: s.inProgress }
      else some { s with inProgress := .appending ⟨notice, subscription, sink⟩ subscriptions :: s.inProgress }
  | .appending sending subscriptions =>
    if (s.outbox.events.lookup notificationOutboxEventId).isSome then none
    else some { appendNotificationOutboxEvent s sending notificationOutboxEventId with
      inProgress := .fanningOut sending.notice subscriptions :: s.inProgress
      sent := sending :: s.sent }

/-- New ids are fresh: an action that would take an id again is not enabled. -/
def notificationStep : NotificationAction → Option NotificationSystem
  | .createNotificationSink sink =>
    if (s.sinks.lookup sink.notificationSinkId).isSome then none
    else some { s with sinks := s.sinks.insert sink.notificationSinkId sink }
  | .updateNotificationSink notificationSinkId endpointConfig status =>
    match s.sinks.lookup notificationSinkId with
    | none => some s
    | some sink =>
      some { s with
        sinks := s.sinks.insert notificationSinkId
          { sink with endpointConfig := endpointConfig, status := status.getD sink.status } }
  | .createNotificationSubscription request filterChecks notificationSubscriptionId =>
    match createNotificationSubscription s request filterChecks notificationSubscriptionId with
    | .error _ => some s
    | .ok record => some { s with inProgress := .subscribing record :: s.inProgress }
  | .updateNotificationSubscriptionStatus notificationSubscriptionId expectedResourceVersion status =>
    match updateNotificationSubscriptionStatus s notificationSubscriptionId expectedResourceVersion status with
    | .error _ => some s
    | .ok next => some next
  | .policyBlocked actor protocolFamily requestedModel selected error now =>
    match policyBlockNotice actor protocolFamily requestedModel selected error now with
    | none => some s
    | some notice => some (enqueueNotice s notice)
  | .thresholdReached actor protocolFamily requestedModel selected report endedAt =>
    some (enqueueNotice s (budgetThresholdNotice actor protocolFamily requestedModel selected report endedAt))
  | .resume task notificationOutboxEventId =>
    match s.inProgress[task]? with
    | none => none
    | some found =>
      resumeNotification { s with inProgress := s.inProgress.eraseIdx task } found notificationOutboxEventId
  | .recordDeliveryAttempt request attemptId now =>
    some { s with outbox := (recordNotificationDeliveryAttempt s.outbox now request attemptId).2 }
  | .replayDeadLettered notificationOutboxEventId now =>
    some { s with outbox := (replayDeadLetteredNotificationOutboxEvent s.outbox now notificationOutboxEventId).2 }

end Handlers

end Starweaver.Gateway
