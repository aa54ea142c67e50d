import Mathlib.Data.List.Infix
import Starweaver.Gateway.DeliveryAttempts

namespace Starweaver.Gateway

open Library Library.AssocMap Library.Calendar Library.SortBy

structure NotificationSinkRecord extends NotificationSink where
  signingSecretRefId : Option String

/-- The parts of a parsed URI that the endpoint check reads. -/
structure UriParts where
  query : Option String
  scheme : Option String
  authority : Option String
  host : String

inductive NotificationDeliveryTransport
  | http
  | synthetic
deriving DecidableEq, Repr

/-- An HTTP client: the status that a POST to the URL answers for a delivery id, `none` when it is not answered. -/
abbrev HttpClient := String → String → Option Nat

/-- What a tick reads beside the outbox. The URI parser, the network, the checksums and signatures and the random ids
are those of other packages. -/
structure DeliveryEnv where
  sinks : Index NotificationSinkRecord
  secretValue : String → Option String
  environment : String
  parseUri : String → Option UriParts
  client : HttpClient
  webhookEvidence : NotificationSinkRecord → NotificationOutboxEventRecord → DateTime → DeliveryEvidence
  newAttemptId : String → String

def DeliveryEnv.httpClient (env : DeliveryEnv) : NotificationDeliveryTransport → Option HttpClient
  | .http => some env.client
  | .synthetic => none

section Webhook

def isLoopbackHost (host : String) : Bool := host ∈ ["localhost", "127.0.0.1", "[::1]", "::1"]

def safeWebhookEndpointHostWithPolicy (parseUri : String → Option UriParts) (value : String) (allowLoopbackHttp : Bool) :
    Option String :=
  match parseUri value with
  | none => none
  | some uri =>
    if uri.query.isSome then none
    else
      match uri.scheme, uri.authority with
      | some scheme, some authority =>
        if '@' ∈ authority.toList then none
        else if uri.host.isEmpty ∨ 253 < uri.host.utf8ByteSize then none
        else if scheme = "https" then some uri.host
        else if scheme = "http" ∧ allowLoopbackHttp = true ∧ isLoopbackHost uri.host = true then some uri.host
        else none
      | _, _ => none

def allowsLocalCallbackAdapter (environment : String) : Bool := environment ∈ ["local", "test"]

def DeliveryEnv.safeWebhookEndpointHostForConfig (env : DeliveryEnv) (value : String) : Option String :=
  safeWebhookEndpointHostWithPolicy env.parseUri value (allowsLocalCallbackAdapter env.environment)

def containsText (text part : String) : Bool := decide (part.toList <:+: text.toList)

def syntheticWebhookDeliveryResult (env : DeliveryEnv) (url : String) : WebhookDeliveryResultKind × Option Int :=
  let host := ((safeWebhookEndpointHostWithPolicy env.parseUri url true).getD "").toLower
  if containsText host "gone" || containsText host "permanent" then (.permanentFailed, some 410)
  else if containsText host "retry" || containsText host "unavailable" || containsText host "fail" then
    (.retryableFailed, some 503)
  else (.succeeded, some 204)

def webhookResultFromHttpStatus (status : Nat) : WebhookDeliveryResultKind × Option Int :=
  let kind :=
    if 200 ≤ status ∧ status ≤ 299 then .succeeded
    else if status ∈ [408, 425, 429] ∨ 500 ≤ status then .retryableFailed
    else .permanentFailed
  (kind, some status)

def executeWebhookDelivery (env : DeliveryEnv) (transport : NotificationDeliveryTransport) (httpClient : Option HttpClient)
    (url deliveryId : String) : Result (WebhookDeliveryResultKind × Option Int) :=
  match transport with
  | .synthetic => .ok (syntheticWebhookDeliveryResult env url)
  | .http =>
    match httpClient with
    | none => .error (.internal "notification_http_client_missing")
    | some client =>
      .ok (match client url deliveryId with
        | none => (.retryableFailed, none)
        | some status => webhookResultFromHttpStatus status)

/-- What the checks of the endpoint and the call answer for one event. -/
def webhookDeliveryResult (env : DeliveryEnv) (sink : NotificationSinkRecord) (event : NotificationOutboxEventRecord)
    (transport : NotificationDeliveryTransport) (httpClient : Option HttpClient) :
    Result (WebhookDeliveryResultKind × Option Int) :=
  match (sink.endpointConfig.get "url").bind Json.asStr with
  | none => .error (.badRequest "notification_sink_webhook_url_required")
  | some url =>
    match env.safeWebhookEndpointHostForConfig url with
    | none => .error (.badRequest "notification_sink_webhook_url_invalid")
    | some _ =>
      match sink.signingSecretRefId with
      | none => .error (.badRequest "notification_sink_signing_secret_ref_required")
      | some signingSecretRefId =>
        match env.secretValue signingSecretRefId with
        | none => .error (.badRequest "notification_sink_signing_secret_missing")
        | some _ => executeWebhookDelivery env transport httpClient url event.notificationOutboxEventId

end Webhook

/-- A due event as the delivery runs have it. -/
def NotificationOutboxEventRecord.outboxEvent (event : NotificationOutboxEventRecord) : OutboxEvent where
  notificationOutboxEventId := event.notificationOutboxEventId
  tenantId := event.tenantId
  notificationSinkId := event.notificationSinkId
  dedupeKey := event.dedupeKey
  status := if event.status = "retryable_failed" then .retryableFailed else .pending
  attemptCount := event.attemptCount
  nextAttemptAt := event.nextAttemptAt
  createdAt := event.createdAt
  updatedAt := event.updatedAt

def AttemptStatus.label : AttemptStatus → String
  | .succeeded => "succeeded"
  | .retryableFailed => "retryable_failed"
  | .permanentFailed => "permanent_failed"
  | .deadLettered => "dead_lettered"

section Tick

variable (env : DeliveryEnv) (now : DateTime) (transport : NotificationDeliveryTransport) (httpClient : Option HttpClient)

def transportEvidence (kind : Json) : DeliveryEvidence := ⟨none, none, none, .object [("transport", kind)]⟩

def notificationDeliveryPlan (event : NotificationOutboxEventRecord) : Result (NotificationDeliveryPlan × DeliveryEvidence) :=
  match event.notificationSinkId.bind env.sinks.lookup with
  | none => .ok (⟨.permanentFailed, none, some "notification_sink_missing", none⟩, transportEvidence .null)
  | some sink =>
    if sink.status ≠ .active then
      .ok (⟨.permanentFailed, none, some "notification_sink_not_active", none⟩, transportEvidence (.string sink.sinkKind))
    else if sink.sinkKind = "stdout" then .ok (⟨.succeeded, some 204, none, none⟩, transportEvidence (.string "stdout"))
    else if sink.sinkKind = "disabled" then
      .ok (⟨.permanentFailed, none, some "notification_sink_disabled", none⟩, transportEvidence (.string "disabled"))
    else if sink.sinkKind = "webhook" then
      (webhookDeliveryResult env sink event transport httpClient).map fun result =>
        (notificationDeliveryStatusFromResult event.outboxEvent sink.toNotificationSink result.1 result.2 now,
          env.webhookEvidence sink event now)
    else
      .ok (⟨.retryableFailed, none, some "notification_delivery_backend_not_connected", some (retryAt now)⟩,
        transportEvidence (.string sink.sinkKind))

/-- The plan is the one of the delivery runs, with the answer of the webhook checks. -/
theorem notificationDeliveryPlan_eq {sinks : Index NotificationSink}
    (hsinks : ∀ id, sinks.lookup id = (env.sinks.lookup id).map (·.toNotificationSink))
    (event : NotificationOutboxEventRecord) :
    (notificationDeliveryPlan env now transport httpClient event).map Prod.fst =
      deliveryPlan sinks event.outboxEvent now
        (match event.notificationSinkId.bind env.sinks.lookup with
          | none => .error .notReady
          | some sink => webhookDeliveryResult env sink event transport httpClient) := by
  have hlookup : event.outboxEvent.notificationSinkId.bind sinks.lookup =
      (event.notificationSinkId.bind env.sinks.lookup).map (·.toNotificationSink) := by
    show event.notificationSinkId.bind _ = _
    cases event.notificationSinkId with
    | none => rfl
    | some id => exact hsinks id
  unfold notificationDeliveryPlan deliveryPlan
  rw [hlookup]
  cases event.notificationSinkId.bind env.sinks.lookup with
  | none => rfl
  | some sink =>
    simp only [Option.map_some]
    split_ifs
    · rfl
    · rfl
    · rfl
    · cases webhookDeliveryResult env sink event transport httpClient with
      | error error => rfl
      | ok result => rfl
    · rfl

def deliverNotificationOutboxEvent (s : NotificationOutboxStore) (event : NotificationOutboxEventRecord) :
    Result NotificationDeliveryAttemptRecord × NotificationOutboxStore :=
  match notificationDeliveryPlan env now transport httpClient event with
  | .error error => (.error error, s)
  | .ok (plan, evidence) =>
    recordNotificationDeliveryAttempt s now
      { notificationOutboxEventId := event.notificationOutboxEventId
        notificationSinkId := event.notificationSinkId
        status := plan.status.label
        responseStatus := plan.responseStatus
        errorMessage := plan.errorMessage
        evidence := evidence
        nextAttemptAt := plan.nextAttemptAt }
      (env.newAttemptId event.notificationOutboxEventId)

def compareDueRecords (left right : NotificationOutboxEventRecord) : Ordering :=
  (compare left.createdAt.nanos right.createdAt.nanos).then
    (compare left.notificationOutboxEventId right.notificationOutboxEventId)

def NotificationOutboxEventRecord.isDue (event : NotificationOutboxEventRecord) (tenantId : String) (now : DateTime) :
    Bool :=
  event.tenantId == tenantId && (event.status == "pending" || event.status == "retryable_failed") &&
    event.nextAttemptAt.all fun next => decide (next ≤ now)

def NotificationOutboxStore.dueNotificationOutboxEvents (s : NotificationOutboxStore) (tenantId : String) (now : DateTime)
    (limit : Nat) : List NotificationOutboxEventRecord :=
  (sortBy compareDueRecords ((s.events.entries.map Sigma.snd).filter (·.isDue tenantId now))).take limit

/-- The events are delivered one after the other; what goes wrong with one is not reported. -/
def deliverAll (events : List NotificationOutboxEventRecord) (start : NotificationOutboxStore) :
    List NotificationDeliveryAttemptRecord × NotificationOutboxStore :=
  events.foldl (fun state event =>
    match deliverNotificationOutboxEvent env now transport httpClient state.2 event with
    | (.ok attempt, next) => (state.1 ++ [attempt], next)
    | (.error _, next) => (state.1, next)) ([], start)

def deliverDueNotificationsWithTransport (s : NotificationOutboxStore) (tenantId : String) (limit : Nat) :
    List NotificationDeliveryAttemptRecord × NotificationOutboxStore :=
  deliverAll env now transport (env.httpClient transport) (s.dueNotificationOutboxEvents tenantId now limit) s

end Tick

/-- The checks of a webhook's endpoint and signing secret that fail before any attempt is made. -/
def WebhookUnprepared (env : DeliveryEnv) (sink : NotificationSinkRecord) : Prop :=
  (∀ url, (sink.endpointConfig.get "url").bind Json.asStr = some url → env.safeWebhookEndpointHostForConfig url = none) ∨
    ∀ signingSecretRefId, sink.signingSecretRefId = some signingSecretRefId → env.secretValue signingSecretRefId = none

/-- The event goes to an active webhook sink that is not prepared. -/
def Undeliverable (env : DeliveryEnv) (event : NotificationOutboxEventRecord) : Prop :=
  ∃ sink, event.notificationSinkId.bind env.sinks.lookup = some sink ∧ sink.status = .active ∧ sink.sinkKind = "webhook" ∧
    WebhookUnprepared env sink

/-- The event has one more recorded attempt, with its count increased by one, or is no longer due. -/
def MadeProgress (s next : NotificationOutboxStore) (tenantId : String) (now : DateTime)
    (event : NotificationOutboxEventRecord) : Prop :=
  ((next.attempts.countP fun attempt => attempt.notificationOutboxEventId == event.notificationOutboxEventId) =
      (s.attempts.countP fun attempt => attempt.notificationOutboxEventId == event.notificationOutboxEventId) + 1 ∧
    ∃ after, next.events.lookup event.notificationOutboxEventId = some after ∧
      after.attemptCount = event.attemptCount + 1) ∨
  ∀ after, next.events.lookup event.notificationOutboxEventId = some after → after.isDue tenantId now = false

section Planning

variable {env : DeliveryEnv} {now : DateTime} {transport : NotificationDeliveryTransport} {httpClient : Option HttpClient}
  {event : NotificationOutboxEventRecord} {sink : NotificationSinkRecord}

theorem executeWebhookDelivery_ok (env : DeliveryEnv) (hclient : transport = .http → httpClient.isSome = true) (url deliveryId : String) :
    ∃ result, executeWebhookDelivery env transport httpClient url deliveryId = .ok result := by
  cases transport with
  | synthetic => exact ⟨_, rfl⟩
  | http =>
    obtain ⟨client, rfl⟩ := Option.isSome_iff_exists.mp (hclient rfl)
    exact ⟨_, rfl⟩

theorem webhookDeliveryResult_error_iff (env : DeliveryEnv) (sink : NotificationSinkRecord)
    (event : NotificationOutboxEventRecord) (hclient : transport = .http → httpClient.isSome = true) :
    (∃ error, webhookDeliveryResult env sink event transport httpClient = .error error) ↔ WebhookUnprepared env sink := by
  unfold webhookDeliveryResult WebhookUnprepared
  cases hurl : (sink.endpointConfig.get "url").bind Json.asStr with
  | none => simp
  | some url =>
    simp only [Option.some.injEq, forall_eq']
    cases hhost : env.safeWebhookEndpointHostForConfig url with
    | none => simp
    | some host =>
      simp only [reduceCtorEq, false_or]
      cases hsigning : sink.signingSecretRefId with
      | none => simp
      | some signingSecretRefId =>
        simp only [Option.some.injEq, forall_eq']
        cases hsecret : env.secretValue signingSecretRefId with
        | none => simp
        | some secret =>
          obtain ⟨result, hresult⟩ := executeWebhookDelivery_ok env hclient url event.notificationOutboxEventId
          simp [hresult]

/-- A delivery is planned unless the event is undeliverable. -/
theorem notificationDeliveryPlan_error_iff (hclient : transport = .http → httpClient.isSome = true) :
    (∃ error, notificationDeliveryPlan env now transport httpClient event = .error error) ↔ Undeliverable env event := by
  unfold notificationDeliveryPlan Undeliverable
  cases hsink : event.notificationSinkId.bind env.sinks.lookup with
  | none => simp
  | some sink =>
    simp only [Option.some.injEq, exists_eq_left']
    by_cases hactive : sink.status = .active
    · rw [if_neg (not_not.mpr hactive)]
      by_cases hwebhook : sink.sinkKind = "webhook"
      · have hkinds : ("webhook" : String) ≠ "stdout" ∧ ("webhook" : String) ≠ "disabled" := by decide
        rw [hwebhook, if_neg hkinds.1, if_neg hkinds.2, if_pos rfl]
        have hresult := webhookDeliveryResult_error_iff env sink event hclient
        cases hwhat : webhookDeliveryResult env sink event transport httpClient with
        | error error =>
          refine iff_of_true ⟨error, rfl⟩ ⟨hactive, rfl, hresult.mp ⟨error, hwhat⟩⟩
        | ok result =>
          refine iff_of_false (fun h => ?_) fun h => ?_
          · obtain ⟨error, herror⟩ := h
            cases herror
          · obtain ⟨error, herror⟩ := hresult.mpr h.2.2
            cases hwhat.symm.trans herror
      · refine iff_of_false (fun h => ?_) fun h => hwebhook h.2.1
        obtain ⟨error, herror⟩ := h
        rw [if_neg hwebhook] at herror
        split_ifs at herror
    · rw [if_pos hactive]
      refine iff_of_false (fun h => ?_) fun h => hactive h.1
      obtain ⟨error, herror⟩ := h
      cases herror

/-- A retry is planned for later. -/
theorem notificationDeliveryPlan_retryAt {plan : NotificationDeliveryPlan} {evidence : DeliveryEvidence}
    (h : notificationDeliveryPlan env now transport httpClient event = .ok (plan, evidence))
    (hretry : plan.status = .retryableFailed) : plan.nextAttemptAt = some (retryAt now) := by
  unfold notificationDeliveryPlan at h
  split at h
  · cases h
    cases hretry
  · rename_i sink hsink
    split_ifs at h
    · cases h
      cases hretry
    · cases h
      cases hretry
    · cases h
      cases hretry
    · cases hresult : webhookDeliveryResult env sink event transport httpClient with
      | error error =>
        rw [hresult] at h
        cases h
      | ok result =>
        rw [hresult] at h
        cases h
        obtain ⟨kind, responseStatus⟩ := result
        cases kind with
        | succeeded => cases hretry
        | permanentFailed => cases hretry
        | retryableFailed =>
          simp only [notificationDeliveryStatusFromResult] at hretry ⊢
          split at hretry
          · cases hretry
          · rename_i hbelow
            rw [if_neg hbelow]
    · cases h
      rfl

end Planning

section Delivering

variable {env : DeliveryEnv} {now : DateTime} {transport : NotificationDeliveryTransport} {httpClient : Option HttpClient}
  {s : NotificationOutboxStore} {event : NotificationOutboxEventRecord}

theorem outboxStatusLabel_label (status : AttemptStatus) :
    ∃ label, outboxStatusLabel status.label = some label ∧
      (status ≠ .retryableFailed → label ≠ "pending" ∧ label ≠ "retryable_failed") := by
  cases status with
  | succeeded => exact ⟨"delivered", rfl, fun _ => by decide⟩
  | retryableFailed => exact ⟨"retryable_failed", rfl, fun hne => absurd rfl hne⟩
  | permanentFailed => exact ⟨"permanent_failed", rfl, fun _ => by decide⟩
  | deadLettered => exact ⟨"dead_lettered", rfl, fun _ => by decide⟩

theorem deliver_planned {plan : NotificationDeliveryPlan} {evidence : DeliveryEvidence}
    (hstored : s.events.lookup event.notificationOutboxEventId = some event)
    (hplan : notificationDeliveryPlan env now transport httpClient event = .ok (plan, evidence)) :
    ∃ attempt after, deliverNotificationOutboxEvent env now transport httpClient s event =
        (.ok attempt, ⟨s.events.insert event.notificationOutboxEventId after, s.attempts ++ [attempt]⟩) ∧
      ∀ tenantId, after.isDue tenantId now = false := by
  obtain ⟨label, hlabel, hfinished⟩ := outboxStatusLabel_label plan.status
  let request : CreateNotificationDeliveryAttemptRequest :=
    { notificationOutboxEventId := event.notificationOutboxEventId
      notificationSinkId := event.notificationSinkId
      status := plan.status.label
      responseStatus := plan.responseStatus
      errorMessage := plan.errorMessage
      evidence := evidence
      nextAttemptAt := plan.nextAttemptAt }
  have hevent : s.events.lookup request.notificationOutboxEventId = some event := hstored
  have hvalid : outboxStatusLabel request.status = some label := hlabel
  obtain ⟨attempt, after, hrecord, -, -, hafter⟩ :=
    record_valid (env.newAttemptId event.notificationOutboxEventId) now hevent hvalid
  refine ⟨attempt, after, ?_, fun tenantId => ?_⟩
  · rw [deliverNotificationOutboxEvent, hplan]
    exact hrecord
  · unfold NotificationOutboxEventRecord.isDue
    by_cases hretry : plan.status = .retryableFailed
    · have hnext : after.nextAttemptAt = some (retryAt now) := by
        have hstatus : request.status = "retryable_failed" := congrArg AttemptStatus.label hretry
        rw [hafter]
        simp only [hstatus, if_pos]
        exact notificationDeliveryPlan_retryAt hplan hretry
      have hlate : ¬ retryAt now ≤ now := by
        show ¬ now.nanos + 60 * 1000000000 ≤ now.nanos
        omega
      rw [hnext, Option.all_some, decide_eq_false hlate, Bool.and_false]
    · have hstatus : after.status = label := by rw [hafter]
      obtain ⟨hpending, hretryable⟩ := hfinished hretry
      rw [hstatus, beq_false_of_ne hpending, beq_false_of_ne hretryable, Bool.or_false, Bool.and_false, Bool.false_and]

theorem deliver_undeliverable (hplan : ∃ error, notificationDeliveryPlan env now transport httpClient event = .error error) :
    (deliverNotificationOutboxEvent env now transport httpClient s event).2 = s := by
  obtain ⟨error, herror⟩ := hplan
  rw [deliverNotificationOutboxEvent, herror]

/-- Delivering one event touches no other event. -/
theorem deliver_others (s : NotificationOutboxStore) {id : String} (hne : id ≠ event.notificationOutboxEventId) :
    (deliverNotificationOutboxEvent env now transport httpClient s event).2.events.lookup id = s.events.lookup id := by
  rw [deliverNotificationOutboxEvent]
  cases notificationDeliveryPlan env now transport httpClient event with
  | error error => rfl
  | ok planned => exact record_others s now _ hne

theorem deliverAll_store (events : List NotificationOutboxEventRecord) (start : NotificationOutboxStore) :
    (deliverAll env now transport httpClient events start).2 =
      events.foldl (fun s event => (deliverNotificationOutboxEvent env now transport httpClient s event).2) start := by
  refine (List.foldl_hom Prod.snd fun state event => ?_).symm
  cases hdelivered : deliverNotificationOutboxEvent env now transport httpClient state.2 event with
  | mk result next =>
    cases result with
    | error error => rfl
    | ok attempt => rfl

/-- Over distinct events each one is left as its own delivery leaves it. -/
theorem deliverAll_lookup (env : DeliveryEnv) (now : DateTime) (transport : NotificationDeliveryTransport)
    (httpClient : Option HttpClient) {events : List NotificationOutboxEventRecord} {start : NotificationOutboxStore}
    (hapart : events.Pairwise (·.notificationOutboxEventId ≠ ·.notificationOutboxEventId))
    (hstored : ∀ event ∈ events, start.events.lookup event.notificationOutboxEventId = some event)
    (hevent : event ∈ events) :
    ((∃ error, notificationDeliveryPlan env now transport httpClient event = .error error) →
      (deliverAll env now transport httpClient events start).2.events.lookup event.notificationOutboxEventId = some event) ∧
    (¬ (∃ error, notificationDeliveryPlan env now transport httpClient event = .error error) →
      ∃ after, (deliverAll env now transport httpClient events start).2.events.lookup event.notificationOutboxEventId =
        some after ∧ ∀ tenantId, after.isDue tenantId now = false) := by
  rw [deliverAll_store]
  induction events generalizing start with
  | nil => exact absurd hevent List.not_mem_nil
  | cons first events ih =>
    obtain ⟨hfirst, hrest⟩ := List.pairwise_cons.mp hapart
    obtain ⟨hhead, htail⟩ := List.forall_mem_cons.mp hstored
    rw [List.foldl_cons]
    rcases List.mem_cons.mp hevent with rfl | hevent
    · -- the later deliveries are of other events
      have hlater (s : NotificationOutboxStore) : (events.foldl (fun s other =>
          (deliverNotificationOutboxEvent env now transport httpClient s other).2) s).events.lookup
            event.notificationOutboxEventId = s.events.lookup event.notificationOutboxEventId := by
        clear ih hapart hstored hhead htail hrest hevent
        induction events generalizing s with
        | nil => rfl
        | cons other events ih =>
          obtain ⟨hother, hothers⟩ := List.forall_mem_cons.mp hfirst
          exact (ih hothers _).trans (deliver_others s hother)
      rw [hlater]
      constructor
      · intro hfails
        rw [deliver_undeliverable hfails]
        exact hhead
      · intro hplanned
        cases hplan : notificationDeliveryPlan env now transport httpClient event with
        | error error => exact absurd ⟨error, hplan⟩ hplanned
        | ok planned =>
          obtain ⟨plan, evidence⟩ := planned
          obtain ⟨attempt, after, hdelivered, hdue⟩ := deliver_planned hhead hplan
          rw [hdelivered]
          exact ⟨after, AList.lookup_insert _, hdue⟩
    · refine ih hrest (fun other hother => ?_) hevent
      rw [deliver_others start (hfirst other hother).symm]
      exact htail other hother

end Delivering

/-- Every event is stored under its id. -/
def EventsKeyed (s : NotificationOutboxStore) : Prop :=
  ∀ id event, s.events.lookup id = some event → event.notificationOutboxEventId = id

section Due

variable {s : NotificationOutboxStore} {tenantId : String} {now : DateTime} {limit : Nat}
  {event : NotificationOutboxEventRecord}

theorem EventsKeyed.due_stored (hkeyed : EventsKeyed s) (h : event ∈ s.dueNotificationOutboxEvents tenantId now limit) :
    s.events.lookup event.notificationOutboxEventId = some event ∧ event.isDue tenantId now = true := by
  obtain ⟨hmem, hdue⟩ := List.mem_filter.mp (mem_sortBy.mp (List.mem_of_mem_take h))
  obtain ⟨entry, hentry, rfl⟩ := List.mem_map.mp hmem
  have hlookup : s.events.lookup entry.1 = some entry.2 := AList.mem_lookup_iff.mpr hentry
  refine ⟨?_, hdue⟩
  rwa [hkeyed _ _ hlookup]

theorem EventsKeyed.due_apart (hkeyed : EventsKeyed s) (tenantId : String) (now : DateTime) (limit : Nat) :
    (s.dueNotificationOutboxEvents tenantId now limit).Pairwise
      (·.notificationOutboxEventId ≠ ·.notificationOutboxEventId) := by
  have hentries : (s.events.entries.map Sigma.snd).Pairwise
      (·.notificationOutboxEventId ≠ ·.notificationOutboxEventId) := by
    rw [List.pairwise_map]
    have hnodup : s.events.entries.Pairwise (fun first second => first.1 ≠ second.1) :=
      List.pairwise_map.mp s.events.nodupKeys
    refine hnodup.imp_of_mem fun hfirst hsecond hne => ?_
    rw [hkeyed _ _ (AList.mem_lookup_iff.mpr hfirst), hkeyed _ _ (AList.mem_lookup_iff.mpr hsecond)]
    exact hne
  have hsorted := (sortBy_perm compareDueRecords ((s.events.entries.map Sigma.snd).filter (·.isDue tenantId now))).symm
  exact ((hentries.filter _).perm hsorted fun hne => Ne.symm hne).sublist (List.take_sublist _ _)

end Due

/-- A tick makes progress on every event it picks exactly when none of them is undeliverable. -/
theorem deliverDueNotifications_progress_iff (env : DeliveryEnv) (now : DateTime) (transport : NotificationDeliveryTransport)
    {s : NotificationOutboxStore} (hkeyed : EventsKeyed s) (tenantId : String) (limit : Nat) :
    (∀ event ∈ s.dueNotificationOutboxEvents tenantId now limit,
      MadeProgress s (deliverDueNotificationsWithTransport env now transport s tenantId limit).2 tenantId now event) ↔
    ∀ event ∈ s.dueNotificationOutboxEvents tenantId now limit, ¬ Undeliverable env event := by
  refine forall₂_congr fun event hevent => ?_
  obtain ⟨hstored, hdue⟩ := hkeyed.due_stored hevent
  have hhttp : transport = .http → (env.httpClient transport).isSome = true := by
    rintro rfl
    rfl
  obtain ⟨hfailed, hplanned⟩ := deliverAll_lookup env now transport (env.httpClient transport)
    (hkeyed.due_apart tenantId now limit) (fun other hother => (hkeyed.due_stored hother).1) hevent
  rw [notificationDeliveryPlan_error_iff hhttp] at hfailed hplanned
  constructor
  · intro hprogress hundeliverable
    have hlookup := hfailed hundeliverable
    rcases hprogress with ⟨-, after, hafter, hcount⟩ | hdone
    · cases hlookup.symm.trans hafter
      omega
    · rw [hdone event hlookup] at hdue
      cases hdue
  · intro hdeliverable
    obtain ⟨after, hafter, hdone⟩ := hplanned hdeliverable
    refine .inr fun other hother => ?_
    cases hafter.symm.trans hother
    exact hdone tenantId

section Examples

def alertSink : NotificationSinkRecord where
  status := .active
  sinkKind := "webhook"
  endpointConfig := .object [("url", .string "https://hooks.example.test/alerts")]
  signingSecretRefId := some "sec_1"

/-- One webhook sink, whose receiver answers 204; its signing secret is there or not. -/
def alertEnv (secret : Option String) : DeliveryEnv where
  sinks := (∅ : Index NotificationSinkRecord).insert "ns_1" alertSink
  secretValue := fun _ => secret
  environment := "production"
  parseUri := fun value =>
    if value = "https://hooks.example.test/alerts" then
      some ⟨none, some "https", some "hooks.example.test", "hooks.example.test"⟩
    else none
  client := fun _ _ => some 204
  webhookEvidence := fun _ _ _ => ⟨some "sha256:00", some "sec_1", some "sha256:01", .object []⟩
  newAttemptId := fun id => "nda_" ++ id

/-- Two due events: an older one for the webhook, and one whose sink is gone. -/
def twoDue : NotificationOutboxStore where
  events := ((∅ : Index NotificationOutboxEventRecord).insert "nob_1" pendingNotification).insert "nob_2"
    { pendingNotification with
      notificationOutboxEventId := "nob_2"
      notificationSinkId := none
      dedupeKey := "dedupe_2"
      createdAt := ⟨1⟩ }
  attempts := []

theorem twoDue_keyed : EventsKeyed twoDue := by
  intro id event hevent
  rcases insert_some hevent with ⟨rfl, rfl⟩ | ⟨-, hold⟩
  · rfl
  · rcases insert_some hold with ⟨rfl, rfl⟩ | ⟨-, hnone⟩
    · rfl
    · cases hnone

theorem preparedWebhook_progress :
    pendingNotification ∈ twoDue.dueNotificationOutboxEvents "tenant_1" ⟨2⟩ 10 ∧
      MadeProgress twoDue
        (deliverDueNotificationsWithTransport (alertEnv (some "key")) ⟨2⟩ .http twoDue "tenant_1" 10).2 "tenant_1" ⟨2⟩
        pendingNotification := by
  have hdue : pendingNotification ∈ twoDue.dueNotificationOutboxEvents "tenant_1" ⟨2⟩ 10 := by decide +kernel
  refine ⟨hdue, (deliverDueNotifications_progress_iff (alertEnv (some "key")) ⟨2⟩ .http twoDue_keyed "tenant_1"
    10).mpr ?_ pendingNotification hdue⟩
  rintro event - ⟨sink, hsink, -, -, hunprepared⟩
  obtain ⟨id, -, hlookup⟩ := Option.bind_eq_some_iff.mp hsink
  rcases insert_some hlookup with ⟨-, rfl⟩ | ⟨-, hnone⟩
  · rcases hunprepared with hurl | hsecret
    · have hhost : (alertEnv (some "key")).safeWebhookEndpointHostForConfig "https://hooks.example.test/alerts" =
          some "hooks.example.test" := by decide +kernel
      cases (hurl _ rfl).symm.trans hhost
    · cases hsecret "sec_1" rfl
  · cases hnone

/-- Without its signing secret the older event is tried and tried again, and with a limit of one it is all that is due. -/
theorem missingSecret_blocks :
    (∃ event ∈ twoDue.dueNotificationOutboxEvents "tenant_1" ⟨2⟩ 1,
      ¬ MadeProgress twoDue
        (deliverDueNotificationsWithTransport (alertEnv none) ⟨2⟩ .http twoDue "tenant_1" 1).2 "tenant_1" ⟨2⟩ event) ∧
    (deliverDueNotificationsWithTransport (alertEnv none) ⟨2⟩ .http twoDue "tenant_1" 1).2.dueNotificationOutboxEvents
      "tenant_1" ⟨2⟩ 1 = twoDue.dueNotificationOutboxEvents "tenant_1" ⟨2⟩ 1 := by
  have hsame : (deliverDueNotificationsWithTransport (alertEnv none) ⟨2⟩ .http twoDue "tenant_1" 1).2 = twoDue := by rfl
  have hdue : pendingNotification ∈ twoDue.dueNotificationOutboxEvents "tenant_1" ⟨2⟩ 1 := by decide +kernel
  rw [hsame]
  refine ⟨⟨pendingNotification, hdue, fun hprogress => ?_⟩, rfl⟩
  rcases hprogress with ⟨hcount, -⟩ | hdone
  · cases hcount
  · exact absurd (hdone pendingNotification rfl) (by decide +kernel)

end Examples

end Starweaver.Gateway
