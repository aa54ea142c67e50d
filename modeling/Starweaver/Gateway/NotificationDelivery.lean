import Starweaver.Library.AssocMap
import Starweaver.Library.Calendar
import Starweaver.Library.Interleaving
import Starweaver.Library.Json
import Starweaver.Library.Machine
import Starweaver.Library.SortBy
import Starweaver.Gateway.Catalog

namespace Starweaver.Gateway

open Library Library.AssocMap Library.Calendar Library.Interleaving Library.Machine Library.SortBy

structure NotificationSink where
  status : ResourceStatus
  sinkKind : String
  endpointConfig : Json

inductive OutboxStatus
  | pending
  | retryableFailed
  | delivered
  | permanentFailed
  | deadLettered
deriving DecidableEq, Repr

def OutboxStatus.finished : OutboxStatus → Bool
  | .delivered | .permanentFailed | .deadLettered => true
  | .pending | .retryableFailed => false

structure OutboxEvent where
  notificationOutboxEventId : String
  tenantId : String
  notificationSinkId : Option String
  dedupeKey : String
  status : OutboxStatus
  attemptCount : Int
  nextAttemptAt : Option DateTime
  createdAt : DateTime
  updatedAt : DateTime
deriving DecidableEq, Repr

inductive AttemptStatus
  | succeeded
  | retryableFailed
  | permanentFailed
  | deadLettered
deriving DecidableEq, Repr

structure NotificationDeliveryPlan where
  status : AttemptStatus
  responseStatus : Option Int
  errorMessage : Option String
  nextAttemptAt : Option DateTime
deriving DecidableEq, Repr

inductive WebhookDeliveryResultKind
  | succeeded
  | retryableFailed
  | permanentFailed
deriving DecidableEq, Repr

section Delivery

variable (sinks : Index NotificationSink)

def notificationDeliveryMaxAttempts (sink : NotificationSink) : Int :=
  match ((sink.endpointConfig.get "retry_policy").bind (·.get "max_attempts")).bind Json.asI64 with
  | some value => if 1 ≤ value ∧ value ≤ 10 then value else 3
  | none => 3

/-- A 32-bit count that stays at its largest value. -/
def nextAttemptCount (attemptCount : Int) : Int := min (attemptCount + 1) (2 ^ 31 - 1)

def retryAt (now : DateTime) : DateTime := now.addSeconds 60

def notificationDeliveryStatusFromResult (event : OutboxEvent) (sink : NotificationSink)
    (kind : WebhookDeliveryResultKind) (responseStatus : Option Int) (now : DateTime) : NotificationDeliveryPlan :=
  match kind with
  | .succeeded => ⟨.succeeded, responseStatus, none, none⟩
  | .permanentFailed => ⟨.permanentFailed, responseStatus, some "notification_webhook_permanent_failure", none⟩
  | .retryableFailed =>
    if notificationDeliveryMaxAttempts sink ≤ nextAttemptCount event.attemptCount then
      ⟨.deadLettered, responseStatus, some "notification_webhook_retry_exhausted", none⟩
    else ⟨.retryableFailed, responseStatus, some "notification_webhook_retryable_failure", some (retryAt now)⟩

/-- The plan of one delivery; `webhook` is what the checks of a webhook's endpoint and the call itself answer. -/
def deliveryPlan (event : OutboxEvent) (now : DateTime)
    (webhook : Result (WebhookDeliveryResultKind × Option Int)) : Result NotificationDeliveryPlan :=
  match event.notificationSinkId.bind sinks.lookup with
  | none => .ok ⟨.permanentFailed, none, some "notification_sink_missing", none⟩
  | some sink =>
    if sink.status ≠ .active then .ok ⟨.permanentFailed, none, some "notification_sink_not_active", none⟩
    else if sink.sinkKind = "stdout" then .ok ⟨.succeeded, some 204, none, none⟩
    else if sink.sinkKind = "disabled" then .ok ⟨.permanentFailed, none, some "notification_sink_disabled", none⟩
    else if sink.sinkKind = "webhook" then
      webhook.map fun result => notificationDeliveryStatusFromResult event sink result.1 result.2 now
    else .ok ⟨.retryableFailed, none, some "notification_delivery_backend_not_connected", some (retryAt now)⟩

end Delivery

structure NotificationDeliveryAttempt where
  notificationOutboxEventId : String
  notificationSinkId : Option String
  attemptIndex : Int
  plan : NotificationDeliveryPlan
  attemptedAt : DateTime
deriving DecidableEq, Repr

/-- An event that a worker has read as due, as it read it, and then has delivered. -/
inductive Delivery
  | due (event : OutboxEvent) (now : DateTime)
  | made (event : OutboxEvent) (now : DateTime) (plan : NotificationDeliveryPlan)
deriving DecidableEq, Repr

namespace Delivery

def event : Delivery → OutboxEvent
  | due event _ => event
  | made event _ _ => event

def id (delivery : Delivery) : String := delivery.event.notificationOutboxEventId

def isMade : Delivery → Bool
  | due _ _ => false
  | made _ _ _ => true

end Delivery

/-- The outbox, the recorded attempts, and what the workers hold; the lists of the workers are kept together, as nothing
depends on their order. `tries` counts the deliveries of an event since its creation or replay. -/
structure OutboxRuntime where
  events : Index OutboxEvent
  attempts : List NotificationDeliveryAttempt
  held : List Delivery
  tries : String → Int

def OutboxRuntime.start : OutboxRuntime := ⟨∅, [], [], fun _ => 0⟩

inductive OutboxAction
  | append (notificationOutboxEventId tenantId : String) (notificationSinkId : Option String) (dedupeKey : String)
    (nextAttemptAt : Option DateTime) (now : DateTime)
  | replay (notificationOutboxEventId : String) (now : DateTime)
  | readDue (tenantId : String) (now : DateTime) (limit : Nat)
  | deliver (index : Nat) (webhook : Result (WebhookDeliveryResultKind × Option Int))
  | record (index : Nat)

section Outbox

variable (events : Index OutboxEvent)

def compareDue (left right : OutboxEvent) : Ordering :=
  (compare left.createdAt.nanos right.createdAt.nanos).then
    (compare left.notificationOutboxEventId right.notificationOutboxEventId)

def OutboxEvent.isDue (event : OutboxEvent) (tenantId : String) (now : DateTime) : Bool :=
  event.tenantId == tenantId && !event.status.finished && event.nextAttemptAt.all fun next => decide (next ≤ now)

def dueNotificationOutboxEvents (tenantId : String) (now : DateTime) (limit : Nat) : List OutboxEvent :=
  (sortBy compareDue ((events.entries.map Sigma.snd).filter (·.isDue tenantId now))).take limit

def AttemptStatus.outboxStatus : AttemptStatus → OutboxStatus
  | .succeeded => .delivered
  | .retryableFailed => .retryableFailed
  | .permanentFailed => .permanentFailed
  | .deadLettered => .deadLettered

/-- What a recorded attempt leaves of an event. -/
def OutboxEvent.attempted (event : OutboxEvent) (plan : NotificationDeliveryPlan) (now : DateTime) : OutboxEvent :=
  { event with
    attemptCount := nextAttemptCount event.attemptCount
    status := plan.status.outboxStatus
    nextAttemptAt := if plan.status = .retryableFailed then plan.nextAttemptAt else none
    updatedAt := now }

def OutboxEvent.replayed (event : OutboxEvent) (now : DateTime) : OutboxEvent :=
  { event with status := .pending, attemptCount := 0, nextAttemptAt := some now, updatedAt := now }

end Outbox

def deliveryStep (sinks : Index NotificationSink) (s : OutboxRuntime) : OutboxAction → Option OutboxRuntime
  | .append id tenantId notificationSinkId dedupeKey nextAttemptAt now =>
    if s.events.entries.any fun entry => entry.2.tenantId == tenantId && entry.2.dedupeKey == dedupeKey then some s
    else if (s.events.lookup id).isSome then none
    else some { s with
      events := s.events.insert id
        ⟨id, tenantId, notificationSinkId, dedupeKey, .pending, 0, nextAttemptAt, now, now⟩
      tries := Function.update s.tries id 0 }
  | .replay id now =>
    match s.events.lookup id with
    | none => some s
    | some event =>
      if event.status ≠ .deadLettered then some s
      else some { s with
        events := s.events.insert id (event.replayed now)
        tries := Function.update s.tries id 0 }
  | .readDue tenantId now limit => some { s with
      held := (dueNotificationOutboxEvents s.events tenantId now limit).map (Delivery.due · now) ++ s.held }
  | .deliver index webhook =>
    match s.held[index]? with
    | some (.due event now) =>
      let others := s.held.eraseIdx index
      match deliveryPlan sinks event now webhook with
      | .error _ => some { s with held := others }
      | .ok plan => some { s with
          held := .made event now plan :: others
          tries := Function.update s.tries event.notificationOutboxEventId
            (s.tries event.notificationOutboxEventId + 1) }
    | _ => none
  | .record index =>
    match s.held[index]? with
    | some (.made event now plan) =>
      let others := s.held.eraseIdx index
      match s.events.lookup event.notificationOutboxEventId with
      | none => some { s with held := others }
      | some stored => some { s with
          events := s.events.insert event.notificationOutboxEventId (stored.attempted plan now)
          attempts := s.attempts ++ [⟨event.notificationOutboxEventId, event.notificationSinkId, stored.attemptCount, plan,
            now⟩]
          held := others }
    | _ => none

/-- A worker reads a due list of which no worker holds an event. -/
def ClaimedApart (s : OutboxRuntime) : OutboxAction → Prop
  | .readDue tenantId now limit => ∀ event ∈ dueNotificationOutboxEvents s.events tenantId now limit,
      ∀ delivery ∈ s.held, delivery.id ≠ event.notificationOutboxEventId
  | _ => True

/-- A recorded attempt changes the status of no finished event. -/
def KeepsFinished (sinks : Index NotificationSink) (s : OutboxRuntime) : OutboxAction → Prop
  | .record index => ∀ next, deliveryStep sinks s (.record index) = some next →
      ∀ id event, s.events.lookup id = some event → event.status.finished →
        ∃ after, next.events.lookup id = some after ∧ after.status = event.status
  | _ => True

/-- The event goes to a webhook sink with this bound. -/
def WebhookBound (sinks : Index NotificationSink) (event : OutboxEvent) (bound : Int) : Prop :=
  ∃ sink, event.notificationSinkId.bind sinks.lookup = some sink ∧ sink.sinkKind = "webhook" ∧
    notificationDeliveryMaxAttempts sink = bound

def WithinMaxAttempts (sinks : Index NotificationSink) (s : OutboxRuntime) : Prop :=
  ∀ id event bound, s.events.lookup id = some event → WebhookBound sinks event bound → s.tries id ≤ bound

section Bounds

variable {sinks : Index NotificationSink} {s next : OutboxRuntime} {action : OutboxAction}

theorem maxAttempts_bounds (sink : NotificationSink) :
    1 ≤ notificationDeliveryMaxAttempts sink ∧ notificationDeliveryMaxAttempts sink ≤ 10 := by
  unfold notificationDeliveryMaxAttempts
  split
  · split
    · assumption
    · omega
  · omega

theorem nextAttemptCount_of_lt {count : Int} (h : count < 10) : nextAttemptCount count = count + 1 := by
  unfold nextAttemptCount
  omega

theorem statusFromResult_retry {event : OutboxEvent} {sink : NotificationSink} {kind : WebhookDeliveryResultKind}
    {responseStatus : Option Int} {now : DateTime}
    (h : (notificationDeliveryStatusFromResult event sink kind responseStatus now).status = .retryableFailed) :
    nextAttemptCount event.attemptCount < notificationDeliveryMaxAttempts sink := by
  cases kind with
  | succeeded => cases h
  | permanentFailed => cases h
  | retryableFailed =>
    simp only [notificationDeliveryStatusFromResult] at h
    split at h
    · cases h
    · omega

/-- Only a webhook event below its bound is retried. -/
theorem deliveryPlan_retry {event : OutboxEvent} {now : DateTime}
    {webhook : Result (WebhookDeliveryResultKind × Option Int)} {plan : NotificationDeliveryPlan} {bound : Int}
    (h : deliveryPlan sinks event now webhook = .ok plan) (hbound : WebhookBound sinks event bound)
    (hretry : plan.status = .retryableFailed) : nextAttemptCount event.attemptCount < bound := by
  obtain ⟨sink, hsink, hkind, rfl⟩ := hbound
  simp only [deliveryPlan, hsink, hkind] at h
  split at h
  · cases h
    cases hretry
  · simp only [show ("webhook" : String) ≠ "stdout" by decide, show ("webhook" : String) ≠ "disabled" by decide, if_false,
      if_true] at h
    cases webhook with
    | error error => cases h
    | ok result =>
      cases h
      exact statusFromResult_retry hretry

/-- What the workers hold is what the outbox has, each event once, and no webhook event is over its bound. -/
structure DeliveredApart (sinks : Index NotificationSink) (s : OutboxRuntime) : Prop where
  keys : ∀ id event, s.events.lookup id = some event → event.notificationOutboxEventId = id
  held : ∀ delivery ∈ s.held, s.events.lookup delivery.id = some delivery.event ∧ delivery.event.status.finished = false
  apart : s.held.Pairwise (·.id ≠ ·.id)
  planned : ∀ event now plan bound, Delivery.made event now plan ∈ s.held → WebhookBound sinks event bound →
    plan.status = .retryableFailed → nextAttemptCount event.attemptCount < bound
  within : WithinMaxAttempts sinks s
  counted : ∀ id event bound, s.events.lookup id = some event → WebhookBound sinks event bound →
    event.status.finished = false → event.attemptCount < bound ∧ s.tries id ≤ event.attemptCount + 1 ∧
      ((∀ delivery ∈ s.held, delivery.id = id → delivery.isMade = false) → s.tries id ≤ event.attemptCount)

/-- An event that no worker holds starts anew. -/
theorem DeliveredApart.renew (h : DeliveredApart sinks s) {id : String} {event : OutboxEvent}
    (hid : event.notificationOutboxEventId = id) (hpending : event.status = .pending) (hcount : event.attemptCount = 0)
    (hunheld : ∀ delivery ∈ s.held, delivery.id ≠ id) :
    DeliveredApart sinks { s with events := s.events.insert id event, tries := Function.update s.tries id 0 } := by
  refine ⟨fun other stored hstored => ?_, fun delivery hdelivery => ?_, h.apart, h.planned,
    fun other stored bound hstored hbound => ?_, fun other stored bound hstored hbound hunfinished => ?_⟩
  · rcases insert_some hstored with ⟨rfl, rfl⟩ | ⟨-, hold⟩
    · exact hid
    · exact h.keys other stored hold
  · rw [AList.lookup_insert_ne (hunheld delivery hdelivery)]
    exact h.held delivery hdelivery
  · rcases insert_some hstored with ⟨rfl, rfl⟩ | ⟨hne, hold⟩
    · obtain ⟨sink, -, -, rfl⟩ := hbound
      simp only [Function.update_self]
      exact (Int.zero_le_ofNat 1).trans (maxAttempts_bounds sink).1
    · simp only [Function.update_of_ne hne]
      exact h.within other stored bound hold hbound
  · rcases insert_some hstored with ⟨rfl, rfl⟩ | ⟨hne, hold⟩
    · obtain ⟨sink, -, -, rfl⟩ := hbound
      have hpositive := (maxAttempts_bounds sink).1
      simp only [Function.update_self, hcount]
      refine ⟨by omega, by omega, fun _ => le_refl _⟩
    · simp only [Function.update_of_ne hne]
      exact h.counted other stored bound hold hbound hunfinished

theorem mem_dueNotificationOutboxEvents {events : Index OutboxEvent} {tenantId : String} {now : DateTime} {limit : Nat}
    {event : OutboxEvent} (h : event ∈ dueNotificationOutboxEvents events tenantId now limit) :
    (∃ id, events.lookup id = some event) ∧ event.status.finished = false := by
  obtain ⟨hmem, hdue⟩ := List.mem_filter.mp (mem_sortBy.mp (List.mem_of_mem_take h))
  obtain ⟨entry, hentry, rfl⟩ := List.mem_map.mp hmem
  refine ⟨⟨entry.1, AList.mem_lookup_iff.mpr hentry⟩, ?_⟩
  simp only [OutboxEvent.isDue, Bool.and_eq_true, Bool.not_eq_true'] at hdue
  exact hdue.1.2

/-- A due list has each event once. -/
theorem due_pairwise {events : Index OutboxEvent} (hkeys : ∀ id event, events.lookup id = some event →
    event.notificationOutboxEventId = id) (tenantId : String) (now : DateTime) (limit : Nat) :
    (dueNotificationOutboxEvents events tenantId now limit).Pairwise
      (·.notificationOutboxEventId ≠ ·.notificationOutboxEventId) := by
  have hentries : (events.entries.map Sigma.snd).Pairwise (·.notificationOutboxEventId ≠ ·.notificationOutboxEventId) := by
    rw [List.pairwise_map]
    have hnodup : events.entries.Pairwise (fun first second => first.1 ≠ second.1) :=
      List.pairwise_map.mp events.nodupKeys
    refine hnodup.imp_of_mem fun hfirst hsecond hne => ?_
    rw [hkeys _ _ (AList.mem_lookup_iff.mpr hfirst), hkeys _ _ (AList.mem_lookup_iff.mpr hsecond)]
    exact hne
  have hsorted := (sortBy_perm compareDue ((events.entries.map Sigma.snd).filter (·.isDue tenantId now))).symm
  exact ((hentries.filter _).perm hsorted fun hne => Ne.symm hne).sublist (List.take_sublist _ _)

theorem DeliveredApart.readDue (h : DeliveredApart sinks s) {tenantId : String} {now : DateTime} {limit : Nat}
    (hclaimed : ClaimedApart s (.readDue tenantId now limit)) :
    DeliveredApart sinks { s with
      held := (dueNotificationOutboxEvents s.events tenantId now limit).map (Delivery.due · now) ++ s.held } := by
  refine ⟨h.keys, fun delivery hdelivery => ?_, List.pairwise_append.mpr ⟨?_, h.apart, ?_⟩,
    fun event read plan bound hmade => ?_, h.within, fun id event bound hevent hbound hunfinished => ?_⟩
  · rcases List.mem_append.mp hdelivery with hnew | hold
    · obtain ⟨event, hevent, rfl⟩ := List.mem_map.mp hnew
      obtain ⟨⟨id, hid⟩, hunfinished⟩ := mem_dueNotificationOutboxEvents hevent
      refine ⟨?_, hunfinished⟩
      show s.events.lookup event.notificationOutboxEventId = some event
      rwa [h.keys id event hid]
    · exact h.held delivery hold
  · rw [List.pairwise_map]
    exact due_pairwise h.keys tenantId now limit
  · intro delivery hdelivery other hother
    obtain ⟨event, hevent, rfl⟩ := List.mem_map.mp hdelivery
    exact (hclaimed event hevent other hother).symm
  · rcases List.mem_append.mp hmade with hnew | hold
    · obtain ⟨other, -, heq⟩ := List.mem_map.mp hnew
      cases heq
    · exact h.planned event read plan bound hold
  · obtain ⟨hlt, htries, hunmade⟩ := h.counted id event bound hevent hbound hunfinished
    exact ⟨hlt, htries, fun hall => hunmade fun delivery hdelivery => hall delivery (List.mem_append_right _ hdelivery)⟩

theorem DeliveredApart.drop (h : DeliveredApart sinks s) {index : Nat} {event : OutboxEvent} {now : DateTime}
    (hindex : s.held[index]? = some (.due event now)) : DeliveredApart sinks { s with held := s.held.eraseIdx index } := by
  refine ⟨h.keys, fun other hother => h.held other (List.mem_of_mem_eraseIdx hother),
    h.apart.sublist (List.eraseIdx_sublist _ _), fun other read plan bound hmade =>
      h.planned other read plan bound (List.mem_of_mem_eraseIdx hmade), h.within,
    fun id stored bound hstored hbound hunfinished => ?_⟩
  obtain ⟨hlt, htries, hunmade⟩ := h.counted id stored bound hstored hbound hunfinished
  refine ⟨hlt, htries, fun hall => hunmade fun other hother hid => ?_⟩
  rcases List.mem_cons.mp ((perm_eraseIdx hindex).mem_iff.mp hother) with rfl | hrest
  · rfl
  · exact hall other hrest hid

theorem DeliveredApart.deliver (h : DeliveredApart sinks s) {index : Nat} {event : OutboxEvent} {now : DateTime}
    {webhook : Result (WebhookDeliveryResultKind × Option Int)} {plan : NotificationDeliveryPlan}
    (hindex : s.held[index]? = some (.due event now)) (hplan : deliveryPlan sinks event now webhook = .ok plan) :
    DeliveredApart sinks { s with
      held := .made event now plan :: s.held.eraseIdx index
      tries := Function.update s.tries event.notificationOutboxEventId (s.tries event.notificationOutboxEventId + 1) } := by
  have hothers := ne_of_eraseIdx h.apart hindex
  have hstored : s.events.lookup event.notificationOutboxEventId = some event :=
    (h.held (.due event now) (List.mem_of_getElem? hindex)).1
  have hunfinished : event.status.finished = false := (h.held (.due event now) (List.mem_of_getElem? hindex)).2
  have hunmade (delivery : Delivery) (hdelivery : delivery ∈ s.held)
      (hid : delivery.id = event.notificationOutboxEventId) : delivery.isMade = false := by
    rcases List.mem_cons.mp ((perm_eraseIdx hindex).mem_iff.mp hdelivery) with rfl | hrest
    · rfl
    · exact absurd hid (hothers delivery hrest)
  have hcounted (id : String) (other : OutboxEvent) (bound : Int) (hother : s.events.lookup id = some other)
      (hbound : WebhookBound sinks other bound) (hid : id = event.notificationOutboxEventId) :
      other.attemptCount < bound ∧ s.tries id + 1 ≤ other.attemptCount + 1 := by
    subst hid
    cases hstored.symm.trans hother
    obtain ⟨hlt, -, htries⟩ := h.counted _ _ bound hother hbound hunfinished
    exact ⟨hlt, Int.add_le_add_right (htries hunmade) 1⟩
  refine ⟨h.keys, List.forall_mem_cons.mpr ⟨⟨hstored, hunfinished⟩, fun other hother =>
      h.held other (List.mem_of_mem_eraseIdx hother)⟩, List.pairwise_cons.mpr ⟨fun other hother =>
        (hothers other hother).symm, h.apart.sublist (List.eraseIdx_sublist _ _)⟩,
    fun other read otherPlan bound hmade hbound hretry => ?_, fun id other bound hother hbound => ?_,
    fun id other bound hother hbound hopen => ?_⟩
  · rcases List.mem_cons.mp hmade with heq | hrest
    · cases heq
      exact deliveryPlan_retry hplan hbound hretry
    · exact h.planned other read otherPlan bound (List.mem_of_mem_eraseIdx hrest) hbound hretry
  · by_cases hid : id = event.notificationOutboxEventId
    · obtain ⟨hlt, htries⟩ := hcounted id other bound hother hbound hid
      simp only [hid, Function.update_self]
      rw [hid] at htries
      omega
    · simp only [Function.update_of_ne hid]
      exact h.within id other bound hother hbound
  · by_cases hid : id = event.notificationOutboxEventId
    · obtain ⟨hlt, htries⟩ := hcounted id other bound hother hbound hid
      simp only [hid, Function.update_self]
      rw [hid] at htries
      refine ⟨hlt, htries, fun hall => ?_⟩
      have hmade := hall (.made event now plan) List.mem_cons_self rfl
      cases hmade
    · obtain ⟨hlt, htries, hnone⟩ := h.counted id other bound hother hbound hopen
      simp only [Function.update_of_ne hid]
      refine ⟨hlt, htries, fun hall => hnone fun delivery hdelivery hsame => ?_⟩
      rcases List.mem_cons.mp ((perm_eraseIdx hindex).mem_iff.mp hdelivery) with rfl | hrest
      · exact absurd hsame.symm hid
      · exact hall delivery (List.mem_cons_of_mem _ hrest) hsame

theorem DeliveredApart.record (h : DeliveredApart sinks s) {index : Nat} {event : OutboxEvent} {now : DateTime}
    {plan : NotificationDeliveryPlan} (hindex : s.held[index]? = some (.made event now plan))
    (attempts : List NotificationDeliveryAttempt) :
    DeliveredApart sinks { s with
      events := s.events.insert event.notificationOutboxEventId (event.attempted plan now)
      attempts := attempts
      held := s.held.eraseIdx index } := by
  have hmem := List.mem_of_getElem? hindex
  have hothers := ne_of_eraseIdx h.apart hindex
  have hstored : s.events.lookup event.notificationOutboxEventId = some event := (h.held (.made event now plan) hmem).1
  have hunfinished : event.status.finished = false := (h.held (.made event now plan) hmem).2
  have hnext {bound : Int} (hbound : WebhookBound sinks event bound) :
      s.tries event.notificationOutboxEventId ≤ nextAttemptCount event.attemptCount ∧
        nextAttemptCount event.attemptCount ≤ bound := by
    obtain ⟨hlt, htries, -⟩ := h.counted _ _ bound hstored hbound hunfinished
    obtain ⟨sink, -, -, hmax⟩ := hbound
    have hten := (maxAttempts_bounds sink).2
    rw [nextAttemptCount_of_lt (show event.attemptCount < 10 by omega)]
    exact ⟨htries, hlt⟩
  refine ⟨fun id other hother => ?_, fun delivery hdelivery => ?_, h.apart.sublist (List.eraseIdx_sublist _ _),
    fun other read otherPlan bound hmade => h.planned other read otherPlan bound (List.mem_of_mem_eraseIdx hmade),
    fun id other bound hother hbound => ?_, fun id other bound hother hbound hopen => ?_⟩
  · rcases insert_some hother with ⟨rfl, rfl⟩ | ⟨-, hold⟩
    · rfl
    · exact h.keys id other hold
  · have hne : delivery.id ≠ event.notificationOutboxEventId := hothers delivery hdelivery
    simp only [AList.lookup_insert_ne hne]
    exact h.held delivery (List.mem_of_mem_eraseIdx hdelivery)
  · rcases insert_some hother with ⟨rfl, rfl⟩ | ⟨-, hold⟩
    · exact (hnext hbound).1.trans (hnext hbound).2
    · exact h.within id other bound hold hbound
  · rcases insert_some hother with ⟨rfl, rfl⟩ | ⟨hne, hold⟩
    · have hretry : plan.status = .retryableFailed := by
        revert hopen
        show plan.status.outboxStatus.finished = false → _
        cases plan.status <;> simp [AttemptStatus.outboxStatus, OutboxStatus.finished]
      have hlt := h.planned event now plan bound hmem hbound hretry
      have htries := (hnext hbound).1
      refine ⟨hlt, ?_, fun _ => htries⟩
      show s.tries event.notificationOutboxEventId ≤ nextAttemptCount event.attemptCount + 1
      omega
    · obtain ⟨hlt, htries, hnone⟩ := h.counted id other bound hold hbound hopen
      refine ⟨hlt, htries, fun hall => hnone fun delivery hdelivery hsame => ?_⟩
      rcases List.mem_cons.mp ((perm_eraseIdx hindex).mem_iff.mp hdelivery) with rfl | hrest
      · exact absurd hsame.symm hne
      · exact hall delivery hrest hsame

theorem DeliveredApart.step (h : DeliveredApart sinks s) (hclaimed : ClaimedApart s action)
    (hnext : deliveryStep sinks s action = some next) : DeliveredApart sinks next := by
  cases action with
  | append id tenantId notificationSinkId dedupeKey nextAttemptAt now =>
    simp only [deliveryStep] at hnext
    split at hnext
    · cases hnext
      exact h
    · split at hnext
      · cases hnext
      · rename_i hfresh
        cases hnext
        refine h.renew rfl rfl rfl fun delivery hdelivery hid => ?_
        obtain ⟨hstored, -⟩ := h.held delivery hdelivery
        rw [hid] at hstored
        simp [hstored] at hfresh
  | replay id now =>
    simp only [deliveryStep] at hnext
    split at hnext
    · cases hnext
      exact h
    · rename_i event hevent
      split at hnext
      · cases hnext
        exact h
      · rename_i hdead
        cases hnext
        refine h.renew (h.keys id event hevent) rfl rfl fun delivery hdelivery hid => ?_
        obtain ⟨hstored, hunfinished⟩ := h.held delivery hdelivery
        rw [hid] at hstored
        cases hevent.symm.trans hstored
        rw [not_not.mp hdead] at hunfinished
        cases hunfinished
  | readDue tenantId now limit =>
    cases hnext
    exact h.readDue hclaimed
  | deliver index webhook =>
    simp only [deliveryStep] at hnext
    split at hnext
    · rename_i event now hindex
      split at hnext
      · cases hnext
        exact h.drop hindex
      · rename_i plan hplan
        cases hnext
        exact h.deliver hindex hplan
    · cases hnext
  | record index =>
    simp only [deliveryStep] at hnext
    split at hnext
    · rename_i event now plan hindex
      obtain ⟨hstored, -⟩ := h.held (.made event now plan) (List.mem_of_getElem? hindex)
      have hlookup : s.events.lookup event.notificationOutboxEventId = some event := hstored
      rw [hlookup] at hnext
      cases hnext
      exact h.record hindex _
    · cases hnext

theorem DeliveredApart.keepsFinished (h : DeliveredApart sinks s) (action : OutboxAction) :
    KeepsFinished sinks s action := by
  cases action with
  | record index =>
    intro next hnext id event hevent hfinished
    simp only [deliveryStep] at hnext
    split at hnext
    · rename_i copy now plan hindex
      obtain ⟨hstored, hunfinished⟩ := h.held (.made copy now plan) (List.mem_of_getElem? hindex)
      have hlookup : s.events.lookup copy.notificationOutboxEventId = some copy := hstored
      have hne : id ≠ copy.notificationOutboxEventId := by
        rintro rfl
        have heq : copy = event := Option.some.inj (hlookup.symm.trans hevent)
        have hopen : copy.status.finished = false := hunfinished
        rw [heq, hfinished] at hopen
        cases hopen
      rw [hlookup] at hnext
      cases hnext
      exact ⟨event, by rwa [AList.lookup_insert_ne hne], rfl⟩
    · cases hnext
  | _ => exact trivial

end Bounds

/-- When no two workers hold one event, finished events stay finished and no webhook event is tried too often. -/
theorem finished_notifications_stay (sinks : Index NotificationSink) {actions : List OutboxAction}
    (hclaimed : Meets (deliveryStep sinks) ClaimedApart .start actions) :
    Meets (deliveryStep sinks) (KeepsFinished sinks) .start actions ∧
      ∀ final, run (deliveryStep sinks) .start actions = some final → WithinMaxAttempts sinks final := by
  have hstart : DeliveredApart sinks .start := by
    refine ⟨fun _ _ hevent => (Option.some_ne_none _ hevent.symm).elim, ?_, ?_, ?_,
      fun _ _ _ hevent => (Option.some_ne_none _ hevent.symm).elim,
      fun _ _ _ hevent => (Option.some_ne_none _ hevent.symm).elim⟩ <;> simp [OutboxRuntime.start]
  have hstep (s : OutboxRuntime) (action : OutboxAction) (next : OutboxRuntime) (h : DeliveredApart sinks s)
      (hapart : ClaimedApart s action) (hnext : deliveryStep sinks s action = some next) : DeliveredApart sinks next :=
    h.step hapart hnext
  exact ⟨Meets.imp_of_invariant hstep (fun s action h _ => h.keepsFinished action) hstart hclaimed,
    fun final hrun => (run_invariant hstep hstart hclaimed hrun).within⟩

/-- One active webhook sink that is tried at most the given number of times. -/
def oneWebhook (maxAttempts : Int) : Index NotificationSink :=
  (∅ : Index NotificationSink).insert "ns_1"
    ⟨.active, "webhook", .object [("retry_policy", .object [("max_attempts", .number maxAttempts)])]⟩

def appendOne : OutboxAction := .append "nob_1" "tenant_1" (some "ns_1") "dedupe_1" none ⟨0⟩

def retryLater : OutboxAction := .deliver 0 (.ok (.retryableFailed, some 503))

/-- One worker fails once and succeeds a minute later. -/
def retriedOnce : List OutboxAction :=
  [appendOne, .readDue "tenant_1" ⟨0⟩ 10, retryLater, .record 0, .readDue "tenant_1" (retryAt ⟨0⟩) 10,
    .deliver 0 (.ok (.succeeded, some 204)), .record 0]

theorem retriedOnce_claimed : Meets (deliveryStep (oneWebhook 2)) ClaimedApart .start retriedOnce := by
  refine Meets.cons rfl trivial ?_
  refine Meets.cons rfl (fun _ _ _ hheld => absurd hheld List.not_mem_nil) ?_
  refine Meets.cons rfl trivial ?_
  refine Meets.cons rfl trivial ?_
  refine Meets.cons rfl (fun _ _ _ hheld => absurd hheld List.not_mem_nil) ?_
  refine Meets.cons rfl trivial ?_
  exact Meets.cons rfl trivial trivial

theorem retriedOnce_stays :
    ∃ final, run (deliveryStep (oneWebhook 2)) .start retriedOnce = some final ∧
      (final.events.lookup "nob_1").map (fun event => (event.status, event.attemptCount)) = some (.delivered, 2) ∧
      final.tries "nob_1" = 2 ∧ WithinMaxAttempts (oneWebhook 2) final ∧
      Meets (deliveryStep (oneWebhook 2)) (KeepsFinished (oneWebhook 2)) .start retriedOnce := by
  obtain ⟨final, hrun, hstatus, htries⟩ :
      ∃ final, run (deliveryStep (oneWebhook 2)) .start retriedOnce = some final ∧
        (final.events.lookup "nob_1").map (fun event => (event.status, event.attemptCount)) = some (.delivered, 2) ∧
        final.tries "nob_1" = 2 := ⟨_, rfl, rfl, rfl⟩
  obtain ⟨hkeeps, hwithin⟩ := finished_notifications_stay (oneWebhook 2) retriedOnce_claimed
  exact ⟨final, hrun, hstatus, htries, hwithin final hrun, hkeeps⟩

/-- Two workers read the event before either records: the second one turns a delivered event into one to be retried, and
an event that may be tried once is tried twice. -/
def readTwice : List OutboxAction :=
  [appendOne, .readDue "tenant_1" ⟨0⟩ 10, .readDue "tenant_1" ⟨0⟩ 10, .deliver 0 (.ok (.succeeded, some 204)), .record 0,
    retryLater]

theorem readTwice_reopens :
    (∃ final, run (deliveryStep (oneWebhook 2)) .start readTwice = some final ∧
      (final.events.lookup "nob_1").map (·.status) = some .delivered ∧ ¬ KeepsFinished (oneWebhook 2) final (.record 0)) ∧
    ∃ final, run (deliveryStep (oneWebhook 1)) .start readTwice = some final ∧ final.tries "nob_1" = 2 ∧
      ¬ WithinMaxAttempts (oneWebhook 1) final := by
  refine ⟨⟨_, rfl, rfl, fun h => ?_⟩, _, rfl, rfl, fun h => ?_⟩
  · obtain ⟨after, hafter, hstatus⟩ := h _ rfl "nob_1" _ rfl rfl
    cases hafter
    cases hstatus
  · have hbound := h "nob_1" _ 1 rfl ⟨_, rfl, rfl, rfl⟩
    exact absurd hbound (by decide)

end Starweaver.Gateway
