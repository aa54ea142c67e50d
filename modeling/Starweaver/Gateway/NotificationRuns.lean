import Starweaver.Gateway.NotificationFanOut

/-! However the handlers are interleaved, a subscription is notified once of what it asks for. -/

namespace Starweaver.Gateway

open Library Library.AssocMap Library.Calendar Library.KeyedOnce Library.Machine Library.Separated Library.SortBy
  Library.TextCode

section Announcements

/-- An event without what its deliveries change. -/
def NotificationOutboxEventRecord.announcement (event : NotificationOutboxEventRecord) : NotificationOutboxEventRecord :=
  { event with status := "pending", attemptCount := 0, nextAttemptAt := none, updatedAt := event.createdAt }

theorem NotificationOutboxEventRecord.mark_eq {event other : NotificationOutboxEventRecord}
    (h : event.announcement = other.announcement) : event.mark = other.mark := by
  have hmarks : event.announcement.mark = other.announcement.mark := congrArg mark h
  exact hmarks

/-- The outbox has the event of the sending under this id. -/
structure Announces (s : NotificationSystem) (notificationOutboxEventId : String) (sending : Sending) : Prop where
  event : ∃ event, s.outbox.events.lookup notificationOutboxEventId = some event ∧
    event.announcement = (sending.outboxEvent notificationOutboxEventId).announcement
  details : s.details.lookup notificationOutboxEventId = some sending.details

/-- What a delivery does to the outbox: one event is written, and its announcement stays. -/
def Redelivered (events next : Index NotificationOutboxEventRecord) : Prop :=
  next = events ∨ ∃ id event updated, events.lookup id = some event ∧ updated.announcement = event.announcement ∧
    next = events.insert id updated

theorem recordNotificationDeliveryAttempt_events (s : NotificationOutboxStore) (now : DateTime)
    (request : CreateNotificationDeliveryAttemptRequest) (attemptId : String) :
    Redelivered s.events (recordNotificationDeliveryAttempt s now request attemptId).2.events := by
  unfold recordNotificationDeliveryAttempt
  split
  · exact .inl rfl
  · rename_i event hevent
    dsimp only
    split
    · refine .inr ⟨_, event, _, hevent, ?_, rfl⟩
      rfl
    · refine .inr ⟨_, event, _, hevent, ?_, rfl⟩
      rfl

theorem replayDeadLetteredNotificationOutboxEvent_events (s : NotificationOutboxStore) (now : DateTime)
    (notificationOutboxEventId : String) :
    Redelivered s.events
      (replayDeadLetteredNotificationOutboxEvent s now notificationOutboxEventId).2.events := by
  unfold replayDeadLetteredNotificationOutboxEvent
  split
  · exact .inl rfl
  · rename_i event hevent
    split
    · exact .inl rfl
    · refine .inr ⟨_, event, _, hevent, ?_, rfl⟩
      rfl

section Redelivered

variable {events next : Index NotificationOutboxEventRecord} {id : String} {event : NotificationOutboxEventRecord}

theorem Redelivered.once (h : Redelivered events next) (honce : Once (·.mark) events) : Once (·.mark) next := by
  rcases h with rfl | ⟨id, event, updated, hevent, hsame, rfl⟩
  · exact honce
  · exact honce.insert hevent (NotificationOutboxEventRecord.mark_eq hsame)

theorem Redelivered.kept (h : Redelivered events next) (hevent : events.lookup id = some event) :
    ∃ after, next.lookup id = some after ∧ after.announcement = event.announcement := by
  rcases h with rfl | ⟨written, old, updated, hold, hsame, rfl⟩
  · exact ⟨event, hevent, rfl⟩
  · by_cases hid : id = written
    · subst hid
      cases hold.symm.trans hevent
      exact ⟨updated, AList.lookup_insert _, hsame⟩
    · exact ⟨event, by rw [AList.lookup_insert_ne hid, hevent], rfl⟩

theorem Redelivered.before (h : Redelivered events next) (hevent : next.lookup id = some event) :
    ∃ before, events.lookup id = some before ∧ before.announcement = event.announcement := by
  rcases h with rfl | ⟨written, old, updated, hold, hsame, rfl⟩
  · exact ⟨event, hevent, rfl⟩
  · rcases insert_some hevent with ⟨rfl, rfl⟩ | ⟨-, hbefore⟩
    · exact ⟨old, hold, hsame.symm⟩
    · exact ⟨event, hbefore, rfl⟩

end Redelivered

end Announcements

/-- The sending is one that its subscription asks for, and stays within the tenant. -/
structure Sending.Matched (sending : Sending) : Prop where
  wants : sending.subscription.wants sending.notice = true
  tenant : sending.subscription.tenantId = sending.notice.actor.tenantId
  sink : sending.sink.notificationSinkId = sending.subscription.notificationSinkId
  sinkTenant : sending.sink.tenantId = sending.notice.actor.tenantId
  active : sending.sink.status = .active

section Fanned

/-- The sink of the subscription is there, and is its tenant's. -/
def Housed (s : NotificationSystem) (subscription : NotificationSubscriptionRecord) : Prop :=
  ∃ sink, s.sinks.lookup subscription.notificationSinkId = some sink ∧ sink.tenantId = subscription.tenantId

variable (raised : Notice → Prop) (created : String → Prop)

def Reaches (s : NotificationSystem) (notice : Notice) (subscription : NotificationSubscriptionRecord) : Prop :=
  subscription.wants notice = true ∧ subscription.tenantId = notice.actor.tenantId ∧
    created subscription.notificationSubscriptionId ∧ Housed s subscription

def NotificationTask.Linked (s : NotificationSystem) : NotificationTask → Prop
  | .subscribing record => created record.notificationSubscriptionId ∧ Housed s record
  | .fanningOut notice subscriptions =>
    raised notice ∧ ∀ subscription ∈ subscriptions, Reaches created s notice subscription
  | .appending sending subscriptions =>
    raised sending.notice ∧ created sending.subscription.notificationSubscriptionId ∧ sending.Matched ∧
      ∀ subscription ∈ subscriptions, Reaches created s sending.notice subscription

structure Fanned (s : NotificationSystem) : Prop where
  sinks : ∀ id sink, s.sinks.lookup id = some sink → sink.notificationSinkId = id
  subscriptions : ∀ id subscription, s.subscriptions.lookup id = some subscription →
    created subscription.notificationSubscriptionId ∧ Housed s subscription
  tasks : ∀ task ∈ s.inProgress, task.Linked raised created s
  once : Once (·.mark) s.outbox.events
  announced : ∀ id event, s.outbox.events.lookup id = some event → ∃ sending ∈ s.sent, Announces s id sending
  sent : ∀ sending ∈ s.sent, raised sending.notice ∧ created sending.subscription.notificationSubscriptionId ∧
    sending.Matched ∧ ∃ id event, s.outbox.events.lookup id = some event ∧ event.mark = (sending.outboxEvent id).mark

/-- What an action brings in is among what was raised and created. -/
def NotificationAction.Allowed (action : NotificationAction) : Prop :=
  (∀ notice, action.notice? = some notice → raised notice) ∧
    ∀ request filterChecks id, action = .createNotificationSubscription request filterChecks id → created id

end Fanned

section Steps

variable {raised : Notice → Prop} {created : String → Prop} {s next : NotificationSystem}

theorem fanned_empty : Fanned raised created .empty := by
  refine ⟨?_, ?_, ?_, once_empty, ?_, ?_⟩
  · intro id sink h
    cases h
  · intro id subscription h
    cases h
  · intro task h
    cases h
  · intro id event h
    cases h
  · intro sending h
    cases h

/-- A step that adds no sending: the sinks stay where they are, the outbox at most delivers. -/
theorem Fanned.of_unsent (h : Fanned raised created s) (hsent : next.sent = s.sent)
    (hevents : Redelivered s.outbox.events next.outbox.events) (hdetails : next.details = s.details)
    (hsinks : ∀ id sink, next.sinks.lookup id = some sink → sink.notificationSinkId = id)
    (hsubscriptions : ∀ id subscription, next.subscriptions.lookup id = some subscription →
      created subscription.notificationSubscriptionId ∧ Housed next subscription)
    (htasks : ∀ task ∈ next.inProgress, task.Linked raised created next) : Fanned raised created next := by
  refine ⟨hsinks, hsubscriptions, htasks, hevents.once h.once, fun id event hevent => ?_, fun sending hmem => ?_⟩
  · obtain ⟨before, hbefore, hsame⟩ := hevents.before hevent
    obtain ⟨sending, hmem, ⟨⟨stored, hstored, hannounces⟩, hdetail⟩⟩ := h.announced id before hbefore
    cases hstored.symm.trans hbefore
    exact ⟨sending, hsent ▸ hmem, ⟨event, hevent, hsame.symm.trans hannounces⟩, hdetails ▸ hdetail⟩
  · obtain ⟨hraised, hcreated, hmatched, id, event, hevent, hmark⟩ := h.sent sending (hsent ▸ hmem)
    obtain ⟨after, hafter, hsame⟩ := hevents.kept hevent
    exact ⟨hraised, hcreated, hmatched, id, after, hafter,
      (NotificationOutboxEventRecord.mark_eq hsame).trans hmark⟩

theorem Housed.mono {subscription : NotificationSubscriptionRecord} (h : Housed s subscription)
    (hsinks : ∀ id sink, s.sinks.lookup id = some sink →
      ∃ after, next.sinks.lookup id = some after ∧ after.tenantId = sink.tenantId) : Housed next subscription := by
  obtain ⟨sink, hsink, htenant⟩ := h
  obtain ⟨after, hafter, hsame⟩ := hsinks _ sink hsink
  exact ⟨after, hafter, hsame.trans htenant⟩

theorem NotificationTask.Linked.mono {task : NotificationTask} (h : task.Linked raised created s)
    (hhoused : ∀ subscription, Housed s subscription → Housed next subscription) : task.Linked raised created next := by
  cases task with
  | subscribing record => exact ⟨h.1, hhoused record h.2⟩
  | fanningOut notice subscriptions =>
    refine ⟨h.1, fun subscription hmem => ?_⟩
    obtain ⟨hwants, htenant, hcreated, hsink⟩ := h.2 subscription hmem
    exact ⟨hwants, htenant, hcreated, hhoused subscription hsink⟩
  | appending sending subscriptions =>
    refine ⟨h.1, h.2.1, h.2.2.1, fun subscription hmem => ?_⟩
    obtain ⟨hwants, htenant, hcreated, hsink⟩ := h.2.2.2 subscription hmem
    exact ⟨hwants, htenant, hcreated, hhoused subscription hsink⟩

/-- A write of the sinks that moves none of them to another tenant. -/
theorem Fanned.of_sinks (h : Fanned raised created s) {sinks : Index TenantNotificationSink}
    (hids : ∀ id sink, sinks.lookup id = some sink → sink.notificationSinkId = id)
    (hkept : ∀ id sink, s.sinks.lookup id = some sink →
      ∃ after, sinks.lookup id = some after ∧ after.tenantId = sink.tenantId) :
    Fanned raised created { s with sinks := sinks } := by
  have hhoused (subscription : NotificationSubscriptionRecord) (hsubscription : Housed s subscription) :
      Housed { s with sinks := sinks } subscription := hsubscription.mono hkept
  refine h.of_unsent rfl (.inl rfl) rfl hids (fun id subscription hsubscription => ?_) fun task htask => ?_
  · obtain ⟨hcreated, hsink⟩ := h.subscriptions id subscription hsubscription
    exact ⟨hcreated, hhoused subscription hsink⟩
  · exact (h.tasks task htask).mono hhoused

/-- A step that changes nothing but the tasks. -/
theorem Fanned.of_tasks (h : Fanned raised created s) {tasks : List NotificationTask}
    (htasks : ∀ task ∈ tasks, task.Linked raised created s) : Fanned raised created { s with inProgress := tasks } :=
  h.of_unsent rfl (.inl rfl) rfl h.sinks h.subscriptions fun task htask =>
    (htasks task htask).mono fun _ hhoused => hhoused

theorem validateNotificationSubscriptionRequest_ok {request : CreateNotificationSubscriptionRequest}
    {filterChecks : Result Unit} {sink : TenantNotificationSink}
    (h : validateNotificationSubscriptionRequest s request filterChecks = .ok sink) :
    s.sinks.lookup request.notificationSinkId = some sink ∧ sink.tenantId = request.tenantId := by
  unfold validateNotificationSubscriptionRequest at h
  split at h
  · cases h
  rename_i found hfound
  split at h
  · cases h
  rename_i htenant
  split at h
  · cases h
  split at h
  · cases h
  · cases filterChecks with
    | error error => cases h
    | ok checked =>
      cases h
      exact ⟨hfound, not_not.mp htenant⟩

theorem mem_notificationSubscriptionsForTenant {tenantId : String} {subscription : NotificationSubscriptionRecord}
    (h : subscription ∈ notificationSubscriptionsForTenant s tenantId) :
    (∃ id, s.subscriptions.lookup id = some subscription) ∧ subscription.tenantId = tenantId := by
  obtain ⟨hmem, htenant⟩ := List.mem_filter.mp (mem_sortBy.mp h)
  obtain ⟨entry, hentry, rfl⟩ := List.mem_map.mp hmem
  exact ⟨⟨entry.1, AList.mem_lookup_iff.mpr hentry⟩, by simpa using htenant⟩

theorem Fanned.enqueueNotice (h : Fanned raised created s) {notice : Notice} (hraised : raised notice) :
    Fanned raised created (enqueueNotice s notice) := by
  apply h.of_tasks
  intro task htask
  rcases List.mem_cons.mp htask with rfl | hold
  · refine ⟨hraised, fun subscription hmem => ?_⟩
    obtain ⟨hmem, hwants⟩ := List.mem_filter.mp hmem
    obtain ⟨⟨id, hid⟩, htenant⟩ := mem_notificationSubscriptionsForTenant hmem
    obtain ⟨hcreated, hhoused⟩ := h.subscriptions id subscription hid
    exact ⟨hwants, htenant, hcreated, hhoused⟩
  · exact h.tasks task hold

theorem appendNotificationOutboxEvent_cases (s : NotificationSystem) (sending : Sending) (id : String) :
    (appendNotificationOutboxEvent s sending id).outbox.events =
        putOnce (·.mark) id (sending.outboxEvent id) s.outbox.events ∧
      ((appendNotificationOutboxEvent s sending id = s) ∨
        (appendNotificationOutboxEvent s sending id).details = s.details.insert id sending.details ∧
          (appendNotificationOutboxEvent s sending id).outbox.events.lookup id = some (sending.outboxEvent id)) := by
  unfold appendNotificationOutboxEvent putOnce
  dsimp only
  by_cases hany : (s.outbox.events.entries.any fun entry => decide (entry.2.mark = (sending.outboxEvent id).mark)) = true
  · rw [if_pos hany, if_pos hany]
    exact ⟨rfl, .inl rfl⟩
  · rw [if_neg hany, if_neg hany]
    exact ⟨rfl, .inr ⟨rfl, AList.lookup_insert _⟩⟩

theorem appendNotificationOutboxEvent_frame (s : NotificationSystem) (sending : Sending) (id : String) :
    (appendNotificationOutboxEvent s sending id).sinks = s.sinks ∧
      (appendNotificationOutboxEvent s sending id).subscriptions = s.subscriptions ∧
      (appendNotificationOutboxEvent s sending id).inProgress = s.inProgress ∧
      (appendNotificationOutboxEvent s sending id).sent = s.sent := by
  unfold appendNotificationOutboxEvent
  dsimp only
  split
  · exact ⟨rfl, rfl, rfl, rfl⟩
  · exact ⟨rfl, rfl, rfl, rfl⟩

theorem Announces.append {sending other : Sending} {id fresh : String}
    (hfresh : s.outbox.events.lookup fresh = none) (h : Announces s id other) :
    Announces (appendNotificationOutboxEvent s sending fresh) id other := by
  obtain ⟨⟨event, hevent, hsame⟩, hdetails⟩ := h
  obtain ⟨hevents, hcases⟩ := appendNotificationOutboxEvent_cases s sending fresh
  refine ⟨⟨event, ?_, hsame⟩, ?_⟩
  · rw [hevents]
    exact lookup_putOnce_of_some hfresh hevent
  · rcases hcases with hsame | ⟨hinserted, -⟩
    · rwa [hsame]
    · rw [hinserted, AList.lookup_insert_ne, hdetails]
      rintro rfl
      cases hfresh.symm.trans hevent

theorem Fanned.append (h : Fanned raised created s) {sending : Sending} {subscriptions : List NotificationSubscriptionRecord}
    (hlinked : (NotificationTask.appending sending subscriptions).Linked raised created s) {id : String}
    (hfresh : s.outbox.events.lookup id = none) :
    Fanned raised created
      { appendNotificationOutboxEvent s sending id with
        inProgress := .fanningOut sending.notice subscriptions :: s.inProgress
        sent := sending :: s.sent } := by
  obtain ⟨hraised, hcreated, hmatched, hrest⟩ := hlinked
  obtain ⟨hevents, hcases⟩ := appendNotificationOutboxEvent_cases s sending id
  obtain ⟨hsinks, hsubscriptions, -, -⟩ := appendNotificationOutboxEvent_frame s sending id
  have hhoused (subscription : NotificationSubscriptionRecord) (hsubscription : Housed s subscription) :
      Housed { appendNotificationOutboxEvent s sending id with
        inProgress := .fanningOut sending.notice subscriptions :: s.inProgress
        sent := sending :: s.sent } subscription := by
    unfold Housed at *
    rwa [hsinks]
  have hannounced {other : Sending} {key : String} (hother : Announces s key other) :
      Announces (appendNotificationOutboxEvent s sending id) key other := hother.append hfresh
  refine ⟨?_, fun key subscription hsubscription => ?_, fun task htask => ?_, ?_, fun key event hevent => ?_,
    fun other hother => ?_⟩
  · rw [hsinks]
    exact h.sinks
  · rw [hsubscriptions] at hsubscription
    obtain ⟨hmade, hsink⟩ := h.subscriptions key subscription hsubscription
    exact ⟨hmade, hhoused subscription hsink⟩
  · rcases List.mem_cons.mp htask with rfl | hold
    · have hcontinues : (NotificationTask.fanningOut sending.notice subscriptions).Linked raised created s :=
        ⟨hraised, hrest⟩
      exact hcontinues.mono hhoused
    · exact (h.tasks task hold).mono hhoused
  · show Once (·.mark) (appendNotificationOutboxEvent s sending id).outbox.events
    rw [hevents]
    exact Once.putOnce h.once
  · have hevent : (appendNotificationOutboxEvent s sending id).outbox.events.lookup key = some event := hevent
    have hput := hevent
    rw [hevents] at hput
    by_cases hbefore : (s.outbox.events.lookup key).isSome = true
    · obtain ⟨before, hbefore⟩ := Option.isSome_iff_exists.mp hbefore
      obtain ⟨other, hother, hannounces⟩ := h.announced key before hbefore
      exact ⟨other, List.mem_cons_of_mem _ hother, ⟨(hannounced hannounces).event, (hannounced hannounces).details⟩⟩
    · rcases putOnce_some hput with hold | ⟨rfl, rfl⟩
      · rw [hold] at hbefore
        exact absurd rfl hbefore
      · rcases hcases with hsame | ⟨hdetails, -⟩
        · rw [hsame] at hevent
          rw [hevent] at hbefore
          exact absurd rfl hbefore
        · refine ⟨sending, List.mem_cons_self, ⟨⟨_, hevent, rfl⟩, ?_⟩⟩
          show (appendNotificationOutboxEvent s sending key).details.lookup key = some sending.details
          rw [hdetails, AList.lookup_insert]
  · show _ ∧ _ ∧ _ ∧ ∃ key event, (appendNotificationOutboxEvent s sending id).outbox.events.lookup key = some event ∧ _
    rw [hevents]
    rcases List.mem_cons.mp hother with rfl | hold
    · obtain ⟨key, found, hfound, hmark⟩ := exists_putOnce (·.mark) id (other.outboxEvent id) s.outbox.events
      exact ⟨hraised, hcreated, hmatched, key, found, hfound, hmark⟩
    · obtain ⟨hold1, hold2, hold3, key, event, hevent, hmark⟩ := h.sent other hold
      exact ⟨hold1, hold2, hold3, key, event, lookup_putOnce_of_some hfresh hevent, hmark⟩

theorem updated_sinks {sinks : Index TenantNotificationSink} {id : String} {sink updated : TenantNotificationSink}
    (hsink : sinks.lookup id = some sink) (hsame : updated.tenantId = sink.tenantId) :
    ∀ key stored, sinks.lookup key = some stored →
      ∃ after, (sinks.insert id updated).lookup key = some after ∧ after.tenantId = stored.tenantId := by
  intro key stored hstored
  by_cases hkey : key = id
  · subst hkey
    cases hsink.symm.trans hstored
    exact ⟨updated, AList.lookup_insert _, hsame⟩
  · exact ⟨stored, by rw [AList.lookup_insert_ne hkey, hstored], rfl⟩

theorem added_sinks {sinks : Index TenantNotificationSink} {id : String} {sink : TenantNotificationSink}
    (hnew : ¬(sinks.lookup id).isSome = true) :
    ∀ key stored, sinks.lookup key = some stored →
      ∃ after, (sinks.insert id sink).lookup key = some after ∧ after.tenantId = stored.tenantId := by
  intro key stored hstored
  refine ⟨stored, ?_, rfl⟩
  rw [AList.lookup_insert_ne, hstored]
  rintro rfl
  rw [hstored] at hnew
  exact hnew rfl

theorem Fanned.subscribed (h : Fanned raised created s) {id : String} {record : NotificationSubscriptionRecord}
    (hcreated : created record.notificationSubscriptionId) (hhoused : Housed s record) :
    Fanned raised created { s with subscriptions := s.subscriptions.insert id record } := by
  refine h.of_unsent rfl (.inl rfl) rfl h.sinks (fun key subscription hsubscription => ?_) fun task htask =>
    (h.tasks task htask).mono fun _ hsink => hsink
  rcases insert_some hsubscription with ⟨-, rfl⟩ | ⟨-, hold⟩
  · exact ⟨hcreated, hhoused⟩
  · exact h.subscriptions key subscription hold

theorem Fanned.resume (h : Fanned raised created s) {task : NotificationTask} (hlinked : task.Linked raised created s)
    {id : String} (hstep : resumeNotification s task id = some next) : Fanned raised created next := by
  cases task with
  | subscribing record =>
    dsimp only [resumeNotification] at hstep
    split at hstep
    · cases hstep
    · cases hstep
      exact h.subscribed hlinked.1 hlinked.2
  | fanningOut notice subscriptions =>
    cases subscriptions with
    | nil =>
      cases hstep
      exact h
    | cons subscription subscriptions =>
      obtain ⟨hraised, hreaches⟩ := hlinked
      obtain ⟨⟨hwants, htenant, hcreated, found, hfound, hfoundTenant⟩, hrest⟩ := List.forall_mem_cons.mp hreaches
      have hskipped : Fanned raised created { s with inProgress := .fanningOut notice subscriptions :: s.inProgress } :=
        h.of_tasks (List.forall_mem_cons.mpr ⟨⟨hraised, hrest⟩, h.tasks⟩)
      dsimp only [resumeNotification] at hstep
      split at hstep
      · cases hstep
        exact hskipped
      rename_i sink hsink
      cases hfound.symm.trans hsink
      split at hstep
      · cases hstep
        exact hskipped
      · rename_i hactive
        cases hstep
        have hmatched : Sending.Matched ⟨notice, subscription, found⟩ :=
          ⟨hwants, htenant, h.sinks _ _ hsink, hfoundTenant.trans htenant, not_not.mp hactive⟩
        exact h.of_tasks (List.forall_mem_cons.mpr ⟨⟨hraised, hcreated, hmatched, hrest⟩, h.tasks⟩)
  | appending sending subscriptions =>
    dsimp only [resumeNotification] at hstep
    split at hstep
    · cases hstep
    · rename_i hfresh
      cases hstep
      exact h.append hlinked (by simpa using hfresh)

theorem notificationStep_fanned {action : NotificationAction} (h : Fanned raised created s)
    (hallowed : action.Allowed raised created) (hstep : notificationStep s action = some next) :
    Fanned raised created next := by
  cases action with
  | createNotificationSink sink =>
    dsimp only [notificationStep] at hstep
    split at hstep
    · cases hstep
    · rename_i hnew
      cases hstep
      refine h.of_sinks (fun key stored hstored => ?_) (added_sinks hnew)
      rcases insert_some hstored with ⟨rfl, rfl⟩ | ⟨-, hold⟩
      · rfl
      · exact h.sinks key stored hold
  | updateNotificationSink id endpointConfig status =>
    dsimp only [notificationStep] at hstep
    split at hstep
    · cases hstep
      exact h
    · rename_i sink hsink
      cases hstep
      refine h.of_sinks (fun key stored hstored => ?_) (updated_sinks hsink rfl)
      rcases insert_some hstored with ⟨rfl, rfl⟩ | ⟨-, hold⟩
      · exact h.sinks _ sink hsink
      · exact h.sinks key stored hold
  | createNotificationSubscription request filterChecks id =>
    dsimp only [notificationStep] at hstep
    split at hstep
    · cases hstep
      exact h
    · rename_i record hok
      cases hstep
      obtain ⟨sink, hvalid, hrecord⟩ := Checks.bind_ok.mp hok
      cases hrecord
      obtain ⟨hsink, htenant⟩ := validateNotificationSubscriptionRequest_ok hvalid
      exact h.of_tasks
        (List.forall_mem_cons.mpr ⟨⟨hallowed.2 request filterChecks id rfl, sink, hsink, htenant⟩, h.tasks⟩)
  | updateNotificationSubscriptionStatus id expectedResourceVersion status =>
    dsimp only [notificationStep] at hstep
    split at hstep
    · cases hstep
      exact h
    · rename_i updated hok
      cases hstep
      unfold updateNotificationSubscriptionStatus at hok
      split at hok
      · cases hok
      rename_i subscription hsubscription
      split at hok
      · cases hok
      · cases hok
        obtain ⟨hcreated, hhoused⟩ := h.subscriptions id subscription hsubscription
        exact h.subscribed hcreated hhoused
  | policyBlocked actor protocolFamily requestedModel selected error now =>
    dsimp only [notificationStep] at hstep
    split at hstep
    · cases hstep
      exact h
    · rename_i notice hnotice
      cases hstep
      exact h.enqueueNotice (hallowed.1 notice hnotice)
  | thresholdReached actor protocolFamily requestedModel selected report endedAt =>
    cases hstep
    exact h.enqueueNotice (hallowed.1 _ rfl)
  | resume task id =>
    dsimp only [notificationStep] at hstep
    split at hstep
    · cases hstep
    · rename_i found hfound
      have htasks : Fanned raised created { s with inProgress := s.inProgress.eraseIdx task } :=
        h.of_tasks fun other hother => h.tasks other (List.mem_of_mem_eraseIdx hother)
      have hlinked : found.Linked raised created { s with inProgress := s.inProgress.eraseIdx task } :=
        (h.tasks found (List.mem_of_getElem? hfound)).mono fun _ hhoused => hhoused
      exact htasks.resume hlinked hstep
  | recordDeliveryAttempt request attemptId now =>
    cases hstep
    exact h.of_unsent rfl (recordNotificationDeliveryAttempt_events _ _ _ _) rfl h.sinks h.subscriptions
      fun task htask => (h.tasks task htask).mono fun _ hhoused => hhoused
  | replayDeadLettered id now =>
    cases hstep
    exact h.of_unsent rfl (replayDeadLetteredNotificationOutboxEvent_events _ _ _) rfl h.sinks h.subscriptions
      fun task htask => (h.tasks task htask).mono fun _ hhoused => hhoused

theorem run_fanned {actions : List NotificationAction} (hallowed : ∀ action ∈ actions, action.Allowed raised created)
    (hrun : run notificationStep .empty actions = some s) : Fanned raised created s := by
  have hstep (s : NotificationSystem) (action : NotificationAction) (next : NotificationSystem)
      (h : Fanned raised created s) (hallowed : action.Allowed raised created)
      (hnext : notificationStep s action = some next) : Fanned raised created next :=
    notificationStep_fanned h hallowed hnext
  exact run_invariant hstep fanned_empty (meets_of_mem hallowed) hrun

end Steps

section Keys

def ColonFree (text : String) : Prop := ':' ∉ text.toList

instance (text : String) : Decidable (ColonFree text) := inferInstanceAs (Decidable (¬ _))

theorem colonFree_append {left right : String} (hleft : ColonFree left) (hright : ColonFree right) :
    ColonFree (left ++ right) := by
  unfold ColonFree at *
  simp [hleft, hright]

theorem colonFree_natRepr (n : Nat) : ColonFree n.repr := by
  intro hmem
  have hdigit : ':'.isDigit = true :=
    Nat.isDigit_of_mem_toDigits (b := 10) (by decide) (by decide) (by simpa [Nat.repr] using hmem)
  exact absurd hdigit (by decide)

theorem colonFree_decimal (n : Int) : ColonFree (toString n) := by
  rw [Int.toString_eq_repr, Int.repr_eq_if]
  split
  · exact colonFree_natRepr _
  · exact colonFree_append (by decide) (colonFree_natRepr _)

theorem colonFree_padLeft {text : String} (h : ColonFree text) (width : Nat) : ColonFree (padLeft width text) := by
  apply colonFree_append _ h
  unfold ColonFree
  rw [String.toList_ofList]
  intro hmem
  exact absurd (List.eq_of_mem_replicate hmem) (by decide)

theorem colonFree_formatYear (year : Int) : ColonFree (formatYear year) := by
  unfold formatYear
  split
  · exact colonFree_padLeft (colonFree_decimal _) 4
  · split
    · exact colonFree_append (by decide) (colonFree_decimal _)
    · exact colonFree_append (by decide) (colonFree_padLeft (colonFree_decimal _) 4)

theorem colonFree_periodKey (policy : BudgetPolicyRecord) (now : DateTime) :
    ColonFree (runtimeBudgetReservationPeriodKey policy now) := by
  have hdash : ColonFree "-" := by decide
  have hmonth : ColonFree (padLeft 2 (toString now.civil.month)) := colonFree_padLeft (colonFree_decimal _) 2
  have hday : ColonFree (padLeft 2 (toString now.civil.day)) := colonFree_padLeft (colonFree_decimal _) 2
  unfold runtimeBudgetReservationPeriodKey
  split
  · apply colonFree_append _ hday
    apply colonFree_append _ hdash
    apply colonFree_append _ hmonth
    exact colonFree_append (colonFree_formatYear _) hdash
  · exact colonFree_append (colonFree_append (colonFree_decimal _) hdash) hmonth
  · decide

/-- None of the parts of a topic holds the character that separates them. -/
def NoticeTopic.Free : NoticeTopic → Prop
  | .policyBlock requestId eventKind => ColonFree requestId ∧ ColonFree eventKind
  | .budgetThreshold budgetPolicyId periodKey thresholdKind _ =>
    ColonFree budgetPolicyId ∧ ColonFree periodKey ∧ ColonFree thresholdKind

def NoticeTopic.parts (notificationSubscriptionId : String) : NoticeTopic → List String
  | .policyBlock requestId eventKind => ["runtime-policy-block", requestId, notificationSubscriptionId, eventKind]
  | .budgetThreshold budgetPolicyId periodKey thresholdKind value =>
    ["runtime-budget-threshold", budgetPolicyId, periodKey, thresholdKind, toString value, notificationSubscriptionId]

theorem intercalate_four (separator a b c d : String) :
    separator.intercalate [a, b, c, d] = a ++ separator ++ b ++ separator ++ c ++ separator ++ d := by
  simp only [String.intercalate_cons_cons, String.intercalate_singleton, String.append_assoc]

theorem intercalate_six (separator a b c d e f : String) :
    separator.intercalate [a, b, c, d, e, f] =
      a ++ separator ++ b ++ separator ++ c ++ separator ++ d ++ separator ++ e ++ separator ++ f := by
  simp only [String.intercalate_cons_cons, String.intercalate_singleton, String.append_assoc]

theorem dedupeKey_eq (topic : NoticeTopic) (id : String) : topic.dedupeKey id = ":".intercalate (topic.parts id) := by
  cases topic with
  | policyBlock requestId eventKind => exact (intercalate_four _ _ _ _ _).symm
  | budgetThreshold budgetPolicyId periodKey thresholdKind value => exact (intercalate_six _ _ _ _ _ _ _).symm

theorem NoticeTopic.Free.parts {topic : NoticeTopic} (h : topic.Free) {id : String} (hid : ColonFree id) :
    ∀ part ∈ topic.parts id, ':' ∉ part.toList := by
  cases topic with
  | policyBlock requestId eventKind =>
    obtain ⟨hrequest, hkind⟩ := h
    simp only [NoticeTopic.parts, List.forall_mem_cons]
    exact ⟨by decide, hrequest, hid, hkind, List.forall_mem_nil _⟩
  | budgetThreshold budgetPolicyId periodKey thresholdKind value =>
    obtain ⟨hpolicy, hperiod, hkind⟩ := h
    simp only [NoticeTopic.parts, List.forall_mem_cons]
    exact ⟨by decide, hpolicy, hperiod, hkind, colonFree_decimal value, hid, List.forall_mem_nil _⟩

theorem parts_inj {topic topic' : NoticeTopic} {id id' : String} (h : topic.parts id = topic'.parts id') :
    topic = topic' ∧ id = id' := by
  cases topic with
  | policyBlock requestId eventKind =>
    cases topic' with
    | policyBlock requestId' eventKind' => simp_all [NoticeTopic.parts]
    | budgetThreshold budgetPolicyId' periodKey' thresholdKind' value' => simp [NoticeTopic.parts] at h
  | budgetThreshold budgetPolicyId periodKey thresholdKind value =>
    cases topic' with
    | policyBlock requestId' eventKind' => simp [NoticeTopic.parts] at h
    | budgetThreshold budgetPolicyId' periodKey' thresholdKind' value' =>
      simp only [NoticeTopic.parts, List.cons.injEq, and_true, true_and] at h
      obtain ⟨rfl, rfl, rfl, hvalue, rfl⟩ := h
      rw [decimal_injective hvalue]
      exact ⟨rfl, rfl⟩

/-- The key tells the topic and the subscription. -/
theorem dedupeKey_inj {topic topic' : NoticeTopic} {id id' : String} (htopic : topic.Free) (htopic' : topic'.Free)
    (hid : ColonFree id) (hid' : ColonFree id') (h : topic.dedupeKey id = topic'.dedupeKey id') :
    topic = topic' ∧ id = id' := by
  rw [dedupeKey_eq, dedupeKey_eq] at h
  have hparts (topic : NoticeTopic) (id : String) : topic.parts id ≠ [] := by
    cases topic <;> exact List.cons_ne_nil _ _
  exact parts_inj (joined_inj rfl (hparts topic id) (hparts topic' id') (htopic.parts hid) (htopic'.parts hid') h)

end Keys

section Once

variable {actions : List NotificationAction} {s : NotificationSystem}

/-- The ids that a key is built from hold no separator, as no generated id and no accepted request id does. -/
def NotificationAction.Named : NotificationAction → Prop
  | createNotificationSubscription _ _ notificationSubscriptionId => ColonFree notificationSubscriptionId
  | policyBlocked actor _ _ _ _ _ => ColonFree actor.requestId
  | thresholdReached _ _ _ _ report _ => ColonFree report.policy.budgetPolicyId
  | _ => True

def RaisedIn (actions : List NotificationAction) (notice : Notice) : Prop :=
  ∃ action ∈ actions, action.notice? = some notice

def CreatedIn (actions : List NotificationAction) (notificationSubscriptionId : String) : Prop :=
  ∃ request filterChecks, .createNotificationSubscription request filterChecks notificationSubscriptionId ∈ actions

theorem topic_free {action : NotificationAction} {notice : Notice} (hnamed : action.Named)
    (hnotice : action.notice? = some notice) : notice.topic.Free := by
  cases action with
  | policyBlocked actor protocolFamily requestedModel selected error now =>
    obtain ⟨⟨eventFamily, eventKind, reason⟩, hkind, rfl⟩ := Option.map_eq_some_iff.mp hnotice
    refine ⟨hnamed, ?_⟩
    cases error with
    | budgetExceeded reason =>
      cases hkind
      decide
    | quotaExceeded reason =>
      cases hkind
      decide
    | _ => cases hkind
  | thresholdReached actor protocolFamily requestedModel selected report endedAt =>
    cases hnotice
    refine ⟨hnamed, colonFree_periodKey _ _, ?_⟩
    cases report.threshold.thresholdKind <;> decide
  | _ => cases hnotice

/-- Both reach one subscription of a tenant with one topic. -/
structure SameNotice (first sending : Sending) : Prop where
  tenant : first.notice.actor.tenantId = sending.notice.actor.tenantId
  topic : first.notice.topic = sending.notice.topic
  subscription : first.subscription.notificationSubscriptionId = sending.subscription.notificationSubscriptionId

theorem Fanned.unique (h : Fanned (RaisedIn actions) (CreatedIn actions) s) (hnamed : ∀ action ∈ actions, action.Named)
    {sending : Sending} (hsending : sending ∈ s.sent) :
    ∃! id, ∃ first ∈ s.sent, SameNotice first sending ∧ Announces s id first := by
  have hfree {sending : Sending} (hmem : sending ∈ s.sent) : sending.notice.topic.Free ∧
      ColonFree sending.subscription.notificationSubscriptionId := by
    obtain ⟨⟨action, haction, hnotice⟩, ⟨request, filterChecks, hcreate⟩, -⟩ := h.sent sending hmem
    exact ⟨topic_free (hnamed action haction) hnotice, hnamed _ hcreate⟩
  obtain ⟨-, -, -, id, event, hevent, hmark⟩ := h.sent sending hsending
  obtain ⟨first, hfirst, hannounces⟩ := h.announced id event hevent
  obtain ⟨stored, hstored, hsame⟩ := hannounces.event
  cases hstored.symm.trans hevent
  have hmarks : (first.outboxEvent id).mark = (sending.outboxEvent id).mark :=
    (NotificationOutboxEventRecord.mark_eq hsame).symm.trans hmark
  obtain ⟨htenant, hkey⟩ := Prod.mk.inj hmarks
  obtain ⟨htopic, hsubscription⟩ := dedupeKey_inj (hfree hfirst).1 (hfree hsending).1 (hfree hfirst).2 (hfree hsending).2
    hkey
  refine ⟨id, ⟨first, hfirst, ⟨htenant, htopic, hsubscription⟩, hannounces⟩, ?_⟩
  rintro other ⟨second, -, ⟨htenant', htopic', hsubscription'⟩, hannounces'⟩
  obtain ⟨found, hfound, hsame'⟩ := hannounces'.event
  refine h.once hfound hevent ?_
  have hother : (second.outboxEvent other).mark = (sending.outboxEvent id).mark := by
    simp only [NotificationOutboxEventRecord.mark, Sending.outboxEvent, htenant', htopic', hsubscription']
  exact (NotificationOutboxEventRecord.mark_eq hsame').trans (hother.trans hmark.symm)

theorem run_fannedIn (hrun : run notificationStep .empty actions = some s) :
    Fanned (RaisedIn actions) (CreatedIn actions) s := by
  refine run_fanned (fun action haction => ⟨fun notice hnotice => ⟨action, haction, hnotice⟩, ?_⟩) hrun
  rintro request filterChecks id rfl
  exact ⟨request, filterChecks, haction⟩

/-- In every interleaving the outbox has what was sent and nothing else, each notice of a subscription once, and every
event goes to an active sink of its own tenant that asks for it. -/
theorem notices_once (hnamed : ∀ action ∈ actions, action.Named)
    (hrun : run notificationStep .empty actions = some s) :
    (∀ id event, s.outbox.events.lookup id = some event → ∃ sending ∈ s.sent, Announces s id sending) ∧
      ∀ sending ∈ s.sent, sending.Matched ∧ RaisedIn actions sending.notice ∧
        ∃! id, ∃ first ∈ s.sent, SameNotice first sending ∧ Announces s id first := by
  have hfanned := run_fannedIn hrun
  refine ⟨hfanned.announced, fun sending hmem => ?_⟩
  obtain ⟨hraised, -, hmatched, -⟩ := hfanned.sent sending hmem
  exact ⟨hmatched, hraised, hfanned.unique hnamed hmem⟩

end Once

section Kept

variable {s next : NotificationSystem} {notice : Notice} {subscription : NotificationSubscriptionRecord}

/-- The task is still to bring the notice to the subscription. -/
def Awaits (notice : Notice) (subscription : NotificationSubscriptionRecord) : NotificationTask → Prop
  | .subscribing _ => False
  | .fanningOut other subscriptions => other = notice ∧ subscription ∈ subscriptions
  | .appending sending subscriptions =>
    sending.notice = notice ∧ (sending.subscription = subscription ∨ subscription ∈ subscriptions)

/-- The notice is on its way to the subscription or there, and the sink is active. -/
structure Underway (notice : Notice) (subscription : NotificationSubscriptionRecord) (s : NotificationSystem) : Prop where
  active : ∃ sink, s.sinks.lookup subscription.notificationSinkId = some sink ∧ sink.status = .active
  reaches : (∃ task ∈ s.inProgress, Awaits notice subscription task) ∨
    ∃ sending ∈ s.sent, sending.notice = notice ∧ sending.subscription = subscription

/-- The action leaves the sink active. -/
def KeepsActive (notificationSinkId : String) : NotificationAction → Prop
  | .updateNotificationSink id _ (some status) => id = notificationSinkId → status = .active
  | _ => True

theorem Underway.of_same (h : Underway notice subscription s) (hsinks : next.sinks = s.sinks)
    (htasks : next.inProgress = s.inProgress) (hsent : next.sent = s.sent) : Underway notice subscription next := by
  constructor
  · rw [hsinks]
    exact h.active
  · rw [htasks, hsent]
    exact h.reaches

/-- A new task takes nothing from the others. -/
theorem Underway.of_added (h : Underway notice subscription s) (task : NotificationTask) :
    Underway notice subscription { s with inProgress := task :: s.inProgress } := by
  refine ⟨h.active, h.reaches.imp_left ?_⟩
  rintro ⟨other, hother, hawaits⟩
  exact ⟨other, List.mem_cons_of_mem _ hother, hawaits⟩

/-- The task in step hands on what it awaits, as all the others keep theirs. -/
theorem Underway.resume {index : Nat} {task : NotificationTask} {id : String} (h : Underway notice subscription s)
    (htask : s.inProgress[index]? = some task)
    (hstep : resumeNotification { s with inProgress := s.inProgress.eraseIdx index } task id = some next) :
    Underway notice subscription next := by
  obtain ⟨⟨sink, hsink, hactive⟩, hreaches⟩ := h
  have hsplit : Awaits notice subscription task ∨ Underway notice subscription
      { s with inProgress := s.inProgress.eraseIdx index } := by
    rcases hreaches with ⟨other, hother, hawaits⟩ | hsent
    · rcases List.mem_cons.mp ((Interleaving.perm_eraseIdx htask).mem_iff.mp hother) with rfl | hrest
      · exact .inl hawaits
      · exact .inr ⟨⟨sink, hsink, hactive⟩, .inl ⟨other, hrest, hawaits⟩⟩
    · exact .inr ⟨⟨sink, hsink, hactive⟩, .inr hsent⟩
  cases task with
  | subscribing record =>
    dsimp only [resumeNotification] at hstep
    split at hstep
    · cases hstep
    · cases hstep
      rcases hsplit with hawaits | hrest
      · cases hawaits
      · exact hrest.of_same rfl rfl rfl
  | fanningOut other subscriptions =>
    cases subscriptions with
    | nil =>
      cases hstep
      rcases hsplit with ⟨-, hmem⟩ | hrest
      · cases hmem
      · exact hrest
    | cons head subscriptions =>
      have hskipped (hawaits : Awaits notice subscription (.fanningOut other (head :: subscriptions)))
          (hne : subscription ≠ head) : Awaits notice subscription (.fanningOut other subscriptions) :=
        ⟨hawaits.1, (List.mem_cons.mp hawaits.2).resolve_left hne⟩
      dsimp only [resumeNotification] at hstep
      split at hstep
      · rename_i hmissing
        cases hstep
        rcases hsplit with hawaits | hrest
        · refine ⟨⟨sink, hsink, hactive⟩, .inl ⟨_, List.mem_cons_self, hskipped hawaits ?_⟩⟩
          rintro rfl
          cases hmissing.symm.trans hsink
        · exact hrest.of_added _
      rename_i found hfound
      split at hstep
      · rename_i hinactive
        cases hstep
        rcases hsplit with hawaits | hrest
        · refine ⟨⟨sink, hsink, hactive⟩, .inl ⟨_, List.mem_cons_self, hskipped hawaits ?_⟩⟩
          rintro rfl
          cases hfound.symm.trans hsink
          exact hinactive hactive
        · exact hrest.of_added _
      · cases hstep
        rcases hsplit with ⟨hnotice, hmem⟩ | hrest
        · refine ⟨⟨sink, hsink, hactive⟩, .inl ⟨_, List.mem_cons_self, hnotice, ?_⟩⟩
          exact (List.mem_cons.mp hmem).imp_left Eq.symm
        · exact hrest.of_added _
  | appending sending subscriptions =>
    dsimp only [resumeNotification] at hstep
    split at hstep
    · cases hstep
    cases hstep
    obtain ⟨hsinks, -, -, -⟩ :=
      appendNotificationOutboxEvent_frame { s with inProgress := s.inProgress.eraseIdx index } sending id
    refine ⟨⟨sink, ?_, hactive⟩, ?_⟩
    · show (appendNotificationOutboxEvent { s with inProgress := s.inProgress.eraseIdx index } sending id).sinks.lookup _ =
        some sink
      rw [hsinks]
      exact hsink
    · rcases hsplit with ⟨hnotice, hsubscription | hmem⟩ | ⟨-, ⟨task, htask, hawaits⟩ | ⟨earlier, hearlier, hsame⟩⟩
      · exact .inr ⟨sending, List.mem_cons_self, hnotice, hsubscription⟩
      · exact .inl ⟨_, List.mem_cons_self, hnotice, hmem⟩
      · exact .inl ⟨task, List.mem_cons_of_mem _ htask, hawaits⟩
      · exact .inr ⟨earlier, List.mem_cons_of_mem _ hearlier, hsame⟩

theorem notificationStep_underway {action : NotificationAction} (h : Underway notice subscription s)
    (hkeeps : KeepsActive subscription.notificationSinkId action) (hstep : notificationStep s action = some next) :
    Underway notice subscription next := by
  cases action with
  | createNotificationSink sink =>
    dsimp only [notificationStep] at hstep
    split at hstep
    · cases hstep
    · rename_i hnew
      cases hstep
      refine ⟨?_, h.reaches⟩
      obtain ⟨found, hfound, hactive⟩ := h.active
      refine ⟨found, ?_, hactive⟩
      rw [AList.lookup_insert_ne, hfound]
      rintro hsame
      rw [← hsame, hfound] at hnew
      exact hnew rfl
  | updateNotificationSink id endpointConfig status =>
    dsimp only [notificationStep] at hstep
    split at hstep
    · cases hstep
      exact h
    · rename_i sink hsink
      cases hstep
      refine ⟨?_, h.reaches⟩
      obtain ⟨found, hfound, hactive⟩ := h.active
      by_cases hid : subscription.notificationSinkId = id
      · subst hid
        cases hfound.symm.trans hsink
        refine ⟨_, AList.lookup_insert _, ?_⟩
        cases status with
        | none => exact hactive
        | some status => exact hkeeps rfl
      · exact ⟨found, by rw [AList.lookup_insert_ne hid, hfound], hactive⟩
  | createNotificationSubscription request filterChecks id =>
    dsimp only [notificationStep] at hstep
    split at hstep
    · cases hstep
      exact h
    · cases hstep
      exact h.of_added _
  | updateNotificationSubscriptionStatus id expectedResourceVersion status =>
    dsimp only [notificationStep] at hstep
    split at hstep
    · cases hstep
      exact h
    · rename_i updated hok
      cases hstep
      unfold updateNotificationSubscriptionStatus at hok
      split at hok
      · cases hok
      split at hok
      · cases hok
      · cases hok
        exact h.of_same rfl rfl rfl
  | policyBlocked actor protocolFamily requestedModel selected error now =>
    dsimp only [notificationStep] at hstep
    split at hstep
    · cases hstep
      exact h
    · cases hstep
      exact h.of_added _
  | thresholdReached actor protocolFamily requestedModel selected report endedAt =>
    cases hstep
    exact h.of_added _
  | resume task id =>
    dsimp only [notificationStep] at hstep
    split at hstep
    · cases hstep
    · rename_i found hfound
      exact h.resume hfound hstep
  | recordDeliveryAttempt request attemptId now =>
    cases hstep
    exact h.of_same rfl rfl rfl
  | replayDeadLettered id now =>
    cases hstep
    exact h.of_same rfl rfl rfl

theorem enqueueNotice_underway {sink : TenantNotificationSink} {id : String}
    (hsubscription : s.subscriptions.lookup id = some subscription)
    (htenant : subscription.tenantId = notice.actor.tenantId) (hwants : subscription.wants notice = true)
    (hsink : s.sinks.lookup subscription.notificationSinkId = some sink) (hactive : sink.status = .active) :
    Underway notice subscription (enqueueNotice s notice) := by
  refine ⟨⟨sink, hsink, hactive⟩, .inl ⟨_, List.mem_cons_self, rfl, ?_⟩⟩
  refine List.mem_filter.mpr ⟨mem_sortBy.mpr (List.mem_filter.mpr ⟨?_, by simpa using htenant⟩), hwants⟩
  exact List.mem_map.mpr ⟨⟨id, subscription⟩, AList.mem_lookup_iff.mp hsubscription, rfl⟩

theorem notificationStep_notice {action : NotificationAction} (hnotice : action.notice? = some notice)
    (hstep : notificationStep s action = some next) : next = enqueueNotice s notice := by
  cases action with
  | policyBlocked actor protocolFamily requestedModel selected error now =>
    have hblocked : policyBlockNotice actor protocolFamily requestedModel selected error now = some notice := hnotice
    simp only [notificationStep, hblocked, Option.some.injEq] at hstep
    exact hstep.symm
  | thresholdReached actor protocolFamily requestedModel selected report endedAt =>
    cases hnotice
    cases hstep
    rfl
  | _ => cases hnotice

/-- A notice is not lost: when no handler is in progress any more, every subscription that asked for it as it was raised
has its event, unless its sink was deactivated in between. -/
theorem notice_kept {before after : List NotificationAction} {action : NotificationAction}
    {final : NotificationSystem} {sink : TenantNotificationSink} {id : String}
    (hbefore : run notificationStep .empty before = some s) (hnotice : action.notice? = some notice)
    (hafter : run notificationStep s (action :: after) = some final) (hidle : final.inProgress = [])
    (hsubscription : s.subscriptions.lookup id = some subscription)
    (htenant : subscription.tenantId = notice.actor.tenantId) (hwants : subscription.wants notice = true)
    (hsink : s.sinks.lookup subscription.notificationSinkId = some sink) (hactive : sink.status = .active)
    (hkeeps : ∀ action ∈ after, KeepsActive subscription.notificationSinkId action) :
    ∃ id event, final.outbox.events.lookup id = some event ∧ event.tenantId = notice.actor.tenantId ∧
      event.dedupeKey = notice.topic.dedupeKey subscription.notificationSubscriptionId := by
  have hfanned := run_fannedIn (run_append hbefore hafter)
  obtain ⟨raised, hraised, hrest⟩ := run_cons hafter
  have hunderway : Underway notice subscription raised := by
    rw [notificationStep_notice hnotice hraised]
    exact enqueueNotice_underway hsubscription htenant hwants hsink hactive
  have hstep (s : NotificationSystem) (action : NotificationAction) (next : NotificationSystem)
      (h : Underway notice subscription s) (hkeeps : KeepsActive subscription.notificationSinkId action)
      (hnext : notificationStep s action = some next) : Underway notice subscription next :=
    notificationStep_underway h hkeeps hnext
  obtain ⟨-, ⟨task, htask, -⟩ | ⟨sending, hsent, rfl, rfl⟩⟩ := run_invariant hstep hunderway (meets_of_mem hkeeps) hrest
  · rw [hidle] at htask
    cases htask
  · obtain ⟨-, -, -, found, event, hevent, hmark⟩ := hfanned.sent sending hsent
    obtain ⟨hsameTenant, hkey⟩ := Prod.mk.inj hmark
    exact ⟨found, event, hevent, hsameTenant, hkey⟩

end Kept

section Samples

def quotaSink : TenantNotificationSink := ⟨⟨⟨.active, "stdout", .object []⟩, none⟩, "ns_1", "tenant_1", none, none⟩

def quotaSubscribed : List NotificationAction :=
  [.createNotificationSink quotaSink,
    .createNotificationSubscription ⟨"tenant_1", "ns_1", "quota", .object []⟩ (.ok ()) "nsub_1", .resume 0 ""]

def quotaBlocked : NotificationAction :=
  .policyBlocked tenantActor .openAiChat "model_1" none (.quotaExceeded "rate_limit") ⟨0⟩

/-- Two attempts of one request are blocked, and both handlers fan out. -/
def blockedTwice : List NotificationAction :=
  [quotaBlocked, .resume 0 "", .resume 0 "nob_1", .resume 1 "", .resume 0 "nob_2", .resume 0 "", .resume 0 ""]

theorem notices_once_blockedTwice :
    ∃ s, run notificationStep .empty (quotaSubscribed ++ quotaBlocked :: blockedTwice) = some s ∧ s.sent.length = 2 ∧
      (s.outbox.events.lookup "nob_1").isSome = true ∧ s.outbox.events.keys.length = 1 ∧
      ∀ sending ∈ s.sent, ∃! id, ∃ first ∈ s.sent, SameNotice first sending ∧ Announces s id first := by
  have hfacts : ((run notificationStep .empty (quotaSubscribed ++ quotaBlocked :: blockedTwice)).map fun s =>
      (s.sent.length, (s.outbox.events.lookup "nob_1").isSome, s.outbox.events.keys.length)) = some (2, true, 1) := by
    decide +kernel
  obtain ⟨s, hrun, hvalues⟩ := Option.map_eq_some_iff.mp hfacts
  simp only [Prod.mk.injEq] at hvalues
  obtain ⟨hsent, hevent, hkeys⟩ := hvalues
  have hnamed : ∀ action ∈ quotaSubscribed ++ quotaBlocked :: blockedTwice, action.Named := by
    simp only [quotaSubscribed, quotaBlocked, blockedTwice, List.cons_append, List.nil_append, List.forall_mem_cons,
      NotificationAction.Named, true_and]
    exact ⟨by decide, by decide, by decide, List.forall_mem_nil _⟩
  exact ⟨s, hrun, hsent, hevent, hkeys, fun sending hmem => ((notices_once hnamed hrun).2 sending hmem).2.2⟩

/-- The notice is raised, its subscription wants it, and the sink is active. -/
def wantedIn (s : NotificationSystem) (action : NotificationAction) (notificationSubscriptionId : String) : Bool :=
  action.notice?.any fun notice =>
    (s.subscriptions.lookup notificationSubscriptionId).any fun subscription =>
      decide (subscription.tenantId = notice.actor.tenantId) && subscription.wants notice &&
        (s.sinks.lookup subscription.notificationSinkId).any fun sink => decide (sink.status = .active)

theorem notice_kept_blocked :
    ∃ s final notice subscription, run notificationStep .empty quotaSubscribed = some s ∧
      quotaBlocked.notice? = some notice ∧ run notificationStep s (quotaBlocked :: blockedTwice) = some final ∧
      s.subscriptions.lookup "nsub_1" = some subscription ∧
      ∃ id event, final.outbox.events.lookup id = some event ∧ event.tenantId = notice.actor.tenantId ∧
        event.dedupeKey = notice.topic.dedupeKey subscription.notificationSubscriptionId := by
  have hfacts : ((run notificationStep .empty quotaSubscribed).bind fun s =>
      (run notificationStep s (quotaBlocked :: blockedTwice)).map fun final =>
        (wantedIn s quotaBlocked "nsub_1", final.inProgress.isEmpty)) = some (true, true) := by
    decide +kernel
  obtain ⟨s, hbefore, hrest⟩ := Option.bind_eq_some_iff.mp hfacts
  obtain ⟨final, hafter, hvalues⟩ := Option.map_eq_some_iff.mp hrest
  obtain ⟨hwanted, hidle⟩ := Prod.mk.inj hvalues
  obtain ⟨notice, hnotice, hwanted⟩ := (Option.any_eq_true _ _).mp hwanted
  obtain ⟨subscription, hsubscription, hwanted⟩ := (Option.any_eq_true _ _).mp hwanted
  simp only [Bool.and_eq_true, decide_eq_true_eq] at hwanted
  obtain ⟨⟨htenant, hwants⟩, hsinks⟩ := hwanted
  obtain ⟨sink, hsink, hactive⟩ := (Option.any_eq_true _ _).mp hsinks
  refine ⟨s, final, notice, subscription, hbefore, hnotice, hafter, hsubscription, ?_⟩
  exact notice_kept hbefore hnotice hafter (List.isEmpty_iff.mp hidle) hsubscription htenant hwants hsink
    (of_decide_eq_true hactive) (by simp [blockedTwice, quotaBlocked, KeepsActive])

end Samples

end Starweaver.Gateway
