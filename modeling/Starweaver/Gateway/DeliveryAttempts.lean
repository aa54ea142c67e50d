import Starweaver.Gateway.NotificationDelivery

namespace Starweaver.Gateway

open Library Library.AssocMap Library.Calendar Library.Machine

/-- An outbox event with its status label as the store keeps it. -/
structure NotificationOutboxEventRecord where
  notificationOutboxEventId : String
  tenantId : String
  notificationSinkId : Option String
  eventKind : String
  dedupeKey : String
  status : String
  attemptCount : Int
  nextAttemptAt : Option DateTime
  createdAt : DateTime
  updatedAt : DateTime
deriving DecidableEq, Repr

/-- What a delivery leaves as evidence beside its outcome. -/
structure DeliveryEvidence where
  requestBodySha256 : Option String
  signingSecretRefId : Option String
  signatureSha256 : Option String
  deliveryHeaders : Json

structure CreateNotificationDeliveryAttemptRequest where
  notificationOutboxEventId : String
  notificationSinkId : Option String
  status : String
  responseStatus : Option Int
  errorMessage : Option String
  evidence : DeliveryEvidence
  nextAttemptAt : Option DateTime

structure NotificationDeliveryAttemptRecord where
  notificationDeliveryAttemptId : String
  notificationOutboxEventId : String
  notificationSinkId : Option String
  attemptIndex : Int
  status : String
  responseStatus : Option Int
  errorMessage : Option String
  evidence : DeliveryEvidence
  attemptedAt : DateTime

structure NotificationOutboxStore where
  events : Index NotificationOutboxEventRecord
  attempts : List NotificationDeliveryAttemptRecord

def i32Max : Int := 2 ^ 31 - 1

/-- The event status that an attempt status leads to. -/
def outboxStatusLabel (status : String) : Option String :=
  if status = "succeeded" then some "delivered"
  else if status = "retryable_failed" then some "retryable_failed"
  else if status = "permanent_failed" then some "permanent_failed"
  else if status = "dead_lettered" then some "dead_lettered"
  else if status = "started" then some "delivering"
  else none

def NotificationOutboxEventRecord.counted (event : NotificationOutboxEventRecord) : NotificationOutboxEventRecord :=
  { event with attemptCount := nextAttemptCount event.attemptCount }

section Operations

variable (s : NotificationOutboxStore) (now : DateTime)

/-- The stored event is edited in place: an invalid label is found when the attempt is already counted. -/
def recordNotificationDeliveryAttempt (request : CreateNotificationDeliveryAttemptRequest) (attemptId : String) :
    Result NotificationDeliveryAttemptRecord × NotificationOutboxStore :=
  match s.events.lookup request.notificationOutboxEventId with
  | none => (.error (.notFound ("notification outbox event " ++ request.notificationOutboxEventId)), s)
  | some event =>
    let attemptIndex := event.attemptCount
    let counted := event.counted
    match outboxStatusLabel request.status with
    | none =>
      (.error (.badRequest "notification_delivery_attempt_status_invalid"),
        { s with events := s.events.insert request.notificationOutboxEventId counted })
    | some status =>
      let nextAttemptAt :=
        if request.status = "retryable_failed" then request.nextAttemptAt
        else if request.status = "started" then counted.nextAttemptAt
        else none
      let updated := { counted with status := status, nextAttemptAt := nextAttemptAt, updatedAt := now }
      let record : NotificationDeliveryAttemptRecord :=
        { notificationDeliveryAttemptId := attemptId
          notificationOutboxEventId := request.notificationOutboxEventId
          notificationSinkId := request.notificationSinkId
          attemptIndex := attemptIndex
          status := request.status
          responseStatus := request.responseStatus
          errorMessage := request.errorMessage
          evidence := request.evidence
          attemptedAt := now }
      (.ok record, ⟨s.events.insert request.notificationOutboxEventId updated, s.attempts ++ [record]⟩)

def replayDeadLetteredNotificationOutboxEvent (notificationOutboxEventId : String) :
    Result NotificationOutboxEventRecord × NotificationOutboxStore :=
  match s.events.lookup notificationOutboxEventId with
  | none => (.error (.notFound ("notification outbox event " ++ notificationOutboxEventId)), s)
  | some event =>
    if event.status ≠ "dead_lettered" then
      (.error (.badRequest "notification_replay_requires_dead_lettered_event"), s)
    else
      let record := { event with status := "pending", attemptCount := 0, nextAttemptAt := some now, updatedAt := now }
      (.ok record, { s with events := s.events.insert notificationOutboxEventId record })

end Operations

section Counts

theorem nextAttemptCount_eq_succ_iff {count : Int} : nextAttemptCount count = count + 1 ↔ count < i32Max := by
  unfold nextAttemptCount i32Max
  omega

theorem nextAttemptCount_eq_self_iff {count : Int} : nextAttemptCount count = count ↔ count = i32Max := by
  unfold nextAttemptCount i32Max
  omega

theorem nextAttemptCount_le (count : Int) : nextAttemptCount count ≤ i32Max := by
  unfold nextAttemptCount i32Max
  omega

theorem le_nextAttemptCount {count : Int} (h : count ≤ i32Max) : count ≤ nextAttemptCount count := by
  unfold nextAttemptCount i32Max at *
  omega

end Counts

section Recording

variable {s : NotificationOutboxStore} {request : CreateNotificationDeliveryAttemptRequest} {attemptId : String}
  {now : DateTime} {event : NotificationOutboxEventRecord}

theorem record_missing (hevent : s.events.lookup request.notificationOutboxEventId = none) :
    recordNotificationDeliveryAttempt s now request attemptId =
      (.error (.notFound ("notification outbox event " ++ request.notificationOutboxEventId)), s) := by
  rw [recordNotificationDeliveryAttempt, hevent]

theorem record_invalid (hevent : s.events.lookup request.notificationOutboxEventId = some event)
    (hlabel : outboxStatusLabel request.status = none) :
    recordNotificationDeliveryAttempt s now request attemptId =
      (.error (.badRequest "notification_delivery_attempt_status_invalid"),
        { s with events := s.events.insert request.notificationOutboxEventId event.counted }) := by
  rw [recordNotificationDeliveryAttempt, hevent]
  simp only [hlabel]

/-- A valid label counts the attempt and records it under the count it found. -/
theorem record_valid {label : String} (attemptId : String) (now : DateTime)
    (hevent : s.events.lookup request.notificationOutboxEventId = some event)
    (hlabel : outboxStatusLabel request.status = some label) :
    ∃ attempt after, recordNotificationDeliveryAttempt s now request attemptId =
        (.ok attempt, ⟨s.events.insert request.notificationOutboxEventId after, s.attempts ++ [attempt]⟩) ∧
      attempt.notificationOutboxEventId = request.notificationOutboxEventId ∧
      attempt.attemptIndex = event.attemptCount ∧
      after = { event with
        attemptCount := nextAttemptCount event.attemptCount
        status := label
        nextAttemptAt := if request.status = "retryable_failed" then request.nextAttemptAt
          else if request.status = "started" then event.nextAttemptAt else none
        updatedAt := now } := by
  rw [recordNotificationDeliveryAttempt, hevent]
  simp only [hlabel]
  exact ⟨_, _, rfl, rfl, rfl, rfl⟩

/-- Recording an attempt of one event touches no other event. -/
theorem record_others (s : NotificationOutboxStore) (now : DateTime) (attemptId : String) {id : String}
    (hne : id ≠ request.notificationOutboxEventId) :
    (recordNotificationDeliveryAttempt s now request attemptId).2.events.lookup id = s.events.lookup id := by
  cases hevent : s.events.lookup request.notificationOutboxEventId with
  | none => rw [record_missing hevent]
  | some event =>
    cases hlabel : outboxStatusLabel request.status with
    | none =>
      rw [record_invalid hevent hlabel]
      exact AList.lookup_insert_ne hne
    | some label =>
      obtain ⟨attempt, after, hrecord, -⟩ := record_valid attemptId now hevent hlabel
      rw [hrecord]
      exact AList.lookup_insert_ne hne

/-- The store has the same events and the same attempts. -/
structure SameOutbox (store next : NotificationOutboxStore) : Prop where
  events : ∀ id, next.events.lookup id = store.events.lookup id
  attempts : next.attempts = store.attempts

/-- A failed call leaves the store as it was; a call that succeeds appends its attempt and counts it. -/
def RecordsAtomically (store : NotificationOutboxStore) (request : CreateNotificationDeliveryAttemptRequest)
    (outcome : Result NotificationDeliveryAttemptRecord × NotificationOutboxStore) : Prop :=
  (∀ error, outcome.1 = .error error → SameOutbox store outcome.2) ∧
  ∀ attempt, outcome.1 = .ok attempt → outcome.2.attempts = store.attempts ++ [attempt] ∧
    ∃ event after, store.events.lookup request.notificationOutboxEventId = some event ∧
      outcome.2.events.lookup request.notificationOutboxEventId = some after ∧
      after.attemptCount = event.attemptCount + 1

theorem sameOutbox_insert_iff {id : String} {updated : NotificationOutboxEventRecord}
    (hevent : s.events.lookup id = some event) :
    SameOutbox s { s with events := s.events.insert id updated } ↔ updated = event := by
  constructor
  · intro h
    have hlookup := h.events id
    rw [AList.lookup_insert, hevent] at hlookup
    exact Option.some.inj hlookup
  · rintro rfl
    refine ⟨fun other => ?_, rfl⟩
    by_cases hid : other = id
    · rw [hid, AList.lookup_insert, hevent]
    · exact AList.lookup_insert_ne hid

/-- Recording is atomic exactly when the label of a stored event's attempt is valid just where its count can grow. -/
theorem recordDeliveryAttempt_atomic_iff (s : NotificationOutboxStore) (request : CreateNotificationDeliveryAttemptRequest)
    (attemptId : String) (now : DateTime)
    (hcounts : ∀ id event, s.events.lookup id = some event → event.attemptCount ≤ i32Max) :
    RecordsAtomically s request (recordNotificationDeliveryAttempt s now request attemptId) ↔
      ∀ event, s.events.lookup request.notificationOutboxEventId = some event →
        ((outboxStatusLabel request.status).isSome = true ↔ event.attemptCount < i32Max) := by
  cases hevent : s.events.lookup request.notificationOutboxEventId with
  | none =>
    rw [record_missing hevent]
    exact iff_of_true ⟨fun _ _ => ⟨fun _ => rfl, rfl⟩, fun attempt hok => (by cases hok)⟩ fun event hsome => (by cases hsome)
  | some event =>
    have hcount := hcounts _ event hevent
    have hone : (∀ other, some event = some other →
          ((outboxStatusLabel request.status).isSome = true ↔ other.attemptCount < i32Max)) ↔
        ((outboxStatusLabel request.status).isSome = true ↔ event.attemptCount < i32Max) :=
      ⟨fun h => h event rfl, fun h other hother => Option.some.inj hother ▸ h⟩
    rw [hone]
    cases hlabel : outboxStatusLabel request.status with
    | none =>
      rw [record_invalid hevent hlabel]
      have hatomic : RecordsAtomically s request
          ((.error (.badRequest "notification_delivery_attempt_status_invalid"),
            { s with events := s.events.insert request.notificationOutboxEventId event.counted }) :
            Result NotificationDeliveryAttemptRecord × NotificationOutboxStore) ↔
          nextAttemptCount event.attemptCount = event.attemptCount := by
        constructor
        · intro h
          have hsame := (sameOutbox_insert_iff hevent).mp (h.1 _ rfl)
          exact congrArg (·.attemptCount) hsame
        · intro h
          refine ⟨fun _ _ => (sameOutbox_insert_iff hevent).mpr ?_, fun attempt hok => (by cases hok)⟩
          rw [NotificationOutboxEventRecord.counted, h]
      rw [hatomic, nextAttemptCount_eq_self_iff]
      simp only [Option.isSome_none, Bool.false_eq_true, false_iff]
      omega
    | some label =>
      obtain ⟨attempt, after, hrecord, -, -, hafter⟩ := record_valid attemptId now hevent hlabel
      rw [hrecord]
      have hatomic : RecordsAtomically s request
          ((.ok attempt, ⟨s.events.insert request.notificationOutboxEventId after, s.attempts ++ [attempt]⟩) :
            Result NotificationDeliveryAttemptRecord × NotificationOutboxStore) ↔
          nextAttemptCount event.attemptCount = event.attemptCount + 1 := by
        constructor
        · intro h
          obtain ⟨-, stored, updated, hstored, hupdated, hcounted⟩ := h.2 attempt rfl
          rw [AList.lookup_insert] at hupdated
          cases hevent.symm.trans hstored
          cases hupdated
          rw [hafter] at hcounted
          exact hcounted
        · intro h
          refine ⟨fun error herror => (by cases herror), fun other hother => ?_⟩
          cases hother
          refine ⟨rfl, event, after, hevent, AList.lookup_insert _, ?_⟩
          rw [hafter]
          exact h
      rw [hatomic, nextAttemptCount_eq_succ_iff]
      simp only [Option.isSome_some, true_iff]

end Recording

section Runs

/-- A call that the store takes. -/
inductive AttemptCall
  | record (request : CreateNotificationDeliveryAttemptRequest) (attemptId : String) (now : DateTime)
  | replay (notificationOutboxEventId : String) (now : DateTime)

def attemptStep (s : NotificationOutboxStore) : AttemptCall → NotificationOutboxStore
  | .record request attemptId now => (recordNotificationDeliveryAttempt s now request attemptId).2
  | .replay id now => (replayDeadLetteredNotificationOutboxEvent s now id).2

/-- A dead-lettered event is replayed before its first attempt only, and an attempt is recorded before the count stands
still. -/
def KeepsCounting (s : NotificationOutboxStore) : AttemptCall → Prop
  | .record request _ _ => ∀ event, s.events.lookup request.notificationOutboxEventId = some event →
      (outboxStatusLabel request.status).isSome = true →
      event.attemptCount < i32Max ∨ ∀ attempt ∈ s.attempts,
        attempt.notificationOutboxEventId = request.notificationOutboxEventId → attempt.attemptIndex ≠ i32Max
  | .replay id _ => ∀ event, s.events.lookup id = some event → event.status = "dead_lettered" →
      ∀ attempt ∈ s.attempts, attempt.notificationOutboxEventId ≠ id

/-- No two recorded attempts of one event have the same index. -/
def NumberedApart (s : NotificationOutboxStore) : Prop :=
  s.attempts.Pairwise fun attempt other =>
    attempt.notificationOutboxEventId = other.notificationOutboxEventId → attempt.attemptIndex ≠ other.attemptIndex

/-- The count of an event is past the indices of its attempts, unless it stands still. -/
structure CountsAhead (s : NotificationOutboxStore) : Prop where
  bounded : ∀ id event, s.events.lookup id = some event → event.attemptCount ≤ i32Max
  ahead : ∀ attempt ∈ s.attempts, ∀ event, s.events.lookup attempt.notificationOutboxEventId = some event →
    attempt.attemptIndex < event.attemptCount ∨ event.attemptCount = i32Max
  apart : NumberedApart s

variable {s : NotificationOutboxStore}

/-- Another version of a stored event, with its count no lower, keeps the numbering. -/
theorem CountsAhead.update (h : CountsAhead s) {id : String} {event updated : NotificationOutboxEventRecord}
    (hevent : s.events.lookup id = some event) (hbounded : updated.attemptCount ≤ i32Max)
    (hahead : (∀ attempt ∈ s.attempts, attempt.notificationOutboxEventId ≠ id) ∨
      event.attemptCount ≤ updated.attemptCount) :
    CountsAhead { s with events := s.events.insert id updated } := by
  refine ⟨fun other stored hstored => ?_, fun attempt hattempt stored hstored => ?_, h.apart⟩
  · rcases insert_some hstored with ⟨rfl, rfl⟩ | ⟨-, hold⟩
    · exact hbounded
    · exact h.bounded other stored hold
  · rcases insert_some hstored with ⟨hid, rfl⟩ | ⟨-, hold⟩
    · rcases hahead with hnone | hle
      · exact absurd hid (hnone attempt hattempt)
      · have hold := h.ahead attempt hattempt event (hid ▸ hevent)
        omega
    · exact h.ahead attempt hattempt stored hold

theorem CountsAhead.record (h : CountsAhead s) {request : CreateNotificationDeliveryAttemptRequest} {attemptId : String}
    {now : DateTime} (hkeeps : KeepsCounting s (.record request attemptId now)) :
    CountsAhead (recordNotificationDeliveryAttempt s now request attemptId).2 := by
  cases hevent : s.events.lookup request.notificationOutboxEventId with
  | none =>
    rw [record_missing hevent]
    exact h
  | some event =>
    have hcount := h.bounded _ event hevent
    cases hlabel : outboxStatusLabel request.status with
    | none =>
      rw [record_invalid hevent hlabel]
      exact h.update hevent (nextAttemptCount_le _) (.inr (le_nextAttemptCount hcount))
    | some label =>
      obtain ⟨attempt, after, hrecord, hid, hindex, hafter⟩ := record_valid attemptId now hevent hlabel
      have hnext : after.attemptCount = nextAttemptCount event.attemptCount := by rw [hafter]
      have hle : event.attemptCount ≤ after.attemptCount := hnext ▸ le_nextAttemptCount hcount
      have hevents := h.update hevent (hnext ▸ nextAttemptCount_le _) (.inr hle)
      rw [hrecord]
      refine ⟨hevents.bounded, fun other hother stored hstored => ?_, ?_⟩
      · rcases List.mem_append.mp hother with hother | hother
        · exact hevents.ahead other hother stored hstored
        · cases List.mem_singleton.mp hother
          rw [hid, AList.lookup_insert] at hstored
          cases hstored
          rw [hindex, hnext]
          unfold nextAttemptCount i32Max at *
          omega
      · refine List.pairwise_append.mpr ⟨h.apart, List.pairwise_singleton _ _, fun other hother last hlast hsame => ?_⟩
        cases List.mem_singleton.mp hlast
        rw [hid] at hsame
        rw [hindex]
        intro hequal
        have hahead := h.ahead other hother event (hsame ▸ hevent)
        have hroom := hkeeps event hevent (by rw [hlabel]; rfl)
        rcases hroom with hroom | hfree
        · omega
        · have hother' := hfree other hother hsame
          omega

theorem CountsAhead.replay (h : CountsAhead s) {id : String} {now : DateTime} (hkeeps : KeepsCounting s (.replay id now)) :
    CountsAhead (replayDeadLetteredNotificationOutboxEvent s now id).2 := by
  rw [replayDeadLetteredNotificationOutboxEvent]
  cases hevent : s.events.lookup id with
  | none => exact h
  | some event =>
    simp only
    split
    · exact h
    · rename_i hdead
      have hzero : (0 : Int) ≤ i32Max := by decide
      exact h.update hevent hzero (.inl (hkeeps event hevent (not_not.mp hdead)))

theorem CountsAhead.step (h : CountsAhead s) {call : AttemptCall} (hkeeps : KeepsCounting s call) :
    CountsAhead (attemptStep s call) := by
  cases call with
  | record request attemptId now => exact h.record hkeeps
  | replay id now => exact h.replay hkeeps

/-- From any outbox without attempts, the attempts of an event are numbered apart as long as its count is neither set
back nor stands still. -/
theorem deliveryAttempts_numbered {events : Index NotificationOutboxEventRecord}
    (hcounts : ∀ id event, events.lookup id = some event → event.attemptCount ≤ i32Max) {calls : List AttemptCall}
    (hmeets : Meets (fun s call => some (attemptStep s call)) KeepsCounting ⟨events, []⟩ calls) :
    NumberedApart (calls.foldl attemptStep ⟨events, []⟩) := by
  have hstart : CountsAhead ⟨events, []⟩ := by
    exact ⟨hcounts, fun attempt hattempt => absurd hattempt List.not_mem_nil, List.Pairwise.nil⟩
  have hstep (s : NotificationOutboxStore) (call : AttemptCall) (next : NotificationOutboxStore) (h : CountsAhead s)
      (hkeeps : KeepsCounting s call) (hnext : some (attemptStep s call) = some next) : CountsAhead next := by
    cases hnext
    exact h.step hkeeps
  exact (run_invariant hstep hstart hmeets (run_total attemptStep _ calls)).apart

end Runs

section Examples

def pendingNotification : NotificationOutboxEventRecord where
  notificationOutboxEventId := "nob_1"
  tenantId := "tenant_1"
  notificationSinkId := some "ns_1"
  eventKind := "budget.threshold"
  dedupeKey := "dedupe_1"
  status := "pending"
  attemptCount := 0
  nextAttemptAt := none
  createdAt := ⟨0⟩
  updatedAt := ⟨0⟩

def onePending : NotificationOutboxStore := ⟨(∅ : Index NotificationOutboxEventRecord).insert "nob_1" pendingNotification, []⟩

def attemptWith (status : String) : CreateNotificationDeliveryAttemptRequest where
  notificationOutboxEventId := "nob_1"
  notificationSinkId := some "ns_1"
  status := status
  responseStatus := none
  errorMessage := none
  evidence := ⟨none, none, none, .object [("transport", .string "stdout")]⟩
  nextAttemptAt := none

theorem onePending_counts : ∀ id event, onePending.events.lookup id = some event → event.attemptCount ≤ i32Max := by
  intro id event hevent
  rcases insert_some hevent with ⟨rfl, rfl⟩ | ⟨-, hold⟩
  · decide
  · cases hold

theorem succeededAttempt_atomic :
    RecordsAtomically onePending (attemptWith "succeeded")
      (recordNotificationDeliveryAttempt onePending ⟨1⟩ (attemptWith "succeeded") "nda_1") := by
  refine (recordDeliveryAttempt_atomic_iff onePending (attemptWith "succeeded") "nda_1" ⟨1⟩ onePending_counts).mpr ?_
  intro event hevent
  cases hevent
  exact iff_of_true rfl (by decide)

/-- The unknown label is refused, and the attempt is counted. -/
theorem unknownLabel_counted :
    ¬ RecordsAtomically onePending (attemptWith "sent")
      (recordNotificationDeliveryAttempt onePending ⟨1⟩ (attemptWith "sent") "nda_1") := by
  intro h
  have hsame := (h.1 _ rfl).events "nob_1"
  exact absurd (congrArg (Option.map (·.attemptCount)) hsame) (by decide)

/-- An event that was given up before any attempt of it was recorded here. -/
def oneDeadLettered : NotificationOutboxStore :=
  ⟨(∅ : Index NotificationOutboxEventRecord).insert "nob_1"
    { pendingNotification with
      status := "dead_lettered"
      attemptCount := 3 }, []⟩

/-- The first replay is taken, the second one finds the event waiting for its retry. -/
def retriedThenDelivered : List AttemptCall :=
  [.replay "nob_1" ⟨1⟩, .record (attemptWith "retryable_failed") "nda_1" ⟨2⟩, .replay "nob_1" ⟨3⟩,
    .record (attemptWith "succeeded") "nda_2" ⟨4⟩]

theorem oneDeadLettered_counts :
    ∀ id event, oneDeadLettered.events.lookup id = some event → event.attemptCount ≤ i32Max := by
  intro id event hevent
  rcases insert_some hevent with ⟨rfl, rfl⟩ | ⟨-, hold⟩
  · decide
  · cases hold

theorem retriedThenDelivered_numbered : NumberedApart (retriedThenDelivered.foldl attemptStep oneDeadLettered) ∧
    (retriedThenDelivered.foldl attemptStep oneDeadLettered).attempts.map (·.attemptIndex) = [0, 1] := by
  have hmeets : Meets (fun s call => some (attemptStep s call)) KeepsCounting oneDeadLettered retriedThenDelivered := by
    refine .cons rfl (fun event hevent _ attempt hattempt => ?_) (.cons rfl (fun event hevent _ => ?_)
      (.cons rfl (fun event hevent hstatus => ?_) (.cons rfl (fun event hevent _ => ?_) trivial)))
    · cases hattempt
    · cases hevent
      exact .inl (by decide)
    · cases hevent
      exact absurd hstatus (by decide)
    · cases hevent
      exact .inl (by decide)
  exact ⟨deliveryAttempts_numbered oneDeadLettered_counts hmeets, rfl⟩

def replayedAfterDeadLetter : List AttemptCall :=
  [.record (attemptWith "dead_lettered") "nda_1" ⟨1⟩, .replay "nob_1" ⟨2⟩, .record (attemptWith "succeeded") "nda_2" ⟨3⟩]

/-- After a replay the numbering starts anew. -/
theorem replayedAfterDeadLetter_repeats : ¬ NumberedApart (replayedAfterDeadLetter.foldl attemptStep onePending) := by
  intro h
  have hindices : (replayedAfterDeadLetter.foldl attemptStep onePending).attempts.map
      (fun attempt => (attempt.notificationOutboxEventId, attempt.attemptIndex)) = [("nob_1", 0), ("nob_1", 0)] := rfl
  obtain ⟨first, rest, hattempts, hfirst, hrest⟩ := List.map_eq_cons_iff.mp hindices
  obtain ⟨second, others, rfl, hsecond, -⟩ := List.map_eq_cons_iff.mp hrest
  rw [NumberedApart, hattempts] at h
  have hapart := List.rel_of_pairwise_cons h List.mem_cons_self
  simp only [Prod.mk.injEq] at hfirst hsecond
  exact hapart (hfirst.1.trans hsecond.1.symm) (hfirst.2.trans hsecond.2.symm)

end Examples

end Starweaver.Gateway
