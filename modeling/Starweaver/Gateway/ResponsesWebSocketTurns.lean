import Mathlib.Logic.Relation
import Mathlib.Tactic.Set
import Starweaver.Gateway.ResponsesWebSocket
import Starweaver.Gateway.RouteEligibility
import Starweaver.Gateway.RoutedModel
import Starweaver.Gateway.SessionAgreement

/-! What a connection is for, as a machine of its own: frames are admitted, sent, answered, accounted and released one
after the other. Every step of the connection is a chain of its moves. -/

namespace Starweaver.Gateway

open Library Library.AssocMap Library.Dialogue Relation Tenancy

inductive ConversationPhase
  | waiting
  | reserved (opened : OpenTurn)
  | turn (opened : OpenTurn)
  | answered (opened : OpenTurn) (response : Option RuntimeIngressResponse)
  | broken (opened : OpenTurn)
  | closed

/-- The completed answers the client was given, each with its frame, and what was written for the frames. -/
structure Books where
  answered : List (OpenTurn × RuntimeIngressResponse)
  writes : List RuntimeWrite

/-- A connection as its two peers and the shared stores see it. -/
structure Conversation extends Books where
  phase : ConversationPhase
  pinned : Option PinnedResponsesWebSocketState
  upstream : List (Item SentFrame String)
  forwarded : List String
  admitted : List OpenTurn

section Moves

variable {Url : Type} (env : WebSocketEnv Url)

/-- The frame is the one of the pinned alias, with the model and the cache key put in and all else as it came. -/
structure SentFor (pinned : PinnedResponsesWebSocketState) (sent : SentFrame) (body : Json) : Prop where
  modelAlias : sent.frame.modelAlias = pinned.modelAlias
  routeTarget : sent.routeTarget = pinned.routeTarget
  text : sent.text = env.json.encode body
  model : body.get "model" = some (.string pinned.routeTarget.upstreamModelId)
  cacheKey : body.get "prompt_cache_key" = some (.string (responsesWebsocketSessionId env.headers sent.actor))
  others : ∀ key, key ≠ "model" → key ≠ "prompt_cache_key" → body.get key = sent.frame.rawBody.get key

def completedResponse (body : Json) : RuntimeIngressResponse := ⟨.openAiResponses, body, true⟩

def completedBodies (texts : List String) : List Json :=
  texts.filterMap (responsesWebsocketCompletedResponseBody env.json)

/-- Where a message of the upstream connection leaves the turn. -/
def answeredPhase (opened : OpenTurn) (text : String) : ConversationPhase :=
  match responsesWebsocketCompletedResponseBody env.json text with
  | some body => .answered opened (some (completedResponse body))
  | none => if responsesWebsocketTerminalError env.json text then .answered opened none else .turn opened

/-- The durable store has refused the attempt of the turn, or the usage event of the completed answer that ends it. -/
def Refused (forwarded : List String) (opened : OpenTurn) : Prop :=
  ¬ opened.request.AttemptStored ∨ ¬ opened.request.UsageStored ∧
    ∃ text, forwarded.getLast? = some text ∧ (responsesWebsocketCompletedResponseBody env.json text).isSome

variable (allowed : SentFrame → Prop)

inductive Move : Conversation → Conversation → Prop
  | refuse {c} (input) (hphase : c.phase = .waiting) : Move c { c with writes := c.writes ++ [.refused input] }
  | reserve {c} (opened) (hphase : c.phase = .waiting) :
      Move c { c with
        phase := .reserved opened
        admitted := c.admitted ++ [opened]
        writes := c.writes ++ [.reserved opened] }
  | pin {c opened} (pinned) (hphase : c.phase = .reserved opened) (hfirst : c.pinned = none) :
      Move c { c with pinned := some pinned }
  | send {c opened pinned} (sent body) (hphase : c.phase = .reserved opened) (hpinned : c.pinned = some pinned)
      (hallowed : allowed sent) (hsent : SentFor env pinned sent body) :
      Move c { c with phase := .turn opened, upstream := c.upstream ++ [.request sent] }
  | deliver {c opened} (text) (hphase : c.phase = .turn opened) :
      Move c { c with
        phase := answeredPhase env opened text
        upstream := c.upstream ++ [.message text]
        forwarded := c.forwarded ++ [text]
        answered := c.answered ++ (completedBodies env [text]).map fun body => (opened, completedResponse body) }
  | lose {c opened} (text) (hphase : c.phase = .turn opened) :
      Move c { c with phase := .broken opened, upstream := c.upstream ++ [.message text] }
  | giveUp {c opened} (hphase : c.phase = .turn opened ∨ c.phase = .reserved opened) :
      Move c { c with phase := .broken opened }
  | attempt {c opened} (status) (hphase : c.phase = .reserved opened ∨ c.phase = .broken opened ∨
        c.phase = .answered opened none) :
      Move c { c with writes := c.writes ++ opened.attemptWrites status }
  | account {c opened response} (hphase : c.phase = .answered opened (some response)) :
      Move c { c with phase := .answered opened none, writes := c.writes ++ opened.successWrites response }
  | release {c opened} (hphase : c.phase = .reserved opened ∨ c.phase = .answered opened none) :
      Move c { c with phase := .waiting, writes := c.writes ++ [.released opened] }
  | releaseBroken {c opened} (hphase : c.phase = .broken opened) :
      Move c { c with phase := .closed, writes := c.writes ++ [.released opened] }
  | close {c} (hphase : c.phase = .waiting) : Move c { c with phase := .closed }
  | closeHolding {c opened} (hphase : c.phase = .reserved opened ∨ c.phase = .broken opened ∨
        c.phase = .answered opened none) (hrefused : Refused env c.forwarded opened) :
      Move c { c with phase := .closed }

end Moves

namespace ResponsesWebSocketSession

def forwardedText : ToClient → Option String
  | .forwarded text => some text
  | _ => none

def forwarded (s : ResponsesWebSocketSession) : List String := s.toClient.filterMap forwardedText

def conversation (books : Books) (phase : ConversationPhase) (s : ResponsesWebSocketSession) : Conversation where
  toBooks := books
  phase := phase
  pinned := s.pinned
  upstream := s.upstream
  forwarded := s.forwarded
  admitted := s.admitted

def shownPhase : SessionPhase → ConversationPhase
  | .waiting => .waiting
  | .turn opened => .turn opened
  | .closed => .closed

def shown (books : Books) (s : ResponsesWebSocketSession) : Conversation := s.conversation books (shownPhase s.phase)

end ResponsesWebSocketSession

/-- The outcome of a turn without a completed answer. -/
def Unanswered (outcome : Result ResponsesWebSocketTurnOutcome) : Prop :=
  ∀ turn, outcome = .ok turn → turn.success = false

section Outcomes

variable {outcome : Result ResponsesWebSocketTurnOutcome} (opened : OpenTurn)

theorem Unanswered.outcomeWrites (h : Unanswered outcome) :
    ∃ status, opened.outcomeWrites outcome = opened.attemptWrites status := by
  match outcome, h with
  | .error error, _ => exact ⟨.failed, rfl⟩
  | .ok ⟨_, false, true, _⟩, _ => exact ⟨.clientDisconnected, rfl⟩
  | .ok ⟨_, false, false, _⟩, _ => exact ⟨.failed, rfl⟩
  | .ok ⟨_, true, _, _⟩, h => cases h _ rfl

theorem Unanswered.attemptStored (h : Unanswered outcome) (hstored : opened.request.AttemptStored) :
    opened.request.OutcomeStored outcome := by
  cases outcome with
  | error error => exact hstored
  | ok turn =>
    have hfailed : turn.success = false := h turn rfl
    simpa [RuntimeRequest.OutcomeStored, hfailed] using hstored

theorem unanswered_error (error : GatewayError) : Unanswered (.error error) := fun _ h => by cases h

theorem unanswered_disconnected : Unanswered (.ok .disconnectedClient) := fun _ h => by
  cases h
  rfl

theorem unanswered_failedAndClose : Unanswered (.ok .failedAndClose) := fun _ h => by
  cases h
  rfl

end Outcomes

section Simulation

variable {Url : Type} {env : WebSocketEnv Url} {allowed : SentFrame → Prop} {s : ResponsesWebSocketSession}
  {takes : ToClient → Bool} {start : RuntimeStores} {books : Books}

namespace ResponsesWebSocketSession

/-- The stores are what the writes have made of them. -/
def Kept (start : RuntimeStores) (books : Books) (s : ResponsesWebSocketSession) : Prop :=
  Machine.run RuntimeWrite.apply start books.writes = some s.runtime.stores

theorem Kept.congr (h : Kept start books s) {next : ResponsesWebSocketSession} (hruntime : next.runtime = s.runtime) :
    Kept start books next := by
  unfold Kept
  rw [hruntime]
  exact h

/-- The connection goes from one conversation to the state `s` by moves, with its books kept. -/
def Reaches (env : WebSocketEnv Url) (allowed : SentFrame → Prop) (start : RuntimeStores) (c : Conversation)
    (s : ResponsesWebSocketSession) : Prop :=
  ∃ books, ReflTransGen (Move env allowed) c (s.shown books) ∧ Kept start books s

theorem Reaches.head {c next : Conversation} (h : Reaches env allowed start next s) (hmove : Move env allowed c next) :
    Reaches env allowed start c s := by
  obtain ⟨books, hmoves, hkept⟩ := h
  exact ⟨books, .head hmove hmoves, hkept⟩

/-- The state stands for the conversation reached. -/
theorem Reaches.here {c : Conversation} (hkept : Kept start books s) (hshown : s.shown books = c) :
    Reaches env allowed start c s :=
  ⟨books, hshown ▸ .refl, hkept⟩

theorem sendError_conversation (books : Books) (phase : ConversationPhase) {text : ToClient}
    (htext : forwardedText text = none) :
    (s.sendError takes text).2.conversation books phase = s.conversation books phase := by
  unfold sendError
  split
  · simp [conversation, forwarded, List.filterMap_append, htext]
  · rfl

theorem sendError_phase (text : ToClient) : (s.sendError takes text).2.phase = s.phase := by
  unfold sendError
  split
  · rfl
  · rfl

theorem sendError_runtime (text : ToClient) : (s.sendError takes text).2.runtime = s.runtime := by
  unfold sendError
  split
  · rfl
  · rfl

theorem sendError_shown {text : ToClient} (htext : forwardedText text = none) :
    (s.sendError takes text).2.shown books = s.shown books := by
  rw [shown, sendError_phase, sendError_conversation _ _ htext, shown]

theorem sendError_kept (hkept : Kept start books s) (text : ToClient) :
    Kept start books (s.sendError takes text).2 :=
  hkept.congr (sendError_runtime text)

/-- Where a frame leaves the connection. -/
def endPhase : Result ResponsesWebSocketTurnOutcome → ConversationPhase
  | .ok outcome => if outcome.closeConnection then .closed else .waiting
  | .error _ => .closed

theorem afterFrame_ends (hkept : Kept start books s) (result : Result ResponsesWebSocketTurnOutcome) :
    Reaches env allowed start (s.conversation books (endPhase result)) (s.afterFrame takes result) := by
  cases result with
  | error error =>
    have hshown : (s.afterFrame takes (.error error)).shown books = s.conversation books .closed :=
      show (s.sendError takes (responsesWebsocketGatewayError error)).2.conversation books .closed =
        s.conversation books .closed from sendError_conversation books .closed rfl
    exact .here (sendError_kept hkept _) hshown
  | ok outcome =>
    have hnext : Kept start books (s.afterFrame takes (.ok outcome)) := hkept
    apply Reaches.here hnext
    cases hclose : outcome.closeConnection with
    | false => simp [afterFrame, endPhase, hclose, shown, shownPhase, conversation, forwarded]
    | true => simp [afterFrame, endPhase, hclose, shown, shownPhase, conversation, forwarded]

theorem endPhase_cases (result : Result ResponsesWebSocketTurnOutcome) :
    endPhase result = .waiting ∨ endPhase result = .closed := by
  cases result with
  | error error => exact .inr rfl
  | ok outcome =>
    cases hclose : outcome.closeConnection with
    | false => exact .inl (if_neg (by rw [hclose]; decide))
    | true => exact .inr (if_pos hclose)

/-- Without a turn the connection goes on waiting or is closed. -/
theorem afterFrame_reaches (hkept : Kept start books s) (result : Result ResponsesWebSocketTurnOutcome) :
    Reaches env allowed start (s.conversation books .waiting) (s.afterFrame takes result) := by
  have hends : Reaches env allowed start (s.conversation books (endPhase result)) (s.afterFrame takes result) :=
    afterFrame_ends hkept result
  rcases endPhase_cases result with hend | hend
  · rwa [hend] at hends
  · rw [hend] at hends
    exact hends.head (.close rfl)

theorem refuse_reaches (hkept : Kept start books s) {text : ToClient} (htext : forwardedText text = none)
    (outcome : ResponsesWebSocketTurnOutcome) :
    Reaches env allowed start (s.conversation books .waiting) (s.refuse takes text outcome) := by
  have hnext : Kept start books (s.sendError takes text).2 := sendError_kept hkept text
  have hsame : (s.sendError takes text).2.conversation books .waiting = s.conversation books .waiting :=
    sendError_conversation books .waiting htext
  unfold refuse
  generalize s.sendError takes text = sent at hnext hsame ⊢
  obtain ⟨result, next⟩ := sent
  rw [← hsame]
  cases result with
  | error error => exact afterFrame_reaches hnext (.error error)
  | ok _ => exact afterFrame_reaches hnext (.ok outcome)

variable (env allowed) in
/-- The end of a turn: the outcome is written, and the reservations are given back unless an error stands before that. -/
theorem endTurn_reaches (hkept : Kept start books s) (takes : ToClient → Bool) (opened : OpenTurn)
    (outcome : Result ResponsesWebSocketTurnOutcome) :
    Reaches env allowed start (s.conversation
      ⟨books.answered, books.writes ++ opened.outcomeWrites outcome ++ [.released opened]⟩ (endPhase outcome))
      (s.endTurn takes opened outcome) ∨
    ¬ opened.request.OutcomeStored outcome ∧ Reaches env allowed start
      (s.conversation ⟨books.answered, books.writes ++ opened.outcomeWrites outcome⟩ .closed)
      (s.endTurn takes opened outcome) := by
  have hcases := finishTurn_writes opened s.runtime ⟨true, .http, .ok (), outcome, .ok ()⟩
  unfold endTurn
  generalize handleResponseCreate.finishTurn opened.request ⟨true, .http, .ok (), outcome, .ok ()⟩ opened.preflight
    s.runtime = finished at hcases ⊢
  obtain ⟨result, runtime⟩ := finished
  dsimp only at hcases ⊢
  rcases hcases with ⟨rfl, hrun⟩ | ⟨⟨error, rfl⟩, hrun, hrefused⟩
  · have hwritten := Machine.run_append hkept hrun
    rw [← List.append_assoc] at hwritten
    have hnext : Kept start ⟨books.answered, books.writes ++ opened.outcomeWrites result ++ [.released opened]⟩
        { s with runtime := runtime } := hwritten
    exact .inl (afterFrame_ends hnext result)
  · have hnext : Kept start ⟨books.answered, books.writes ++ opened.outcomeWrites outcome⟩
        { s with runtime := runtime } := Machine.run_append hkept hrun
    exact .inr ⟨hrefused, afterFrame_ends hnext (.error error)⟩

theorem outcomeStored_completed {opened : OpenTurn} {body : Json}
    (hattempt : opened.request.AttemptStored) (husage : opened.request.UsageStored) :
    opened.request.OutcomeStored (.ok (.completed body)) := fun _ => ⟨hattempt, husage⟩

/-- A completed answer is accounted, then the reservations are given back, or not. -/
theorem endTurn_completed (hkept : Kept start books s) (opened : OpenTurn) {text : String} {body : Json}
    (hlast : s.forwarded.getLast? = some text)
    (hbody : responsesWebsocketCompletedResponseBody env.json text = some body) :
    Reaches env allowed start (s.conversation books (.answered opened (some (completedResponse body))))
      (s.endTurn takes opened (.ok (.completed body))) := by
  have haccount : Move env allowed (s.conversation books (.answered opened (some (completedResponse body))))
      (s.conversation ⟨books.answered, books.writes ++ opened.outcomeWrites (.ok (.completed body))⟩
        (.answered opened none)) := .account rfl
  rcases endTurn_reaches env allowed hkept takes opened (.ok (.completed body)) with hwaiting | ⟨hrefused, hclosed⟩
  · exact (hwaiting.head (.release (.inr rfl))).head haccount
  · have hleft : Refused env s.forwarded opened := by
      by_cases hattempt : opened.request.AttemptStored
      · refine .inr ⟨fun husage => hrefused (outcomeStored_completed hattempt husage), text, hlast, ?_⟩
        rw [hbody]
        rfl
      · exact .inl hattempt
    exact (hclosed.head (.closeHolding (.inr (.inr rfl)) hleft)).head haccount

/-- A turn that failed upstream: the attempt is written, the reservations are given back, or not. -/
theorem endTurn_failed (hkept : Kept start books s) (opened : OpenTurn) :
    Reaches env allowed start (s.conversation books (.answered opened none))
      (s.endTurn takes opened (.ok .failedContinue)) := by
  have hattempt : Move env allowed (s.conversation books (.answered opened none))
      (s.conversation ⟨books.answered, books.writes ++ opened.outcomeWrites (.ok .failedContinue)⟩
        (.answered opened none)) := .attempt .failed (.inr (.inr rfl))
  rcases endTurn_reaches env allowed hkept takes opened (.ok .failedContinue) with hwaiting | ⟨hrefused, hclosed⟩
  · exact (hwaiting.head (.release (.inr rfl))).head hattempt
  · have hleft : Refused env s.forwarded opened := .inl fun hstored => hrefused hstored
    exact (hclosed.head (.closeHolding (.inr (.inr rfl)) hleft)).head hattempt

/-- A turn that broke off gives back its reservations, or not, and closes the connection. -/
theorem endTurn_broken (hkept : Kept start books s) (opened : OpenTurn)
    {outcome : Result ResponsesWebSocketTurnOutcome} (hfailed : Unanswered outcome)
    (hclose : endPhase outcome = .closed) :
    Reaches env allowed start (s.conversation books (.broken opened)) (s.endTurn takes opened outcome) := by
  obtain ⟨status, hwrites⟩ := hfailed.outcomeWrites opened
  have hattempt : Move env allowed (s.conversation books (.broken opened))
      (s.conversation ⟨books.answered, books.writes ++ opened.outcomeWrites outcome⟩ (.broken opened)) := by
    rw [hwrites]
    exact .attempt status (.inr (.inl rfl))
  rcases endTurn_reaches env allowed hkept takes opened outcome with hended | ⟨hrefused, hclosed⟩
  · rw [hclose] at hended
    exact (hended.head (.releaseBroken rfl)).head hattempt
  · have hleft : Refused env s.forwarded opened := .inl fun hstored => hrefused (hfailed.attemptStored opened hstored)
    exact (hclosed.head (.closeHolding (.inr (.inl rfl)) hleft)).head hattempt

theorem endTurn_closing (hkept : Kept start books s) (opened : OpenTurn)
    {outcome : Result ResponsesWebSocketTurnOutcome} (hfailed : Unanswered outcome)
    (hclose : endPhase outcome = .closed) {phase : ConversationPhase}
    (hphase : phase = .turn opened ∨ phase = .reserved opened) :
    Reaches env allowed start (s.conversation books phase) (s.endTurn takes opened outcome) :=
  (endTurn_broken hkept opened hfailed hclose).head (.giveUp hphase)

theorem endTurn_error (hkept : Kept start books s) (opened : OpenTurn) (error : GatewayError)
    {phase : ConversationPhase} (hphase : phase = .turn opened ∨ phase = .reserved opened) :
    Reaches env allowed start (s.conversation books phase) (s.endTurn takes opened (.error error)) :=
  endTurn_closing hkept opened (unanswered_error error) rfl hphase

section Frames

variable {answers : FrameAnswers} {actor : AuthenticatedActor} {frame : ResponseCreateFrame} {opened : OpenTurn}

theorem responsesWebsocketProviderRequest_body {store : GatewayStore} {routeTarget : RuntimeRouteTarget} {rawBody : Json}
    {providerRequest : ProviderAdapterRequest}
    (h : responsesWebsocketProviderRequest env.urls store env.headers actor routeTarget rawBody = .ok providerRequest) :
    providerRequest.body = rewriteProviderModel
      (injectResponsesWebsocketPromptCacheKey rawBody (responsesWebsocketSessionId env.headers actor))
      .openAiResponses routeTarget.upstreamModelId := by
  unfold responsesWebsocketProviderRequest runtimeProviderAdapterRequest at h
  cases hendpoint : routeTarget.providerEndpoint with
  | none => simp [hendpoint] at h
  | some providerEndpoint =>
    simp only [hendpoint, Option.map_some] at h
    split at h
    · cases h
    · cases hbuild : buildProviderAdapterRequest env.urls
          ⟨.openAiResponses, providerEndpoint, routeTarget.upstreamModelId,
            runtimeProviderAdapterCredential store routeTarget⟩
          (injectResponsesWebsocketPromptCacheKey rawBody (responsesWebsocketSessionId env.headers actor)) with
      | error error =>
        rw [hbuild] at h
        cases h
      | ok request =>
        obtain ⟨url, -, -, hbody⟩ := buildProviderAdapterRequest_ok hbuild
        rw [hbuild] at h
        cases h
        exact hbody

/-- The frame that goes upstream is made from the frame of the client and from the pinned target. -/
theorem sentFor_request {store : GatewayStore} {pinned : PinnedResponsesWebSocketState} {fields : List (String × Json)}
    {providerRequest : ProviderAdapterRequest} (halias : frame.modelAlias = pinned.modelAlias)
    (hobject : frame.rawBody = .object fields)
    (h : responsesWebsocketProviderRequest env.urls store env.headers actor pinned.routeTarget frame.rawBody =
      .ok providerRequest) :
    SentFor env pinned ⟨frame, actor, pinned.routeTarget, env.json.encode providerRequest.body⟩ providerRequest.body := by
  have hbody := responsesWebsocketProviderRequest_body h
  rw [hobject] at hbody
  refine ⟨halias, rfl, rfl, ?_, ?_, ?_⟩
  · rw [hbody]
    exact lookup_insertField
  · rw [hbody]
    exact (lookup_insertField_ne (by decide)).trans lookup_insertField
  · intro key hmodel hcache
    rw [hbody, hobject]
    exact (lookup_insertField_ne hmodel).trans (lookup_insertField_ne hcache)

theorem startTurn_reaches (hkept : Kept start books s) {pinned : PinnedResponsesWebSocketState}
    (hpinned : s.pinned = some pinned) (halias : frame.modelAlias = pinned.modelAlias)
    (htarget : opened.request.routeTarget = pinned.routeTarget) {fields : List (String × Json)}
    (hobject : frame.rawBody = .object fields)
    (hallowed : ∀ text, allowed ⟨frame, actor, opened.request.routeTarget, text⟩) :
    Reaches env allowed start (s.conversation books (.reserved opened))
      (s.startTurn env takes answers actor frame opened) := by
  unfold startTurn
  dsimp only
  split
  · exact endTurn_error hkept opened _ (.inr rfl)
  · rename_i providerRequest hrequest
    split
    · exact endTurn_error hkept opened _ (.inr rfl)
    · rw [htarget] at hrequest
      have hsent := sentFor_request halias hobject hrequest
      rw [← htarget] at hsent
      let sent : SentFrame := ⟨frame, actor, opened.request.routeTarget, env.json.encode providerRequest.body⟩
      let sending : ResponsesWebSocketSession :=
        { s with
          phase := .turn opened
          upstream := s.upstream ++ [.request sent] }
      have hnext : Kept start books sending := hkept
      have hreaches : Reaches env allowed start (sending.conversation books (.turn opened)) sending := .here hnext rfl
      exact hreaches.head (.send sent _ rfl hpinned (hallowed _) hsent)

/-- A refused connection: the failed attempt is noted, then the reservations are given back. -/
theorem connectionRefused_reaches (hkept : Kept start books s) (opened : OpenTurn) (error : GatewayError) :
    Reaches env allowed start (s.conversation books (.reserved opened))
      (match recordFailedRouteAttemptForTarget opened.request s.runtime with
      | (.error recordError, runtime) => { s with runtime := runtime }.afterFrame takes (.error recordError)
      | (.ok (), runtime) =>
        { s with runtime := runtime.release opened.preflight }.refuse takes (responsesWebsocketGatewayError error)
          .continueWithoutAccounting) := by
  obtain ⟨hrun, hrefused⟩ := recordRouteAttemptForTarget_writes opened s.runtime .failed
  have hattempt : Move env allowed (s.conversation books (.reserved opened))
      (s.conversation ⟨books.answered, books.writes ++ opened.attemptWrites .failed⟩ (.reserved opened)) :=
    .attempt .failed (.inl rfl)
  unfold recordFailedRouteAttemptForTarget
  generalize recordRouteAttemptForTarget .failed opened.request s.runtime = recorded at hrun hrefused ⊢
  obtain ⟨result, runtime⟩ := recorded
  dsimp only at hrun hrefused
  have hwritten := Machine.run_append hkept hrun
  cases result with
  | error recordError =>
    have hnext : Kept start ⟨books.answered, books.writes ++ opened.attemptWrites .failed⟩
        { s with runtime := runtime } := hwritten
    have hleft : Refused env s.forwarded opened := .inl (hrefused recordError rfl)
    exact ((afterFrame_ends hnext (.error recordError)).head (.closeHolding (.inl rfl) hleft)).head hattempt
  | ok _ =>
    have hnext : Kept start ⟨books.answered, books.writes ++ opened.attemptWrites .failed ++ [.released opened]⟩
        { s with runtime := runtime.release opened.preflight } := Machine.run_append hwritten rfl
    exact ((refuse_reaches hnext rfl .continueWithoutAccounting).head (.release (.inl rfl))).head hattempt

theorem connectAndStart_reaches (hkept : Kept start books s)
    (hpinned : ∀ pinned, s.pinned = some pinned →
      frame.modelAlias = pinned.modelAlias ∧ opened.request.routeTarget = pinned.routeTarget)
    {fields : List (String × Json)} (hobject : frame.rawBody = .object fields)
    (hallowed : ∀ text, allowed ⟨frame, actor, opened.request.routeTarget, text⟩) :
    Reaches env allowed start (s.conversation books (.reserved opened))
      (s.connectAndStart env takes answers actor frame opened) := by
  unfold connectAndStart
  dsimp only
  split
  · rename_i pinned hpin
    obtain ⟨halias, htarget⟩ := hpinned pinned hpin
    exact startTurn_reaches hkept hpin halias htarget hobject hallowed
  · rename_i hpin
    split
    · have hstart : Reaches env allowed start
          ({ s with pinned := some ⟨frame.modelAlias, opened.request.routeTarget⟩ }.conversation books
            (.reserved opened))
          ({ s with pinned := some ⟨frame.modelAlias, opened.request.routeTarget⟩ }.startTurn env takes answers actor
            frame opened) := startTurn_reaches hkept rfl rfl rfl hobject hallowed
      exact hstart.head (.pin ⟨frame.modelAlias, opened.request.routeTarget⟩ rfl hpin)
    · exact connectionRefused_reaches hkept opened _

theorem admitFrame_reaches (hkept : Kept start books s) {routeTarget : RuntimeRouteTarget}
    (hpinned : ∀ pinned, s.pinned = some pinned →
      frame.modelAlias = pinned.modelAlias ∧ routeTarget = pinned.routeTarget)
    {fields : List (String × Json)} (hobject : frame.rawBody = .object fields)
    (hallowed : ∀ text, allowed ⟨frame, actor, routeTarget, text⟩) :
    Reaches env allowed start (s.conversation books .waiting)
      (s.admitFrame env takes answers actor routeTarget frame) := by
  unfold admitFrame
  dsimp only
  generalize hrequest : answers.runtimeRequest env actor routeTarget frame = request
  obtain rfl : routeTarget = request.routeTarget := by
    rw [← hrequest]
    rfl
  split
  · rename_i error policies hpreflight
    let refused : ResponsesWebSocketSession := { s with runtime := { s.runtime with policies := policies } }
    have hnext : Kept start ⟨books.answered, books.writes ++ [.refused request.preflightInput]⟩ refused := by
      refine Machine.run_append hkept ?_
      rw [Machine.run, RuntimeWrite.apply, RuntimeState.stores, hpreflight]
      rfl
    have hmove : Move env allowed (s.conversation books .waiting)
        (refused.conversation ⟨books.answered, books.writes ++ [.refused request.preflightInput]⟩ .waiting) :=
      .refuse request.preflightInput rfl
    split
    · exact (afterFrame_reaches hnext _).head hmove
    · exact (refuse_reaches hnext rfl _).head hmove
  · rename_i preflight policies hpreflight
    let opened : OpenTurn := ⟨request, preflight⟩
    let started : ResponsesWebSocketSession :=
      { s with
        runtime := { s.runtime with policies := policies }
        admitted := s.admitted ++ [opened] }
    have hnext : Kept start ⟨books.answered, books.writes ++ [.reserved opened]⟩ started := by
      refine Machine.run_append hkept ?_
      rw [Machine.run, RuntimeWrite.apply, RuntimeState.stores, hpreflight]
      simp [opened, started, Machine.run, RuntimeState.stores]
    have hstart : Reaches env allowed start
        (started.conversation ⟨books.answered, books.writes ++ [.reserved opened]⟩ (.reserved opened))
        (started.connectAndStart env takes answers actor frame opened) :=
      connectAndStart_reaches hnext hpinned hobject hallowed
    exact hstart.head (.reserve opened rfl)

/-- A frame reaches the upstream connection for an actor whose credential is accepted and who may use the target. -/
structure AllowedFrame (env : WebSocketEnv Url) (answers : FrameAnswers) (sent : SentFrame) : Prop where
  accepted : ∃ credentialed, (authenticateRequest env.auth answers.tenancy env.headers answers.requestId
    answers.traceId answers.now).1 = .ok credentialed ∧ credentialed.toAuthenticatedActor = sent.actor
  authorized : answers.authorize sent.actor sent.routeTarget.authorizationResourceId = .ok true

theorem handleFrame_reaches (hkept : Kept start books s) {fields : List (String × Json)}
    (hobject : frame.rawBody = .object fields)
    (hallowed : ∀ sent, sent.frame = frame → AllowedFrame env answers sent → allowed sent) :
    Reaches env allowed start (s.conversation books .waiting) (s.handleFrame env takes answers frame) := by
  unfold handleFrame
  by_cases hswitch : (s.pinned.any fun pinned => pinned.modelAlias != frame.modelAlias) = true
  · rw [if_pos hswitch]
    exact refuse_reaches hkept rfl _
  rw [if_neg hswitch]
  have halias : ∀ pinned, s.pinned = some pinned → frame.modelAlias = pinned.modelAlias := by
    intro pinned hpinned
    rw [hpinned, Option.any_some, bne_iff_ne, not_not] at hswitch
    exact hswitch.symm
  split
  · exact refuse_reaches hkept rfl _
  rename_i credentialed haccepted
  dsimp only
  split
  · exact afterFrame_reaches hkept _
  rename_i routeTarget htarget
  split
  · exact afterFrame_reaches hkept _
  · exact refuse_reaches hkept rfl _
  · rename_i hauthorized
    apply admitFrame_reaches hkept _ hobject
    · exact fun text => hallowed _ rfl ⟨⟨credentialed, haccepted, rfl⟩, hauthorized⟩
    · intro pinned hpinned
      rw [hpinned] at htarget
      exact ⟨halias pinned hpinned, (Except.ok.inj htarget).symm⟩

end Frames

theorem parseResponseCreateFrame_object {json : JsonText} {text : String} {frame : ResponseCreateFrame}
    (h : parseResponseCreateFrame json text = .ok frame) : ∃ fields, frame.rawBody = .object fields := by
  unfold parseResponseCreateFrame at h
  split at h
  · cases h
  · rename_i fields _
    split at h
    · cases h
    · split at h
      · cases h
      · split at h
        · cases h
        · cases h
          exact ⟨fields, rfl⟩
  · cases h

/-- A text for the client that ends nothing leaves the connection where it is. -/
theorem sendError_reaches (hkept : Kept start books s) {phase : ConversationPhase} (hphase : shownPhase s.phase = phase)
    {text : ToClient} (htext : forwardedText text = none) :
    Reaches env allowed start (s.conversation books phase) (s.sendError takes text).2 := by
  refine .here (sendError_kept hkept text) ?_
  rw [sendError_shown htext, shown, hphase]

theorem receive_reaches {answers : FrameAnswers} {message : DownstreamMessage} (hkept : Kept start books s)
    (hphase : s.phase = .waiting)
    (hallowed : ∀ text sent, message = .text text → parseResponseCreateFrame env.json text = .ok sent.frame →
      AllowedFrame env answers sent → allowed sent) :
    Reaches env allowed start (s.conversation books .waiting) (s.receive env takes answers message) := by
  have hwaiting : shownPhase s.phase = .waiting := by rw [hphase, shownPhase]
  cases message with
  | text text =>
    dsimp only [receive]
    split
    · rename_i frame hframe
      obtain ⟨fields, hobject⟩ := parseResponseCreateFrame_object hframe
      exact handleFrame_reaches hkept hobject fun sent hsent hauthentic =>
        hallowed text sent rfl (hsent ▸ hframe) hauthentic
    · exact sendError_reaches hkept hwaiting rfl
  | ping =>
    have hpong : Reaches env allowed start (s.conversation books .waiting) (s.sendError takes .pong).2 :=
      sendError_reaches hkept hwaiting rfl
    have hnext : Kept start books (s.sendError takes .pong).2 := sendError_kept hkept .pong
    have hclosing : (s.sendError takes .pong).2.conversation books .closed = s.conversation books .closed :=
      sendError_conversation books .closed rfl
    dsimp only [receive]
    generalize s.sendError takes .pong = sent at hpong hnext hclosing ⊢
    obtain ⟨result, next⟩ := sent
    cases result with
    | ok _ => exact hpong
    | error error =>
      have hclosed : Reaches env allowed start (s.conversation books .closed) { next with phase := .closed } :=
        .here hnext hclosing
      exact hclosed.head (.close rfl)
  | pong => exact .here hkept (congrArg (s.conversation books ·) hwaiting)
  | binary => exact sendError_reaches hkept hwaiting rfl
  | closed =>
    have hclosed : Reaches env allowed start (s.conversation books .closed) { s with phase := .closed } :=
      .here hkept rfl
    exact hclosed.head (.close rfl)

section Turn

variable {opened : OpenTurn}

/-- A text inside a turn: the turn goes on if it was taken, and is closed else. -/
theorem sendInTurn_reaches (hkept : Kept start books s) (hphase : s.phase = .turn opened) {text : ToClient}
    (htext : forwardedText text = none) {ending : GatewayError → Result ResponsesWebSocketTurnOutcome}
    (hfailed : ∀ error, Unanswered (ending error)) (hclose : ∀ error, endPhase (ending error) = .closed) :
    Reaches env allowed start (s.conversation books (.turn opened))
      (match s.sendError takes text with
      | (.ok (), s) => s
      | (.error error, s) => s.endTurn takes opened (ending error)) := by
  have hgoes : Reaches env allowed start (s.conversation books (.turn opened)) (s.sendError takes text).2 :=
    sendError_reaches hkept (by rw [hphase, shownPhase]) htext
  have hnext : Kept start books (s.sendError takes text).2 := sendError_kept hkept text
  have hsame : (s.sendError takes text).2.conversation books (.turn opened) = s.conversation books (.turn opened) :=
    sendError_conversation books (.turn opened) htext
  generalize s.sendError takes text = sent at hgoes hnext hsame ⊢
  obtain ⟨result, next⟩ := sent
  cases result with
  | ok _ => exact hgoes
  | error error =>
    rw [← hsame]
    exact endTurn_closing hnext opened (hfailed error) (hclose error) (.inl rfl)

theorem receiveInTurn_reaches (hkept : Kept start books s) (hphase : s.phase = .turn opened)
    (message : DownstreamMessage) :
    Reaches env allowed start (s.conversation books (.turn opened)) (s.receiveInTurn takes opened message) := by
  cases message with
  | text text => exact sendInTurn_reaches hkept hphase rfl unanswered_error fun _ => rfl
  | binary => exact sendInTurn_reaches hkept hphase rfl unanswered_error fun _ => rfl
  | ping => exact sendInTurn_reaches hkept hphase rfl (fun _ => unanswered_disconnected) fun _ => rfl
  | pong => exact .here hkept (congrArg (fun phase => s.conversation books (shownPhase phase)) hphase)
  | closed => exact endTurn_closing hkept opened unanswered_disconnected rfl (.inl rfl)

theorem timeOut_reaches (hkept : Kept start books s) :
    Reaches env allowed start (s.conversation books (.turn opened)) (s.timeOut takes opened) := by
  unfold timeOut
  have hsent (text : ToClient) (htext : forwardedText text = none) :
      (s.sendError takes text).2.conversation books (.turn opened) = s.conversation books (.turn opened) ∧
        Kept start books (s.sendError takes text).2 :=
    ⟨sendError_conversation books (.turn opened) htext, sendError_kept hkept text⟩
  obtain ⟨hsame, hnext⟩ :=
    hsent (.error "upstream_timeout" "Timed out waiting for upstream Responses WebSocket event.") rfl
  generalize s.sendError takes _ = sent at hsame hnext ⊢
  obtain ⟨result, next⟩ := sent
  rw [← hsame]
  cases result with
  | error error => exact endTurn_error hnext opened error (.inl rfl)
  | ok _ => exact endTurn_closing hnext opened unanswered_failedAndClose rfl (.inl rfl)

/-- A text that arrives is delivered and closes the turn by its type, or is lost and breaks the turn off. -/
theorem forward_reaches (hkept : Kept start books s) (hphase : s.phase = .turn opened) (text : String) :
    Reaches env allowed start (s.conversation books (.turn opened)) (s.forward env takes opened text) := by
  unfold forward sendError
  dsimp only
  cases htakes : takes (.forwarded text) with
  | false =>
    let lost : ResponsesWebSocketSession := { s with upstream := s.upstream ++ [Item.message text] }
    have hnext : Kept start books lost := hkept
    have hbroken : Reaches env allowed start (lost.conversation books (.broken opened))
        (lost.endTurn takes opened (.ok .disconnectedClient)) :=
      endTurn_broken hnext opened unanswered_disconnected rfl
    exact hbroken.head (.lose text rfl)
  | true =>
    rw [if_pos rfl]
    dsimp only
    set delivered : ResponsesWebSocketSession := { s with
      upstream := s.upstream ++ [Item.message text]
      toClient := s.toClient ++ [ToClient.forwarded text] } with hdelivered
    let given : Books :=
      ⟨books.answered ++ (completedBodies env [text]).map fun body => (opened, completedResponse body), books.writes⟩
    have hnext : Kept start given delivered := hkept
    have hforwarded : delivered.forwarded = s.forwarded ++ [text] := by
      simp only [hdelivered, forwarded, List.filterMap_append, List.filterMap_cons, List.filterMap_nil, forwardedText]
    have hmove : Move env allowed (s.conversation books (.turn opened))
        { s.conversation books (.turn opened) with
          phase := answeredPhase env opened text
          upstream := s.upstream ++ [Item.message text]
          forwarded := s.forwarded ++ [text]
          answered := given.answered } := .deliver text rfl
    rw [← hforwarded] at hmove
    unfold answeredPhase at hmove
    split
    · rename_i body hbody
      rw [hbody] at hmove
      have hlast : delivered.forwarded.getLast? = some text := by rw [hforwarded, List.getLast?_concat]
      exact (endTurn_completed hnext opened hlast hbody).head hmove
    · rename_i hbody
      rw [hbody] at hmove
      split
      · rename_i hterminal
        rw [if_pos hterminal] at hmove
        exact (endTurn_failed hnext opened).head hmove
      · rename_i hterminal
        rw [if_neg hterminal] at hmove
        have hturn : shownPhase delivered.phase = .turn opened := by
          rw [show delivered.phase = .turn opened from hphase, shownPhase]
        have hgoes : Reaches env allowed start (delivered.conversation given (.turn opened)) delivered :=
          .here hnext (congrArg (delivered.conversation given ·) hturn)
        exact hgoes.head hmove

theorem receiveUpstream_reaches (hkept : Kept start books s) (hphase : s.phase = .turn opened)
    (message : UpstreamMessage) :
    Reaches env allowed start (s.conversation books (.turn opened)) (s.receiveUpstream env takes opened message) := by
  cases message with
  | text text => exact forward_reaches hkept hphase text
  | close | ended => exact endTurn_closing hkept opened unanswered_failedAndClose rfl (.inl rfl)
  | failed reason => exact endTurn_error hkept opened _ (.inl rfl)

end Turn

/-- The frame came from the client in this event. -/
def Requested (env : WebSocketEnv Url) (event : WebSocketEvent) (sent : SentFrame) : Prop :=
  ∃ text takes answers, event = .downstream (.text text) takes answers ∧
    parseResponseCreateFrame env.json text = .ok sent.frame ∧ AllowedFrame env answers sent

end ResponsesWebSocketSession

/-- What an event says the other requests have made of the stores. -/
def WebSocketEvent.elsewhereStores : WebSocketEvent → Option RuntimeStores
  | .elsewhere stores => some stores
  | _ => none

def Books.after (event : WebSocketEvent) (books : Books) : Books :=
  { books with writes := books.writes ++ event.elsewhereStores.toList.map .elsewhere }

namespace ResponsesWebSocketSession

/-- Every step of a connection is a chain of moves. -/
theorem step_reaches (hkept : Kept start books s) {event : WebSocketEvent} {next : ResponsesWebSocketSession}
    (h : s.step env event = some next) (hallowed : ∀ sent, Requested env event sent → allowed sent) :
    Reaches env allowed start (s.shown (books.after event)) next := by
  have hwaiting (books : Books) (hphase : s.phase = .waiting) : s.shown books = s.conversation books .waiting := by
    rw [shown, hphase, shownPhase]
  have hturn (books : Books) (opened : OpenTurn) (hphase : s.phase = .turn opened) :
      s.shown books = s.conversation books (.turn opened) := by rw [shown, hphase, shownPhase]
  have hafter (hown : event.elsewhereStores = none) : books.after event = books := by
    rw [Books.after, hown]
    exact congrArg (Books.mk books.answered) (List.append_nil books.writes)
  unfold step at h
  split at h
  · rename_i stores
    cases h
    have hwritten : Machine.run RuntimeWrite.apply start (books.writes ++ [.elsewhere stores]) = some stores :=
      Machine.run_append hkept rfl
    have hnext : Kept start (books.after (.elsewhere stores))
        { s with runtime := ⟨stores.policies, stores.usage, stores.routeAttempts, s.runtime.released⟩ } := hwritten
    exact .here hnext rfl
  · rename_i message takes answers hphase
    cases h
    rw [hafter rfl, hwaiting books hphase]
    refine receive_reaches hkept hphase fun text sent hmessage hframe hauthentic => hallowed sent ?_
    exact ⟨text, takes, answers, by rw [hmessage], hframe, hauthentic⟩
  · rename_i takes hphase
    cases h
    have hshown : { (s.sendError takes (.error "idle_timeout" "Responses WebSocket idle timeout exceeded.")).2 with
        phase := SessionPhase.closed }.shown books = s.conversation books .closed :=
      sendError_conversation books .closed rfl
    have hclosed : Reaches env allowed start (s.conversation books .closed)
        { (s.sendError takes (.error "idle_timeout" "Responses WebSocket idle timeout exceeded.")).2 with
          phase := SessionPhase.closed } := .here (sendError_kept hkept _) hshown
    rw [hafter rfl, hwaiting books hphase]
    exact hclosed.head (.close rfl)
  · rename_i hphase
    cases h
    have hclosed : Reaches env allowed start (s.conversation books .closed) { s with phase := .closed } :=
      .here hkept rfl
    rw [hafter rfl, hwaiting books hphase]
    exact hclosed.head (.close rfl)
  · rename_i opened message takes _ hphase
    cases h
    rw [hafter rfl, hturn books opened hphase]
    exact receiveInTurn_reaches hkept hphase message
  · rename_i opened message takes hphase
    cases h
    rw [hafter rfl, hturn books opened hphase]
    exact receiveUpstream_reaches hkept hphase message
  · rename_i opened takes hphase
    cases h
    rw [hafter rfl, hturn books opened hphase]
    exact timeOut_reaches hkept
  · cases h

end ResponsesWebSocketSession

end Simulation

section Invariant

variable {Url : Type} {env : WebSocketEnv Url} {allowed : SentFrame → Prop} {c next : Conversation}
  {awaiting : Bool} {pending : List (OpenTurn × RuntimeIngressResponse)} {held : Option OpenTurn} {opened : OpenTurn}
  {others : List RuntimeWrite}

/-- The answers that become usage events. -/
def recorded (answers : List (OpenTurn × RuntimeIngressResponse)) : List (OpenTurn × RuntimeIngressResponse) :=
  answers.filter fun answer => answer.1.request.recordsUsage

/-- Whole turns, every text delivered, every recorded answer written but for a pending one. -/
structure InStep (env : WebSocketEnv Url) (c : Conversation) (awaiting : Bool)
    (pending : List (OpenTurn × RuntimeIngressResponse)) : Prop where
  turns : Turns (isTerminal env.json) c.upstream awaiting
  forwarded : c.forwarded = messages c.upstream
  accounted : accountedAnswers c.writes ++ recorded pending = recorded c.answered

/-- The same but for a turn that broke off and one text that was lost with it. -/
structure BrokenOff (env : WebSocketEnv Url) (c : Conversation) : Prop where
  turns : ∃ awaiting, Turns (isTerminal env.json) c.upstream awaiting
  forwarded : ∃ lost, c.forwarded ++ lost = messages c.upstream ∧ lost.length ≤ 1
  accounted : accountedAnswers c.writes = recorded c.answered

/-- Of all that was reserved the reservations of one frame are left, and answers went to these turns only. -/
structure Holds (c : Conversation) (held : Option OpenTurn) (turns : List OpenTurn) : Prop where
  ledger : Ledger none c.writes held
  answered : (c.answered.map (·.1)).Sublist turns

def PhaseInvariant (env : WebSocketEnv Url) (c : Conversation) : Prop :=
  match c.phase with
  | .waiting => InStep env c false [] ∧ Holds c none c.admitted
  | .reserved opened => InStep env c false [] ∧ Holds c (some opened) (releasedTurns c.writes)
  | .turn opened => InStep env c true [] ∧ Holds c (some opened) (releasedTurns c.writes)
  | .answered opened response =>
    InStep env c false (response.map (opened, ·)).toList ∧ Holds c (some opened) c.admitted
  | .broken opened => BrokenOff env c ∧ Holds c (some opened) c.admitted
  | .closed => BrokenOff env c ∧
    ∃ held, Holds c held c.admitted ∧ ∀ opened, held = some opened → Refused env c.forwarded opened

structure ConversationInvariant (env : WebSocketEnv Url) (allowed : SentFrame → Prop) (c : Conversation) : Prop where
  sent : ∀ sent ∈ requests c.upstream, allowed sent ∧
    ∃ pinned body, c.pinned = some pinned ∧ SentFor env pinned sent body
  reserved : reservedTurns c.writes = c.admitted
  answers : c.answered.map (·.2) = (completedBodies env c.forwarded).map completedResponse
  phase : PhaseInvariant env c

theorem completedBodies_append (texts more : List String) :
    completedBodies env (texts ++ more) = completedBodies env texts ++ completedBodies env more :=
  List.filterMap_append ..

theorem recorded_append (answers more : List (OpenTurn × RuntimeIngressResponse)) :
    recorded (answers ++ more) = recorded answers ++ recorded more := List.filter_append ..

theorem messages_request (items : List (Item SentFrame String)) (sent : SentFrame) :
    messages (items ++ [.request sent]) = messages items := by
  rw [messages_append]
  exact List.append_nil _

theorem messages_message (items : List (Item SentFrame String)) (text : String) :
    messages (items ++ [.message text]) = messages items ++ [text] := messages_append ..

theorem accounted_append {writes : List RuntimeWrite} (hnone : accountedAnswers others = []) :
    accountedAnswers (writes ++ others) = accountedAnswers writes := by
  rw [accountedAnswers_append, hnone, List.append_nil]

theorem InStep.brokenOff (h : InStep env c awaiting []) : BrokenOff env c :=
  ⟨⟨awaiting, h.turns⟩, ⟨[], by rw [List.append_nil, h.forwarded], Nat.zero_le 1⟩,
    (List.append_nil _).symm.trans h.accounted⟩

theorem InStep.writing (h : InStep env c awaiting pending) (hnone : accountedAnswers others = [])
    (phase : ConversationPhase) (admitted : List OpenTurn) :
    InStep env { c with phase := phase, admitted := admitted, writes := c.writes ++ others } awaiting pending :=
  ⟨h.turns, h.forwarded, (congrArg (· ++ recorded pending) (accounted_append hnone)).trans h.accounted⟩

theorem BrokenOff.writing (h : BrokenOff env c) (hnone : accountedAnswers others = []) (phase : ConversationPhase) :
    BrokenOff env { c with phase := phase, writes := c.writes ++ others } :=
  ⟨h.turns, h.forwarded, (accounted_append hnone).trans h.accounted⟩

/-- What was reserved has been released, but for the reservations that are left. -/
theorem Holds.admitted {turns : List OpenTurn} (h : Holds c held turns) (hreserved : reservedTurns c.writes = c.admitted) :
    c.admitted = releasedTurns c.writes ++ held.toList :=
  hreserved.symm.trans h.ledger.reserved_eq

theorem Holds.overall (h : Holds c held (releasedTurns c.writes)) (hreserved : reservedTurns c.writes = c.admitted) :
    Holds c held c.admitted :=
  ⟨h.ledger, h.answered.trans (h.admitted hreserved ▸ List.sublist_append_left _ _)⟩

theorem InStep.deliver (h : InStep env c true []) (opened : OpenTurn) (text : String) (phase : ConversationPhase) :
    InStep env { c with
      phase := phase
      upstream := c.upstream ++ [.message text]
      forwarded := c.forwarded ++ [text]
      answered := c.answered ++ (completedBodies env [text]).map fun body => (opened, completedResponse body) }
      (!isTerminal env.json text) ((completedBodies env [text]).map fun body => (opened, completedResponse body)) := by
  refine ⟨h.turns.message text, ?_, ?_⟩
  · exact (congrArg (· ++ [text]) h.forwarded).trans (messages_message _ text).symm
  · have haccounted : accountedAnswers c.writes = recorded c.answered := h.brokenOff.accounted
    dsimp only
    rw [recorded_append, haccounted]

/-- A completed answer goes to the frame that is open, the last one admitted. -/
theorem Holds.deliver (h : Holds c (some opened) (releasedTurns c.writes))
    (hreserved : reservedTurns c.writes = c.admitted) (body : Json) :
    ((c.answered ++ [(opened, completedResponse body)]).map (·.1)).Sublist c.admitted := by
  rw [h.admitted hreserved, List.map_append]
  exact h.answered.append (List.Sublist.refl [opened])

theorem Move.phaseInvariant (hmove : Move env allowed c next) (hreserved : reservedTurns c.writes = c.admitted)
    (h : PhaseInvariant env c) : PhaseInvariant env next := by
  unfold PhaseInvariant at h
  cases hmove with
  | refuse input hphase =>
    rw [hphase] at h
    obtain ⟨hstep, hholds⟩ := h
    unfold PhaseInvariant
    dsimp only
    rw [hphase]
    exact ⟨⟨hstep.turns, hstep.forwarded, (hstep.writing rfl .waiting c.admitted).accounted⟩,
      hholds.ledger.concat (.refused input), hholds.answered⟩
  | reserve opened hphase =>
    rw [hphase] at h
    obtain ⟨hstep, hholds⟩ := h
    have hreleased : c.admitted = releasedTurns (c.writes ++ [.reserved opened]) :=
      (hholds.admitted hreserved).trans (releasedTurns_append c.writes [.reserved opened]).symm
    exact ⟨hstep.writing rfl _ _, hholds.ledger.concat (.reserved opened), hreleased ▸ hholds.answered⟩
  | @pin opened pinned hphase hfirst =>
    rw [hphase] at h
    unfold PhaseInvariant
    dsimp only
    rw [hphase]
    exact ⟨⟨h.1.turns, h.1.forwarded, h.1.accounted⟩, h.2.ledger, h.2.answered⟩
  | send sent body hphase hpinned hallowed hsent =>
    rw [hphase] at h
    obtain ⟨hstep, hholds⟩ := h
    exact ⟨⟨hstep.turns.request sent, hstep.forwarded.trans (messages_request _ sent).symm, hstep.accounted⟩,
      hholds.ledger, hholds.answered⟩
  | @deliver opened text hphase =>
    rw [hphase] at h
    obtain ⟨hstep, hholds⟩ := h
    have hnext := hstep.deliver opened text (answeredPhase env opened text)
    unfold PhaseInvariant
    dsimp only
    unfold answeredPhase isTerminal completedBodies at *
    cases hbody : responsesWebsocketCompletedResponseBody env.json text with
    | some body =>
      simp only [hbody, List.filterMap_cons, List.filterMap_nil] at hnext ⊢
      exact ⟨hnext, hholds.ledger, hholds.deliver hreserved body⟩
    | none =>
      simp only [hbody, List.filterMap_cons, List.filterMap_nil, List.map_nil, List.append_nil] at hnext ⊢
      cases hterminal : responsesWebsocketTerminalError env.json text with
      | true =>
        rw [hterminal] at hnext
        exact ⟨hnext, hholds.ledger, (hholds.overall hreserved).answered⟩
      | false =>
        rw [hterminal] at hnext
        exact ⟨hnext, hholds.ledger, hholds.answered⟩
  | lose text hphase =>
    rw [hphase] at h
    obtain ⟨hstep, hholds⟩ := h
    refine ⟨⟨⟨_, hstep.turns.message text⟩, ⟨[text], ?_, le_refl 1⟩, hstep.brokenOff.accounted⟩, hholds.ledger,
      (hholds.overall hreserved).answered⟩
    exact (congrArg (· ++ [text]) hstep.forwarded).trans (messages_message _ text).symm
  | giveUp hphase =>
    rcases hphase with hphase | hphase
    all_goals
      rw [hphase] at h
      have hbroken := h.1.brokenOff
      exact ⟨⟨hbroken.turns, hbroken.forwarded, hbroken.accounted⟩, h.2.ledger, (h.2.overall hreserved).answered⟩
  | @attempt opened status hphase =>
    have hnone := opened.accountedAnswers_attemptWrites status
    have hledger : Ledger (some opened) (opened.attemptWrites status) (some opened) :=
      .of_inTurn (opened.attemptWrites_inTurn status)
    have hreleased : releasedTurns (c.writes ++ opened.attemptWrites status) = releasedTurns c.writes := by
      rw [releasedTurns_append, releasedTurns_of_inTurn (opened.attemptWrites_inTurn status), List.append_nil]
    unfold PhaseInvariant
    dsimp only
    rcases hphase with hphase | hphase | hphase
    · rw [hphase] at h ⊢
      exact ⟨h.1.writing hnone _ _, h.2.ledger.append hledger, hreleased.symm ▸ h.2.answered⟩
    · rw [hphase] at h ⊢
      exact ⟨h.1.writing hnone _, h.2.ledger.append hledger, h.2.answered⟩
    · rw [hphase] at h ⊢
      exact ⟨h.1.writing hnone _ _, h.2.ledger.append hledger, h.2.answered⟩
  | @account opened response hphase =>
    rw [hphase] at h
    obtain ⟨hstep, hholds⟩ := h
    have haccounted := hstep.accounted
    have hledger : Ledger (some opened) (opened.successWrites response) (some opened) :=
      .of_inTurn (opened.successWrites_inTurn response)
    refine ⟨⟨hstep.turns, hstep.forwarded, ?_⟩, hholds.ledger.append hledger, hholds.answered⟩
    dsimp only
    rw [accountedAnswers_append, opened.accountedAnswers_successWrites response]
    exact (List.append_nil _).trans haccounted
  | @release opened hphase =>
    have hstep : InStep env { c with phase := .waiting, writes := c.writes ++ [.released opened] } false [] := by
      rcases hphase with hphase | hphase
      · rw [hphase] at h
        exact h.1.writing rfl _ _
      · rw [hphase] at h
        exact h.1.writing rfl _ _
    have hholds : Holds c (some opened) c.admitted := by
      rcases hphase with hphase | hphase
      · rw [hphase] at h
        exact h.2.overall hreserved
      · rw [hphase] at h
        exact h.2
    exact ⟨hstep, hholds.ledger.concat (.released opened), hholds.answered⟩
  | @releaseBroken opened hphase =>
    rw [hphase] at h
    exact ⟨h.1.writing rfl _, none, ⟨h.2.ledger.concat (.released opened), h.2.answered⟩, fun _ h => by cases h⟩
  | close hphase =>
    rw [hphase] at h
    have hbroken := h.1.brokenOff
    exact ⟨⟨hbroken.turns, hbroken.forwarded, hbroken.accounted⟩, none, ⟨h.2.ledger, h.2.answered⟩,
      fun _ h => by cases h⟩
  | @closeHolding opened hphase hrefused =>
    have hkept : BrokenOff env c ∧ Holds c (some opened) c.admitted := by
      rcases hphase with hphase | hphase | hphase
      · rw [hphase] at h
        exact ⟨h.1.brokenOff, h.2.overall hreserved⟩
      · rw [hphase] at h
        exact h
      · rw [hphase] at h
        exact ⟨h.1.brokenOff, h.2⟩
    refine ⟨⟨hkept.1.turns, hkept.1.forwarded, hkept.1.accounted⟩, some opened, ⟨hkept.2.ledger, hkept.2.answered⟩, ?_⟩
    intro other hother
    cases hother
    exact hrefused

theorem Move.pinned (hmove : Move env allowed c next) {pinned : PinnedResponsesWebSocketState}
    (hpinned : c.pinned = some pinned) : next.pinned = some pinned := by
  cases hmove with
  | pin other hphase hfirst => cases hpinned.symm.trans hfirst
  | refuse | reserve | send | deliver | lose | giveUp | attempt | account | release | releaseBroken | close
  | closeHolding => exact hpinned

theorem Move.sent (hmove : Move env allowed c next)
    (h : ∀ sent ∈ requests c.upstream, allowed sent ∧ ∃ pinned body, c.pinned = some pinned ∧ SentFor env pinned sent body) :
    ∀ sent ∈ requests next.upstream, allowed sent ∧
      ∃ pinned body, next.pinned = some pinned ∧ SentFor env pinned sent body := by
  have hkept : ∀ sent ∈ requests c.upstream, allowed sent ∧
      ∃ pinned body, next.pinned = some pinned ∧ SentFor env pinned sent body := by
    intro sent hmem
    obtain ⟨hallowed, pinned, body, hpinned, hsent⟩ := h sent hmem
    exact ⟨hallowed, pinned, body, hmove.pinned hpinned, hsent⟩
  cases hmove with
  | @send opened pinned sent body hphase hpinned hallowed hsent =>
    intro other hmem
    rw [requests_append, List.mem_append] at hmem
    rcases hmem with hmem | hmem
    · exact hkept other hmem
    · obtain rfl : other = sent := by simpa [requests] using hmem
      exact ⟨hallowed, pinned, body, hpinned, hsent⟩
  | deliver text hphase =>
    intro sent hmem
    apply hkept
    simpa [requests] using hmem
  | lose text hphase =>
    intro sent hmem
    apply hkept
    simpa [requests] using hmem
  | refuse | reserve | pin | giveUp | attempt | account | release | releaseBroken | close | closeHolding => exact hkept

theorem Move.elsewheres (hmove : Move env allowed c next) : elsewheres next.writes = elsewheres c.writes := by
  have hwritten {others : List RuntimeWrite} (hnone : Gateway.elsewheres others = []) :
      Gateway.elsewheres (c.writes ++ others) = Gateway.elsewheres c.writes := by
    rw [elsewheres_append, hnone, List.append_nil]
  cases hmove with
  | refuse | reserve | release | releaseBroken => exact hwritten rfl
  | @attempt opened status => exact hwritten (elsewheres_of_inTurn (opened.attemptWrites_inTurn status))
  | @account opened response => exact hwritten (elsewheres_of_inTurn (opened.successWrites_inTurn response))
  | pin | send | deliver | lose | giveUp | close | closeHolding => rfl

theorem Move.reserved (hmove : Move env allowed c next) (h : reservedTurns c.writes = c.admitted) :
    reservedTurns next.writes = next.admitted := by
  have hwritten {others : List RuntimeWrite} (hnone : reservedTurns others = []) :
      reservedTurns (c.writes ++ others) = c.admitted := by
    rw [reservedTurns_append, hnone, List.append_nil, h]
  cases hmove with
  | reserve opened hphase => exact (reservedTurns_append ..).trans (congrArg (· ++ [opened]) h)
  | refuse | release | releaseBroken => exact hwritten rfl
  | @attempt opened status => exact hwritten (reservedTurns_of_inTurn (opened.attemptWrites_inTurn status))
  | @account opened response => exact hwritten (reservedTurns_of_inTurn (opened.successWrites_inTurn response))
  | pin | send | deliver | lose | giveUp | close | closeHolding => exact h

theorem Move.answers (hmove : Move env allowed c next)
    (h : c.answered.map (·.2) = (completedBodies env c.forwarded).map completedResponse) :
    next.answered.map (·.2) = (completedBodies env next.forwarded).map completedResponse := by
  cases hmove with
  | deliver text hphase =>
    dsimp only
    rw [List.map_append, h, completedBodies_append, List.map_append, List.map_map]
    rfl
  | refuse | reserve | pin | send | lose | giveUp | attempt | account | release | releaseBroken | close
  | closeHolding => exact h

theorem Move.invariant (hmove : Move env allowed c next) (h : ConversationInvariant env allowed c) :
    ConversationInvariant env allowed next :=
  ⟨hmove.sent h.sent, hmove.reserved h.reserved, hmove.answers h.answers, hmove.phaseInvariant h.reserved h.phase⟩

theorem ConversationInvariant.mono {wider : SentFrame → Prop} (hwider : ∀ sent, allowed sent → wider sent)
    (h : ConversationInvariant env allowed c) : ConversationInvariant env wider c :=
  ⟨fun sent hmem => ⟨hwider sent (h.sent sent hmem).1, (h.sent sent hmem).2⟩, h.reserved, h.answers, h.phase⟩

/-- The other requests write nothing that stands for a frame of this connection. -/
theorem PhaseInvariant.elsewhere (h : PhaseInvariant env c) (stores : RuntimeStores) :
    PhaseInvariant env { c with writes := c.writes ++ [.elsewhere stores] } := by
  have hledger {held : Option OpenTurn} (hkept : Ledger none c.writes held) :
      Ledger none (c.writes ++ [.elsewhere stores]) held := hkept.concat (.elsewhere stores held)
  have hreleased : releasedTurns c.writes = releasedTurns (c.writes ++ [.elsewhere stores]) := by
    rw [releasedTurns_append]
    exact (List.append_nil _).symm
  unfold PhaseInvariant at h ⊢
  dsimp only
  cases hphase : c.phase with
  | waiting =>
    rw [hphase] at h
    exact ⟨h.1.writing rfl _ _, hledger h.2.ledger, h.2.answered⟩
  | reserved opened =>
    rw [hphase] at h
    exact ⟨h.1.writing rfl _ _, hledger h.2.ledger, hreleased ▸ h.2.answered⟩
  | turn opened =>
    rw [hphase] at h
    exact ⟨h.1.writing rfl _ _, hledger h.2.ledger, hreleased ▸ h.2.answered⟩
  | answered opened response =>
    rw [hphase] at h
    exact ⟨h.1.writing rfl _ _, hledger h.2.ledger, h.2.answered⟩
  | broken opened =>
    rw [hphase] at h
    exact ⟨h.1.writing rfl _, hledger h.2.ledger, h.2.answered⟩
  | closed =>
    rw [hphase] at h
    obtain ⟨hbroken, held, hholds, hrefused⟩ := h
    exact ⟨hbroken.writing rfl _, held, ⟨hledger hholds.ledger, hholds.answered⟩, hrefused⟩

theorem ConversationInvariant.elsewhere (h : ConversationInvariant env allowed c) (stores : RuntimeStores) :
    ConversationInvariant env allowed { c with writes := c.writes ++ [.elsewhere stores] } := by
  refine ⟨h.sent, ?_, h.answers, h.phase.elsewhere stores⟩
  rw [reservedTurns_append]
  exact (List.append_nil _).trans h.reserved

theorem ConversationInvariant.after {s : ResponsesWebSocketSession} {books : Books}
    (h : ConversationInvariant env allowed (s.shown books)) (event : WebSocketEvent) :
    ConversationInvariant env allowed (s.shown (books.after event)) := by
  unfold Books.after
  cases event.elsewhereStores with
  | none => exact (List.append_nil books.writes).symm ▸ h
  | some stores => exact h.elsewhere stores

theorem ConversationInvariant.moves (h : ConversationInvariant env allowed c)
    (hmoves : ReflTransGen (Move env allowed) c next) :
    ConversationInvariant env allowed next ∧ elsewheres next.writes = elsewheres c.writes := by
  induction hmoves with
  | refl => exact ⟨h, rfl⟩
  | tail _ hmove ih => exact ⟨hmove.invariant ih.1, hmove.elsewheres.trans ih.2⟩

end Invariant

section Runs

variable {Url : Type} {env : WebSocketEnv Url} {runtime : RuntimeState} {events : List WebSocketEvent}
  {s : ResponsesWebSocketSession}

namespace ResponsesWebSocketSession

/-- The frame came from the client in one of the events. -/
def RequestedIn (env : WebSocketEnv Url) (events : List WebSocketEvent) (sent : SentFrame) : Prop :=
  ∃ event ∈ events, Requested env event sent

/-- What a run from these stores has left: the books say what was written, by this connection and by the others. -/
structure Recorded (env : WebSocketEnv Url) (start : RuntimeStores) (events : List WebSocketEvent)
    (s : ResponsesWebSocketSession) (books : Books) : Prop where
  kept : Kept start books s
  others : elsewheres books.writes = events.filterMap WebSocketEvent.elsewhereStores
  invariant : ConversationInvariant env (RequestedIn env events) (s.shown books)

theorem Recorded.next {start : RuntimeStores} {books : Books} (h : Recorded env start events s books)
    {event : WebSocketEvent} {next : ResponsesWebSocketSession} (hstep : s.step env event = some next) :
    ∃ books, Recorded env start (events ++ [event]) next books := by
  have hwider : ∀ sent, RequestedIn env events sent → RequestedIn env (events ++ [event]) sent := by
    rintro sent ⟨other, hmem, hrequested⟩
    exact ⟨other, List.mem_append_left _ hmem, hrequested⟩
  have hallowed : ∀ sent, Requested env event sent → RequestedIn env (events ++ [event]) sent := fun sent hrequested =>
    ⟨event, List.mem_append_right _ List.mem_cons_self, hrequested⟩
  obtain ⟨later, hmoves, hkept⟩ := step_reaches h.kept hstep hallowed
  obtain ⟨hinvariant, hothers⟩ := ((h.invariant.mono hwider).after event).moves hmoves
  refine ⟨later, hkept, hothers.trans ?_, hinvariant⟩
  have hown : elsewheres (event.elsewhereStores.toList.map RuntimeWrite.elsewhere) = event.elsewhereStores.toList := by
    cases event.elsewhereStores <;> rfl
  have hevent : [event].filterMap WebSocketEvent.elsewhereStores = event.elsewhereStores.toList := by
    rw [List.filterMap_cons, List.filterMap_nil]
    cases event.elsewhereStores <;> rfl
  calc elsewheres (books.writes ++ event.elsewhereStores.toList.map RuntimeWrite.elsewhere)
      _ = elsewheres books.writes ++ event.elsewhereStores.toList := by rw [elsewheres_append, hown]
      _ = (events ++ [event]).filterMap WebSocketEvent.elsewhereStores := by rw [List.filterMap_append, hevent, h.others]

theorem Recorded.run {start : RuntimeStores} {first : ResponsesWebSocketSession} {earlier : List WebSocketEvent}
    {books : Books} (h : Recorded env start earlier first books)
    (hrun : Machine.run (step env) first events = some s) : ∃ books, Recorded env start (earlier ++ events) s books := by
  induction events generalizing first earlier books with
  | nil =>
    cases hrun
    exact ⟨books, (List.append_nil earlier).symm ▸ h⟩
  | cons event events ih =>
    obtain ⟨next, hnext, hrest⟩ := Machine.run_cons hrun
    obtain ⟨later, hlater⟩ := h.next hnext
    have hfinal := ih hlater hrest
    rwa [List.append_assoc] at hfinal

theorem new_recorded (runtime : RuntimeState) : Recorded env runtime.stores [] (new runtime) ⟨[], []⟩ where
  kept := rfl
  others := rfl
  invariant :=
    { sent := fun sent hmem => by cases hmem
      reserved := rfl
      answers := rfl
      phase := ⟨⟨rfl, rfl, rfl⟩, .nil none, List.Sublist.refl []⟩ }

theorem run_new (hrun : Machine.run (step env) (new runtime) events = some s) :
    ∃ books, Recorded env runtime.stores events s books :=
  (new_recorded runtime).run hrun

/-- All frames of a connection go to the one target it is pinned to, each from a client whose credential was accepted
for that very frame. -/
theorem sentFrames_pinned (hrun : Machine.run (step env) (new runtime) events = some s) :
    ∀ sent ∈ requests s.upstream, RequestedIn env events sent ∧
      ∃ pinned body, s.pinned = some pinned ∧ SentFor env pinned sent body := by
  obtain ⟨books, hbooks⟩ := run_new hrun
  exact hbooks.invariant.sent

variable {start : RuntimeStores} {books : Books}

theorem Recorded.relayed (h : Recorded env start events s books) :
    (∃ awaiting, Turns (isTerminal env.json) s.upstream awaiting ∧ (s.phase = .waiting → awaiting = false) ∧
      ∀ opened, s.phase = .turn opened → awaiting = true) ∧
    ∃ lost, s.forwarded ++ lost = messages s.upstream ∧ lost.length ≤ 1 ∧ (s.phase ≠ .closed → lost = []) := by
  have hphase := h.invariant.phase
  unfold PhaseInvariant at hphase
  cases hnow : s.phase with
  | waiting =>
    have hshown : (s.shown books).phase = .waiting := by rw [shown, hnow]; rfl
    rw [hshown] at hphase
    refine ⟨⟨false, hphase.1.turns, fun _ => rfl, fun _ h => by cases h⟩, [], ?_, Nat.zero_le 1, fun _ => rfl⟩
    rw [List.append_nil]
    exact hphase.1.forwarded
  | turn opened =>
    have hshown : (s.shown books).phase = .turn opened := by rw [shown, hnow]; rfl
    rw [hshown] at hphase
    refine ⟨⟨true, hphase.1.turns, fun h => (by cases h), fun _ _ => rfl⟩, [], ?_, Nat.zero_le 1, fun _ => rfl⟩
    rw [List.append_nil]
    exact hphase.1.forwarded
  | closed =>
    have hshown : (s.shown books).phase = .closed := by rw [shown, hnow]; rfl
    rw [hshown] at hphase
    obtain ⟨⟨⟨awaiting, hturns⟩, ⟨lost, hlost, hlength⟩, -⟩, -⟩ := hphase
    exact ⟨⟨awaiting, hturns, fun h => (by cases h), fun _ h => by cases h⟩, lost, hlost, hlength,
      fun hopen => absurd rfl hopen⟩

/-- What is held between the events, and that no answer is without a frame or without its usage event. -/
theorem Recorded.balanced (h : Recorded env start events s books) :
    accountedAnswers books.writes = recorded books.answered ∧
    ∃ held, Holds (s.shown books) held s.admitted ∧ (s.phase = .waiting → held = none) ∧
      (∀ opened, s.phase = .turn opened → held = some opened) ∧
      (s.phase = .closed → ∀ opened, held = some opened → Refused env s.forwarded opened) := by
  have hphase := h.invariant.phase
  unfold PhaseInvariant at hphase
  cases hnow : s.phase with
  | waiting =>
    have hshown : (s.shown books).phase = .waiting := by rw [shown, hnow]; rfl
    rw [hshown] at hphase
    exact ⟨hphase.1.brokenOff.accounted, none, hphase.2, fun _ => rfl, fun _ h => (by cases h), fun h => by cases h⟩
  | turn opened =>
    have hshown : (s.shown books).phase = .turn opened := by rw [shown, hnow]; rfl
    rw [hshown] at hphase
    refine ⟨hphase.1.brokenOff.accounted, some opened, hphase.2.overall h.invariant.reserved, fun h => (by cases h), ?_,
      fun h => by cases h⟩
    intro other hother
    cases hother
    rfl
  | closed =>
    have hshown : (s.shown books).phase = .closed := by rw [shown, hnow]; rfl
    rw [hshown] at hphase
    obtain ⟨hbroken, held, hholds, hrefused⟩ := hphase
    exact ⟨hbroken.accounted, held, hholds, fun h => (by cases h), fun _ h => (by cases h), fun _ => hrefused⟩

/-- One answer for each frame, no frame before the answer to the last one, every text of the upstream connection for
the client as it came, and one usage event for each completed answer that the client was given to a frame that records
one, in the order of the answers and inside the turn of that frame. -/
theorem upstreamTurns_relayed (hrun : Machine.run (step env) (new runtime) events = some s) :
    (∃ awaiting, Turns (isTerminal env.json) s.upstream awaiting ∧ (s.phase = .waiting → awaiting = false) ∧
      ∀ opened, s.phase = .turn opened → awaiting = true) ∧
    (∃ lost, s.forwarded ++ lost = messages s.upstream ∧ lost.length ≤ 1 ∧ (s.phase ≠ .closed → lost = [])) ∧
    ∃ answered writes held, Machine.run RuntimeWrite.apply runtime.stores writes = some s.runtime.stores ∧
      elsewheres writes = events.filterMap WebSocketEvent.elsewhereStores ∧ Ledger none writes held ∧
      reservedTurns writes = s.admitted ∧
      answered.map (·.2) = (completedBodies env s.forwarded).map completedResponse ∧
      (answered.map (·.1)).Sublist s.admitted ∧ accountedAnswers writes = recorded answered := by
  obtain ⟨⟨answered, writes⟩, hbooks⟩ := run_new hrun
  obtain ⟨hturns, hlost⟩ := hbooks.relayed
  obtain ⟨haccounted, held, hholds, -⟩ := hbooks.balanced
  exact ⟨hturns, hlost, answered, writes, held, hbooks.kept, hbooks.others, hholds.ledger, hbooks.invariant.reserved,
    hbooks.invariant.answers, hholds.answered, haccounted⟩

/-- The reservations of a frame are gone with its release, unless other requests have moved the stores in between. -/
def TurnsRestored (start : RuntimeStores) (writes : List RuntimeWrite) : Prop :=
  ∀ before opened mid after first last, writes = before ++ .reserved opened :: (mid ++ .released opened :: after) →
    elsewheres mid = [] → releasedTurns mid = [] → Machine.run RuntimeWrite.apply start before = some first →
    Machine.run RuntimeWrite.apply first (.reserved opened :: mid ++ [.released opened]) = some last →
    PreflightReady opened.request.preflightInput first.policies →
    Restored opened.request.preflightInput first.policies last.policies

theorem turnsRestored {writes : List RuntimeWrite} {held : Option OpenTurn} (hledger : Ledger none writes held) :
    TurnsRestored start writes := by
  intro before opened mid after first last hwrites helsewhere hreleased _ hrun hready
  subst hwrites
  obtain ⟨_, -, hturn⟩ := hledger.split
  cases hturn with
  | cons hreserved hrest =>
    cases hreserved with
    | inTurn hother => cases hother
    | reserved =>
      obtain ⟨_, hmid, -⟩ := hrest.split
      exact turn_restored (hmid.inTurn rfl hreleased helsewhere).2 hready hrun

/-- Each frame's reservations are given back once and before the next frame reserves any, and give back what they took;
between the frames nothing is held, and after the end only what an insert that was refused has left behind. -/
theorem admittedFrames_released (hrun : Machine.run (step env) (new runtime) events = some s) :
    ∃ writes held, Machine.run RuntimeWrite.apply runtime.stores writes = some s.runtime.stores ∧
      elsewheres writes = events.filterMap WebSocketEvent.elsewhereStores ∧ Ledger none writes held ∧
      reservedTurns writes = s.admitted ∧ s.admitted = releasedTurns writes ++ held.toList ∧
      (s.phase = .waiting → held = none) ∧ (∀ opened, s.phase = .turn opened → held = some opened) ∧
      (s.phase = .closed → ∀ opened, held = some opened → Refused env s.forwarded opened) ∧
      TurnsRestored runtime.stores writes := by
  obtain ⟨⟨answered, writes⟩, hbooks⟩ := run_new hrun
  obtain ⟨-, held, hholds, hwaiting, hturn, hclosed⟩ := hbooks.balanced
  exact ⟨writes, held, hbooks.kept, hbooks.others, hholds.ledger, hbooks.invariant.reserved,
    hholds.admitted hbooks.invariant.reserved, hwaiting, hturn, hclosed, turnsRestored hholds.ledger⟩

end ResponsesWebSocketSession

end Runs

def sampleJsonText : JsonText where
  parse text :=
    if text = "create" then some (.object [("type", .string "response.create"), ("model", .string "chat")])
    else if text = "delta" then some (.object [("type", .string "response.output_text.delta")])
    else if text = "completed" then some (.object [("type", .string "response.completed")])
    else none
  encode _ := "body"

def chatEnv : WebSocketEnv HttpsUrl := ⟨sampleJsonText, httpsUrls, sampleAuthEnv, bearer "swg_0123456789abcdef"⟩

def keyStore : TenancyStore :=
  { TenancyStore.empty with
    apiKeys := AList.singleton "swg_0123456789ab"
      [⟨"key_1", "tenant_1", none, none, "owner_1", "key", "swg_0123456789ab", "argon2:swg_0123456789abcdef", .active,
        [], [], none⟩] }

def chatAnswers : FrameAnswers where
  tenancy := keyStore
  now := ⟨0⟩
  requestId := "req_1"
  traceId := "tr_1"
  routeRequest := ⟨tenantActor, responsesWebsocketReplayCase, "chat", none, ⟨0⟩, ⟨0⟩, "rd_1", none⟩
  loadedCatalog := .ok (some ⟨twoEndpointCatalog, "cfg_1", 1⟩)
  hotState := .empty
  authorize := fun _ _ => .ok true
  request := admittedRequest none
  store := .empty
  connect := fun _ _ => .ok ()
  upstreamSend := .ok ()

def chatEvents : List WebSocketEvent :=
  [.downstream (.text "create") (fun _ => true) chatAnswers, .upstream (.text "delta") (fun _ => true),
    .downstream (.text "create") (fun _ => true) chatAnswers,
    .upstream (.text "completed") (fun _ => true)]

def SessionPhase.isWaiting : SessionPhase → Bool
  | .waiting => true
  | _ => false

/-- One turn with a text in between and a second frame that came too early; its answer is a usage event in the end, and
its lease is one no more. -/
theorem chatEvents_run :
    ∃ s, Machine.run (ResponsesWebSocketSession.step chatEnv) (.new .empty) chatEvents = some s ∧
      s.phase = .waiting ∧ (requests s.upstream).length = 1 ∧ s.forwarded = ["delta", "completed"] ∧
      s.toClient.length = 3 ∧ s.admitted.length = 1 ∧ s.runtime.usage.usageEvents.length = 1 ∧
      (s.runtime.policies.runtimeBudgetLeases.entries.map fun lease => decide (lease.2.status = .released)) = [true] := by
  have hrun : ((Machine.run (ResponsesWebSocketSession.step chatEnv) (.new .empty) chatEvents).map fun s =>
      (s.phase.isWaiting, s.forwarded, [(requests s.upstream).length, s.toClient.length, s.admitted.length,
        s.runtime.usage.usageEvents.length],
        s.runtime.policies.runtimeBudgetLeases.entries.map fun lease => decide (lease.2.status = .released))) =
      some (true, ["delta", "completed"], [1, 3, 1, 1], [true]) := by
    decide +kernel
  obtain ⟨s, hs, hall⟩ := Option.map_eq_some_iff.mp hrun
  simp only [Prod.mk.injEq, List.cons.injEq, and_true] at hall
  obtain ⟨hwaiting, hforwarded, ⟨hsent, htexts, hadmitted, hevents⟩, hleases⟩ := hall
  refine ⟨s, hs, ?_, hsent, hforwarded, htexts, hadmitted, hevents, hleases⟩
  cases hphase : s.phase with
  | waiting => rfl
  | turn opened => simp [hphase, SessionPhase.isWaiting] at hwaiting
  | closed => simp [hphase, SessionPhase.isWaiting] at hwaiting

theorem sentFrames_pinned_chat :
    ∃ s sent pinned body, Machine.run (ResponsesWebSocketSession.step chatEnv) (.new .empty) chatEvents = some s ∧
      sent ∈ requests s.upstream ∧ s.pinned = some pinned ∧ SentFor chatEnv pinned sent body := by
  obtain ⟨s, hrun, -, hlength, -⟩ := chatEvents_run
  obtain ⟨sent, hsent⟩ := List.length_eq_one_iff.mp hlength
  have hmem : sent ∈ requests s.upstream := by
    rw [hsent]
    exact List.mem_cons_self
  obtain ⟨-, pinned, body, hpinned, hfor⟩ := ResponsesWebSocketSession.sentFrames_pinned hrun sent hmem
  exact ⟨s, sent, pinned, body, hrun, hmem, hpinned, hfor⟩

theorem upstreamTurns_relayed_chat :
    ∃ s answered writes, Machine.run (ResponsesWebSocketSession.step chatEnv) (.new .empty) chatEvents = some s ∧
      messages s.upstream = ["delta", "completed"] ∧
      answered.map (·.2) = (completedBodies chatEnv ["delta", "completed"]).map completedResponse ∧
      Machine.run RuntimeWrite.apply RuntimeState.empty.stores writes = some s.runtime.stores ∧
      accountedAnswers writes = recorded answered ∧ s.runtime.usage.usageEvents.length = 1 := by
  obtain ⟨s, hrun, hphase, -, hforwarded, -, -, hevents, -⟩ := chatEvents_run
  obtain ⟨-, ⟨lost, hlost, -, hkept⟩, answered, writes, held, hwrites, -, -, -, hanswers, -, haccounted⟩ :=
    ResponsesWebSocketSession.upstreamTurns_relayed hrun
  rw [hkept (by rw [hphase]; nofun), List.append_nil, hforwarded] at hlost
  rw [hforwarded] at hanswers
  exact ⟨s, answered, writes, hrun, hlost.symm, hanswers, hwrites, haccounted, hevents⟩

theorem admittedFrames_released_chat :
    ∃ s writes, Machine.run (ResponsesWebSocketSession.step chatEnv) (.new .empty) chatEvents = some s ∧
      Machine.run RuntimeWrite.apply RuntimeState.empty.stores writes = some s.runtime.stores ∧
      releasedTurns writes = s.admitted ∧ s.admitted.length = 1 ∧
      ResponsesWebSocketSession.TurnsRestored RuntimeState.empty.stores writes ∧
      (s.runtime.policies.runtimeBudgetLeases.entries.map fun lease => decide (lease.2.status = .released)) = [true] := by
  obtain ⟨s, hrun, hphase, -, -, -, hadmitted, -, hleases⟩ := chatEvents_run
  obtain ⟨writes, held, hwrites, -, -, -, hall, hwaiting, -, -, hrestored⟩ :=
    ResponsesWebSocketSession.admittedFrames_released hrun
  rw [hwaiting hphase, Option.toList_none, List.append_nil] at hall
  exact ⟨s, writes, hrun, hwrites, hall.symm, hadmitted, hrestored, hleases⟩

end Starweaver.Gateway
