import Starweaver.Gateway.Authentication
import Starweaver.Gateway.ProviderAdapter
import Starweaver.Gateway.RuntimeWrites
import Starweaver.Library.Dialogue

namespace Starweaver.Gateway

open Library Library.Calendar Library.Dialogue Tenancy

/-- What the proxy calls of the JSON library. -/
structure JsonText where
  parse : String → Option Json
  encode : Json → String

section Frames

variable (json : JsonText)

structure ResponseCreateFrame where
  rawBody : Json
  modelAlias : String

def eventType (value : Json) : Option String := (value.get "type").bind Json.asStr

/-- A frame that is refused is answered with a code and a message. -/
def parseResponseCreateFrame (text : String) : Except (String × String) ResponseCreateFrame :=
  match json.parse text with
  | none => .error ("invalid_json", "Text frame is not valid JSON.")
  | some (.object fields) =>
    if eventType (.object fields) ≠ some "response.create" then
      .error ("unsupported_event_type", "Only response.create frames are supported by Responses WebSocket proxy.")
    else match ((Json.object fields).get "model").bind Json.asStr with
      | none => .error ("missing_model", "response.create.model is required.")
      | some model =>
        if model = "" then .error ("missing_model", "response.create.model is required.")
        else .ok ⟨.object fields, model⟩
  | some _ => .error ("invalid_json", "Text frame must be a JSON object.")

def responsesWebsocketCompletedResponseBody (text : String) : Option Json :=
  (json.parse text).bind fun value =>
    if eventType value = some "response.completed" then some ((value.get "response").getD value) else none

def responsesWebsocketTerminalError (text : String) : Bool :=
  match (json.parse text).bind eventType with
  | none => false
  | some type => type ∈ ["response.failed", "response.incomplete", "error"]

/-- The upstream messages that end a turn. -/
def isTerminal (text : String) : Bool :=
  (responsesWebsocketCompletedResponseBody json text).isSome || responsesWebsocketTerminalError json text

end Frames

section Requests

def isSafeRouteAffinityKey (value : String) : Bool :=
  value ≠ "" && value.toByteArray.data.toList.length ≤ 256 &&
    value.toByteArray.data.toList.all fun byte => isAsciiAlphanumeric byte || Char.ofNat byte.toNat ∈ ['_', '-', '.']

def gatewaySessionIdHeader : String := "x-gateway-session-id"

def sessionIdHeader : String := "x-session-id"

def responsesWebsocketSessionId (headers : HeaderMap) (actor : AuthenticatedActor) : String :=
  match (((headers gatewaySessionIdHeader).or (headers sessionIdHeader)).join).filter isSafeRouteAffinityKey with
  | some value => value
  | none => actor.apiKeyId.getD actor.actorId

def responsesWebsocketRouteAffinityHash (env : AuthEnv) (headers : HeaderMap) (actor : AuthenticatedActor) : String :=
  let key := (((headers gatewaySessionIdHeader).or (headers sessionIdHeader)).join).filter isSafeRouteAffinityKey
  "sha256:" ++ env.sha256Hex (key.getD (actor.apiKeyId.getD actor.actorId))

def injectResponsesWebsocketPromptCacheKey (body : Json) (sessionId : String) : Json :=
  match body with
  | .object fields => .object (insertField "prompt_cache_key" (.string sessionId) fields)
  | _ => body

def runtimeProviderAdapterRequest {Url : Type} (urls : UrlLibrary Url) (store : GatewayStore)
    (protocolFamily : ProtocolFamily) (routeTarget : RuntimeRouteTarget) (body : Json) :
    Result (Option ProviderAdapterRequest) :=
  match routeTarget.providerEndpoint with
  | none => .ok none
  | some providerEndpoint =>
    (buildProviderAdapterRequest urls
      { protocolFamily := protocolFamily
        providerEndpoint := providerEndpoint
        upstreamModelId := routeTarget.upstreamModelId
        upstreamCredential := runtimeProviderAdapterCredential store routeTarget } body).map some

def responsesWebsocketProviderRequest {Url : Type} (urls : UrlLibrary Url) (store : GatewayStore) (headers : HeaderMap)
    (actor : AuthenticatedActor) (routeTarget : RuntimeRouteTarget) (rawBody : Json) : Result ProviderAdapterRequest :=
  match routeTarget.providerEndpoint.map (·.providerKind) with
  | none => .error (.noRoute "provider_route_required")
  | some providerKind =>
    if providerKind ∉ ["openai", "codex"] then .error (.noRoute "responses_websocket_provider_unsupported")
    else
      let body := injectResponsesWebsocketPromptCacheKey rawBody (responsesWebsocketSessionId headers actor)
      match runtimeProviderAdapterRequest urls store .openAiResponses routeTarget body with
      | .error error => .error error
      | .ok none => .error (.noRoute "provider_route_required")
      | .ok (some providerRequest) => .ok providerRequest

/-- The text before the first separator and the text behind it. -/
def splitOnceText (separator text : String) : Option (String × String) :=
  let chars := text.toList
  ((List.range (chars.length + 1)).find? fun n => separator.toList.isPrefixOf (chars.drop n)).map fun n =>
    (String.ofList (chars.take n), String.ofList (chars.drop (n + separator.toList.length)))

def httpUrlToWsUrl (url : String) : Result String :=
  match splitOnceText "://" url with
  | some (scheme, rest) =>
    if scheme = "https" then .ok s!"wss://{rest}"
    else if scheme = "http" then .ok s!"ws://{rest}"
    else .error (.badRequest s!"responses websocket upstream URL must use http or https: {url}")
  | none => .error (.badRequest s!"responses websocket upstream URL must use http or https: {url}")

/-- A header value of the HTTP library: visible bytes, blanks, tabs and bytes outside ASCII. -/
def headerValueOk (value : String) : Bool :=
  value.toByteArray.data.toList.all fun byte => (32 ≤ byte.toNat && byte.toNat ≠ 127) || byte.toNat = 9

def insertHeader (name value : String) : List (String × String) → List (String × String)
  | [] => [(name, value)]
  | header :: headers =>
    if header.1 = name then (name, value) :: headers else header :: insertHeader name value headers

def providerRequestHeaderMap (providerRequest : ProviderAdapterRequest) (actor : AuthenticatedActor)
    (headers : HeaderMap) : Result (List (String × String)) := do
  let headerMap ← providerRequest.headers.foldlM (fun map header =>
    if headerValueOk header.value then .ok (insertHeader header.name header.value map)
    else .error (.internal "invalid provider header value: failed to parse header value")) []
  if providerRequest.safeMetadata.providerKind = "codex" then
    let sessionId := responsesWebsocketSessionId headers actor
    if headerValueOk sessionId then
      .ok (insertHeader "x-client-request-id" sessionId (insertHeader "session_id" sessionId headerMap))
    else .error (.internal "invalid responses websocket session header: failed to parse header value")
  else .ok headerMap

end Requests

/-- A message of the client, or the end of its stream. -/
inductive DownstreamMessage
  | text (text : String)
  | ping
  | pong
  | binary
  | closed
deriving DecidableEq, Repr

/-- What the upstream connection gives next; pings are answered below this interface. -/
inductive UpstreamMessage
  | text (text : String)
  | close
  | ended
  | failed (reason : String)
deriving DecidableEq, Repr

/-- What the gateway sends to the client. -/
inductive ToClient
  | forwarded (text : String)
  | error (code message : String)
  | pong
deriving DecidableEq, Repr

def GatewayError.text : GatewayError → String
  | .authentication => "authentication failed"
  | .authorization reason => s!"authorization denied: {reason}"
  | .badRequest message => s!"bad request: {message}"
  | .notFound resource => s!"not found: {resource}"
  | .noRoute reason => s!"no route available: {reason}"
  | .budgetExceeded reason => s!"budget exceeded: {reason}"
  | .quotaExceeded reason => s!"quota exceeded: {reason}"
  | .requestTimeout => "request timed out"
  | .notReady => "service not ready"
  | .upstream reason => s!"upstream provider failed: {reason}"
  | .internal message => s!"internal error: {message}"

def GatewayError.responsesWebsocketCode : GatewayError → String
  | .authentication => "authentication_failed"
  | .authorization _ => "authorization_denied"
  | .badRequest _ => "invalid_request"
  | .noRoute _ => "no_route"
  | .budgetExceeded _ => "budget_exceeded"
  | .quotaExceeded _ => "quota_exceeded"
  | .upstream _ => "upstream_error"
  | .notFound _ => "not_found"
  | .requestTimeout => "request_timeout"
  | .notReady => "not_ready"
  | .internal _ => "internal_error"

def responsesWebsocketGatewayError (error : GatewayError) : ToClient :=
  .error error.responsesWebsocketCode error.text

namespace ResponsesWebSocketTurnOutcome

def failedContinue : ResponsesWebSocketTurnOutcome := ⟨none, false, false, false⟩

def failedAndClose : ResponsesWebSocketTurnOutcome := ⟨none, false, false, true⟩

def disconnectedClient : ResponsesWebSocketTurnOutcome := ⟨none, false, true, true⟩

def completed (body : Json) : ResponsesWebSocketTurnOutcome := ⟨some ⟨.openAiResponses, body, true⟩, true, false, false⟩

end ResponsesWebSocketTurnOutcome

structure PinnedResponsesWebSocketState where
  modelAlias : String
  routeTarget : RuntimeRouteTarget

/-- A frame that was sent upstream, for whom, to which target, and the text of it. -/
structure SentFrame where
  frame : ResponseCreateFrame
  actor : AuthenticatedActor
  routeTarget : RuntimeRouteTarget
  text : String

inductive SessionPhase
  | waiting
  | turn (opened : OpenTurn)
  | closed

/-- The connection of one client over the HTTP transport, with the traffic on both sides and the frames that were
admitted. -/
structure ResponsesWebSocketSession where
  pinned : Option PinnedResponsesWebSocketState
  phase : SessionPhase
  runtime : RuntimeState
  upstream : List (Item SentFrame String)
  toClient : List ToClient
  admitted : List OpenTurn

def ResponsesWebSocketSession.new (runtime : RuntimeState) : ResponsesWebSocketSession :=
  ⟨none, .waiting, runtime, [], [], []⟩

/-- What stays fixed for a connection. -/
structure WebSocketEnv (Url : Type) where
  json : JsonText
  urls : UrlLibrary Url
  auth : AuthEnv
  headers : HeaderMap

/-- What the gateway reads, and what it is answered, while it handles one frame. -/
structure FrameAnswers where
  tenancy : TenancyStore
  now : DateTime
  requestId : String
  traceId : String
  routeRequest : RuntimeRouteRequest
  loadedCatalog : Result (Option LoadedCatalog)
  hotState : InMemoryHotState
  authorize : AuthenticatedActor → String → Result Bool
  request : RuntimeRequest
  store : GatewayStore
  connect : String → List (String × String) → Result Unit
  upstreamSend : Result Unit

section Session

variable {Url : Type} (env : WebSocketEnv Url)

def responsesWebsocketReplayCase : GatewayReplayCase := ⟨.openAiResponses, false⟩

def FrameAnswers.runtimeRequest (answers : FrameAnswers) (actor : AuthenticatedActor)
    (routeTarget : RuntimeRouteTarget) (frame : ResponseCreateFrame) : RuntimeRequest :=
  { answers.request with
    policyInput := { answers.request.policyInput with
      actor := actor
      replayCase := responsesWebsocketReplayCase
      requestBodyBytes := (env.json.encode frame.rawBody).toByteArray.data.toList.length }
    routeTarget := routeTarget }

def FrameAnswers.plannedTarget (answers : FrameAnswers) (actor : AuthenticatedActor) (frame : ResponseCreateFrame) :
    Result RuntimeRouteTarget :=
  (runtimeRouteTarget { answers.routeRequest with
    actor := actor
    replayCase := responsesWebsocketReplayCase
    requestedModel := frame.modelAlias
    routeAffinityHash := some (responsesWebsocketRouteAffinityHash env.auth env.headers actor) }
    answers.loadedCatalog answers.hotState).1

def connectResponsesWebsocketUpstream (answers : FrameAnswers) (actor : AuthenticatedActor)
    (routeTarget : RuntimeRouteTarget) (rawBody : Json) : Result Unit := do
  let providerRequest ←
    responsesWebsocketProviderRequest env.urls answers.store env.headers actor routeTarget rawBody
  let wsUrl ← httpUrlToWsUrl providerRequest.url
  let headers ← providerRequestHeaderMap providerRequest actor env.headers
  answers.connect wsUrl headers

namespace ResponsesWebSocketSession

/-- A text for the client; an undelivered one is an error of the gateway. -/
def sendError (takes : ToClient → Bool) (text : ToClient) (s : ResponsesWebSocketSession) :
    Result Unit × ResponsesWebSocketSession :=
  if takes text then (.ok (), { s with toClient := s.toClient ++ [text] })
  else (.error (.upstream "responses_websocket_downstream_send_failed"), s)

/-- What `run` does with the outcome of a frame. -/
def afterFrame (takes : ToClient → Bool) (result : Result ResponsesWebSocketTurnOutcome)
    (s : ResponsesWebSocketSession) : ResponsesWebSocketSession :=
  match result with
  | .ok outcome => { s with phase := if outcome.closeConnection then .closed else .waiting }
  | .error error => { (s.sendError takes (responsesWebsocketGatewayError error)).2 with phase := .closed }

/-- The frame is answered with an error and ends without a turn. -/
def refuse (takes : ToClient → Bool) (text : ToClient) (outcome : ResponsesWebSocketTurnOutcome)
    (s : ResponsesWebSocketSession) : ResponsesWebSocketSession :=
  match s.sendError takes text with
  | (.error error, s) => s.afterFrame takes (.error error)
  | (.ok (), s) => s.afterFrame takes (.ok outcome)

def endTurn (takes : ToClient → Bool) (opened : OpenTurn) (outcome : Result ResponsesWebSocketTurnOutcome)
    (s : ResponsesWebSocketSession) : ResponsesWebSocketSession :=
  let (result, runtime) := handleResponseCreate.finishTurn opened.request
    { pinned := true, transport := .http, connect := .ok (), outcome := outcome, sendError := .ok () }
    opened.preflight s.runtime
  { s with runtime := runtime }.afterFrame takes result

/-- A turn on the pinned connection, up to the frame that is sent upstream. -/
def startTurn (takes : ToClient → Bool) (answers : FrameAnswers) (actor : AuthenticatedActor)
    (frame : ResponseCreateFrame) (opened : OpenTurn) (s : ResponsesWebSocketSession) : ResponsesWebSocketSession :=
  let routeTarget := opened.request.routeTarget
  match responsesWebsocketProviderRequest env.urls answers.store env.headers actor routeTarget frame.rawBody with
  | .error error => s.endTurn takes opened (.error error)
  | .ok providerRequest =>
    match answers.upstreamSend with
    | .error error => s.endTurn takes opened (.error error)
    | .ok () =>
      { s with
        phase := .turn opened
        upstream := s.upstream ++ [Item.request ⟨frame, actor, routeTarget, env.json.encode providerRequest.body⟩] }

/-- The first turn connects and pins; reservations are released when the connection is refused. -/
def connectAndStart (takes : ToClient → Bool) (answers : FrameAnswers) (actor : AuthenticatedActor)
    (frame : ResponseCreateFrame) (opened : OpenTurn) (s : ResponsesWebSocketSession) : ResponsesWebSocketSession :=
  let routeTarget := opened.request.routeTarget
  match s.pinned with
  | some _ => s.startTurn env takes answers actor frame opened
  | none =>
    match connectResponsesWebsocketUpstream env answers actor routeTarget frame.rawBody with
    | .ok () => { s with pinned := some ⟨frame.modelAlias, routeTarget⟩ }.startTurn env takes answers actor frame opened
    | .error error =>
      match recordFailedRouteAttemptForTarget opened.request s.runtime with
      | (.error recordError, runtime) => { s with runtime := runtime }.afterFrame takes (.error recordError)
      | (.ok (), runtime) =>
        { s with runtime := runtime.release opened.preflight }.refuse takes (responsesWebsocketGatewayError error)
          .continueWithoutAccounting

def admitFrame (takes : ToClient → Bool) (answers : FrameAnswers) (actor : AuthenticatedActor)
    (routeTarget : RuntimeRouteTarget) (frame : ResponseCreateFrame) (s : ResponsesWebSocketSession) :
    ResponsesWebSocketSession :=
  let request := answers.runtimeRequest env actor routeTarget frame
  match enforceRuntimePolicyPreflight request.preflightInput s.runtime.policies with
  | (.error error, policies) =>
    let s := { s with runtime := { s.runtime with policies := policies } }
    match recordRuntimePolicyBlockDecision request error with
    | .error recordError => s.afterFrame takes (.error recordError)
    | .ok () => s.refuse takes (responsesWebsocketGatewayError error) .continueWithoutAccounting
  | (.ok preflight, policies) =>
    { s with
      runtime := { s.runtime with policies := policies }
      admitted := s.admitted ++ [OpenTurn.mk request preflight] }.connectAndStart env takes answers actor frame
        ⟨request, preflight⟩

def modelSwitchNotSupported : ToClient :=
  .error "model_switch_not_supported"
    ("Responses WebSocket connection is pinned to the first model alias. " ++
      "Open a new WebSocket connection to use another model.")

def handleFrame (takes : ToClient → Bool) (answers : FrameAnswers) (frame : ResponseCreateFrame)
    (s : ResponsesWebSocketSession) : ResponsesWebSocketSession :=
  if s.pinned.any fun pinned => pinned.modelAlias != frame.modelAlias then
    s.refuse takes modelSwitchNotSupported .continueWithoutAccounting
  else match (authenticateRequest env.auth answers.tenancy env.headers answers.requestId answers.traceId
      answers.now).1 with
  | .error error =>
    s.refuse takes (responsesWebsocketGatewayError error) ⟨none, false, false, error = .authentication⟩
  | .ok credentialed =>
    let actor := credentialed.toAuthenticatedActor
    match (match s.pinned with
      | some pinned => .ok pinned.routeTarget
      | none => answers.plannedTarget env actor frame : Result RuntimeRouteTarget) with
    | .error error => s.afterFrame takes (.error error)
    | .ok routeTarget =>
      match answers.authorize actor routeTarget.authorizationResourceId with
      | .error error => s.afterFrame takes (.error error)
      | .ok false =>
        s.refuse takes (.error "authorization_denied" "Responses WebSocket model authorization denied.")
          .continueWithoutAccounting
      | .ok true => s.admitFrame env takes answers actor routeTarget frame

def unsupportedFrameType : ToClient :=
  .error "unsupported_frame_type" "Responses WebSocket only supports JSON text frames."

/-- A message of the client outside a turn. -/
def receive (takes : ToClient → Bool) (answers : FrameAnswers) (message : DownstreamMessage)
    (s : ResponsesWebSocketSession) : ResponsesWebSocketSession :=
  match message with
  | .text text =>
    match parseResponseCreateFrame env.json text with
    | .ok frame => s.handleFrame env takes answers frame
    | .error (code, message) => (s.sendError takes (.error code message)).2
  | .ping =>
    match s.sendError takes .pong with
    | (.ok (), s) => s
    | (.error _, s) => { s with phase := .closed }
  | .pong => s
  | .binary => (s.sendError takes unsupportedFrameType).2
  | .closed => { s with phase := .closed }

def concurrentTurnNotSupported : ToClient :=
  .error "concurrent_turn_not_supported"
    ("Responses WebSocket does not support concurrent response.create frames. " ++
      "Wait for the current turn to finish before sending another frame.")

/-- A message of the client inside a turn; none of them reaches the upstream connection. -/
def receiveInTurn (takes : ToClient → Bool) (opened : OpenTurn) (message : DownstreamMessage)
    (s : ResponsesWebSocketSession) : ResponsesWebSocketSession :=
  let refuseInTurn (text : ToClient) : ResponsesWebSocketSession :=
    match s.sendError takes text with
    | (.ok (), s) => s
    | (.error error, s) => s.endTurn takes opened (.error error)
  match message with
  | .text _ => refuseInTurn concurrentTurnNotSupported
  | .binary => refuseInTurn unsupportedFrameType
  | .ping =>
    match s.sendError takes .pong with
    | (.ok (), s) => s
    | (.error _, s) => s.endTurn takes opened (.ok .disconnectedClient)
  | .pong => s
  | .closed => s.endTurn takes opened (.ok .disconnectedClient)

/-- A text of the upstream connection is given to the client as it is, and ends the turn when it is terminal. -/
def forward (takes : ToClient → Bool) (opened : OpenTurn) (text : String) (s : ResponsesWebSocketSession) :
    ResponsesWebSocketSession :=
  let s := { s with upstream := s.upstream ++ [Item.message text] }
  match s.sendError takes (.forwarded text) with
  | (.error _, s) => s.endTurn takes opened (.ok .disconnectedClient)
  | (.ok (), s) =>
    match responsesWebsocketCompletedResponseBody env.json text with
    | some body => s.endTurn takes opened (.ok (.completed body))
    | none =>
      if responsesWebsocketTerminalError env.json text then s.endTurn takes opened (.ok .failedContinue) else s

def receiveUpstream (takes : ToClient → Bool) (opened : OpenTurn) (message : UpstreamMessage)
    (s : ResponsesWebSocketSession) : ResponsesWebSocketSession :=
  match message with
  | .text text => s.forward env takes opened text
  | .close | .ended => s.endTurn takes opened (.ok .failedAndClose)
  | .failed reason => s.endTurn takes opened (.error (.upstream reason))

def timeOut (takes : ToClient → Bool) (opened : OpenTurn) (s : ResponsesWebSocketSession) :
    ResponsesWebSocketSession :=
  match s.sendError takes (.error "upstream_timeout" "Timed out waiting for upstream Responses WebSocket event.") with
  | (.error error, s) => s.endTurn takes opened (.error error)
  | (.ok (), s) => s.endTurn takes opened (.ok .failedAndClose)

end ResponsesWebSocketSession

/-- What can happen to a connection; `takes` says which texts the client's socket still takes, and other requests
move the part of the gateway that is shared. -/
inductive WebSocketEvent
  | downstream (message : DownstreamMessage) (takes : ToClient → Bool) (answers : FrameAnswers)
  | upstream (message : UpstreamMessage) (takes : ToClient → Bool)
  | upstreamTimeout (takes : ToClient → Bool)
  | idleTimeout (takes : ToClient → Bool)
  | connectionExpired
  | elsewhere (stores : RuntimeStores)

namespace ResponsesWebSocketSession

def step (s : ResponsesWebSocketSession) (event : WebSocketEvent) : Option ResponsesWebSocketSession :=
  match s.phase, event with
  | _, .elsewhere stores =>
    some { s with
      runtime := ⟨stores.policies, stores.usage, stores.routeAttempts, s.runtime.released⟩ }
  | .waiting, .downstream message takes answers => some (s.receive env takes answers message)
  | .waiting, .idleTimeout takes =>
    some { (s.sendError takes (.error "idle_timeout" "Responses WebSocket idle timeout exceeded.")).2 with
      phase := .closed }
  | .waiting, .connectionExpired => some { s with phase := .closed }
  | .turn opened, .downstream message takes _ => some (s.receiveInTurn takes opened message)
  | .turn opened, .upstream message takes => some (s.receiveUpstream env takes opened message)
  | .turn opened, .upstreamTimeout takes => some (s.timeOut takes opened)
  | _, _ => none

end ResponsesWebSocketSession

end Session

end Starweaver.Gateway
