import Starweaver.Gateway.Pricing
import Starweaver.Gateway.RuntimePolicies
import Starweaver.Gateway.RuntimePolicyStore
import Starweaver.Gateway.UsageLedger

namespace Starweaver.Gateway

open Library Library.Calendar Library.MachineInt

def firstI64 (value : Json) (keys : List String) : Option Int :=
  keys.findSome? fun key => (value.get key).bind Json.asI64

def emptyUsageFields : List (String × Json) :=
  [("input_tokens", .number 0), ("output_tokens", .number 0), ("total_tokens", .number 0),
    ("cache_read_tokens", .number 0), ("cache_write_tokens", .number 0), ("cache_write_5m_tokens", .number 0),
    ("cache_write_1h_tokens", .number 0), ("reasoning_tokens", .number 0), ("tool_tokens", .number 0),
    ("image_input_units", .number 0), ("image_output_units", .number 0), ("audio_input_units", .number 0),
    ("audio_output_units", .number 0), ("request_units", .number 0), ("provider_usage_metadata", .object [])]

def emptyUsagePayload : Json := .object emptyUsageFields

def usageBlock (protocolFamily : ProtocolFamily) (body : Json) : Option Json :=
  match protocolFamily with
  | .openAiResponses | .openAiChat | .anthropicMessages | .bedrockConverse => body.get "usage"
  | .geminiGenerateContent => body.get "usageMetadata"
  | .providerNative => none

def normalizedUsagePayload (protocolFamily : ProtocolFamily) (body : Json) : Json × UsageConfidence :=
  match usageBlock protocolFamily body with
  | none => (emptyUsagePayload, .missing)
  | some usage =>
    let inputTokens := firstI64 usage ["input_tokens", "promptTokenCount", "inputTokens"]
    let outputTokens := firstI64 usage ["output_tokens", "candidatesTokenCount", "outputTokens"]
    let totalTokens := (firstI64 usage ["total_tokens", "totalTokenCount", "totalTokens"]).or
      (inputTokens.bind fun input => outputTokens.map fun output => wrap (input + output))
    (.object (("input_tokens", .number (inputTokens.getD 0)) :: ("output_tokens", .number (outputTokens.getD 0)) ::
      ("total_tokens", .number (totalTokens.getD 0)) :: emptyUsageFields.drop 3), .exact)

structure TerminalUsageInput where
  replayCase : GatewayReplayCase
  selected : SelectedRouteEvidence
  upstreamModelId : String
  pricingSkuId : Option String
  responseProtocolFamily : ProtocolFamily
  responseBody : Json
  startedAt : DateTime
  endedAt : DateTime
  usageEventId : String
  projectMemberships : String → String → Option String
  pricingSkus : List PricingSkuRecord

def runtimeCostPayload (actor : AuthenticatedActor) (input : TerminalUsageInput) (usagePayload : Json) : Json :=
  match resolveRuntimePricingSku input.pricingSkus actor input.upstreamModelId input.selected.providerEndpointId
      input.pricingSkuId input.endedAt with
  | none => unpricedCostPayload
  | some sku => costPayloadFromPricingSku sku usagePayload

def terminalUsageEvent (actor : AuthenticatedActor) (input : TerminalUsageInput) : UsageEventRecord :=
  let (usagePayload, usageConfidence) := normalizedUsagePayload input.responseProtocolFamily input.responseBody
  { tenantId := actor.tenantId
    organizationId := actor.organizationId
    projectId := actor.projectId
    principalId := actor.principalId
    projectMemberId := actor.principalId.bind fun principalId =>
      actor.projectId.bind fun projectId => input.projectMemberships principalId projectId
    serviceAccountId := if actor.actorKind = .serviceAccount then some actor.actorId else none
    apiKeyId := actor.apiKeyId
    modelAliasId := some input.selected.modelAliasId
    modelTargetId := some input.selected.modelTargetId
    providerEndpointId := some input.selected.providerEndpointId
    upstreamCredentialId := input.selected.upstreamCredentialId
    routePolicyId := some input.selected.routePolicyId
    routingGroupId := some input.selected.routingGroupId
    protocolFamily := input.replayCase.protocolFamily
    status := .success
    usageConfidence := usageConfidence
    usageEventId := input.usageEventId
    requestId := actor.requestId
    usagePayload := usagePayload
    costPayload := runtimeCostPayload actor input usagePayload
    occurredAt := input.endedAt }

def recordTerminalUsageEvent (store : UsageStore) (actor : AuthenticatedActor) (input : TerminalUsageInput) :
    UsageStore :=
  store.recordUsageEvent (terminalUsageEvent actor input)

def terminalUsageTokenCount (usagePayload : Json) : Int :=
  let field := fun key => (usagePayload.get key).bind Json.asI64
  ((field "total_tokens").or ((field "input_tokens").bind fun input => (field "output_tokens").map fun output =>
    saturatingAdd (saturatingAdd input output) ((field "reasoning_tokens").getD 0))).getD 0

def runtimeStreamDurationSeconds (input : TerminalUsageInput) : Int :=
  max ((input.endedAt.nanos - input.startedAt.nanos).tdiv 1000000000) 1

/-- Add an amount to the counter of every active policy of one kind that matches the request. -/
def accumulateTerminalQuota (quotaPolicies : List QuotaPolicyRecord) (actor : AuthenticatedActor)
    (input : TerminalUsageInput) (counterKind : QuotaCounterKind) (incrementSource : QuotaIncrementSource)
    (amount : Int) (store : RuntimePolicyStore) : RuntimePolicyStore :=
  ((quotaPoliciesForTenant quotaPolicies actor.tenantId).filter fun policy =>
    policy.status == .active && policy.counterKind == counterKind && policy.incrementSource == incrementSource &&
      runtimeQuotaPolicyMatchesRequest policy actor input.replayCase (some input.selected)).foldl
    (fun store policy =>
      (store.adjustRuntimePolicyCounter (runtimeQuotaCounterKey policy input.endedAt) amount).1) store

def finalizeRuntimeTokenActualQuotaTerminal (quotaPolicies : List QuotaPolicyRecord) (actor : AuthenticatedActor)
    (input : TerminalUsageInput) (usagePayload : Json) (store : RuntimePolicyStore) : RuntimePolicyStore :=
  if terminalUsageTokenCount usagePayload ≤ 0 then store
  else accumulateTerminalQuota quotaPolicies actor input .tokenActualRate .terminalUsageEvent
    (terminalUsageTokenCount usagePayload) store

def finalizeRuntimeStreamDurationQuotaTerminal (quotaPolicies : List QuotaPolicyRecord) (actor : AuthenticatedActor)
    (input : TerminalUsageInput) (store : RuntimePolicyStore) : RuntimePolicyStore :=
  if !input.replayCase.streaming then store
  else accumulateTerminalQuota quotaPolicies actor input .streamDuration .streamStart
    (runtimeStreamDurationSeconds input) store

def finalizeRuntimeQuotaTerminal (quotaPolicies : List QuotaPolicyRecord) (actor : AuthenticatedActor)
    (input : TerminalUsageInput) (usagePayload : Json) (store : RuntimePolicyStore) : RuntimePolicyStore :=
  if !store.runtimePolicyHotStateAvailable then store
  else finalizeRuntimeStreamDurationQuotaTerminal quotaPolicies actor input
    (finalizeRuntimeTokenActualQuotaTerminal quotaPolicies actor input usagePayload store)

end Starweaver.Gateway
