import Starweaver.Library.Calendar

namespace Starweaver.Gateway

open Library.Calendar

inductive GatewayError
  | authentication
  | authorization (reason : String)
  | badRequest (message : String)
  | notFound (resource : String)
  | noRoute (reason : String)
  | budgetExceeded (reason : String)
  | quotaExceeded (reason : String)
  | requestTimeout
  | notReady
  | upstream (reason : String)
  | internal (message : String)
deriving DecidableEq, Repr

abbrev Result (α : Type) := Except GatewayError α

inductive ProtocolFamily
  | openAiResponses
  | openAiChat
  | anthropicMessages
  | geminiGenerateContent
  | bedrockConverse
  | providerNative
deriving DecidableEq, Repr

def ProtocolFamily.asStr : ProtocolFamily → String
  | .openAiResponses => "openai_responses"
  | .openAiChat => "openai_chat"
  | .anthropicMessages => "anthropic_messages"
  | .geminiGenerateContent => "gemini_generate_content"
  | .bedrockConverse => "bedrock_converse"
  | .providerNative => "provider_native"

theorem ProtocolFamily.asStr_injective : Function.Injective ProtocolFamily.asStr := by
  intro a b h
  cases a <;> cases b <;> first | rfl | exact absurd h (by decide)

inductive ResourceStatus
  | active
  | disabled
  | draining
  | degraded
  | deleted
deriving DecidableEq, Repr

def ResourceStatus.isActive : ResourceStatus → Bool
  | .active => true
  | _ => false

@[simp] theorem ResourceStatus.isActive_iff {status : ResourceStatus} :
    status.isActive = true ↔ status = .active := by
  cases status <;> simp [isActive]

inductive ActorKind
  | user
  | serviceAccount
  | apiKey
  | internalService
  | system
deriving DecidableEq, Repr

structure AuthenticatedActor where
  actorId : String
  actorKind : ActorKind
  tenantId : String
  organizationId : Option String
  projectId : Option String
  principalId : Option String
  apiKeyId : Option String
  requestId : String
  traceId : String
deriving DecidableEq, Repr

def tenantActor : AuthenticatedActor :=
  ⟨"actor_1", .apiKey, "tenant_1", none, none, none, some "key_1", "request_1", "trace_1"⟩

structure ProviderEndpoint where
  providerEndpointId : String
  tenantId : String
  name : String
  providerKind : String
  protocolFamilies : List ProtocolFamily
  upstreamBaseUrl : String
  status : ResourceStatus
deriving DecidableEq, Repr

inductive EmergencyOperationKind
  | disableUpstreamCredential
  | disableProviderEndpoint
  | drainRoutingGroup
  | freezeConfig
  | rollbackConfigSnapshot
  | forceBudgetBlock
deriving DecidableEq, Repr

inductive EmergencyTargetKind
  | upstreamCredential
  | providerEndpoint
  | routingGroup
  | config
  | configSnapshot
  | budgetPolicy
deriving DecidableEq, Repr

/-- Emergency operations are only ever stored as applied, so the record carries no status. -/
structure EmergencyOperationRecord where
  tenantId : String
  operationKind : EmergencyOperationKind
  targetResourceKind : EmergencyTargetKind
  targetResourceId : String
  expiresAt : DateTime
deriving DecidableEq, Repr

end Starweaver.Gateway
