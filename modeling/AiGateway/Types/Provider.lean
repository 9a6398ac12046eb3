/-!
# Providers and their endpoints

`types/provider.rs` and `endpoints/mod.rs`: the inference providers the gateway
knows, and the endpoints it calls. A provider that is not built in is `named`.
-/

namespace AiGateway

/-- An inference provider. -/
inductive InferenceProvider
  | openAI
  | anthropic
  | bedrock
  | ollama
  | googleGemini
  | named (name : String)
  deriving DecidableEq, Repr

namespace InferenceProvider

/-- `FromStr`: every string names a provider. -/
def fromStr (s : String) : InferenceProvider :=
  if s = "openai" then openAI
  else if s = "anthropic" then anthropic
  else if s = "bedrock" then bedrock
  else if s = "ollama" then ollama
  else if s = "gemini" then googleGemini
  else named s

/-- `AsRef<str>`, which is also what `Display` writes. -/
def asStr : InferenceProvider → String
  | named name => name
  | openAI => "openai"
  | anthropic => "anthropic"
  | bedrock => "bedrock"
  | ollama => "ollama"
  | googleGemini => "gemini"

/-- The name of a provider is the string it is read from. -/
theorem asStr_fromStr (s : String) : (fromStr s).asStr = s := by
  unfold fromStr
  repeat' split
  all_goals first | exact Eq.symm ‹_› | rfl

end InferenceProvider

inductive EndpointType
  | chat
  | image
  | audio
  deriving DecidableEq, Repr

/-- The endpoint of a provider. Each has one route, the one for chat. -/
inductive ApiEndpoint
  | openAI
  | anthropic
  | google
  | ollama
  | bedrock
  deriving DecidableEq, Repr

namespace ApiEndpoint

def provider : ApiEndpoint → InferenceProvider
  | openAI => .openAI
  | anthropic => .anthropic
  | google => .googleGemini
  | ollama => .ollama
  | bedrock => .bedrock

def endpointType : ApiEndpoint → EndpointType := fun _ => .chat

/-- `InvalidRequestError::UnsupportedProvider`. -/
structure UnsupportedProvider where
  provider : InferenceProvider

/-- `ApiEndpoint::mapped`: the endpoint of another provider that answers the same requests. -/
def mapped : ApiEndpoint → InferenceProvider → Except UnsupportedProvider ApiEndpoint
  | openAI, .anthropic => .ok anthropic
  | openAI, .openAI => .ok openAI
  | openAI, .googleGemini => .ok google
  | openAI, .ollama => .ok ollama
  | openAI, .bedrock => .ok bedrock
  | _, target => .error ⟨target⟩

/-- Mapping an endpoint keeps its type, and it is one of the target. -/
theorem mapped_spec {source target : ApiEndpoint} {p : InferenceProvider}
    (h : source.mapped p = .ok target) :
    target.provider = p ∧ target.endpointType = source.endpointType := by
  unfold mapped at h
  split at h <;> cases h <;> exact ⟨rfl, rfl⟩

end ApiEndpoint

end AiGateway
