import Mathlib.Tactic.Common

/-!
# Services in layers

A service is called with a request. It may send messages before it returns, and a layer in front
of it decides whether a request gets through to it, in what form, and what becomes of the
result. A layer in front of a service makes a service again, so that layers can be stacked.

What a stack sends is what the service behind it sends, for the requests that get through. So
whether a stack sends anything is a matter of what its layers maintain of a request.

* `forall_mem_of_copies`: a call that sends nothing or copies of one message;
* `layer_of_error`, `layer_of_ok`: a request that is answered by a layer, and one that is not;
* `Silent.layer`: what a layer maintains of the requests that get through it decides for which
  requests the stack is silent;
* `Sends.layer`: and what the stack sends for the others.
-/

namespace Layered

variable {Message Request Request' Result Result' : Type*}

/-- A call: the messages it sends, in their order, and the result. -/
structure Call (Message Result : Type*) where
  sent : List Message
  result : Result

namespace Call

/-- A result without a message. -/
def answer (result : Result) : Call Message Result := ⟨[], result⟩

def map (f : Result → Result') (call : Call Message Result) : Call Message Result' :=
  ⟨call.sent, f call.result⟩

@[simp] theorem sent_map (f : Result → Result') (call : Call Message Result) :
    (call.map f).sent = call.sent := rfl

theorem map_map {Result'' : Type*} (f : Result → Result') (g : Result' → Result'')
    (call : Call Message Result) : (call.map f).map g = call.map fun result => g (f result) := rfl

end Call

/-- What is sent has `P` if it is nothing, or copies of one message with `P`. -/
theorem forall_mem_of_copies {P : Message → Prop} {copies : Message → ℕ} {sent : List Message}
    (h : sent = [] ∨ ∃ message, sent = List.replicate (copies message) message ∧ P message) :
    ∀ message ∈ sent, P message := by
  rcases h with rfl | ⟨message, rfl, hP⟩
  · exact fun _ hmem => absurd hmem List.not_mem_nil
  · intro message' hmem
    rw [List.eq_of_mem_replicate hmem]
    exact hP

/-- A service. -/
abbrev Service (Request Message Result : Type*) := Request → Call Message Result

/-- A layer: it answers a request itself or lets it through, and turns the result of a request that
got through into its own. -/
structure Layer (Request Request' Result Result' : Type*) where
  enter : Request → Except Result' Request'
  leave : Request → Result → Result'

namespace Layer

/-- The layer in front of a service. -/
def layer (l : Layer Request Request' Result Result') (service : Service Request' Message Result) :
    Service Request Message Result' := fun req =>
  match l.enter req with
  | .error result => .answer result
  | .ok req' => (service req').map (l.leave req)

variable (service : Service Request' Message Result)
  {l : Layer Request Request' Result Result'} {req : Request}

theorem layer_of_error {result : Result'} (h : l.enter req = .error result) :
    l.layer service req = .answer result := by
  unfold layer
  rw [h]

theorem layer_of_ok {req' : Request'} (h : l.enter req = .ok req') :
    l.layer service req = (service req').map (l.leave req) := by
  unfold layer
  rw [h]

/-- The requests with `P` that get through a layer have `P'` behind it. -/
def Maintains (l : Layer Request Request' Result Result') (P : Request → Prop)
    (P' : Request' → Prop) : Prop :=
  ∀ req req', P req → l.enter req = .ok req' → P' req'

end Layer

/-- The service sends nothing for the requests with `P`. -/
def Silent (service : Service Request Message Result) (P : Request → Prop) : Prop :=
  ∀ req, P req → (service req).sent = []

/-- No request is one with a property that none has. -/
theorem silent_false (service : Service Request Message Result) : Silent service fun _ => False :=
  fun _ h => h.elim

/-- **A stack is silent** for requests that get through its layer, if at all, as requests for
which the service behind it is silent. -/
theorem Silent.layer {service : Service Request' Message Result} {P : Request → Prop}
    {P' : Request' → Prop} (h : Silent service P') {l : Layer Request Request' Result Result'}
    (hl : l.Maintains P P') : Silent (l.layer service) P := by
  intro req hP
  cases hreq : l.enter req with
  | error result =>
    rw [Layer.layer_of_error service hreq]
    rfl
  | ok req' =>
    rw [Layer.layer_of_ok service hreq]
    exact h req' (hl req req' hP hreq)

/-- What the service sends for the requests with `R`, all of it together, has `P`. -/
def Sends (service : Service Request Message Result) (R : Request → Prop)
    (P : List Message → Prop) : Prop :=
  ∀ req, R req → P (service req).sent

/-- **What a stack sends** is what the service behind its layer sends, or nothing. -/
theorem Sends.layer {service : Service Request' Message Result} {R : Request → Prop}
    {R' : Request' → Prop} {P : List Message → Prop} (h : Sends service R' P) (hnil : P [])
    {l : Layer Request Request' Result Result'} (hl : l.Maintains R R') :
    Sends (l.layer service) R P := by
  intro req hR
  cases hreq : l.enter req with
  | error result =>
    rw [Layer.layer_of_error service hreq]
    exact hnil
  | ok req' =>
    rw [Layer.layer_of_ok service hreq]
    exact h req' (hl req req' hR hreq)

end Layered
