import AiGateway.Framework.Json
import AiGateway.Framework.RustStd

/-!
# Helicone configuration

`config/helicone.rs`: the configuration of Helicone, its default, how it is written,
and how it is read. The reader accepts the two booleans that were there before
`features`, and falls back to them when `features` is missing.

A URL is its serialization, and `parseUrl` reads one. The environment is the value of
`HELICONE_CONTROL_PLANE_API_KEY`, if it is set.

`features_deserialize` is the precedence between `features` and the booleans.
-/

namespace AiGateway

open Serde

/-! ### The features -/

/-- The mode of the Helicone features. -/
inductive HeliconeFeatures
  | none
  /-- Authentication only. -/
  | auth
  /-- Authentication and observability. -/
  | all
  deriving DecidableEq, Repr

namespace HeliconeFeatures

def isAuthEnabled (features : HeliconeFeatures) : Bool := features = auth || features = all

def isObservabilityEnabled (features : HeliconeFeatures) : Bool := features = all

/-- Whatever is observed is authenticated. -/
theorem isAuthEnabled_of_observability {features : HeliconeFeatures}
    (h : features.isObservabilityEnabled = true) : features.isAuthEnabled = true := by
  cases features with
  | none => cases h
  | auth => cases h
  | all => rfl

/-- The precedence between the booleans: observability includes authentication. -/
def ofSwitches (authentication observability : Option Bool) : HeliconeFeatures :=
  match authentication, observability with
  | _, some true => all
  | some true, some false | some true, Option.none => auth
  | _, _ => none

/-- The booleans ask for nothing exactly when neither is true. -/
theorem ofSwitches_eq_none_iff {authentication observability : Option Bool} :
    ofSwitches authentication observability = none ↔
      authentication ≠ some true ∧ observability ≠ some true := by
  match authentication, observability with
  | Option.none, Option.none | Option.none, some false | some false, Option.none
  | some false, some false => decide
  | Option.none, some true | some false, some true | some true, some true => decide
  | some true, Option.none | some true, some false => decide

/-- The variants as they are written. -/
def asStr : HeliconeFeatures → String
  | none => "none"
  | auth => "auth"
  | all => "all"

end HeliconeFeatures

/-! ### Reading values -/

/-- The errors of the reader. -/
inductive DeError
  | invalidType
  | invalidValue (value : String)
  | unknownVariant (variant : String)
  | unknownField (field : String)
  | missingField (field : String)
  | duplicateField (field : String)
  deriving DecidableEq

def deserializeString : Json → Except DeError String
  | .str s => .ok s
  | _ => .error .invalidType

def deserializeBool : Json → Except DeError Bool
  | .bool b => .ok b
  | _ => .error .invalidType

def deserializeUrl (parseUrl : String → Option String) : Json → Except DeError String
  | .str s =>
    match parseUrl s with
    | some url => .ok url
    | none => .error (.invalidValue s)
  | _ => .error .invalidType

namespace HeliconeFeatures

def ofVariant (variant : String) : Except DeError HeliconeFeatures :=
  if variant = "none" then .ok none
  else if variant = "auth" then .ok auth
  else if variant = "all" then .ok all
  else .error (.unknownVariant variant)

/-- A variant is a string, or an object of one member that holds nothing. -/
def deserialize : Json → Except DeError HeliconeFeatures
  | .str s => ofVariant s
  | .obj [(variant, .null)] => ofVariant variant
  | _ => .error .invalidType

/-- A mode is read as it is written. -/
theorem deserialize_asStr (features : HeliconeFeatures) :
    deserialize (.str features.asStr) = .ok features := by
  cases features with
  | none => rfl
  | auth => rfl
  | all => rfl

end HeliconeFeatures

/-! ### The configuration -/

/-- `Secret<String>`. -/
structure Secret where
  expose : String

/-- A secret is written without what it holds. -/
def Secret.serialize (_ : Secret) : Json := .str "*****"

structure HeliconeConfig where
  apiKey : Secret
  baseUrl : String
  websocketUrl : String
  features : HeliconeFeatures

def defaultApiKey (env : Option String) : Secret := ⟨env.getD "sk-helicone-..."⟩

def defaultBaseUrl : String := "https://api.helicone.ai/"

def defaultWebsocketUrl : String := "wss://api.helicone.ai/ws/v1/router/control-plane"

namespace HeliconeConfig

/-- `Default`. -/
def default (env : Option String) : HeliconeConfig where
  apiKey := defaultApiKey env
  baseUrl := defaultBaseUrl
  websocketUrl := defaultWebsocketUrl
  features := .none

/-- `Serialize`: every field is written, the default or not. -/
def serialize (config : HeliconeConfig) : Fields :=
  [("api-key", config.apiKey.serialize), ("base-url", .str config.baseUrl),
    ("websocket-url", .str config.websocketUrl), ("features", .str config.features.asStr)]

/-! ### The reader -/

/-- What the visitor has read. -/
structure Visitor where
  apiKey : Option Secret
  baseUrl : Option String
  websocketUrl : Option String
  features : Option HeliconeFeatures
  authentication : Option Bool
  observability : Option Bool

/-- Fill a slot of the visitor. -/
def fill {α : Type} (name : String) (slot : Option α) (value : Except DeError α) :
    Except DeError (Option α) :=
  if slot.isSome then .error (.duplicateField name) else value.map some

/-- `visit_map`, for one member. -/
def visit (parseUrl : String → Option String) (v : Visitor) (p : String × Json) :
    Except DeError Visitor :=
  if p.1 = "api-key" then
    (fill "api_key" v.apiKey ((deserializeString p.2).map Secret.mk)).map
      fun slot => { v with apiKey := slot }
  else if p.1 = "base-url" then
    (fill "base_url" v.baseUrl (deserializeUrl parseUrl p.2)).map
      fun slot => { v with baseUrl := slot }
  else if p.1 = "websocket-url" then
    (fill "websocket_url" v.websocketUrl (deserializeUrl parseUrl p.2)).map
      fun slot => { v with websocketUrl := slot }
  else if p.1 = "features" then
    (fill "features" v.features (HeliconeFeatures.deserialize p.2)).map
      fun slot => { v with features := slot }
  else if p.1 = "authentication" then
    (fill "authentication" v.authentication (deserializeBool p.2)).map
      fun slot => { v with authentication := slot }
  else if p.1 = "observability" then
    (fill "observability" v.observability (deserializeBool p.2)).map
      fun slot => { v with observability := slot }
  else .error (.unknownField p.1)

/-- The end of `visit_map`: what is missing gets its default. -/
def Visitor.finish (env : Option String) (v : Visitor) : HeliconeConfig where
  apiKey := v.apiKey.getD (defaultApiKey env)
  baseUrl := v.baseUrl.getD defaultBaseUrl
  websocketUrl := v.websocketUrl.getD defaultWebsocketUrl
  features := v.features.getD (HeliconeFeatures.ofSwitches v.authentication v.observability)

/-- `Deserialize`. -/
def deserialize (parseUrl : String → Option String) (env : Option String) :
    Json → Except DeError HeliconeConfig
  | .obj fields =>
    (visitMap (visit parseUrl) ⟨none, none, none, none, none, none⟩ fields).map
      (Visitor.finish env)
  | _ => .error .invalidType

/-! ### The precedence -/

theorem fill_eq_ok {α : Type} {name : String} {slot slot' : Option α} {value : Except DeError α}
    (h : fill name slot value = .ok slot') :
    slot = none ∧ ∃ a, value = .ok a ∧ slot' = some a := by
  unfold fill at h
  cases slot with
  | some a => cases h
  | none =>
    cases value with
    | error e => cases h
    | ok a => exact ⟨rfl, a, rfl, (Except.ok.inj h).symm⟩

/-- **What one member can do.** It fills the slot of its key. -/
theorem visit_cases {parseUrl : String → Option String} {v v' : Visitor} {p : String × Json}
    (h : visit parseUrl v p = .ok v') :
    (p.1 = "api-key" ∧ ∃ slot, v' = { v with apiKey := slot }) ∨
    (p.1 = "base-url" ∧ ∃ slot, v' = { v with baseUrl := slot }) ∨
    (p.1 = "websocket-url" ∧ ∃ slot, v' = { v with websocketUrl := slot }) ∨
    (p.1 = "features" ∧ ∃ slot, v' = { v with features := slot }) ∨
    (p.1 = "authentication" ∧ ∃ slot, v' = { v with authentication := slot }) ∨
    (p.1 = "observability" ∧ ∃ slot, v' = { v with observability := slot }) := by
  -- one case for each key the reader knows, in the order it tries them
  unfold visit at h
  split at h
  · next hkey =>
    obtain ⟨slot, -, rfl⟩ := Except.map_eq_ok_iff.mp h
    exact Or.inl ⟨hkey, slot, rfl⟩
  split at h
  · next hkey =>
    obtain ⟨slot, -, rfl⟩ := Except.map_eq_ok_iff.mp h
    exact Or.inr (Or.inl ⟨hkey, slot, rfl⟩)
  split at h
  · next hkey =>
    obtain ⟨slot, -, rfl⟩ := Except.map_eq_ok_iff.mp h
    exact Or.inr (Or.inr (Or.inl ⟨hkey, slot, rfl⟩))
  split at h
  · next hkey =>
    obtain ⟨slot, -, rfl⟩ := Except.map_eq_ok_iff.mp h
    exact Or.inr (Or.inr (Or.inr (Or.inl ⟨hkey, slot, rfl⟩)))
  split at h
  · next hkey =>
    obtain ⟨slot, -, rfl⟩ := Except.map_eq_ok_iff.mp h
    exact Or.inr (Or.inr (Or.inr (Or.inr (Or.inl ⟨hkey, slot, rfl⟩))))
  split at h
  · next hkey =>
    obtain ⟨slot, -, rfl⟩ := Except.map_eq_ok_iff.mp h
    exact Or.inr (Or.inr (Or.inr (Or.inr (Or.inr ⟨hkey, slot, rfl⟩))))
  · cases h

/-- A member of any other key leaves a slot alone. -/
theorem visit_frame {parseUrl : String → Option String} {v v' : Visitor} {p : String × Json}
    (h : visit parseUrl v p = .ok v') :
    (p.1 ≠ "api-key" → v'.apiKey = v.apiKey) ∧
    (p.1 ≠ "base-url" → v'.baseUrl = v.baseUrl) ∧
    (p.1 ≠ "websocket-url" → v'.websocketUrl = v.websocketUrl) ∧
    (p.1 ≠ "features" → v'.features = v.features) ∧
    (p.1 ≠ "authentication" → v'.authentication = v.authentication) ∧
    (p.1 ≠ "observability" → v'.observability = v.observability) := by
  rcases visit_cases h with ⟨hkey, slot, rfl⟩ | ⟨hkey, slot, rfl⟩ | ⟨hkey, slot, rfl⟩ |
    ⟨hkey, slot, rfl⟩ | ⟨hkey, slot, rfl⟩ | ⟨hkey, slot, rfl⟩
  · exact ⟨absurd hkey, fun _ => rfl, fun _ => rfl, fun _ => rfl, fun _ => rfl, fun _ => rfl⟩
  · exact ⟨fun _ => rfl, absurd hkey, fun _ => rfl, fun _ => rfl, fun _ => rfl, fun _ => rfl⟩
  · exact ⟨fun _ => rfl, fun _ => rfl, absurd hkey, fun _ => rfl, fun _ => rfl, fun _ => rfl⟩
  · exact ⟨fun _ => rfl, fun _ => rfl, fun _ => rfl, absurd hkey, fun _ => rfl, fun _ => rfl⟩
  · exact ⟨fun _ => rfl, fun _ => rfl, fun _ => rfl, fun _ => rfl, absurd hkey, fun _ => rfl⟩
  · exact ⟨fun _ => rfl, fun _ => rfl, fun _ => rfl, fun _ => rfl, fun _ => rfl, absurd hkey⟩

/-- A member that fills a slot finds it empty. -/
theorem fill_of_visit {α : Type} {name : String} {slot : Option α} {value : Except DeError α}
    {put : Option α → Visitor} {v' : Visitor} {read : Visitor → Option α}
    (hput : ∀ slot, read (put slot) = slot)
    (h : (fill name slot value).map put = .ok v') :
    slot = none ∧ ∃ a, value = .ok a ∧ read v' = some a := by
  obtain ⟨slot', hfill, rfl⟩ := Except.map_eq_ok_iff.mp h
  rw [hput]
  exact fill_eq_ok hfill

section Slots

variable (parseUrl : String → Option String)

def apiKeySlot : Slot (visit parseUrl) Secret where
  key := "api-key"
  read := Visitor.apiKey
  deserialize value := (deserializeString value).map Secret.mk
  fills _ _ _ h := fill_of_visit (fun _ => rfl) h
  frame _ _ _ h := (visit_frame h).1

def baseUrlSlot : Slot (visit parseUrl) String where
  key := "base-url"
  read := Visitor.baseUrl
  deserialize := deserializeUrl parseUrl
  fills _ _ _ h := fill_of_visit (fun _ => rfl) h
  frame _ _ _ h := (visit_frame h).2.1

def websocketUrlSlot : Slot (visit parseUrl) String where
  key := "websocket-url"
  read := Visitor.websocketUrl
  deserialize := deserializeUrl parseUrl
  fills _ _ _ h := fill_of_visit (fun _ => rfl) h
  frame _ _ _ h := (visit_frame h).2.2.1

def featuresSlot : Slot (visit parseUrl) HeliconeFeatures where
  key := "features"
  read := Visitor.features
  deserialize := HeliconeFeatures.deserialize
  fills _ _ _ h := fill_of_visit (fun _ => rfl) h
  frame _ _ _ h := (visit_frame h).2.2.2.1

def authenticationSlot : Slot (visit parseUrl) Bool where
  key := "authentication"
  read := Visitor.authentication
  deserialize := deserializeBool
  fills _ _ _ h := fill_of_visit (fun _ => rfl) h
  frame _ _ _ h := (visit_frame h).2.2.2.2.1

def observabilitySlot : Slot (visit parseUrl) Bool where
  key := "observability"
  read := Visitor.observability
  deserialize := deserializeBool
  fills _ _ _ h := fill_of_visit (fun _ => rfl) h
  frame _ _ _ h := (visit_frame h).2.2.2.2.2

end Slots

/-- The value of a switch. -/
def switch (fields : Fields) (key : String) : Option Bool :=
  match Json.get fields key with
  | some (.bool b) => some b
  | _ => none

/-- A slot of a switch ends up with its value. -/
theorem read_visit_switch {parseUrl : String → Option String} {fields : Fields} {v : Visitor}
    (slot : Slot (visit parseUrl) Bool) (hslot : slot.deserialize = deserializeBool)
    (hempty : slot.read ⟨none, none, none, none, none, none⟩ = none)
    (h : visitMap (visit parseUrl) ⟨none, none, none, none, none, none⟩ fields = .ok v) :
    slot.read v = switch fields slot.key := by
  have hread := slot.read_visit h hempty
  unfold switch
  cases hget : Json.get fields slot.key with
  | none =>
    rw [hget] at hread
    exact hread
  | some value =>
    rw [hget] at hread
    obtain ⟨b, hb, hv⟩ := hread
    -- only a boolean is read as a switch
    rw [hslot] at hb
    cases value with
    | bool b' =>
      obtain rfl := Except.ok.inj hb
      exact hv
    | null => cases hb
    | num mantissa decimals => cases hb
    | str s => cases hb
    | arr items => cases hb
    | obj fields => cases hb

/-- **The precedence of the reader.** `features` decides if it is there, and the
booleans otherwise. -/
theorem features_deserialize {parseUrl : String → Option String} {env : Option String}
    {fields : Fields} {config : HeliconeConfig}
    (h : deserialize parseUrl env (.obj fields) = .ok config) :
    match Json.get fields "features" with
    | some value => HeliconeFeatures.deserialize value = .ok config.features
    | none => config.features =
        HeliconeFeatures.ofSwitches (switch fields "authentication") (switch fields "observability")
    := by
  obtain ⟨v, hv, rfl⟩ := Except.map_eq_ok_iff.mp h
  have hfeatures := (featuresSlot parseUrl).read_visit hv rfl
  -- what is read last is what the field had, or nothing
  cases hget : Json.get fields "features" with
  | some value =>
    rw [show Json.get fields (featuresSlot parseUrl).key = some value from hget] at hfeatures
    obtain ⟨features, hread, hv'⟩ := hfeatures
    change HeliconeFeatures.deserialize value = .ok (v.features.getD _)
    rw [show v.features = some features from hv']
    exact hread
  | none =>
    rw [show Json.get fields (featuresSlot parseUrl).key = none from hget] at hfeatures
    change v.features = none at hfeatures
    have hauth := read_visit_switch (authenticationSlot parseUrl) rfl rfl hv
    have hobserv := read_visit_switch (observabilitySlot parseUrl) rfl rfl hv
    change v.features.getD _ = _
    rw [hfeatures]
    exact congrArg₂ HeliconeFeatures.ofSwitches hauth hobserv

end HeliconeConfig

end AiGateway
