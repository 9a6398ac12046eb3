import AiGateway.Config.Helicone

/-!
# Reading the configuration

`Config::try_read` of `config/mod.rs`: the default configuration is written as JSON, the
user's configuration is merged into it, and the result is read. Of the sections of the
configuration only `helicone` is modelled; the others are written as `defaultRest` and
read by `deserializeRest`.

Each of the three stages is right by itself. Together they are not, as the default that
is written names every field of `helicone`, and so `features` is never missing when the
merged configuration is read.

* `features_of_absent`: without `features` in the user's configuration the default one is
  read, whatever the switches say;
* `features_of_null`: a `features` that is null is removed by the merge, and the switches
  decide;
* `features_eq_switches_iff`: the switches keep their meaning when neither is true.
-/

namespace AiGateway

open Serde

/-- `Config`. -/
structure Config (Rest : Type) where
  helicone : HeliconeConfig
  rest : Rest

variable {Rest : Type}

/-! ### The code -/

/-- The default configuration as JSON. -/
def defaultConfig (env : Option String) (defaultRest : Fields) : Json :=
  .obj (("helicone", .obj (HeliconeConfig.default env).serialize) :: defaultRest)

/-- `Deserialize` of `Config`: a missing section gets its default. -/
def deserializeConfig (parseUrl : String → Option String) (env : Option String)
    (deserializeRest : Fields → Except DeError Rest) : Json → Except DeError (Config Rest)
  | .obj fields =>
    let helicone := match Json.get fields "helicone" with
      | some value => HeliconeConfig.deserialize parseUrl env value
      | none => .ok (HeliconeConfig.default env)
    match helicone, deserializeRest (Json.remove fields "helicone") with
    | .ok helicone, .ok rest => .ok ⟨helicone, rest⟩
    | .error e, _ => .error e
    | _, .error e => .error e
  | _ => .error .invalidType

/-- `try_read`, once the sources of the user's configuration have been collected. The
secret, which the default was written without, is taken from the environment again. -/
def tryRead (parseUrl : String → Option String) (env : Option String) (defaultRest : Fields)
    (deserializeRest : Fields → Except DeError Rest) (inputConfig : Json) :
    Except DeError (Config Rest) :=
  (deserializeConfig parseUrl env deserializeRest
    (Json.merge (defaultConfig env defaultRest) inputConfig)).map fun config =>
      match env with
      | some key => { config with helicone := { config.helicone with apiKey := ⟨key⟩ } }
      | none => config

/-! ### The user's configuration -/

/-- What the user's configuration says of a field of `helicone`. -/
def userField (inputConfig : Json) (key : String) : Option Json :=
  (inputConfig.field "helicone").bind fun helicone => helicone.field key

/-- A switch of the user. -/
def userSwitch (inputConfig : Json) (key : String) : Option Bool :=
  match userField inputConfig key with
  | some (.bool b) => some b
  | _ => none

/-! ### The merged section -/

/-- The section is read off its member, and a missing one is the default. -/
theorem helicone_deserializeConfig {parseUrl : String → Option String} {env : Option String}
    {deserializeRest : Fields → Except DeError Rest} {fields : Fields} {config : Config Rest}
    (h : deserializeConfig parseUrl env deserializeRest (.obj fields) = .ok config) :
    match Json.get fields "helicone" with
    | some value => HeliconeConfig.deserialize parseUrl env value = .ok config.helicone
    | none => config.helicone = HeliconeConfig.default env := by
  unfold deserializeConfig at h
  dsimp only at h
  split at h
  · next helicone rest hhelicone hrest =>
    obtain rfl := Except.ok.inj h
    cases hget : Json.get fields "helicone" with
    | some value =>
      rw [hget] at hhelicone
      exact hhelicone
    | none =>
      rw [hget] at hhelicone
      exact (Except.ok.inj hhelicone).symm
  · cases h
  · cases h

/-- **What is read** is an object of the user's, merged into the defaults. The secret that is
put in afterwards does not matter for the features. -/
theorem exists_of_tryRead {parseUrl : String → Option String} {env : Option String}
    {defaultRest : Fields} {deserializeRest : Fields → Except DeError Rest} {inputConfig : Json}
    {config : Config Rest}
    (h : tryRead parseUrl env defaultRest deserializeRest inputConfig = .ok config) :
    ∃ patch config', inputConfig = .obj patch ∧
      deserializeConfig parseUrl env deserializeRest (.obj (Json.mergeFields
        (("helicone", .obj (HeliconeConfig.default env).serialize) :: defaultRest) patch)) =
          .ok config' ∧
      config.helicone.features = config'.helicone.features := by
  obtain ⟨config', hread, hconfig⟩ := Except.map_eq_ok_iff.mp h
  have hfeatures : config.helicone.features = config'.helicone.features := by
    rw [← hconfig]
    cases env <;> rfl
  -- the merge with anything else is no object
  cases inputConfig with
  | obj patch => exact ⟨patch, config', rfl, hread, hfeatures⟩
  | null => cases hread
  | bool b => cases hread
  | num mantissa decimals => cases hread
  | str s => cases hread
  | arr items => cases hread

/-- **How `helicone` is read.** The user's configuration is an object. Either its
`helicone` is null and the default is taken, or the members of `helicone` are those of
the default, merged with the user's. -/
theorem helicone_tryRead {parseUrl : String → Option String} {env : Option String}
    {defaultRest : Fields} {deserializeRest : Fields → Except DeError Rest} {inputConfig : Json}
    (hdistinct : inputConfig.DistinctKeys) {config : Config Rest}
    (h : tryRead parseUrl env defaultRest deserializeRest inputConfig = .ok config) :
    (inputConfig.field "helicone" = some .null ∧ config.helicone.features = .none) ∨
      ∃ merged read, HeliconeConfig.deserialize parseUrl env (.obj merged) = .ok read ∧
        config.helicone.features = read.features ∧
        ∀ key, Json.get merged key = Json.mergeMember
          (Json.get (HeliconeConfig.default env).serialize key) (userField inputConfig key) := by
  obtain ⟨patch, config', rfl, hread, hfeatures⟩ := exists_of_tryRead h
  rw [hfeatures]
  obtain ⟨hnodup, hin⟩ := hdistinct
  -- `helicone` is the first of the defaults, and the user's section is merged into it
  have hmember : Json.get (Json.mergeFields
      (("helicone", .obj (HeliconeConfig.default env).serialize) :: defaultRest) patch)
      "helicone" = Json.mergeMember (some (.obj (HeliconeConfig.default env).serialize))
        (Json.get patch "helicone") := by
    rw [Json.get_mergeFields hnodup, Json.get_cons, if_pos rfl]
  have hsection := helicone_deserializeConfig hread
  rw [hmember] at hsection
  change (Json.get patch "helicone" = some .null ∧ _) ∨ _
  have huser : ∀ key, userField (.obj patch) key =
      (Json.get patch "helicone").bind fun helicone => helicone.field key := fun _ => rfl
  cases hpatch : Json.get patch "helicone" with
  -- without a section the defaults are read as they are
  | none =>
    rw [hpatch] at hsection
    refine Or.inr ⟨(HeliconeConfig.default env).serialize, _, hsection, rfl, fun key => ?_⟩
    rw [huser, hpatch]
    rfl
  | some value =>
    rw [hpatch] at hsection
    cases value with
    -- a null section replaces the defaults, and is read as the default
    | null =>
      refine Or.inl ⟨rfl, ?_⟩
      rw [show config'.helicone = HeliconeConfig.default env from hsection]
      rfl
    | obj patch' =>
      have hdistinct' : (Json.obj patch').DistinctKeys := hin.of_get hpatch
      refine Or.inr ⟨Json.mergeFields (HeliconeConfig.default env).serialize patch', _,
        hsection, rfl, fun key => ?_⟩
      rw [Json.get_mergeFields hdistinct'.1, huser, hpatch]
      rfl
    | bool b => cases hsection
    | num mantissa decimals => cases hsection
    | str s => cases hsection
    | arr items => cases hsection

/-! ### The features -/

/-- **Without `features`, the default one is read.** The switches are not looked at. -/
theorem features_of_absent {parseUrl : String → Option String} {env : Option String}
    {defaultRest : Fields} {deserializeRest : Fields → Except DeError Rest} {inputConfig : Json}
    (hdistinct : inputConfig.DistinctKeys) {config : Config Rest}
    (h : tryRead parseUrl env defaultRest deserializeRest inputConfig = .ok config)
    (habsent : userField inputConfig "features" = none) : config.helicone.features = .none := by
  obtain ⟨-, hnone⟩ | ⟨merged, read, hread, hfeatures, hmerged⟩ := helicone_tryRead hdistinct h
  · exact hnone
  · -- the default was written with its `features`, and the merge keeps it
    have hdefault : Json.get merged "features" = some (.str "none") := by
      rw [hmerged, habsent]
      rfl
    have hprecedence := HeliconeConfig.features_deserialize hread
    rw [hdefault] at hprecedence
    have hnone := hprecedence.symm.trans (HeliconeFeatures.deserialize_asStr .none)
    rw [hfeatures]
    exact Except.ok.inj hnone

/-- **With `features` null, the switches decide.** -/
theorem features_of_null {parseUrl : String → Option String} {env : Option String}
    {defaultRest : Fields} {deserializeRest : Fields → Except DeError Rest} {inputConfig : Json}
    (hdistinct : inputConfig.DistinctKeys) {config : Config Rest}
    (h : tryRead parseUrl env defaultRest deserializeRest inputConfig = .ok config)
    (hnull : userField inputConfig "features" = some .null) :
    config.helicone.features = HeliconeFeatures.ofSwitches
      (userSwitch inputConfig "authentication") (userSwitch inputConfig "observability") := by
  obtain ⟨hhelicone, -⟩ | ⟨merged, read, hread, hfeatures, hmerged⟩ := helicone_tryRead hdistinct h
  · unfold userField at hnull
    rw [hhelicone] at hnull
    cases hnull
  · have hremoved : Json.get merged "features" = none := by
      rw [hmerged, hnull]
      rfl
    -- the default writes no switches: those that are read are the user's
    have hswitch : ∀ key, Json.get (HeliconeConfig.default env).serialize key = none →
        HeliconeConfig.switch merged key = userSwitch inputConfig key := by
      intro key hkey
      unfold HeliconeConfig.switch userSwitch
      rw [hmerged, hkey]
      cases userField inputConfig key with
      | none => rfl
      | some value => cases value <;> rfl
    have hprecedence := HeliconeConfig.features_deserialize hread
    rw [hremoved] at hprecedence
    rw [hfeatures, hprecedence, hswitch "authentication" rfl, hswitch "observability" rfl]

/-- **When the switches keep their meaning.** Without `features` in the user's
configuration, the effective one is what the switches stand for exactly when neither of
them is true. -/
theorem features_eq_switches_iff (parseUrl : String → Option String) (env : Option String)
    (defaultRest : Fields) (deserializeRest : Fields → Except DeError Rest) (inputConfig : Json)
    (hdistinct : inputConfig.DistinctKeys) (habsent : userField inputConfig "features" = none)
    (config : Config Rest)
    (h : tryRead parseUrl env defaultRest deserializeRest inputConfig = .ok config) :
    config.helicone.features = HeliconeFeatures.ofSwitches
        (userSwitch inputConfig "authentication") (userSwitch inputConfig "observability") ↔
      userSwitch inputConfig "authentication" ≠ some true ∧
        userSwitch inputConfig "observability" ≠ some true := by
  rw [features_of_absent hdistinct h habsent, eq_comm]
  exact HeliconeFeatures.ofSwitches_eq_none_iff

/-- A configuration with one switch. -/
def switchConfig (key : String) (value : Bool) : Json :=
  .obj [("helicone", .obj [(key, .bool value)])]

/-- With authentication switched off, there is none. -/
theorem features_eq_switches_off :
    ∃ config : Config Unit, tryRead some none [] (fun _ => .ok ())
        (switchConfig "authentication" false) = .ok config ∧
      config.helicone.features = HeliconeFeatures.ofSwitches (some false) none :=
  ⟨_, rfl, (features_eq_switches_iff some none [] (fun _ => .ok ())
    (switchConfig "authentication" false)
    ⟨by simp, ⟨by simp, trivial, trivial⟩, trivial⟩ rfl _ rfl).mpr ⟨by decide, by decide⟩⟩

/-- **With authentication switched on, there is none either.** -/
theorem features_eq_switches_fails :
    ¬ ∀ (inputConfig : Json), inputConfig.DistinctKeys → userField inputConfig "features" = none →
      ∀ config : Config Unit,
        tryRead some none [] (fun _ => .ok ()) inputConfig = .ok config →
        config.helicone.features = HeliconeFeatures.ofSwitches
          (userSwitch inputConfig "authentication") (userSwitch inputConfig "observability") := by
  intro h
  have hfeatures := h (switchConfig "authentication" true)
    ⟨by simp, ⟨by simp, trivial, trivial⟩, trivial⟩ rfl _ rfl
  exact absurd hfeatures (by decide)

end AiGateway
