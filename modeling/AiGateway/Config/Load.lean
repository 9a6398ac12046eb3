import AiGateway.Config.Traffic

/-!
# Loading the configuration

`Config::try_read` of `config/mod.rs` with all of its sections: the default configuration is
written as JSON, the user's configuration is merged into it, the result is read, and the key
for the control plane is taken from the environment again.

`Config.Same` is the field of two configurations at a path being the same. What the user's
configuration has nothing of (`Absent`) is what the default is there for.

* `Config.loads`: what comes of the default at the paths the user's configuration is
  silent on;
* `defaults_survive_iff`: it is kept, except for the secrets.
-/

namespace AiGateway.Sections

open Serde

/-! ### The configuration -/

/-- The fields of `HeliconeConfig`, which has a reader of its own. -/
def heliconeFields (formats : Formats) : List (Field DeError HeliconeConfig) := [
  { key := "api-key", codec := secret deserializeString, get := HeliconeConfig.apiKey },
  { key := "base-url", codec := url formats, get := HeliconeConfig.baseUrl },
  { key := "websocket-url", codec := url formats, get := HeliconeConfig.websocketUrl },
  { key := "features"
    codec := .leaf (fun features => .str features.asStr) HeliconeFeatures.deserialize
    get := HeliconeConfig.features }]

/-- `HeliconeConfig`. -/
def helicone (formats : Formats) (env : Option String) : Codec DeError HeliconeConfig where
  serialize config := .obj config.serialize
  deserialize := HeliconeConfig.deserialize formats.parseUrl env
  Same := SameFields (heliconeFields formats)
  same_refl a path := by
    cases path with
    | nil => exact fun f _ => f.codec.same_refl _ _
    | cons key path => exact fun f _ _ => f.codec.same_refl _ _

/-- `Config`. -/
structure Config where
  telemetry : TelemetryConfig
  server : ServerConfig
  minio : MinioConfig
  database : DatabaseConfig
  dispatcher : DispatcherConfig
  discover : DiscoverConfig
  responseHeaders : ResponseHeadersConfig
  deploymentTarget : DeploymentTarget
  defaultModelMapping : List (ModelName × NESet ModelName)
  helicone : HeliconeConfig
  providers : List (InferenceProvider × GlobalProviderConfig)
  cacheStore : CacheStore
  rateLimitStore : RateLimitStore
  global : MiddlewareConfig
  routers : List (RouterId × RouterConfig)

section Config

variable (formats : Formats) (embedded : Embedded) (env : Option String)

/-- `Config::default`, in an environment. -/
def Config.default : Config where
  telemetry := .default
  server := .default
  minio := .default
  database := .default
  dispatcher := .default
  discover := .default
  responseHeaders := .default
  deploymentTarget := .sidecar
  defaultModelMapping := embedded.modelMapping
  helicone := HeliconeConfig.default env
  providers := embedded.providers
  cacheStore := .default
  rateLimitStore := .inMemory
  global := .default
  routers := defaultRouters

/-- The sections, around the codec of one of them. -/
def Config.sections (heliconeCodec : Codec DeError HeliconeConfig) : Record DeError Config where
  members := [
    { key := "telemetry", codec := TelemetryConfig.record.codec, get := telemetry
      set := fun v s => { s with telemetry := v } },
    { key := "server", codec := (ServerConfig.record formats).codec, get := server
      set := fun v s => { s with server := v } },
    { key := "minio", codec := (MinioConfig.record formats).codec, get := minio
      set := fun v s => { s with minio := v } },
    { key := "database", codec := (DatabaseConfig.record formats).codec, get := database
      set := fun v s => { s with database := v } },
    { key := "dispatcher", codec := (DispatcherConfig.record formats).codec, get := dispatcher
      set := fun v s => { s with dispatcher := v } },
    { key := "discover", codec := (DiscoverConfig.record formats).codec, get := discover
      set := fun v s => { s with discover := v } },
    { key := "response-headers", codec := ResponseHeadersConfig.record.codec
      get := responseHeaders, set := fun v s => { s with responseHeaders := v } },
    { key := "deployment-target", codec := Sections.deploymentTarget, get := deploymentTarget
      set := fun v s => { s with deploymentTarget := v } },
    { key := "default-model-mapping", codec := modelMapping, get := defaultModelMapping
      set := fun v s => { s with defaultModelMapping := v } },
    { key := "helicone", codec := heliconeCodec, get := Config.helicone
      set := fun v s => { s with helicone := v } },
    { key := "providers", codec := Sections.providers formats, get := Config.providers
      set := fun v s => { s with providers := v } },
    { key := "cache-store", codec := (CacheStore.tagged formats).codec, get := cacheStore
      set := fun v s => { s with cacheStore := v } },
    { key := "rate-limit-store", codec := (RateLimitStore.tagged formats).codec
      get := rateLimitStore, set := fun v s => { s with rateLimitStore := v } },
    { key := "global", codec := (MiddlewareConfig.record formats).codec, get := global
      set := fun v s => { s with global := v } },
    { key := "routers", codec := Sections.routers formats, get := Config.routers
      set := fun v s => { s with routers := v } }]
  base := .default embedded env
  invalid := .invalidType
  unknown := some .unknownField
  nodup := by simp
  apart := by simp [Member.Apart]

def Config.record : Record DeError Config :=
  sections formats embedded env (Sections.helicone formats env)

/-- The key for the control plane, taken from the environment again. -/
def withApiKey (config : HeliconeConfig) : HeliconeConfig :=
  match env with
  | some key => { config with apiKey := ⟨key⟩ }
  | none => config

/-- `try_read`, once the sources of the user's configuration have been collected. -/
def tryRead (inputConfig : Json) : Except DeError Config :=
  let defaultConfig := (Config.record formats embedded env).serialize (.default embedded env)
  ((Config.record formats embedded env).deserialize (Json.merge defaultConfig inputConfig)).map
    fun config => { config with helicone := withApiKey env config.helicone }

/-- Both configurations have the same at a path: the same fields from there on, or at least one
of them has no field there. -/
def Config.Same (a b : Config) (path : List String) : Prop :=
  (Config.record formats embedded env).codec.Same a b path

/-- The loader, as a codec. -/
def Config.loader : Codec DeError Config where
  serialize := (record formats embedded env).serialize
  deserialize value := ((record formats embedded env).deserialize value).map
    fun config => { config with helicone := withApiKey env config.helicone }
  Same := Config.Same formats embedded env
  same_refl := (record formats embedded env).codec.same_refl

end Config

/-! ### The key for the control plane -/

section Helicone

variable {formats : Formats} {env : Option String}

/-- `withApiKey`, on the key. -/
def restoredKey (env : Option String) (key : Secret) : Secret := (env.map Secret.mk).getD key

/-- The fields of `helicone`, with the key that is put in afterwards. -/
def restoredFields (formats : Formats) (env : Option String) :
    List (Field DeError HeliconeConfig) := [
  { key := "api-key"
    codec := .leaf Secret.serialize fun value =>
      ((deserializeString value).map Secret.mk).map (restoredKey env)
    get := HeliconeConfig.apiKey },
  { key := "base-url", codec := url formats, get := HeliconeConfig.baseUrl },
  { key := "websocket-url", codec := url formats, get := HeliconeConfig.websocketUrl },
  { key := "features"
    codec := .leaf (fun features => .str features.asStr) HeliconeFeatures.deserialize
    get := HeliconeConfig.features }]

/-- The codec of `helicone`, with the key that is put in afterwards. -/
def restored (formats : Formats) (env : Option String) : Codec DeError HeliconeConfig :=
  { helicone formats env with
    deserialize := fun value => ((helicone formats env).deserialize value).map (withApiKey env) }

/-- What is lost of `helicone`: nothing if the environment has the key. -/
def lostKey : Option String → List (List String)
  | some _ => []
  | none => [["api-key"]]

theorem apiKey_withApiKey (config : HeliconeConfig) :
    (withApiKey env config).apiKey = restoredKey env config.apiKey := by
  cases env with
  | none => rfl
  | some key => rfl

/-- The other fields stay as they are. -/
theorem withApiKey_frame (config : HeliconeConfig) :
    (withApiKey env config).baseUrl = config.baseUrl ∧
      (withApiKey env config).websocketUrl = config.websocketUrl ∧
      (withApiKey env config).features = config.features := by
  cases env with
  | none => exact ⟨rfl, rfl, rfl⟩
  | some key => exact ⟨rfl, rfl, rfl⟩

/-- The default has the key of the environment already. -/
theorem withApiKey_default : withApiKey env (HeliconeConfig.default env) = .default env := by
  cases env with
  | none => rfl
  | some key => rfl

/-- The codec of URLs reads as the reader of `helicone` does. -/
theorem deserialize_url (formats : Formats) (value : Json) :
    (url formats).deserialize value = deserializeUrl formats.parseUrl value := by
  cases value with
  | str s =>
    show orInvalid s (formats.parseUrl s) = deserializeUrl formats.parseUrl (.str s)
    unfold deserializeUrl
    dsimp only
    cases formats.parseUrl s with
    | none => rfl
    | some url => rfl
  | null | bool | num | arr | obj => rfl

/-- What the reader of `helicone` makes of the members it knows. -/
theorem restored_member {doc : Fields} {config : HeliconeConfig}
    (h : (restored formats env).deserialize (.obj doc) = .ok config) :
    ∀ f ∈ restoredFields formats env, ∀ value, Json.get doc f.key = some value →
      f.codec.deserialize value = .ok (f.get config) := by
  obtain ⟨read, hread, rfl⟩ := Except.map_eq_ok_iff.mp h
  obtain ⟨v, hv, rfl⟩ := Except.map_eq_ok_iff.mp hread
  -- the environment decides about the key alone
  obtain ⟨hbase, hwebsocket, hfeatures⟩ :=
    @withApiKey_frame env (HeliconeConfig.Visitor.finish env v)
  simp only [restoredFields, List.forall_mem_cons]
  refine ⟨fun value hvalue => ?_, fun value hvalue => ?_, fun value hvalue => ?_,
    fun value hvalue => ?_, by simp⟩
  · obtain ⟨a, ha, hslot⟩ :=
      (HeliconeConfig.apiKeySlot formats.parseUrl).read_of_get hv rfl hvalue
    have hkey : (HeliconeConfig.Visitor.finish env v).apiKey = a :=
      congrArg (Option.getD · (defaultApiKey env)) hslot
    rw [apiKey_withApiKey, hkey]
    exact Except.map_eq_ok_iff.mpr ⟨a, ha, rfl⟩
  · obtain ⟨a, ha, hslot⟩ :=
      (HeliconeConfig.baseUrlSlot formats.parseUrl).read_of_get hv rfl hvalue
    have hurl : (HeliconeConfig.Visitor.finish env v).baseUrl = a :=
      congrArg (Option.getD · defaultBaseUrl) hslot
    rw [hbase, hurl]
    exact (deserialize_url formats value).trans ha
  · obtain ⟨a, ha, hslot⟩ :=
      (HeliconeConfig.websocketUrlSlot formats.parseUrl).read_of_get hv rfl hvalue
    have hurl : (HeliconeConfig.Visitor.finish env v).websocketUrl = a :=
      congrArg (Option.getD · defaultWebsocketUrl) hslot
    rw [hwebsocket, hurl]
    exact (deserialize_url formats value).trans ha
  · obtain ⟨a, ha, hslot⟩ :=
      (HeliconeConfig.featuresSlot formats.parseUrl).read_of_get hv rfl hvalue
    have hmode : (HeliconeConfig.Visitor.finish env v).features = a :=
      congrArg (Option.getD · _) hslot
    rw [hfeatures, hmode]
    exact ha

/-- `helicone` is read field by field, and none of its fields has fields of its own. -/
theorem restored_readsFields : (restored formats env).ReadsFields (restoredFields formats env)
    (HeliconeConfig.default env) (lostKey env) := by
  -- one field after the other
  have hleaf : ∀ f ∈ restoredFields formats env,
      f.codec.NoFields ∧ f.skip (f.get (HeliconeConfig.default env)) = false := by
    simp only [restoredFields, List.forall_mem_cons]
    exact ⟨⟨Codec.noFields_leaf, trivial⟩, ⟨Codec.noFields_leaf, trivial⟩,
      ⟨Codec.noFields_leaf, trivial⟩, ⟨Codec.noFields_leaf, trivial⟩, by simp⟩
  refine ⟨fun b path => ?_, ⟨_, rfl, ?_⟩,
    fun doc b hread f hf value hvalue => Or.inl (restored_member hread f hf value hvalue),
    fun doc b _ f hf _ path hpath => (hleaf f hf).1 _ _ path (hpath.resolve_right ?_)⟩
  · -- the two lists of fields differ in a reader only
    change SameFields (heliconeFields formats) b _ path ↔ _
    cases path with
    | nil =>
      simp only [SameFields, heliconeFields, restoredFields, List.forall_mem_cons]
      exact Iff.rfl
    | cons key path =>
      simp only [SameFields, heliconeFields, restoredFields, List.forall_mem_cons]
      exact Iff.rfl
  · simp only [restoredFields, List.forall_mem_cons]
    exact ⟨rfl, rfl, rfl, rfl, by simp⟩
  · rw [(hleaf f hf).2]
    exact Bool.false_ne_true

/-- **What is kept of `helicone`**: without the environment, all but the key. -/
theorem restored_keeps (h : formats.Sound) :
    (restored formats env).Keeps (HeliconeConfig.default env) (lostKey env) := by
  have hbase : (url formats).Keeps defaultBaseUrl [] :=
    serialized_keeps (h.url _ (by simp [defaultUrls]))
  have hwebsocket : (url formats).Keeps defaultWebsocketUrl [] :=
    serialized_keeps (h.url _ (by simp [defaultUrls]))
  have hfeatures : (Codec.leaf (fun features => .str features.asStr)
      HeliconeFeatures.deserialize).Keeps .none [] :=
    Codec.leaf_keeps fun _ hread => (Except.ok.inj hread).symm
  cases env with
  | none =>
    refine Codec.keeps_of_fields restored_readsFields (by simp [lostKey, restoredFields]) ?_
    simp only [restoredFields, List.forall_mem_cons]
    refine ⟨.of rfl rfl (Codec.leaf_loses fun b hread heq => ?_), .of rfl rfl hbase,
      .of rfl rfl hwebsocket, .of rfl rfl hfeatures, by simp⟩
    -- the key comes back as its mask
    have hmask : b = ⟨"*****"⟩ := (Except.ok.inj hread).symm
    rw [hmask] at heq
    exact absurd (congrArg Secret.expose heq) (by simp [HeliconeConfig.default, defaultApiKey])
  | some key =>
    refine Codec.keeps_of_fields restored_readsFields (by simp [lostKey]) ?_
    simp only [restoredFields, List.forall_mem_cons]
    exact ⟨.of rfl rfl (Codec.leaf_keeps fun b hread => (Except.ok.inj hread).symm),
      .of rfl rfl hbase, .of rfl rfl hwebsocket, .of rfl rfl hfeatures, by simp⟩

end Helicone

/-! ### The defaults -/

section Defaults

variable {formats : Formats} {embedded : Embedded} {env : Option String}

/-- The secrets that are masked when the default is written, and not put in again. -/
def maskedSecrets (env : Option String) : List (List String) :=
  [["minio", "access-key"], ["minio", "secret-key"]] ++
    (lostKey env).map ("helicone" :: ·)

/-- The loader reads every section by its codec, and `helicone` with the key put in. -/
theorem Config.loader_readsFields :
    (loader formats embedded env).ReadsFields
      (sections formats embedded env (restored formats env)).fields (.default embedded env)
      (maskedSecrets env) := by
  refine ⟨fun b path => ?_, ?_, fun doc b hread => ?_, fun doc b hread => ?_⟩
  · change SameFields (record formats embedded env).fields b _ path ↔ _
    cases path with
    | nil =>
      simp only [SameFields, Record.fields, record, sections, List.map_cons, List.map_nil,
        List.forall_mem_cons]
      exact Iff.rfl
    | cons key path =>
      simp only [SameFields, Record.fields, record, sections, List.map_cons, List.map_nil,
        List.forall_mem_cons]
      exact Iff.rfl
  -- what the loader writes is what its record writes
  · have hwritten : ((sections formats embedded env (restored formats env)).codec.ReadsFields
        (sections formats embedded env (restored formats env)).fields (.default embedded env)
        (maskedSecrets env)) := Record.readsFields fun f _ _ _ => f.codec.same_refl _ _
    exact hwritten.written
  -- a member that is there is read by its codec, whichever of the fifteen it is
  · obtain ⟨config, hconfig, rfl⟩ := Except.map_eq_ok_iff.mp hread
    have hmember := Record.get_of_member hconfig
    refine fun f hf value hvalue => Or.inl ?_
    revert f
    simp only [Record.fields, record, sections, List.map_cons, List.map_nil, List.forall_mem_cons]
      at hmember ⊢
    obtain ⟨h₁, h₂, h₃, h₄, h₅, h₆, h₇, h₈, h₉, hhelicone, h₁₁, h₁₂, h₁₃, h₁₄, h₁₅, -⟩ := hmember
    exact ⟨h₁ value, h₂ value, h₃ value, h₄ value, h₅ value, h₆ value, h₇ value, h₈ value,
      h₉ value, fun hvalue => Except.map_eq_ok_iff.mpr ⟨_, hhelicone value hvalue, rfl⟩,
      h₁₁ value, h₁₂ value, h₁₃ value, h₁₄ value, h₁₅ value, by simp⟩
  -- one that is not there has its default, and so has the key that is put in
  · obtain ⟨config, hconfig, rfl⟩ := Except.map_eq_ok_iff.mp hread
    have hnone := Record.get_of_noMember hconfig
    suffices hget : ∀ f ∈ (sections formats embedded env (restored formats env)).fields,
        Json.get doc f.key = none →
          f.get { config with helicone := withApiKey env config.helicone } =
            f.get (default embedded env) by
      intro f hf hfnone path _
      rw [hget f hf hfnone]
      exact f.codec.same_refl _ _
    simp only [Record.fields, record, sections, List.map_cons, List.map_nil, List.forall_mem_cons]
      at hnone ⊢
    obtain ⟨h₁, h₂, h₃, h₄, h₅, h₆, h₇, h₈, h₉, hhelicone, h₁₁, h₁₂, h₁₃, h₁₄, h₁₅, -⟩ := hnone
    refine ⟨h₁, h₂, h₃, h₄, h₅, h₆, h₇, h₈, h₉, fun hfnone => ?_, h₁₁, h₁₂, h₁₃, h₁₄, h₁₅,
      by simp⟩
    rw [hhelicone hfnone]
    exact withApiKey_default

/-- **What comes of the defaults.** -/
theorem Config.loads (h : formats.Sound) (hembedded : embedded.Sound formats) :
    (loader formats embedded env).Keeps (.default embedded env) (maskedSecrets env) := by
  -- the secrets are in two of the sections
  have hlost : below "helicone" (maskedSecrets env) = lostKey env := by
    cases env with
    | none => rfl
    | some key => rfl
  have hminio : below "minio" (maskedSecrets env) = [["access-key"], ["secret-key"]] := by
    cases env with
    | none => rfl
    | some key => rfl
  have hother : ∀ key, key ≠ "minio" → key ≠ "helicone" → below key (maskedSecrets env) = [] := by
    intro key hkey hkey'
    cases env with
    | none => simp [below, maskedSecrets, lostKey, hkey.symm, hkey'.symm]
    | some value => simp [below, maskedSecrets, lostKey, hkey.symm]
  refine Codec.keeps_of_fields loader_readsFields ?_ ?_
  · cases env with
    | none => simp [maskedSecrets, lostKey, Record.fields, sections]
    | some key => simp [maskedSecrets, lostKey, Record.fields, sections]
  · simp only [Record.fields, sections, List.map_cons, List.map_nil, List.forall_mem_cons]
    exact ⟨.of rfl (hother _ (by simp) (by simp)) TelemetryConfig.keeps,
      .of rfl (hother _ (by simp) (by simp)) (ServerConfig.keeps h),
      .of rfl hminio (MinioConfig.keeps h),
      .of rfl (hother _ (by simp) (by simp)) (DatabaseConfig.keeps h),
      .of rfl (hother _ (by simp) (by simp)) (DispatcherConfig.keeps h),
      .of rfl (hother _ (by simp) (by simp)) (DiscoverConfig.keeps h),
      .of rfl (hother _ (by simp) (by simp)) ResponseHeadersConfig.keeps,
      .of rfl (hother _ (by simp) (by simp)) deploymentTarget_keeps,
      .of rfl (hother _ (by simp) (by simp)) (modelMapping_keeps embedded),
      .of rfl hlost (restored_keeps h),
      .of rfl (hother _ (by simp) (by simp)) (providers_keeps hembedded),
      .of rfl (hother _ (by simp) (by simp)) (CacheStore.keeps formats),
      .of rfl (hother _ (by simp) (by simp)) (RateLimitStore.keeps formats),
      .of rfl (hother _ (by simp) (by simp)) (MiddlewareConfig.keeps formats),
      .of rfl (hother _ (by simp) (by simp)) (routers_keeps formats), by simp⟩

end Defaults

/-- **Which defaults survive.** For every input the loader accepts, every environment and every
path the input has nothing at, the configuration that is loaded has what the default has
there, unless the path is missing from an object of the input and one of the masked secrets is
at it or below it. -/
theorem defaults_survive_iff (formats : Formats) (h : formats.Sound) (embedded : Embedded)
    (hembedded : embedded.Sound formats) (env : Option String) (inputConfig : Json)
    (hdistinct : inputConfig.DistinctKeys) (config : Config)
    (hread : tryRead formats embedded env inputConfig = .ok config) (path : List String)
    (habsent : Absent path inputConfig) :
    Config.Same formats embedded env config (.default embedded env) path ↔
      ¬ (Missing path inputConfig ∧ ∃ secret ∈ maskedSecrets env, path <+: secret) := by
  have hloads : (Config.loader formats embedded env).Keeps (.default embedded env)
      (maskedSecrets env) := Config.loads h hembedded
  rcases habsent with hmissing | hremoved
  · rw [and_iff_right hmissing]
    exact hloads.missing inputConfig config hdistinct hread path hmissing
  -- a null for the whole configuration is no object, and is refused
  · have hnull : inputConfig ≠ .null := by
      rintro rfl
      cases hread
    refine iff_of_true (hloads.removed inputConfig config hdistinct hnull hread path hremoved) ?_
    rintro ⟨hmissing, -⟩
    exact hmissing.not_removed hremoved

/-- The formats, on the values of the defaults. -/
def defaultFormats : Formats where
  formatDuration d :=
    if d.secs = 1 then "1s"
    else if d.secs = 5 then "5s"
    else if d.secs = 10 then "10s"
    else if d.secs = 30 then "30s"
    else if d.secs = 60 then "1m"
    else if d.secs = 600 then "10m"
    else if d.secs = 900 then "15m"
    else "30m"
  parseDuration s :=
    if s = "1s" then some (seconds 1)
    else if s = "5s" then some (seconds 5)
    else if s = "10s" then some (seconds 10)
    else if s = "30s" then some (seconds 30)
    else if s = "1m" then some (seconds 60)
    else if s = "10m" then some (seconds 600)
    else if s = "15m" then some (seconds 900)
    else if s = "30m" then some (seconds 1800)
    else none
  parseUrl := some
  parseIpAddr := some
  formatDecimal _ := "0.1"
  parseDecimal _ := some (1 / 10)

theorem defaultFormats_sound : defaultFormats.Sound := by
  refine ⟨?_, fun _ _ => rfl, rfl, rfl⟩
  simp only [defaultSeconds, List.forall_mem_cons]
  exact ⟨rfl, rfl, rfl, rfl, rfl, rfl, rfl, rfl, by simp⟩

/-- An entry of each of the embedded tables. -/
def oneModel : Embedded where
  providers := [(.anthropic,
    ⟨["claude-3-7-sonnet".toList], "https://api.anthropic.com/", some "2023-06-01"⟩)]
  modelMapping := [("gpt-4o".toList,
    ⟨["claude-3-7-sonnet".toList], List.nodup_singleton _, List.cons_ne_nil _ _⟩)]

theorem oneModel_sound : oneModel.Sound defaultFormats := by
  simp only [oneModel]
  refine ⟨?_, ?_, fun _ _ => rfl⟩
  · simp [InferenceProvider.fromStr, InferenceProvider.asStr]
  · simp

/-- A configuration that says which port to listen on. -/
def portConfig : Json := .obj [("server", .obj [("port", .num 9000 0)])]

/-- The address is the one of the default then. -/
theorem defaults_survive_iff_port :
    ∃ config, tryRead defaultFormats oneModel none portConfig = .ok config ∧
      Config.Same defaultFormats oneModel none config (.default oneModel none)
        ["server", "address"] := by
  refine ⟨_, rfl, (defaults_survive_iff defaultFormats defaultFormats_sound oneModel oneModel_sound
    none portConfig ⟨by simp, ⟨by simp, trivial, trivial⟩, trivial⟩ _ rfl ["server", "address"]
    (Or.inl trivial)).mpr ?_⟩
  rintro ⟨-, secret, hsecret, hpath⟩
  simp only [maskedSecrets, lostKey, List.map_cons, List.map_nil, List.cons_append, List.nil_append,
    List.mem_cons, List.not_mem_nil, or_false] at hsecret
  rcases hsecret with rfl | rfl | rfl
  · simp at hpath
  · simp at hpath
  · simp at hpath

/-- **Without a configuration, the keys of the store are masked.** -/
theorem defaults_survive_fails :
    ¬ ∀ (inputConfig : Json), inputConfig.DistinctKeys → ∀ config,
      tryRead defaultFormats oneModel none inputConfig = .ok config →
        ∀ path, Absent path inputConfig →
          Config.Same defaultFormats oneModel none config (.default oneModel none) path := by
  intro h
  obtain ⟨config, hread, hkey⟩ : ∃ config,
      tryRead defaultFormats oneModel none (.obj []) = .ok config ∧
        config.minio.accessKey = ⟨"*****"⟩ := ⟨_, rfl, rfl⟩
  have hsame := h (.obj []) ⟨by simp, trivial⟩ config hread ["minio", "access-key"]
    (Or.inl trivial)
  have hminio : (MinioConfig.record defaultFormats).codec.Same config.minio .default
      ["access-key"] :=
    hsame _ (List.mem_map.mpr ⟨_, .tail _ (.tail _ (.head _)), rfl⟩) rfl
  have haccess : config.minio.accessKey = ⟨"minioadmin"⟩ :=
    hminio _ (List.mem_map.mpr ⟨_, .tail _ (.tail _ (.tail _ (.tail _ (.head _)))), rfl⟩) rfl rfl
  rw [hkey] at haccess
  exact absurd (congrArg Secret.expose haccess) (by simp)

end AiGateway.Sections
