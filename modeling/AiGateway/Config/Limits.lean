import AiGateway.Config.RateLimit
import AiGateway.Framework.Json
import AiGateway.Types.Router

/-!
# Reading the rate limits

The sections of the configuration that rate limits are written in: the global middleware and
the store (`config/mod.rs`, `config/rate_limit.rs`, `config/redis.rs`), and the routers
(`config/router.rs`). They are read off the user's configuration, merged into the default one.
A reader that fails is `none`.

The limits of a router are read strictly. The global ones are an `Option` that is flattened
into its record, and what cannot be read is left out.

* `globalEntry_merged`, `routerEntry_merged`: where a limit is found after the merge;
* `limits_of_tryRead`: the global limit that is read, if there is one;
* `exists_router_of_tryRead`: the limit of a router is the one that was written.
-/

namespace AiGateway.Limits

open Serde

/-! ### Values -/

/-- What is used of other crates, and of the sections that are not modelled. -/
structure Readers where
  /-- `humantime::parse_duration`. -/
  parseDuration : String → Option Duration
  parseUrl : String → Option String
  /-- The global cache. -/
  cache : Json → Option Unit
  /-- The other fields of a router. -/
  router : Fields → Option Unit
  /-- The other sections. -/
  sections : Fields → Option Unit
  /-- How the default of these is written. -/
  defaultLoadBalance : Json
  defaultSections : Fields

/-- `NonZeroU32`. -/
def NonZeroU32 : Type := {n : ℕ // 0 < n ∧ n ≤ u32Max}

def readNonZeroU32 : Json → Option NonZeroU32
  | .num mantissa 0 =>
    if h : 0 < mantissa.toNat ∧ mantissa.toNat ≤ u32Max then some ⟨mantissa.toNat, h⟩ else none
  | _ => none

def readString : Json → Option String
  | .str s => some s
  | _ => none

/-- `Option`: a null is nothing. -/
def readOption {α : Type} (read : Json → Option α) : Json → Option (Option α)
  | .null => some none
  | value => (read value).map some

/-- A field with a default. -/
def readField {α : Type} (fields : Fields) (key : String) (default : α) (read : Json → Option α) :
    Option α :=
  match Json.get fields key with
  | some value => read value
  | none => some default

/-- An element of a list with a default. -/
def readItem {α : Type} (items : List Json) (i : ℕ) (default : α) (read : Json → Option α) :
    Option α :=
  match items[i]? with
  | some value => read value
  | none => some default

/-- A record of two fields with defaults, which denies unknown fields. It is read off an object,
or off the list of its fields. -/
def readPair {α β : Type} (key₁ : String) (default₁ : α) (read₁ : Json → Option α) (key₂ : String)
    (default₂ : β) (read₂ : Json → Option β) : Json → Option (α × β)
  | .obj fields =>
    if ∀ p ∈ fields, p.1 = key₁ ∨ p.1 = key₂ then do
      let first ← readField fields key₁ default₁ read₁
      let second ← readField fields key₂ default₂ read₂
      return (first, second)
    else none
  | .arr items =>
    if items.length ≤ 2 then do
      let first ← readItem items 0 default₁ read₁
      let second ← readItem items 1 default₂ read₂
      return (first, second)
    else none
  | _ => none

section Readers

variable (readers : Readers)

def readDuration (value : Json) : Option Duration := (readString value).bind readers.parseDuration

def readUrl (value : Json) : Option String := (readString value).bind readers.parseUrl

/-! ### Limits -/

def defaultCapacity : NonZeroU32 := ⟨AiGateway.defaultCapacity, by decide⟩

def readGcraConfig (value : Json) : Option GcraConfig :=
  (readPair "refill-frequency" defaultRefillFrequency (readDuration readers) "capacity"
    defaultCapacity readNonZeroU32 value).map fun (refillFrequency, capacity) =>
      ⟨refillFrequency, capacity.1, capacity.2.1, capacity.2.2⟩

/-- `LimitsConfig`, flattened into another record: its field is required, and those of the
other record are not its business. -/
def readLimitsConfig (fields : Fields) : Option LimitsConfig :=
  ((Json.get fields "per-api-key").bind (readGcraConfig readers)).map LimitsConfig.mk

structure GlobalRateLimitConfig where
  limits : Option LimitsConfig
  cleanupInterval : Duration

/-- 5 minutes. -/
def defaultCleanupInterval : Duration := Duration.fromSecs (60 * 5) (by decide)

/-- `GlobalRateLimitConfig`. A flattened `Option` is nothing when it cannot be read. -/
def readGlobalRateLimitConfig : Json → Option GlobalRateLimitConfig
  | .obj fields => do
    let cleanupInterval ←
      readField fields "cleanup-interval" defaultCleanupInterval (readDuration readers)
    return ⟨readLimitsConfig readers fields, cleanupInterval⟩
  | _ => none

/-- `MiddlewareConfig`, of which the rate limits are kept. -/
def readMiddlewareConfig (value : Json) : Option (Option GlobalRateLimitConfig) :=
  (readPair "cache" none (readOption readers.cache) "rate-limit" none
    (readOption (readGlobalRateLimitConfig readers)) value).map Prod.snd

/-! ### Stores -/

structure RedisConfig where
  hostUrl : String
  connectionTimeout : Duration

inductive RateLimitStore
  | inMemory
  | redis (config : RedisConfig)

def defaultUrl : String := "redis://localhost:6379"

def defaultConnectionTimeout : Duration := Duration.fromSecs 1 Duration.one_le_u64Max

def readRedisConfig (value : Json) : Option RedisConfig :=
  (readPair "host-url" defaultUrl (readUrl readers) "connection-timeout" defaultConnectionTimeout
    (readDuration readers) value).map fun (hostUrl, connectionTimeout) =>
      ⟨hostUrl, connectionTimeout⟩

/-- The variant of a tag. -/
def readTagged (tag content : Json) : Option RateLimitStore :=
  match readString tag with
  | some tag =>
    if tag = "in-memory" then some .inMemory
    else if tag = "redis" then (readRedisConfig readers content).map .redis
    else none
  | none => none

/-- `RateLimitStore`, with its tag under `type`. -/
def readRateLimitStore : Json → Option RateLimitStore
  | .obj fields =>
    (Json.get fields "type").bind fun tag =>
      readTagged readers tag (.obj (Json.remove fields "type"))
  | .arr (tag :: items) => readTagged readers tag (.arr items)
  | _ => none

/-! ### Routers -/

inductive RouterRateLimitConfig
  | none
  | custom (store : Option RateLimitStore) (limits : LimitsConfig)

/-- `RouterRateLimitConfig`, untagged. -/
def readRouterRateLimitConfig : Json → Option RouterRateLimitConfig
  | .null => some .none
  | .obj fields =>
    if ∀ p ∈ fields, p.1 = "store" ∨ p.1 = "per-api-key" then do
      let store ← readField fields "store" none (readOption (readRateLimitStore readers))
      let limits ← readLimitsConfig readers fields
      return .custom store limits
    else none
  | _ => none

/-- `RouterConfig`, of which the rate limits are kept. -/
def readRouterConfig : Json → Option RouterRateLimitConfig
  | .obj fields => do
    readers.router fields
    readField fields "rate-limit" .none (readRouterRateLimitConfig readers)
  | _ => none

/-- `RouterConfigs`. -/
def readRouterConfigs : Fields → Option (List (RouterId × RouterRateLimitConfig))
  | [] => some []
  | (id, value) :: fields => do
    let config ← readRouterConfig readers value
    let configs ← readRouterConfigs fields
    return (.deserialize id.toList, config) :: configs

/-! ### The configuration -/

/-- `Config`, as far as it is about rate limits. -/
structure Config where
  global : Option GlobalRateLimitConfig
  rateLimitStore : RateLimitStore
  routers : List (RouterId × RouterRateLimitConfig)

/-- The default configuration as JSON. -/
def defaultConfig : Json :=
  .obj ([("rate-limit-store", .obj [("type", .str "in-memory")]), ("global", .obj []),
    ("routers", .obj [("default", .obj [("load-balance", readers.defaultLoadBalance)])])] ++
      readers.defaultSections)

def readRouters : Json → Option (List (RouterId × RouterRateLimitConfig))
  | .obj fields => readRouterConfigs readers fields
  | _ => none

/-- `Deserialize` of `Config`: a missing section gets its default. -/
def readConfig : Json → Option Config
  | .obj fields => do
    readers.sections fields
    let global ← readField fields "global" none (readMiddlewareConfig readers)
    let rateLimitStore ←
      readField fields "rate-limit-store" .inMemory (readRateLimitStore readers)
    let routers ← readField fields "routers" [(.default, .none)] (readRouters readers)
    return ⟨global, rateLimitStore, routers⟩
  | _ => none

/-- `try_read`, once the sources of the user's configuration have been collected. -/
def tryRead (inputConfig : Json) : Option Config :=
  readConfig readers (Json.merge (defaultConfig readers) inputConfig)

end Readers

/-! ### The user's configuration -/

/-- What the user's configuration says of the global limit. -/
def globalEntry (inputConfig : Json) : Option Json :=
  ((inputConfig.field "global").bind fun global => global.field "rate-limit").bind
    fun rateLimit => rateLimit.field "per-api-key"

/-- What it says of the limit of a router. -/
def routerEntry (inputConfig : Json) (id : String) : Option Json :=
  ((inputConfig.field "routers").bind fun routers => routers.field id).bind
    fun router => router.field "rate-limit"

/-- What is left of an entry when its nulls have been removed. -/
def stripped (entry : Json) : Json := Json.merge .null entry

theorem stripped_ne_null {entry : Json} (h : entry ≠ .null) : stripped entry ≠ .null := by
  cases entry with
  | null => exact absurd rfl h
  | obj fields => exact fun h => by cases h
  | _ => exact h

variable {readers : Readers} {inputConfig entry : Json} {config : Config}

/-- **Where the global limit is** after the merge. -/
theorem globalEntry_merged (hdistinct : inputConfig.DistinctKeys)
    (hentry : globalEntry inputConfig = some entry) (hnull : entry ≠ .null) :
    ∃ global rateLimit,
      (Json.merge (defaultConfig readers) inputConfig).field "global" = some global ∧
      global.field "rate-limit" = some rateLimit ∧
      rateLimit.field "per-api-key" = some (stripped entry) := by
  obtain ⟨rateLimit, hrateLimit, hentry⟩ := Option.bind_eq_some_iff.mp hentry
  obtain ⟨global, hglobal, hrateLimit⟩ := Option.bind_eq_some_iff.mp hrateLimit
  have hdistinct' := hdistinct.field hglobal
  have hmerged := @Json.field_merge (defaultConfig readers) _ _ _ hdistinct hglobal
    (Json.ne_null_of_field hrateLimit)
  refine ⟨_, _, hmerged, Json.field_merge hdistinct' hrateLimit (Json.ne_null_of_field hentry), ?_⟩
  exact Json.field_merge (hdistinct'.field hrateLimit) hentry hnull

/-- **Where the limit of a router is** after the merge. -/
theorem routerEntry_merged (hdistinct : inputConfig.DistinctKeys) {id : String}
    (hentry : routerEntry inputConfig id = some entry) (hnull : entry ≠ .null) :
    ∃ routers router,
      (Json.merge (defaultConfig readers) inputConfig).field "routers" = some routers ∧
      routers.field id = some router ∧ router.field "rate-limit" = some (stripped entry) := by
  obtain ⟨router, hrouter, hentry⟩ := Option.bind_eq_some_iff.mp hentry
  obtain ⟨routers, hrouters, hrouter⟩ := Option.bind_eq_some_iff.mp hrouter
  have hdistinct' := hdistinct.field hrouters
  have hmerged := @Json.field_merge (defaultConfig readers) _ _ _ hdistinct hrouters
    (Json.ne_null_of_field hrouter)
  refine ⟨_, _, hmerged, Json.field_merge hdistinct' hrouter (Json.ne_null_of_field hentry), ?_⟩
  have hold : ((((((defaultConfig readers).field "routers").getD .null).field id).getD
      .null).field "rate-limit") = none := by
    -- only the default router is there, with its balance
    change (((Json.get [("default", Json.obj [("load-balance", readers.defaultLoadBalance)])]
      id).getD .null).field "rate-limit") = none
    rw [Json.get_cons, Json.get_nil]
    split <;> rfl
  rw [Json.field_merge (hdistinct'.field hrouter) hentry hnull, hold]
  rfl

/-! ### What is read -/

theorem exists_of_readConfig {value : Json} (h : readConfig readers value = some config) :
    ∃ fields, value = .obj fields ∧
      readField fields "global" none (readMiddlewareConfig readers) = some config.global ∧
      readField fields "rate-limit-store" .inMemory (readRateLimitStore readers) =
        some config.rateLimitStore ∧
      readField fields "routers" [(.default, .none)] (readRouters readers) =
        some config.routers := by
  cases value with
  | obj fields =>
    obtain ⟨_, -, h⟩ := Option.bind_eq_some_iff.mp h
    obtain ⟨global, hglobal, h⟩ := Option.bind_eq_some_iff.mp h
    obtain ⟨store, hstore, h⟩ := Option.bind_eq_some_iff.mp h
    obtain ⟨routers, hrouters, h⟩ := Option.bind_eq_some_iff.mp h
    cases h
    exact ⟨fields, rfl, hglobal, hstore, hrouters⟩
  | null => cases h
  | bool b => cases h
  | num mantissa decimals => cases h
  | str s => cases h
  | arr items => cases h

theorem readField_of_get {α : Type} {fields : Fields} {key : String} {value : Json} {default : α}
    {read : Json → Option α} (h : Json.get fields key = some value) :
    readField fields key default read = read value := by
  unfold readField
  rw [h]

/-- The second field of a pair. -/
theorem read_second_of_readPair {α β : Type} {key₁ key₂ : String} {default₁ : α}
    {read₁ : Json → Option α} {default₂ : β} {read₂ : Json → Option β} {value second : Json}
    {pair : α × β} (h : readPair key₁ default₁ read₁ key₂ default₂ read₂ value = some pair)
    (hfield : value.field key₂ = some second) : read₂ second = some pair.2 := by
  obtain ⟨fields, rfl, hget⟩ := Json.exists_obj_of_field hfield
  unfold readPair at h
  dsimp only at h
  split at h
  · obtain ⟨_, -, h⟩ := Option.bind_eq_some_iff.mp h
    obtain ⟨_, hsecond, h⟩ := Option.bind_eq_some_iff.mp h
    cases h
    rwa [readField_of_get hget] at hsecond
  · cases h

/-- **The global limit that is read** is the one that is written, if that can be read. -/
theorem limits_of_tryRead (hdistinct : inputConfig.DistinctKeys)
    (h : tryRead readers inputConfig = some config) (hentry : globalEntry inputConfig = some entry)
    (hnull : entry ≠ .null) :
    ∃ global, config.global = some global ∧
      global.limits = (readGcraConfig readers (stripped entry)).map LimitsConfig.mk := by
  obtain ⟨fields, hfields, hglobal, -, -⟩ := exists_of_readConfig h
  obtain ⟨middleware, rateLimit, hmiddleware, hrateLimit, hlimits⟩ :=
    @globalEntry_merged readers _ _ hdistinct hentry hnull
  rw [hfields] at hmiddleware
  rw [readField_of_get hmiddleware] at hglobal
  obtain ⟨pair, hpair, hread⟩ := Option.map_eq_some_iff.mp hglobal
  have hsecond := read_second_of_readPair hpair hrateLimit
  rw [hread] at hsecond
  obtain ⟨members, rfl, hget⟩ := Json.exists_obj_of_field hlimits
  obtain ⟨global, hglobal, hsome⟩ := Option.map_eq_some_iff.mp hsecond
  obtain ⟨interval, -, hglobal⟩ := Option.bind_eq_some_iff.mp hglobal
  refine ⟨global, hsome.symm, ?_⟩
  cases hglobal
  change ((Json.get members "per-api-key").bind _).map _ = _
  rw [hget]
  rfl

/-- Ids that are written differently are different. -/
theorem deserialize_toList_injective {id id' : String}
    (h : RouterId.deserialize id.toList = RouterId.deserialize id'.toList) : id = id' := by
  have hlist := congrArg RouterId.asStr h
  rw [RouterId.asStr_deserialize, RouterId.asStr_deserialize] at hlist
  exact String.toList_inj.mp hlist

theorem lookup_of_readRouterConfigs {fields : Fields} {id : String} {value : Json}
    {configs : List (RouterId × RouterRateLimitConfig)}
    (h : readRouterConfigs readers fields = some configs) (hget : Json.get fields id = some value) :
    ∃ config, readRouterConfig readers value = some config ∧
      configs.lookup (.deserialize id.toList) = some config := by
  induction fields generalizing configs with
  | nil => cases hget
  | cons p fields ih =>
    obtain ⟨config, hconfig, h⟩ := Option.bind_eq_some_iff.mp h
    obtain ⟨rest, hrest, h⟩ := Option.bind_eq_some_iff.mp h
    cases h
    rw [Json.get_cons] at hget
    -- ids are told apart by their texts, so the first one of this text is found
    by_cases hid : id = p.1
    · rw [if_pos hid] at hget
      cases hget
      refine ⟨config, hconfig, ?_⟩
      rw [hid]
      exact List.lookup_cons_self
    · rw [if_neg hid] at hget
      obtain ⟨config', hconfig', hlookup⟩ := ih hrest hget
      refine ⟨config', hconfig', ?_⟩
      rw [List.lookup_cons, beq_eq_false_iff_ne.mpr fun h => hid (deserialize_toList_injective h)]
      exact hlookup

/-- Nothing but a null switches the limit of a router off. -/
theorem exists_custom_of_read {value : Json} {routerConfig : RouterRateLimitConfig}
    (h : readRouterRateLimitConfig readers value = some routerConfig) (hnull : value ≠ .null) :
    ∃ store gcra, routerConfig = .custom store ⟨gcra⟩ ∧
      (value.field "per-api-key").bind (readGcraConfig readers) = some gcra := by
  cases value with
  | obj fields =>
    unfold readRouterRateLimitConfig at h
    dsimp only at h
    split at h
    · obtain ⟨store, -, h⟩ := Option.bind_eq_some_iff.mp h
      obtain ⟨limits, hlimits, h⟩ := Option.bind_eq_some_iff.mp h
      obtain ⟨gcra, hgcra, rfl⟩ := Option.map_eq_some_iff.mp hlimits
      cases h
      exact ⟨store, gcra, rfl, hgcra⟩
    · cases h
  | null => exact absurd rfl hnull
  | bool b => cases h
  | num mantissa decimals => cases h
  | str s => cases h
  | arr items => cases h

/-- **The limit of a router** is the one that is written. -/
theorem exists_router_of_tryRead (hdistinct : inputConfig.DistinctKeys)
    (h : tryRead readers inputConfig = some config) {id : String}
    (hentry : routerEntry inputConfig id = some entry) (hnull : entry ≠ .null) :
    ∃ store gcra, config.routers.lookup (.deserialize id.toList) = some (.custom store ⟨gcra⟩) ∧
      ((stripped entry).field "per-api-key").bind (readGcraConfig readers) = some gcra := by
  obtain ⟨fields, hfields, -, -, hrouters⟩ := exists_of_readConfig h
  obtain ⟨routers, router, hmerged, hrouter, hlimits⟩ :=
    @routerEntry_merged readers _ _ hdistinct _ hentry hnull
  rw [hfields] at hmerged
  rw [readField_of_get hmerged] at hrouters
  obtain ⟨entries, rfl, hget⟩ := Json.exists_obj_of_field hrouter
  obtain ⟨routerConfig, hread, hlookup⟩ := lookup_of_readRouterConfigs hrouters hget
  obtain ⟨members, rfl, hmember⟩ := Json.exists_obj_of_field hlimits
  obtain ⟨_, -, hread⟩ := Option.bind_eq_some_iff.mp hread
  rw [readField_of_get hmember] at hread
  obtain ⟨store, gcra, rfl, hgcra⟩ :=
    exists_custom_of_read hread (stripped_ne_null hnull)
  exact ⟨store, gcra, hlookup, hgcra⟩

end AiGateway.Limits
