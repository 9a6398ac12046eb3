import AiGateway.Cache.Key
import AiGateway.Cache.Message
import AiGateway.ControlPlane.State
import AiGateway.Dispatcher.Service
import AiGateway.Framework.Text
import AiGateway.Mapper.Response

/-!
# Authentication

`middleware/auth.rs`, with `hash_key` and `get_key_from_hash` of `control_plane/types.rs`. The
gateway knows the hashes of the keys only. A request is authenticated when the hash of what is left
of its `authorization` header, once every `Bearer ` is removed, is one of these.

The digest is the parameter `sha256`, and `parseUuid` reads a UUID, which is its text. The hashes
in a configuration are those of some registered keys.

* `hashKey_injective`: the hash loses nothing that the digest does not lose;
* `authorize_eq_ok_iff`: the requests that pass, and what they pass with;
* `acceptsExactly_iff`: the requests for which that is what their key says.
-/

namespace AiGateway.ControlPlane

open Http Cache

/-! ### The code -/

/-- What every key is hashed with, and what a client writes before it. -/
def bearer : List Char := "Bearer ".toList

/-- A byte as `{b:02x}`. -/
def hexByte (b : UInt8) : List Char := [(b.toNat / 16).digitChar, (b.toNat % 16).digitChar]

/-- `hash_key`. -/
def hashKey (sha256 : Bytes → Bytes) (key : List Char) : String :=
  String.ofList ((sha256 (utf8 (String.ofList (bearer ++ key)))).flatMap hexByte)

/-- `get_key_from_hash`. -/
def Config.getKeyFromHash (config : Config) (keyHash : String) : Option Key :=
  config.keys.find? fun k => k.keyHash = keyHash

inductive AuthError
  | missingAuthorizationHeader
  | invalidCredentials
  deriving DecidableEq

namespace AuthError

def toString : AuthError → String
  | missingAuthorizationHeader => "Missing authorization header"
  | invalidCredentials => "Invalid credentials"

/-- `into_response`. -/
def intoResponse (e : AuthError) : StatusCode × ErrorBody.WrappedError :=
  (.unauthorized, ⟨⟨e.toString, some "invalid_request_error", none, some "invalid_api_key"⟩⟩)

end AuthError

/-- The counters of `metrics` that the middleware adds to. -/
structure AuthMetrics where
  authAttempts : ℕ
  authRejections : ℕ

section Middleware

variable (sha256 : Bytes → Bytes) (parseUuid : String → Option String)

/-- `UserId::try_from` and `OrgId::try_from`. -/
def tryFromUuid (value : String) : Except AuthError String :=
  match parseUuid value with
  | some uuid => .ok uuid
  | none => .error .invalidCredentials

/-- `authenticate_request_inner`. -/
def authenticateRequestInner (config : Config) (apiKey : List Char) :
    Except AuthError AuthContext :=
  let apiKeyWithoutBearer := Text.remove bearer apiKey
  match config.getKeyFromHash (hashKey sha256 apiKeyWithoutBearer) with
  | some key => do
    let userId ← tryFromUuid parseUuid key.ownerId
    let orgId ← tryFromUuid parseUuid config.auth.organizationId
    return ⟨String.ofList apiKeyWithoutBearer, userId, orgId⟩
  | none => .error .invalidCredentials

/-- The key that the headers hold, as far as it is text. -/
def apiKeyOf (headers : HeaderMap) : Option (List Char) :=
  (headers.get "authorization").bind fun value => headerToStr value.bytes

/-- `authorize`: what is inserted into the extensions of a request that passes. -/
def authorize (features : HeliconeFeatures) (config : Config) (headers : HeaderMap)
    (metrics : AuthMetrics) : Except AuthError (Option AuthContext) × AuthMetrics :=
  -- `is_auth_disabled`
  if features = .none then (.ok none, metrics)
  else
    match apiKeyOf headers with
    | none => (.error .missingAuthorizationHeader, metrics)
    | some apiKey =>
      let attempted := { metrics with authAttempts := metrics.authAttempts + 1 }
      match authenticateRequestInner sha256 parseUuid config apiKey with
      | .ok authCtx => (.ok (some authCtx), attempted)
      | .error e =>
        (.error e, { attempted with authRejections := attempted.authRejections + 1 })

end Middleware

/-! ### The hash -/

/-- A byte is told by its two digits. -/
theorem hexByte_injective : Function.Injective hexByte := by
  intro a b h
  have hdigit : ∀ n < 16, ∀ m < 16, Nat.digitChar n = Nat.digitChar m → n = m := by decide
  have ha : a.toNat < 256 := a.toNat_lt
  have hb : b.toNat < 256 := b.toNat_lt
  obtain ⟨hhigh, hlow⟩ : (a.toNat / 16).digitChar = (b.toNat / 16).digitChar ∧
      (a.toNat % 16).digitChar = (b.toNat % 16).digitChar := by simpa [hexByte] using h
  have hhigh' := hdigit _ (by omega) _ (by omega) hhigh
  have hlow' := hdigit _ (by omega) _ (by omega) hlow
  exact UInt8.toNat_inj.mp (by omega)

/-- The rendering of a digest, likewise. -/
theorem flatMap_hexByte_injective :
    Function.Injective fun bytes : Bytes => bytes.flatMap hexByte := by
  intro bytes bytes' h
  induction bytes generalizing bytes' with
  | nil =>
    cases bytes' with
    | nil => rfl
    | cons b bytes' => cases h
  | cons b bytes ih =>
    cases bytes' with
    | nil => cases h
    | cons b' bytes' =>
      -- both renderings start with two digits
      obtain ⟨hb, hrest⟩ := List.append_inj (h : hexByte b ++ _ = hexByte b' ++ _) rfl
      rw [hexByte_injective hb, ih hrest]

/-- **No two keys have the same hash.** -/
theorem hashKey_injective {sha256 : Bytes → Bytes} (hsha256 : Function.Injective sha256) :
    Function.Injective (hashKey sha256) := by
  intro key key' h
  have hdigest := hsha256 (flatMap_hexByte_injective (String.ofList_injective h))
  exact List.append_cancel_left (String.ofList_injective (utf8_inj.mp hdigest))

/-! ### The middleware -/

section Middleware

variable {sha256 : Bytes → Bytes} {parseUuid : String → Option String}

/-- A request passes with the owner of the key that is left, if the ids are UUIDs. -/
theorem authenticateRequestInner_eq_ok_iff {config : Config} {apiKey : List Char}
    {ctx : AuthContext} :
    authenticateRequestInner sha256 parseUuid config apiKey = .ok ctx ↔
      (∃ key, config.getKeyFromHash (hashKey sha256 (Text.remove bearer apiKey)) = some key ∧
        parseUuid key.ownerId = some ctx.userId) ∧
      parseUuid config.auth.organizationId = some ctx.orgId ∧
      ctx.apiKey = String.ofList (Text.remove bearer apiKey) := by
  obtain ⟨apiKey', userId, orgId⟩ := ctx
  unfold authenticateRequestInner
  dsimp only
  -- the three lookups of the code, of which the first to fail decides
  cases config.getKeyFromHash (hashKey sha256 (Text.remove bearer apiKey)) with
  | none => simp
  | some key =>
    unfold tryFromUuid
    cases huser : parseUuid key.ownerId with
    | none => simp [bind, Except.bind, huser]
    | some userId' =>
      cases parseUuid config.auth.organizationId with
      | none => simp [bind, Except.bind, huser]
      | some orgId' =>
        simp only [bind, Except.bind, huser, pure, Except.pure, Except.ok.injEq,
          AuthContext.mk.injEq, Option.some.injEq, exists_eq_left']
        constructor
        · rintro ⟨rfl, rfl, rfl⟩
          exact ⟨rfl, rfl, rfl⟩
        · rintro ⟨rfl, rfl, rfl⟩
          exact ⟨rfl, rfl, rfl⟩

/-- **The requests that pass.** With authentication, a request passes when its header is text and
what is left of it is one of the keys. -/
theorem authorize_eq_ok_iff {features : HeliconeFeatures} (henabled : features.isAuthEnabled = true)
    {config : Config} {headers : HeaderMap} {metrics : AuthMetrics} {authCtx : Option AuthContext} :
    (authorize sha256 parseUuid features config headers metrics).1 = .ok authCtx ↔
      ∃ apiKey ctx, apiKeyOf headers = some apiKey ∧ authCtx = some ctx ∧
        authenticateRequestInner sha256 parseUuid config apiKey = .ok ctx := by
  have hnone : features ≠ .none := by
    rintro rfl
    cases henabled
  unfold authorize
  rw [if_neg hnone]
  cases hkey : apiKeyOf headers with
  | none => simp
  | some apiKey =>
    dsimp only
    cases hinner : authenticateRequestInner sha256 parseUuid config apiKey with
    | error e => simp [hinner]
    | ok ctx => simp [hinner, eq_comm]

end Middleware

/-! ### Registered keys -/

/-- A key, and whom it was registered for. -/
structure Registered where
  key : List Char
  ownerId : String

section Registry

variable (sha256 : Bytes → Bytes) (parseUuid : String → Option String)

/-- The configuration holds the hashes of some registered keys. -/
def Config.Holds (config : Config) (registered : List Registered) : Prop :=
  config.keys = registered.map fun r => ⟨hashKey sha256 r.key, r.ownerId⟩

/-- A key is one of the registered ones, and the ids of its owner and of the organization are
UUIDs. Where a key is registered several times, the first time counts. -/
def Usable (config : Config) (registered : List Registered) (key : List Char)
    (userId : String) : Prop :=
  (∃ r, registered.find? (fun r => r.key = key) = some r ∧ parseUuid r.ownerId = some userId) ∧
    (parseUuid config.auth.organizationId).isSome = true

/-- The request is authenticated. -/
def Passes (features : HeliconeFeatures) (config : Config) (headers : HeaderMap)
    (ctx : AuthContext) : Prop :=
  ∀ metrics, (authorize sha256 parseUuid features config headers metrics).1 = .ok (some ctx)

/-- The `authorization` header is `Bearer ` followed by a key. -/
def Presents (headers : HeaderMap) (key : List Char) : Prop :=
  ∃ value, headers.get "authorization" = some value ∧
    HeaderValue.fromStr (String.ofList (bearer ++ key)) = some value

/-- **Exactly the registered keys are accepted.** A request is authenticated if and only if it
presents one of them, and then with the owner of that key. -/
structure AcceptsExactly (features : HeliconeFeatures) (config : Config)
    (registered : List Registered) (headers : HeaderMap) : Prop where
  authenticated_iff : (∃ ctx, Passes sha256 parseUuid features config headers ctx) ↔
    ∃ r ∈ registered, Presents headers r.key
  owner : ∀ ctx, Passes sha256 parseUuid features config headers ctx →
    ∃ r ∈ registered, Presents headers r.key ∧ parseUuid r.ownerId = some ctx.userId

/-- **The header says what is left of it.** -/
structure ReadsAsWritten (config : Config) (registered : List Registered)
    (headers : HeaderMap) : Prop where
  /-- A registered key that is presented is text, and what is left of it is a key of its owner. -/
  served : ∀ r ∈ registered, Presents headers r.key →
    (headers.get "authorization").any isText = true ∧
      ∃ userId, Usable parseUuid config registered (Text.remove bearer r.key) userId ∧
        ∃ r' ∈ registered, r'.key = r.key ∧ parseUuid r'.ownerId = some userId
  /-- Only a registered key that is presented leaves a registered key. -/
  unforged : ∀ apiKey userId, apiKeyOf headers = some apiKey →
    Usable parseUuid config registered (Text.remove bearer apiKey) userId →
      ∃ r ∈ registered, apiKey = bearer ++ r.key

end Registry

section Registry

variable {sha256 : Bytes → Bytes} {parseUuid : String → Option String} {config : Config}
  {registered : List Registered} {features : HeliconeFeatures} {headers : HeaderMap}

/-- **A hash is looked up as the key it is of.** -/
theorem getKeyFromHash_hashKey (hsha256 : Function.Injective sha256)
    (hholds : config.Holds sha256 registered) (key : List Char) :
    config.getKeyFromHash (hashKey sha256 key) =
      (registered.find? fun r => r.key = key).map fun r => ⟨hashKey sha256 r.key, r.ownerId⟩ := by
  unfold Config.getKeyFromHash
  rw [hholds, List.find?_map]
  congr 2
  funext r
  simp only [Function.comp_apply, (hashKey_injective hsha256).eq_iff]

/-- **What a request passes with**, in terms of the keys. -/
theorem passes_iff (hsha256 : Function.Injective sha256)
    (henabled : features.isAuthEnabled = true) (hholds : config.Holds sha256 registered)
    {ctx : AuthContext} :
    Passes sha256 parseUuid features config headers ctx ↔
      ∃ apiKey, apiKeyOf headers = some apiKey ∧
        Usable parseUuid config registered (Text.remove bearer apiKey) ctx.userId ∧
        parseUuid config.auth.organizationId = some ctx.orgId ∧
        ctx.apiKey = String.ofList (Text.remove bearer apiKey) := by
  -- the configuration knows a hash exactly when the key is registered
  have hlookup : ∀ apiKey, (∃ key, config.getKeyFromHash (hashKey sha256 apiKey) = some key ∧
      parseUuid key.ownerId = some ctx.userId) ↔
      ∃ r, registered.find? (fun r => r.key = apiKey) = some r ∧
        parseUuid r.ownerId = some ctx.userId := by
    intro apiKey
    rw [getKeyFromHash_hashKey hsha256 hholds]
    cases registered.find? fun r => r.key = apiKey with
    | none => simp
    | some r => simp
  constructor
  · intro h
    -- the metrics do not matter here, so any will do
    obtain ⟨apiKey, ctx', hkey, heq, hinner⟩ := (authorize_eq_ok_iff henabled).mp (h ⟨0, 0⟩)
    obtain rfl := Option.some.inj heq
    obtain ⟨hfound, horg, hkept⟩ := authenticateRequestInner_eq_ok_iff.mp hinner
    refine ⟨apiKey, hkey, ⟨(hlookup _).mp hfound, ?_⟩, horg, hkept⟩
    rw [horg]
    rfl
  · rintro ⟨apiKey, hkey, ⟨hfound, -⟩, horg, hkept⟩ metrics
    have hinner := authenticateRequestInner_eq_ok_iff.mpr ⟨(hlookup _).mpr hfound, horg, hkept⟩
    exact (authorize_eq_ok_iff henabled).mpr ⟨apiKey, ctx, hkey, rfl, hinner⟩

/-- A usable key is enough to pass. -/
theorem exists_passes (hsha256 : Function.Injective sha256)
    (henabled : features.isAuthEnabled = true) (hholds : config.Holds sha256 registered)
    {apiKey : List Char} {userId : String} (hkey : apiKeyOf headers = some apiKey)
    (husable : Usable parseUuid config registered (Text.remove bearer apiKey) userId) :
    ∃ ctx, Passes sha256 parseUuid features config headers ctx ∧ ctx.userId = userId := by
  obtain ⟨orgId, horg⟩ := Option.isSome_iff_exists.mp husable.2
  refine ⟨⟨String.ofList (Text.remove bearer apiKey), userId, orgId⟩, ?_, rfl⟩
  exact (passes_iff hsha256 henabled hholds).mpr ⟨apiKey, hkey, husable, horg, rfl⟩

/-- The text of a header that presents a key. -/
theorem apiKeyOf_presents {key apiKey : List Char} (hpresents : Presents headers key)
    (hkey : apiKeyOf headers = some apiKey) : apiKey = bearer ++ key := by
  obtain ⟨value, hget, hvalue⟩ := hpresents
  unfold apiKeyOf at hkey
  rw [hget, Option.bind_some] at hkey
  exact String.ofList_injective (fromStr_inj (fromStr_of_headerToStr hkey) hvalue)

/-- A header that is text presents what it says. -/
theorem presents_of_apiKeyOf {key : List Char} (hkey : apiKeyOf headers = some (bearer ++ key)) :
    Presents headers key := by
  obtain ⟨value, hget, hvalue⟩ := Option.bind_eq_some_iff.mp hkey
  exact ⟨value, hget, fromStr_of_headerToStr hvalue⟩

theorem any_isText_iff : (headers.get "authorization").any isText = true ↔
    ∃ apiKey, apiKeyOf headers = some apiKey := by
  unfold apiKeyOf isText
  cases headers.get "authorization" with
  | none => simp
  | some value => rw [Option.any_some, Option.bind_some, Option.isSome_iff_exists]

/-- **When the registered keys are what is accepted.** It is the requests whose header says what
is left of it when every `Bearer ` is removed. -/
theorem acceptsExactly_iff (hsha256 : Function.Injective sha256)
    (henabled : features.isAuthEnabled = true) (hholds : config.Holds sha256 registered) :
    AcceptsExactly sha256 parseUuid features config registered headers ↔
      ReadsAsWritten parseUuid config registered headers := by
  constructor
  · intro h
    constructor
    · intro r hr hpresents
      obtain ⟨ctx, hctx⟩ := h.authenticated_iff.mpr ⟨r, hr, hpresents⟩
      obtain ⟨apiKey, hkey, husable, -⟩ := (passes_iff hsha256 henabled hholds).mp hctx
      obtain ⟨r', hr', hpresents', howner⟩ := h.owner ctx hctx
      have htext := apiKeyOf_presents hpresents hkey
      have htext' := apiKeyOf_presents hpresents' hkey
      refine ⟨any_isText_iff.mpr ⟨apiKey, hkey⟩, ctx.userId, ?_, r', hr', ?_, howner⟩
      · rw [htext, Text.remove_append (by decide)] at husable
        exact husable
      · exact List.append_cancel_left (htext'.symm.trans htext)
    · intro apiKey userId hkey husable
      obtain ⟨ctx, hctx, -⟩ := exists_passes hsha256 henabled hholds hkey husable
      obtain ⟨r, hr, hpresents⟩ := h.authenticated_iff.mp ⟨ctx, hctx⟩
      exact ⟨r, hr, apiKeyOf_presents hpresents hkey⟩
  · intro h
    -- whoever passes has presented a key, and passes with what is left of it
    have howner : ∀ ctx, Passes sha256 parseUuid features config headers ctx →
        ∃ r ∈ registered, Presents headers r.key ∧ parseUuid r.ownerId = some ctx.userId := by
      intro ctx hctx
      obtain ⟨apiKey, hkey, husable, -⟩ := (passes_iff hsha256 henabled hholds).mp hctx
      obtain ⟨r, hr, rfl⟩ := h.unforged apiKey ctx.userId hkey husable
      have hpresents := presents_of_apiKeyOf hkey
      obtain ⟨-, userId, ⟨⟨r₁, hfound₁, hid₁⟩, -⟩, r', hr', hsame, hid'⟩ := h.served r hr hpresents
      rw [Text.remove_append (by decide)] at husable
      obtain ⟨⟨r₂, hfound₂, hid₂⟩, -⟩ := husable
      obtain rfl := Option.some.inj (hfound₁.symm.trans hfound₂)
      refine ⟨r', hr', hsame ▸ hpresents, hid'.trans (hid₁.symm.trans hid₂)⟩
    refine ⟨⟨fun ⟨ctx, hctx⟩ => ?_, fun ⟨r, hr, hpresents⟩ => ?_⟩, howner⟩
    · obtain ⟨r, hr, hpresents, -⟩ := howner ctx hctx
      exact ⟨r, hr, hpresents⟩
    · obtain ⟨htext, userId, husable, -⟩ := h.served r hr hpresents
      obtain ⟨apiKey, hkey⟩ := any_isText_iff.mp htext
      rw [← Text.remove_append (by decide) r.key, ← apiKeyOf_presents hpresents hkey] at husable
      obtain ⟨ctx, hctx, -⟩ := exists_passes hsha256 henabled hholds hkey husable
      exact ⟨ctx, hctx⟩

end Registry

/-! ### A key of the tests -/

/-- The digest of the key of the tests, with its `Bearer `. -/
def testDigest : Bytes :=
  [63, 146, 20, 128, 255, 199, 113, 153, 250, 201, 149, 73, 72, 162, 35, 75,
    95, 149, 174, 203, 184, 199, 48, 177, 77, 26, 48, 120, 186, 12, 155, 190]

def testKey : List Char := "sk-helicone-test-key".toList

/-- A digest that is that of the tests, and has no collisions. -/
def testSha256 (bytes : Bytes) : Bytes :=
  if bytes = utf8 (String.ofList (bearer ++ testKey)) then testDigest
  else List.replicate 33 0 ++ bytes

theorem testSha256_injective : Function.Injective testSha256 := by
  intro bytes bytes' h
  -- the digest is shorter than all else
  have hlength : ∀ rest : Bytes, testDigest ≠ List.replicate 33 0 ++ rest := by
    intro rest heq
    have hle := congrArg List.length heq
    rw [List.length_append, List.length_replicate] at hle
    have hdigest : testDigest.length = 32 := rfl
    omega
  unfold testSha256 at h
  split at h
  · next hbytes =>
    split at h
    · next hbytes' => exact hbytes.trans hbytes'.symm
    · exact absurd h (hlength bytes')
  · split at h
    · exact absurd h.symm (hlength bytes)
    · exact List.append_cancel_left h

def testUserId : String := "0b0eae2e-5f6c-4d5e-9a53-9d6f0c9a3f11"

def testOrganizationId : String := "f3a4c1de-18a7-4c36-8f0e-2f4b5a6c7d88"

/-- The two ids are UUIDs, in the form they are written in. -/
def testParseUuid (value : String) : Option String :=
  if value = testUserId ∨ value = testOrganizationId then some value else none

def testRegistered : List Registered := [⟨testKey, testUserId⟩]

/-- `Config::test_default`. -/
def testConfig : Config where
  auth := ⟨testUserId, testOrganizationId⟩
  keys := testRegistered.map fun r => ⟨hashKey testSha256 r.key, r.ownerId⟩
  routerId := "default"
  routerConfig := "\x7b\x7d"

/-- The key as the tests send it. -/
def testHeaders : HeaderMap :=
  [("authorization", ⟨(bearer ++ testKey).map fun c => UInt8.ofNat c.toNat, by decide⟩)]

theorem holds_testConfig : testConfig.Holds testSha256 testRegistered := rfl

theorem usable_testKey : Usable testParseUuid testConfig testRegistered testKey testUserId :=
  ⟨⟨⟨testKey, testUserId⟩, rfl, rfl⟩, rfl⟩

theorem apiKeyOf_testHeaders : apiKeyOf testHeaders = some (bearer ++ testKey) := by decide

/-- **A registered key with its `Bearer `.** -/
theorem acceptsExactly_iff_test :
    AcceptsExactly testSha256 testParseUuid .auth testConfig testRegistered testHeaders := by
  refine (acceptsExactly_iff testSha256_injective rfl holds_testConfig).mpr ⟨fun r hr _ => ?_, ?_⟩
  · obtain rfl := List.mem_singleton.mp hr
    have hleft : Text.remove bearer testKey = testKey := by decide
    refine ⟨any_isText_iff.mpr ⟨_, apiKeyOf_testHeaders⟩, testUserId, ?_, _, hr, rfl, rfl⟩
    exact hleft.symm ▸ usable_testKey
  · intro apiKey userId hkey _
    obtain rfl := Option.some.inj (apiKeyOf_testHeaders.symm.trans hkey)
    exact ⟨_, List.mem_singleton_self _, rfl⟩

/-- The key with a `Bearer ` in the middle. -/
def embeddedHeaders : HeaderMap :=
  [("authorization", ⟨"sk-helicone-Bearer test-key".toList.map fun c => UInt8.ofNat c.toNat,
    by decide⟩)]

theorem apiKeyOf_embeddedHeaders :
    apiKeyOf embeddedHeaders = some "sk-helicone-Bearer test-key".toList := by decide

/-- **A value that is no registered key is accepted.** The `Bearer ` in its middle is removed,
and what is left is the key. -/
theorem acceptsExactly_fails : ¬ ∀ (sha256 : Bytes → Bytes) (parseUuid : String → Option String)
    (features : HeliconeFeatures) (config : Config) (registered : List Registered)
    (headers : HeaderMap), Function.Injective sha256 → features.isAuthEnabled = true →
    config.Holds sha256 registered →
    AcceptsExactly sha256 parseUuid features config registered headers := by
  intro h
  have hexact := h testSha256 testParseUuid .auth testConfig testRegistered embeddedHeaders
    testSha256_injective rfl holds_testConfig
  have hleft : Text.remove bearer "sk-helicone-Bearer test-key".toList = testKey := by decide
  have husable : Usable testParseUuid testConfig testRegistered
      (Text.remove bearer "sk-helicone-Bearer test-key".toList) testUserId := by
    rw [hleft]
    exact usable_testKey
  have henabled : HeliconeFeatures.auth.isAuthEnabled = true := rfl
  obtain ⟨ctx, hctx, -⟩ := exists_passes testSha256_injective henabled holds_testConfig
    apiKeyOf_embeddedHeaders husable
  obtain ⟨r, hr, hpresents⟩ := hexact.authenticated_iff.mp ⟨ctx, hctx⟩
  obtain rfl := List.mem_singleton.mp hr
  have htext := apiKeyOf_presents hpresents apiKeyOf_embeddedHeaders
  revert htext
  decide

end AiGateway.ControlPlane
