import AiGateway.Dispatcher.Service
import Mathlib.Data.List.TakeWhile

/-!
# The direct proxy route

`MetaRouter` of `router/meta.rs`: how a request URI picks a router, the unified API or
a direct proxy, and what the direct proxy of a provider is asked for. The first
segment of the path names the provider, and the rest of it, with the query, is joined
with the base URL of that provider in `Dispatcher::dispatch`.

The rest has lost the slash in front of it, so that its own first characters decide how
the join reads it.

* `rest_eq`: the rest is what follows the first slash after the provider;
* `directProxyTarget_eq`: the reference that is joined, spelled out;
* `confined_iff`: the URLs for which the target stays with the provider.
-/

namespace AiGateway

open Web

/-! ### The code -/

/-- The services a request may go to. -/
inductive MetaRoute
  | router
  | unifiedApi
  | directProxy
  deriving DecidableEq, Repr

/-- The tests of `MetaRouter::call`, in their order. -/
def metaRoute (path : List Char) : MetaRoute :=
  if "/router".toList.isPrefixOf path then .router
  else if "/ai".toList.isPrefixOf path then .unifiedApi
  else .directProxy

/-- What the direct proxy route ends in without a request. -/
inductive DirectProxyError
  | internal
  | unsupportedProvider (provider : InferenceProvider)
  deriving DecidableEq

/-- `extract_path_and_query`; `none` is its error. -/
def extractPathAndQuery (path : List Char) (query : Option (List Char)) : Option PathAndQuery :=
  match query with
  | some queryParams => PathAndQuery.fromStr (path ++ '?' :: queryParams)
  | none => PathAndQuery.fromStr path

/-- The segments of a path, without the slashes it starts with. -/
def segments (path : List Char) : List (List Char) :=
  (path.dropWhile (· == '/')).splitOn '/'

/-- The first segment. -/
def firstSegment (path : List Char) : List Char := (segments path).head?.getD []

/-- The provider the first segment names. -/
def directProvider (path : List Char) : InferenceProvider :=
  InferenceProvider.fromStr (String.ofList (firstSegment path))

/-- The other segments, joined again. -/
def rest (path : List Char) : List Char := ['/'].intercalate (segments path).tail

/-- What the dispatcher of a provider is handed. -/
structure DirectProxyRequest where
  provider : InferenceProvider
  pathAndQuery : PathAndQuery
  mapperCtx : MapperContext

variable {Host : Type}

/-- `handle_direct_proxy_request`. Every name is read as a provider; there is a proxy for
each that is configured. -/
def handleDirectProxyRequest (gateway : Gateway Host) (uri : RequestUri) :
    Except DirectProxyError DirectProxyRequest :=
  let provider := directProvider uri.path
  match extractPathAndQuery (rest uri.path) uri.query with
  | none => .error .internal
  | some extractedPathAndQuery =>
    if (gateway.baseUrl provider).isSome then
      .ok ⟨provider, extractedPathAndQuery, ⟨false⟩⟩
    else .error (.unsupportedProvider provider)

/-- The URL a request on the direct proxy route goes to. The inner errors are those of
the dispatcher, which has no sender to a rate limit monitor here. -/
def directProxyTarget (parseAuthority : AuthorityParser Host) (gateway : Gateway Host)
    (uri : RequestUri) : Except DirectProxyError (Except InternalError (Option (Url Host))) :=
  (handleDirectProxyRequest gateway uri).map fun req =>
    Dispatcher.targetUrl parseAuthority gateway ⟨req.provider, false⟩ req.pathAndQuery

/-- Where a request ends up. -/
inductive MetaCall (Host : Type)
  | router
  | unifiedApi
  | directProxy (target : Except DirectProxyError (Except InternalError (Option (Url Host))))

/-- `MetaRouter::call`, followed to the URL of the provider on the direct proxy route. -/
def metaCall (parseAuthority : AuthorityParser Host) (gateway : Gateway Host) (uri : RequestUri) :
    MetaCall Host :=
  match metaRoute uri.path with
  | .router => .router
  | .unifiedApi => .unifiedApi
  | .directProxy => .directProxy (directProxyTarget parseAuthority gateway uri)

/-! ### The rest of the path -/

/-- Splitting at the slashes and joining all but the first is dropping the first. -/
theorem intercalate_tail_splitOn (l : List Char) :
    ['/'].intercalate (l.splitOn '/').tail = (l.dropWhile (· ≠ '/')).drop 1 := by
  induction l with
  | nil => rfl
  | cons c l ih =>
    rw [List.splitOn_eq_splitOnP, List.splitOnP_cons_eq_if_modifyHead]
    by_cases hc : c = '/'
    · -- the first segment is empty, and the rest is all of `l`
      subst hc
      rw [if_pos (by decide), List.tail_cons, List.dropWhile_cons_of_neg (by decide),
        List.drop_one, List.tail_cons]
      exact List.intercalate_splitOn '/'
    · rw [if_neg (by simpa using hc), List.dropWhile_cons_of_pos (by simpa using hc), ← ih,
        List.splitOn_eq_splitOnP]
      -- only the first segment grows
      cases l.splitOnP (· == '/') with
      | nil => rfl
      | cons first others => rfl

/-- **The rest of a path** is what follows the first slash after the provider. -/
theorem rest_eq (path : List Char) :
    rest path = ((path.dropWhile (· == '/')).dropWhile (· ≠ '/')).drop 1 :=
  intercalate_tail_splitOn _

/-- The rest is a part of the path. -/
theorem rest_sublist (path : List Char) : (rest path).Sublist path := by
  rw [rest_eq]
  exact (List.drop_sublist 1 _).trans
    ((List.dropWhile_sublist _).trans (List.dropWhile_sublist _))

/-! ### The reference -/

/-- The query as it is written. -/
def queryText : Option (List Char) → List Char
  | some q => '?' :: q
  | none => []

/-- The text the base URL is joined with. -/
def directReference (uri : RequestUri) : List Char :=
  let text := rest uri.path ++ queryText uri.query
  if text.isEmpty then ['/'] else text

/-- A path of the permitted characters holds neither a query nor a fragment. -/
theorem ne_of_pathChar {c : Char} (h : pathChar c = true) : c ≠ '?' ∧ c ≠ '#' := by
  constructor
  · rintro rfl
    exact absurd h (by decide)
  · rintro rfl
    exact absurd h (by decide)

theorem ne_of_queryChar {c : Char} (h : queryChar c = true) : c ≠ '#' := by
  rintro rfl
  exact absurd h (by decide)

/-- A path and a query of permitted characters are taken as they are. -/
theorem extractPathAndQuery_eq {path : List Char} {query : Option (List Char)}
    (hpath : path.all pathChar = true) (hquery : ∀ q ∈ query, q.all queryChar = true) :
    extractPathAndQuery path query = some ⟨path ++ queryText query⟩ := by
  -- the parser cuts at a `#` and splits at the first `?`, and the path has neither
  have hp : ∀ c ∈ path, c ≠ '?' ∧ c ≠ '#' := fun c hc =>
    ne_of_pathChar (List.all_eq_true.mp hpath c hc)
  have hhash : ∀ c ∈ path, decide (c ≠ '#') = true := fun c hc => decide_eq_true (hp c hc).2
  have hmark : ∀ c ∈ path, decide (c ≠ '?') = true := fun c hc => decide_eq_true (hp c hc).1
  cases query with
  | none =>
    change PathAndQuery.fromStr path = some ⟨path ++ []⟩
    unfold PathAndQuery.fromStr
    have hnil : path.dropWhile (fun c => decide (c ≠ '?')) = [] :=
      List.dropWhile_eq_nil_iff.mpr hmark
    simp only [List.takeWhile_eq_self_iff.mpr hhash, List.takeWhile_eq_self_iff.mpr hmark, hnil]
    rw [if_pos ⟨hpath, rfl⟩, List.append_nil]
  | some q =>
    change PathAndQuery.fromStr (path ++ '?' :: q) = some ⟨path ++ '?' :: q⟩
    have hq : q.all queryChar = true := hquery q rfl
    have hall : ∀ c ∈ path ++ '?' :: q, decide (c ≠ '#') = true := by
      intro c hc
      rcases List.mem_append.mp hc with hc | hc
      · exact hhash c hc
      · rcases List.mem_cons.mp hc with rfl | hc
        · decide
        · exact decide_eq_true (ne_of_queryChar (List.all_eq_true.mp hq c hc))
    unfold PathAndQuery.fromStr
    -- the first question mark is the one that was put in
    have htake : (path ++ '?' :: q).takeWhile (fun c => decide (c ≠ '?')) = path := by
      rw [List.takeWhile_append_of_pos hmark, List.takeWhile_cons_of_neg (by decide),
        List.append_nil]
    have hdrop : (path ++ '?' :: q).dropWhile (fun c => decide (c ≠ '?')) = '?' :: q := by
      rw [List.dropWhile_append_of_pos hmark, List.dropWhile_cons_of_neg (by decide)]
    simp only [List.takeWhile_eq_self_iff.mpr hall, htake, hdrop]
    rw [if_pos ⟨hpath, hq⟩]

/-- **The join behind a direct proxy.** The URL of a configured provider is joined with
the reference, whatever the request. -/
theorem directProxyTarget_eq (parseAuthority : AuthorityParser Host) {gateway : Gateway Host}
    {uri : RequestUri} {base : Url Host}
    (hbase : gateway.baseUrl (directProvider uri.path) = some base) :
    directProxyTarget parseAuthority gateway uri =
      .ok (.ok (base.join parseAuthority (directReference uri))) := by
  have hrest : (rest uri.path).all pathChar = true := List.all_eq_true.mpr fun c hc =>
    List.all_eq_true.mp uri.path_ok c ((rest_sublist uri.path).subset hc)
  unfold directProxyTarget handleDirectProxyRequest
  rw [extractPathAndQuery_eq hrest uri.query_ok]
  dsimp only
  rw [hbase, if_pos (show (some base).isSome = true from rfl)]
  change Except.ok (Dispatcher.targetUrl parseAuthority gateway _ _) = _
  unfold Dispatcher.targetUrl
  rw [hbase]
  rfl

/-! ### Confinement -/

/-- A reference whose first segment has no colon, and which does not start with a slash,
is read as a path. -/
theorem keeps_of_plain (parseAuthority : AuthorityParser Host) {base : Url Host}
    (hbase : base.cannotBeABase = false) {c : Char} {l : List Char}
    (hslash : isSlash (schemeType base.scheme) c = false)
    (hcolon : ':' ∉ (c :: l).takeWhile (· ≠ '/')) : base.Keeps parseAuthority (c :: l) := by
  have hscheme : parseScheme (c :: l) = none := by
    unfold parseScheme
    dsimp only
    split
    · split
      · next rest hdrop =>
        -- a colon behind characters of a scheme lies in the first segment
        have hsplit : c :: l = (c :: l).takeWhile schemeChar ++ ':' :: rest := by
          rw [← hdrop, List.takeWhile_append_dropWhile]
        have hprefix : ∀ x ∈ (c :: l).takeWhile schemeChar, decide (x ≠ '/') = true := by
          intro x hx
          have hchar : schemeChar x = true := List.mem_takeWhile_imp hx
          refine decide_eq_true fun hx' => ?_
          rw [hx'] at hchar
          exact absurd hchar (by decide)
        refine absurd ?_ hcolon
        have hkept : (':' :: rest).takeWhile (· ≠ '/') = ':' :: rest.takeWhile (· ≠ '/') :=
          List.takeWhile_cons_of_pos (by decide)
        rw [hsplit, List.takeWhile_append_of_pos hprefix, hkept]
        exact List.mem_append_right _ List.mem_cons_self
      · rfl
    · rfl
  unfold Url.Keeps
  rw [hscheme]
  refine Or.inr ⟨hbase, ?_⟩
  intro text htext
  -- an authority starts with two slashes, and this reference not even with one
  cases l with
  | nil => cases htext
  | cons d l =>
    rw [authorityText, hslash, Bool.false_and] at htext
    cases htext

/-- **When the direct proxy stays with its provider.** The join succeeds, with the
scheme, the host and the port of the provider's base URL, exactly when the rest of the
path and the query name no scheme and no authority but the provider's own. -/
theorem confined_iff (parseAuthority : AuthorityParser Host) (gateway : Gateway Host)
    (uri : RequestUri) (hroute : metaRoute uri.path = .directProxy) (base : Url Host)
    (hbase : gateway.baseUrl (directProvider uri.path) = some base) :
    (∃ target, metaCall parseAuthority gateway uri = .directProxy (.ok (.ok target)) ∧
        Url.Confined base target) ↔
      base.Keeps parseAuthority (directReference uri) := by
  unfold metaCall
  rw [hroute]
  dsimp only
  -- the target is the join, whatever else the route does
  rw [directProxyTarget_eq parseAuthority hbase, ← Url.join_sameOrigin_iff]
  constructor
  · rintro ⟨target, htarget, hconfined⟩
    obtain rfl := Except.ok.inj (Except.ok.inj (MetaCall.directProxy.inj htarget))
    exact hconfined
  · exact fun h => ⟨_, rfl, h⟩

/-- The authority of a text that spells a plain host, without a user or a port. -/
def plainAuthority : AuthorityParser (List Char) := fun _ text =>
  some (some (text.takeWhile fun c => c ≠ '/' && c ≠ '\\' && c ≠ '?' && c ≠ '#'), none)

/-- A request for the chat of OpenAI. -/
def chatUri : RequestUri :=
  ⟨"/openai/v1/chat/completions".toList, none, by decide, RequestUri.query_ok_none⟩

/-- It stays with OpenAI. -/
theorem confined_iff_chat :
    ∃ target, metaCall plainAuthority Dispatcher.openAIGateway chatUri =
        .directProxy (.ok (.ok target)) ∧
      Url.Confined ⟨"https".toList, some "api.openai.com".toList, none, false⟩ target :=
  (confined_iff plainAuthority Dispatcher.openAIGateway chatUri (by decide) _ rfl).mpr
    (keeps_of_plain plainAuthority rfl rfl (by decide))

/-- The same gateway with a base URL that lacks its scheme: what stands before the port
is read as one. -/
def localGateway : Gateway (List Char) where
  baseUrl provider :=
    if provider = .ollama then some ⟨"localhost".toList, none, none, true⟩ else none
  features := .none

/-- **The direct proxy can be sent anywhere.** Two slashes behind the provider name
another host, and a base URL that cannot be a base fails the join. -/
theorem confined_fails :
    (¬ ∀ uri : RequestUri, metaRoute uri.path = .directProxy → ∀ base,
        Dispatcher.openAIGateway.baseUrl (directProvider uri.path) = some base →
        ∃ target, metaCall plainAuthority Dispatcher.openAIGateway uri =
            .directProxy (.ok (.ok target)) ∧ Url.Confined base target) ∧
      ¬ ∀ uri : RequestUri, metaRoute uri.path = .directProxy → ∀ base,
        localGateway.baseUrl (directProvider uri.path) = some base →
        ∃ target, metaCall plainAuthority localGateway uri = .directProxy (.ok (.ok target)) ∧
          Url.Confined base target := by
  constructor
  · intro h
    obtain ⟨target, htarget, hconfined⟩ :=
      h ⟨"/openai///evil.com/x".toList, none, by decide, RequestUri.query_ok_none⟩ (by decide) _ rfl
    obtain rfl := Except.ok.inj (Except.ok.inj (MetaCall.directProxy.inj htarget))
    -- the host of the target is not the one of the base
    obtain ⟨url, hurl, -, hhost, -⟩ := hconfined
    obtain rfl := Option.some.inj hurl
    exact absurd hhost (by decide)
  · intro h
    obtain ⟨target, htarget, hconfined⟩ :=
      h ⟨"/ollama/v1/chat".toList, none, by decide, RequestUri.query_ok_none⟩ (by decide) _ rfl
    obtain rfl := Except.ok.inj (Except.ok.inj (MetaCall.directProxy.inj htarget))
    obtain ⟨url, hurl, -⟩ := hconfined
    cases hurl

end AiGateway
