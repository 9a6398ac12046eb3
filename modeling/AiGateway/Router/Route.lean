import AiGateway.Config.Validation
import AiGateway.Router.Meta

/-!
# Routing by path

`MetaRouter::call` and `extract_router_id_and_path` of `router/meta.rs`: a request goes to a
router, to the unified API or to a provider, and each of them is handed what is left of the
path.

The route is picked by the text a path starts with, not by its first segment, and the
prefix of the unified API is removed as often as it stands there. The id of a router is
read from the path by a pattern of its own, which takes `default` in any case of letters for
the default router; configurations know it by that very name only.

* `routeCall_router_iff`, `routeCall_unifiedApi_iff`: the routes in terms of the first segment;
* `dispatched_iff`: the paths that are dispatched by their first segment;
* `extractRouterIdAndPath_eq`: what is read from the path of a router;
* `reachable_iff`: the configurations whose routers are reached by their own ids.
-/

namespace AiGateway

open Web

variable {Host : Type}

/-! ### The code -/

/-- The groups of `URL_REGEX`. -/
structure UrlCaptures where
  id : List Char
  path : Option (List Char)
  query : Option (List Char)

/-- `URL_REGEX`: `/router/`, an id, and then a path, a query or both. Neither can start
with a character of the id, so that the id is all such characters. -/
def urlCaptures (path : List Char) : Option UrlCaptures :=
  match Text.stripPrefix "/router/".toList path with
  | none => none
  | some s =>
    let id := s.takeWhile idChar
    let tail := s.dropWhile idChar
    let groups : Option (List Char) × List Char := match tail with
      | '/' :: _ => (some (tail.takeWhile (· ≠ '?')), tail.dropWhile (· ≠ '?'))
      | _ => (none, tail)
    if 1 ≤ id.length ∧ id.length ≤ 12 then
      match groups.2 with
      | [] => some ⟨id, groups.1, none⟩
      -- a dot of the pattern is any character but a line feed
      | '?' :: q => if '\n' ∈ q then none else some ⟨id, groups.1, some ('?' :: q)⟩
      | _ => none
    else none

/-- `extract_router_id_and_path`; `none` is its error. -/
def extractRouterIdAndPath (path : List Char) : Option (RouterId × List Char) :=
  (urlCaptures path).map fun captures =>
    let routerId :=
      if Text.eqIgnoreAsciiCase captures.id "default".toList then .default
      else .named captures.id
    let apiPath := match captures.path with
      | some p => if p = [] then ['/'] else p
      | none => captures.query.getD ['/']
    (routerId, apiPath)

/-- What a route ends in without a request. -/
inductive RouteError
  | internal
  | notFound (path : List Char)
  deriving DecidableEq

/-- `handle_router_request`: the router that is called, and what with. -/
def handleRouterRequest (isConfigured : RouterId → Bool) (uri : RequestUri) :
    Except RouteError (RouterId × PathAndQuery) :=
  match extractRouterIdAndPath uri.path with
  | none => .error (.notFound uri.path)
  | some (routerId, extractedApiPath) =>
    match extractPathAndQuery extractedApiPath uri.query with
    | none => .error .internal
    | some pathAndQuery =>
      if isConfigured routerId then .ok (routerId, pathAndQuery) else .error (.notFound uri.path)

/-- `handle_unified_api_request`: what the unified API is called with. -/
def handleUnifiedApiRequest (uri : RequestUri) : Except RouteError PathAndQuery :=
  match extractPathAndQuery (Text.trimStartMatches "/ai".toList uri.path) uri.query with
  | none => .error .internal
  | some pathAndQuery => .ok pathAndQuery

/-- Where `MetaRouter::call` sends a request. -/
inductive Routed
  | router (request : Except RouteError (RouterId × PathAndQuery))
  | unifiedApi (request : Except RouteError PathAndQuery)
  | directProxy (request : Except DirectProxyError DirectProxyRequest)

/-- `MetaRouter::call`. -/
def routeCall (isConfigured : RouterId → Bool) (gateway : Gateway Host) (uri : RequestUri) :
    Routed :=
  match metaRoute uri.path with
  | .router => .router (handleRouterRequest isConfigured uri)
  | .unifiedApi => .unifiedApi (handleUnifiedApiRequest uri)
  | .directProxy => .directProxy (handleDirectProxyRequest gateway uri)

/-- The routers of a configuration; `MetaRouter::from_config` makes one for each. -/
def RoutingConfig.isConfigured (config : RoutingConfig) (id : RouterId) : Bool :=
  (config.routers.entries.map Prod.fst).contains id

/-! ### The first segment -/

/-- A path that starts with one slash. -/
def StartsWithOneSlash (path : List Char) : Prop := ∃ t, path = '/' :: t ∧ t.head? ≠ some '/'

/-- The first part of a text that is split at the slashes ends before the first of them. -/
theorem head?_splitOn (l : List Char) : (l.splitOn '/').head? = some (l.takeWhile (· ≠ '/')) := by
  induction l with
  | nil => rfl
  | cons c l ih =>
    rw [List.splitOn_eq_splitOnP, List.splitOnP_cons_eq_if_modifyHead]
    by_cases hc : c = '/'
    · subst hc
      rw [if_pos (by decide), List.head?_cons, List.takeWhile_cons_of_neg (by decide)]
    · rw [if_neg (by simpa using hc), List.takeWhile_cons_of_pos (by simpa using hc),
        List.head?_modifyHead, ← List.splitOn_eq_splitOnP, ih]
      rfl

theorem firstSegment_eq {t : List Char} (h : t.head? ≠ some '/') :
    firstSegment ('/' :: t) = t.takeWhile (· ≠ '/') := by
  have hdrop : ('/' :: t).dropWhile (· == '/') = t := by
    rw [List.dropWhile_cons_of_pos (by decide)]
    cases t with
    | nil => rfl
    | cons c t => exact List.dropWhile_cons_of_neg (by simpa using h)
  unfold firstSegment segments
  rw [hdrop, head?_splitOn]
  rfl

/-- A word without a slash that a path starts with is one its first segment starts with. -/
theorem prefix_firstSegment_iff {word path : List Char} (hword : '/' ∉ word)
    (h : StartsWithOneSlash path) : '/' :: word <+: path ↔ word <+: firstSegment path := by
  obtain ⟨t, rfl, ht⟩ := h
  rw [firstSegment_eq ht, List.cons_prefix_cons, and_iff_right rfl]
  refine ⟨fun hprefix => ?_, fun hprefix => hprefix.trans (List.takeWhile_prefix _)⟩
  obtain ⟨r, rfl⟩ := hprefix
  have hpos : ∀ c ∈ word, decide (c ≠ '/') = true := fun c hc =>
    decide_eq_true fun heq => hword (heq ▸ hc)
  rw [List.takeWhile_append_of_pos hpos]
  exact List.prefix_append word _

/-! ### Dispatching by it -/

/-- **The route to a router** is taken by the paths whose first segment starts with its
name. -/
theorem metaRoute_router_iff {path : List Char} (h : StartsWithOneSlash path) :
    metaRoute path = .router ↔ "router".toList <+: firstSegment path := by
  rw [← prefix_firstSegment_iff (by decide) h]
  show _ ↔ "/router".toList <+: path
  unfold metaRoute
  split
  · next hrouter => exact iff_of_true rfl (List.isPrefixOf_iff_prefix.mp hrouter)
  · next hrouter =>
    refine iff_of_false (fun heq => ?_) (fun hp => hrouter (List.isPrefixOf_iff_prefix.mpr hp))
    split at heq <;> cases heq

/-- **The route to the unified API** is taken by those whose first segment starts with its
name, since none starts with both. -/
theorem metaRoute_unifiedApi_iff {path : List Char} (h : StartsWithOneSlash path) :
    metaRoute path = .unifiedApi ↔ "ai".toList <+: firstSegment path := by
  rw [← prefix_firstSegment_iff (by decide) h]
  show _ ↔ "/ai".toList <+: path
  unfold metaRoute
  split
  · next hrouter =>
    refine iff_of_false (fun heq => by cases heq) fun hai => ?_
    -- one of the two would be the start of the other
    obtain hp | hp := List.prefix_or_prefix_of_prefix hai (List.isPrefixOf_iff_prefix.mp hrouter)
    · exact absurd hp (by decide)
    · exact absurd hp (by decide)
  · split
    · next hai => exact iff_of_true rfl (List.isPrefixOf_iff_prefix.mp hai)
    · next hai =>
      exact iff_of_false (fun heq => by cases heq)
        (fun hp => hai (List.isPrefixOf_iff_prefix.mpr hp))

section Dispatching

variable (isConfigured : RouterId → Bool) (gateway : Gateway Host) (uri : RequestUri)

/-- **A request is dispatched by its first segment.** The routes to the routers and to the
unified API are those of the segments with exactly their names, every other segment is the
name of a provider, and the unified API is handed the path without its own segment. -/
structure ByFirstSegment : Prop where
  router : (∃ request, routeCall isConfigured gateway uri = .router request) ↔
    firstSegment uri.path = "router".toList
  unifiedApi : (∃ request, routeCall isConfigured gateway uri = .unifiedApi request) ↔
    firstSegment uri.path = "ai".toList
  directProxy : firstSegment uri.path ≠ "router".toList → firstSegment uri.path ≠ "ai".toList →
    routeCall isConfigured gateway uri = .directProxy (handleDirectProxyRequest gateway uri) ∧
      (directProvider uri.path).asStr = String.ofList (firstSegment uri.path)
  subPath : firstSegment uri.path = "ai".toList →
    routeCall isConfigured gateway uri =
      .unifiedApi (.ok ⟨uri.path.drop "/ai".length ++ queryText uri.query⟩)

/-- **The path does not play with the names.** Its first segment starts with the name of a
route only if it is that name, and the name of the unified API does not come again at the
start of what follows it. -/
structure PlainSegments (path : List Char) : Prop where
  router : "router".toList <+: firstSegment path → firstSegment path = "router".toList
  unifiedApi : "ai".toList <+: firstSegment path → firstSegment path = "ai".toList
  subPath : firstSegment path = "ai".toList → ¬"/ai".toList <+: path.drop "/ai".length

variable {isConfigured gateway uri}

theorem routeCall_router_iff :
    (∃ request, routeCall isConfigured gateway uri = .router request) ↔
      metaRoute uri.path = .router := by
  unfold routeCall
  split
  · next h => exact iff_of_true ⟨_, rfl⟩ h
  · next h => exact iff_of_false (fun ⟨_, he⟩ => by cases he) (fun he => by simp [h] at he)
  · next h => exact iff_of_false (fun ⟨_, he⟩ => by cases he) (fun he => by simp [h] at he)

theorem routeCall_unifiedApi_iff :
    (∃ request, routeCall isConfigured gateway uri = .unifiedApi request) ↔
      metaRoute uri.path = .unifiedApi := by
  unfold routeCall
  split
  · next h => exact iff_of_false (fun ⟨_, he⟩ => by cases he) (fun he => by simp [h] at he)
  · next h => exact iff_of_true ⟨_, rfl⟩ h
  · next h => exact iff_of_false (fun ⟨_, he⟩ => by cases he) (fun he => by simp [h] at he)

/-- A path with the segment of the unified API is that segment and what follows. -/
theorem eq_append_drop (h : StartsWithOneSlash uri.path)
    (hsegment : firstSegment uri.path = "ai".toList) :
    uri.path = "/ai".toList ++ uri.path.drop "/ai".length := by
  have hprefix : "/ai".toList <+: uri.path :=
    (prefix_firstSegment_iff (by decide : '/' ∉ "ai".toList) h).mpr
      (hsegment ▸ List.prefix_refl _)
  obtain ⟨r, hr⟩ := hprefix
  rw [← hr]
  rfl

/-- **What the unified API is handed**: the path, without its prefix as often as it stands
there. -/
theorem handleUnifiedApiRequest_eq (h : StartsWithOneSlash uri.path)
    (hsegment : firstSegment uri.path = "ai".toList) :
    handleUnifiedApiRequest uri = .ok
      ⟨Text.trimStartMatches "/ai".toList (uri.path.drop "/ai".length) ++
        queryText uri.query⟩ := by
  have htrim : Text.trimStartMatches "/ai".toList uri.path =
      Text.trimStartMatches "/ai".toList (uri.path.drop "/ai".length) := by
    conv_lhs => rw [eq_append_drop h hsegment]
    exact Text.trimStartMatches_append (by decide) _
  have hpath : (Text.trimStartMatches "/ai".toList (uri.path.drop "/ai".length)).all pathChar =
      true := List.all_eq_true.mpr fun c hc => List.all_eq_true.mp uri.path_ok c
    (List.mem_of_mem_drop ((Text.trimStartMatches_suffix _ _).subset hc))
  unfold handleUnifiedApiRequest
  rw [htrim, extractPathAndQuery_eq hpath uri.query_ok]

/-- **When requests are dispatched by their first segment.** A path that starts with one
slash is, exactly when its first segment does not merely start with the name of a route and
the unified API's is not repeated. -/
theorem dispatched_iff (isConfigured : RouterId → Bool) (gateway : Gateway Host)
    (uri : RequestUri) (h : StartsWithOneSlash uri.path) :
    ByFirstSegment isConfigured gateway uri ↔ PlainSegments uri.path := by
  constructor
  · rintro ⟨hrouter, hunified, -, hsub⟩
    rw [routeCall_router_iff, metaRoute_router_iff h] at hrouter
    rw [routeCall_unifiedApi_iff, metaRoute_unifiedApi_iff h] at hunified
    refine ⟨hrouter.mp, hunified.mp, fun hsegment => ?_⟩
    have hroute : metaRoute uri.path = .unifiedApi :=
      (metaRoute_unifiedApi_iff h).mpr (hunified.mpr hsegment)
    have hcall := hsub hsegment
    unfold routeCall at hcall
    rw [hroute] at hcall
    dsimp only at hcall
    -- what was handed on is what remains, so nothing more was trimmed
    rw [handleUnifiedApiRequest_eq h hsegment, Routed.unifiedApi.injEq, Except.ok.injEq,
      PathAndQuery.mk.injEq, List.append_cancel_right_eq,
      Text.trimStartMatches_eq_self_iff (by decide)] at hcall
    exact hcall
  · rintro ⟨hrouter, hunified, hsub⟩
    have hrouter' : metaRoute uri.path = .router ↔ firstSegment uri.path = "router".toList := by
      rw [metaRoute_router_iff h]
      exact ⟨hrouter, fun heq => heq ▸ List.prefix_refl _⟩
    have hunified' : metaRoute uri.path = .unifiedApi ↔ firstSegment uri.path = "ai".toList := by
      rw [metaRoute_unifiedApi_iff h]
      exact ⟨hunified, fun heq => heq ▸ List.prefix_refl _⟩
    refine ⟨routeCall_router_iff.trans hrouter', routeCall_unifiedApi_iff.trans hunified', ?_, ?_⟩
    · intro hne hne'
      refine ⟨?_, InferenceProvider.asStr_fromStr _⟩
      unfold routeCall
      split
      · next hroute => exact absurd (hrouter'.mp hroute) hne
      · next hroute => exact absurd (hunified'.mp hroute) hne'
      · rfl
    · intro hsegment
      unfold routeCall
      rw [hunified'.mpr hsegment]
      dsimp only
      rw [handleUnifiedApiRequest_eq h hsegment, Text.trimStartMatches_of_not (hsub hsegment)]

end Dispatching

/-- A request for the chat of the unified API. -/
def unifiedChatUri : RequestUri :=
  ⟨"/ai/chat/completions".toList, none, by decide, RequestUri.query_ok_none⟩

/-- It is handed on without its first segment. -/
theorem dispatched_iff_chat :
    ByFirstSegment (fun _ => false) Dispatcher.openAIGateway unifiedChatUri :=
  (dispatched_iff _ _ _ ⟨"ai/chat/completions".toList, rfl, by decide⟩).mpr
    ⟨by decide, by decide, by decide⟩

/-- **A provider's name may start with that of a route.** Its requests go there. -/
theorem dispatched_fails : ¬ ∀ uri : RequestUri, StartsWithOneSlash uri.path →
    ByFirstSegment (fun _ => false) Dispatcher.openAIGateway uri := by
  intro h
  have hplain := (h ⟨"/airouter/v1/chat".toList, none, by decide, RequestUri.query_ok_none⟩
    ⟨"airouter/v1/chat".toList, rfl, by decide⟩).unifiedApi
  exact absurd (hplain.mp ⟨_, rfl⟩) (by decide)

/-! ### The paths of the routers -/

/-- The path that names a router, with a sub-path behind it. -/
def routerPath (id : RouterId) (p : List Char) : List Char :=
  "/router/".toList ++ (id.asStr ++ '/' :: p)

/-- The router a path names, by the pattern. -/
def namedRouter (id : List Char) : RouterId :=
  if Text.eqIgnoreAsciiCase id "default".toList then .default else .named id

/-- **What is read from the path of a router**: its id, and the sub-path with its slash. -/
theorem extractRouterIdAndPath_eq {id : RouterId} {p : List Char}
    (hid : isRouterId id.asStr = true) (hp : '?' ∉ p) :
    extractRouterIdAndPath (routerPath id p) = some (namedRouter id.asStr, '/' :: p) := by
  unfold isRouterId at hid
  simp only [Bool.and_eq_true, decide_eq_true_eq] at hid
  obtain ⟨⟨hpos, hle⟩, hall⟩ := hid
  have hchars : ∀ c ∈ id.asStr, idChar c = true := List.all_eq_true.mp hall
  -- the id ends at the slash, and the sub-path at the end
  have htake : (id.asStr ++ '/' :: p).takeWhile idChar = id.asStr := by
    rw [List.takeWhile_append_of_pos hchars, List.takeWhile_cons_of_neg (by decide),
      List.append_nil]
  have hdrop : (id.asStr ++ '/' :: p).dropWhile idChar = '/' :: p := by
    rw [List.dropWhile_append_of_pos hchars, List.dropWhile_cons_of_neg (by decide)]
  have hmark : ∀ c ∈ '/' :: p, decide (c ≠ '?') = true := by
    intro c hc
    rcases List.mem_cons.mp hc with rfl | hc
    · decide
    · exact decide_eq_true fun heq => hp (heq ▸ hc)
  have hcaptures : urlCaptures (routerPath id p) = some ⟨id.asStr, some ('/' :: p), none⟩ := by
    unfold urlCaptures routerPath
    rw [Text.stripPrefix_append]
    simp only [htake, hdrop, List.takeWhile_eq_self_iff.mpr hmark,
      List.dropWhile_eq_nil_iff.mpr hmark]
    rw [if_pos ⟨hpos, hle⟩]
  unfold extractRouterIdAndPath
  rw [hcaptures]
  rfl

/-- An id may stand in a path. -/
theorem pathChar_of_idChar {c : Char} (h : idChar c = true) : pathChar c = true := by
  unfold idChar at h
  unfold pathChar
  simp only [Bool.or_eq_true, Bool.and_eq_true, decide_eq_true_eq, beq_iff_eq] at h ⊢
  rcases h with (((h | h) | h) | rfl) | rfl
  · have hlo : 65 ≤ c.toNat := h.1
    have hhi : c.toNat ≤ 90 := h.2
    omega
  · have hlo : 97 ≤ c.toNat := h.1
    have hhi : c.toNat ≤ 122 := h.2
    omega
  · have hlo : 48 ≤ c.toNat := h.1
    have hhi : c.toNat ≤ 57 := h.2
    omega
  · decide
  · decide

/-- A router has a URI. -/
def routerUri (id : RouterId) (hid : isRouterId id.asStr = true) : RequestUri where
  path := routerPath id []
  query := none
  path_ok := by
    unfold isRouterId at hid
    simp only [Bool.and_eq_true] at hid
    rw [List.all_eq_true]
    intro c hc
    rcases List.mem_append.mp hc with hc | hc
    · exact List.all_eq_true.mp (by decide : "/router/".toList.all pathChar = true) c hc
    · rcases List.mem_append.mp hc with hc | hc
      · exact pathChar_of_idChar (List.all_eq_true.mp hid.2 c hc)
      · obtain rfl := List.mem_singleton.mp hc
        decide
  query_ok := RequestUri.query_ok_none

/-! ### Routers by their ids -/

section Reaching

variable (config : RoutingConfig) (gateway : Gateway Host)

/-- **Every router is reached by its own id**, with the sub-path and the query behind it, and
no two of them by the same one. -/
structure Reachable : Prop where
  own : ∀ entry ∈ config.routers.entries, ∀ (uri : RequestUri) (p : List Char),
    uri.path = routerPath entry.1 p →
    routeCall config.isConfigured gateway uri =
      .router (.ok (entry.1, ⟨'/' :: p ++ queryText uri.query⟩))
  distinct : ∀ entry ∈ config.routers.entries, ∀ entry' ∈ config.routers.entries,
    entry.1 ≠ entry'.1 → ∀ p p', '?' ∉ p → '?' ∉ p' →
    (extractRouterIdAndPath (routerPath entry.1 p)).map Prod.fst ≠
      (extractRouterIdAndPath (routerPath entry'.1 p')).map Prod.fst

/-- The name of the default router, in any case of letters. -/
def IsDefaultName (name : List Char) : Prop :=
  Text.eqIgnoreAsciiCase name "default".toList = true

/-- An id is read as itself, unless it is the name of the default router and not its id. -/
theorem namedRouter_eq_iff (id : RouterId) :
    namedRouter id.asStr = id ↔ ∀ name, id = .named name → ¬IsDefaultName name := by
  unfold namedRouter
  cases id with
  | default => exact iff_of_true (if_pos (by decide)) (fun name h => by cases h)
  | named name =>
    show (if Text.eqIgnoreAsciiCase name "default".toList = true then _ else _) = _ ↔ _
    split
    · next hdefault =>
      exact iff_of_false (fun h => by cases h) (fun h => h name rfl hdefault)
    · next hdefault =>
      refine iff_of_true rfl fun name' h => ?_
      obtain rfl := RouterId.named.inj h
      exact hdefault

variable {config gateway}

/-- What a path with the id of a configured router is routed to. -/
theorem routeCall_routerPath {entry : RouterId × MappedRouterConfig}
    (hid : isRouterId entry.1.asStr = true) {uri : RequestUri} {p : List Char}
    (hpath : uri.path = routerPath entry.1 p) :
    routeCall config.isConfigured gateway uri =
      .router (if config.isConfigured (namedRouter entry.1.asStr) then
        .ok (namedRouter entry.1.asStr, ⟨'/' :: p ++ queryText uri.query⟩)
      else .error (.notFound uri.path)) := by
  have hroute : metaRoute uri.path = .router := by
    rw [hpath]
    exact if_pos rfl
  have hsub : ('/' :: p).all pathChar = true := by
    refine List.all_eq_true.mpr fun c hc => List.all_eq_true.mp uri.path_ok c ?_
    rw [hpath]
    exact List.mem_append_right _ (List.mem_append_right _ hc)
  have hmark : '?' ∉ p := fun hmem =>
    (ne_of_pathChar (List.all_eq_true.mp hsub '?' (List.mem_cons_of_mem _ hmem))).1 rfl
  unfold routeCall handleRouterRequest
  rw [hroute, hpath, extractRouterIdAndPath_eq hid hmark]
  dsimp only
  rw [extractPathAndQuery_eq hsub uri.query_ok]

/-- **When the routers are reached by their ids.** In a validated configuration they are
exactly when none but the default router has its name, in any case of letters. -/
theorem reachable_iff (config : RoutingConfig) (gateway : Gateway Host)
    (h : config.validate = .ok ()) :
    Reachable config gateway ↔
      ∀ entry ∈ config.routers.entries, ∀ name, entry.1 = .named name → ¬IsDefaultName name := by
  have hids : ∀ entry ∈ config.routers.entries, isRouterId entry.1.asStr = true :=
    fun entry hentry => (validate_eq_ok h entry hentry).2
  constructor
  · rintro ⟨hown, -⟩ entry hentry
    rw [← namedRouter_eq_iff]
    have hcall := hown entry hentry (routerUri entry.1 (hids entry hentry)) [] rfl
    rw [routeCall_routerPath (hids entry hentry) rfl] at hcall
    -- a request that is routed is routed to the router that was read
    split at hcall
    · exact congrArg Prod.fst (Except.ok.inj (Routed.router.inj hcall))
    · cases Routed.router.inj hcall
  · intro hnames
    have hread : ∀ entry ∈ config.routers.entries, namedRouter entry.1.asStr = entry.1 :=
      fun entry hentry => (namedRouter_eq_iff entry.1).mpr (hnames entry hentry)
    refine ⟨fun entry hentry uri p hpath => ?_, ?_⟩
    · have hconfigured : config.isConfigured entry.1 = true :=
        List.contains_iff_mem.mpr (List.mem_map_of_mem hentry)
      rw [routeCall_routerPath (hids entry hentry) hpath, hread entry hentry,
        if_pos hconfigured]
    · intro entry hentry entry' hentry' hne p p' hp hp'
      rw [extractRouterIdAndPath_eq (hids entry hentry) hp, hread entry hentry,
        extractRouterIdAndPath_eq (hids entry' hentry') hp', hread entry' hentry']
      exact fun heq => hne (Option.some.inj heq)

end Reaching

/-- Two routers of OpenAI, the default one and one of another name. -/
def twoRouters (name : List Char) (h : name ≠ "default".toList) : RoutingConfig :=
  singleModelRouting [RouterId.deserialize "default".toList, RouterId.deserialize name]
    (by
      have hdefault : RouterId.deserialize "default".toList = .default := if_pos rfl
      have hname : RouterId.deserialize name = .named name := if_neg h
      rw [hdefault, hname]
      simp) .openAI "gpt-4o".toList

theorem validate_twoRouters {name : List Char} (h : name ≠ "default".toList)
    (hid : isRouterId name = true) : (twoRouters name h).validate = .ok () := by
  refine validate_single _ .openAI "gpt-4o".toList ?_
  have hname : RouterId.deserialize name = .named name := if_neg h
  rw [List.forall_mem_cons, List.forall_mem_singleton, hname]
  exact ⟨by decide, hid⟩

/-- Both are reached by their ids. -/
theorem reachable_iff_production :
    Reachable (twoRouters "production".toList (by decide)) Dispatcher.openAIGateway :=
  (reachable_iff _ _ (validate_twoRouters (by decide) (by decide))).mpr (by
    intro entry hentry name hname
    rcases List.mem_cons.mp hentry with rfl | hentry
    · cases hname
    · obtain rfl := List.mem_singleton.mp hentry
      obtain rfl := RouterId.named.inj hname
      unfold IsDefaultName
      decide)

/-- **A router of the name `Default` is not.** Requests with its id go to the default
router. -/
theorem reachable_fails : ¬ ∀ config : RoutingConfig, config.validate = .ok () →
    Reachable config Dispatcher.openAIGateway := by
  intro h
  have hdefault : "Default".toList ≠ "default".toList := by decide
  have hreachable := h (twoRouters "Default".toList hdefault)
    (validate_twoRouters hdefault (by decide))
  have hcall := hreachable.own _ (List.mem_cons_of_mem _ (List.mem_singleton_self _))
    (routerUri (.named "Default".toList) (by decide)) [] rfl
  cases hcall

end AiGateway
