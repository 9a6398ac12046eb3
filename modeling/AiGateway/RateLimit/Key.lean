import AiGateway.Config.Validation
import AiGateway.Dispatcher.Service
import AiGateway.Framework.Text

/-!
# The keys of the Redis rate limiter

`middleware/rate_limit/extractor.rs`: the key under which the limiter of a scope keeps the requests
of a user. The scope is a router, or the whole gateway, for which `GLOBAL` stands where the others
have the id of the router. An id may well be `GLOBAL`.

* `getRedisRlKey_eq_iff`: the scopes and users that have a key in common;
* `keysInjective_iff`: the configurations whose keys are told apart.
-/

namespace AiGateway

/-! ### The code -/

/-- `get_user_id`. The extension is what the auth middleware has put into the request. -/
def getUserId (authContext : Option AuthContext) : Except InternalError String :=
  match authContext with
  | none => .error (.extensionNotFound "AuthContext")
  | some ctx => .ok ctx.userId

/-- `get_redis_rl_key`. -/
def getRedisRlKey (authContext : Option AuthContext) (routerId : Option RouterId) :
    Except InternalError (List Char) := do
  let userId ← getUserId authContext
  match routerId with
  | some routerId => return "rl:per-api-key:".toList ++ (routerId.asStr ++ ':' :: userId.toList)
  | none => return "rl:per-api-key:GLOBAL:".toList ++ userId.toList

/-! ### Scopes -/

/-- The scope in a key. -/
def scopeText : Option RouterId → List Char
  | some routerId => routerId.asStr
  | none => "GLOBAL".toList

/-- The ids of the routers. -/
def RoutingConfig.routerIds (config : RoutingConfig) : List RouterId :=
  config.routers.entries.map Prod.fst

/-- The scopes of a configuration: all of the gateway, and each router. -/
def RoutingConfig.IsScope (config : RoutingConfig) (scope : Option RouterId) : Prop :=
  ∀ routerId ∈ scope, routerId ∈ config.routerIds

/-- **The keys are told apart**: no two scopes, and no two users of one, have a key in common. -/
def RoutingConfig.KeysInjective (config : RoutingConfig) : Prop :=
  ∀ (scope scope' : Option RouterId) (ctx ctx' : AuthContext) (key : List Char),
    config.IsScope scope → config.IsScope scope' →
    getRedisRlKey (some ctx) scope = .ok key → getRedisRlKey (some ctx') scope' = .ok key →
    scope = scope' ∧ ctx.userId = ctx'.userId

/-- A key is the scope and the user, with a colon between them. -/
theorem getRedisRlKey_eq (ctx : AuthContext) (scope : Option RouterId) :
    getRedisRlKey (some ctx) scope =
      .ok ("rl:per-api-key:".toList ++ (scopeText scope ++ ':' :: ctx.userId.toList)) := by
  cases scope with
  | some routerId => rfl
  | none =>
    have hglobal : "rl:per-api-key:GLOBAL:".toList =
        "rl:per-api-key:".toList ++ ("GLOBAL".toList ++ [':']) := by simp
    -- the constant of the code holds the scope and the colon behind it
    show Except.ok ("rl:per-api-key:GLOBAL:".toList ++ ctx.userId.toList) = _
    rw [hglobal, List.append_assoc, List.append_assoc]
    rfl

/-- No scope of a configuration that is accepted has a colon. -/
theorem colon_notMem_scopeText {config : RoutingConfig} (hvalid : config.validate = .ok ())
    {scope : Option RouterId} (hscope : config.IsScope scope) : ':' ∉ scopeText scope := by
  intro hmem
  cases scope with
  | none => exact absurd hmem (by decide)
  | some routerId =>
    obtain ⟨entry, hentry, rfl⟩ := List.mem_map.mp (hscope routerId rfl)
    obtain ⟨-, hid⟩ := validate_eq_ok hvalid entry hentry
    unfold isRouterId at hid
    have hall : entry.1.asStr.all idChar = true := (Bool.and_eq_true_iff.mp hid).2
    exact absurd (List.all_eq_true.mp hall ':' hmem) (by decide)

/-- **When two keys are the same**: the scopes have the same text and the users are the same. -/
theorem getRedisRlKey_eq_iff {config : RoutingConfig} (hvalid : config.validate = .ok ())
    {scope scope' : Option RouterId} (hscope : config.IsScope scope)
    (hscope' : config.IsScope scope') (ctx ctx' : AuthContext) :
    getRedisRlKey (some ctx) scope = getRedisRlKey (some ctx') scope' ↔
      scopeText scope = scopeText scope' ∧ ctx.userId = ctx'.userId := by
  rw [getRedisRlKey_eq, getRedisRlKey_eq]
  constructor
  · intro h
    have hrest := List.append_cancel_left (Except.ok.inj h)
    -- the first colon is the one after the scope
    have hsplit := Text.splitFirst_append (colon_notMem_scopeText hvalid hscope) ctx.userId.toList
    rw [hrest, Text.splitFirst_append (colon_notMem_scopeText hvalid hscope')] at hsplit
    obtain ⟨htext, huser⟩ := Prod.mk.inj (Option.some.inj hsplit)
    exact ⟨htext.symm, String.toList_inj.mp huser.symm⟩
  · rintro ⟨htext, huser⟩
    rw [htext, huser]

/-- **No id reads like another scope**: none is `GLOBAL`, and none but the id of the default router
is `default`. -/
structure RoutingConfig.IdsApart (config : RoutingConfig) : Prop where
  global : .named "GLOBAL".toList ∉ config.routerIds
  default : .default ∈ config.routerIds → .named "default".toList ∉ config.routerIds

theorem scopeText_inj {config : RoutingConfig} (hids : config.IdsApart)
    {scope scope' : Option RouterId} (hscope : config.IsScope scope)
    (hscope' : config.IsScope scope') (h : scopeText scope = scopeText scope') :
    scope = scope' := by
  -- the names that would read like another scope are no ids
  have hnamed : ∀ {name : List Char} {scope : Option RouterId}, config.IsScope scope →
      config.IsScope (some (.named name)) → scopeText scope = name →
      scope = some (.named name) := by
    intro name scope hscope hname htext
    have hmem : .named name ∈ config.routerIds := hname _ rfl
    rcases scope with _ | _ | name'
    · subst htext
      exact absurd hmem hids.global
    · subst htext
      exact absurd hmem (hids.default (hscope _ rfl))
    · exact congrArg (fun name => some (RouterId.named name)) htext
  rcases scope' with _ | _ | name'
  · rcases scope with _ | _ | name
    · rfl
    · exact absurd h (by decide)
    · exact (hnamed hscope' hscope h.symm).symm
  · rcases scope with _ | _ | name
    · exact absurd h (by decide)
    · rfl
    · exact (hnamed hscope' hscope h.symm).symm
  · exact hnamed hscope hscope' h

/-- **When the keys of a configuration are told apart.** -/
theorem keysInjective_iff {config : RoutingConfig} (hvalid : config.validate = .ok ()) :
    config.KeysInjective ↔ config.IdsApart := by
  constructor
  · intro hinj
    have hsame : ∀ {scope scope' : Option RouterId}, config.IsScope scope →
        config.IsScope scope' → scopeText scope = scopeText scope' → scope = scope' := by
      intro scope scope' hscope hscope' htext
      have hkey := (getRedisRlKey_eq_iff hvalid hscope hscope' ⟨"", "", ""⟩ ⟨"", "", ""⟩).mpr
        ⟨htext, rfl⟩
      exact (hinj _ _ _ _ _ hscope hscope' (getRedisRlKey_eq _ _)
        (hkey.symm.trans (getRedisRlKey_eq _ _))).1
    have hnone : config.IsScope none := fun routerId h => by cases h
    have hsome : ∀ routerId ∈ config.routerIds, config.IsScope (some routerId) := by
      rintro routerId hmem routerId' h
      obtain rfl := Option.some.inj h
      exact hmem
    -- an id that is written as another scope would share its key
    refine ⟨fun hmem => ?_, fun hdefault hmem => ?_⟩
    · cases hsame hnone (hsome _ hmem) rfl
    · cases hsame (hsome _ hdefault) (hsome _ hmem) rfl
  · intro hids scope scope' ctx ctx' key hscope hscope' hkey hkey'
    obtain ⟨htext, huser⟩ := (getRedisRlKey_eq_iff hvalid hscope hscope' ctx ctx').mp
      (hkey.trans hkey'.symm)
    exact ⟨scopeText_inj hids hscope hscope' htext, huser⟩

/-! ### A router that is called like all of the gateway -/

/-- A configuration with one router. -/
def oneRouter (id : RouterId) : RoutingConfig :=
  singleModelRouting [id] (List.nodup_singleton id) .openAI "gpt-4o".toList

/-- It is accepted if the id is one. -/
theorem validate_oneRouter {id : RouterId} (h : isRouterId id.asStr = true) :
    (oneRouter id).validate = .ok () := by
  refine validate_single (List.nodup_singleton id) .openAI "gpt-4o".toList ?_
  rw [List.forall_mem_singleton]
  exact h

theorem keysInjective_iff_default : (oneRouter .default).KeysInjective := by
  have hvalid : (oneRouter .default).validate = .ok () := validate_oneRouter (by decide)
  have hids : (oneRouter .default).routerIds = [.default] := rfl
  refine (keysInjective_iff hvalid).mpr ⟨?_, fun _ => ?_⟩
  · rw [hids]
    simp
  · rw [hids]
    simp

/-- **A router that is called `GLOBAL` has the keys of the gateway.** -/
theorem keysInjective_fails :
    ¬ ∀ config : RoutingConfig, config.validate = .ok () → config.KeysInjective := by
  intro h
  have hvalid : (oneRouter (.named "GLOBAL".toList)).validate = .ok () :=
    validate_oneRouter (by decide)
  have hglobal : (oneRouter (.named "GLOBAL".toList)).IsScope (some (.named "GLOBAL".toList)) := by
    intro routerId heq
    obtain rfl := Option.some.inj heq
    exact List.mem_singleton_self _
  have hnone : (oneRouter (.named "GLOBAL".toList)).IsScope none := fun routerId heq => by cases heq
  have hsame := h _ hvalid none (some (.named "GLOBAL".toList)) ⟨"", "1", ""⟩ ⟨"", "1", ""⟩ _ hnone
    hglobal (getRedisRlKey_eq _ none) (getRedisRlKey_eq _ (some (.named "GLOBAL".toList)))
  cases hsame.1

end AiGateway
