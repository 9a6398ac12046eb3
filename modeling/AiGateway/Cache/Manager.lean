import AiGateway.Cache.Message

/-!
# The managers of the cache

`CacheClient` of `cache.rs`, through which the cache reads and writes what it stores: in memory by
`MokaManager`, which without eviction is a finite map, or on a Redis server, which knows texts
and is given JSON. The server answers nil for a key it does not have, and nil is no `String`: `get`
on such a key is an error, where the map has `Ok(None)`.

The server may be out of reach, which the manager reports as an error too. `HttpResponse` and
`CachePolicy` are any types here, and `serde_json` a parameter that reads back what it has
written of them.

* `step_eq_iff`: one operation has the same result in both;
* `redis_refines_iff`: a sequence of operations has the same results exactly if the server is in
  reach and each `get` is on a key that is there;
* `checkCache_of_cold`: what becomes of a lookup of any other key.
-/

namespace AiGateway.Cache

/-! ### The code -/

variable {Response Policy : Type}

inductive ManagerError
  /-- No connection is to be had. -/
  | pool
  /-- The reply cannot be converted. -/
  | redis
  | serde
  deriving DecidableEq

/-- `serde_json`, of `Store`: what is written can be read back. -/
structure SerdeJson (Response Policy : Type) where
  toString : Response × Policy → Option String
  fromStr : String → Option (Response × Policy)
  fromStr_toString : ∀ store, ∃ text, toString store = some text ∧ fromStr text = some store

/-- What a Redis server has: texts. -/
abbrev Server := String → Option String

/-- What a map has. -/
abbrev MokaEntries (Response Policy : Type) := String → Option (Response × Policy)

namespace RedisCacheManager

variable (json : SerdeJson Response Policy) (connects : Bool) (server : Server)

def get (key : String) : Except ManagerError (Option (Response × Policy)) := do
  if connects then .ok () else .error .pool
  -- the reply is converted to a `String`, and there is none for nil
  let value ← (server key).okOr .redis
  let store ← (json.fromStr value).okOr .serde
  return some store

def put (key : String) (response : Response) (policy : Policy) :
    Except ManagerError Response × Server :=
  if connects then
    match json.toString (response, policy) with
    | none => (.error .serde, server)
    | some serialized => (.ok response, Function.update server key (some serialized))
  else (.error .pool, server)

def delete (key : String) : Except ManagerError Unit × Server :=
  if connects then (.ok (), Function.update server key none) else (.error .pool, server)

end RedisCacheManager

/-- `CacheClient`. -/
inductive CacheClient (Response Policy : Type)
  | redis (server : Server)
  | moka (entries : MokaEntries Response Policy)

inductive Operation (Response Policy : Type)
  | get (key : String)
  | put (key : String) (response : Response) (policy : Policy)
  | delete (key : String)

/-- The result of an operation. -/
inductive ManagerReply (Response Policy : Type)
  | got (result : Except ManagerError (Option (Response × Policy)))
  | put (result : Except ManagerError Response)
  | deleted (result : Except ManagerError Unit)

section Code

variable (json : SerdeJson Response Policy)

/-- One operation of `CacheClient`. In memory, there is nothing to connect to. -/
def CacheClient.step (connects : Bool) :
    CacheClient Response Policy → Operation Response Policy →
      ManagerReply Response Policy × CacheClient Response Policy
  | .redis server, .get key =>
    (.got (RedisCacheManager.get json connects server key), .redis server)
  | .redis server, .put key response policy =>
    let result := RedisCacheManager.put json connects server key response policy
    (.put result.1, .redis result.2)
  | .redis server, .delete key =>
    let result := RedisCacheManager.delete connects server key
    (.deleted result.1, .redis result.2)
  | .moka entries, .get key => (.got (.ok (entries key)), .moka entries)
  | .moka entries, .put key response policy =>
    (.put (.ok response), .moka (Function.update entries key (some (response, policy))))
  | .moka entries, .delete key => (.deleted (.ok ()), .moka (Function.update entries key none))

/-- The results of a sequence of operations, each with a server in reach or not. -/
def CacheClient.replies :
    CacheClient Response Policy → List (Bool × Operation Response Policy) →
      List (ManagerReply Response Policy)
  | _, [] => []
  | client, (connects, op) :: ops =>
    let stepped := client.step json connects op
    stepped.1 :: CacheClient.replies stepped.2 ops

end Code

/-- A key is held after operations that put it and have not deleted it since. -/
def Held (ops : List (Operation Response Policy)) (key : String) : Prop :=
  ∃ before response policy after, ops = before ++ .put key response policy :: after ∧
    Operation.delete key ∉ after

/-! ### What is held -/

/-- What an operation does to a map. -/
def Operation.apply (entries : MokaEntries Response Policy) :
    Operation Response Policy → MokaEntries Response Policy
  | .get _ => entries
  | .put key response policy => Function.update entries key (some (response, policy))
  | .delete key => Function.update entries key none

/-- The map after operations. -/
def entriesAfter (ops : List (Operation Response Policy)) : MokaEntries Response Policy :=
  ops.foldl Operation.apply fun _ => none

theorem entriesAfter_append (ops : List (Operation Response Policy))
    (op : Operation Response Policy) :
    entriesAfter (ops ++ [op]) = op.apply (entriesAfter ops) := by
  unfold entriesAfter
  rw [List.foldl_append, List.foldl_cons, List.foldl_nil]

/-- What one operation more leaves held. -/
theorem held_append_iff (ops : List (Operation Response Policy)) (op : Operation Response Policy)
    (key : String) :
    Held (ops ++ [op]) key ↔
      (∃ response policy, op = .put key response policy) ∨ Held ops key ∧ op ≠ .delete key := by
  constructor
  · rintro ⟨before, response, policy, after, heq, hafter⟩
    rcases List.eq_nil_or_concat after with rfl | ⟨after, last, rfl⟩
    · obtain ⟨-, hop⟩ := List.append_inj' heq rfl
      exact Or.inl ⟨response, policy, (List.cons.inj hop).1⟩
    -- the put came before, and the operation is none of those that undo it
    · rw [List.concat_eq_append, ← List.cons_append, ← List.append_assoc] at heq
      rw [List.concat_eq_append, List.mem_append, List.mem_singleton] at hafter
      obtain ⟨hops, hop⟩ := List.append_inj' heq rfl
      obtain rfl := (List.cons.inj hop).1
      exact Or.inr ⟨⟨before, response, policy, after, hops, fun h => hafter (Or.inl h)⟩,
        fun h => hafter (Or.inr h.symm)⟩
  · rintro (⟨response, policy, rfl⟩ | ⟨⟨before, response, policy, after, rfl, hafter⟩, hop⟩)
    · exact ⟨ops, response, policy, [], rfl, List.not_mem_nil⟩
    · refine ⟨before, response, policy, after ++ [op], List.append_assoc _ _ _, ?_⟩
      rw [List.mem_append, List.mem_singleton]
      rintro (h | h)
      · exact hafter h
      · exact hop h.symm

/-- **The map has what is held.** -/
theorem isSome_entriesAfter_iff (ops : List (Operation Response Policy)) (key : String) :
    (entriesAfter ops key).isSome ↔ Held ops key := by
  induction ops using List.reverseRecOn with
  | nil =>
    refine iff_of_false Bool.false_ne_true ?_
    rintro ⟨before, response, policy, after, heq, -⟩
    exact absurd heq.symm (List.append_ne_nil_of_right_ne_nil _ (List.cons_ne_nil _ _))
  | append_singleton ops op ih =>
    rw [held_append_iff, entriesAfter_append, ← ih]
    cases op with
    | get key' =>
      refine ⟨fun h => Or.inr ⟨h, fun h => by cases h⟩, ?_⟩
      rintro (⟨response, policy, h⟩ | ⟨h, -⟩)
      · cases h
      · exact h
    | put key' response policy =>
      -- a put decides about its own key, and so does a deletion
      by_cases hkey : key = key'
      · subst hkey
        refine iff_of_true ?_ (Or.inl ⟨response, policy, rfl⟩)
        rw [Operation.apply, Function.update_self]
        rfl
      · rw [Operation.apply, Function.update_of_ne hkey]
        refine ⟨fun h => Or.inr ⟨h, fun h => by cases h⟩, ?_⟩
        rintro (⟨response', policy', h⟩ | ⟨h, -⟩)
        · cases h
          exact absurd rfl hkey
        · exact h
    | delete key' =>
      by_cases hkey : key = key'
      · subst hkey
        rw [Operation.apply, Function.update_self]
        refine iff_of_false Bool.false_ne_true ?_
        rintro (⟨response', policy', h⟩ | ⟨-, h⟩)
        · cases h
        · exact h rfl
      · rw [Operation.apply, Function.update_of_ne hkey]
        refine ⟨fun h => Or.inr ⟨h, fun h => hkey (Operation.delete.inj h).symm⟩, ?_⟩
        rintro (⟨response', policy', h⟩ | ⟨h, -⟩)
        · cases h
        · exact h

/-! ### One operation -/

/-- The server has the texts of what the map has. -/
def Agrees (json : SerdeJson Response Policy) (server : Server)
    (entries : MokaEntries Response Policy) : Prop :=
  ∀ key, (server key = none ∧ entries key = none) ∨
    ∃ text store, server key = some text ∧ entries key = some store ∧
      json.fromStr text = some store

variable {json : SerdeJson Response Policy} {server : Server}
  {entries : MokaEntries Response Policy}

/-- Both are changed under one key. -/
theorem Agrees.update (h : Agrees json server entries) {key : String} {text : Option String}
    {store : Option (Response × Policy)}
    (hkey : (text = none ∧ store = none) ∨ ∃ t s, text = some t ∧ store = some s ∧
      json.fromStr t = some s) :
    Agrees json (Function.update server key text) (Function.update entries key store) := by
  intro key'
  by_cases heq : key' = key
  · rw [heq, Function.update_self, Function.update_self]
    exact hkey
  · rw [Function.update_of_ne heq, Function.update_of_ne heq]
    exact h key'

/-- **One operation** has the same result on the server as in the map exactly if the server is in
reach and the key, if it is to be read, is there. -/
theorem step_eq_iff (h : Agrees json server entries) (connects : Bool)
    (op : Operation Response Policy) :
    ((CacheClient.redis server).step json connects op).1 =
        ((CacheClient.moka entries).step json connects op).1 ↔
      connects = true ∧ ∀ key, op = .get key → (entries key).isSome := by
  cases connects with
  | false =>
    -- out of reach, every operation is an error, and the map has none
    refine iff_of_false (fun heq => ?_) fun hconnects => Bool.false_ne_true hconnects.1
    cases op with
    | get key => cases ManagerReply.got.inj heq
    | put key response policy => cases ManagerReply.put.inj heq
    | delete key => cases ManagerReply.deleted.inj heq
  | true =>
    cases op with
    | get key =>
      have hget : (∀ key', Operation.get key = (.get key' : Operation Response Policy) →
          (entries key').isSome) ↔ (entries key).isSome :=
        ⟨fun hall => hall key rfl, fun hsome key' heq => Operation.get.inj heq ▸ hsome⟩
      rw [hget, and_iff_right rfl]
      show ManagerReply.got (RedisCacheManager.get json true server key) =
        .got (.ok (entries key)) ↔ _
      unfold RedisCacheManager.get
      rcases h key with ⟨hserver, hentries⟩ | ⟨text, store, hserver, hentries, hread⟩
      · -- nil is no `String`
        rw [hserver, hentries]
        exact iff_of_false (fun heq => by cases ManagerReply.got.inj heq) Bool.false_ne_true
      · rw [hserver, hentries]
        refine iff_of_true (congrArg ManagerReply.got ?_) rfl
        show ((json.fromStr text).okOr ManagerError.serde >>=
          fun store => Except.ok (some store)) = _
        rw [hread]
        rfl
    | put key response policy =>
      refine iff_of_true ?_ ⟨rfl, fun key h => by cases h⟩
      obtain ⟨text, htext, -⟩ := json.fromStr_toString (response, policy)
      show ManagerReply.put (RedisCacheManager.put json true server key response policy).1 = _
      unfold RedisCacheManager.put
      rw [if_pos rfl, htext]
      rfl
    | delete key => exact iff_of_true rfl ⟨rfl, fun key h => by cases h⟩

/-- **The server follows the map** as long as it is in reach. -/
theorem step_agrees (h : Agrees json server entries) (op : Operation Response Policy) :
    ∃ server', ((CacheClient.redis server).step json true op).2 = .redis server' ∧
      ((CacheClient.moka entries).step json true op).2 = .moka (op.apply entries) ∧
      Agrees json server' (op.apply entries) := by
  cases op with
  | get key => exact ⟨server, rfl, rfl, h⟩
  | put key response policy =>
    obtain ⟨text, htext, hread⟩ := json.fromStr_toString (response, policy)
    refine ⟨Function.update server key (some text), ?_, rfl, h.update (Or.inr ⟨text, _, rfl, rfl,
      hread⟩)⟩
    show CacheClient.redis (RedisCacheManager.put json true server key response policy).2 = _
    unfold RedisCacheManager.put
    rw [if_pos rfl, htext]
  | delete key =>
    exact ⟨Function.update server key none, rfl, rfl, h.update (Or.inl ⟨rfl, rfl⟩)⟩

/-! ### Sequences -/

/-- A server in reach, and a key that is there if it is to be read. -/
def Warm (before : List (Operation Response Policy)) (connects : Bool)
    (op : Operation Response Policy) : Prop :=
  connects = true ∧ ∀ key, op = .get key → Held before key

/-- The operations of a sequence are warm, behind those before it. -/
def AllWarm (before : List (Operation Response Policy))
    (ops : List (Bool × Operation Response Policy)) : Prop :=
  ∀ front connects op back, ops = front ++ (connects, op) :: back →
    Warm (before ++ front.map Prod.snd) connects op

theorem allWarm_cons_iff {before : List (Operation Response Policy)} {connects : Bool}
    {op : Operation Response Policy} {ops : List (Bool × Operation Response Policy)} :
    AllWarm before ((connects, op) :: ops) ↔
      Warm before connects op ∧ AllWarm (before ++ [op]) ops := by
  constructor
  · intro h
    constructor
    · have hfirst := h [] connects op ops rfl
      rwa [List.map_nil, List.append_nil] at hfirst
    · rintro front connects' op' back rfl
      have hlater := h ((connects, op) :: front) connects' op' back rfl
      rwa [List.map_cons, List.append_cons] at hlater
  · rintro ⟨hfirst, hrest⟩ front connects' op' back heq
    -- an operation is the first one, or one of the others
    cases front with
    | nil =>
      obtain ⟨hop, -⟩ := List.cons.inj heq
      cases hop
      rwa [List.map_nil, List.append_nil]
    | cons p front =>
      obtain ⟨hop, htail⟩ := List.cons.inj heq
      cases hop
      have hlater := hrest front connects' op' back htail
      rwa [List.map_cons, List.append_cons]

/-- A sequence on a server that has followed the map so far. -/
theorem replies_eq_iff {before : List (Operation Response Policy)}
    (ops : List (Bool × Operation Response Policy))
    (h : Agrees json server (entriesAfter before)) :
    (CacheClient.redis server).replies json ops =
        (CacheClient.moka (entriesAfter before)).replies json ops ↔ AllWarm before ops := by
  induction ops generalizing server before with
  | nil =>
    refine iff_of_true rfl ?_
    intro front connects op back heq
    exact absurd heq.symm (List.append_ne_nil_of_right_ne_nil _ (List.cons_ne_nil _ _))
  | cons p ops ih =>
    obtain ⟨connects, op⟩ := p
    have hwarm : ((CacheClient.redis server).step json connects op).1 =
        ((CacheClient.moka (entriesAfter before)).step json connects op).1 ↔
          Warm before connects op := by
      rw [step_eq_iff h]
      unfold Warm
      simp only [isSome_entriesAfter_iff]
    show _ :: _ = _ :: _ ↔ _
    rw [List.cons_eq_cons, hwarm, allWarm_cons_iff]
    refine and_congr_right fun hop => ?_
    -- the server is in reach, so both go on together
    obtain rfl : connects = true := hop.1
    obtain ⟨server', hserver, hentries, hagrees⟩ := step_agrees h op
    rw [hserver, hentries, ← entriesAfter_append]
    rw [← entriesAfter_append] at hagrees
    exact ih hagrees

/-- **The Redis manager against the map.** Starting empty, a sequence of operations has the same
results in both exactly if the server is always in reach, and every `get` is on a key that has
been put and not deleted since. -/
theorem redis_refines_iff (json : SerdeJson Response Policy)
    (ops : List (Bool × Operation Response Policy)) :
    (CacheClient.redis fun _ => none).replies json ops =
        (CacheClient.moka fun _ => none).replies json ops ↔
      ∀ front connects op back, ops = front ++ (connects, op) :: back →
        connects = true ∧ ∀ key, op = .get key → Held (front.map Prod.snd) key := by
  have hagrees : Agrees json (fun _ => none) (entriesAfter []) := fun _ => Or.inl ⟨rfl, rfl⟩
  exact replies_eq_iff ops hagrees

/-! ### Lookups -/

/-- What the cache is told of a key. -/
def CacheClient.lookup (json : SerdeJson Response Policy) (client : CacheClient Response Policy)
    (key : String) :
    Except Unit (Option (Response × Policy)) :=
  match client with
  | .redis server => (RedisCacheManager.get json true server key).mapError fun _ => ()
  | .moka entries => .ok (entries key)

/-- **A cold lookup** is an error on the server, and a miss in the map. Only a miss makes a bucket
count as empty. -/
theorem checkCache_of_cold {Cached Built : Type} {env : Env (Response × Policy) Cached Built}
    {client : CacheClient Response Policy} (hget : env.get = client.lookup json) {key : String}
    (parts : Parts) (bucket : UInt8) :
    (∀ server, client = .redis server → server key = none →
      checkCache env parts bucket key = .error ()) ∧
    (∀ entries, client = .moka entries → entries key = none →
      checkCache env parts bucket key = .ok .miss) := by
  constructor
  · rintro server rfl hcold
    have hlookup : env.get key = .error () := by
      rw [hget]
      show (RedisCacheManager.get json true server key).mapError _ = _
      unfold RedisCacheManager.get
      rw [hcold]
      rfl
    unfold checkCache
    rw [hlookup]
  · rintro entries rfl hcold
    have hlookup : env.get key = .ok none := by
      rw [hget]
      exact congrArg Except.ok hcold
    unfold checkCache
    rw [hlookup]

/-- JSON for responses that are all alike. -/
def oneText : SerdeJson Unit Unit where
  toString _ := some "\x7b\x7d"
  fromStr _ := some ((), ())
  fromStr_toString _ := ⟨"\x7b\x7d", rfl, rfl⟩

/-- **The first lookup is an error**, where the map has nothing: a key that was never put. -/
theorem redis_refines_fails :
    (CacheClient.redis fun _ => none).replies oneText [(true, .get "key")] =
        [.got (.error .redis)] ∧
    (CacheClient.moka fun _ => none).replies oneText [(true, .get "key")] = [.got (.ok none)] ∧
    ¬ ∀ (json : SerdeJson Unit Unit) (ops : List (Bool × Operation Unit Unit)),
      (∀ p ∈ ops, p.1 = true) →
      (CacheClient.redis fun _ => none).replies json ops =
        (CacheClient.moka fun _ => none).replies json ops := by
  refine ⟨rfl, rfl, fun h => ?_⟩
  have heq := h oneText [(true, .get "key")] fun p hp => by rw [List.mem_singleton.mp hp]
  cases ManagerReply.got.inj (List.cons.inj heq).1

end AiGateway.Cache
