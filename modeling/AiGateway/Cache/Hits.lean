import AiGateway.Cache.History
import Mathlib.Data.Fintype.Pigeonhole

/-!
# The hits of the cache

Which requests an answer from the cache may have been stored for. Of a request, the key of an
entry knows the seed, the path with the query, the body and the bucket, and it knows them by a
64-bit hash; it does not know the user.

* `State.WellFormed.step`: entries and tasks belong to requests of the history, under their keys;
* `hitOf_of_run`: a hit comes from a request of the history with the same key;
* `hits_sound`: it was stored for the same seed, path and body, unless the hasher collides;
* `private_kept`: the histories in which private responses stay with their user.
-/

namespace AiGateway.Cache

open Transition

section Model

variable {User Time Entry Cached Response : Type} (lib : Library Time Entry Cached Response)

/-! ### Whose entries there are -/

/-- What a request may send to the service behind: itself, or the revalidation of an entry. -/
inductive IsRequestOf (call : Call User Time) : Parts → Prop
  | own : IsRequestOf call call.head.parts
  | revalidation (entry : Entry) (parts : Parts) (isMatch : Bool) :
      lib.beforeRequest entry call.head call.now = .stale parts isMatch →
      IsRequestOf call parts

/-- A phase that a request can be in. -/
def Phase.WellFormed (call : Call User Time) : Phase → Prop
  | looking waiting staleHits emptyBuckets =>
    (∀ bucket ∈ waiting, bucket < call.buckets) ∧
      (∀ hit ∈ staleHits, hit.1 < call.buckets ∧ hit.2.1 = call.key lib hit.1 ∧
        IsRequestOf lib call hit.2.2) ∧
      ∀ bucket ∈ emptyBuckets, bucket < call.buckets
  | calling bucket key parts =>
    bucket < call.buckets ∧ key = call.key lib bucket ∧ IsRequestOf lib call parts

/-- An entry that was made for its request. -/
structure Stored.WellFormed (stored : Stored User Time Entry Response) (key : String) : Prop where
  bucket : stored.bucket < stored.call.buckets
  key : key = stored.call.key lib stored.bucket
  parts : IsRequestOf lib stored.call stored.parts

/-- The requests of a state are from `R`, and its entries from `P`. -/
structure State.WellFormed (R : Call User Time → Prop)
    (P : Stored User Time Entry Response → Prop) (s : State User Time Entry Response) : Prop where
  store : ∀ key stored, s.store key = some stored →
    stored.WellFormed lib key ∧ R stored.call ∧ P stored
  tasks : ∀ id task, s.tasks id = some task → task.phase.WellFormed lib task.call ∧ R task.call

/-- What a label adds is from `R` and from `P`. -/
def Label.Adds (R : Call User Time → Prop) (P : Stored User Time Entry Response → Prop) :
    Label User Time Entry Response → Prop
  | begun call => R call
  -- only an answer writes to the store
  | answered _ _ saved => ∀ stored, saved = some stored → P stored
  | _ => True

variable {lib} {R : Call User Time → Prop} {P : Stored User Time Entry Response → Prop}
  {s s' : State User Time Entry Response} {call : Call User Time}

/-- A request goes on, or leaves. -/
theorem State.WellFormed.setTask (h : s.WellFormed lib R P) (id : ℕ)
    {task : Option (Task User Time)}
    (htask : ∀ t, task = some t → t.phase.WellFormed lib t.call ∧ R t.call) :
    (s.setTask id task).WellFormed lib R P where
  store := h.store
  tasks id' t ht := by
    unfold State.setTask at ht
    dsimp only at ht
    by_cases hid : id' = id
    · rw [hid, Function.update_self] at ht
      exact htask t ht
    · rw [Function.update_of_ne hid] at ht
      exact h.tasks id' t ht

/-- The store is changed under one key. -/
theorem State.WellFormed.setStore (h : s.WellFormed lib R P) {key : String}
    {stored : Option (Stored User Time Entry Response)}
    (hstored : ∀ st, stored = some st → st.WellFormed lib key ∧ R st.call ∧ P st) :
    (s.setStore key stored).WellFormed lib R P where
  store key' st hst := by
    unfold State.setStore at hst
    dsimp only at hst
    by_cases hkey : key' = key
    · rw [hkey, Function.update_self] at hst
      rw [hkey]
      exact hstored st hst
    · rw [Function.update_of_ne hkey] at hst
      exact h.store key' st hst
  tasks := h.tasks

theorem State.WellFormed.put (h : s.WellFormed lib R P) {key : String}
    {stored : Option (Stored User Time Entry Response)}
    (hstored : ∀ st, stored = some st → st.WellFormed lib key ∧ R st.call ∧ P st) :
    (s.put key stored).WellFormed lib R P := by
  cases stored with
  | some st => exact h.setStore hstored
  | none => exact h

/-- A stale answer names a request that was made from an entry. -/
theorem isRequestOf_of_checkCache {store : String → Option (Stored User Time Entry Response)}
    {outside : Outside Response} {bucket : UInt8} {key : String} {request : Parts}
    (h : checkCache (lib.env call store outside) call.head.parts bucket key =
      .ok (.stale request)) : IsRequestOf lib call request := by
  unfold checkCache at h
  split at h
  · cases h
  · cases h
  · next entry hget =>
    split at h
    · split at h <;> cases h
    · next request' isMatch hbefore =>
      split at h
      · cases h
        exact .revalidation entry request isMatch hbefore
      · cases h

/-- A fresh answer was made of the entry in the store, which the policy lets pass. -/
theorem fresh_of_checkCache {store : String → Option (Stored User Time Entry Response)}
    {outside : Outside Response} {bucket : UInt8} {key : String}
    {stored : Stored User Time Entry Response} {response : Response}
    (hstored : store key = some stored)
    (h : checkCache (lib.env call store outside) call.head.parts bucket key =
      .ok (.fresh response)) :
    lib.beforeRequest stored.entry call.head call.now = .fresh ∧
      lib.freshResponse stored.entry call.head bucket = some response := by
  unfold checkCache at h
  split at h
  · cases h
  · cases h
  · next entry hget =>
    have hentry : stored.entry = entry := by
      -- the lookup that found it read this store
      unfold Library.env at hget
      dsimp only at hget
      split at hget
      · cases hget
      · rw [hstored] at hget
        exact Option.some.inj (Except.ok.inj hget)
    rw [hentry]
    split at h
    · next hbefore =>
      split at h
      · next r hfresh =>
        cases h
        exact ⟨hbefore, hfresh⟩
      · cases h
    · split at h <;> cases h

/-- An answer that is not fresh leaves the request as it should be. -/
theorem Phase.WellFormed.looked {waiting : List UInt8}
    {staleHits : List (UInt8 × String × Parts)} {emptyBuckets : List UInt8} {bucket : UInt8}
    {store : String → Option (Stored User Time Entry Response)} {outside : Outside Response}
    {phase : Phase} (h : (Phase.looking waiting staleHits emptyBuckets).WellFormed lib call)
    (hmem : bucket ∈ waiting)
    (hlooked : Phase.looked waiting staleHits emptyBuckets bucket (call.key lib bucket)
      (checkCache (lib.env call store outside) call.head.parts bucket (call.key lib bucket)) =
        some phase) : phase.WellFormed lib call := by
  obtain ⟨hwaiting, hstale, hempty⟩ := h
  have hbucket := hwaiting bucket hmem
  have hrest : ∀ b ∈ waiting.erase bucket, b < call.buckets :=
    fun b hb => hwaiting b (List.mem_of_mem_erase hb)
  cases hcheck : checkCache (lib.env call store outside) call.head.parts bucket
      (call.key lib bucket) with
  | error e =>
    rw [hcheck] at hlooked
    cases hlooked
    exact ⟨hrest, hstale, hempty⟩
  | ok answer =>
    rw [hcheck] at hlooked
    cases answer with
    -- a fresh answer ends the search
    | fresh r => cases hlooked
    | stale request =>
      cases hlooked
      refine ⟨hrest, ?_, hempty⟩
      intro hit hhit
      rcases List.mem_append.mp hhit with hhit | hhit
      · exact hstale hit hhit
      · rw [List.mem_singleton.mp hhit]
        exact ⟨hbucket, rfl, isRequestOf_of_checkCache hcheck⟩
    | miss =>
      cases hlooked
      refine ⟨hrest, hstale, ?_⟩
      intro b hb
      rcases List.mem_append.mp hb with hb | hb
      · exact hempty b hb
      · rw [List.mem_singleton.mp hb]
        exact hbucket

/-- The bucket of a miss is one of the request's. -/
theorem lt_of_pickBucket {chance : Chance} {n bucket : UInt8} {emptyBuckets order : List UInt8}
    (hempty : ∀ b ∈ emptyBuckets, b < n) (horder : order.Perm emptyBuckets)
    (h : (pickBucket chance n order).2 = some bucket) : bucket < n := by
  cases order with
  | cons first order =>
    cases h
    exact hempty _ (horder.mem_iff.mp List.mem_cons_self)
  -- no bucket is empty: one is taken at random, below the number of buckets
  | nil => exact U8.lt_of_rem h

/-- What is saved belongs to the request that is answered. -/
theorem saved_wellFormed {bucket : UInt8} {key : String} {parts : Parts}
    {outside : Outside Response} {stored : Stored User Time Entry Response}
    (hphase : (Phase.calling bucket key parts).WellFormed lib call)
    (h : lib.saved call bucket parts outside = some stored) :
    stored.WellFormed lib key ∧ stored.call = call := by
  obtain ⟨hbucket, hkey, hparts⟩ := hphase
  unfold Library.saved at h
  dsimp only at h
  split at h
  · obtain ⟨httpResp, -, rfl⟩ := Option.map_eq_some_iff.mp h
    exact ⟨⟨hbucket, hkey, hparts⟩, rfl⟩
  · cases h

/-- **A step keeps the entries and the requests in order.** -/
theorem State.WellFormed.step {l : Label User Time Entry Response} (h : s.WellFormed lib R P)
    (hstep : CacheStep lib s l s') (hl : l.Adds R P) : s'.WellFormed lib R P := by
  cases hstep with
  | begun id config user head body now call hnone hnew =>
    refine h.setTask id fun t ht => ?_
    cases ht
    refine ⟨⟨fun b hb => U8.mem_range.mp hb, ?_, ?_⟩, hl⟩
    · exact fun hit hhit => absurd hhit List.not_mem_nil
    · exact fun b hb => absurd hb List.not_mem_nil
  | looked id call waiting staleHits emptyBuckets bucket outside phase htask hmem hlooked =>
    obtain ⟨hphase, hR⟩ := h.tasks id _ htask
    refine h.setTask id fun t ht => ?_
    cases ht
    exact ⟨hphase.looked hmem hlooked, hR⟩
  | hit id call waiting staleHits emptyBuckets bucket outside stored response htask =>
    exact h.setTask id fun t ht => by cases ht
  | revalidated id call staleHits emptyBuckets bucket key parts htask hmem =>
    -- the request that is sent is that of the stale hit
    obtain ⟨⟨-, hstale, -⟩, hR⟩ := h.tasks id _ htask
    refine h.setTask id fun t ht => ?_
    cases ht
    exact ⟨hstale _ hmem, hR⟩
  | missed id call emptyBuckets order chance bucket htask horder hpick =>
    obtain ⟨⟨-, -, hempty⟩, hR⟩ := h.tasks id _ htask
    refine h.setTask id fun t ht => ?_
    cases ht
    -- with nothing stale, the request itself is sent
    exact ⟨⟨lt_of_pickBucket hempty horder hpick, rfl, .own⟩, hR⟩
  | panicked id call emptyBuckets order chance htask =>
    exact h.setTask id fun t ht => by cases ht
  | answered id call bucket key parts outside htask =>
    obtain ⟨hphase, hR⟩ := h.tasks id _ htask
    -- the one step that stores something
    refine State.WellFormed.setTask (h.put fun st hst => ?_) id fun t ht => by cases ht
    obtain ⟨hwf, hcall⟩ := saved_wellFormed hphase hst
    exact ⟨hwf, hcall ▸ hR, hl st hst⟩
  | dropped id => exact h.setTask id fun t ht => by cases ht
  | evicted key => exact h.setStore fun st hst => by cases hst

/-- A hit: the entry was made for its request, under one of the keys of the request it answers,
and is fresh for it. -/
structure HitOf (lib : Library Time Entry Cached Response) (R : Call User Time → Prop)
    (P : Stored User Time Entry Response → Prop) (call : Call User Time)
    (stored : Stored User Time Entry Response) : Prop where
  key : ∃ bucket < call.buckets, stored.WellFormed lib (call.key lib bucket)
  fresh : lib.beforeRequest stored.entry call.head call.now = .fresh
  call : R call
  origin : R stored.call
  stored : P stored

/-- A step that is a hit is one in this sense. -/
theorem State.WellFormed.hit {stored : Stored User Time Entry Response} {response : Response}
    (h : s.WellFormed lib R P) (hstep : CacheStep lib s (.hit call stored response) s') :
    HitOf lib R P call stored := by
  cases hstep with
  | hit id call waiting staleHits emptyBuckets bucket outside stored response htask hmem hstored
      hcheck =>
    obtain ⟨⟨hwaiting, -, -⟩, hR⟩ := h.tasks id _ htask
    obtain ⟨hwf, horigin, hP⟩ := h.store _ _ hstored
    exact ⟨⟨bucket, hwaiting bucket hmem, hwf⟩, (fresh_of_checkCache hstored hcheck).1, hR,
      horigin, hP⟩

/-- What a step stores was made for the request that is answered. -/
theorem State.WellFormed.answered {outcome : Outcome Response}
    {stored : Stored User Time Entry Response} (h : s.WellFormed lib R P)
    (hstep : CacheStep lib s (.answered call outcome (some stored)) s') : R stored.call := by
  generalize hl : Label.answered call outcome (some stored) = l at hstep
  cases hstep with
  | answered id call' bucket key parts outside htask =>
    obtain ⟨hphase, hR⟩ := h.tasks id _ htask
    obtain ⟨-, -, hsaved⟩ := Label.answered.inj hl
    exact (saved_wellFormed hphase hsaved.symm).2 ▸ hR
  | _ => cases hl

variable {tr : List (Label User Time Entry Response × State User Time Entry Response)}

/-! ### Runs -/

/-- **The labels of a history**: each has what a step from a state gives it whose requests and
entries are of the history. -/
theorem forall_label_of_run {Q : Label User Time Entry Response → Prop}
    (hrun : (cache lib).Run (cache lib).init tr)
    (hlabel : ∀ (s : State User Time Entry Response) (l : Label User Time Entry Response)
      (s' : State User Time Entry Response), s.WellFormed lib (BegunIn tr) (SavedIn tr) →
      CacheStep lib s l s' → Q l) : ∀ p ∈ tr, Q p.1 := by
  -- each label is of the history, and so is what it adds
  have hadds : ∀ p ∈ tr, p.1.Adds (BegunIn tr) (SavedIn tr) := by
    rintro ⟨l, s⟩ hp
    cases l with
    | begun call => exact ⟨s, hp⟩
    | answered call outcome saved =>
      rintro stored rfl
      exact ⟨call, outcome, s, hp⟩
    | looked call bucket => trivial
    | hit call stored response => trivial
    | called call parts => trivial
    | panicked call => trivial
    | dropped => trivial
    | evicted => trivial
  -- at first there are no entries and no tasks
  have hinit : (cache lib).init.WellFormed lib (BegunIn tr) (SavedIn tr) :=
    ⟨(fun key stored h => by cases h), (fun id task h => by cases h)⟩
  have hstep : ∀ (s : State User Time Entry Response) (l : Label User Time Entry Response)
      (s' : State User Time Entry Response), s.WellFormed lib (BegunIn tr) (SavedIn tr) →
      (cache lib).step s l s' → l.Adds (BegunIn tr) (SavedIn tr) →
      s'.WellFormed lib (BegunIn tr) (SavedIn tr) :=
    fun s l s' hs hst hl => State.WellFormed.step hs hst hl
  exact hrun.forall_label hstep hlabel hinit hadds

/-- **Hits come from the history**: the request and the entry are of it, and the entry was made
for a request of it. -/
theorem hitOf_of_run (hrun : (cache lib).Run (cache lib).init tr)
    {stored : Stored User Time Entry Response} {response : Response}
    (hhit : ∃ s, (.hit call stored response, s) ∈ tr) :
    HitOf lib (BegunIn tr) (SavedIn tr) call stored := by
  obtain ⟨s, hmem⟩ := hhit
  have hlabel : ∀ (s : State User Time Entry Response) (l : Label User Time Entry Response)
      (s' : State User Time Entry Response), s.WellFormed lib (BegunIn tr) (SavedIn tr) →
      CacheStep lib s l s' → l = .hit call stored response →
      HitOf lib (BegunIn tr) (SavedIn tr) call stored := by
    rintro s l s' hs hst rfl
    exact hs.hit hst
  exact forall_label_of_run hrun hlabel _ hmem rfl

/-- What is stored was made for a request of the history. -/
theorem begunIn_of_savedIn (hrun : (cache lib).Run (cache lib).init tr)
    {stored : Stored User Time Entry Response} (hsaved : SavedIn tr stored) :
    BegunIn tr stored.call := by
  obtain ⟨call, outcome, s, hmem⟩ := hsaved
  have hlabel : ∀ (s : State User Time Entry Response) (l : Label User Time Entry Response)
      (s' : State User Time Entry Response), s.WellFormed lib (BegunIn tr) (SavedIn tr) →
      CacheStep lib s l s' → l = .answered call outcome (some stored) →
      BegunIn tr stored.call := by
    rintro s l s' hs hst rfl
    exact hs.answered hst
  exact forall_label_of_run hrun hlabel _ hmem rfl

/-- **Hits are sound** where the hasher keeps apart what the requests of the history write: the
response was stored for a request of the history with the same seed, the same path and query and
the same body. -/
theorem hits_sound (lib : Library Time Entry Cached Response)
    (tr : List (Label User Time Entry Response × State User Time Entry Response))
    (hrun : (cache lib).Run (cache lib).init tr)
    (hhash : ∀ call call', BegunIn tr call → BegunIn tr call' →
      ∀ bucket < call.buckets, ∀ bucket' < call'.buckets,
        lib.hash (call.writes bucket) = lib.hash (call'.writes bucket') →
        call.writes bucket = call'.writes bucket')
    (call : Call User Time) (stored : Stored User Time Entry Response) (response : Response)
    (hhit : ∃ s, (.hit call stored response, s) ∈ tr) :
    BegunIn tr stored.call ∧ stored.call.ctx.seed = call.ctx.seed ∧
      stored.call.head.parts.pathAndQuery = call.head.parts.pathAndQuery ∧
      stored.call.body = call.body := by
  obtain ⟨⟨bucket, hlt, hwf⟩, -, hbegun, horigin, -⟩ := hitOf_of_run hrun hhit
  -- equal keys are equal hashes, and those of equal writes
  have hhashes := key_eq_iff.mp hwf.key
  obtain ⟨hseed, hpath, hbody, -⟩ := keyWrites_inj.mp
    (hhash stored.call call horigin hbegun stored.bucket hwf.bucket bucket hlt hhashes.symm)
  exact ⟨horigin, hseed, hpath, hbody⟩

/-! ### Private responses -/

/-- **Private responses stay with their user** in the histories in which none is stored under a
key that a request of another user has and for which the policy finds it fresh. -/
theorem private_kept (lib : Library Time Entry Cached Response) (isPrivate : Response → Prop)
    (tr : List (Label User Time Entry Response × State User Time Entry Response))
    (hrun : (cache lib).Run (cache lib).init tr)
    (hseparate : ∀ stored, SavedIn tr stored → isPrivate stored.response →
      ∀ call, BegunIn tr call → call.user ≠ stored.call.user → ∀ bucket < call.buckets,
        call.key lib bucket = stored.call.key lib stored.bucket →
        lib.beforeRequest stored.entry call.head call.now ≠ .fresh)
    (call : Call User Time) (stored : Stored User Time Entry Response) (response : Response)
    (hhit : ∃ s, (.hit call stored response, s) ∈ tr) (hprivate : isPrivate stored.response) :
    call.user = stored.call.user := by
  obtain ⟨⟨bucket, hlt, hwf⟩, hfresh, hbegun, -, hsaved⟩ := hitOf_of_run hrun hhit
  by_contra huser
  exact hseparate stored hsaved hprivate call hbegun huser bucket hlt hwf.key hfresh

end Model

/-! ### One request, and the same again -/

/-- A response, as far as it matters here. -/
structure Reply where
  /-- It is marked `Cache-Control: private`. -/
  isPrivate : Bool
  body : Bytes

/-- A policy that compares the method and the URI; what is stored stays fresh. A private response
is not for a shared cache. -/
def matching (hash : List Write → UInt64) : Library Unit (Head × Reply) Reply Reply where
  hash := hash
  beforeRequest entry head _ :=
    if head.method = entry.1.method ∧ head.origin = entry.1.origin ∧
        head.parts.pathAndQuery = entry.1.parts.pathAndQuery then .fresh
    else .stale head.parts false
  freshResponse entry _ _ := some entry.2
  isStorable ctx _ reply _ := !((ctx.options.getD default).shared && reply.isPrivate)
  httpResponse _ reply := some reply
  entry _ head reply _ _ := (head, reply)
  putResponse reply _ := some reply

/-- One bucket, and no seed. -/
def oneBucket : CacheConfig := ⟨none, 1, none⟩

def chatHead : Head := ⟨"POST", none, ⟨some "/ai/chat/completions", []⟩⟩

/-- A chat of a user. -/
def chat (user : String) (body : Bytes) : Call String Unit :=
  ⟨user, chatHead, (), oneBucket.context.merge ⟨none, none, none, none, none⟩, body⟩

theorem newCall_chat (user : String) (body : Bytes) :
    newCall oneBucket user chatHead (some body) () = some (chat user body) := rfl

/-- A service that answers everything in private. -/
def privately : Outside Reply := ⟨fun _ => false, fun _ _ => ⟨true, []⟩, false, false⟩

/-- What is stored of the answer to a chat. -/
def privateEntry (call : Call String Unit) : Stored String Unit (Head × Reply) Reply :=
  ⟨(call.head, ⟨true, []⟩), call, 0, call.head.parts, ⟨true, []⟩⟩

theorem chat_lt (user : String) (body : Bytes) : (0 : UInt8) < (chat user body).buckets := by
  have hone : (0 : UInt8) < 1 := by decide
  exact hone

/-- The one bucket of a chat. -/
theorem empty_chat {hash : List Write → UInt64} {user : String} {body : Bytes}
    {s : State String Unit (Head × Reply) Reply}
    (h : s.store ((chat user body).key (matching hash) 0) = none) :
    ∀ b < (chat user body).buckets, s.store ((chat user body).key (matching hash) b) = none := by
  intro b hb
  rw [UInt8.lt_one_iff.mp hb]
  exact h

theorem saved_chat (hash : List Write → UInt64) (user : String) (body : Bytes) :
    (matching hash).saved (chat user body) 0 chatHead.parts privately =
      some (privateEntry (chat user body)) := rfl

/-- **Where two chats have the same hash**, the answer to the one is served to the other. -/
theorem exists_run_chat (hash : List Write → UInt64) {user user' : String} {body body' : Bytes}
    (h : hash ((chat user body).writes 0) = hash ((chat user' body').writes 0))
    {s : State String Unit (Head × Reply) Reply} (hnone : s.tasks 0 = none)
    (hempty : s.store ((chat user body).key (matching hash) 0) = none) :
    ∃ tr, (cache (matching hash)).Run s tr ∧
      (∃ s', (.hit (chat user' body') (privateEntry (chat user body)) ⟨true, []⟩, s') ∈ tr) ∧
      (∀ c, BegunIn tr c → c = chat user body ∨ c = chat user' body') ∧
      ∀ e, SavedIn tr e → e = privateEntry (chat user body) := by
  have hkey : (chat user body).key (matching hash) 0 = (chat user' body').key (matching hash) 0 :=
    key_eq_iff.mpr h
  have hbefore : (matching hash).beforeRequest (privateEntry (chat user body)).entry
      (chat user' body').head () = .fresh := by
    unfold matching
    dsimp only
    rw [if_pos ⟨rfl, rfl, rfl⟩]
  exact exists_run_hit (newCall_chat user body) (newCall_chat user' body') hnone
    (empty_chat hempty) (chat_lt user body) (chat_lt user' body') hkey (fun _ => rfl)
    (saved_chat hash user body) hbefore rfl

/-- A hasher that tells short bodies apart. -/
def sumBytes (writes : List Write) : UInt64 :=
  UInt64.ofNat (writes.map fun
    | .bytes bytes => (bytes.map UInt8.toNat).sum
    | .u8 byte => byte.toNat
    | .usize n => n).sum

/-- What one user asks, and what another one does. -/
def aliceChat : Call String Unit := chat "user-a" [1]

def bobChat : Call String Unit := chat "user-b" [2]

/-- The second user asks, then the first one, and then the first one asks the same again. -/
structure TwoUsers (tr : List (Label String Unit (Head × Reply) Reply ×
    State String Unit (Head × Reply) Reply)) : Prop where
  run : (cache (matching sumBytes)).Run (cache (matching sumBytes)).init tr
  bob : BegunIn tr bobChat ∧ SavedIn tr (privateEntry bobChat)
  hit : ∃ s, (.hit aliceChat (privateEntry aliceChat) ⟨true, []⟩, s) ∈ tr
  begun : ∀ c, BegunIn tr c → c = bobChat ∨ c = aliceChat
  saved : ∀ e, SavedIn tr e → e = privateEntry bobChat ∨ e = privateEntry aliceChat

theorem hash_alice_ne_bob : sumBytes (aliceChat.writes 0) ≠ sumBytes (bobChat.writes 0) := by
  decide +kernel

theorem exists_twoUsers : ∃ tr, TwoUsers tr := by
  obtain ⟨tr, hrun, hbegun, hsaved, hnone, hstore, store, s, hanswered⟩ :=
    @exists_run_saved _ _ _ _ _ (matching sumBytes) (cache (matching sumBytes)).init _ _ _ _ _ _
      (newCall_chat "user-b" [2]) 0 rfl (fun _ _ => rfl) _ (chat_lt "user-b" [2]) _ (fun _ => rfl) _
      (saved_chat sumBytes "user-b" [2])
  have hne : aliceChat.key (matching sumBytes) 0 ≠ bobChat.key (matching sumBytes) 0 :=
    fun h => hash_alice_ne_bob (key_eq_iff.mp h)
  have hempty : (System.finalState (cache (matching sumBytes)).init tr).store
      (aliceChat.key (matching sumBytes) 0) = none := by
    rw [hstore]
    exact Function.update_of_ne hne _ _
  obtain ⟨tr', hrun', ⟨s', hhit⟩, hbegun', hsaved'⟩ :=
    @exists_run_chat sumBytes "user-a" "user-a" [1] [1] rfl _ hnone hempty
  have hbob : BegunIn tr bobChat := by
    obtain ⟨s₀, hs₀⟩ := begunIn_of_savedIn hrun ⟨_, _, _, hanswered⟩
    exact ⟨s₀, hs₀⟩
  refine ⟨tr ++ tr', hrun.append hrun', ⟨?_, ?_⟩, ⟨s', List.mem_append_right _ hhit⟩, ?_, ?_⟩
  · obtain ⟨s₀, hs₀⟩ := hbob
    exact ⟨s₀, List.mem_append_left _ hs₀⟩
  · exact ⟨_, _, _, List.mem_append_left _ hanswered⟩
  · rintro c ⟨s₀, hs₀⟩
    rcases List.mem_append.mp hs₀ with hs₀ | hs₀
    · exact Or.inl (hbegun c ⟨s₀, hs₀⟩)
    · exact Or.inr (or_self_iff.mp (hbegun' c ⟨s₀, hs₀⟩))
  · rintro e ⟨c, outcome, s₀, hs₀⟩
    rcases List.mem_append.mp hs₀ with hs₀ | hs₀
    · exact Or.inl (hsaved e ⟨c, outcome, s₀, hs₀⟩)
    · exact Or.inr (hsaved' e ⟨c, outcome, s₀, hs₀⟩)

/-- A chat that is repeated is answered from the cache, with what was stored for the same, though
the answer to another one is stored as well. -/
theorem hits_sound_chat : ∃ tr, TwoUsers tr ∧ BegunIn tr (privateEntry aliceChat).call ∧
    (privateEntry aliceChat).call.body = aliceChat.body := by
  obtain ⟨tr, h⟩ := exists_twoUsers
  have hwrites : ∀ call, BegunIn tr call → ∀ bucket < call.buckets,
      call.writes bucket = bobChat.writes 0 ∨ call.writes bucket = aliceChat.writes 0 := by
    intro call hcall bucket hlt
    rcases h.begun call hcall with rfl | rfl
    · exact Or.inl (by rw [UInt8.lt_one_iff.mp hlt])
    · exact Or.inr (by rw [UInt8.lt_one_iff.mp hlt])
  have hsound := hits_sound (matching sumBytes) tr h.run
    (fun call call' hcall hcall' bucket hlt bucket' hlt' hhash => by
      -- the hasher tells the two chats apart
      rcases hwrites call hcall bucket hlt with heq | heq <;>
        rcases hwrites call' hcall' bucket' hlt' with heq' | heq' <;> rw [heq, heq'] at hhash ⊢
      · exact absurd hhash.symm hash_alice_ne_bob
      · exact absurd hhash hash_alice_ne_bob) _ _ _ h.hit
  exact ⟨tr, h, hsound.1, hsound.2.2.2⟩

/-- **No hasher tells all bodies apart**: there are two chats with one key, and the one is
answered with what was stored for the other. -/
theorem hits_sound_fails :
    ¬ ∃ hash : List Write → UInt64, ∀ tr : List (Label String Unit (Head × Reply) Reply ×
        State String Unit (Head × Reply) Reply),
      (cache (matching hash)).Run (cache (matching hash)).init tr →
      ∀ call stored response, (∃ s, (.hit call stored response, s) ∈ tr) →
        stored.call.ctx.seed = call.ctx.seed ∧
          stored.call.head.parts.pathAndQuery = call.head.parts.pathAndQuery ∧
          stored.call.body = call.body := by
  rintro ⟨hash, h⟩
  -- there are more bodies than hashes
  have hfinite : Finite UInt64 := Finite.of_injective UInt64.toFin fun a b => UInt64.toFin_inj.mp
  obtain ⟨body, body', hne, hhash⟩ := Finite.exists_ne_map_eq_of_infinite fun body =>
    hash ((chat "user-a" body).writes 0)
  obtain ⟨tr, hrun, hhit, -⟩ := @exists_run_chat hash "user-a" "user-a" body body' hhash
    (cache (matching hash)).init rfl rfl
  exact hne (h tr hrun _ _ _ hhit).2.2

/-- A private answer is served to its user again, and not to another one who asks something else. -/
theorem private_kept_chat : ∃ tr, TwoUsers tr ∧
    aliceChat.user = (privateEntry aliceChat).call.user := by
  obtain ⟨tr, h⟩ := exists_twoUsers
  have hne : aliceChat.key (matching sumBytes) 0 ≠ bobChat.key (matching sumBytes) 0 :=
    fun heq => hash_alice_ne_bob (key_eq_iff.mp heq)
  have huser := private_kept (matching sumBytes) (fun reply => reply.isPrivate = true) tr h.run
    (fun stored hsaved _ call hcall huser bucket hlt hkey => by
      -- another user has another key
      rcases h.saved stored hsaved with rfl | rfl
      · rcases h.begun call hcall with rfl | rfl
        · exact absurd rfl huser
        · rw [UInt8.lt_one_iff.mp hlt] at hkey
          exact absurd hkey hne
      · rcases h.begun call hcall with rfl | rfl
        · rw [UInt8.lt_one_iff.mp hlt] at hkey
          exact absurd hkey.symm hne
        · exact absurd rfl huser) _ _ _ h.hit rfl
  exact ⟨tr, h, huser⟩

/-- **A private answer is served to another user.** Two users ask the same. -/
theorem private_kept_fails :
    ¬ ∃ hash : List Write → UInt64, ∀ tr : List (Label String Unit (Head × Reply) Reply ×
        State String Unit (Head × Reply) Reply),
      (cache (matching hash)).Run (cache (matching hash)).init tr →
      ∀ call stored response, (∃ s, (.hit call stored response, s) ∈ tr) →
        stored.response.isPrivate = true → call.user = stored.call.user := by
  rintro ⟨hash, h⟩
  obtain ⟨tr, hrun, hhit, -⟩ := @exists_run_chat hash "user-a" "user-b" [] [] rfl
    (cache (matching hash)).init rfl rfl
  have huser := h tr hrun _ _ _ hhit rfl
  exact absurd huser (by decide)

end AiGateway.Cache
