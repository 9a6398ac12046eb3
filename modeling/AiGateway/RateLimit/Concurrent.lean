import AiGateway.RateLimit.Rate
import Mathlib.Data.Fintype.Card
import Mathlib.Data.Fintype.Fin
import Mathlib.Data.List.FinRange

/-!
# Concurrent requests of one key

Requests with the same key and the same timestamp, whose Redis messages
interleave. A request sends one `GET`, computes, and if it passes the admission
test sends one `SETEX`; Redis executes the messages one at a time (`RedisStep`).
Nothing ties the `SETEX` of a request to the TAT its `GET` returned, so the
update of one request can be lost under that of another. A `SETEX` that is refused
leaves Redis as it is, and is no message here.

* `serial_admits_le`: in the runs where no `GET` falls between the two messages of
  another request, at most a burst is admitted. The invariant `SerialInv` ties the
  stored TAT to the number of requests admitted so far.
* `overAdmission`: every other schedule is open to the worst case. When all the
  requests read before the first one writes, all of them are admitted.
-/

namespace AiGateway

open Transition

variable {gcra : GcraConfig} {n : ℕ}

/-! ### The sessions -/

/-- How far a request is. -/
inductive Session
  /-- Its `GET` has not been executed. -/
  | waiting
  /-- It was admitted, and its `SETEX` has not been executed. -/
  | writing (entry : Entry) (outcome : Outcome)
  | done (outcome : Outcome)

/-- The session after its `GET`. -/
def Session.ofAfterGet : AfterGet → Session
  | .respond o => done o
  | .setEx e o => writing e o

/-- The request has been admitted, and its TAT is written. -/
def Session.isAdmitted : Session → Bool
  | done o => o.isAdmitted
  | _ => false

/-- A message that Redis executes. -/
inductive Message (n : ℕ)
  | get (c : Fin n)
  | setEx (c : Fin n)

/-- Redis, and `n` requests of one key. -/
structure RedisState (n : ℕ) where
  store : Option Entry
  sessions : Fin n → Session

/-- Redis executes one message. -/
inductive RedisStep (gcra : GcraConfig) (nowMs : ℤ) : RedisState n → Message n → RedisState n → Prop
  | get (s : RedisState n) (c : Fin n) : s.sessions c = .waiting →
      RedisStep gcra nowMs s (.get c) ⟨s.store, Function.update s.sessions c
        (.ofAfterGet (afterGet gcra (AiGateway.get s.store nowMs) nowMs))⟩
  | setEx (s : RedisState n) (c : Fin n) (e : Entry) (o : Outcome) :
      s.sessions c = .writing e o →
      RedisStep gcra nowMs s (.setEx c) ⟨some e, Function.update s.sessions c (.done o)⟩

/-- `n` concurrent requests at `nowMs`, starting from an absent key. -/
def concurrent (gcra : GcraConfig) (n : ℕ) (nowMs : ℤ) :
    System (RedisState n) (Message n) where
  init := ⟨none, fun _ => .waiting⟩
  step := RedisStep gcra nowMs

/-- The number of requests that have been admitted. -/
def admittedCount (s : RedisState n) : ℕ :=
  (Finset.univ.filter fun c => (s.sessions c).isAdmitted = true).card

/-- In every interleaving, at most `capacity` of the requests are admitted. -/
def NoOverAdmission (gcra : GcraConfig) (n : ℕ) (nowMs : ℤ) : Prop :=
  ∀ tr, (concurrent gcra n nowMs).Run (concurrent gcra n nowMs).init tr →
    System.AllStates (fun s => admittedCount s ≤ gcra.capacity) (concurrent gcra n nowMs).init tr

theorem admittedCount_le_clients (s : RedisState n) : admittedCount s ≤ n := by
  have h := Finset.card_filter_le (Finset.univ : Finset (Fin n))
    fun c => (s.sessions c).isAdmitted = true
  rwa [Finset.card_univ, Fintype.card_fin] at h

/-- A session that moves, and was not admitted before, counts once it is. -/
theorem admittedCount_update {s : RedisState n} {c : Fin n} (store : Option Entry)
    (x : Session) (hc : (s.sessions c).isAdmitted = false) :
    admittedCount ⟨store, Function.update s.sessions c x⟩
      = admittedCount s + if x.isAdmitted then 1 else 0 := by
  unfold admittedCount
  by_cases hx : x.isAdmitted = true
  · rw [if_pos hx]
    -- the session joins those that were counted before
    have hins : (Finset.univ.filter fun c' =>
        (Function.update s.sessions c x c').isAdmitted = true)
        = insert c (Finset.univ.filter fun c' => (s.sessions c').isAdmitted = true) := by
      ext c'
      by_cases heq : c' = c
      · subst heq; simp [hx]
      · simp [heq]
    rw [hins, Finset.card_insert_of_notMem (by simp [hc])]
  -- neither the old session nor the new one is counted
  · rw [if_neg hx, add_zero]
    congr 1
    ext c'
    by_cases heq : c' = c
    · subst heq; simp [hx, hc]
    · simp [Function.update_of_ne heq]

/-! ### Requests one after the other -/

/-- No request is between its `GET` and its `SETEX` when another `GET` is executed. -/
def Serial (s : RedisState n) (m : Message n) (_s' : RedisState n) : Prop :=
  match m with
  | .get _ => ∀ c e o, s.sessions c ≠ .writing e o
  | .setEx _ => True

/-- **The serial invariant.** The stored TAT is one interval ahead for every
admitted request, and at most one request is about to write the next. -/
structure SerialInv (gcra : GcraConfig) (nowMs : ℤ) (s : RedisState n) : Prop where
  le_capacity : admittedCount s ≤ gcra.capacity
  tat_eq : tatAt s.store nowMs = nowMs + admittedCount s * emissionInterval gcra
  writing : ∀ c e o, s.sessions c = .writing e o →
    o.isAdmitted = true ∧ admittedCount s < gcra.capacity ∧
      tatAt (some e) nowMs = nowMs + (admittedCount s + 1) * emissionInterval gcra ∧
      ∀ c' e' o', s.sessions c' = .writing e' o' → c' = c

theorem serialInv_init (gcra : GcraConfig) (nowMs : ℤ) :
    SerialInv gcra nowMs (concurrent gcra n nowMs).init where
  le_capacity := by
    rw [show admittedCount (concurrent gcra n nowMs).init = 0 by
      simp [admittedCount, concurrent, Session.isAdmitted]]
    exact Nat.zero_le _
  tat_eq := by
    rw [show admittedCount (concurrent gcra n nowMs).init = 0 by
      simp [admittedCount, concurrent, Session.isAdmitted], Nat.cast_zero, zero_mul, add_zero]
    rfl
  writing := by intro c e o h; cases h

/-- The sessions that are about to write, after one has moved. -/
theorem writing_of_update {s : RedisState n} {c c' : Fin n} {x : Session} {e : Entry}
    {o : Outcome} (hw : Function.update s.sessions c x c' = .writing e o) :
    (c' = c ∧ x = .writing e o) ∨ (c' ≠ c ∧ s.sessions c' = .writing e o) := by
  by_cases heq : c' = c
  · subst heq
    rw [Function.update_self] at hw
    exact Or.inl ⟨rfl, hw⟩
  · rw [Function.update_of_ne heq] at hw
    exact Or.inr ⟨heq, hw⟩

/-- A conforming request is admitted, and becomes the only one about to write. -/
theorem SerialInv.admit {now : Timestamp} (ha : SetExAccepts gcra now.ms)
    (hi : 0 < emissionInterval gcra)
    {s : RedisState n} {c : Fin n} (hs : SerialInv gcra now.ms s) (hc : s.sessions c = .waiting)
    (hquiet : ∀ c e o, s.sessions c ≠ .writing e o)
    (hconf : Gcra.Conforms (cellRate gcra) (tatAt s.store now.ms) now.ms) :
    SerialInv gcra now.ms ⟨s.store, Function.update s.sessions c
      (.ofAfterGet (afterGet gcra (AiGateway.get s.store now.ms) now.ms))⟩ := by
  have htat := hs.tat_eq
  have hahead : now.ms ≤ tatAt s.store now.ms := by
    have hnn : 0 ≤ (admittedCount s : ℤ) * emissionInterval gcra := by positivity
    omega
  -- there is room for one more, and its TAT is within the burst
  have hmul : ((admittedCount s : ℤ) + 1) * emissionInterval gcra
      ≤ gcra.capacity * emissionInterval gcra := by
    have hcon := AiGateway.conforms_iff.mp hconf
    rw [max_eq_left hahead] at hcon
    linarith
  have hlt : admittedCount s < gcra.capacity := by
    exact_mod_cast Int.add_one_le_iff.mp (le_of_mul_le_mul_right hmul hi)
  have hnew : newTat (emissionInterval gcra) (tatAt s.store now.ms) now.ms
      = now.ms + (admittedCount s + 1) * emissionInterval gcra := by
    rw [newTat_of_conforms ha hconf, max_eq_left hahead, htat]
    ring
  have hrest := afterGet_of_conforms ha s.store hconf
  rw [ratelimitRemaining_eq ha.burstFits hi now (tatAt_fits s.store now) hconf (by omega)] at hrest
  rw [hrest]
  have hcount := admittedCount_update s.store (Session.ofAfterGet (.setEx
    (setEx gcra (emissionInterval gcra) (tatAt s.store now.ms) now.ms)
    (.admitted gcra.capacity (burstLeft gcra (tatAt s.store now.ms) now.ms - 1))))
    (show (s.sessions c).isAdmitted = false by rw [hc]; rfl)
  rw [show Session.isAdmitted (.ofAfterGet (.setEx _ _)) = false from rfl,
    if_neg Bool.false_ne_true, add_zero] at hcount
  refine ⟨hcount.trans_le hs.le_capacity, by rw [hcount]; exact hs.tat_eq, ?_⟩
  intro c' e o hw
  -- it is the only one that writes, as nobody was writing before
  rcases writing_of_update hw with ⟨rfl, hx⟩ | ⟨-, hw'⟩
  · cases hx
    refine ⟨rfl, by rw [hcount]; exact hlt, by rw [hcount, tatAt_setEx]; exact hnew, ?_⟩
    intro c'' e' o' hw''
    rcases writing_of_update hw'' with ⟨rfl, -⟩ | ⟨-, hw''⟩
    · rfl
    · exact absurd hw'' (hquiet c'' e' o')
  · exact absurd hw' (hquiet c' e o)

/-- Any other request is denied, and nothing changes for the others. -/
theorem SerialInv.deny (h : BurstFits gcra) {now : Timestamp} {s : RedisState n} {c : Fin n}
    (hs : SerialInv gcra now.ms s) (hc : s.sessions c = .waiting)
    (hquiet : ∀ c e o, s.sessions c ≠ .writing e o)
    (hconf : ¬ Gcra.Conforms (cellRate gcra) (tatAt s.store now.ms) now.ms) :
    SerialInv gcra now.ms ⟨s.store, Function.update s.sessions c
      (.ofAfterGet (afterGet gcra (AiGateway.get s.store now.ms) now.ms))⟩ := by
  obtain ⟨secs, hrest⟩ := afterGet_of_not h s.store now hconf
  rw [hrest]
  have hcount := admittedCount_update s.store
    (Session.ofAfterGet (.respond (.tooManyRequests gcra.capacity 0 secs)))
    (show (s.sessions c).isAdmitted = false by rw [hc]; rfl)
  rw [show Session.isAdmitted (.ofAfterGet (.respond (.tooManyRequests _ _ _))) = false from rfl,
    if_neg Bool.false_ne_true, add_zero] at hcount
  refine ⟨hcount.trans_le hs.le_capacity, by rw [hcount]; exact hs.tat_eq, ?_⟩
  intro c' e o hw
  rcases writing_of_update hw with ⟨-, hx⟩ | ⟨-, hw'⟩
  · cases hx
  · exact absurd hw' (hquiet c' e o)

/-- The one request that is about to write counts as admitted once it has. -/
theorem SerialInv.write {nowMs : ℤ} {s : RedisState n} {c : Fin n} {e : Entry} {o : Outcome}
    (hs : SerialInv gcra nowMs s) (hc : s.sessions c = .writing e o) :
    SerialInv gcra nowMs ⟨some e, Function.update s.sessions c (.done o)⟩ := by
  obtain ⟨hadm, hlt, htat, honly⟩ := hs.writing c e o hc
  have hcount := admittedCount_update (some e) (.done o)
    (show (s.sessions c).isAdmitted = false by rw [hc]; rfl)
  rw [show Session.isAdmitted (.done o) = true from hadm, if_pos rfl] at hcount
  refine ⟨hcount.trans_le hlt, by rw [hcount]; push_cast; exact htat, ?_⟩
  intro c' e' o' hw
  rcases writing_of_update hw with ⟨-, hx⟩ | ⟨hne, hw'⟩
  · cases hx
  · exact absurd (honly c' e' o' hw') hne

/-- **The serial invariant is kept** by a message that meets the condition. -/
theorem SerialInv.step {now : Timestamp} (ha : SetExAccepts gcra now.ms)
    (hi : 0 < emissionInterval gcra)
    {s s' : RedisState n} {m : Message n} (hs : SerialInv gcra now.ms s)
    (hstep : (concurrent gcra n now.ms).step s m s') (hserial : Serial s m s') :
    SerialInv gcra now.ms s' := by
  cases hstep with
  | get c hc =>
    by_cases hconf : Gcra.Conforms (cellRate gcra) (tatAt s.store now.ms) now.ms
    · exact hs.admit ha hi hc hserial hconf
    · exact hs.deny ha.burstFits hc hserial hconf
  | setEx c e o hc => exact hs.write hc

/-! ### Requests that are never admitted -/

/-- The first request, on the absent key, is admitted: Redis accepts its write, and the header
arithmetic has an interval to divide by. -/
structure FirstAdmitted (gcra : GcraConfig) (nowMs : ℤ) : Prop where
  interval_pos : 0 < emissionInterval gcra
  accepts : SetExAccepts gcra nowMs

/-- Whoever finds no TAT is admitted. -/
theorem FirstAdmitted.afterGet {now : Timestamp} (hf : FirstAdmitted gcra now.ms) :
    ∃ e r, afterGet gcra none now.ms = .setEx e (.admitted gcra.capacity r) := by
  -- a missing TAT is the time of the request itself
  have htat : tatAt none now.ms = now.ms := rfl
  have hconf : Gcra.Conforms (cellRate gcra) (tatAt none now.ms) now.ms :=
    Gcra.conforms_of_le hf.interval_pos.le gcra.capacity_pos htat.le
  have hpos := hf.interval_pos
  have hrest := afterGet_of_conforms hf.accepts none hconf
  rw [ratelimitRemaining_eq hf.accepts.burstFits hpos now (tatAt_fits none now) hconf
    (by rw [htat]; omega)] at hrest
  exact ⟨_, _, hrest⟩

/-- Whatever a request finds, it is not admitted where a first one would not be. -/
theorem not_admits_of_first {now : Timestamp} (hf : ¬ FirstAdmitted gcra now.ms)
    (store : Option Entry) : admits gcra store now.ms = false := by
  refine Bool.eq_false_iff.mpr fun hadm => ?_
  rcases (emissionInterval_nonneg gcra).eq_or_lt with hzero | hpos
  · rw [not_admits_of_interval hzero.symm] at hadm
    cases hadm
  · exact hf ⟨hpos, accepts_of_admits hadm⟩

/-- The session is about to be admitted, or is. -/
def Session.Admitting : Session → Prop
  | waiting => False
  | writing _ o => o.isAdmitted = true
  | done o => o.isAdmitted = true

/-- Nobody is on the way to being admitted. -/
def NoneAdmitted (s : RedisState n) : Prop := ∀ c, ¬ (s.sessions c).Admitting

theorem noneAdmitted_init (gcra : GcraConfig) (nowMs : ℤ) :
    NoneAdmitted (concurrent gcra n nowMs).init := fun _ h => h

theorem NoneAdmitted.step {now : Timestamp} (hf : ¬ FirstAdmitted gcra now.ms)
    {s s' : RedisState n} {m : Message n} (hs : NoneAdmitted s)
    (hstep : (concurrent gcra n now.ms).step s m s') : NoneAdmitted s' := by
  -- whatever session moves, it is enough that it does not move towards an admission
  have hmove : ∀ (c : Fin n) (x : Session), ¬ x.Admitting →
      ∀ c', ¬ (Function.update s.sessions c x c').Admitting := fun c x hx =>
    (Function.forall_update_iff s.sessions fun _ y => ¬ y.Admitting).mpr
      ⟨hx, fun c' _ => hs c'⟩
  cases hstep with
  | get c hc =>
    refine hmove c _ ?_
    have hout : (afterGet gcra (get s.store now.ms) now.ms).outcome.isAdmitted = false :=
      not_admits_of_first hf s.store
    cases hr : afterGet gcra (get s.store now.ms) now.ms with
    | respond o => rw [hr] at hout; exact Bool.eq_false_iff.mp hout
    | setEx e o => rw [hr] at hout; exact Bool.eq_false_iff.mp hout
  | setEx c e o hc =>
    have hold := hs c
    rw [hc] at hold
    exact hmove c _ hold

theorem NoneAdmitted.admittedCount {s : RedisState n} (hs : NoneAdmitted s) :
    admittedCount s = 0 := by
  unfold AiGateway.admittedCount
  rw [Finset.card_eq_zero, Finset.filter_eq_empty_iff]
  intro c _ hadm
  have hnot := hs c
  cases hc : s.sessions c with
  | waiting => rw [hc] at hadm; cases hadm
  | writing e o => rw [hc] at hadm; cases hadm
  | done o => rw [hc] at hadm hnot; exact hnot hadm

/-- Where a first request is not admitted, none is. -/
theorem noneAdmitted_le {now : Timestamp} (hf : ¬ FirstAdmitted gcra now.ms)
    {tr : List (Message n × RedisState n)}
    (hrun : (concurrent gcra n now.ms).Run (concurrent gcra n now.ms).init tr) :
    System.AllStates (fun s => admittedCount s ≤ gcra.capacity)
      (concurrent gcra n now.ms).init tr := by
  have hinv := hrun.invariant (fun _ _ _ hs hstep => NoneAdmitted.step hf hs hstep)
    (noneAdmitted_init gcra now.ms)
  exact hinv.imp fun s hs => hs.admittedCount.le.trans (Nat.zero_le _)

/-- **One request after the other.** In a run without a `GET` between the two
messages of another request, at most a burst is admitted. -/
theorem serial_admits_le {now : Timestamp} {tr : List (Message n × RedisState n)}
    (hrun : (concurrent gcra n now.ms).Run (concurrent gcra n now.ms).init tr)
    (hserial : System.AllSteps Serial (concurrent gcra n now.ms).init tr) :
    System.AllStates (fun s => admittedCount s ≤ gcra.capacity)
      (concurrent gcra n now.ms).init tr := by
  by_cases hf : FirstAdmitted gcra now.ms
  · have hinv := hrun.invariant_of_allSteps
      (fun _ _ _ hs hstep hcond => SerialInv.step hf.accepts hf.interval_pos hs hstep hcond)
      (serialInv_init gcra now.ms) hserial
    exact hinv.imp fun s hs => hs.le_capacity
  · exact noneAdmitted_le hf hrun

/-! ### All of them at once -/

/-- Where one message takes a session from `x` to `y`, and keeps `Ok` of the store,
the sessions of a list can be taken there one after the other. -/
theorem exists_moves {nowMs : ℤ} (Ok : Option Entry → Prop) (msg : Fin n → Message n)
    (x y : Session)
    (hmove : ∀ s c, Ok s.store → s.sessions c = x → ∃ store, Ok store ∧
      (concurrent gcra n nowMs).step s (msg c) ⟨store, Function.update s.sessions c y⟩)
    (l : List (Fin n)) : ∀ s : RedisState n, l.Nodup → Ok s.store →
      (∀ c ∈ l, s.sessions c = x) → ∃ tr, (concurrent gcra n nowMs).Run s tr ∧
        (∀ c ∈ l, (System.finalState s tr).sessions c = y) ∧
        ∀ c, c ∉ l → (System.finalState s tr).sessions c = s.sessions c := by
  induction l with
  | nil =>
    intro s _ _ _
    exact ⟨[], System.Run.nil s, fun c hc => absurd hc List.not_mem_nil, fun _ _ => rfl⟩
  | cons c l ih =>
    intro s hnodup hok hx
    obtain ⟨hc, hl⟩ := List.nodup_cons.mp hnodup
    obtain ⟨store, hok', hstep⟩ := hmove s c hok (hx c List.mem_cons_self)
    -- the others of the list have not moved
    have hothers : ∀ c' ∈ l, Function.update s.sessions c y c' = x := fun c' hc' =>
      (Function.update_of_ne (ne_of_mem_of_not_mem hc' hc) _ _).trans
        (hx c' (List.mem_cons_of_mem c hc'))
    obtain ⟨tr, hrun, hin, hout⟩ := ih ⟨store, Function.update s.sessions c y⟩ hl hok' hothers
    refine ⟨_, System.Run.cons hstep hrun, ?_, ?_⟩
    · intro c' hc'
      rw [System.finalState_cons]
      rcases List.mem_cons.mp hc' with rfl | hmem
      · exact (hout c' hc).trans (Function.update_self _ _ _)
      · exact hin c' hmem
    · intro c' hc'
      rw [System.finalState_cons]
      rw [List.mem_cons, not_or] at hc'
      exact (hout c' hc'.2).trans (Function.update_of_ne hc'.1 _ _)

/-- Requests that all read before any of them writes all find no TAT. -/
theorem exists_gets {nowMs : ℤ} {e : Entry} {o : Outcome}
    (hrest : afterGet gcra none nowMs = .setEx e o) (l : List (Fin n)) (s : RedisState n)
    (hnodup : l.Nodup) (hnone : s.store = none) (hwait : ∀ c ∈ l, s.sessions c = .waiting) :
    ∃ tr, (concurrent gcra n nowMs).Run s tr ∧
      ∀ c ∈ l, (System.finalState s tr).sessions c = .writing e o := by
  have hmove : ∀ (s : RedisState n) (c : Fin n), s.store = none → s.sessions c = .waiting →
      ∃ store : Option Entry, store = none ∧ (concurrent gcra n nowMs).step s (.get c)
        ⟨store, Function.update s.sessions c (.writing e o)⟩ := by
    intro s c hnone hc
    have hstep : (concurrent gcra n nowMs).step s (.get c) ⟨s.store, Function.update s.sessions c
        (.ofAfterGet (afterGet gcra (get s.store nowMs) nowMs))⟩ := RedisStep.get s c hc
    rw [show get s.store nowMs = none by rw [hnone]; rfl, hrest] at hstep
    exact ⟨s.store, hnone, hstep⟩
  obtain ⟨tr, hrun, hwriting, -⟩ := exists_moves (fun store => store = none) Message.get
    .waiting (.writing e o) hmove l s hnodup hnone hwait
  exact ⟨tr, hrun, hwriting⟩

/-- The writes of the requests that are about to write. -/
theorem exists_setExs (gcra : GcraConfig) (nowMs : ℤ) {e : Entry} {o : Outcome}
    (l : List (Fin n)) (s : RedisState n) (hnodup : l.Nodup)
    (hwriting : ∀ c ∈ l, s.sessions c = .writing e o) :
    ∃ tr, (concurrent gcra n nowMs).Run s tr ∧
      ∀ c ∈ l, (System.finalState s tr).sessions c = .done o := by
  obtain ⟨tr, hrun, hdone, -⟩ := exists_moves (fun _ => True) Message.setEx
    (.writing e o) (.done o) (fun s c _ hc => ⟨some e, trivial, RedisStep.setEx s c e o hc⟩)
    l s hnodup trivial hwriting
  exact ⟨tr, hrun, hdone⟩

/-- **Over-admission.** A run that admits every one of the requests, however many there are. -/
theorem overAdmission {now : Timestamp} (hf : FirstAdmitted gcra now.ms) (n : ℕ) :
    ∃ tr, (concurrent gcra n now.ms).Run (concurrent gcra n now.ms).init tr ∧
      admittedCount (System.finalState (concurrent gcra n now.ms).init tr) = n := by
  obtain ⟨e, r, hrest⟩ := hf.afterGet
  have hnodup := List.nodup_finRange n
  -- first all of the reads, then all of the writes
  obtain ⟨gets, hgets, hwriting⟩ := exists_gets hrest (List.finRange n)
    (concurrent gcra n now.ms).init hnodup rfl fun _ _ => rfl
  obtain ⟨sets, hsets, hdone⟩ := exists_setExs gcra now.ms (List.finRange n) _ hnodup hwriting
  refine ⟨gets ++ sets, hgets.append hsets, ?_⟩
  rw [System.finalState_append]
  unfold admittedCount
  rw [Finset.filter_true_of_mem, Finset.card_univ, Fintype.card_fin]
  intro c _
  rw [hdone c (List.mem_finRange c)]
  rfl

/-- **When concurrency is harmless.** Over all interleavings, at most a burst is
admitted exactly when there are no more requests than that, or none is admitted in
the first place; and in any case over those in which no request reads between
the two messages of another. -/
theorem noOverAdmission_iff (gcra : GcraConfig) (n : ℕ) (now : Timestamp) :
    (NoOverAdmission gcra n now.ms ↔ n ≤ gcra.capacity ∨ ¬ FirstAdmitted gcra now.ms) ∧
      ∀ tr, (concurrent gcra n now.ms).Run (concurrent gcra n now.ms).init tr →
        System.AllSteps Serial (concurrent gcra n now.ms).init tr →
        System.AllStates (fun s => admittedCount s ≤ gcra.capacity)
          (concurrent gcra n now.ms).init tr := by
  refine ⟨⟨fun hno => ?_, ?_⟩, fun tr hrun hserial => serial_admits_le hrun hserial⟩
  -- where the first request is admitted, all of them may be
  · by_cases hf : FirstAdmitted gcra now.ms
    · obtain ⟨tr, hrun, hcount⟩ := overAdmission hf n
      have hle := (hno tr hrun).finalState
      rw [hcount] at hle
      exact Or.inl hle
    · exact Or.inr hf
  -- no more requests than a burst, or none that is admitted
  · rintro (hle | hf) tr hrun
    · have hkeep : ∀ s m s', admittedCount s ≤ n → (concurrent gcra n now.ms).step s m s' →
          admittedCount s' ≤ n := fun _ _ s' _ _ => admittedCount_le_clients s'
      have hall := hrun.invariant hkeep (admittedCount_le_clients _)
      exact hall.imp fun s hs => hs.trans hle
    · exact noneAdmitted_le hf hrun

/-- A quota of a single request per second. -/
def onePerSecond : GcraConfig where
  refillFrequency := Duration.fromSecs 1 Duration.one_le_u64Max
  capacity := 1
  capacity_pos := by decide
  capacity_le := by decide

/-- Two requests share a quota of one. -/
theorem noOverAdmission_fails :
    ¬ ∀ (gcra : GcraConfig) (n : ℕ) (now : Timestamp), NoOverAdmission gcra n now.ms := by
  intro h
  have hf : FirstAdmitted onePerSecond (Timestamp.ofMs 0).ms :=
    ⟨by decide, by decide⟩
  obtain ⟨tr, hrun, hcount⟩ := overAdmission hf 2
  have hle := (h onePerSecond 2 (Timestamp.ofMs 0) tr hrun).finalState
  rw [hcount] at hle
  exact absurd hle (by decide)

end AiGateway
