import Mathlib.Data.List.Basic
import Mathlib.Tactic.Common

/-!
# Labelled transition systems and their finite runs

The runs every component of the development is judged on: a run is a start
state followed by a list of `(label, next state)` transitions, each of which the
system allows.

* `System.Run.invariant` carries an inductive invariant along a run;
* `System.Run.allSteps_iff` compares two predicates of *steps* along a run. It
  is the rule behind the "exactly when" theorems: if, in every invariant state,
  a step is good exactly when it meets a condition, and meeting the condition
  preserves the invariant, then all steps of a run are good exactly when all of
  them meet the condition. The invariant is only needed up to the first step
  that breaks the condition, and such a step breaks goodness as well.
-/

namespace Transition

/-- A labelled transition system with one initial state. -/
structure System (State Label : Type*) where
  /-- The initial state. -/
  init : State
  step : State → Label → State → Prop

namespace System

variable {State Label : Type*} (sys : System State Label)

/-- `sys.Run s tr`: the transitions `tr` are a run of `sys` from `s`. -/
inductive Run : State → List (Label × State) → Prop
  | nil (s : State) : Run s []
  | cons {s s' : State} {l : Label} {tr : List (Label × State)} :
      sys.step s l s' → Run s' tr → Run s ((l, s') :: tr)

/-- The state a run ends in. -/
def finalState (s : State) (tr : List (Label × State)) : State :=
  (tr.getLast?.map Prod.snd).getD s

/-- Every step of a run satisfies `P`, a predicate of the state before, the
label and the state after. -/
def AllSteps (P : State → Label → State → Prop) : State → List (Label × State) → Prop
  | _, [] => True
  | s, (l, s') :: tr => P s l s' ∧ AllSteps P s' tr

/-- Every state of a run, the start included, satisfies `P`. -/
def AllStates (P : State → Prop) (s : State) (tr : List (Label × State)) : Prop :=
  P s ∧ ∀ p ∈ tr, P p.2

@[simp] theorem allSteps_nil (P : State → Label → State → Prop) (s : State) :
    AllSteps P s [] := trivial

@[simp] theorem allSteps_cons (P : State → Label → State → Prop) (s s' : State) (l : Label)
    (tr : List (Label × State)) :
    AllSteps P s ((l, s') :: tr) ↔ P s l s' ∧ AllSteps P s' tr := Iff.rfl

@[simp] theorem allStates_nil (P : State → Prop) (s : State) :
    AllStates P s ([] : List (Label × State)) ↔ P s := by
  simp [AllStates]

@[simp] theorem allStates_cons (P : State → Prop) (s s' : State) (l : Label)
    (tr : List (Label × State)) :
    AllStates P s ((l, s') :: tr) ↔ P s ∧ AllStates P s' tr := by
  simp [AllStates]

@[simp] theorem finalState_nil (s : State) :
    finalState s ([] : List (Label × State)) = s := rfl

@[simp] theorem finalState_cons (s s' : State) (l : Label) (tr : List (Label × State)) :
    finalState s ((l, s') :: tr) = finalState s' tr := by
  cases tr with
  | nil => rfl
  | cons p tr =>
    -- the last transition does not depend on the first, as there is another one
    unfold finalState
    rw [List.getLast?_cons_cons]
    cases h : (p :: tr).getLast? with
    | none => simp at h
    | some q => rfl

/-- The states of a run are its first state and those its steps lead to. -/
theorem allStates_iff {P : State → Prop} {s : State} {tr : List (Label × State)} :
    AllStates P s tr ↔ P s ∧ AllSteps (fun _ _ s' => P s') s tr := by
  induction tr generalizing s with
  | nil => simp
  | cons p tr ih =>
    obtain ⟨l, s'⟩ := p
    rw [allStates_cons, allSteps_cons, ih]

theorem finalState_append (s : State) (tr tr' : List (Label × State)) :
    finalState s (tr ++ tr') = finalState (finalState s tr) tr' := by
  induction tr generalizing s with
  | nil => rfl
  | cons p tr ih =>
    obtain ⟨l, s'⟩ := p
    rw [List.cons_append, finalState_cons, finalState_cons, ih]

/-- The steps of a run in two parts. -/
theorem allSteps_append {P : State → Label → State → Prop} {s : State}
    {tr tr' : List (Label × State)} :
    AllSteps P s (tr ++ tr') ↔ AllSteps P s tr ∧ AllSteps P (finalState s tr) tr' := by
  induction tr generalizing s with
  | nil => exact (and_iff_right trivial).symm
  | cons p tr ih =>
    obtain ⟨l, s'⟩ := p
    rw [List.cons_append, allSteps_cons, allSteps_cons, finalState_cons, ih, and_assoc]

/-- What only the labels decide. -/
theorem allSteps_of_forall_label {P : State → Label → State → Prop} {Cond : Label → Prop}
    (hlabel : ∀ s l s', Cond l → P s l s') {s : State} {tr : List (Label × State)}
    (h : ∀ p ∈ tr, Cond p.1) : AllSteps P s tr := by
  induction tr generalizing s with
  | nil => trivial
  | cons p tr ih =>
    obtain ⟨l, s'⟩ := p
    obtain ⟨hfirst, hrest⟩ := List.forall_mem_cons.mp h
    exact ⟨hlabel s l s' hfirst, ih hrest⟩

theorem AllStates.imp {P Q : State → Prop} {s : State} {tr : List (Label × State)}
    (h : AllStates P s tr) (hPQ : ∀ s, P s → Q s) : AllStates Q s tr :=
  ⟨hPQ s h.1, fun p hp => hPQ p.2 (h.2 p hp)⟩

/-- The last state of a run is one of its states. -/
theorem AllStates.finalState {P : State → Prop} {s : State} {tr : List (Label × State)}
    (h : AllStates P s tr) : P (finalState s tr) := by
  induction tr generalizing s with
  | nil => exact h.1
  | cons p tr ih =>
    obtain ⟨l, s'⟩ := p
    rw [finalState_cons]
    exact ih ((allStates_cons P s s' l tr).mp h).2

variable {sys}

/-- **Invariant rule.** A state predicate that every step preserves holds in
every state of a run from a state that satisfies it. -/
theorem Run.invariant {Inv : State → Prop}
    (hstep : ∀ s l s', Inv s → sys.step s l s' → Inv s') {s : State}
    {tr : List (Label × State)} (h : sys.Run s tr) (hs : Inv s) : AllStates Inv s tr := by
  induction h with
  | nil s => exact (allStates_nil Inv s).mpr hs
  | cons hst _ ih =>
    rw [allStates_cons]
    exact ⟨hs, ih (hstep _ _ _ hs hst)⟩

/-- **Invariant rule under a step condition.** As `Run.invariant`, for runs
whose steps all meet a condition; preservation may use the condition. -/
theorem Run.invariant_of_allSteps {Inv : State → Prop} {Cond : State → Label → State → Prop}
    (hstep : ∀ s l s', Inv s → sys.step s l s' → Cond s l s' → Inv s') {s : State}
    {tr : List (Label × State)} (h : sys.Run s tr) (hs : Inv s)
    (hcond : AllSteps Cond s tr) : AllStates Inv s tr := by
  induction h with
  | nil s => exact (allStates_nil Inv s).mpr hs
  | cons hst _ ih =>
    rw [allStates_cons]
    exact ⟨hs, ih (hstep _ _ _ hs hst hcond.1) hcond.2⟩

/-- **Step rule.** What every step from a state of the invariant gives, every step of a run
gives. -/
theorem Run.allSteps {Inv : State → Prop} {Good : State → Label → State → Prop}
    (hstep : ∀ s l s', Inv s → sys.step s l s' → Inv s')
    (hgood : ∀ s l s', Inv s → sys.step s l s' → Good s l s') {s : State}
    {tr : List (Label × State)} (h : sys.Run s tr) (hs : Inv s) : AllSteps Good s tr := by
  induction h with
  | nil s => exact allSteps_nil Good s
  | cons hst _ ih =>
    rw [allSteps_cons]
    exact ⟨hgood _ _ _ hs hst, ih (hstep _ _ _ hs hst)⟩

/-- **Label rule.** In the steps of a run that keep an invariant, every label has what steps from
invariant states give it. -/
theorem Run.forall_label {Inv : State → Prop} {Cond Good : Label → Prop}
    (hstep : ∀ s l s', Inv s → sys.step s l s' → Cond l → Inv s')
    (hgood : ∀ s l s', Inv s → sys.step s l s' → Good l) {s : State}
    {tr : List (Label × State)} (h : sys.Run s tr) (hs : Inv s)
    (hcond : ∀ p ∈ tr, Cond p.1) : ∀ p ∈ tr, Good p.1 := by
  induction h with
  | nil s => exact fun p hp => absurd hp List.not_mem_nil
  | cons hst _ ih =>
    obtain ⟨hfirst, hrest⟩ := List.forall_mem_cons.mp hcond
    rw [List.forall_mem_cons]
    exact ⟨hgood _ _ _ hs hst, ih (hstep _ _ _ hs hst hfirst) hrest⟩

/-- **Comparison rule.** If in invariant states the good steps are exactly the
steps that meet the condition, and those keep the invariant, then a run has only
good steps exactly when all its steps meet the condition. -/
theorem Run.allSteps_iff {Inv : State → Prop} {Good Cond : State → Label → State → Prop}
    (hiff : ∀ s l s', Inv s → sys.step s l s' → (Good s l s' ↔ Cond s l s'))
    (hstep : ∀ s l s', Inv s → sys.step s l s' → Cond s l s' → Inv s') {s : State}
    {tr : List (Label × State)} (h : sys.Run s tr) (hs : Inv s) :
    AllSteps Good s tr ↔ AllSteps Cond s tr := by
  induction h with
  | nil s => simp
  | cons hst _ ih =>
    rw [allSteps_cons, allSteps_cons]
    constructor
    · rintro ⟨hgood, hrest⟩
      -- the good step meets the condition, which carries the invariant to the rest
      have hc := (hiff _ _ _ hs hst).mp hgood
      exact ⟨hc, (ih (hstep _ _ _ hs hst hc)).mp hrest⟩
    · rintro ⟨hc, hrest⟩
      exact ⟨(hiff _ _ _ hs hst).mpr hc, (ih (hstep _ _ _ hs hst hc)).mpr hrest⟩

/-- **Measure rule.** Where every step from a state of the invariant uses up some of a measure,
a run takes no more steps than there is of it. -/
theorem Run.length_add_le {Inv : State → Prop} (measure : State → ℕ)
    (hstep : ∀ s l s', Inv s → sys.step s l s' → Inv s' ∧ measure s' < measure s) {s : State}
    {tr : List (Label × State)} (h : sys.Run s tr) (hs : Inv s) :
    tr.length + measure (finalState s tr) ≤ measure s := by
  induction h with
  | nil s => exact Nat.le_of_eq (Nat.zero_add _)
  | @cons s s' l tr hst _ ih =>
    obtain ⟨hs', hlt⟩ := hstep _ _ _ hs hst
    have hrest : tr.length + measure (finalState s' tr) ≤ measure s' := ih hs'
    rw [finalState_cons, List.length_cons]
    omega

/-- **Observation rule.** What every step makes of an observation by its label alone, a run makes of
it by its labels. -/
theorem Run.foldl_labels {Obs : Type*} (obs : State → Obs) (next : Obs → Label → Obs)
    (hstep : ∀ s l s', sys.step s l s' → obs s' = next (obs s) l) {s : State}
    {tr : List (Label × State)} (h : sys.Run s tr) :
    obs (finalState s tr) = (tr.map Prod.fst).foldl next (obs s) := by
  induction h with
  | nil s => rfl
  | @cons s s' l tr hst _ ih =>
    rw [finalState_cons, ih, hstep s l s' hst, List.map_cons, List.foldl_cons]

/-- A run may be continued from the state it ends in. -/
theorem Run.append {s : State} {tr tr' : List (Label × State)} (h : sys.Run s tr)
    (h' : sys.Run (finalState s tr) tr') : sys.Run s (tr ++ tr') := by
  induction h with
  | nil s => exact h'
  | cons hst _ ih =>
    rw [finalState_cons] at h'
    exact Run.cons hst (ih h')

end System

end Transition
