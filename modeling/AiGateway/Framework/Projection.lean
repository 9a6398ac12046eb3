import AiGateway.Framework.Runs

/-!
# Projecting a run onto a part of its system

A part of a system sees some of the labels and an observation of the state. Where every step that
the part sees is one of its own steps, and every other step leaves its observation alone, what it
sees of a run is a run of its own (`System.Run.project`). This is forward simulation with
stuttering, by a function and with the steps that are skipped told from their labels.

* `System.Run.project`: the rule;
* `map_fst_project`: the labels of the projected run are those the part sees.
-/

namespace Transition

namespace System

variable {State State' Label Label' : Type*}

/-- What a part sees of a run: `seen` is its reading of a label, `obs` its reading of a state. -/
def project (seen : Label → Option Label') (obs : State → State') (tr : List (Label × State)) :
    List (Label' × State') :=
  tr.filterMap fun p => (seen p.1).map fun l' => (l', obs p.2)

section Cons

variable {seen : Label → Option Label'} {obs : State → State'} {l : Label}

theorem project_cons_of_some {l' : Label'} (h : seen l = some l') (s : State)
    (tr : List (Label × State)) :
    project seen obs ((l, s) :: tr) = (l', obs s) :: project seen obs tr :=
  List.filterMap_cons_some (by rw [h]; rfl)

theorem project_cons_of_none (h : seen l = none) (s : State) (tr : List (Label × State)) :
    project seen obs ((l, s) :: tr) = project seen obs tr :=
  List.filterMap_cons_none (by rw [h]; rfl)

end Cons

theorem map_fst_project (seen : Label → Option Label') (obs : State → State')
    (tr : List (Label × State)) :
    (project seen obs tr).map Prod.fst = (tr.map Prod.fst).filterMap seen := by
  unfold project
  rw [List.map_filterMap, List.filterMap_map]
  refine List.filterMap_congr fun p _ => ?_
  rw [Option.map_map]
  exact Option.map_id'

/-- **Projection rule.** A run looks to a part like one of the part's own runs. -/
theorem Run.project {sys : System State Label} {part : System State' Label'}
    {seen : Label → Option Label'} {obs : State → State'}
    (hseen : ∀ s l s' l', sys.step s l s' → seen l = some l' → part.step (obs s) l' (obs s'))
    (hother : ∀ s l s', sys.step s l s' → seen l = none → obs s' = obs s)
    {s : State} {tr : List (Label × State)} (h : sys.Run s tr) :
    part.Run (obs s) (System.project seen obs tr) := by
  induction h with
  | nil s => exact Run.nil _
  | @cons s s' l tr hst _ ih =>
    cases hl : seen l with
    | some l' =>
      rw [project_cons_of_some hl]
      exact Run.cons (hseen s l s' l' hst hl) ih
    | none =>
      -- the part does not notice the step
      rw [project_cons_of_none hl]
      rwa [hother s l s' hst hl] at ih

end System

end Transition
