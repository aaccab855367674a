/-
# Labelled machines, their runs, and invariants along them

A machine is a partial step function: a label that is not enabled in a state
has no successor. Everything nondeterministic in a system (which thread moves,
what a system call answers) is carried by the label, so a run is just the list
of labels taken, and a concrete run can be evaluated.

Most facts about a running system are invariants: they hold at the start and no
step breaks them. Some hold only along runs whose steps all avoid a given
situation; `Meets` is that restriction, stated on the state before each step
and the label taken there, and the invariant rules below come in both forms.
-/

import Mathlib.Data.List.Induction

namespace CecControl.Lib

universe u v

/-- A machine with states `σ` and labels `ℓ`; `none` means the label is not
enabled. -/
structure Machine (σ : Type u) (ℓ : Type v) where
  /-- The successor of a state under a label, if there is one. -/
  step : σ → ℓ → Option σ

namespace Machine

variable {σ : Type u} {ℓ : Type v} (M : Machine σ ℓ)

/-- Take the labels in order; `none` as soon as one of them is not enabled. -/
def run : σ → List ℓ → Option σ
  | state, [] => some state
  | state, label :: labels => (M.step state label).bind fun next => run next labels

/-- Every step of the run from `state` along the labels meets `C`, which sees
the state before the step and the label. -/
def Meets (C : σ → ℓ → Prop) : σ → List ℓ → Prop
  | _, [] => True
  | state, label :: labels =>
      C state label ∧ ∀ next, M.step state label = some next → Meets C next labels

/-- Whether a concrete run meets a decidable condition can be evaluated. -/
instance decidableMeets (C : σ → ℓ → Prop) [∀ state label, Decidable (C state label)] :
    ∀ state labels, Decidable (M.Meets C state labels)
  | _, [] => .isTrue trivial
  | state, label :: labels =>
      match hstep : M.step state label with
      | none => decidable_of_iff (C state label) (by simp [Meets, hstep])
      | some next =>
          have := decidableMeets C next labels
          decidable_of_iff (C state label ∧ M.Meets C next labels) (by simp [Meets, hstep])

@[simp]
theorem run_nil (state : σ) : M.run state [] = some state := rfl

/-- A run along `label :: labels` is one enabled step followed by the rest. -/
theorem run_cons_eq_some {state final : σ} {label : ℓ} {labels : List ℓ} :
    M.run state (label :: labels) = some final ↔
      ∃ next, M.step state label = some next ∧ M.run next labels = some final := by
  simp [run, Option.bind_eq_some_iff]

/-- Runs compose: a run along `first ++ second` passes through a middle state. -/
theorem run_append_eq_some {state final : σ} {first second : List ℓ} :
    M.run state (first ++ second) = some final ↔
      ∃ middle, M.run state first = some middle ∧ M.run middle second = some final := by
  induction first generalizing state with
  | nil => simp
  | cons label labels ih =>
      simp only [List.cons_append, run_cons_eq_some, ih]
      constructor
      · rintro ⟨next, hstep, middle, hfirst, hsecond⟩
        exact ⟨middle, ⟨next, hstep, hfirst⟩, hsecond⟩
      · rintro ⟨middle, ⟨next, hstep, hfirst⟩, hsecond⟩
        exact ⟨next, hstep, middle, hfirst, hsecond⟩

/-- **Invariant rule, conditioned.** What one step meeting `C` preserves, a
run whose steps all meet `C` preserves. -/
theorem invariant_of_meets {C : σ → ℓ → Prop} {I : σ → Prop}
    (hstep : ∀ {state label next},
      I state → C state label → M.step state label = some next → I next)
    {state final : σ} {labels : List ℓ} (hinit : I state)
    (hmeets : M.Meets C state labels) (hrun : M.run state labels = some final) :
    I final := by
  induction labels generalizing state with
  | nil =>
      rw [run_nil, Option.some.injEq] at hrun
      exact hrun ▸ hinit
  | cons label labels ih =>
      obtain ⟨next, hnext, hrest⟩ := M.run_cons_eq_some.mp hrun
      exact ih (hstep hinit hmeets.1 hnext) (hmeets.2 next hnext) hrest

/-- **Invariant rule.** What every step preserves, every run preserves. -/
theorem invariant_of_step {I : σ → Prop}
    (hstep : ∀ {state label next}, I state → M.step state label = some next → I next)
    {state final : σ} {labels : List ℓ} (hinit : I state)
    (hrun : M.run state labels = some final) : I final := by
  induction labels generalizing state with
  | nil =>
      rw [run_nil, Option.some.injEq] at hrun
      exact hrun ▸ hinit
  | cons label labels ih =>
      obtain ⟨next, hnext, hrest⟩ := M.run_cons_eq_some.mp hrun
      exact ih (hstep hinit hnext) hrest

/-- **History rule.** What holds of the start with no labels taken, and what every step keeps
of the labels taken so far and the state they lead to, holds after every run. -/
theorem history_of_step {I : List ℓ → σ → Prop} {start final : σ} {labels : List ℓ}
    (hinit : I [] start)
    (hstep : ∀ {past state label next}, M.run start past = some state → I past state →
      M.step state label = some next → I (past ++ [label]) next)
    (hrun : M.run start labels = some final) : I labels final := by
  induction labels using List.reverseRecOn generalizing final with
  | nil =>
      rw [run_nil, Option.some.injEq] at hrun
      exact hrun ▸ hinit
  | append_singleton past label ih =>
      obtain ⟨state, hpast, hlast⟩ := M.run_append_eq_some.mp hrun
      obtain ⟨next, hnext, hnil⟩ := M.run_cons_eq_some.mp hlast
      obtain rfl : next = final := by simpa using hnil
      exact hstep hpast (ih hpast) hnext

/-- A weaker condition is met by the same runs. -/
theorem meets_mono {C C' : σ → ℓ → Prop} (h : ∀ state label, C state label → C' state label)
    {state : σ} {labels : List ℓ} (hmeets : M.Meets C state labels) :
    M.Meets C' state labels := by
  induction labels generalizing state with
  | nil => trivial
  | cons label labels ih => exact ⟨h _ _ hmeets.1, fun next hnext => ih (hmeets.2 next hnext)⟩

/-- What a condition gives in every state an invariant allows, a run that meets the
condition meets. -/
theorem meets_of_invariant {C C' : σ → ℓ → Prop} {I : σ → Prop}
    (hstep : ∀ {state label next},
      I state → C state label → M.step state label = some next → I next)
    (h : ∀ {state label}, I state → C state label → C' state label)
    {state : σ} {labels : List ℓ} (hinit : I state) (hmeets : M.Meets C state labels) :
    M.Meets C' state labels := by
  induction labels generalizing state with
  | nil => trivial
  | cons label labels ih =>
      refine ⟨h hinit hmeets.1, fun next hnext => ?_⟩
      exact ih (hstep hinit hmeets.1 hnext) (hmeets.2 next hnext)

/-- A condition on labels alone is met if all of them satisfy it. -/
theorem meets_of_forall {Q : ℓ → Prop} {state : σ} {labels : List ℓ}
    (hlabels : ∀ label ∈ labels, Q label) : M.Meets (fun _ label => Q label) state labels := by
  induction labels generalizing state with
  | nil => trivial
  | cons label labels ih =>
      refine ⟨hlabels label List.mem_cons_self, fun next _ => ?_⟩
      exact ih fun other hother => hlabels other (List.mem_cons_of_mem _ hother)

/-- A condition on labels alone is met along with any other. -/
theorem meets_and_of_forall {C : σ → ℓ → Prop} {Q : ℓ → Prop} {state : σ} {labels : List ℓ}
    (hlabels : ∀ label ∈ labels, Q label) (hmeets : M.Meets C state labels) :
    M.Meets (fun state label => Q label ∧ C state label) state labels := by
  induction labels generalizing state with
  | nil => trivial
  | cons label labels ih =>
      refine ⟨⟨hlabels label List.mem_cons_self, hmeets.1⟩, fun next hnext => ?_⟩
      exact ih (fun other hother => hlabels other (List.mem_cons_of_mem _ hother))
        (hmeets.2 next hnext)

/-- If a step that does not meet `C` leaves a mark and no step removes marks, then
a run that ends unmarked met `C` throughout. -/
theorem meets_of_unmarked {C : σ → ℓ → Prop} {I : σ → Prop} (Marked : σ → Prop)
    (hstep : ∀ {state label next}, I state → M.step state label = some next → I next)
    (hkeep : ∀ {state label next}, Marked state → M.step state label = some next → Marked next)
    (hmark : ∀ {state label next}, I state → ¬ C state label →
      M.step state label = some next → Marked next)
    {state final : σ} {labels : List ℓ} (hinit : I state)
    (hrun : M.run state labels = some final) (hfinal : ¬ Marked final) :
    M.Meets C state labels := by
  induction labels generalizing state with
  | nil => trivial
  | cons label labels ih =>
      obtain ⟨next, hnext, hrest⟩ := M.run_cons_eq_some.mp hrun
      refine ⟨?_, fun next' hnext' => ?_⟩
      · by_contra hviolated
        exact hfinal (M.invariant_of_step hkeep (hmark hinit hviolated hnext) hrest)
      · obtain rfl : next = next' := Option.some.inj (hnext.symm.trans hnext')
        exact ih (hstep hinit hnext) hrest

/-! ## What is seen of a run -/

universe w

variable {m : Type w}

/-- What is seen of a run whose steps each show what `seen` reads off them. -/
def seenAlong (seen : σ → ℓ → List m) : σ → List ℓ → List m
  | _, [] => []
  | state, label :: labels =>
      seen state label ++
        match M.step state label with
        | some next => seenAlong seen next labels
        | none => []

/-- **Record rule.** A record that every step extends by what is seen of it holds, at the end of
a run, what was seen of the run. -/
theorem recorded_of_step {I : σ → Prop} {record : σ → List m} {seen : σ → ℓ → List m}
    (hkeep : ∀ {state label next}, I state → M.step state label = some next → I next)
    (hstep : ∀ {state label next}, I state → M.step state label = some next →
      record next = record state ++ seen state label)
    {state final : σ} {labels : List ℓ} (hinit : I state)
    (hrun : M.run state labels = some final) :
    record final = record state ++ M.seenAlong seen state labels := by
  induction labels generalizing state with
  | nil =>
      rw [run_nil, Option.some.injEq] at hrun
      simp [seenAlong, hrun]
  | cons label labels ih =>
      obtain ⟨next, hnext, hrest⟩ := M.run_cons_eq_some.mp hrun
      rw [ih (hkeep hinit hnext) hrest, hstep hinit hnext, seenAlong, hnext, List.append_assoc]

end Machine

end CecControl.Lib
