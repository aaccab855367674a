/-
# Machines that get somewhere

Some labels of a machine stand for work that is due: a thread that is awake goes on, a message
in flight arrives. If every such step lowers a measure, there is only so much of it to do, and
if one of them is enabled wherever the goal has not been reached, doing it in any order reaches
the goal. Neither rule says which thread is to move first, and both leave the other labels
alone.

The second half relates two machines. A simulation shows each step of one as steps of the other,
none of them for a step that cannot be seen there, and so shows runs as runs.
-/

import CecControl.Lib.Machine
import Mathlib.Order.WellFounded

namespace CecControl.Lib

universe u v u' v'

namespace Machine

variable {σ : Type u} {ℓ : Type v} (M : Machine σ ℓ)

/-! ## Work that is due -/

/-- Steps along labels of this kind, taken in states with `I`, keep `I` and lower the measure. -/
structure Lowers (I : σ → Prop) (Due : ℓ → Prop) (measure : σ → ℕ) : Prop where
  keeps : ∀ {state label next}, I state → Due label → M.step state label = some next → I next
  lower : ∀ {state label next}, I state → Due label → M.step state label = some next →
    measure next < measure state

variable {M} {I : σ → Prop} {Due : ℓ → Prop} {measure : σ → ℕ}

/-- However the work is scheduled, there is no more of it than the measure says. -/
theorem Lowers.length_le (h : M.Lowers I Due measure) {state final : σ} {labels : List ℓ}
    (hinit : I state) (hdue : ∀ label ∈ labels, Due label) (hrun : M.run state labels = some final) :
    labels.length + measure final ≤ measure state := by
  induction labels generalizing state with
  | nil =>
      rw [run_nil, Option.some.injEq] at hrun
      simp [hrun]
  | cons label labels ih =>
      obtain ⟨next, hstep, hrest⟩ := M.run_cons_eq_some.mp hrun
      have hlabel := hdue label List.mem_cons_self
      have hlower := h.lower hinit hlabel hstep
      have hle := ih (h.keeps hinit hlabel hstep)
        (fun other hother => hdue other (List.mem_cons_of_mem _ hother)) hrest
      rw [List.length_cons]
      omega

/-- If some of it can be done wherever the goal has not been reached, it can be done until the
goal is reached. -/
theorem Lowers.exists_run (h : M.Lowers I Due measure) {Goal : σ → Prop}
    (hgo : ∀ {state}, I state → ¬ Goal state → ∃ label next, Due label ∧
      M.step state label = some next) {state : σ} (hinit : I state) :
    ∃ labels final, (∀ label ∈ labels, Due label) ∧ M.run state labels = some final ∧
      I final ∧ Goal final := by
  induction hsize : measure state using Nat.strongRecOn generalizing state with
  | ind size ih =>
      by_cases hgoal : Goal state
      · exact ⟨[], state, by simp, rfl, hinit, hgoal⟩
      · obtain ⟨label, next, hlabel, hstep⟩ := hgo hinit hgoal
        have hlower := h.lower hinit hlabel hstep
        obtain ⟨labels, final, hdue, hrun, hfinal, hreached⟩ :=
          ih (measure next) (hsize ▸ hlower) (h.keeps hinit hlabel hstep) rfl
        refine ⟨label :: labels, final, ?_, ?_, hfinal, hreached⟩
        · simpa using ⟨hlabel, hdue⟩
        · exact M.run_cons_eq_some.mpr ⟨next, hstep, hrun⟩

/-- Steps that are due, in states with `I`, keep `I` and go down in an order. Unlike a measure, it
need not say how many are left. -/
structure Descends {α : Type*} (M : Machine σ ℓ) (I : σ → Prop) (Due : σ → ℓ → Prop)
    (lt : α → α → Prop) (rank : σ → α) : Prop where
  keeps : ∀ {state label next}, I state → Due state label → M.step state label = some next → I next
  lower : ∀ {state label next}, I state → Due state label → M.step state label = some next →
    lt (rank next) (rank state)

/-- **Nothing goes on for ever.** If the order is well-founded, no sequence of due steps is
infinite. -/
theorem Descends.exists_last {α : Type*} {Due : σ → ℓ → Prop} {lt : α → α → Prop} {rank : σ → α}
    (h : M.Descends I Due lt rank) (hwf : WellFounded lt) {states : ℕ → σ} {labels : ℕ → ℓ}
    (hinit : I (states 0)) :
    ∃ k, ¬ (Due (states k) (labels k) ∧ M.step (states k) (labels k) = some (states (k + 1))) := by
  by_contra hforever
  push Not at hforever
  have hinv (k : ℕ) : I (states k) := by
    induction k with
    | zero => exact hinit
    | succ k ih => exact h.keeps ih (hforever k).1 (hforever k).2
  have hdown (k : ℕ) : lt (rank (states (k + 1))) (rank (states k)) :=
    h.lower (hinv k) (hforever k).1 (hforever k).2
  exact (wellFounded_iff_isEmpty_descending_chain.mp hwf).false ⟨fun k => rank (states k), hdown⟩

/-- If moreover some step is due wherever the goal has not been reached, it is reached. -/
theorem Descends.exists_run {α : Type*} {Due : σ → ℓ → Prop} {lt : α → α → Prop} {rank : σ → α}
    (h : M.Descends I Due lt rank) (hwf : WellFounded lt) {Goal : σ → Prop}
    (hgo : ∀ {state}, I state → ¬ Goal state → ∃ label next, Due state label ∧
      M.step state label = some next) {state : σ} (hinit : I state) :
    ∃ labels final, M.Meets Due state labels ∧ M.run state labels = some final ∧ I final ∧
      Goal final := by
  induction hrank : rank state using hwf.induction generalizing state with
  | h a ih =>
      by_cases hgoal : Goal state
      · exact ⟨[], state, trivial, rfl, hinit, hgoal⟩
      · obtain ⟨label, next, hdue, hstep⟩ := hgo hinit hgoal
        obtain ⟨labels, final, hmeets, hrun, hfinal, hreached⟩ :=
          ih (rank next) (hrank ▸ h.lower hinit hdue hstep) (h.keeps hinit hdue hstep) rfl
        refine ⟨label :: labels, final, ⟨hdue, fun next' hnext => ?_⟩,
          M.run_cons_eq_some.mpr ⟨next, hstep, hrun⟩, hfinal, hreached⟩
        obtain rfl := Option.some.inj (hstep.symm.trans hnext)
        exact hmeets

/-! ## Simulations -/

variable {τ : Type u'} {m : Type v'}

/-- In states with `I`, each step of `M` is seen through `view` as a run of `A`, along the labels
that `seen` reads off it. -/
structure Simulates (M : Machine σ ℓ) (A : Machine τ m) (I : σ → Prop) (view : σ → τ)
    (seen : σ → ℓ → List m) : Prop where
  keeps : ∀ {state label next}, I state → M.step state label = some next → I next
  step : ∀ {state label next}, I state → M.step state label = some next →
    A.run (view state) (seen state label) = some (view next)

/-- **Simulation rule.** A run is seen as a run. -/
theorem Simulates.run {A : Machine τ m} {view : σ → τ} {seen : σ → ℓ → List m}
    (h : Simulates M A I view seen) {state final : σ} {labels : List ℓ} (hinit : I state)
    (hrun : M.run state labels = some final) :
    A.run (view state) (M.seenAlong seen state labels) = some (view final) := by
  induction labels generalizing state with
  | nil =>
      rw [run_nil, Option.some.injEq] at hrun
      rw [hrun]
      rfl
  | cons label labels ih =>
      obtain ⟨next, hstep, hrest⟩ := M.run_cons_eq_some.mp hrun
      rw [seenAlong, hstep]
      exact A.run_append_eq_some.mpr
        ⟨view next, h.step hinit hstep, ih (h.keeps hinit hstep) hrest⟩

end Machine

end CecControl.Lib
