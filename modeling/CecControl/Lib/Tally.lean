/-
# Tallies

How often a value is the image of an element of a list, for a partial map. Facts
of the kind "exactly once" about a log or a queue are equations between tallies,
and steps that append to a list or take its head change them by the tally of one
element.
-/

import Mathlib.Data.List.Basic

namespace CecControl.Lib

universe u v

variable {α : Type u} {β : Type v} [DecidableEq β]

/-- How many elements of the list `f` maps to the value. -/
def tally (f : α → Option β) (xs : List α) (value : β) : ℕ := (xs.filterMap f).count value

/-- The share of one element. -/
def share (image : Option β) (value : β) : ℕ := if image = some value then 1 else 0

@[simp]
theorem share_none (value : β) : share none value = 0 := rfl

@[simp]
theorem tally_nil (f : α → Option β) (value : β) : tally f [] value = 0 := rfl

@[simp]
theorem tally_cons (f : α → Option β) (x : α) (xs : List α) (value : β) :
    tally f (x :: xs) value = share (f x) value + tally f xs value := by
  unfold tally share
  cases hx : f x with
  | none => simp [hx]
  | some y =>
      by_cases hy : y = value
      · simp [hx, hy, Nat.add_comm]
      · simp [hx, hy]

@[simp]
theorem tally_append (f : α → Option β) (xs ys : List α) (value : β) :
    tally f (xs ++ ys) value = tally f xs value + tally f ys value := by
  simp [tally]

/-- A value that is tallied is the image of an element. -/
theorem tally_pos_iff {f : α → Option β} {xs : List α} {value : β} :
    0 < tally f xs value ↔ ∃ x ∈ xs, f x = some value := by
  unfold tally
  rw [List.count_pos_iff, List.mem_filterMap]

/-- What is tallied once comes from one element. -/
theorem eq_of_tally_le_one {f : α → Option β} {xs : List α} {value : β}
    (h : tally f xs value ≤ 1) {x y : α} (hx : x ∈ xs) (hy : y ∈ xs) (hfx : f x = some value)
    (hfy : f y = some value) : x = y := by
  induction xs with
  | nil => cases hx
  | cons z xs ih =>
      rw [tally_cons] at h
      have hother {w : α} (hw : w ∈ xs) (hfw : f w = some value) (hfz : f z = some value) :
          False := by
        have hpos : 0 < tally f xs value := tally_pos_iff.mpr ⟨w, hw, hfw⟩
        rw [share, if_pos hfz] at h
        omega
      rcases List.mem_cons.mp hx with rfl | hx' <;> rcases List.mem_cons.mp hy with rfl | hy'
      · rfl
      · exact (hother hy' hfy hfx).elim
      · exact (hother hx' hfx hfy).elim
      · exact ih (by omega) hx' hy'

end CecControl.Lib
