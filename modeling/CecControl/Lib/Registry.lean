/-
# Maps that remember how they came about

A `Registry` is a finite map kept as the list of its changes, newest first. A
lookup answers the value together with the position of the insertion that put it
there, so two insertions under one key are told apart even when key and value
agree. That is what one needs to say that a key has been given to somebody else
in the meantime.
-/

import Mathlib.Data.List.Basic

namespace CecControl.Lib

universe u v

/-- One change of a map. -/
inductive Change (κ : Type u) (α : Type v)
  | inserted (key : κ) (value : α)
  | erased (key : κ)
  deriving DecidableEq, Repr

namespace Change

variable {κ : Type u} {α : Type v}

def key : Change κ α → κ
  | .inserted key _ => key
  | .erased key => key

def isInsertion : Change κ α → Bool
  | .inserted _ _ => true
  | .erased _ => false

end Change

/-- A map as the history of its changes, newest first. -/
abbrev Registry (κ : Type u) (α : Type v) := List (Change κ α)

/-- A value with the position of its insertion in the history. -/
structure Entry (α : Type v) where
  position : ℕ
  value : α
  deriving DecidableEq, Repr

namespace Registry

variable {κ : Type u} {α : Type v} [DecidableEq κ]

/-- The entry a key leads to. -/
def find : Registry κ α → κ → Option (Entry α)
  | [], _ => none
  | .inserted key value :: older, target =>
      if key = target then some ⟨older.length, value⟩ else find older target
  | .erased key :: older, target => if key = target then none else find older target

/-- The latest of these changes of the key is an insertion. -/
def Inserts (changes : Registry κ α) (target : κ) : Prop :=
  (changes.find? fun change => change.key = target).any Change.isInsertion = true

instance (changes : Registry κ α) (target : κ) : Decidable (changes.Inserts target) :=
  inferInstanceAs (Decidable (_ = true))

/-- What has changed since the history was `before`. -/
def since (now before : Registry κ α) : Registry κ α := now.take (now.length - before.length)

omit [DecidableEq κ] in
theorem since_append (changes before : Registry κ α) :
    since (changes ++ before) before = changes := by
  simp [since]

/-- A change of another key does not matter to a lookup. -/
theorem find_cons_of_ne {change : Change κ α} {older : Registry κ α} {target : κ}
    (hkey : change.key ≠ target) : find (change :: older) target = find older target := by
  cases change <;> exact if_neg hkey

/-- Nor does it matter to what the latest change is. -/
theorem inserts_cons_of_ne {change : Change κ α} {older : Registry κ α} {target : κ}
    (hkey : change.key ≠ target) : Inserts (change :: older) target ↔ older.Inserts target := by
  simp [Inserts, hkey]

/-- The latest change decides. -/
theorem inserts_cons_self (change : Change κ α) (older : Registry κ α) :
    Inserts (change :: older) change.key ↔ change.isInsertion := by
  simp [Inserts]

theorem position_lt_length {r : Registry κ α} {target : κ} {entry : Entry α}
    (h : r.find target = some entry) : entry.position < r.length := by
  induction r with
  | nil => cases h
  | cons change older ih =>
      rw [List.length_cons]
      by_cases hkey : change.key = target
      · cases change with
        | inserted key value =>
            obtain rfl : ⟨older.length, value⟩ = entry := by
              simpa only [find, if_pos (show key = target from hkey), Option.some.injEq] using h
            exact Nat.lt_succ_self _
        | erased key => simp [find, show key = target from hkey] at h
      · rw [find_cons_of_ne hkey] at h
        exact Nat.lt_succ_of_lt (ih h)

/-- If the latest change of the key is an insertion, the lookup answers an entry
newer than everything before. -/
theorem find_of_inserts {changes before : Registry κ α} {target : κ}
    (h : changes.Inserts target) :
    ∃ entry, find (changes ++ before) target = some entry ∧ before.length ≤ entry.position := by
  induction changes with
  | nil => simp [Inserts] at h
  | cons change older ih =>
      by_cases hkey : change.key = target
      · subst hkey
        cases change with
        | inserted key value =>
            exact ⟨⟨(older ++ before).length, value⟩, if_pos rfl, by simp⟩
        | erased key => simp [inserts_cons_self, Change.isInsertion] at h
      · obtain ⟨entry, hfind, hposition⟩ := ih ((inserts_cons_of_ne hkey).mp h)
        exact ⟨entry, (find_cons_of_ne hkey).trans hfind, hposition⟩

/-- Otherwise what the lookup answers, if anything, was there before. -/
theorem find_of_not_inserts {changes before : Registry κ α} {target : κ} {entry : Entry α}
    (h : ¬ changes.Inserts target) (hfind : find (changes ++ before) target = some entry) :
    find before target = some entry := by
  induction changes with
  | nil => exact hfind
  | cons change older ih =>
      by_cases hkey : change.key = target
      · subst hkey
        cases change with
        | inserted key value => simp [inserts_cons_self, Change.isInsertion] at h
        | erased key => simp [find, Change.key] at hfind
      · rw [List.cons_append, find_cons_of_ne hkey] at hfind
        exact ih (fun hinserts => h ((inserts_cons_of_ne hkey).mpr hinserts)) hfind

/-- **A lookup crosses registrations exactly when its key has been inserted
since.** -/
theorem find_before_iff {now before : Registry κ α} (hsuffix : before <:+ now) (target : κ) :
    (∀ entry, now.find target = some entry → before.find target = some entry) ↔
      ¬ (since now before).Inserts target := by
  obtain ⟨changes, rfl⟩ := hsuffix
  rw [since_append]
  constructor
  · intro hsame hinserts
    obtain ⟨entry, hfind, hposition⟩ := find_of_inserts hinserts
    exact absurd (position_lt_length (hsame entry hfind)) (by omega)
  · exact fun h entry hfind => find_of_not_inserts h hfind

end Registry

end CecControl.Lib
