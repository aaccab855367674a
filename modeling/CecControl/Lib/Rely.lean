/-
# Programs among others

A program that makes its calls one at a time runs in a state that others change between two of
them. `Behaves` is what it is relied on and relies upon: whatever the others do within `rely`,
each of its own calls stays within `guar`, and when it returns the result holds. It is settled
once, by recursion on the tree of calls, and then used at each step of a machine that interleaves
the program with the rest.
-/

import CecControl.Lib.Program

namespace CecControl.Lib

universe u v w x

namespace Program

variable {Call : Type u} {Ans : Call → Type v} {α : Type w} {σ : Type x}

/-- How calls change the state, what the others may do to it, and what the program may. -/
structure Surroundings (Call : Type u) (Ans : Call → Type v) (σ : Type x) where
  /-- The state after a call with this answer; `none` if it cannot be answered so. -/
  perform : σ → (c : Call) → Ans c → Option σ
  rely : σ → σ → Prop
  guar : σ → σ → Prop
  refl : ∀ s, rely s s
  trans : ∀ {s s' s''}, rely s s' → rely s' s'' → rely s s''

variable (S : Surroundings Call Ans σ)

/-- Run from the state among others that keep to `rely`, the program keeps to `guar`, and `Q`
holds whenever it has returned. -/
def Behaves (Q : α → σ → Prop) : Program Call Ans α → σ → Prop
  | .ret value, s => ∀ s', S.rely s s' → Q value s'
  | .call c next, s => ∀ s', S.rely s s' → ∀ answer s'', S.perform s' c answer = some s'' →
      S.guar s' s'' ∧ (next answer).Behaves Q s''

variable {S} {Q : α → σ → Prop} {s s' : σ}

/-- The others may move at any time. -/
theorem Behaves.others {p : Program Call Ans α} (h : p.Behaves S Q s) (hrely : S.rely s s') :
    p.Behaves S Q s' := by
  cases p with
  | ret value => exact fun later hlater => h later (S.trans hrely hlater)
  | call c next => exact fun later hlater => h later (S.trans hrely hlater)

theorem Behaves.result {value : α} (h : (Program.ret value : Program Call Ans α).Behaves S Q s) :
    Q value s := h s (S.refl s)

theorem Behaves.next {c : Call} {next : Ans c → Program Call Ans α} {answer : Ans c}
    (h : (Program.call c next).Behaves S Q s) (hperform : S.perform s c answer = some s') :
    S.guar s s' ∧ (next answer).Behaves S Q s' :=
  h s (S.refl s) answer s' hperform

/-- **Rule of consequence.** A program behaves wherever something holds that the others keep and
that each of its calls, as it stays within `guar`, turns into what the rest needs. -/
theorem behaves_call {c : Call} {next : Ans c → Program Call Ans α} (P : σ → Prop)
    (hkeep : ∀ {s s'}, P s → S.rely s s' → P s')
    (hcall : ∀ {s answer s'}, P s → S.perform s c answer = some s' →
      S.guar s s' ∧ (next answer).Behaves S Q s') (hs : P s) :
    (Program.call c next).Behaves S Q s :=
  fun _ hrely _ _ hperform => hcall (hkeep hs hrely) hperform

theorem behaves_ret {value : α} (P : σ → Prop) (hkeep : ∀ {s s'}, P s → S.rely s s' → P s')
    (hresult : ∀ {s}, P s → Q value s) (hs : P s) :
    (Program.ret value : Program Call Ans α).Behaves S Q s :=
  fun _ hrely => hresult (hkeep hs hrely)

end Program

end CecControl.Lib
