/-
# Programs on shared state

The calls of a program read and change a state that others change as well, between any two of
its calls. `Steady` follows a program through such a state: whatever the answers and whatever the
others do, each call is made in a state that fits it, and the program returns in a state that
satisfies its postcondition.

For code with exceptions `Spec` puts this into triples of a precondition, the code and a
postcondition on its outcome, with a rule for each way code is put together. A precondition has
to survive what others do, which is what `Stable` asks of it.
-/

import CecControl.Lib.Program

namespace CecControl.Lib

universe u v w

namespace Program

variable {Call : Type u} {Ans : Call → Type v} {α : Type w}

/-- Answer the call the program waits for, if it is this one. -/
def resume [DecidableEq Call] :
    Program Call Ans α → (c : Call) → Ans c → Option (Program Call Ans α)
  | .ret _, _, _ => none
  | .call pending next, c, answer => if h : c = pending then some (next (h ▸ answer)) else none

theorem resume_eq_some [DecidableEq Call] {p rest : Program Call Ans α} {c : Call}
    {answer : Ans c} :
    p.resume c answer = some rest ↔ ∃ next, p = .call c next ∧ next answer = rest := by
  cases p with
  | ret value => simp [resume]
  | call pending next =>
      constructor
      · intro h
        simp only [resume] at h
        split_ifs at h with heq
        subst heq
        exact ⟨next, rfl, Option.some.inj h⟩
      · rintro ⟨next, ⟨⟩, rfl⟩
        simp [resume]

/-- The program returns after at most `n` calls. -/
def Within : ℕ → Program Call Ans α → Prop
  | _, .ret _ => True
  | 0, .call _ _ => False
  | n + 1, .call _ next => ∀ answer, Within n (next answer)

theorem Within.mono {n k : ℕ} {p : Program Call Ans α} (h : p.Within n) (hle : n ≤ k) :
    p.Within k := by
  induction p generalizing n k with
  | ret value => cases k <;> trivial
  | call c next ih =>
      match n, k with
      | 0, _ => exact h.elim
      | n + 1, k + 1 => exact fun answer => ih answer (h answer) (by omega)

theorem Within.bind {β : Type w} {n k : ℕ} {p : Program Call Ans α} {f : α → Program Call Ans β}
    (hp : p.Within n) (hf : ∀ value, (f value).Within k) : (p.bind f).Within (n + k) := by
  induction p generalizing n with
  | ret value => exact (hf value).mono (by omega)
  | call c next ih =>
      match n with
      | 0 => exact hp.elim
      | n + 1 =>
          rw [Nat.add_right_comm]
          exact fun answer => ih answer (hp answer)

@[simp]
theorem within_ret (n : ℕ) (value : α) : (ret value : Program Call Ans α).Within n := by
  cases n <;> trivial

/-- The bound of a sequence, where exceptions end it early. -/
theorem within_bind {ε α β : Type w} {n k : ℕ} {m : ExceptT ε (Program Call Ans) α}
    {f : α → ExceptT ε (Program Call Ans) β} (hm : m.run.Within n)
    (hf : ∀ value, (f value).run.Within k) : (m >>= f).run.Within (n + k) := by
  apply Within.bind hm
  intro outcome
  cases outcome with
  | ok value => exact hf value
  | error e => exact within_ret k _

theorem within_tryCatch {ε α : Type w} {n k : ℕ} {m : ExceptT ε (Program Call Ans) α}
    {handler : ε → ExceptT ε (Program Call Ans) α} (hm : m.run.Within n)
    (hhandler : ∀ e, (handler e).run.Within k) : (tryCatch m handler).run.Within (n + k) := by
  apply Within.bind hm
  intro outcome
  cases outcome with
  | ok value => exact within_ret k _
  | error e => exact hhandler e

end Program

/-- A state that calls read and change, and that others change in between. -/
structure Shared (σ : Type) (Call : Type u) (Ans : Call → Type v) where
  /-- A call can be answered so, and leaves this state. -/
  Performs : σ → (c : Call) → Ans c → σ → Prop
  /-- What others can have made of a state since. -/
  Rely : σ → σ → Prop
  refl : ∀ s, Rely s s
  trans : ∀ {s s' s''}, Rely s s' → Rely s' s'' → Rely s s''

namespace Shared

variable {σ : Type} {Call : Type u} {Ans : Call → Type v} {α β : Type w} {ε : Type w}
variable (S : Shared σ Call Ans) (Fits : σ → Call → Prop)

/-- What others do does not make it false. -/
def Stable (P : σ → Prop) : Prop := ∀ {s s'}, S.Rely s s' → P s → P s'

/-- From `s` on, the program makes each call in a state that fits it and returns with the
postcondition. -/
def Steady (Post : α → σ → Prop) : Program Call Ans α → σ → Prop
  | .ret value, s => ∀ s', S.Rely s s' → Post value s'
  | .call c next, s => ∀ s', S.Rely s s' →
      Fits s' c ∧ ∀ answer s'', S.Performs s' c answer s'' → Steady Post (next answer) s''

variable {S Fits}

/-- Others do not disturb it. -/
theorem Steady.relied {Post : α → σ → Prop} {p : Program Call Ans α} {s s' : σ}
    (h : S.Steady Fits Post p s) (hrely : S.Rely s s') : S.Steady Fits Post p s' := by
  cases p with
  | ret value => exact fun s'' hrely' => h s'' (S.trans hrely hrely')
  | call c next => exact fun s'' hrely' => h s'' (S.trans hrely hrely')

theorem Steady.post {Post : α → σ → Prop} {value : α} {s : σ}
    (h : S.Steady Fits Post (.ret value) s) : Post value s := h s (S.refl s)

theorem Steady.fits {Post : α → σ → Prop} {c : Call} {next : Ans c → Program Call Ans α} {s : σ}
    (h : S.Steady Fits Post (.call c next) s) : Fits s c := (h s (S.refl s)).1

/-- One call further on. -/
theorem Steady.resume [DecidableEq Call] {Post : α → σ → Prop} {p rest : Program Call Ans α}
    {c : Call} {answer : Ans c} {s s' : σ} (h : S.Steady Fits Post p s)
    (hrest : p.resume c answer = some rest) (hstate : S.Performs s c answer s') :
    S.Steady Fits Post rest s' := by
  obtain ⟨next, rfl, rfl⟩ := Program.resume_eq_some.mp hrest
  exact (h s (S.refl s)).2 answer s' hstate

theorem Steady.mono {Post Post' : α → σ → Prop} (h : ∀ value s, Post value s → Post' value s)
    {p : Program Call Ans α} {s : σ} (hp : S.Steady Fits Post p s) : S.Steady Fits Post' p s := by
  induction p generalizing s with
  | ret value => exact fun s' hrely => h value s' (hp s' hrely)
  | call c next ih =>
      intro s' hrely
      obtain ⟨hfits, hnext⟩ := hp s' hrely
      exact ⟨hfits, fun answer s'' hstate => ih answer (hnext answer s'' hstate)⟩

theorem Steady.bind {Mid : α → σ → Prop} {Post : β → σ → Prop} {p : Program Call Ans α}
    {f : α → Program Call Ans β} {s : σ} (h : S.Steady Fits Mid p s)
    (hf : ∀ value s', Mid value s' → S.Steady Fits Post (f value) s') :
    S.Steady Fits Post (p.bind f) s := by
  induction p generalizing s with
  | ret value => exact hf value s h.post
  | call c next ih =>
      intro s' hrely
      obtain ⟨hfits, hnext⟩ := h s' hrely
      exact ⟨hfits, fun answer s'' hstate => ih answer (hnext answer s'' hstate)⟩

/-! ## Code with exceptions -/

/-- One postcondition for values and one for exceptions. -/
def Outcomes (R : α → σ → Prop) (E : ε → σ → Prop) : Except ε α → σ → Prop
  | .ok value, s => R value s
  | .error e, s => E e s

variable (S Fits)

/-- Started where `P` holds, the code is steady; it returns in `R` or throws in `E`. -/
def Spec (P : σ → Prop) (m : ExceptT ε (Program Call Ans) α) (R : α → σ → Prop)
    (E : ε → σ → Prop) : Prop :=
  ∀ s, P s → S.Steady Fits (Outcomes R E) m.run s

variable {S Fits} {P P' : σ → Prop} {R R' : α → σ → Prop} {E E' : ε → σ → Prop}

theorem Spec.weaken {m : ExceptT ε (Program Call Ans) α} (h : S.Spec Fits P' m R E)
    (hP : ∀ s, P s → P' s) : S.Spec Fits P m R E :=
  fun s hs => h s (hP s hs)

theorem Spec.mono {m : ExceptT ε (Program Call Ans) α} (h : S.Spec Fits P m R E)
    (hR : ∀ value s, R value s → R' value s) (hE : ∀ e s, E e s → E' e s) :
    S.Spec Fits P m R' E' := by
  intro s hs
  apply (h s hs).mono
  intro outcome s' hpost
  cases outcome with
  | ok value => exact hR value s' hpost
  | error e => exact hE e s' hpost

theorem Spec.pure {value : α} (hR : S.Stable (R value)) (h : ∀ s, P s → R value s) :
    S.Spec Fits P (Pure.pure value : ExceptT ε (Program Call Ans) α) R E :=
  fun s hs _ hrely => hR hrely (h s hs)

/-- A single call: it is made where `P` still holds. -/
theorem Spec.call {c : Call} {outcome : Ans c → Except ε α} (hP : S.Stable P)
    (hfits : ∀ s, P s → Fits s c)
    (hpost : ∀ answer, S.Stable (Outcomes R E (outcome answer)))
    (h : ∀ s answer s', P s → S.Performs s c answer s' → Outcomes R E (outcome answer) s') :
    S.Spec Fits P (ExceptT.mk (.call c fun answer => .ret (outcome answer))) R E := by
  intro s hs s' hrely
  have hs' := hP hrely hs
  refine ⟨hfits s' hs', fun answer s'' hstate => ?_⟩
  exact fun _ hrely' => hpost answer hrely' (h s' answer s'' hs' hstate)

/-- In sequence: the second part starts where the first returned, and what the first throws is
thrown. -/
theorem Spec.bind {R' : β → σ → Prop} {m : ExceptT ε (Program Call Ans) α}
    {f : α → ExceptT ε (Program Call Ans) β} (hE : ∀ e, S.Stable (E e))
    (hm : S.Spec Fits P m R E) (hf : ∀ value, S.Spec Fits (R value) (f value) R' E) :
    S.Spec Fits P (m >>= f) R' E := by
  intro s hs
  apply (hm s hs).bind
  intro outcome s' h
  cases outcome with
  | ok value => exact hf value s' h
  | error e => exact fun s'' hrely => hE e hrely h

/-- With handlers: each exception is handled or thrown on. -/
theorem Spec.handle {m : ExceptT ε (Program Call Ans) α}
    {handler : ε → ExceptT ε (Program Call Ans) α} (hR : ∀ value, S.Stable (R value))
    (hm : S.Spec Fits P m R E) (hhandler : ∀ e, S.Spec Fits (E e) (handler e) R E') :
    S.Spec Fits P (tryCatch m handler) R E' := by
  intro s hs
  apply (hm s hs).bind
  intro outcome s' h
  cases outcome with
  | ok value => exact fun s'' hrely => hR value hrely h
  | error e => exact hhandler e s' h

/-- A test and what follows it in either case. -/
theorem Spec.test {ε α : Type} {P : σ → Prop} {Q : Bool → σ → Prop} {R : α → σ → Prop}
    {E : ε → σ → Prop} {m : ExceptT ε (Program Call Ans) Bool}
    {yes no : ExceptT ε (Program Call Ans) α} (hE : ∀ e, S.Stable (E e)) (hm : S.Spec Fits P m Q E)
    (hyes : S.Spec Fits (Q true) yes R E) (hno : S.Spec Fits (Q false) no R E) :
    S.Spec Fits P (m >>= fun answer => if answer = true then yes else no) R E := by
  apply Spec.bind hE hm
  intro answer
  cases answer with
  | true => exact hyes
  | false => exact hno

/-- The same, with the test the other way round. -/
theorem Spec.testNot {ε α : Type} {P : σ → Prop} {Q : Bool → σ → Prop} {R : α → σ → Prop}
    {E : ε → σ → Prop} {m : ExceptT ε (Program Call Ans) Bool}
    {yes no : ExceptT ε (Program Call Ans) α} (hE : ∀ e, S.Stable (E e)) (hm : S.Spec Fits P m Q E)
    (hno : S.Spec Fits (Q false) no R E) (hyes : S.Spec Fits (Q true) yes R E) :
    S.Spec Fits P (m >>= fun answer => if (!answer) = true then no else yes) R E := by
  apply Spec.bind hE hm
  intro answer
  cases answer with
  | true => exact hyes
  | false => exact hno

end Shared

end CecControl.Lib
