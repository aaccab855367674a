/-
# Programs that call an environment

A `Program` is the tree of calls a piece of code can make: it either returns, or
makes one call and continues with whatever the environment answers. Running code
one call at a time, answering its calls from an oracle, and asking which calls
it can ever make are then all ordinary recursion on the tree.

`Follows` says that one run of a program makes exactly the calls of a trace, gets
the answers recorded there and returns a given value. Runs of a sequence are runs
of its parts, one after the other.

`Settles` is the shape of code whose failures come only from its environment:
answers classified as bad make it stop at once with a failure that names them,
and every other path ends well. It composes over `bind`, which is how the shape
of a long job follows from the shape of its parts.
-/

import Mathlib.Data.List.Basic

namespace CecControl.Lib

universe u v w x

/-- Code that returns a value of type `α` after calling its environment. -/
inductive Program (Call : Type u) (Ans : Call → Type v) (α : Type w)
  | ret (value : α)
  | call (c : Call) (next : Ans c → Program Call Ans α)

namespace Program

variable {Call : Type u} {Ans : Call → Type v} {α : Type w} {β : Type x}

/-- Run `p`, then continue with its value. -/
def bind : Program Call Ans α → (α → Program Call Ans β) → Program Call Ans β
  | .ret value, f => f value
  | .call c next, f => .call c fun answer => (next answer).bind f

instance : Monad (Program Call Ans) where
  pure := .ret
  bind := Program.bind

@[simp]
theorem ret_bind (value : α) (f : α → Program Call Ans β) :
    (Program.ret value).bind f = f value := rfl

@[simp]
theorem call_bind (c : Call) (next : Ans c → Program Call Ans α)
    (f : α → Program Call Ans β) :
    (Program.call c next).bind f = .call c fun answer => (next answer).bind f := rfl

/-- The single call `c`, returning its answer. -/
def perform (c : Call) : Program Call Ans (Ans c) := .call c .ret

/-- Every call the program can ever make satisfies `P`. -/
def Calls (P : Call → Prop) : Program Call Ans α → Prop
  | .ret _ => True
  | .call c next => P c ∧ ∀ answer, (next answer).Calls P

theorem calls_of_forall {P : Call → Prop} (h : ∀ c, P c) (p : Program Call Ans α) : p.Calls P := by
  induction p with
  | ret value => trivial
  | call c next ih => exact ⟨h c, ih⟩

theorem Calls.bind {P : Call → Prop} {p : Program Call Ans α}
    {f : α → Program Call Ans β} (hp : p.Calls P) (hf : ∀ value, (f value).Calls P) :
    (p.bind f).Calls P := by
  induction p with
  | ret value => exact hf value
  | call c next ih => exact ⟨hp.1, fun answer => ih answer (hp.2 answer)⟩

/-- Every value the program can return satisfies `Q`. -/
def Ends (Q : α → Prop) : Program Call Ans α → Prop
  | .ret value => Q value
  | .call _ next => ∀ answer, (next answer).Ends Q

theorem Ends.bind {R : α → Prop} {Q : β → Prop} {p : Program Call Ans α}
    {f : α → Program Call Ans β} (hp : p.Ends R) (hf : ∀ value, R value → (f value).Ends Q) :
    (p.bind f).Ends Q := by
  induction p with
  | ret value => exact hf value hp
  | call c next ih => exact fun answer => ih answer (hp answer)

theorem Ends.mono {Q R : α → Prop} (h : ∀ value, Q value → R value) {p : Program Call Ans α}
    (hp : p.Ends Q) : p.Ends R := by
  induction p with
  | ret value => exact h value hp
  | call c next ih => exact fun answer => ih answer (hp answer)

theorem ends_true (p : Program Call Ans α) : p.Ends fun _ => True := by
  induction p with
  | ret value => trivial
  | call c next ih => exact ih

/-- The program makes exactly the calls of the trace, gets the answers recorded
there, and returns `result`. -/
def Follows : Program Call Ans α → List ((c : Call) × Ans c) → α → Prop
  | .ret value, trace, result => trace = [] ∧ value = result
  | .call c next, trace, result =>
      ∃ answer rest, trace = ⟨c, answer⟩ :: rest ∧ (next answer).Follows rest result

@[simp]
theorem follows_ret {value result : α} {trace : List ((c : Call) × Ans c)} :
    (Program.ret value : Program Call Ans α).Follows trace result ↔
      trace = [] ∧ value = result := Iff.rfl

/-- A run of a sequence is a run of its first part and then one of the rest. -/
theorem follows_bind {p : Program Call Ans α} {f : α → Program Call Ans β} {result : β}
    {trace : List ((c : Call) × Ans c)} :
    (p.bind f).Follows trace result ↔
      ∃ first value rest, trace = first ++ rest ∧ p.Follows first value ∧
        (f value).Follows rest result := by
  induction p generalizing trace with
  | ret value =>
      constructor
      · intro h
        exact ⟨[], value, trace, rfl, ⟨rfl, rfl⟩, h⟩
      · rintro ⟨_, _, rest, rfl, ⟨rfl, rfl⟩, h⟩
        exact h
  | call c next ih =>
      constructor
      · rintro ⟨answer, after, rfl, h⟩
        obtain ⟨first, value, rest, rfl, hfirst, hrest⟩ := (ih answer).mp h
        exact ⟨⟨c, answer⟩ :: first, value, rest, rfl, ⟨answer, first, rfl, hfirst⟩, hrest⟩
      · rintro ⟨_, value, rest, rfl, ⟨answer, first, rfl, hfirst⟩, hrest⟩
        exact ⟨answer, first ++ rest, rfl, (ih answer).mpr ⟨first, value, rest, rfl, hfirst, hrest⟩⟩

/-- The run in which every call is answered by the oracle: its trace and its value. -/
def answered (oracle : ∀ c : Call, Ans c) : Program Call Ans α → List ((c : Call) × Ans c) × α
  | .ret value => ([], value)
  | .call c next =>
      let rest := (next (oracle c)).answered oracle
      (⟨c, oracle c⟩ :: rest.1, rest.2)

/-- Every oracle gives a run. -/
theorem follows_answered (oracle : ∀ c : Call, Ans c) (p : Program Call Ans α) :
    p.Follows (p.answered oracle).1 (p.answered oracle).2 := by
  induction p with
  | ret value => exact ⟨rfl, rfl⟩
  | call c next ih => exact ⟨oracle c, _, rfl, ih (oracle c)⟩

/-- Bad answers stop the program at once with a failure related to them by
`Fail`; along good answers it ends in `Good`. -/
def Settles (Bad : ∀ c : Call, Ans c → Prop) (Fail : ∀ c : Call, Ans c → α → Prop)
    (Good : α → Prop) : Program Call Ans α → Prop
  | .ret value => Good value
  | .call c next => ∀ answer,
      (Bad c answer → ∃ value, next answer = .ret value ∧ Fail c answer value) ∧
        (¬ Bad c answer → (next answer).Settles Bad Fail Good)

variable {Bad : ∀ c : Call, Ans c → Prop}

/-- Sequencing settled programs: the continuation settles after a good value and
passes a failure on unchanged. -/
theorem Settles.bind {Fail : ∀ c : Call, Ans c → α → Prop} {Good : α → Prop}
    {Fail' : ∀ c : Call, Ans c → β → Prop} {Good' : β → Prop}
    {p : Program Call Ans α} {f : α → Program Call Ans β}
    (hp : p.Settles Bad Fail Good)
    (hgood : ∀ value, Good value → (f value).Settles Bad Fail' Good')
    (hfail : ∀ c answer value, Bad c answer → Fail c answer value →
      ∃ result, f value = .ret result ∧ Fail' c answer result) :
    (p.bind f).Settles Bad Fail' Good' := by
  induction p with
  | ret value => exact hgood value hp
  | call c next ih =>
      intro answer
      refine ⟨fun hbad => ?_, fun hok => ih answer ((hp answer).2 hok)⟩
      obtain ⟨value, hnext, hvalue⟩ := (hp answer).1 hbad
      obtain ⟨result, hresult, hrelated⟩ := hfail c answer value hbad hvalue
      exact ⟨result, by simp [hnext, hresult], hrelated⟩

/-- What is left of a program after its next call. -/
inductive Child : Program Call Ans α → Program Call Ans α → Prop
  | next (c : Call) (next : Ans c → Program Call Ans α) (answer : Ans c) :
      Child (next answer) (.call c next)

/-- A program is run to its end, however its calls are answered. -/
theorem wellFounded_child : WellFounded (@Child Call Ans α) := by
  refine ⟨fun p => ?_⟩
  induction p with
  | ret value => exact ⟨_, fun _ h => by cases h⟩
  | call c next ih =>
      refine ⟨_, fun _ h => ?_⟩
      cases h with
      | next _ _ answer => exact ih answer

end Program

end CecControl.Lib
