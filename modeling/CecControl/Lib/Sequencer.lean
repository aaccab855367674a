/-
# A coalescing FIFO sequencer

Requests are worked off one at a time in the order they arrive. A request equal
to the last one that is still unfinished is dropped: finishing that one finishes
it as well. The sequencer is given as a machine over its observable events, so
that saying that a log is one of its runs says at once that work is never
started out of turn, never twice at a time, and that nothing but an equal last
request is ever dropped.

The one fact proved about it is what makes such a queue trustworthy. Among the
requests of any class, the last one received is the last one finished, or it is
still on its way.
-/

import CecControl.Lib.Machine

namespace CecControl.Lib

universe u

/-- Unfinished requests, oldest first, and whether the oldest is in progress. -/
structure Sequencer (R : Type u) where
  unfinished : List R := []
  busy : Bool := false

namespace Sequencer

/-- What can be observed of a sequencer. -/
inductive Event (R : Type u)
  | request (r : R)
  | start (r : R)
  | finish (r : R)

variable {R : Type u}

section Step

variable [DecidableEq R]

/-- A request joins the queue unless an equal one is last; only the oldest
request is started, only when none is in progress; and only it is finished. -/
def step (s : Sequencer R) : Event R → Option (Sequencer R)
  | .request r =>
      some (if s.unfinished.getLast? = some r then s
        else { s with unfinished := s.unfinished ++ [r] })
  | .start r =>
      if s.busy = false ∧ s.unfinished.head? = some r then some { s with busy := true } else none
  | .finish r =>
      if s.busy = true ∧ s.unfinished.head? = some r then some ⟨s.unfinished.tail, false⟩
      else none

/-- The sequencer as a machine. -/
def machine : Machine (Sequencer R) (Event R) where
  step := step

end Step

/-- The requests received, in order. -/
def requested : List (Event R) → List R
  | [] => []
  | .request r :: events => r :: requested events
  | _ :: events => requested events

/-- The requests finished, in order. -/
def finished : List (Event R) → List R
  | [] => []
  | .finish r :: events => r :: finished events
  | _ :: events => finished events

@[simp]
theorem requested_append (events more : List (Event R)) :
    requested (events ++ more) = requested events ++ requested more := by
  fun_induction requested events <;> simp_all [requested]

@[simp]
theorem finished_append (events more : List (Event R)) :
    finished (events ++ more) = finished events ++ finished more := by
  fun_induction finished events <;> simp_all [finished]

/-- The last request of a class is the last unfinished one of that class, or,
with none unfinished, the last finished one. -/
def LastAccounted (p : R → Bool) (s : Sequencer R) (events : List (Event R)) : Prop :=
  ((requested events).filter p).getLast? =
    ((s.unfinished.filter p).getLast?).or ((finished events).filter p).getLast?

variable [DecidableEq R]

theorem lastAccounted_step {p : R → Bool} {s s' : Sequencer R} {events : List (Event R)}
    {e : Event R} (h : LastAccounted p s events) (hstep : s.step e = some s') :
    LastAccounted p s' (events ++ [e]) := by
  unfold LastAccounted at h ⊢
  cases e with
  | request r =>
      obtain rfl := Option.some.inj hstep
      cases hp : p r with
      | false =>
          have hsame : (List.filter p (if s.unfinished.getLast? = some r then s
              else { s with unfinished := s.unfinished ++ [r] }).unfinished) =
              s.unfinished.filter p := by
            split_ifs <;> simp [hp]
          rw [hsame]
          simpa [requested, finished, hp] using h
      | true =>
          have hlast : (List.filter p (if s.unfinished.getLast? = some r then s
              else { s with unfinished := s.unfinished ++ [r] }).unfinished).getLast? =
              some r := by
            split_ifs with hdropped
            · obtain ⟨front, hfront⟩ := List.getLast?_eq_some_iff.mp hdropped
              simp [hfront, hp]
            · simp [hp]
          rw [hlast]
          simp [requested, hp]
  | start r =>
      simp only [step] at hstep
      split_ifs at hstep
      obtain rfl := Option.some.inj hstep
      simpa [requested, finished] using h
  | finish r =>
      simp only [step] at hstep
      split_ifs at hstep with hhead
      obtain rfl := Option.some.inj hstep
      obtain ⟨rest, hrest⟩ := List.head?_eq_some_iff.mp hhead.2
      rw [hrest] at h
      cases hp : p r with
      | false => simpa [requested, finished, hrest, hp] using h
      | true =>
          -- the finished request is last exactly when nothing of its class is left
          cases hleft : (rest.filter p).getLast? with
          | none =>
              have hnil : rest.filter p = [] := List.getLast?_eq_none_iff.mp hleft
              simp [requested, finished, hrest, hp, hnil, h]
          | some last =>
              simp [requested, finished, hrest, hp, hleft, h, List.getLast?_cons]

/-- Continuing a sequence of events by a run keeps its last requests accounted
for. -/
theorem lastAccounted_append {p : R → Bool} {past events : List (Event R)} {s s' : Sequencer R}
    (h : LastAccounted p s past) (hrun : machine.run s events = some s') :
    LastAccounted p s' (past ++ events) := by
  induction events generalizing past s with
  | nil =>
      rw [Machine.run_nil, Option.some.injEq] at hrun
      simpa [← hrun] using h
  | cons e events ih =>
      obtain ⟨next, hstep, hrest⟩ := machine.run_cons_eq_some.mp hrun
      simpa using ih (lastAccounted_step h hstep) hrest

/-- **Last request wins.** In every run from the empty sequencer the last request
of any class is accounted for. -/
theorem lastAccounted_run (p : R → Bool) {events : List (Event R)} {s : Sequencer R}
    (hrun : machine.run {} events = some s) : LastAccounted p s events := by
  have hempty : LastAccounted p ({} : Sequencer R) [] := by
    simp [LastAccounted, requested, finished]
  exact lastAccounted_append hempty hrun

end Sequencer

end CecControl.Lib
