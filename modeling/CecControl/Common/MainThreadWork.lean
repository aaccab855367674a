/-
# The main thread's work queue

Any thread may post a closure; the main thread drains the queue when the wake
descriptor is readable. A post pushes under the lock and then adds to the eventfd; a
drain reads the eventfd until it is empty, swaps the queue under the lock, and then
runs what it has swapped out without it. Everything between these actions may be
interleaved with the actions of other threads, and the machine here lets it.

That the order is push before write on the one side and read before swap on the other
is what makes the queue work: a wake-up is taken away only by a drain that has yet to
take the closures it was for.
-/

import CecControl.Lib.Machine
import Mathlib.Data.List.Basic

namespace CecControl

open Lib

/-- Where the draining thread is. -/
inductive DrainPhase (W : Type)
  | outside
  /-- `drain` has been called and nothing read. -/
  | reading
  /-- A read has returned the sum and reset it; the loop reads again. -/
  | cleared
  /-- A read has found nothing; the queue is still to be swapped. -/
  | read
  /-- Between two closures of the batch. -/
  | running
  /-- A closure is being run. -/
  | inside (work : W)
  deriving DecidableEq, Repr

namespace DrainPhase

variable {W : Type}

/-- The drain has passed its read and not yet its swap. -/
def pastRead : DrainPhase W → Bool
  | .cleared => true
  | .read => true
  | _ => false

/-- The drain is in its reading loop. -/
def inLoop : DrainPhase W → Bool
  | .reading => true
  | .cleared => true
  | _ => false

/-- The drain has a batch. -/
def hasBatch : DrainPhase W → Bool
  | .running => true
  | .inside _ => true
  | _ => false

/-- The closure being run. -/
def current : DrainPhase W → List W
  | .inside work => [work]
  | _ => []

theorem current_of_inLoop {phase : DrainPhase W} (h : phase.inLoop = true) : phase.current = [] := by
  cases phase <;> first | rfl | cases h

/-- The main thread runs code that may post: a handler outside the drain, or a closure. -/
def mayPost : DrainPhase W → Bool
  | .outside => true
  | .inside _ => true
  | _ => false

end DrainPhase

/-- The queue, its eventfd, and where everybody is. Threads other than the main thread are
`some thread`. -/
structure MainThreadWork (τ W : Type) where
  pending : List W := []
  /-- The eventfd's counter. -/
  counter : ℕ := 0
  /-- Threads that have pushed and not yet written. -/
  posting : List (Option τ) := []
  phase : DrainPhase W := .outside
  /-- Swapped out and not yet begun. -/
  batch : List W := []
  /-- Closures that have returned or thrown. -/
  ran : List W := []
  /-- Everything pushed, in order. -/
  pushed : List W := []

namespace MainThreadWork

variable {τ W : Type}

/-- The largest value of an eventfd; a write that would pass it fails, and the counter is
not zero. -/
def maxCounter : ℕ := 0xfffffffffffffffe

inductive Label (τ W : Type)
  | push (thread : Option τ) (work : W)
  | write (thread : Option τ)
  | drain
  | read
  | swap
  | run
  /-- The closure is over; what it throws is caught and logged. -/
  | finish (threw : Bool)
  | leave
  deriving Repr

/-- The closure that is posted. -/
def Label.works : Label τ W → List W
  | .push _ work => [work]
  | _ => []

variable [DecidableEq τ]

def step (m : MainThreadWork τ W) : Label τ W → Option (MainThreadWork τ W)
  | .push thread work =>
      if thread ∈ m.posting ∨ thread = none ∧ m.phase.mayPost = false then none
      else
        some { m with
          pending := m.pending ++ [work]
          posting := thread :: m.posting
          pushed := m.pushed ++ [work] }
  | .write thread =>
      if thread ∈ m.posting then
        some { m with
          posting := m.posting.erase thread
          counter := if m.counter < maxCounter then m.counter + 1 else m.counter }
      else none
  | .drain =>
      match m.phase with
      | .outside => if none ∈ m.posting then none else some { m with phase := .reading }
      | _ => none
  | .read =>
      if m.phase.inLoop then
        if m.counter = 0 then some { m with phase := .read }
        else some { m with counter := 0, phase := .cleared }
      else none
  | .swap =>
      match m.phase with
      | .read => some { m with batch := m.pending, pending := [], phase := .running }
      | _ => none
  | .run =>
      match m.phase, m.batch with
      | .running, work :: rest => some { m with batch := rest, phase := .inside work }
      | _, _ => none
  | .finish _ =>
      match m.phase with
      | .inside work =>
          if none ∈ m.posting then none
          else some { m with ran := m.ran ++ [work], phase := .running }
      | _ => none
  | .leave =>
      match m.phase, m.batch with
      | .running, [] => some { m with phase := .outside }
      | _, _ => none

def machine : Machine (MainThreadWork τ W) (Label τ W) where
  step := step

/-- Closures swapped out by the drain in progress and not yet over. -/
def beingRun (m : MainThreadWork τ W) : List W := m.phase.current ++ m.batch

/-! ## Nothing is lost -/

/-- What holds whatever the threads do. -/
structure Kept (m : MainThreadWork τ W) : Prop where
  /-- What was pushed has been run, is being run or is queued, in this order. -/
  accounted : m.ran ++ m.beingRun ++ m.pending = m.pushed
  idle : m.phase.hasBatch = false → m.batch = []
  /-- Whoever has queued something is about to write, has written, or has woken a drain that
  has yet to swap. -/
  awake : m.pending ≠ [] → 0 < m.counter ∨ m.posting ≠ [] ∨ m.phase.pastRead = true

variable {m m' : MainThreadWork τ W}

theorem Kept.push (h : Kept m) {thread : Option τ} {work : W}
    (hstep : machine.step m (.push thread work) = some m') : Kept m' := by
  change step m (.push thread work) = some m' at hstep
  simp only [step] at hstep
  split_ifs at hstep
  obtain rfl := Option.some.inj hstep
  constructor
  · rw [← h.accounted]
    simp [beingRun]
  · exact h.idle
  · exact fun _ => Or.inr (Or.inl (by simp))

theorem Kept.write (h : Kept m) {thread : Option τ}
    (hstep : machine.step m (.write thread) = some m') : Kept m' := by
  change step m (.write thread) = some m' at hstep
  simp only [step] at hstep
  split_ifs at hstep with hposting hroom
  · obtain rfl := Option.some.inj hstep
    exact ⟨h.accounted, h.idle, fun _ => Or.inl (Nat.succ_pos _)⟩
  · obtain rfl := Option.some.inj hstep
    refine ⟨h.accounted, h.idle, fun _ => Or.inl ?_⟩
    exact Nat.lt_of_lt_of_le (by decide : 0 < maxCounter) (Nat.le_of_not_lt hroom)

theorem Kept.drain (h : Kept m) (hstep : machine.step m .drain = some m') : Kept m' := by
  change step m .drain = some m' at hstep
  simp only [step] at hstep
  split at hstep
  · next hphase =>
      split_ifs at hstep
      obtain rfl := Option.some.inj hstep
      constructor
      · simpa [beingRun, hphase, DrainPhase.current] using h.accounted
      · exact fun _ => h.idle (by simp [hphase, DrainPhase.hasBatch])
      · simpa [hphase, DrainPhase.pastRead] using h.awake
  · cases hstep

theorem Kept.read (h : Kept m) (hstep : machine.step m .read = some m') : Kept m' := by
  change step m .read = some m' at hstep
  simp only [step] at hstep
  split_ifs at hstep with hloop hzero
  all_goals
    obtain rfl := Option.some.inj hstep
    have hnone : m.phase.hasBatch = false := by
      cases hphase : m.phase <;> simp_all [DrainPhase.inLoop, DrainPhase.hasBatch]
    have haccounted := h.accounted
    rw [beingRun, DrainPhase.current_of_inLoop hloop] at haccounted
    exact ⟨haccounted, fun _ => h.idle hnone, fun _ => Or.inr (Or.inr rfl)⟩

theorem Kept.swap (h : Kept m) (hstep : machine.step m .swap = some m') : Kept m' := by
  change step m .swap = some m' at hstep
  simp only [step] at hstep
  split at hstep
  · next hphase =>
      obtain rfl := Option.some.inj hstep
      have hempty := h.idle (by simp [hphase, DrainPhase.hasBatch])
      refine ⟨?_, fun hbatch => by simp [DrainPhase.hasBatch] at hbatch, fun hne => ?_⟩
      · simpa [beingRun, hphase, hempty, DrainPhase.current] using h.accounted
      · simp at hne
  · cases hstep

theorem Kept.run (h : Kept m) (hstep : machine.step m .run = some m') : Kept m' := by
  change step m .run = some m' at hstep
  simp only [step] at hstep
  split at hstep
  · next work rest hphase hbatch =>
      obtain rfl := Option.some.inj hstep
      refine ⟨?_, fun hnone => by simp [DrainPhase.hasBatch] at hnone, ?_⟩
      · simpa [beingRun, hphase, hbatch, DrainPhase.current] using h.accounted
      · simpa [hphase, DrainPhase.pastRead] using h.awake
  · cases hstep

/-- A closure that throws counts as run, and the others are not affected. -/
theorem Kept.finish (h : Kept m) {threw : Bool}
    (hstep : machine.step m (.finish threw) = some m') : Kept m' := by
  change step m (.finish threw) = some m' at hstep
  simp only [step] at hstep
  split at hstep
  · next work hphase =>
      split_ifs at hstep
      obtain rfl := Option.some.inj hstep
      refine ⟨?_, fun hnone => by simp [DrainPhase.hasBatch] at hnone, ?_⟩
      · simpa [beingRun, hphase, DrainPhase.current] using h.accounted
      · simpa [hphase, DrainPhase.pastRead] using h.awake
  · cases hstep

theorem Kept.leave (h : Kept m) (hstep : machine.step m .leave = some m') : Kept m' := by
  change step m .leave = some m' at hstep
  simp only [step] at hstep
  split at hstep
  · next hphase hbatch =>
      obtain rfl := Option.some.inj hstep
      refine ⟨?_, fun _ => hbatch, ?_⟩
      · simpa [beingRun, hphase, DrainPhase.current] using h.accounted
      · simpa [hphase, DrainPhase.pastRead] using h.awake
  · cases hstep

theorem Kept.step (h : Kept m) {label : Label τ W} (hstep : machine.step m label = some m') :
    Kept m' := by
  cases label with
  | push thread work => exact h.push hstep
  | write thread => exact h.write hstep
  | drain => exact h.drain hstep
  | read => exact h.read hstep
  | swap => exact h.swap hstep
  | run => exact h.run hstep
  | finish threw => exact h.finish hstep
  | leave => exact h.leave hstep

omit [DecidableEq τ] in
theorem kept_empty : Kept ({} : MainThreadWork τ W) where
  accounted := rfl
  idle _ := rfl
  awake h := absurd rfl h

theorem kept_of_run {labels : List (Label τ W)} (hrun : machine.run {} labels = some m) : Kept m :=
  machine.invariant_of_step (fun h hstep => h.step hstep) kept_empty hrun

theorem pushed_step {label : Label τ W} (hstep : machine.step m label = some m') :
    (∃ thread work, label = .push thread work ∧ m'.pushed = m.pushed ++ [work]) ∨
      (∀ thread work, label ≠ .push thread work) ∧ m'.pushed = m.pushed := by
  change step m label = some m' at hstep
  cases label with
  | push thread work =>
      simp only [MainThreadWork.step] at hstep
      split_ifs at hstep
      exact Or.inl ⟨thread, work, rfl, Option.some.inj hstep ▸ rfl⟩
  | write _ | drain | read | swap | run | finish _ | leave =>
      apply Or.inr
      constructor
      · simp
      · simp only [MainThreadWork.step] at hstep
        grind

/-- The closures posted along a run are those of its pushes. -/
theorem pushed_of_run {labels : List (Label τ W)} (hrun : machine.run {} labels = some m) :
    m.pushed = labels.flatMap Label.works := by
  refine machine.history_of_step (I := fun labels m => m.pushed = labels.flatMap Label.works)
    rfl (fun {past state label next} _ hpast hstep => ?_) hrun
  rw [List.flatMap_append, ← hpast]
  rcases pushed_step hstep with ⟨thread, work, rfl, hpushed⟩ | ⟨hother, hpushed⟩
  · exact hpushed
  · cases label with
    | push thread work => exact absurd rfl (hother thread work)
    | _ => simpa [Label.works] using hpushed

/-- **No work and no wake-up is lost.** However the threads interleave, every closure that
they have posted has been run, is in the batch being run or is queued, each once and in the order
of the pushes; and a queue that is not empty, with nobody between push and write, has made
the wake descriptor readable or has a drain past its read and not yet at its swap. -/
theorem no_work_lost {labels : List (Label τ W)} (hrun : machine.run {} labels = some m) :
    m.ran ++ m.beingRun ++ m.pending = m.pushed ∧
      m.pushed = labels.flatMap Label.works ∧
      (m.pending ≠ [] → m.posting = [] → 0 < m.counter ∨ m.phase.pastRead = true) := by
  have h := kept_of_run hrun
  refine ⟨h.accounted, pushed_of_run hrun, fun hpending hposting => ?_⟩
  exact (h.awake hpending).imp_right fun hother => hother.resolve_left (not_not.mpr hposting)

/-- A closure posts while a batch with one that throws is run, and another thread pushes
between the drain's read and its swap. -/
def busyDrain : List (Label ℕ ℕ) :=
  [.push (some 1) 10, .push (some 2) 11, .write (some 2), .write (some 1), .drain, .read, .read,
    .push (some 1) 12, .swap, .write (some 1), .run, .push none 13, .write none, .finish true, .run]

theorem no_work_lost_busyDrain :
    ∃ m : MainThreadWork ℕ ℕ, machine.run {} busyDrain = some m ∧
      m.ran = [10] ∧ m.beingRun = [11, 12] ∧ m.pending = [13] ∧ m.posting = [] ∧
      m.ran ++ m.beingRun ++ m.pending = m.pushed ∧ m.pushed = busyDrain.flatMap Label.works ∧
      (m.pending ≠ [] → m.posting = [] → 0 < m.counter ∨ m.phase.pastRead = true) := by
  have hreached : (machine.run ({} : MainThreadWork ℕ ℕ) busyDrain).map (fun m =>
      (m.ran, m.beingRun, m.pending, m.posting)) = some ([10], [11, 12], [13], []) := by decide
  obtain ⟨m, hrun, heq⟩ := Option.map_eq_some_iff.mp hreached
  simp only [Prod.mk.injEq] at heq
  obtain ⟨hran, hbeingRun, hpending, hposting⟩ := heq
  exact ⟨m, hrun, hran, hbeingRun, hpending, hposting, no_work_lost hrun⟩

/-! ## The queue the rest of the daemon sees -/

/-- Closures pushed and not yet begun. -/
def queued (m : MainThreadWork τ W) : List W := m.batch ++ m.pending

/-- Seen from outside, closures are added at the end when they are pushed and taken from the
front when they are run, and nothing else happens. -/
theorem queued_step (h : Kept m) {label : Label τ W} (hstep : machine.step m label = some m') :
    (∃ thread work, label = .push thread work ∧ m'.queued = m.queued ++ [work]) ∨
      (∃ work, label = .run ∧ m.queued = work :: m'.queued) ∨ m'.queued = m.queued := by
  change step m label = some m' at hstep
  cases label with
  | push thread work =>
      simp only [MainThreadWork.step] at hstep
      split_ifs at hstep
      obtain rfl := Option.some.inj hstep
      exact Or.inl ⟨thread, work, rfl, by simp [queued]⟩
  | run =>
      simp only [MainThreadWork.step] at hstep
      split at hstep
      · next work rest _ hbatch =>
          obtain rfl := Option.some.inj hstep
          exact Or.inr (Or.inl ⟨work, rfl, by simp [queued, hbatch]⟩)
      · cases hstep
  | swap =>
      simp only [MainThreadWork.step] at hstep
      split at hstep
      · next hphase =>
          obtain rfl := Option.some.inj hstep
          have hempty := h.idle (by simp [hphase, DrainPhase.hasBatch])
          exact Or.inr (Or.inr (by simp [queued, hempty]))
      · cases hstep
  | write thread =>
      simp only [MainThreadWork.step] at hstep
      split_ifs at hstep <;> exact Or.inr (Or.inr (Option.some.inj hstep ▸ rfl))
  | drain =>
      simp only [MainThreadWork.step] at hstep
      split at hstep
      · split_ifs at hstep
        exact Or.inr (Or.inr (Option.some.inj hstep ▸ rfl))
      · cases hstep
  | read =>
      simp only [MainThreadWork.step] at hstep
      split_ifs at hstep <;> exact Or.inr (Or.inr (Option.some.inj hstep ▸ rfl))
  | finish threw =>
      simp only [MainThreadWork.step] at hstep
      split at hstep
      · split_ifs at hstep
        exact Or.inr (Or.inr (Option.some.inj hstep ▸ rfl))
      · cases hstep
  | leave =>
      simp only [MainThreadWork.step] at hstep
      split at hstep
      · exact Or.inr (Or.inr (Option.some.inj hstep ▸ rfl))
      · cases hstep

/-- Closures whose run has begun, in this order. -/
def begun (m : MainThreadWork τ W) : List W := m.ran ++ m.phase.current

omit [DecidableEq τ] in
/-- What has been pushed has begun or is queued, in this order. -/
theorem Kept.begun_append_queued (h : Kept m) : m.begun ++ m.queued = m.pushed := by
  rw [← h.accounted]
  simp [begun, queued, beingRun]

/-- A closure is begun by the step `run`, and by no other. -/
theorem begun_step {label : Label τ W} (hstep : machine.step m label = some m') :
    (∃ work, label = .run ∧ m'.phase = .inside work ∧ m.queued = work :: m'.queued ∧
        m'.begun = m.begun ++ [work]) ∨
      label ≠ .run ∧ m'.begun = m.begun := by
  change step m label = some m' at hstep
  cases label with
  | run =>
      simp only [MainThreadWork.step] at hstep
      split at hstep
      · next work rest hphase hbatch =>
          obtain rfl := Option.some.inj hstep
          refine Or.inl ⟨work, rfl, rfl, by simp [queued, hbatch], ?_⟩
          rw [begun, begun, hphase]
          simp [DrainPhase.current]
      · cases hstep
  | push _ _ | write _ | drain | read | swap | finish _ | leave =>
      apply Or.inr
      constructor
      · simp
      · simp only [MainThreadWork.step] at hstep
        grind [begun, DrainPhase.current, DrainPhase.current_of_inLoop]

end MainThreadWork

end CecControl
