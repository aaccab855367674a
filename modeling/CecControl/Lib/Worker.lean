/-
# A thread that works off a queue

Any thread submits work, which joins the end of a queue; one thread takes it from the front and
runs it, a piece at a time. Queue and order to stop are kept under a mutex, and while there is
neither work nor an order the thread sleeps on a condition variable. Whoever brings either of
them lets go of the mutex before waking the thread, so that anything may happen in between; a
notification that finds nobody asleep is lost, and the thread may wake up without one.

`Worker` takes this code a critical section at a time. What holds in every interleaving is that
no work is lost, repeated or run out of turn, and that the thread never sleeps through its call.
Left to themselves the threads come to rest, with everything run or, after a stop, with the
thread gone.

`JobQueue` is what the code is for, with mutex and condition variable forgotten: a queue, the
work in progress, and a stop that empties the queue at once. The worker is seen as one.
-/

import CecControl.Lib.Progress
import Mathlib.Tactic.SplitIfs

namespace CecControl.Lib

universe u v

/-! ## The queue, seen from outside -/

structure JobQueue (J : Type u) where
  queue : List J := []
  current : Option J := none
  stopped : Bool := false

namespace JobQueue

variable {J : Type u}

inductive Label (J : Type u)
  | submit (job : J)
  | take
  | finish
  | stop

/-- Nothing is accepted or taken after the stop; what is in progress may still finish. -/
def step (q : JobQueue J) : Label J → Option (JobQueue J)
  | .submit job => some { q with queue := if q.stopped then q.queue else q.queue ++ [job] }
  | .take =>
      match q.current, q.queue with
      | none, job :: rest =>
          if q.stopped then none else some { q with current := some job, queue := rest }
      | _, _ => none
  | .finish => if q.current.isSome then some { q with current := none } else none
  | .stop => some { q with stopped := true, queue := [] }

def machine : Machine (JobQueue J) (Label J) where
  step := step

end JobQueue

/-! ## The threads -/

/-- Where the worker's thread is. -/
inductive ThreadPhase (J : Type u)
  /-- Not created. -/
  | unborn
  /-- On its way to the mutex, to look at the queue. -/
  | looking
  /-- On the condition variable. -/
  | asleep
  | running (job : J)
  /-- Out of its loop; what it does last is still to come. -/
  | leaving
  | exited
  deriving DecidableEq, Repr

namespace ThreadPhase

variable {J : Type u}

def current : ThreadPhase J → Option J
  | .running job => some job
  | _ => none

/-- There is no thread to wait for. -/
def gone : ThreadPhase J → Bool
  | .unborn => true
  | .exited => true
  | _ => false

/-- The thread has left its loop. -/
def isOut : ThreadPhase J → Bool
  | .leaving => true
  | .exited => true
  | _ => false

/-- A notification wakes a thread that is asleep. -/
def notified : ThreadPhase J → ThreadPhase J
  | .asleep => .looking
  | phase => phase

end ThreadPhase

/-- Threads other than the worker's are named by `τ`. -/
structure Worker (τ : Type v) (J : Type u) where
  jobs : List J := []
  stopRequested : Bool := false
  started : Bool := false
  phase : ThreadPhase J := .unborn
  /-- Threads out of their critical section that have yet to notify. -/
  notifying : List τ := []
  /-- The thread whose `stop` has yet to return. -/
  stopping : Option τ := none
  /-- The thread has been joined. -/
  joined : Bool := false
  /-- Everything that joined the queue, in order. -/
  accepted : List J := []
  /-- What has been run, whether or not it threw. -/
  ran : List J := []
  /-- What was in the queue when the thread found the order to stop. -/
  dropped : List J := []

namespace Worker

variable {τ : Type v} {J : Type u} [DecidableEq τ]

inductive Label (τ : Type v) (J : Type u)
  | submit (thread : τ) (job : J)
  /-- Creating the thread may fail. -/
  | start (created : Bool)
  | requestStop (thread : τ)
  | notify (thread : τ)
  /-- The worker's critical section. -/
  | look
  /-- The thread wakes up for no reason. -/
  | wake
  /-- What a job throws is caught. -/
  | finish (threw : Bool)
  /-- What the thread does last, and its end. -/
  | leave
  /-- The thread is joined, if there is one, and `stop` returns. -/
  | join
  deriving Repr

/-- A thread between its critical section and the end of its call. -/
def busy (w : Worker τ J) (thread : τ) : Bool :=
  decide (thread ∈ w.notifying ∨ w.stopping = some thread)

def look (w : Worker τ J) : Worker τ J :=
  if w.stopRequested then { w with jobs := [], dropped := w.jobs, phase := .leaving }
  else
    match w.jobs with
    | [] => { w with phase := .asleep }
    | job :: rest => { w with jobs := rest, phase := .running job }

def step (w : Worker τ J) : Label τ J → Option (Worker τ J)
  | .submit thread job =>
      if w.busy thread then none
      else if w.stopRequested then some w
      else
        some { w with
          jobs := w.jobs ++ [job]
          notifying := thread :: w.notifying
          accepted := w.accepted ++ [job] }
  | .start created =>
      if w.started || !created then some w
      else some { w with started := true, phase := .looking }
  | .requestStop thread =>
      if w.busy thread then none
      else if w.stopRequested then some w
      else
        some { w with
          stopRequested := true
          notifying := thread :: w.notifying
          stopping := some thread }
  | .notify thread =>
      if thread ∈ w.notifying then
        some { w with notifying := w.notifying.erase thread, phase := w.phase.notified }
      else none
  | .look =>
      match w.phase with
      | .looking => some w.look
      | _ => none
  | .wake =>
      match w.phase with
      | .asleep => some { w with phase := .looking }
      | _ => none
  | .finish _ =>
      match w.phase with
      | .running job => some { w with ran := w.ran ++ [job], phase := .looking }
      | _ => none
  | .leave =>
      match w.phase with
      | .leaving => some { w with phase := .exited }
      | _ => none
  | .join =>
      match w.stopping with
      | some thread =>
          if thread ∈ w.notifying ∨ w.phase.gone = false then none
          else some { w with stopping := none, joined := w.started }
      | none => none

def machine : Machine (Worker τ J) (Label τ J) where
  step := step

omit [DecidableEq τ] in
/-- The thread finds the order to stop, nothing to do, or a job. -/
theorem look_cases (w : Worker τ J) :
    (w.stopRequested = true ∧
        w.look = { w with jobs := [], dropped := w.jobs, phase := .leaving }) ∨
      (w.stopRequested = false ∧ w.jobs = [] ∧ w.look = { w with phase := .asleep }) ∨
      (w.stopRequested = false ∧ ∃ job rest, w.jobs = job :: rest ∧
        w.look = { w with jobs := rest, phase := .running job }) := by
  unfold look
  cases hstop : w.stopRequested with
  | true => exact Or.inl ⟨rfl, rfl⟩
  | false =>
      cases hjobs : w.jobs with
      | nil => exact Or.inr (Or.inl ⟨rfl, rfl, by simp⟩)
      | cons job rest => exact Or.inr (Or.inr ⟨rfl, job, rest, rfl, by simp⟩)

/-! ## Nothing is lost -/

/-- What holds in every interleaving. -/
structure Sound (w : Worker τ J) : Prop where
  /-- What was accepted has been run, is being run, is queued or was dropped, in this order. -/
  accounted : w.ran ++ w.phase.current.toList ++ w.jobs ++ w.dropped = w.accepted
  inside : w.phase.isOut = false → w.dropped = []
  outside : w.phase.isOut = true → w.stopRequested = true ∧ w.jobs = []
  /-- Whoever gave the sleeping thread something to do is about to notify it. -/
  awake : w.phase = .asleep → w.jobs ≠ [] ∨ w.stopRequested = true → w.notifying ≠ []
  started : w.started = false ↔ w.phase = .unborn
  stopping : ∀ thread, w.stopping = some thread → w.stopRequested = true
  joined : w.joined = true → w.phase = .exited

omit [DecidableEq τ] in
theorem sound_new : Sound ({} : Worker τ J) where
  accounted := rfl
  inside _ := rfl
  outside h := by cases h
  awake h := by cases h
  started := by simp
  stopping _ h := by cases h
  joined h := by cases h

variable {w w' : Worker τ J}

theorem Sound.submit (h : Sound w) {thread : τ} {job : J}
    (hstep : machine.step w (.submit thread job) = some w') : Sound w' := by
  change step w (.submit thread job) = some w' at hstep
  simp only [step] at hstep
  split_ifs at hstep with hbusy hstop
  · exact Option.some.inj hstep ▸ h
  · obtain rfl := Option.some.inj hstep
    have hin : w.phase.isOut = false := by
      by_contra hout
      exact hstop (h.outside (by simpa using hout)).1
    refine ⟨?_, fun _ => h.inside hin, fun hout => ?_, by simp, h.started, h.stopping, h.joined⟩
    · rw [← h.accounted, h.inside hin]
      simp
    · exact absurd (hout.symm.trans hin) (by simp)

theorem Sound.start (h : Sound w) {created : Bool}
    (hstep : machine.step w (.start created) = some w') : Sound w' := by
  change step w (.start created) = some w' at hstep
  simp only [step] at hstep
  split_ifs at hstep with hagain
  · exact Option.some.inj hstep ▸ h
  · obtain rfl := Option.some.inj hstep
    have hphase : w.phase = .unborn := h.started.mp (by simp_all)
    refine ⟨?_, fun _ => h.inside (by simp [hphase, ThreadPhase.isOut]), by simp [ThreadPhase.isOut],
      by simp, by simp, h.stopping, fun hjoined => ?_⟩
    · rw [← h.accounted, hphase]
      rfl
    · exact absurd (h.joined hjoined) (by simp [hphase])

theorem Sound.requestStop (h : Sound w) {thread : τ}
    (hstep : machine.step w (.requestStop thread) = some w') : Sound w' := by
  change step w (.requestStop thread) = some w' at hstep
  simp only [step] at hstep
  split_ifs at hstep
  · exact Option.some.inj hstep ▸ h
  · obtain rfl := Option.some.inj hstep
    exact ⟨h.accounted, h.inside, fun hout => ⟨rfl, (h.outside hout).2⟩, by simp, h.started,
      by simp, h.joined⟩

theorem Sound.notify (h : Sound w) {thread : τ}
    (hstep : machine.step w (.notify thread) = some w') : Sound w' := by
  change step w (.notify thread) = some w' at hstep
  simp only [step] at hstep
  split_ifs at hstep
  obtain rfl := Option.some.inj hstep
  obtain ⟨haccounted, hinside, houtside, hawake, hstarted, hstopping, hjoined⟩ := h
  cases hphase : w.phase <;> rw [hphase] at haccounted hinside houtside hstarted hjoined
  case asleep =>
    exact ⟨haccounted, hinside, houtside, by simp [ThreadPhase.notified],
      by simpa [ThreadPhase.notified] using hstarted, hstopping,
      fun hj => absurd (hjoined hj) (by simp)⟩
  all_goals
    exact ⟨haccounted, hinside, houtside, by simp [ThreadPhase.notified], hstarted, hstopping,
      hjoined⟩

theorem Sound.look (h : Sound w) (hstep : machine.step w .look = some w') : Sound w' := by
  change step w .look = some w' at hstep
  simp only [step] at hstep
  split at hstep
  · next hphase =>
      obtain rfl := Option.some.inj hstep
      have hdropped := h.inside (by simp [hphase, ThreadPhase.isOut])
      have haccounted := h.accounted
      have hstarted : w.started ≠ false := fun hnew => by simp [h.started.mp hnew] at hphase
      have hjoined : w.joined ≠ true := fun hj => by simp [h.joined hj] at hphase
      rw [hphase, hdropped] at haccounted
      rcases w.look_cases with ⟨hstop, heq⟩ | ⟨hstop, hjobs, heq⟩ | ⟨hstop, job, rest, hjobs, heq⟩
      · rw [heq]
        refine ⟨?_, by simp [ThreadPhase.isOut], fun _ => ⟨hstop, rfl⟩, by simp, by simp [hstarted],
          h.stopping, fun hj => absurd hj hjoined⟩
        simpa [ThreadPhase.current] using haccounted
      · rw [heq]
        refine ⟨?_, fun _ => hdropped, by simp [ThreadPhase.isOut], by simp [hjobs, hstop],
          by simp [hstarted], h.stopping, fun hj => absurd hj hjoined⟩
        simpa [hjobs, hdropped, ThreadPhase.current] using haccounted
      · rw [heq]
        refine ⟨?_, fun _ => hdropped, by simp [ThreadPhase.isOut], by simp, by simp [hstarted],
          h.stopping, fun hj => absurd hj hjoined⟩
        simpa [hjobs, hdropped, ThreadPhase.current] using haccounted
  · cases hstep

theorem Sound.wake (h : Sound w) (hstep : machine.step w .wake = some w') : Sound w' := by
  change step w .wake = some w' at hstep
  simp only [step] at hstep
  split at hstep
  · next hphase =>
      obtain rfl := Option.some.inj hstep
      obtain ⟨haccounted, hinside, -, -, hstarted, hstopping, hjoined⟩ := h
      rw [hphase] at haccounted hinside hstarted hjoined
      exact ⟨haccounted, hinside, by simp [ThreadPhase.isOut], by simp, by simpa using hstarted,
        hstopping, fun hj => absurd (hjoined hj) (by simp)⟩
  · cases hstep

/-- A job that throws counts as run. -/
theorem Sound.finish (h : Sound w) {threw : Bool}
    (hstep : machine.step w (.finish threw) = some w') : Sound w' := by
  change step w (.finish threw) = some w' at hstep
  simp only [step] at hstep
  split at hstep
  · next job hphase =>
      obtain rfl := Option.some.inj hstep
      obtain ⟨haccounted, hinside, -, -, hstarted, hstopping, hjoined⟩ := h
      rw [hphase] at haccounted hinside hstarted hjoined
      refine ⟨?_, hinside, by simp [ThreadPhase.isOut], by simp, by simpa using hstarted, hstopping,
        fun hj => absurd (hjoined hj) (by simp)⟩
      simpa [ThreadPhase.current] using haccounted
  · cases hstep

theorem Sound.leave (h : Sound w) (hstep : machine.step w .leave = some w') : Sound w' := by
  change step w .leave = some w' at hstep
  simp only [step] at hstep
  split at hstep
  · next hphase =>
      obtain rfl := Option.some.inj hstep
      obtain ⟨haccounted, -, houtside, -, hstarted, hstopping, -⟩ := h
      rw [hphase] at haccounted houtside hstarted
      exact ⟨haccounted, by simp [ThreadPhase.isOut], houtside, by simp, by simpa using hstarted,
        hstopping, fun _ => rfl⟩
  · cases hstep

theorem Sound.join (h : Sound w) (hstep : machine.step w .join = some w') : Sound w' := by
  change step w .join = some w' at hstep
  simp only [step] at hstep
  split at hstep
  · split_ifs at hstep with hwait
    obtain rfl := Option.some.inj hstep
    refine ⟨h.accounted, h.inside, h.outside, h.awake, h.started, by simp, fun hstarted => ?_⟩
    have hborn : w.phase ≠ .unborn := fun hphase => by simp_all [h.started.mpr hphase]
    cases hphase : w.phase <;> simp_all [ThreadPhase.gone]
  · cases hstep

theorem Sound.step (h : Sound w) {label : Label τ J} (hstep : machine.step w label = some w') :
    Sound w' := by
  cases label with
  | submit thread job => exact h.submit hstep
  | start created => exact h.start hstep
  | requestStop thread => exact h.requestStop hstep
  | notify thread => exact h.notify hstep
  | look => exact h.look hstep
  | wake => exact h.wake hstep
  | finish threw => exact h.finish hstep
  | leave => exact h.leave hstep
  | join => exact h.join hstep

theorem sound_of_run {labels : List (Label τ J)} (hrun : machine.run {} labels = some w) :
    Sound w :=
  machine.invariant_of_step (fun h hstep => h.step hstep) sound_new hrun

/-- Only a submission is accepted. -/
theorem accepted_of_step {label : Label τ J} (hstep : machine.step w label = some w') :
    w'.accepted = w.accepted ∨
      ∃ thread job, label = .submit thread job ∧ w'.accepted = w.accepted ++ [job] := by
  change step w label = some w' at hstep
  cases label with
  | submit thread job =>
      simp only [step] at hstep
      split_ifs at hstep <;> obtain rfl := Option.some.inj hstep
      · exact Or.inl rfl
      · exact Or.inr ⟨thread, job, rfl, rfl⟩
  | start | requestStop | notify =>
      simp only [step] at hstep
      split_ifs at hstep <;> obtain rfl := Option.some.inj hstep <;> exact Or.inl rfl
  | look =>
      simp only [step] at hstep
      split at hstep <;> cases hstep
      rcases w.look_cases with ⟨-, heq⟩ | ⟨-, -, heq⟩ | ⟨-, job, rest, -, heq⟩ <;> simp [heq]
  | wake | finish | leave =>
      simp only [step] at hstep
      split at hstep <;> cases hstep
      exact Or.inl rfl
  | join =>
      simp only [step] at hstep
      split at hstep
      · split_ifs at hstep
        obtain rfl := Option.some.inj hstep
        exact Or.inl rfl
      · cases hstep

/-! ## The threads come to rest -/

/-- Steps the threads take by themselves, once they are on their way. -/
def Due : Label τ J → Prop
  | .notify _ | .look | .finish _ | .leave | .join => True
  | .submit _ _ | .start _ | .requestStop _ | .wake => False

/-- Nobody is on his way: the thread sleeps with nothing to do, or there is none. -/
structure Rested (w : Worker τ J) : Prop where
  notified : w.notifying = []
  returned : w.stopping = none
  phase : w.phase = .asleep ∧ w.jobs = [] ∧ w.stopRequested = false ∨ w.phase.gone = true

/-- What is left to do where the thread is. -/
def rank : ThreadPhase J → ℕ
  | .unborn => 0
  | .looking => 2
  | .asleep => 0
  | .running _ => 3
  | .leaving => 1
  | .exited => 0

/-- What is left to do. A notification may send the thread once more to the queue. -/
def effort (w : Worker τ J) : ℕ :=
  3 * w.notifying.length + 2 * w.jobs.length + rank w.phase + if w.stopping.isSome then 1 else 0

omit [DecidableEq τ] in
theorem rank_notified_le (phase : ThreadPhase J) : rank phase.notified ≤ rank phase + 2 := by
  cases phase <;> simp [ThreadPhase.notified, rank]

theorem effort_notify {thread : τ} (hstep : machine.step w (.notify thread) = some w') :
    w'.effort < w.effort := by
  change step w (.notify thread) = some w' at hstep
  simp only [step] at hstep
  split_ifs at hstep with hthread
  obtain rfl := Option.some.inj hstep
  have hlength := List.length_erase_of_mem hthread
  have hpos := List.length_pos_of_mem hthread
  have hrank := rank_notified_le w.phase
  simp only [effort]
  omega

theorem effort_look (hstep : machine.step w .look = some w') : w'.effort < w.effort := by
  change step w .look = some w' at hstep
  simp only [step] at hstep
  split at hstep
  · next hphase =>
      obtain rfl := Option.some.inj hstep
      rcases w.look_cases with ⟨-, heq⟩ | ⟨-, hjobs, heq⟩ | ⟨-, job, rest, hjobs, heq⟩
      · rw [heq]
        simp only [effort, hphase, rank, List.length_nil]
        omega
      · rw [heq]
        simp [effort, hphase, hjobs, rank]
      · rw [heq]
        simp only [effort, hphase, hjobs, rank, List.length_cons]
        omega
  · cases hstep

theorem lowers_effort : machine.Lowers (Sound (τ := τ) (J := J)) Due effort where
  keeps h _ hstep := h.step hstep
  lower {w label w'} _ hdue hstep := by
    cases label with
    | notify thread => exact effort_notify hstep
    | look => exact effort_look hstep
    | finish threw =>
        change step w (.finish threw) = some w' at hstep
        simp only [step] at hstep
        split at hstep
        · next job hphase =>
            obtain rfl := Option.some.inj hstep
            simp [effort, hphase, rank]
        · cases hstep
    | leave =>
        change step w .leave = some w' at hstep
        simp only [step] at hstep
        split at hstep
        · next hphase =>
            obtain rfl := Option.some.inj hstep
            simp only [effort, hphase, rank]
            omega
        · cases hstep
    | join =>
        change step w .join = some w' at hstep
        simp only [step] at hstep
        split at hstep
        · next thread hstopping =>
            split_ifs at hstep
            obtain rfl := Option.some.inj hstep
            simp [effort, hstopping]
        · cases hstep
    | submit | start | requestStop | wake => exact hdue.elim

/-- What is due starts nothing and orders no stop. -/
theorem flags_of_due {labels : List (Label τ J)} (hdue : ∀ label ∈ labels, Due label)
    (hrun : machine.run w labels = some w') :
    w'.started = w.started ∧ w'.stopRequested = w.stopRequested := by
  induction labels generalizing w with
  | nil =>
      rw [Machine.run_nil, Option.some.injEq] at hrun
      simp [hrun]
  | cons label labels ih =>
      obtain ⟨next, hnext, hrest⟩ := machine.run_cons_eq_some.mp hrun
      obtain ⟨hstarted, hstop⟩ :=
        ih (fun other hother => hdue other (List.mem_cons_of_mem _ hother)) hrest
      rw [hstarted, hstop]
      change step w label = some next at hnext
      have hlabel := hdue label List.mem_cons_self
      cases label with
      | submit | start | requestStop | wake => exact hlabel.elim
      | notify thread =>
          simp only [step] at hnext
          split_ifs at hnext
          cases hnext
          exact ⟨rfl, rfl⟩
      | look =>
          simp only [step] at hnext
          split at hnext <;> cases hnext
          rcases w.look_cases with ⟨-, heq⟩ | ⟨-, -, heq⟩ | ⟨-, job, rest, -, heq⟩ <;> simp [heq]
      | finish | leave =>
          simp only [step] at hnext
          split at hnext <;> cases hnext
          exact ⟨rfl, rfl⟩
      | join =>
          simp only [step] at hnext
          split at hnext
          · split_ifs at hnext
            cases hnext
            exact ⟨rfl, rfl⟩
          · cases hnext

private theorem exists_due_of_isSome (label : Label τ J) (hdue : Due label)
    (henabled : (step w label).isSome = true) :
    ∃ label w', Due label ∧ machine.step w label = some w' := by
  obtain ⟨w', hstep⟩ := Option.isSome_iff_exists.mp henabled
  exact ⟨label, w', hdue, hstep⟩

/-- Where the threads are not at rest, one of them can go on. -/
theorem Sound.exists_due (h : Sound w) (hrest : ¬ Rested w) :
    ∃ label w', Due label ∧ machine.step w label = some w' := by
  cases hnotifying : w.notifying with
  | cons thread rest =>
      exact exists_due_of_isSome (.notify thread) trivial (by simp [Worker.step, hnotifying])
  | nil =>
      have hjoin (hgone : w.phase.gone = true) :
          ∃ label w', Due label ∧ machine.step w label = some w' := by
        cases hstopping : w.stopping with
        | none => exact absurd ⟨hnotifying, hstopping, Or.inr hgone⟩ hrest
        | some thread =>
            exact exists_due_of_isSome .join trivial
              (by simp [Worker.step, hstopping, hnotifying, hgone])
      cases hphase : w.phase with
      | unborn | exited => exact hjoin (by simp [hphase, ThreadPhase.gone])
      | looking => exact exists_due_of_isSome .look trivial (by simp [Worker.step, hphase])
      | running job =>
          exact exists_due_of_isSome (.finish false) trivial (by simp [Worker.step, hphase])
      | leaving => exact exists_due_of_isSome .leave trivial (by simp [Worker.step, hphase])
      | asleep =>
          -- It has not been called, so this is rest.
          have hidle : ¬ (w.jobs ≠ [] ∨ w.stopRequested = true) :=
            fun hcalled => h.awake hphase hcalled hnotifying
          push Not at hidle
          have hreturned : w.stopping = none := by
            cases hstopping : w.stopping with
            | none => rfl
            | some thread => exact absurd (h.stopping thread hstopping) hidle.2
          exact absurd ⟨hnotifying, hreturned, Or.inl ⟨hphase, hidle.1, by simpa using hidle.2⟩⟩ hrest

/-- **The threads come to rest.** Left to themselves they take no more steps than there is to
do, in whatever order, and some order of steps brings them to rest. -/
theorem Sound.settles (h : Sound w) :
    (∀ labels final, (∀ label ∈ labels, Due label) → machine.run w labels = some final →
      labels.length ≤ w.effort) ∧
    ∃ labels final, (∀ label ∈ labels, Due label) ∧ machine.run w labels = some final ∧
      Sound final ∧ Rested final := by
  refine ⟨fun labels final hdue hrun => ?_, lowers_effort.exists_run Sound.exists_due h⟩
  exact Nat.le_trans (Nat.le_add_right _ _) (lowers_effort.length_le h hdue hrun)

/-! ## The worker is a queue -/

/-- What is seen of the worker: jobs that will be dropped are gone with the order to stop. -/
def view (w : Worker τ J) : JobQueue J where
  queue := if w.stopRequested then [] else w.jobs
  current := w.phase.current
  stopped := w.stopRequested

/-- The steps that can be seen. -/
def seen (w : Worker τ J) : Label τ J → List (JobQueue.Label J)
  | .submit _ job => [.submit job]
  | .requestStop _ => [.stop]
  | .look => if w.stopRequested = false ∧ w.jobs ≠ [] then [.take] else []
  | .finish _ => [.finish]
  | .start _ | .notify _ | .wake | .leave | .join => []

omit [DecidableEq τ] in
theorem view_look (hphase : w.phase = .looking) :
    JobQueue.machine.run w.view (seen w .look) = some w.look.view := by
  rcases w.look_cases with ⟨hstop, heq⟩ | ⟨hstop, hjobs, heq⟩ | ⟨hstop, job, rest, hjobs, heq⟩
  · simp [heq, seen, view, hphase, hstop, ThreadPhase.current]
  · simp [heq, seen, view, hphase, hstop, hjobs, ThreadPhase.current]
  · simp [heq, seen, view, hphase, hstop, hjobs, ThreadPhase.current, Machine.run,
      JobQueue.machine, JobQueue.step]

/-- **The worker is a queue**: every interleaving of the threads is seen as a run of one. -/
theorem simulates_view :
    Machine.Simulates (machine (τ := τ) (J := J)) JobQueue.machine (fun w => Sound w) view seen where
  keeps h hstep := h.step hstep
  step {w label w'} h hstep := by
    cases label with
    | submit thread job =>
        change step w (.submit thread job) = some w' at hstep
        simp only [step] at hstep
        split_ifs at hstep with hbusy hstop <;> obtain rfl := Option.some.inj hstep <;>
          simp [Machine.run, JobQueue.machine, JobQueue.step, view, seen, hstop]
    | start created =>
        change step w (.start created) = some w' at hstep
        simp only [step] at hstep
        split_ifs at hstep with hagain <;> obtain rfl := Option.some.inj hstep
        · rfl
        · have hphase : w.phase = .unborn := h.started.mp (by simp_all)
          simp [view, seen, hphase, ThreadPhase.current]
    | requestStop thread =>
        change step w (.requestStop thread) = some w' at hstep
        simp only [step] at hstep
        split_ifs at hstep with hbusy hstop <;> obtain rfl := Option.some.inj hstep <;>
          simp [Machine.run, JobQueue.machine, JobQueue.step, view, seen, hstop]
    | notify thread =>
        change step w (.notify thread) = some w' at hstep
        simp only [step] at hstep
        split_ifs at hstep
        obtain rfl := Option.some.inj hstep
        cases hphase : w.phase <;> simp [view, seen, hphase, ThreadPhase.notified, ThreadPhase.current]
    | look =>
        change step w .look = some w' at hstep
        simp only [step] at hstep
        split at hstep
        · next hphase =>
            obtain rfl := Option.some.inj hstep
            exact view_look hphase
        · cases hstep
    | finish threw =>
        change step w (.finish threw) = some w' at hstep
        simp only [step] at hstep
        split at hstep
        · next job hphase =>
            obtain rfl := Option.some.inj hstep
            simp [Machine.run, JobQueue.machine, JobQueue.step, view, seen, hphase,
              ThreadPhase.current]
        · cases hstep
    | wake | leave =>
        simp only [machine, step] at hstep
        split at hstep
        · next hphase =>
            obtain rfl := Option.some.inj hstep
            simp [view, seen, hphase, ThreadPhase.current]
        · cases hstep
    | join =>
        change step w .join = some w' at hstep
        simp only [step] at hstep
        split at hstep
        · split_ifs at hstep
          obtain rfl := Option.some.inj hstep
          rfl
        · cases hstep

end Worker

end CecControl.Lib
