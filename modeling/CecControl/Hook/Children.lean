/-
# The children of the daemon

A script that has ended stays a zombie until the daemon waits for it. The kernel says so with
`SIGCHLD`, which is blocked in every thread and read from a descriptor; a signal that is pending
is not queued a second time, so one may stand for many children. The handler therefore waits for
all that have ended, one after the other, until there are none.

A child may end at any moment, also between the handler's last `waitpid` and its next read. What
keeps the zombies from piling up is the order of the handler's actions: the signal is taken
before the children are waited for, so that a child it misses has raised the signal anew.
-/

import CecControl.Hook.HookExecutor
import CecControl.Lib.Progress

namespace CecControl

open Lib

/-- The signals that are read from the descriptor. -/
inductive Signal
  | sigint
  | sigterm
  | sighup
  | sigchld
  deriving DecidableEq, Repr

/-- Where the main thread is in `onSignalReadable`. -/
inductive SignalPhase
  | outside
  /-- About to read a signal. -/
  | reading
  /-- In `reapChildren`, about to wait. -/
  | reaping
  deriving DecidableEq, Repr

structure HookProcesses where
  scripts : HookScripts
  /-- Children by their process ids. -/
  running : List ℕ := []
  zombies : List ℕ := []
  reaped : List ℕ := []
  pending : List Signal := []
  phase : SignalPhase := .outside
  /-- The loop has been told to stop. -/
  stopRequested : Bool := false
  /-- `requestUnrecoverableShutdown` has been called. -/
  unrecoverable : Bool := false
  /-- Every signal raised, also when it was pending already. -/
  raised : List Signal := []

namespace HookProcesses

inductive Label
  | scripts (label : HookScripts.Label)
  /-- A child ends. -/
  | exit (pid : ℕ)
  /-- A signal is sent from elsewhere. -/
  | raise (signal : Signal)
  /-- The loop finds the descriptor readable. -/
  | readable
  /-- A read answers a pending signal, or that there is none. -/
  | readOne (signal : Option Signal)
  | readFails
  /-- `waitpid(-1, WNOHANG)` answers a child that has ended, as long as there is one. -/
  | waitpid (pid : Option ℕ)
  | requestUnrecoverableShutdown
  deriving Repr

/-- What the main thread does, and cannot do in its signal handler. -/
def onMainThread : HookScripts.Label → Bool
  | .subsystem _ => true
  | .executor (.submit _) => true
  | .executor (.start _) => true
  | .executor .stop => true
  | .executor .notify => true
  | .executor .join => true
  | .executor _ => false

def sendSignal (p : HookProcesses) (signal : Signal) : HookProcesses :=
  { p with
    pending := if signal ∈ p.pending then p.pending else p.pending ++ [signal]
    raised := p.raised ++ [signal] }

/-- What `readOne` has answered is handled. -/
def onSignal (p : HookProcesses) : Option Signal → Option HookProcesses
  | some .sigchld =>
      if .sigchld ∈ p.pending then
        some { p with pending := p.pending.erase .sigchld, phase := .reaping }
      else none
  | some signal =>
      if signal ∈ p.pending then
        some { p with pending := p.pending.erase signal, stopRequested := true }
      else none
  | none => if p.pending = [] then some { p with phase := .outside } else none

/-- The body of the loop in `reapChildren`, which is left at any answer that is no process id.
A `waitpid` that fails over a child that has ended is not modelled: with `WNOHANG` there is
nothing to interrupt, and the only failure is that there are no children. -/
def reap (p : HookProcesses) : Option ℕ → Option HookProcesses
  | some pid =>
      if pid ∈ p.zombies then
        some { p with zombies := p.zombies.erase pid, reaped := p.reaped ++ [pid] }
      else none
  | none => if p.zombies = [] then some { p with phase := .reading } else none

/-- A new process does not get the id of one that is there. -/
def step (p : HookProcesses) : Label → Option HookProcesses
  | .scripts label =>
      if onMainThread label = true ∧ p.phase ≠ .outside then none
      else
        (p.scripts.step label).bind fun scripts =>
          let started := (scripts.executor.children.drop p.scripts.executor.children.length).map
            Child.pid
          if ∀ pid ∈ started, pid ∉ p.running ∧ pid ∉ p.zombies then
            some { p with scripts := scripts, running := p.running ++ started }
          else none
  | .exit pid =>
      if pid ∈ p.running then
        some (sendSignal
          { p with running := p.running.erase pid, zombies := p.zombies ++ [pid] } .sigchld)
      else none
  | .raise signal => some (p.sendSignal signal)
  | .readable =>
      if p.phase = .outside ∧ p.pending ≠ [] ∧ p.stopRequested = false then
        some { p with phase := .reading }
      else none
  | .readOne signal => if p.phase = .reading then p.onSignal signal else none
  | .readFails => if p.phase = .reading then some { p with phase := .outside } else none
  | .waitpid pid => if p.phase = .reaping then p.reap pid else none
  | .requestUnrecoverableShutdown => some { p with stopRequested := true, unrecoverable := true }

def machine : Machine HookProcesses Label where
  step := step

/-! ## No child is forgotten -/

/-- The process ids of the children started. -/
def started (p : HookProcesses) : List ℕ := p.scripts.executor.children.map Child.pid

/-- What holds whoever moves. -/
structure Kept (config : HooksConfig) (p : HookProcesses) : Prop where
  scripts : p.scripts.Handed config
  accounted : p.started.Perm (p.running ++ p.zombies ++ p.reaped)
  distinct : (p.running ++ p.zombies).Nodup
  /-- A zombie will be waited for. -/
  noticed : p.zombies ≠ [] → .sigchld ∈ p.pending ∨ p.phase = .reaping
  received : ∀ signal ∈ p.pending, signal ∈ p.raised
  stopped : p.stopRequested = true →
    p.unrecoverable = true ∨ ∃ signal ∈ p.raised, signal ≠ .sigchld

end HookProcesses

namespace HookExecutor

variable {e e' : HookExecutor}

/-- At most one process is started in a step. -/
theorem children_of_step {label : Label} (hstep : e.step label = some e') :
    ∃ child : Option Child, e'.children = e.children ++ child.toList := by
  unfold HookExecutor.step at hstep
  split_ifs at hstep
  · exact ⟨none, by rw [Option.some.inj hstep]; simp⟩
  · obtain ⟨worker, -, rfl⟩ := Option.map_eq_some_iff.mp hstep
    unfold children
    rw [List.filterMap_append]
    cases label with
    | finish calls =>
        cases hcurrent : e.worker.phase.current with
        | none => exact ⟨none, by simp [spawned, hcurrent]⟩
        | some job =>
            refine ⟨spawnOne job calls, ?_⟩
            cases hspawn : spawnOne job calls <;> simp [spawned, hcurrent, hspawn]
    | _ => exact ⟨none, by simp [spawned]⟩

/-- What is submitted is not spawned at once. -/
theorem children_of_submitted {jobs : List HookJob}
    (hrun : machine.run e (jobs.map .submit) = some e') : e'.children = e.children := by
  induction jobs generalizing e with
  | nil =>
      rw [List.map_nil, Machine.run_nil, Option.some.injEq] at hrun
      rw [hrun]
  | cons job jobs ih =>
      obtain ⟨next, hnext, hrest⟩ := machine.run_cons_eq_some.mp hrun
      rw [ih hrest]
      change e.step (.submit job) = some next at hnext
      unfold HookExecutor.step at hnext
      split_ifs at hnext
      · rw [Option.some.inj hnext]
      · obtain ⟨worker, -, rfl⟩ := Option.map_eq_some_iff.mp hnext
        simp [children, spawned]

end HookExecutor

namespace HookScripts

theorem children_of_step {s s' : HookScripts} {label : Label} (hstep : s.step label = some s') :
    ∃ child : Option Child, s'.executor.children = s.executor.children ++ child.toList := by
  cases label with
  | subsystem label =>
      simp only [HookScripts.step] at hstep
      split_ifs at hstep
      obtain ⟨subsystem, -, hrest⟩ := Option.bind_eq_some_iff.mp hstep
      obtain ⟨executor, hexecutor, rfl⟩ := Option.map_eq_some_iff.mp hrest
      exact ⟨none, by simp [HookExecutor.children_of_submitted hexecutor]⟩
  | executor label =>
      have hexecutor : (s.executor.step label).map (fun executor => { s with executor := executor }) =
          some s' := by cases label <;> first | exact hstep | cases hstep
      obtain ⟨executor, hnext, rfl⟩ := Option.map_eq_some_iff.mp hexecutor
      exact HookExecutor.children_of_step hnext

end HookScripts

namespace HookProcesses

variable {config : HooksConfig} {p p' : HookProcesses}

theorem kept_start (config : HooksConfig) (process : ProcessInfo) :
    Kept config { scripts := HookScripts.start config process } where
  scripts := HookScripts.handed_start config process
  accounted := List.Perm.refl _
  distinct := List.nodup_nil
  noticed h := absurd rfl h
  received _ h := by cases h
  stopped h := by cases h

theorem Kept.scripts_step (h : Kept config p) {label : HookScripts.Label}
    (hstep : machine.step p (.scripts label) = some p') : Kept config p' := by
  change step p (.scripts label) = some p' at hstep
  simp only [step] at hstep
  split_ifs at hstep
  obtain ⟨scripts, hscripts, hrest⟩ := Option.bind_eq_some_iff.mp hstep
  obtain ⟨child, hchildren⟩ := HookScripts.children_of_step hscripts
  rw [hchildren, List.drop_left] at hrest
  split_ifs at hrest with hfresh
  obtain rfl := Option.some.inj hrest
  have hstarted : ((child.toList).map Child.pid).Nodup := by cases child <;> simp
  refine ⟨h.scripts.step hscripts, ?_, ?_, h.noticed, h.received, h.stopped⟩
  · have heq : started { p with
        scripts := scripts, running := p.running ++ child.toList.map Child.pid } =
        p.started ++ child.toList.map Child.pid := by simp [started, hchildren]
    rw [heq]
    refine (h.accounted.append_right _).trans ?_
    simp only [List.append_assoc]
    refine List.Perm.append_left _ ?_
    rw [← List.append_assoc]
    exact List.perm_append_comm
  · have hdistinct := h.distinct
    rw [List.nodup_append] at hdistinct ⊢
    rw [List.nodup_append]
    refine ⟨⟨hdistinct.1, hstarted, fun pid hpid other hother heq => ?_⟩, hdistinct.2.1,
      fun pid hpid other hother heq => ?_⟩
    · exact (hfresh other hother).1 (heq ▸ hpid)
    · rcases List.mem_append.mp hpid with hold | hnew
      · exact hdistinct.2.2 pid hold other hother heq
      · exact (hfresh pid hnew).2 (heq ▸ hother)

/-- A signal only adds to what is pending. -/
theorem Kept.sendSignal (h : Kept config p) (signal : Signal) : Kept config (p.sendSignal signal) := by
  have hpending : ∀ other ∈ p.pending, other ∈ (p.sendSignal signal).pending := by
    intro other hother
    unfold HookProcesses.sendSignal
    dsimp only
    split_ifs
    · exact hother
    · exact List.mem_append_left _ hother
  refine ⟨h.scripts, h.accounted, h.distinct, fun hzombies => ?_, fun other hother => ?_,
    fun hstop => ?_⟩
  · exact (h.noticed hzombies).imp_left (hpending _)
  · unfold HookProcesses.sendSignal at hother ⊢
    dsimp only at hother ⊢
    rw [List.mem_append]
    split_ifs at hother
    · exact Or.inl (h.received other hother)
    · exact (List.mem_append.mp hother).imp_left (h.received other)
  · refine (h.stopped hstop).imp_right ?_
    rintro ⟨other, hother, hne⟩
    exact ⟨other, List.mem_append_left _ hother, hne⟩

/-- The signal is raised once the child has become a zombie. -/
theorem Kept.exit (h : Kept config p) {pid : ℕ}
    (hstep : machine.step p (.exit pid) = some p') : Kept config p' := by
  change step p (.exit pid) = some p' at hstep
  simp only [step] at hstep
  split_ifs at hstep with hrunning
  obtain rfl := Option.some.inj hstep
  have hmoved : (p.running.erase pid ++ (p.zombies ++ [pid])).Perm (p.running ++ p.zombies) := by
    rw [← List.append_assoc]
    refine List.perm_append_singleton _ _ |>.trans ?_
    exact ((List.perm_cons_erase hrunning).append_right _).symm
  refine ⟨h.scripts, ?_, hmoved.nodup_iff.mpr h.distinct, fun _ => Or.inl ?_, ?_, ?_⟩
  · exact h.accounted.trans (hmoved.symm.append_right _)
  · unfold HookProcesses.sendSignal
    dsimp only
    split_ifs with hpending
    · exact hpending
    · exact List.mem_append_right _ List.mem_cons_self
  · exact (h.sendSignal .sigchld).received
  · exact (h.sendSignal .sigchld).stopped

theorem Kept.readOne (h : Kept config p) {signal : Option Signal}
    (hstep : machine.step p (.readOne signal) = some p') : Kept config p' := by
  change step p (.readOne signal) = some p' at hstep
  simp only [step] at hstep
  split_ifs at hstep with hphase
  have hnoticed : p.zombies ≠ [] → .sigchld ∈ p.pending := fun hzombies =>
    (h.noticed hzombies).resolve_right (by simp [hphase])
  -- A shutdown signal leaves the one that announces the zombies alone.
  have hother {signal : Signal} (hne : signal ≠ .sigchld) (hpending : signal ∈ p.pending) :
      Kept config { p with pending := p.pending.erase signal, stopRequested := true } := by
    refine ⟨h.scripts, h.accounted, h.distinct, fun hzombies => Or.inl ?_, fun other hmem => ?_,
      fun _ => Or.inr ⟨signal, h.received signal hpending, hne⟩⟩
    · exact (List.mem_erase_of_ne hne.symm).mpr (hnoticed hzombies)
    · exact h.received other (List.mem_of_mem_erase hmem)
  cases signal with
  | none =>
      simp only [onSignal] at hstep
      split_ifs at hstep with hpending
      obtain rfl := Option.some.inj hstep
      exact ⟨h.scripts, h.accounted, h.distinct, fun hzombies => Or.inl (hnoticed hzombies),
        h.received, h.stopped⟩
  | some signal =>
      cases signal with
      | sigchld =>
          simp only [onSignal] at hstep
          split_ifs at hstep
          obtain rfl := Option.some.inj hstep
          exact ⟨h.scripts, h.accounted, h.distinct, fun _ => Or.inr rfl,
            fun other hmem => h.received other (List.mem_of_mem_erase hmem), h.stopped⟩
      | sigint | sigterm | sighup =>
          simp only [onSignal] at hstep
          split_ifs at hstep with hpending
          obtain rfl := Option.some.inj hstep
          exact hother (by decide) hpending

/-- The handler leaves `reapChildren` with no zombie left. -/
theorem Kept.waitpid (h : Kept config p) {pid : Option ℕ}
    (hstep : machine.step p (.waitpid pid) = some p') : Kept config p' := by
  change step p (.waitpid pid) = some p' at hstep
  simp only [step] at hstep
  split_ifs at hstep with hphase
  cases pid with
  | none =>
      simp only [reap] at hstep
      split_ifs at hstep with hzombies
      obtain rfl := Option.some.inj hstep
      exact ⟨h.scripts, h.accounted, h.distinct, fun hsome => absurd hzombies hsome, h.received,
        h.stopped⟩
  | some pid =>
      simp only [reap] at hstep
      split_ifs at hstep with hpid
      obtain rfl := Option.some.inj hstep
      have htaken : (p.running ++ p.zombies).Perm (pid :: (p.running ++ p.zombies.erase pid)) :=
        ((List.perm_cons_erase hpid).append_left _).trans List.perm_middle
      refine ⟨h.scripts, ?_, ?_, fun _ => Or.inr hphase, h.received, h.stopped⟩
      · refine h.accounted.trans ?_
        refine (htaken.append_right _).trans ?_
        rw [← List.append_assoc]
        exact (List.perm_append_singleton _ _).symm
      · exact (List.nodup_cons.mp (htaken.nodup_iff.mp h.distinct)).2

theorem Kept.step (h : Kept config p) {label : Label} (hstep : machine.step p label = some p') :
    Kept config p' := by
  cases label with
  | scripts label => exact h.scripts_step hstep
  | exit pid => exact h.exit hstep
  | raise signal =>
      obtain rfl := Option.some.inj hstep
      exact h.sendSignal signal
  | readable =>
      change HookProcesses.step p .readable = some p' at hstep
      simp only [HookProcesses.step] at hstep
      split_ifs at hstep with hopen
      obtain rfl := Option.some.inj hstep
      refine ⟨h.scripts, h.accounted, h.distinct, fun hzombies => Or.inl ?_, h.received, h.stopped⟩
      exact (h.noticed hzombies).resolve_right (by simp [hopen.1])
  | readOne signal => exact h.readOne hstep
  | readFails =>
      change HookProcesses.step p .readFails = some p' at hstep
      simp only [HookProcesses.step] at hstep
      split_ifs at hstep with hphase
      obtain rfl := Option.some.inj hstep
      refine ⟨h.scripts, h.accounted, h.distinct, fun hzombies => Or.inl ?_, h.received, h.stopped⟩
      exact (h.noticed hzombies).resolve_right (by simp [hphase])
  | waitpid pid => exact h.waitpid hstep
  | requestUnrecoverableShutdown =>
      obtain rfl := Option.some.inj hstep
      exact ⟨h.scripts, h.accounted, h.distinct, h.noticed, h.received, fun _ => Or.inl rfl⟩

/-! ## The zombies are waited for -/

/-- What the main thread does by itself once the descriptor is readable. -/
def Due : Label → Prop
  | .readable | .readOne _ | .waitpid _ => True
  | .scripts _ | .exit _ | .raise _ | .readFails | .requestUnrecoverableShutdown => False

/-- The main thread has nothing to do, or will not be called again. -/
def Rested (p : HookProcesses) : Prop :=
  p.phase = .outside ∧ (p.pending = [] ∨ p.stopRequested = true)

def rank (p : HookProcesses) : ℕ :=
  match p.phase with
  | .outside => if p.pending = [] then 0 else 2
  | .reading => 1
  | .reaping => 2

/-- What is left to do. A signal leads to the children and back. -/
def effort (p : HookProcesses) : ℕ := 3 * p.pending.length + p.zombies.length + p.rank

theorem lowers_effort : machine.Lowers (Kept config) Due effort where
  keeps h _ hstep := h.step hstep
  lower {p label p'} _ hdue hstep := by
    change step p label = some p' at hstep
    cases label with
    | readable =>
        simp only [step] at hstep
        split_ifs at hstep with hopen
        obtain rfl := Option.some.inj hstep
        simp [effort, rank, hopen.1, hopen.2.1]
    | readOne signal =>
        simp only [step] at hstep
        split_ifs at hstep with hphase
        have hlower {signal : Signal} (hpending : signal ∈ p.pending) :
            3 * (p.pending.erase signal).length + 2 < 3 * p.pending.length + 1 := by
          have hlength := List.length_erase_of_mem hpending
          have hpos := List.length_pos_of_mem hpending
          omega
        cases signal with
        | none =>
            simp only [onSignal] at hstep
            split_ifs at hstep with hpending
            obtain rfl := Option.some.inj hstep
            simp [effort, rank, hphase, hpending]
        | some signal =>
            cases signal <;> simp only [onSignal] at hstep <;> split_ifs at hstep with hpending <;>
              obtain rfl := Option.some.inj hstep <;> have hless := hlower hpending <;>
              simp only [effort, rank, hphase] <;> omega
    | waitpid pid =>
        simp only [step] at hstep
        split_ifs at hstep with hphase
        cases pid with
        | none =>
            simp only [reap] at hstep
            split_ifs at hstep with hzombies
            obtain rfl := Option.some.inj hstep
            simp [effort, rank, hphase]
        | some pid =>
            simp only [reap] at hstep
            split_ifs at hstep with hpid
            obtain rfl := Option.some.inj hstep
            have hlength := List.length_erase_of_mem hpid
            have hpos := List.length_pos_of_mem hpid
            simp only [effort, rank, hphase]
            omega
    | scripts | exit | raise | readFails | requestUnrecoverableShutdown => exact hdue.elim

theorem exists_due (hrest : ¬ Rested p) :
    ∃ label p', Due label ∧ machine.step p label = some p' := by
  have hgo (label : Label) (hdue : Due label) (henabled : (step p label).isSome = true) :
      ∃ label p', Due label ∧ machine.step p label = some p' := by
    obtain ⟨p', hstep⟩ := Option.isSome_iff_exists.mp henabled
    exact ⟨label, p', hdue, hstep⟩
  cases hphase : p.phase with
  | outside =>
      simp only [Rested, hphase, true_and, not_or] at hrest
      exact hgo .readable trivial (by simp [step, hphase, hrest.1, hrest.2])
  | reading =>
      cases hpending : p.pending with
      | nil => exact hgo (.readOne none) trivial (by simp [step, onSignal, hphase, hpending])
      | cons signal rest =>
          refine hgo (.readOne (some signal)) trivial ?_
          cases signal <;> simp [step, onSignal, hphase, hpending]
  | reaping =>
      cases hzombies : p.zombies with
      | nil => exact hgo (.waitpid none) trivial (by simp [step, reap, hphase, hzombies])
      | cons pid rest => exact hgo (.waitpid (some pid)) trivial (by simp [step, reap, hphase, hzombies])

theorem running_of_due {labels : List Label} (hdue : ∀ label ∈ labels, Due label)
    (hrun : machine.run p labels = some p') : p'.running = p.running := by
  induction labels generalizing p with
  | nil =>
      rw [Machine.run_nil, Option.some.injEq] at hrun
      rw [hrun]
  | cons label labels ih =>
      obtain ⟨next, hnext, hrest⟩ := machine.run_cons_eq_some.mp hrun
      rw [ih (fun other hother => hdue other (List.mem_cons_of_mem _ hother)) hrest]
      have hlabel := hdue label List.mem_cons_self
      change step p label = some next at hnext
      cases label with
      | readable =>
          simp only [step] at hnext
          split_ifs at hnext
          rw [← Option.some.inj hnext]
      | readOne signal =>
          simp only [step] at hnext
          split_ifs at hnext
          cases signal with
          | none =>
              simp only [onSignal] at hnext
              split_ifs at hnext
              rw [← Option.some.inj hnext]
          | some signal =>
              cases signal <;> simp only [onSignal] at hnext <;> split_ifs at hnext <;>
                rw [← Option.some.inj hnext]
      | waitpid pid =>
          simp only [step] at hnext
          split_ifs at hnext
          cases pid <;> simp only [reap] at hnext <;> split_ifs at hnext <;> rw [← Option.some.inj hnext]
      | scripts | exit | raise | readFails | requestUnrecoverableShutdown => exact hlabel.elim

/-- Children are waited for, once each. -/
structure WaitedFor (p : HookProcesses) : Prop where
  /-- A child that was started runs, is a zombie, or has been waited for. -/
  accounted : (p.scripts.executor.children.map Child.pid).Perm (p.running ++ p.zombies ++ p.reaped)
  distinct : (p.running ++ p.zombies).Nodup
  /-- Outside its handler the main thread will be called for a zombie. -/
  noticed : p.phase = .outside → p.zombies ≠ [] → .sigchld ∈ p.pending
  /-- The end of a child does not stop the loop. -/
  stopped : p.stopRequested = true →
    p.unrecoverable = true ∨ ∃ signal ∈ p.raised, signal ≠ .sigchld
  bounded : ∀ labels final, (∀ label ∈ labels, Due label) → machine.run p labels = some final →
    labels.length ≤ p.effort
  /-- Left to itself, a loop that goes on waits for all that have ended, and for no other. -/
  rests : ∃ labels final, (∀ label ∈ labels, Due label) ∧ machine.run p labels = some final ∧
    final.running = p.running ∧ Rested final ∧ (final.stopRequested = false → final.zombies = [])

/-- **No child is forgotten.** Whenever children end, signals are raised and merged, and reads of
the descriptor fail: at any point between two actions of the main thread. -/
theorem children_waited_for {process : ProcessInfo} {labels : List Label}
    (hrun : machine.run { scripts := HookScripts.start config process } labels = some p) :
    WaitedFor p := by
  have h : Kept config p :=
    machine.invariant_of_step (fun h hstep => h.step hstep) (kept_start config process) hrun
  refine ⟨h.accounted, h.distinct, fun houtside hzombies => ?_, h.stopped, ?_, ?_⟩
  · exact (h.noticed hzombies).resolve_right (by simp [houtside])
  · intro due final hdue hfinal
    exact Nat.le_trans (Nat.le_add_right _ _) (lowers_effort.length_le h hdue hfinal)
  · obtain ⟨due, final, hdue, hfinal, hkept, hrested⟩ :=
      lowers_effort.exists_run (fun _ hrest => exists_due hrest) h
    refine ⟨due, final, hdue, hfinal, running_of_due hdue hfinal, hrested, fun hopen => ?_⟩
    have hpending : final.pending = [] := hrested.2.resolve_right (by simp [hopen])
    by_contra hzombies
    rcases hkept.noticed hzombies with hmem | hreaping
    · simp [hpending] at hmem
    · simp [hrested.1] at hreaping

/-- Two scripts end and are announced by one signal, and the second after it has been taken. -/
theorem children_waited_for_two :
    ∃ p : HookProcesses, machine.run
        { scripts := HookScripts.start { tvStandby := "/off", tvWake := "/on" } {} }
        [.scripts (.executor (.start true)),
          .scripts (.subsystem (.observe { kind := .tvStandby } true "")), .scripts (.executor .notify),
          .scripts (.subsystem (.observe { kind := .tvPowerReport, power := 0 } true "")),
          .scripts (.executor .look), .scripts (.executor (.finish { pid := some 7 })),
          .scripts (.executor .look), .scripts (.executor (.finish { pid := some 8 })),
          .exit 7, .readable, .readOne (some .sigchld), .waitpid (some 7), .exit 8,
          .raise .sigterm, .waitpid (some 8), .waitpid none, .readOne (some .sigterm)] = some p ∧
      (p.started, p.zombies, p.reaped, p.pending) = ([7, 8], [], [7, 8], [.sigchld]) ∧
      WaitedFor p := by
  have hreached : (machine.run
      { scripts := HookScripts.start { tvStandby := "/off", tvWake := "/on" } {} }
      [.scripts (.executor (.start true)),
        .scripts (.subsystem (.observe { kind := .tvStandby } true "")), .scripts (.executor .notify),
        .scripts (.subsystem (.observe { kind := .tvPowerReport, power := 0 } true "")),
        .scripts (.executor .look), .scripts (.executor (.finish { pid := some 7 })),
        .scripts (.executor .look), .scripts (.executor (.finish { pid := some 8 })),
        .exit 7, .readable, .readOne (some .sigchld), .waitpid (some 7), .exit 8,
        .raise .sigterm, .waitpid (some 8), .waitpid none, .readOne (some .sigterm)]).map
      (fun p => (p.started, p.zombies, p.reaped, p.pending)) =
      some ([7, 8], [], [7, 8], [.sigchld]) := by decide
  obtain ⟨p, hrun, hsame⟩ := Option.map_eq_some_iff.mp hreached
  exact ⟨p, hrun, hsame, children_waited_for hrun⟩

end HookProcesses

end CecControl
