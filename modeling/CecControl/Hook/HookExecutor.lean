/-
# From the configuration file to a running script

The hook subsystem hands the scripts of its fires to an executor, a second instance of the worker
of the library, whose thread spawns them one at a time. A spawn is a sequence of calls, and each
of them may fail; a script whose spawn fails is not tried again.

Subsystem and executor are put together here. The main thread makes the fires, and between
putting a script into the queue and waking the executor's thread it may be overtaken by that
thread. What is to be shown is that scripts are started for the fires that have one, in their
order and once each, and how they are started: from an absolute path, whatever the configuration
file says.
-/

import CecControl.Daemon.AppConfig
import CecControl.Lib.Worker

namespace CecControl

open Lib

/-! ## Spawning -/

/-- What C makes of a string: it ends at the first null byte. -/
def cString (s : String) : String := String.ofList (s.toList.takeWhile fun c => c ≠ '\x00')

/-- A process that has been started. -/
structure Child where
  pid : ℕ
  path : String
  argv : List String
  env : List String
  /-- The signals it blocks. -/
  sigmask : List ℕ
  stdin : String
  deriving DecidableEq, Repr

/-- What the calls of `spawnOne` answer. -/
structure SpawnCalls where
  /-- `posix_spawnattr_init`, and so on: whether the call succeeds. -/
  attrInit : Bool := true
  actionsInit : Bool := true
  setsigmask : Bool := true
  setflags : Bool := true
  addopen : Bool := true
  /-- There is memory for the two arrays. -/
  allocated : Bool := true
  /-- The process `posix_spawn` has started, if it has. -/
  pid : Option ℕ := none
  deriving DecidableEq, Repr

/-- The process started for a job. The signals blocked in the daemon are not blocked in it. -/
def spawnOne (job : HookJob) (calls : SpawnCalls) : Option Child :=
  if !calls.attrInit || !calls.actionsInit then none
  else if !calls.setsigmask || !calls.setflags then none
  else if !calls.addopen then none
  else if !calls.allocated then none
  else
    calls.pid.map fun pid =>
      { pid := pid
        path := cString job.path
        argv := [cString job.path]
        env := job.env.map cString
        sigmask := []
        stdin := "/dev/null" }

theorem spawnOne_eq_some {job : HookJob} {calls : SpawnCalls} {child : Child}
    (h : spawnOne job calls = some child) :
    child.path = cString job.path ∧ child.argv = [child.path] ∧
      child.env = job.env.map cString ∧ child.sigmask = [] ∧ child.stdin = "/dev/null" ∧
      calls.pid = some child.pid := by
  unfold spawnOne at h
  split_ifs at h
  obtain ⟨pid, hpid, rfl⟩ := Option.map_eq_some_iff.mp h
  exact ⟨rfl, rfl, rfl, rfl, rfl, hpid⟩

/-! ## The executor -/

structure HookExecutor where
  worker : Worker Unit HookJob := {}
  /-- The jobs `spawnOne` has been called for, and what its calls answered. -/
  spawns : List (HookJob × SpawnCalls) := []

namespace HookExecutor

inductive Label
  | submit (job : HookJob)
  | start (created : Bool)
  | stop
  | notify
  | look
  | wake
  | finish (calls : SpawnCalls)
  | leave
  | join
  deriving Repr

/-- The step of the worker; an allocation that fails is the only exception in it. -/
def Label.worker : Label → Worker.Label Unit HookJob
  | .submit job => .submit () job
  | .start created => .start created
  | .stop => .requestStop ()
  | .notify => .notify ()
  | .look => .look
  | .wake => .wake
  | .finish calls => .finish (!calls.allocated)
  | .leave => .leave
  | .join => .join

/-- What is spawned in a step. -/
def spawned (e : HookExecutor) : Label → List (HookJob × SpawnCalls)
  | .finish calls => (e.worker.phase.current.map fun job => (job, calls)).toList
  | _ => []

/-- A job without a path is not accepted. -/
def Label.isRefused : Label → Bool
  | .submit job => job.path.isEmpty
  | _ => false

def step (e : HookExecutor) (label : Label) : Option HookExecutor :=
  if label.isRefused then some e
  else
    (e.worker.step label.worker).map fun worker =>
      { worker := worker, spawns := e.spawns ++ e.spawned label }

def machine : Machine HookExecutor Label where
  step := step

/-- The processes started. -/
def children (e : HookExecutor) : List Child :=
  e.spawns.filterMap fun spawn => spawnOne spawn.1 spawn.2

/-- The queue is sound, and the jobs spawned are those it has run. -/
structure Sound (e : HookExecutor) : Prop where
  worker : e.worker.Sound
  spawns : e.spawns.map Prod.fst = e.worker.ran

theorem sound_new : Sound {} := ⟨Worker.sound_new, rfl⟩

variable {e e' : HookExecutor}

theorem ran_of_step {label : Label} {worker : Worker Unit HookJob}
    (hstep : e.worker.step label.worker = some worker) :
    worker.ran = e.worker.ran ++ (e.spawned label).map Prod.fst := by
  cases label with
  | finish calls =>
      simp only [Label.worker, Worker.step] at hstep
      split at hstep
      · next job hphase =>
          obtain rfl := Option.some.inj hstep
          simp [spawned, hphase, ThreadPhase.current]
      · cases hstep
  | look =>
      simp only [Label.worker, Worker.step] at hstep
      split at hstep
      · obtain rfl := Option.some.inj hstep
        rcases e.worker.look_cases with ⟨-, heq⟩ | ⟨-, -, heq⟩ | ⟨-, job, rest, -, heq⟩ <;>
          simp [heq, spawned]
      · cases hstep
  | submit | start | stop | notify =>
      simp only [Label.worker, Worker.step] at hstep
      split_ifs at hstep <;> obtain rfl := Option.some.inj hstep <;> simp [spawned]
  | wake | leave =>
      simp only [Label.worker, Worker.step] at hstep
      split at hstep <;> cases hstep
      simp [spawned]
  | join =>
      simp only [Label.worker, Worker.step] at hstep
      split at hstep
      · split_ifs at hstep
        obtain rfl := Option.some.inj hstep
        simp [spawned]
      · cases hstep

theorem Sound.step (h : Sound e) {label : Label} (hstep : machine.step e label = some e') :
    Sound e' := by
  change HookExecutor.step e label = some e' at hstep
  unfold HookExecutor.step at hstep
  split_ifs at hstep
  · exact Option.some.inj hstep ▸ h
  · obtain ⟨worker, hworker, rfl⟩ := Option.map_eq_some_iff.mp hstep
    refine ⟨h.worker.step hworker, ?_⟩
    rw [List.map_append, h.spawns, ran_of_step hworker]

theorem sound_of_run {labels : List Label} (h : Sound e) (hrun : machine.run e labels = some e') :
    Sound e' :=
  machine.invariant_of_step (fun h hstep => h.step hstep) h hrun

end HookExecutor

/-! ## What the subsystem submits -/

namespace CecHookSubsystem

variable {s s' : CecHookSubsystem}

/-- At most one script is submitted on the way from one state to the other. -/
def Submits (s s' : CecHookSubsystem) : Prop :=
  s'.config = s.config ∧
    ∃ job : Option HookJob, s'.jobs = s.jobs ++ job.toList ∧ ∀ j ∈ job, j.path ≠ ""

theorem Submits.nothing (hconfig : s'.config = s.config) (hjobs : s'.jobs = s.jobs) :
    Submits s s' := ⟨hconfig, none, by simp [hjobs], by simp⟩

theorem Submits.fired {event : Fire} {now : String}
    (hconfig : s'.config = s.config) (hjobs : s'.jobs = (s.fire event now).jobs) :
    Submits s s' := by
  refine ⟨hconfig, _, hjobs, ?_⟩
  intro job hjob
  unfold Fired.job at hjob
  split_ifs at hjob with hpath
  · cases hjob
  · obtain rfl := Option.some.inj hjob
    exact hpath

theorem submits_commitPending (s : CecHookSubsystem) (now : String) :
    Submits s (s.commitPending now) := by
  unfold CecHookSubsystem.commitPending
  split
  · exact .nothing rfl rfl
  · split_ifs
    · exact .nothing rfl rfl
    · exact .fired rfl rfl

theorem submits_of_step {label : Label} (hstep : machine.step s label = some s') :
    Submits s s' := by
  change CecHookSubsystem.step s label = some s' at hstep
  cases label with
  | observe obs armOk now =>
      obtain rfl := Option.some.inj hstep
      unfold CecHookSubsystem.observe
      cases obs.kind with
      | tvStandby =>
          dsimp only
          split_ifs
          · exact .nothing rfl rfl
          · exact .fired rfl rfl
      | tvPowerReport =>
          dsimp only
          split_ifs
          · exact .nothing rfl rfl
          · exact .nothing rfl rfl
          · exact .fired rfl rfl
      | activeSource =>
          dsimp only
          split_ifs
          · exact .nothing rfl rfl
          · exact submits_commitPending
              { s with
                pendingPhysical := some obs.physicalAddress
                lastObserved := some obs.physicalAddress
                debounceTimer := s.debounceTimer.armOnce kDebounceWindow armOk } now
      | hostActivated | hostDeactivated => exact .fired rfl rfl
  | expire =>
      obtain ⟨debounceTimer, -, rfl⟩ := Option.map_eq_some_iff.mp hstep
      exact .nothing rfl rfl
  | timerFired readOk now =>
      obtain rfl := Option.some.inj hstep
      unfold CecHookSubsystem.onDebounceTimerFired
      split_ifs
      · exact .nothing rfl rfl
      · exact submits_commitPending { s with debounceTimer := s.debounceTimer.consume } now

end CecHookSubsystem

/-! ## Subsystem and executor -/

structure HookScripts where
  subsystem : CecHookSubsystem
  executor : HookExecutor := {}

namespace HookScripts

inductive Label
  /-- The main thread is in the subsystem, which is gone before the executor is stopped. -/
  | subsystem (label : CecHookSubsystem.Label)
  /-- Another call of the executor's, or a step of its thread. -/
  | executor (label : HookExecutor.Label)
  deriving Repr

/-- The calls of `submit` that lead the subsystem from one state to the other. -/
def submitted (before after : CecHookSubsystem) : List HookExecutor.Label :=
  (after.jobs.drop before.jobs.length).map .submit

def step (s : HookScripts) : Label → Option HookScripts
  | .subsystem label =>
      if s.executor.worker.busy () || s.executor.worker.stopRequested then none
      else
        (s.subsystem.step label).bind fun subsystem =>
          (HookExecutor.machine.run s.executor (submitted s.subsystem subsystem)).map fun executor =>
            { subsystem := subsystem, executor := executor }
  | .executor (.submit _) => none
  | .executor label =>
      (s.executor.step label).map fun executor => { s with executor := executor }

def machine : Machine HookScripts Label where
  step := step

def start (config : HooksConfig) (process : ProcessInfo) : HookScripts where
  subsystem := CecHookSubsystem.start config process

/-- The scripts of the fires made so far. -/
def scripts (s : HookScripts) : List HookJob :=
  s.subsystem.fires.filterMap fun fired => fired.job s.subsystem.config s.subsystem.process

/-- What holds of subsystem and executor, whoever moves. -/
structure Handed (config : HooksConfig) (s : HookScripts) : Prop where
  subsystem : s.subsystem.Settling
  config : s.subsystem.config = config
  executor : s.executor.Sound
  /-- Nothing is lost on the way to the queue. -/
  accepted : s.executor.worker.accepted = s.subsystem.jobs

theorem handed_start (config : HooksConfig) (process : ProcessInfo) :
    Handed config (start config process) where
  subsystem := CecHookSubsystem.settling_start config process
  config := rfl
  executor := HookExecutor.sound_new
  accepted := rfl

variable {config : HooksConfig} {s s' : HookScripts}

/-- The executor accepts what the main thread submits while it is free. -/
theorem accepted_of_submitted {before after : CecHookSubsystem} {e e' : HookExecutor}
    (hbusy : e.worker.busy () = false) (hstop : e.worker.stopRequested = false)
    (hsubmits : before.Submits after)
    (hrun : HookExecutor.machine.run e (submitted before after) = some e')
    (haccepted : e.worker.accepted = before.jobs) : e'.worker.accepted = after.jobs := by
  obtain ⟨-, job, hjobs, hpath⟩ := hsubmits
  unfold submitted at hrun
  rw [hjobs, List.drop_left] at hrun
  cases job with
  | none =>
      rw [Option.toList_none, List.map_nil, Machine.run_nil, Option.some.injEq] at hrun
      rw [← hrun, haccepted, hjobs]
      simp
  | some job =>
      have hne : job.path ≠ "" := hpath job rfl
      have hrefused : (HookExecutor.Label.submit job).isRefused = false := by
        simpa [HookExecutor.Label.isRefused] using hne
      obtain ⟨next, hnext, hend⟩ := HookExecutor.machine.run_cons_eq_some.mp hrun
      obtain rfl : next = e' := Option.some.inj hend
      change e.step (.submit job) = some next at hnext
      rw [HookExecutor.step, if_neg (by simp [hrefused])] at hnext
      obtain ⟨worker, hworker, rfl⟩ := Option.map_eq_some_iff.mp hnext
      simp only [HookExecutor.Label.worker, Worker.step, hbusy, hstop, Bool.false_eq_true, if_false,
        Option.some.injEq] at hworker
      rw [← hworker, hjobs]
      simp [haccepted]

/-- No step of the executor but a submission accepts anything. -/
theorem accepted_of_step {e e' : HookExecutor} {label : HookExecutor.Label}
    (hlabel : ∀ job, label ≠ .submit job) (hstep : e.step label = some e') :
    e'.worker.accepted = e.worker.accepted := by
  unfold HookExecutor.step at hstep
  split_ifs at hstep
  · rw [Option.some.inj hstep]
  obtain ⟨worker, hworker, rfl⟩ := Option.map_eq_some_iff.mp hstep
  refine (Worker.accepted_of_step hworker).resolve_right ?_
  rintro ⟨thread, job, heq, -⟩
  cases label <;> cases heq
  exact hlabel _ rfl

theorem Handed.step (h : Handed config s) {label : Label}
    (hstep : machine.step s label = some s') : Handed config s' := by
  change HookScripts.step s label = some s' at hstep
  cases label with
  | subsystem label =>
      simp only [HookScripts.step] at hstep
      split_ifs at hstep with hfree
      simp only [Bool.or_eq_true, not_or, Bool.not_eq_true] at hfree
      obtain ⟨subsystem, hsubsystem, hrest⟩ := Option.bind_eq_some_iff.mp hstep
      obtain ⟨executor, hexecutor, rfl⟩ := Option.map_eq_some_iff.mp hrest
      have hsubmits := CecHookSubsystem.submits_of_step hsubsystem
      exact {
        subsystem := h.subsystem.step hsubsystem
        config := hsubmits.1.trans h.config
        executor := HookExecutor.sound_of_run h.executor hexecutor
        accepted := accepted_of_submitted hfree.1 hfree.2 hsubmits hexecutor h.accepted }
  | executor label =>
      have hlabel : ∀ job, label ≠ .submit job := by
        rintro job rfl
        cases hstep
      have hexecutor : (s.executor.step label).map (fun executor => { s with executor := executor }) =
          some s' := by cases label <;> first | exact hstep | cases hstep
      obtain ⟨executor, hnext, rfl⟩ := Option.map_eq_some_iff.mp hexecutor
      exact ⟨h.subsystem, h.config, h.executor.step hnext,
        (accepted_of_step hlabel hnext).trans h.accepted⟩

theorem handed_of_run {process : ProcessInfo} {labels : List Label}
    (hrun : machine.run (start config process) labels = some s) : Handed config s :=
  machine.invariant_of_step (fun h hstep => h.step hstep) (handed_start config process) hrun

/-! ## The scripts started -/

/-- Steps the two threads take by themselves. -/
def Due : Label → Prop
  | .subsystem _ => False
  | .executor label => Worker.Due label.worker

/-- What the worker of the library can do by itself, the executor can do, whatever the calls of
a spawn answer. -/
theorem exists_executor_step {e : HookExecutor} {label : Worker.Label Unit HookJob}
    (hdue : Worker.Due label) {worker : Worker Unit HookJob}
    (hstep : e.worker.step label = some worker) :
    ∃ label' e', Worker.Due label'.worker ∧ (∀ job, label' ≠ .submit job) ∧
      e.step label' = some e' ∧ e'.worker = worker := by
  have hlift (label' : HookExecutor.Label) (hsame : label'.worker = label)
      (hrefused : label'.isRefused = false) :
      e.step label' = some { worker := worker, spawns := e.spawns ++ e.spawned label' } := by
    rw [HookExecutor.step, if_neg (by simp [hrefused]), hsame, hstep]
    rfl
  cases label with
  | notify thread => exact ⟨.notify, _, trivial, by simp, hlift .notify rfl rfl, rfl⟩
  | look => exact ⟨.look, _, trivial, by simp, hlift .look rfl rfl, rfl⟩
  | finish threw =>
      refine ⟨.finish { allocated := !threw }, _, trivial, by simp, hlift _ ?_ rfl, rfl⟩
      simp [HookExecutor.Label.worker]
  | leave => exact ⟨.leave, _, trivial, by simp, hlift .leave rfl rfl, rfl⟩
  | join => exact ⟨.join, _, trivial, by simp, hlift .join rfl rfl, rfl⟩
  | submit | start | requestStop | wake => exact hdue.elim

theorem exists_run_of_worker {labels : List (Worker.Label Unit HookJob)}
    (hdue : ∀ label ∈ labels, Worker.Due label) {worker : Worker Unit HookJob}
    (hrun : Worker.machine.run s.executor.worker labels = some worker) :
    ∃ labels' s', (∀ label ∈ labels', Due label) ∧ machine.run s labels' = some s' ∧
      s'.executor.worker = worker ∧ s'.subsystem = s.subsystem := by
  induction labels generalizing s with
  | nil => exact ⟨[], s, by simp, rfl, by simpa using hrun, rfl⟩
  | cons label labels ih =>
      obtain ⟨next, hnext, hrest⟩ := Worker.machine.run_cons_eq_some.mp hrun
      obtain ⟨label', e, hdue', hlabel, hstep, rfl⟩ :=
        exists_executor_step (hdue label List.mem_cons_self) hnext
      obtain ⟨labels', s', hdues, hrun', hworker, hsubsystem⟩ :=
        ih (s := { s with executor := e })
          (fun other hother => hdue other (List.mem_cons_of_mem _ hother)) hrest
      refine ⟨.executor label' :: labels', s', ?_, ?_, hworker, hsubsystem⟩
      · simpa using ⟨hdue', hdues⟩
      · refine machine.run_cons_eq_some.mpr ⟨_, ?_, hrun'⟩
        change HookScripts.step s (.executor label') = _
        cases label' with
        | submit job => exact absurd rfl (hlabel job)
        | _ => simp [HookScripts.step, hstep]

theorem worker_of_run {labels : List Label} (hdue : ∀ label ∈ labels, Due label)
    (hrun : machine.run s labels = some s') :
    ∃ labels', labels'.length = labels.length ∧ (∀ label ∈ labels', Worker.Due label) ∧
      Worker.machine.run s.executor.worker labels' = some s'.executor.worker := by
  induction labels generalizing s with
  | nil =>
      rw [Machine.run_nil, Option.some.injEq] at hrun
      exact ⟨[], rfl, by simp, by rw [hrun]; rfl⟩
  | cons label labels ih =>
      obtain ⟨next, hnext, hrest⟩ := machine.run_cons_eq_some.mp hrun
      obtain ⟨labels', hlength, hdues, hrun'⟩ :=
        ih (fun other hother => hdue other (List.mem_cons_of_mem _ hother)) hrest
      have hlabel := hdue label List.mem_cons_self
      cases label with
      | subsystem label => exact hlabel.elim
      | executor label =>
          have hstep : (s.executor.step label).map (fun executor => { s with executor := executor }) =
              some next := by cases label <;> first | exact hnext | exact hlabel.elim
          obtain ⟨e, he, rfl⟩ := Option.map_eq_some_iff.mp hstep
          have hrefused : label.isRefused = false := by
            cases label <;> first | rfl | exact hlabel.elim
          rw [HookExecutor.step, if_neg (by simp [hrefused])] at he
          obtain ⟨worker, hworker, rfl⟩ := Option.map_eq_some_iff.mp he
          refine ⟨label.worker :: labels', by simp [hlength], ?_, ?_⟩
          · simpa using ⟨hlabel, hdues⟩
          · exact Worker.machine.run_cons_eq_some.mpr ⟨worker, hworker, hrun'⟩

/-- A hook path is absolute, or there is none. -/
theorem validateHookPath_absolute (path : Text) :
    validateHookPath path = "" ∨ (validateHookPath path).toList.head? = some '/' := by
  unfold validateHookPath
  split_ifs with habsolute
  · exact Or.inr (by simpa using habsolute)
  · exact Or.inl rfl

theorem scriptPath_absolute (cfg : SectionMap) (event : Fire) :
    event.scriptPath (loadAppConfig cfg).hooks = "" ∨
      (event.scriptPath (loadAppConfig cfg).hooks).toList.head? = some '/' := by
  cases event <;> exact validateHookPath_absolute _

theorem head?_cString {s : String} {c : Char} (hhead : s.toList.head? = some c) (hc : c ≠ '\x00') :
    (cString s).toList.head? = some c := by
  unfold cString
  obtain ⟨rest, hs⟩ : ∃ rest, s.toList = c :: rest := by
    cases hs : s.toList with
    | nil => simp [hs] at hhead
    | cons first rest =>
        rw [hs, List.head?_cons, Option.some.injEq] at hhead
        exact ⟨rest, hhead ▸ rfl⟩
  simp [hs, hc]

theorem map_filterMap_sublist {α β γ : Type} {g : α → Option β} {h : β → γ} {k : α → γ}
    (hg : ∀ x y, g x = some y → h y = k x) (xs : List α) :
    ((xs.filterMap g).map h).Sublist (xs.map k) := by
  induction xs with
  | nil => exact List.Sublist.refl _
  | cons x xs ih =>
      cases hx : g x with
      | none =>
          rw [List.filterMap_cons_none hx]
          exact ih.cons _
      | some y =>
          rw [List.filterMap_cons_some hx, List.map_cons, List.map_cons, hg x y hx]
          exact ih.cons_cons _

/-- How the scripts of the fires are started. -/
structure Started (s : HookScripts) : Prop where
  /-- Every script is spawned once and in turn, or dropped by the stop. -/
  order : s.executor.spawns.map Prod.fst ++ s.executor.worker.phase.current.toList ++
    s.executor.worker.jobs ++ s.executor.worker.dropped = s.scripts
  dropped : s.executor.worker.dropped ≠ [] → s.executor.worker.stopRequested = true
  /-- A process runs the script of a fire, with its environment; they are started in order. -/
  children : (s.executor.children.map fun child => (child.path, child.env)).Sublist
    (s.scripts.map fun job => (cString job.path, job.env.map cString))
  /-- Every spawn is of an absolute path, also one that fails. -/
  absolute : ∀ spawn ∈ s.executor.spawns, (cString spawn.1.path).toList.head? = some '/'
  plain : ∀ child ∈ s.executor.children, child.path.toList.head? = some '/' ∧
    child.argv = [child.path] ∧ child.sigmask = [] ∧ child.stdin = "/dev/null"
  bounded : ∀ labels final, (∀ label ∈ labels, Due label) → machine.run s labels = some final →
    labels.length ≤ s.executor.worker.effort
  /-- Left to themselves the threads spawn everything that has been fired. -/
  rests : ∃ labels final, (∀ label ∈ labels, Due label) ∧ machine.run s labels = some final ∧
    final.executor.worker.Rested ∧ (s.executor.worker.started = true →
      s.executor.worker.stopRequested = false → final.executor.spawns.map Prod.fst = s.scripts)

theorem Handed.order (h : Handed config s) :
    s.executor.spawns.map Prod.fst ++ s.executor.worker.phase.current.toList ++
      s.executor.worker.jobs ++ s.executor.worker.dropped = s.scripts := by
  rw [h.executor.spawns, h.executor.worker.accounted, h.accepted, h.subsystem.recorded.jobs]
  rfl

theorem Handed.children (h : Handed config s) :
    (s.executor.children.map fun child => (child.path, child.env)).Sublist
      (s.scripts.map fun job => (cString job.path, job.env.map cString)) := by
  have hspawned : (s.executor.children.map fun child => (child.path, child.env)).Sublist
      (s.executor.spawns.map fun spawn => (cString spawn.1.path, spawn.1.env.map cString)) := by
    refine map_filterMap_sublist (fun spawn child hchild => ?_) _
    obtain ⟨hpath, -, henv, -⟩ := spawnOne_eq_some hchild
    rw [hpath, henv]
  have hprefix : (s.executor.spawns.map Prod.fst).Sublist s.scripts := by
    rw [← h.order, List.append_assoc, List.append_assoc]
    exact List.sublist_append_left _ _
  refine hspawned.trans ?_
  have hmapped := hprefix.map fun job => (cString job.path, job.env.map cString)
  rwa [List.map_map] at hmapped

theorem Handed.absolute {cfg : SectionMap} (h : Handed (loadAppConfig cfg).hooks s)
    {spawn : HookJob × SpawnCalls} (hspawn : spawn ∈ s.executor.spawns) :
    (cString spawn.1.path).toList.head? = some '/' := by
  have hjob : spawn.1 ∈ s.scripts := by
    rw [← h.order]
    simp only [List.mem_append, List.mem_map]
    exact Or.inl (Or.inl (Or.inl ⟨_, hspawn, rfl⟩))
  obtain ⟨fired, -, hfired⟩ := List.mem_filterMap.mp hjob
  unfold Fired.job at hfired
  split_ifs at hfired with hscript
  rw [← Option.some.inj hfired]
  apply head?_cString _ (by decide)
  rw [h.config] at hscript ⊢
  exact (scriptPath_absolute cfg fired.event).resolve_left hscript

theorem Handed.plain {cfg : SectionMap} (h : Handed (loadAppConfig cfg).hooks s) {child : Child}
    (hchild : child ∈ s.executor.children) :
    child.path.toList.head? = some '/' ∧ child.argv = [child.path] ∧ child.sigmask = [] ∧
      child.stdin = "/dev/null" := by
  obtain ⟨spawn, hspawn, hspawned⟩ := List.mem_filterMap.mp hchild
  obtain ⟨hpath, hargv, -, hsigmask, hstdin, -⟩ := spawnOne_eq_some hspawned
  exact ⟨hpath ▸ h.absolute hspawn, hargv, hsigmask, hstdin⟩

theorem Handed.rests (h : Handed config s) :
    ∃ labels final, (∀ label ∈ labels, Due label) ∧ machine.run s labels = some final ∧
      final.executor.worker.Rested ∧ (s.executor.worker.started = true →
        s.executor.worker.stopRequested = false →
          final.executor.spawns.map Prod.fst = s.scripts) := by
  obtain ⟨workerLabels, worker, hworkerDue, hworker, -, hrested⟩ := h.executor.worker.settles.2
  obtain ⟨labels, final, hdue, hrun, rfl, hsubsystem⟩ := exists_run_of_worker hworkerDue hworker
  refine ⟨labels, final, hdue, hrun, hrested, fun hstarted hopen => ?_⟩
  have hfinal : Handed config final := machine.invariant_of_step (fun h hstep => h.step hstep) h hrun
  have hscripts : final.scripts = s.scripts := by simp [scripts, hsubsystem]
  have hsame : final.executor.worker.started = s.executor.worker.started ∧
      final.executor.worker.stopRequested = s.executor.worker.stopRequested :=
    Worker.flags_of_due hworkerDue hworker
  have hsleeping : final.executor.worker.phase = .asleep ∧ final.executor.worker.jobs = [] := by
    rcases hrested.phase with ⟨hasleep, hjobs, -⟩ | hgone
    · exact ⟨hasleep, hjobs⟩
    · -- A thread that was started is only gone after a stop.
      exfalso
      cases hphase : final.executor.worker.phase <;> rw [hphase] at hgone <;> try cases hgone
      · have hnew := hfinal.executor.worker.started.mpr hphase
        simp [hsame.1, hstarted] at hnew
      · have hstop := (hfinal.executor.worker.outside (by rw [hphase]; rfl)).1
        simp [hsame.2, hopen] at hstop
  have horder := hfinal.order
  have hdropped := hfinal.executor.worker.inside (by rw [hsleeping.1]; rfl)
  rw [hsleeping.1, hsleeping.2, hdropped, hscripts] at horder
  simpa [ThreadPhase.current] using horder

/-- **From the configuration file to the scripts.** Whatever the file says, whatever is observed
on the bus, and however the main thread, the executor's thread and the calls of a spawn
interleave and fail. -/
theorem scripts_started (text : Text) (process : ProcessInfo) {labels : List Label}
    (hrun : machine.run (start (loadAppConfig (load text)).hooks process) labels = some s) :
    Started s := by
  have h := handed_of_run hrun
  refine ⟨h.order, fun hdropped => ?_, h.children, fun spawn => h.absolute, fun child => h.plain, ?_,
    h.rests⟩
  · by_contra hopen
    refine hdropped (h.executor.worker.inside ?_)
    by_contra hout
    exact hopen (h.executor.worker.outside (by simpa using hout)).1
  · intro dueLabels final hdue hfinal
    obtain ⟨workerLabels, hlength, hworkerDue, hworker⟩ := worker_of_run hdue hfinal
    rw [← hlength]
    exact h.executor.worker.settles.1 workerLabels _ hworkerDue hworker

/-- A configuration with one script that is an absolute path, and one that is not. -/
def oneScript : Text := "[Hooks]\nTVStandby = /bin/off\nTVWake = off\n".toList

/-- The TV goes to standby and comes back; its script is spawned before the main thread has
notified anybody. -/
def standbyRun : List Label :=
  [.executor (.start true), .executor .look, .subsystem (.observe { kind := .tvStandby } true ""),
    .executor .wake, .executor .look, .executor .notify, .executor (.finish { pid := some 7 }),
    .subsystem (.observe { kind := .tvPowerReport, power := 0 } true ""), .executor .look]

theorem scripts_started_standby :
    ∃ s : HookScripts,
      machine.run (start (loadAppConfig (load oneScript)).hooks {}) standbyRun = some s ∧
      s.executor.children.map (fun child => (child.pid, child.path)) = [(7, "/bin/off")] ∧
      Started s := by
  have hreached : (machine.run (start (loadAppConfig (load oneScript)).hooks {}) standbyRun).map
      (fun s => s.executor.children.map fun child => (child.pid, child.path)) =
      some [(7, "/bin/off")] := by decide
  obtain ⟨s, hrun, hchildren⟩ := Option.map_eq_some_iff.mp hreached
  exact ⟨s, hrun, hchildren, scripts_started oneScript {} hrun⟩

end HookScripts

end CecControl
