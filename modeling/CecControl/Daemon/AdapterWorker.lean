/-
# The adapter's thread

`AdapterWorker` owns the adapter and is the one thread that talks to it once the daemon runs. Its
queue is an instance of the worker of the library; what it adds is the adapter, which the
thread closes as the last thing it does, and which `stop` releases once the thread is gone.

The daemon's machine has a coarser worker: a list of jobs, the job in progress, and a stop that
drops the list in one step. The last section justifies it. Both are seen as the same queue, and a
job can be taken in the one just when it can in the other.
-/

import CecControl.Lib.Worker
import CecControl.Daemon.Coupling
import CecControl.Daemon.StepRule

namespace CecControl

open Lib

/-! ## Who uses the adapter -/

/-- What is done with the adapter. -/
inductive AdapterUse
  /-- A job begins to run on it. -/
  | job (job : Job)
  /-- The connection is closed on the thread's way out. -/
  | close
  /-- The main thread gives the adapter up. -/
  | release
  deriving DecidableEq, Repr

/-- Threads that submit are named by `τ`. -/
structure AdapterWorker (τ : Type) where
  worker : Worker τ Job := {}
  /-- The worker still has its adapter. -/
  adapter : Bool := true
  uses : List AdapterUse := []

namespace AdapterWorker

variable {τ : Type}

/-- The thread's own use of the adapter in one of its steps. -/
def threadUses (m : AdapterWorker τ) : Worker.Label τ Job → List AdapterUse
  | .look => (m.worker.look.phase.current.map AdapterUse.job).toList
  | .leave => if m.adapter then [.close] else []
  | _ => []

/-- The thread gives up the adapter when its own `stop` returns. -/
def step [DecidableEq τ] (m : AdapterWorker τ) (label : Worker.Label τ Job) :
    Option (AdapterWorker τ) :=
  (m.worker.step label).map fun worker =>
    match label with
    | .join => { worker := worker, adapter := false, uses := m.uses ++ [.release] }
    | label => { m with worker := worker, uses := m.uses ++ m.threadUses label }

def machine [DecidableEq τ] : Machine (AdapterWorker τ) (Worker.Label τ Job) where
  step := step

/-- `connected` is the adapter's own flag. -/
def isAdapterConnected (m : AdapterWorker τ) (connected : Bool) : Bool := m.adapter && connected

/-! ## The adapter is used by one thread at a time -/

/-- The uses of the adapter at the end: closed by a thread that has left while there was an
adapter, and released. -/
def ending (m : AdapterWorker τ) : List AdapterUse :=
  if m.adapter then if m.worker.phase = .exited then [.close] else []
  else if m.worker.joined then [.close, .release] else [.release]

/-- What holds in every interleaving. -/
structure Owned (m : AdapterWorker τ) : Prop where
  sound : m.worker.Sound
  uses : m.uses = (m.worker.ran ++ m.worker.phase.current.toList).map .job ++ m.ending
  fresh : m.worker.phase = .unborn → m.worker.ran = []
  stopping : ∀ thread, m.worker.stopping = some thread → m.adapter = true
  /-- An adapter that has been given up is not used, by a thread created too late either. -/
  released : m.adapter = false → m.worker.stopRequested = true ∧ m.worker.phase.current = none
  joined : m.worker.joined = true → m.adapter = false

theorem owned_new : Owned ({} : AdapterWorker τ) where
  sound := Worker.sound_new
  uses := rfl
  fresh _ := rfl
  stopping _ h := by cases h
  released h := by cases h
  joined h := by cases h

variable {m m' : AdapterWorker τ}

/-- A step of the worker that neither begins nor ends anything on the adapter. -/
theorem Owned.aside (h : Owned m) {worker : Worker τ Job} (hsound : worker.Sound)
    (hran : worker.ran = m.worker.ran)
    (hcurrent : worker.phase.current = m.worker.phase.current)
    (hexited : worker.phase = .exited ↔ m.worker.phase = .exited)
    (hfresh : worker.phase = .unborn → m.worker.phase = .unborn)
    (hjoined : worker.joined = m.worker.joined)
    (hstop : m.worker.stopRequested = true → worker.stopRequested = true)
    (hstopping : ∀ thread, worker.stopping = some thread →
      m.worker.stopping = some thread ∨ m.worker.stopRequested = false) :
    Owned { m with worker := worker, uses := m.uses ++ [] } where
  sound := hsound
  uses := by
    have huses := h.uses
    unfold ending at huses ⊢
    simp only [List.append_nil]
    rw [huses, hran, hcurrent, hjoined]
    simp only [hexited]
  fresh hunborn := hran.trans (h.fresh (hfresh hunborn))
  stopping thread hthread := by
    rcases hstopping thread hthread with hold | hnew
    · exact h.stopping thread hold
    · by_contra hgone
      exact absurd (h.released (by simpa using hgone)).1 (by simp [hnew])
  released hgone := ⟨hstop (h.released hgone).1, hcurrent.trans (h.released hgone).2⟩
  joined hj := h.joined (hjoined ▸ hj)

variable [DecidableEq τ]

theorem Owned.look (h : Owned m) (hstep : machine.step m .look = some m') : Owned m' := by
  change step m .look = some m' at hstep
  obtain ⟨worker, hworker, rfl⟩ := Option.map_eq_some_iff.mp hstep
  have hsound := h.sound.look hworker
  simp only [Worker.step] at hworker
  split at hworker
  · next hphase =>
      obtain rfl := Option.some.inj hworker
      have huses := h.uses
      have hjoined : m.worker.joined = false := by
        by_contra hjoined
        simp [h.sound.joined (by simpa using hjoined)] at hphase
      rcases m.worker.look_cases with ⟨hstop, heq⟩ | ⟨hstop, hjobs, heq⟩ |
        ⟨hstop, job, rest, hjobs, heq⟩
      · dsimp only [threadUses]
        rw [heq] at hsound ⊢
        exact h.aside hsound rfl (by simp [hphase, ThreadPhase.current]) (by simp [hphase]) (by simp)
          rfl id fun thread hthread => Or.inl hthread
      · dsimp only [threadUses]
        rw [heq] at hsound ⊢
        exact h.aside hsound rfl (by simp [hphase, ThreadPhase.current]) (by simp [hphase]) (by simp)
          rfl id fun thread hthread => Or.inl hthread
      · have hadapter : m.adapter = true := by
          by_contra hgone
          exact absurd (h.released (by simpa using hgone)).1 (by simp [hstop])
        dsimp only [threadUses]
        rw [heq] at hsound ⊢
        refine ⟨hsound, ?_, by simp, h.stopping, by simp [hadapter], by simp [hjoined]⟩
        simp [huses, ending, hadapter, hphase, ThreadPhase.current]
  · cases hworker

theorem Owned.finish (h : Owned m) {threw : Bool}
    (hstep : machine.step m (.finish threw) = some m') : Owned m' := by
  change step m (.finish threw) = some m' at hstep
  obtain ⟨worker, hworker, rfl⟩ := Option.map_eq_some_iff.mp hstep
  have hsound := h.sound.finish (show Worker.machine.step m.worker (.finish threw) = _ from hworker)
  simp only [Worker.step] at hworker
  split at hworker
  · next job hphase =>
      obtain rfl := Option.some.inj hworker
      have hadapter : m.adapter = true := by
        by_contra hgone
        simpa [hphase, ThreadPhase.current] using (h.released (by simpa using hgone)).2
      refine ⟨hsound, ?_, by simp, h.stopping, by simp [hadapter], h.joined⟩
      simp [h.uses, ending, hadapter, hphase, ThreadPhase.current, threadUses]
  · cases hworker

theorem Owned.leave (h : Owned m) (hstep : machine.step m .leave = some m') : Owned m' := by
  change step m .leave = some m' at hstep
  obtain ⟨worker, hworker, rfl⟩ := Option.map_eq_some_iff.mp hstep
  have hsound := h.sound.leave hworker
  simp only [Worker.step] at hworker
  split at hworker
  · next hphase =>
      obtain rfl := Option.some.inj hworker
      refine ⟨hsound, ?_, by simp, h.stopping, fun hgone => ⟨(h.released hgone).1, rfl⟩, h.joined⟩
      have huses := h.uses
      cases hadapter : m.adapter <;>
        simp [huses, ending, hadapter, hphase, ThreadPhase.current, threadUses]
  · cases hworker

theorem Owned.join (h : Owned m) (hstep : machine.step m .join = some m') : Owned m' := by
  change step m .join = some m' at hstep
  obtain ⟨worker, hworker, rfl⟩ := Option.map_eq_some_iff.mp hstep
  have hsound := h.sound.join hworker
  simp only [Worker.step] at hworker
  split at hworker
  · next thread hstopping =>
      split_ifs at hworker with hwait
      obtain rfl := Option.some.inj hworker
      have hadapter := h.stopping thread hstopping
      have hstop := h.sound.stopping thread hstopping
      have huses := h.uses
      have hgone : m.worker.phase.gone = true := by
        by_contra hgone
        exact hwait (Or.inr (by simpa using hgone))
      refine ⟨hsound, ?_, h.fresh, by simp, fun _ => ⟨hstop, ?_⟩, fun _ => rfl⟩
      · cases hphase : m.worker.phase <;> rw [hphase] at hgone <;> try cases hgone
        · have hnew := h.sound.started.mpr hphase
          simp [huses, ending, hadapter, hphase, hnew]
        · have hold : m.worker.started = true := by
            by_contra hnew
            simp [h.sound.started.mp (by simpa using hnew)] at hphase
          simp [huses, ending, hadapter, hphase, hold]
      · cases hphase : m.worker.phase <;> rw [hphase] at hgone <;> first | rfl | cases hgone
  · cases hworker

theorem Owned.step (h : Owned m) {label : Worker.Label τ Job}
    (hstep : machine.step m label = some m') : Owned m' := by
  cases label with
  | look => exact h.look hstep
  | finish threw => exact h.finish hstep
  | leave => exact h.leave hstep
  | join => exact h.join hstep
  | submit thread job =>
      obtain ⟨worker, hworker, rfl⟩ := Option.map_eq_some_iff.mp hstep
      have hsound := h.sound.submit hworker
      simp only [Worker.step] at hworker
      split_ifs at hworker <;> obtain rfl := Option.some.inj hworker <;>
        exact h.aside hsound rfl rfl Iff.rfl id rfl id fun thread hthread => Or.inl hthread
  | start created =>
      obtain ⟨worker, hworker, rfl⟩ := Option.map_eq_some_iff.mp hstep
      have hsound := h.sound.start hworker
      simp only [Worker.step] at hworker
      split_ifs at hworker with hagain <;> obtain rfl := Option.some.inj hworker
      · exact h.aside hsound rfl rfl Iff.rfl id rfl id fun thread hthread => Or.inl hthread
      · have hphase : m.worker.phase = .unborn := h.sound.started.mp (by simp_all)
        exact h.aside hsound rfl (by simp [hphase, ThreadPhase.current]) (by simp [hphase]) (by simp)
          rfl id fun thread hthread => Or.inl hthread
  | requestStop thread =>
      obtain ⟨worker, hworker, rfl⟩ := Option.map_eq_some_iff.mp hstep
      have hsound := h.sound.requestStop hworker
      simp only [Worker.step] at hworker
      split_ifs at hworker with hbusy hstop <;> obtain rfl := Option.some.inj hworker
      · exact h.aside hsound rfl rfl Iff.rfl id rfl id fun thread hthread => Or.inl hthread
      · exact h.aside hsound rfl rfl Iff.rfl id rfl (fun _ => rfl)
          fun _ _ => Or.inr (by simpa using hstop)
  | notify thread =>
      obtain ⟨worker, hworker, rfl⟩ := Option.map_eq_some_iff.mp hstep
      have hsound := h.sound.notify hworker
      simp only [Worker.step] at hworker
      split_ifs at hworker
      obtain rfl := Option.some.inj hworker
      apply h.aside hsound rfl ?_ ?_ ?_ rfl id fun thread hthread => Or.inl hthread
      all_goals cases m.worker.phase <;> simp [ThreadPhase.notified, ThreadPhase.current]
  | wake =>
      obtain ⟨worker, hworker, rfl⟩ := Option.map_eq_some_iff.mp hstep
      have hsound := h.sound.wake hworker
      simp only [Worker.step] at hworker
      split at hworker
      · next hphase =>
          obtain rfl := Option.some.inj hworker
          exact h.aside hsound rfl (by simp [hphase, ThreadPhase.current]) (by simp [hphase]) (by simp)
            rfl id fun thread hthread => Or.inl hthread
      · cases hworker

theorem owned_of_run {labels : List (Worker.Label τ Job)} (hrun : machine.run {} labels = some m) :
    Owned m :=
  machine.invariant_of_step (fun h hstep => h.step hstep) owned_new hrun

/-- Whatever the worker's threads can do, they can do with the adapter in hand. -/
theorem run_of_worker {labels : List (Worker.Label τ Job)} {worker : Worker τ Job}
    (hrun : Worker.machine.run m.worker labels = some worker) :
    ∃ m', machine.run m labels = some m' ∧ m'.worker = worker := by
  induction labels generalizing m with
  | nil => exact ⟨m, rfl, by simpa using hrun⟩
  | cons label labels ih =>
      obtain ⟨next, hnext, hrest⟩ := Worker.machine.run_cons_eq_some.mp hrun
      have hstep : ∃ m', machine.step m label = some m' ∧ m'.worker = next := by
        refine ⟨_, show step m label = some _ by rw [step, show m.worker.step label = _ from hnext]; rfl, ?_⟩
        cases label <;> rfl
      obtain ⟨m', hm', rfl⟩ := hstep
      obtain ⟨final, hfinal, hworker⟩ := ih hrest
      exact ⟨final, machine.run_cons_eq_some.mpr ⟨m', hm', hfinal⟩, hworker⟩

/-- Every job accepted is run once and in turn, or dropped by the stop; the thread does not sleep
while it has been given something to do unless somebody is about to wake it; the adapter is used
for one job after another, closed, and released, in this order and nothing after that; and the
threads that are on their way come to rest, a thread that has been told to stop having left. -/
structure WorksOff (m : AdapterWorker τ) : Prop where
  accounted : m.worker.ran ++ m.worker.phase.current.toList ++ m.worker.jobs ++ m.worker.dropped =
    m.worker.accepted
  dropped : m.worker.dropped ≠ [] → m.worker.stopRequested = true
  awake : m.worker.phase = .asleep → m.worker.jobs ≠ [] ∨ m.worker.stopRequested = true →
    m.worker.notifying ≠ []
  uses : ∃ ending, m.uses = (m.worker.ran ++ m.worker.phase.current.toList).map .job ++ ending ∧
    ending ∈ [[], [.close], [.close, .release], [.release]]
  joined : m.worker.joined = true → m.uses = m.worker.ran.map .job ++ [.close, .release] ∧
    ∀ connected, m.isAdapterConnected connected = false
  bounded : ∀ labels final, (∀ label ∈ labels, Worker.Due label) →
    machine.run m labels = some final → labels.length ≤ m.worker.effort
  rests : ∃ labels final, (∀ label ∈ labels, Worker.Due label) ∧
    machine.run m labels = some final ∧ final.worker.Rested

theorem worker_of_run {labels : List (Worker.Label τ Job)} (hrun : machine.run m labels = some m') :
    Worker.machine.run m.worker labels = some m'.worker := by
  induction labels generalizing m with
  | nil =>
      rw [Machine.run_nil, Option.some.injEq] at hrun
      rw [hrun]
      rfl
  | cons label labels ih =>
      obtain ⟨next, hnext, hrest⟩ := machine.run_cons_eq_some.mp hrun
      obtain ⟨worker, hworker, rfl⟩ := Option.map_eq_some_iff.mp hnext
      refine Worker.machine.run_cons_eq_some.mpr ⟨worker, hworker, ?_⟩
      have hworkers := ih hrest
      cases label <;> exact hworkers

/-- **The worker works off its queue**, however submitting threads, the worker's thread and the
one that stops it interleave. -/
theorem queue_worked_off {labels : List (Worker.Label τ Job)} (hrun : machine.run {} labels = some m) :
    WorksOff m := by
  have h := owned_of_run hrun
  have hsettles := h.sound.settles
  constructor
  · exact h.sound.accounted
  · intro hdropped
    by_contra hstop
    refine hdropped (h.sound.inside ?_)
    by_contra hout
    exact hstop (h.sound.outside (by simpa using hout)).1
  · exact h.sound.awake
  · refine ⟨_, h.uses, ?_⟩
    unfold ending
    split_ifs <;> simp
  · intro hjoined
    have hphase := h.sound.joined hjoined
    have hadapter := h.joined hjoined
    have huses := h.uses
    refine ⟨?_, fun connected => by simp [isAdapterConnected, hadapter]⟩
    simpa [ending, hadapter, hjoined, hphase, ThreadPhase.current] using huses
  · intro labels final hdue hlabels
    exact hsettles.1 labels final.worker hdue (worker_of_run hlabels)
  · obtain ⟨labels, final, hdue, hlabels, -, hrest⟩ := hsettles.2
    obtain ⟨final', hfinal, rfl⟩ := run_of_worker hlabels
    exact ⟨labels, final', hdue, hfinal, hrest⟩

/-- Thread `0` submits a job, which the worker finds before it is notified; thread `1` orders the
stop while the job runs and a second one waits. -/
theorem queue_worked_off_on_stop :
    ∃ m, machine.run ({} : AdapterWorker ℕ)
        [.start true, .look, .submit 0 (.suspend 0), .wake, .look, .notify 0,
          .submit 0 (.resume 1), .notify 0, .requestStop 1, .finish true, .look, .notify 1,
          .leave, .join] = some m ∧
      m.uses = [.job (.suspend 0), .close, .release] ∧ WorksOff m := by
  have hrun : machine.run ({} : AdapterWorker ℕ)
      [.start true, .look, .submit 0 (.suspend 0), .wake, .look, .notify 0,
        .submit 0 (.resume 1), .notify 0, .requestStop 1, .finish true, .look, .notify 1,
        .leave, .join] =
      some {
        worker := {
          stopRequested := true, started := true, phase := .exited, joined := true
          accepted := [.suspend 0, .resume 1], ran := [.suspend 0], dropped := [.resume 1] }
        adapter := false
        uses := [.job (.suspend 0), .close, .release] } := rfl
  exact ⟨_, hrun, rfl, queue_worked_off hrun⟩

end AdapterWorker

/-! ## The daemon's worker -/

namespace Daemon

/-- What is seen of the daemon's worker. -/
def jobQueue (d : Daemon) : JobQueue Job where
  queue := d.jobs
  current := d.running.map (·.job)
  stopped := d.stopRequested

/-- The calls that a step makes on the queue. What a handler of the main thread adds to the jobs
it has submitted; the worker's thread takes a job and finishes it. -/
def calls (d : Daemon) (label : Label) : List (JobQueue.Label Job) :=
  match label with
  | .wire _ | .drain | .safetyTimer | .retryTimer =>
      match machine.step d label with
      | some d' => (d'.jobs.drop d.jobs.length).map .submit
      | none => []
  | .workerTake => [.take]
  | .workerFinish => [.finish]
  | .stop => [.stop]
  | _ => []

/-- A handler of the main thread runs, or a timer expires. -/
def Label.isHandled : Label → Bool
  | .wire _ | .dbusSignal _ | .drain | .safetyTimer | .retryTimer | .safetyExpire
  | .retryExpire => true
  | _ => false

/-- Nothing but submitting jobs has happened to the worker and its adapter. -/
structure Submits (d d' : Daemon) : Prop where
  running : d'.running = d.running
  stopRequested : d'.stopRequested = d.stopRequested
  connected : d'.connected = d.connected
  jobs : ∃ more, d'.jobs = if d.stopRequested then d.jobs else d.jobs ++ more

namespace Submits

variable {d d' : Daemon}

theorem refl (d : Daemon) : Submits d d := ⟨rfl, rfl, rfl, [], by simp⟩

theorem trans {d₁ d₂ d₃ : Daemon} (h : Submits d₁ d₂) (h' : Submits d₂ d₃) : Submits d₁ d₃ := by
  obtain ⟨more, hjobs⟩ := h.jobs
  obtain ⟨more', hjobs'⟩ := h'.jobs
  refine ⟨h'.running.trans h.running, h'.stopRequested.trans h.stopRequested,
    h'.connected.trans h.connected, more ++ more', ?_⟩
  rw [hjobs', hjobs, h.stopRequested]
  split_ifs <;> simp

/-- Nothing at all. -/
theorem of_jobQueue (hjobs : d'.jobs = d.jobs) (hrunning : d'.running = d.running)
    (hstop : d'.stopRequested = d.stopRequested) (hconnected : d'.connected = d.connected) :
    Submits d d' :=
  ⟨hrunning, hstop, hconnected, [], by simp [hjobs]⟩

theorem roundStable (d : Daemon) : RoundStable (Submits d) where
  suspendNow h _ _ _ := h.trans (.of_jobQueue rfl rfl rfl rfl)
  suspendLater {d₁ _ _} h _ _ _ := h.trans ⟨rfl, rfl, rfl, [.suspend d₁.tickets], rfl⟩
  resumeNow h _ _ _ := h.trans (.of_jobQueue rfl rfl rfl rfl)
  resumeLater {d₁ _ _} h _ _ _ := h.trans ⟨rfl, rfl, rfl, [.resume d₁.tickets], rfl⟩

theorem reconnectStable (d : Daemon) : ReconnectStable (Submits d) where
  quiet _ _ _ h := h.trans (.of_jobQueue rfl rfl rfl rfl)
  attempt {d₁} h := by
    obtain ⟨-, ok, more, -, heq⟩ | ⟨-, -, -, heq⟩ := d₁.reconnectAsync_cases <;> rw [heq]
    · exact h.trans (.of_jobQueue rfl rfl rfl rfl)
    · exact h.trans ⟨rfl, rfl, rfl, [.reconnect d₁.tickets], rfl⟩
  abandon h := h.trans (.of_jobQueue rfl rfl rfl rfl)

theorem settle (rounds : ℕ) (h : Submits d d') : Submits d (settle rounds d') :=
  (roundStable d).settle (fun h => (reconnectStable d).seedReconnect h) rounds h

theorem onRequested (h : Submits d d') (request : PowerLifecycle.Pending) :
    Submits d (d'.onRequested request) := by
  rw [onRequested_eq_settle]
  exact settle _ (h.trans (.of_jobQueue rfl rfl rfl rfl))

theorem dispatches {message : Message} (h : Dispatches d message d') : Submits d d' := by
  cases h with
  | live => exact ⟨rfl, rfl, rfl, [_], rfl⟩
  | _ => exact .of_jobQueue rfl rfl rfl rfl

theorem receive (d : Daemon) (message : Message) : Submits d (d.receive message) := by
  cases d.receives message with
  | requested _ heq =>
      rw [heq]
      exact ((refl d).onRequested _).trans (.of_jobQueue rfl rfl rfl rfl)
  | dispatched _ hdispatches => exact dispatches hdispatches

theorem drained (p : Post) (posts : List Post) :
    Submits d (runPost { d with posts := posts } p) := by
  have hdrained : Submits d { d with posts := posts } := .of_jobQueue rfl rfl rfl rfl
  cases p with
  | suspendDone ticket =>
      simp only [runPost, onSuspendCompleted_eq_settle]
      apply settle
      unfold suspendReported
      split_ifs <;> exact hdrained.trans (.of_jobQueue rfl rfl rfl rfl)
  | resumeDone ticket adapterValid =>
      have hresumed : Submits d (d.resumedWith ticket adapterValid posts) :=
        ⟨rfl, rfl, rfl, replayJobs (if adapterValid then d.queued else []), rfl⟩
      apply resumeDrained_of_reported (P := Submits d) settle
        fun h => (reconnectStable d).seedReconnect h
      unfold resumeReported
      split_ifs
      · exact hresumed.trans (.of_jobQueue rfl rfl rfl rfl)
      · exact hresumed
  | reconnectDone ticket ok =>
      have hnoted : Submits d { d with posts := posts, log := d.log ++ [.invoked ticket] } :=
        .of_jobQueue rfl rfl rfl rfl
      exact (reconnectStable d).onReconnectEvent hnoted _
  | reply id response => exact .of_jobQueue rfl rfl rfl rfl
  | connectionLost => exact (reconnectStable d).onReconnectEvent hdrained _
  | power kind =>
      rw [runPost_power]
      exact hdrained.onRequested _

/-- A step of the main thread that is not the shutdown. -/
theorem of_step {label : Label} (hlabel : label.isHandled = true)
    (hstep : machine.step d label = some d') : Submits d d' := by
  cases moves_of_step hstep with
  | wire message => exact receive d message
  | drain hposts => exact drained _ _
  | safetyTimer =>
      rw [onSafetyTimerFired_eq_settle]
      exact settle _ (.of_jobQueue rfl rfl rfl rfl)
  | retryTimer =>
      exact (reconnectStable d).onReconnectEvent
        (d := { d with reconnectRetryTimer := d.reconnectRetryTimer.consume })
        (.of_jobQueue rfl rfl rfl rfl) _
  | dbusSignal kind => exact .of_jobQueue rfl rfl rfl rfl
  | safetyExpire htimer => exact .of_jobQueue rfl rfl rfl rfl
  | retryExpire htimer => exact .of_jobQueue rfl rfl rfl rfl
  | working hrunning hworks => cases hworks <;> cases hlabel
  | _ => cases hlabel

end Submits

/-- Jobs are submitted one after the other. -/
theorem run_submits (q : JobQueue Job) (jobs : List Job) :
    JobQueue.machine.run q (jobs.map .submit) =
      some { q with queue := if q.stopped then q.queue else q.queue ++ jobs } := by
  induction jobs generalizing q with
  | nil => cases q; simp
  | cons job jobs ih =>
      rw [List.map_cons, JobQueue.machine.run_cons_eq_some]
      refine ⟨_, rfl, ?_⟩
      rw [ih]
      dsimp only
      split_ifs <;> simp

/-- What a handler adds to the jobs is submitted. -/
theorem Submits.run {d d' : Daemon} (h : Submits d d') :
    JobQueue.machine.run d.jobQueue ((d'.jobs.drop d.jobs.length).map .submit) =
      some d'.jobQueue := by
  obtain ⟨more, hjobs⟩ := h.jobs
  rw [run_submits]
  cases hstop : d.stopRequested <;> rw [hstop] at hjobs <;>
    simp [jobQueue, hjobs, h.running, h.stopRequested, hstop]

/-- **The daemon's worker is a queue**: every step of the daemon is seen as calls on one. -/
theorem simulates_jobQueue :
    Machine.Simulates machine JobQueue.machine (fun _ => True) jobQueue calls where
  keeps _ _ := trivial
  step {d label d'} _ hstep := by
    have hhandled (hcalls : d.calls label = (d'.jobs.drop d.jobs.length).map .submit)
        (hsubmits : Submits d d') :
        JobQueue.machine.run d.jobQueue (d.calls label) = some d'.jobQueue :=
      hcalls ▸ hsubmits.run
    cases moves_of_step hstep with
    | wire message => exact hhandled (by rw [calls, hstep]) (.of_step rfl hstep)
    | drain hposts => exact hhandled (by rw [calls, hstep]) (.of_step rfl hstep)
    | safetyTimer => exact hhandled (by rw [calls, hstep]) (.of_step rfl hstep)
    | retryTimer => exact hhandled (by rw [calls, hstep]) (.of_step rfl hstep)
    | workerTake hrunning hjobs hstop =>
        simp [calls, Machine.run, JobQueue.machine, JobQueue.step, jobQueue, takeJob, hrunning,
          hjobs, hstop]
    | stop =>
        rw [stop_eq]
        simp [calls, Machine.run, JobQueue.machine, JobQueue.step, jobQueue]
    | working hrunning hworks =>
        cases hworks with
        | finished hrest =>
            rename_i result throttler
            rcases result with _ | (_ | p) <;>
              simp [calls, Machine.run, JobQueue.machine, JobQueue.step, jobQueue, finishJob,
                hrunning]
        | _ => simp [calls, jobQueue, hrunning]
    | _ => rfl

theorem take_iff (d : Daemon) :
    (machine.step d .workerTake).map jobQueue = JobQueue.machine.step d.jobQueue .take := by
  change (Daemon.step d .workerTake).map jobQueue = d.jobQueue.step .take
  cases hrunning : d.running with
  | some r => simp [Daemon.step, JobQueue.step, jobQueue, hrunning]
  | none =>
      cases hjobs : d.jobs with
      | nil => simp [Daemon.step, JobQueue.step, jobQueue, hrunning, hjobs]
      | cons job jobs =>
          cases hstop : d.stopRequested <;>
            simp [Daemon.step, JobQueue.step, jobQueue, takeJob, hrunning, hjobs, hstop]

end Daemon

/-- **One queue.** What the threads do to the worker's queue, in whatever order, is seen as calls
on a plain queue; what the steps of the daemon do to its jobs is seen as calls on the same kind of
queue; and the daemon takes the job the queue has to give, just when it has one. -/
theorem worker_is_queue {τ : Type} [DecidableEq τ] :
    (∀ labels (m : AdapterWorker τ), AdapterWorker.machine.run {} labels = some m →
      JobQueue.machine.run {} (Worker.machine.seenAlong Worker.seen {} labels) =
        some m.worker.view) ∧
    ∀ setup labels d, Daemon.machine.run (Daemon.boot setup) labels = some d →
      JobQueue.machine.run {}
          (Daemon.machine.seenAlong Daemon.calls (Daemon.boot setup) labels) = some d.jobQueue ∧
        (Daemon.machine.step d .workerTake).map Daemon.jobQueue =
          JobQueue.machine.step d.jobQueue .take := by
  constructor
  · intro labels m hrun
    exact Worker.simulates_view.run Worker.sound_new (AdapterWorker.worker_of_run hrun)
  · intro setup labels d hrun
    have hcalls := Daemon.simulates_jobQueue.run trivial hrun
    exact ⟨hcalls, d.take_iff⟩

/-- A job taken before the stop and one dropped by it, in both. -/
theorem worker_is_queue_on_stop :
    ∃ (m : AdapterWorker ℕ) (d : Daemon),
      AdapterWorker.machine.run {} [.start true, .look, .submit 0 (.suspend 0), .wake, .look,
        .notify 0, .submit 0 (.resume 1), .requestStop 1, .finish true] = some m ∧
      Daemon.machine.run (Daemon.boot {})
        [.wire ⟨.cmdVolumeMute, 0, []⟩, .wire ⟨.cmdSuspend, 0, []⟩, .workerTake, .stop] = some d ∧
      JobQueue.machine.run {} [.submit (.suspend 0), .take, .submit (.resume 1), .stop, .finish] =
        some m.worker.view ∧
      JobQueue.machine.run {}
        [.submit (.live ⟨0, ⟨.cmdVolumeMute, 0, []⟩⟩
            ⟨.cmdVolumeMute, .adapterCall, true, true, some .volumeMute⟩),
          .submit (.suspend 0), .take, .stop] = some d.jobQueue := by
  have hworker : (AdapterWorker.machine.run ({} : AdapterWorker ℕ) [.start true, .look,
      .submit 0 (.suspend 0), .wake, .look, .notify 0, .submit 0 (.resume 1), .requestStop 1,
      .finish true]).isSome = true := by decide
  have hdaemon : (Daemon.machine.run (Daemon.boot {}) [.wire ⟨.cmdVolumeMute, 0, []⟩,
      .wire ⟨.cmdSuspend, 0, []⟩, .workerTake, .stop]).isSome = true := by decide
  obtain ⟨m, hm⟩ := Option.isSome_iff_exists.mp hworker
  obtain ⟨d, hd⟩ := Option.isSome_iff_exists.mp hdaemon
  exact ⟨m, d, hm, hd, worker_is_queue.1 _ m hm, ((worker_is_queue (τ := ℕ)).2 {} _ d hd).1⟩

end CecControl
