/-
# Nobody touches what is gone

The main thread's code is a list of statements, so whether it may be run from where it stands can
be checked statement by statement, ahead of time: what it touches has to be there, and at every
point in between, whatever the threads that may be running can touch. `Ledger` is all of the state
that this check depends on. It is evaluated once, on the code of the daemon; that every
interleaving then keeps to what has been checked is an invariant.
-/

import CecControl.Daemon.Lifetimes

namespace CecControl

open Lib

/-! ## The ledger -/

/-- What the main thread knows of a thread. -/
structure Flags where
  started : Bool := false
  joined : Bool := false
  ordered : Bool := false
  stopping : Bool := false
  notifying : Bool := false
  deriving DecidableEq

/-- The thread may be running. -/
def Flags.up (f : Flags) : Bool := f.started && !f.joined

def Flags.ofWorker {J : Type} (w : Worker Unit J) : Flags where
  started := w.started
  joined := w.joined
  ordered := w.stopRequested
  stopping := w.stopping.isSome
  notifying := decide (() ∈ w.notifying)

/-- Statements of the teardown; only a call can fail. -/
def Act.tearsDown : Act → Bool
  | .call _ | .caught | .order _ | .notify _ | .join _ | .drop _ => true
  | _ => false

def Act.isCall : Act → Bool
  | .call _ => true
  | _ => false

structure Ledger where
  alive : List Part
  monitored : Bool
  flags : Actor → Flags

namespace Ledger

variable (α : Ledger)

def has (parts : List Part) : Bool := parts.all fun p => decide (p ∈ α.alive)

/-- Whatever may be running has what it needs. Before the loop has been entered, the worker has no
job but the scan. -/
def fits (serving : Bool) : Bool :=
  (!α.has [.adapter] || α.has [.work]) &&
    (!(α.flags .adapterWorker).up || α.has [.worker, .adapter]) &&
    (!(serving && (α.flags .adapterWorker).up) || α.has [.lifecycle, .dispatcher]) &&
    (!(α.flags .hookExecutor).up || α.has [.hookExecutor])

/-- What the statement needs is there. -/
def allows : Act → Bool
  | .make p => α.has (p.refs ++ p.givenTo)
  | .require parts => α.has parts
  | .openAdapter => α.has (Part.reach .adapter)
  | .spawn actor => α.has [actor.part] && !(α.flags actor).started
  | .submit job => decide (job = .snapshot) && α.has [.worker] &&
      !(α.flags .adapterWorker).notifying && !(α.flags .adapterWorker).stopping
  | .notify actor => !(α.flags actor).notifying || α.has [actor.part]
  | .monitor => α.has [.supervisor, .work]
  | .attach => !α.has [.dbusMonitor] || α.has (.supervisor :: Part.reach .dbusMonitor)
  | .enter | .caught => true
  | .call p => !α.has [p] || α.has p.reach
  | .order actor => !(α.flags actor).notifying && !(α.flags actor).stopping
  | .join actor => !(α.flags actor).stopping || (α.has [actor.part] && !(α.flags actor).notifying)
  | .drop p => !α.has [p] || α.has p.destructs

def withFlags (actor : Actor) (f : Flags) : Ledger :=
  { α with flags := Function.update α.flags actor f }

def without (p : Part) : Ledger := { α with alive := α.alive.filter (· ≠ p) }

/-- What the statement changes. -/
def after (a : Act) (ok : Bool) : Ledger :=
  match a with
  | .make p => if ok then { α with alive := p :: α.alive } else α
  | .spawn actor => if ok then α.withFlags actor { α.flags actor with started := true } else α
  | .submit _ =>
      if (α.flags .adapterWorker).ordered then α
      else α.withFlags .adapterWorker { α.flags .adapterWorker with notifying := true }
  | .notify actor => α.withFlags actor { α.flags actor with notifying := false }
  | .monitor => if ok then { α with alive := .dbusMonitor :: α.alive, monitored := true } else α
  | .attach => if ok then α else { α.without .dbusMonitor with monitored := false }
  | .order actor =>
      if α.has [actor.part] && !(α.flags actor).ordered then
        α.withFlags actor
          { α.flags actor with ordered := true, stopping := true, notifying := true }
      else α
  | .join actor =>
      if (α.flags actor).stopping then
        α.withFlags actor
          { α.flags actor with stopping := false, joined := (α.flags actor).started }
      else α
  | .drop p => α.without p
  | .require _ | .openAdapter | .enter | .call _ | .caught => α

/-! ## The check -/

/-- The code can be run to its end, and then nothing is left. -/
def endsWell (serving : Bool) : Ledger → List Act → Bool
  | α, [] =>
      α.fits serving && α.alive.isEmpty && !(α.flags .adapterWorker).up &&
        !(α.flags .hookExecutor).up
  | α, a :: rest =>
      α.fits serving && α.allows a && a.tearsDown && endsWell serving (α.after a true) rest

/-- The loop's handlers have what they need. -/
def ready : Bool :=
  α.has (.adapter :: Part.members.filter (· ≠ .dbusMonitor)) &&
    (!α.monitored || α.has [.dbusMonitor])

/-- The main thread is owed nothing and owes nothing. -/
def quiet (actor : Actor) : Bool := !(α.flags actor).notifying && !(α.flags actor).stopping

/-- The loop may go on, and may end. -/
def loops : Bool :=
  α.fits true && α.ready && endsWell true α Act.stop && α.quiet .adapterWorker &&
    α.quiet .hookExecutor

/-- The code can be run to the loop, and can fail on the way. -/
def startsWell : Ledger → List Act → Bool
  | _, [] => false
  | α, a :: rest =>
      α.fits false && α.allows a &&
        match a with
        | .enter => rest.isEmpty && α.loops
        | .make _ | .require _ | .openAdapter | .spawn _ =>
            endsWell false α (Act.unwind α.alive) && startsWell (α.after a true) rest
        | .monitor | .attach => startsWell (α.after a false) rest && startsWell (α.after a true) rest
        | .submit _ | .notify _ => startsWell (α.after a true) rest
        | _ => false

end Ledger

/-- The daemon's code passes. -/
theorem startsWell_start (options : Act.Options) :
    Ledger.startsWell ⟨Part.constructed, false, fun _ => {}⟩ (Act.start options) = true := by
  obtain ⟨scan, monitor, watchdog⟩ := options
  cases scan <;> cases monitor <;> cases watchdog <;> decide +kernel

/-! ## What the main thread knows of a thread -/

namespace Flags

variable {J : Type} {w w' : Worker Unit J}

theorem not_mem_notifying_iff (xs : List Unit) : () ∉ xs ↔ xs = [] := by
  cases xs <;> simp

theorem start {ok : Bool} (hnew : w.started = false) (hstep : w.step (.start ok) = some w') :
    ofWorker w' = if ok then { ofWorker w with started := true } else ofWorker w := by
  simp only [Worker.step, hnew, Bool.false_or] at hstep
  cases ok <;> obtain rfl := Option.some.inj hstep <;> simp [ofWorker]

theorem submit {job : J} (hstep : w.step (.submit () job) = some w') :
    ofWorker w' =
      if w.stopRequested then ofWorker w else { ofWorker w with notifying := true } := by
  simp only [Worker.step] at hstep
  split_ifs at hstep with hbusy hstop <;> obtain rfl := Option.some.inj hstep <;>
    simp [ofWorker, hstop]

theorem notify (hsingle : w.notifying.length ≤ 1) (hmem : () ∈ w.notifying)
    (hstep : w.step (.notify ()) = some w') :
    ofWorker w' = { ofWorker w with notifying := false } := by
  simp only [Worker.step, if_pos hmem] at hstep
  obtain rfl := Option.some.inj hstep
  have hlength := List.length_erase_of_mem hmem
  have hnil : w.notifying.erase () = [] := List.length_eq_zero_iff.mp (by omega)
  simp [ofWorker, hnil]

theorem order (hstep : w.step (.requestStop ()) = some w') :
    ofWorker w' = if w.stopRequested then ofWorker w
      else { ofWorker w with ordered := true, stopping := true, notifying := true } := by
  simp only [Worker.step] at hstep
  split_ifs at hstep with hbusy hstop <;> obtain rfl := Option.some.inj hstep <;>
    simp [ofWorker, hstop]

theorem join (hstep : w.step .join = some w') :
    ofWorker w' = { ofWorker w with stopping := false, joined := w.started } := by
  simp only [Worker.step] at hstep
  split at hstep
  · split_ifs at hstep
    obtain rfl := Option.some.inj hstep
    simp [ofWorker]
  · cases hstep

/-- Nothing the thread does by itself is seen. -/
theorem own {label : Worker.Label Unit J}
    (hown : label = .look ∨ label = .wake ∨ (∃ threw, label = .finish threw) ∨ label = .leave)
    (hstep : w.step label = some w') : ofWorker w' = ofWorker w := by
  rcases hown with rfl | rfl | ⟨threw, rfl⟩ | rfl <;> simp only [Worker.step] at hstep <;>
    split at hstep <;> cases hstep
  · rcases w.look_cases with ⟨-, heq⟩ | ⟨-, -, heq⟩ | ⟨-, job, rest, -, heq⟩ <;> simp [heq, ofWorker]
  all_goals rfl

end Flags

/-- A worker to whom only the main thread talks. -/
structure Tended {J : Type} (w : Worker Unit J) : Prop where
  sound : w.Sound
  single : w.notifying.length ≤ 1

theorem tended_new {J : Type} : Tended ({} : Worker Unit J) := ⟨Worker.sound_new, by simp⟩

theorem Tended.step {J : Type} {w w' : Worker Unit J} (h : Tended w) {label : Worker.Label Unit J}
    (hstep : w.step label = some w') : Tended w' := by
  refine ⟨h.sound.step hstep, ?_⟩
  have hsingle := h.single
  cases label with
  | submit thread job =>
      simp only [Worker.step] at hstep
      split_ifs at hstep with hbusy <;> obtain rfl := Option.some.inj hstep
      · exact hsingle
      · have hfree : w.notifying = [] := by
          rw [← Flags.not_mem_notifying_iff]
          simp only [Worker.busy, decide_eq_true_eq, not_or] at hbusy
          exact hbusy.1
        simp [hfree]
  | requestStop thread =>
      simp only [Worker.step] at hstep
      split_ifs at hstep with hbusy <;> obtain rfl := Option.some.inj hstep
      · exact hsingle
      · have hfree : w.notifying = [] := by
          rw [← Flags.not_mem_notifying_iff]
          simp only [Worker.busy, decide_eq_true_eq, not_or] at hbusy
          exact hbusy.1
        simp [hfree]
  | notify thread =>
      simp only [Worker.step] at hstep
      split_ifs at hstep
      obtain rfl := Option.some.inj hstep
      exact Nat.le_trans (List.length_erase_le) hsingle
  | start created =>
      simp only [Worker.step] at hstep
      split_ifs at hstep <;> obtain rfl := Option.some.inj hstep <;> exact hsingle
  | look =>
      simp only [Worker.step] at hstep
      split at hstep <;> cases hstep
      rcases w.look_cases with ⟨-, heq⟩ | ⟨-, -, heq⟩ | ⟨-, job, rest, -, heq⟩ <;>
        simpa [heq] using hsingle
  | wake | finish | leave =>
      simp only [Worker.step] at hstep
      split at hstep <;> cases hstep
      exact hsingle
  | join =>
      simp only [Worker.step] at hstep
      split at hstep
      · split_ifs at hstep
        obtain rfl := Option.some.inj hstep
        exact hsingle
      · cases hstep

/-- A thread that can do something by itself is up. -/
theorem Tended.up {J : Type} {w : Worker Unit J} (h : Tended w) (hphase : w.phase.gone = false) :
    (Flags.ofWorker w).up = true := by
  have hstarted : w.started = true := by
    by_contra hnew
    simp [h.sound.started.mp (by simpa using hnew), ThreadPhase.gone] at hphase
  have hjoined : w.joined = false := by
    by_contra hjoined
    simp [h.sound.joined (by simpa using hjoined), ThreadPhase.gone] at hphase
  simp [Flags.up, Flags.ofWorker, hstarted, hjoined]

theorem Tended.gone {J : Type} {w : Worker Unit J} (h : Tended w)
    (hdown : (Flags.ofWorker w).up = false) : w.phase.gone = true := by
  by_contra hphase
  simp [h.up (by simpa using hphase)] at hdown

/-! ## The state and its ledger -/

/-- Statements of `start` whose failure makes it return false. -/
def Act.mayFail : Act → Bool
  | .make _ | .require _ | .openAdapter | .spawn _ => true
  | _ => false

namespace DaemonProcess

def ledger (s : DaemonProcess) : Ledger where
  alive := s.alive
  monitored := s.monitored
  flags actor := .ofWorker (s.crew actor)

/-- The loop has been entered. -/
def serving (s : DaemonProcess) : Bool :=
  match s.phase with
  | .starting | .unwinding => false
  | .looping | .stopping => true

variable {s s' : DaemonProcess}

@[simp]
theorem ledger_flags (s : DaemonProcess) (actor : Actor) :
    s.ledger.flags actor = .ofWorker (s.crew actor) := rfl

theorem ledger_withCrew (s : DaemonProcess) (actor : Actor) (worker : Worker Unit actor.Job) :
    (s.withCrew actor worker).ledger = s.ledger.withFlags actor (.ofWorker worker) := by
  have hflags : (s.withCrew actor worker).ledger.flags =
      Function.update s.ledger.flags actor (.ofWorker worker) := by
    funext other
    by_cases hsame : other = actor
    · subst hsame
      simp [withCrew]
    · simp [withCrew, hsame]
  simpa [Ledger.withFlags, ledger, withCrew] using hflags

theorem withFlags_self (s : DaemonProcess) (actor : Actor) :
    s.ledger.withFlags actor (.ofWorker (s.crew actor)) = s.ledger := by
  simp [Ledger.withFlags, ← ledger_flags]

@[simp]
theorem dropped_phase (s : DaemonProcess) (p : Part) : (s.dropped p).phase = s.phase := by
  unfold dropped
  split_ifs <;> rfl

@[simp]
theorem dropped_todo (s : DaemonProcess) (p : Part) : (s.dropped p).todo = s.todo := by
  unfold dropped
  split_ifs <;> rfl

@[simp]
theorem dropped_crew (s : DaemonProcess) (p : Part) : (s.dropped p).crew = s.crew := by
  unfold dropped
  split_ifs <;> rfl

theorem ledger_dropped (s : DaemonProcess) (p : Part) : (s.dropped p).ledger = s.ledger.without p := by
  unfold dropped
  split_ifs <;> rfl

/-- What holds of the threads, wherever the main thread is. -/
structure Manned (s : DaemonProcess) : Prop where
  crew : ∀ actor, Tended (s.crew actor)
  scans : s.serving = false → ∀ job ∈ (s.crew .adapterWorker).accepted, job = AdapterJob.snapshot
  bus : s.busThreads = true → .adapter ∈ s.alive

theorem has_iff {α : Ledger} {parts : List Part} : α.has parts = true ↔ ∀ p ∈ parts, p ∈ α.alive := by
  simp [Ledger.has]

/-- The statement has been carried out. -/
structure Performed (s s' : DaemonProcess) (a : Act) (ok : Bool) : Prop where
  ledger : s'.ledger = s.ledger.after a ok
  phase : s'.phase = if a = .enter then .looping else s.phase
  todo : s'.todo = s.todo ∨ ∃ p, a = .call p ∧ ok = false
  succeeded : a.mayFail = true → ok = true

/-- `start` returns false. -/
structure Failed (s s' : DaemonProcess) (a : Act) : Prop where
  mayFail : a.mayFail = true
  ledger : s'.ledger = s.ledger
  phase : s'.phase = .unwinding
  todo : s'.todo = Act.unwind s.alive

/-- A step of a worker shows by its flags only. -/
theorem ledger_of_crew {actor : Actor} {f : Flags} {label : Worker.Label Unit actor.Job}
    (hflags : ∀ worker, (s.crew actor).step label = some worker → Flags.ofWorker worker = f)
    (hstep : ((s.crew actor).step label).map (s.withCrew actor) = some s') :
    s'.ledger = s.ledger.withFlags actor f ∧ s'.phase = s.phase ∧ s'.todo = s.todo := by
  obtain ⟨worker, hworker, rfl⟩ := Option.map_eq_some_iff.mp hstep
  rw [ledger_withCrew, hflags worker hworker]
  exact ⟨rfl, rfl, rfl⟩

theorem performed_submit {job : AdapterJob} {ok : Bool}
    (hstep : s.perform (.submit job) ok = some s') : Performed s s' (.submit job) ok := by
  change ((s.crew .adapterWorker).step (.submit () job)).map (s.withCrew .adapterWorker) = some s'
    at hstep
  obtain ⟨hledger, hphase, htodo⟩ := ledger_of_crew (fun worker hworker => Flags.submit hworker) hstep
  refine ⟨?_, hphase, .inl htodo, nofun⟩
  rw [hledger]
  cases hstop : (s.crew .adapterWorker).stopRequested with
  | true => simpa [Ledger.after, Flags.ofWorker, hstop] using withFlags_self s .adapterWorker
  | false => simp [Ledger.after, Flags.ofWorker, hstop]

theorem performed_notify (h : Manned s) {actor : Actor} {ok : Bool}
    (hstep : s.perform (.notify actor) ok = some s') : Performed s s' (.notify actor) ok := by
  by_cases hmem : () ∈ (s.crew actor).notifying
  · simp only [perform, if_pos hmem] at hstep
    obtain ⟨hledger, hphase, htodo⟩ :=
      ledger_of_crew (fun worker hworker => Flags.notify (h.crew actor).single hmem hworker) hstep
    exact ⟨hledger, hphase, .inl htodo, nofun⟩
  · simp only [perform, if_neg hmem] at hstep
    obtain rfl := Option.some.inj hstep
    refine ⟨?_, rfl, .inl rfl, nofun⟩
    conv_lhs => rw [← withFlags_self s actor]
    simp [Ledger.after, Flags.ofWorker, hmem]

theorem performed_order {actor : Actor} {ok : Bool}
    (hstep : s.perform (.order actor) ok = some s') : Performed s s' (.order actor) ok := by
  by_cases halive : actor.part ∈ s.alive
  · simp only [perform, if_pos halive] at hstep
    obtain ⟨hledger, hphase, htodo⟩ :=
      ledger_of_crew (fun worker hworker => Flags.order hworker) hstep
    refine ⟨?_, hphase, .inl htodo, nofun⟩
    have hhas : s.ledger.has [actor.part] = true := has_iff.mpr (by simpa [ledger] using halive)
    rw [hledger]
    cases hstop : (s.crew actor).stopRequested with
    | true => simpa [Ledger.after, Flags.ofWorker, hstop, hhas] using withFlags_self s actor
    | false => simp [Ledger.after, Flags.ofWorker, hstop, hhas]
  · simp only [perform, if_neg halive] at hstep
    obtain rfl := Option.some.inj hstep
    refine ⟨?_, rfl, .inl rfl, nofun⟩
    have hhas : s.ledger.has [actor.part] = false := by
      rw [← Bool.not_eq_true, has_iff]
      simpa [ledger] using halive
    simp [Ledger.after, hhas]

theorem performed_join {actor : Actor} {ok : Bool}
    (hstep : s.perform (.join actor) ok = some s') : Performed s s' (.join actor) ok := by
  by_cases hstopping : (s.crew actor).stopping.isSome = true
  · simp only [perform, if_pos hstopping] at hstep
    obtain ⟨hledger, hphase, htodo⟩ :=
      ledger_of_crew (fun worker hworker => Flags.join hworker) hstep
    refine ⟨?_, hphase, .inl htodo, nofun⟩
    rw [hledger]
    simp [Ledger.after, Flags.ofWorker, hstopping]
  · simp only [perform, if_neg hstopping] at hstep
    obtain rfl := Option.some.inj hstep
    refine ⟨?_, rfl, .inl rfl, nofun⟩
    simp [Ledger.after, Flags.ofWorker, hstopping]

/-- **Statement.** What one statement does is what the ledger says. -/
theorem performed_or_failed (h : Manned s) {a : Act} {ok : Bool} (hallows : s.ledger.allows a = true)
    (hstep : s.perform a ok = some s') : Performed s s' a ok ∨ Failed s s' a := by
  cases a with
  | make p =>
      cases ok <;> obtain rfl := Option.some.inj hstep
      · exact .inr ⟨rfl, rfl, rfl, rfl⟩
      · exact .inl ⟨rfl, rfl, .inl rfl, fun _ => rfl⟩
  | require parts =>
      cases ok <;> obtain rfl := Option.some.inj hstep
      · exact .inr ⟨rfl, rfl, rfl, rfl⟩
      · exact .inl ⟨rfl, rfl, .inl rfl, fun _ => rfl⟩
  | openAdapter =>
      cases ok <;> obtain rfl := Option.some.inj hstep
      · exact .inr ⟨rfl, rfl, rfl, rfl⟩
      · exact .inl ⟨rfl, rfl, .inl rfl, fun _ => rfl⟩
  | spawn actor =>
      have hnew : (s.crew actor).started = false := by
        simpa [Ledger.allows, Flags.ofWorker] using (Bool.and_eq_true_iff.mp hallows).2
      obtain ⟨worker, hworker, hnext⟩ := Option.map_eq_some_iff.mp hstep
      cases ok with
      | false =>
          obtain rfl : s.fail = s' := hnext
          exact .inr ⟨rfl, rfl, rfl, rfl⟩
      | true =>
          obtain rfl : s.withCrew actor worker = s' := hnext
          refine .inl ⟨?_, rfl, .inl rfl, fun _ => rfl⟩
          rw [ledger_withCrew, Flags.start hnew hworker]
          rfl
  | submit job => exact .inl (performed_submit hstep)
  | notify actor => exact .inl (performed_notify h hstep)
  | monitor => cases ok <;> obtain rfl := Option.some.inj hstep <;> exact .inl ⟨rfl, rfl, .inl rfl, nofun⟩
  | attach =>
      cases ok <;> obtain rfl := Option.some.inj hstep
      · exact .inl ⟨by simp [ledger, dropped, Ledger.after, Ledger.without], by simp [dropped],
          .inl (by simp [dropped]), nofun⟩
      · exact .inl ⟨rfl, rfl, .inl rfl, nofun⟩
  | enter =>
      obtain rfl := Option.some.inj hstep
      exact .inl ⟨rfl, rfl, .inl rfl, nofun⟩
  | call p =>
      simp only [perform] at hstep
      obtain rfl := Option.some.inj hstep
      split_ifs with hok
      · exact .inl ⟨rfl, rfl, .inl rfl, nofun⟩
      · exact .inl ⟨rfl, rfl, .inr ⟨p, rfl, by simp_all⟩, nofun⟩
  | caught =>
      obtain rfl := Option.some.inj hstep
      exact .inl ⟨rfl, rfl, .inl rfl, nofun⟩
  | order actor => exact .inl (performed_order hstep)
  | join actor => exact .inl (performed_join hstep)
  | drop p =>
      obtain rfl := Option.some.inj hstep
      exact .inl ⟨ledger_dropped s p, by simp, .inl (by simp), nofun⟩

/-! ### Threads that go on -/

theorem tended_withCrew (h : Manned s) {actor : Actor} {label : Worker.Label Unit actor.Job}
    {worker : Worker Unit actor.Job} (hstep : (s.crew actor).step label = some worker)
    (other : Actor) : Tended ((s.withCrew actor worker).crew other) := by
  by_cases hsame : other = actor
  · subst hsame
    simpa [withCrew] using (h.crew other).step hstep
  · simpa [withCrew, hsame] using h.crew other

/-- A step of one worker by which it gets no job. -/
theorem Manned.withCrew (h : Manned s) {actor : Actor} {label : Worker.Label Unit actor.Job}
    (hlabel : ∀ job, label ≠ .submit () job) {worker : Worker Unit actor.Job}
    (hstep : (s.crew actor).step label = some worker) : Manned (s.withCrew actor worker) where
  crew := tended_withCrew h hstep
  scans hserving job hjob := by
    cases actor with
    | hookExecutor => exact h.scans hserving job (by simpa [DaemonProcess.withCrew] using hjob)
    | adapterWorker =>
        replace hjob : job ∈ worker.accepted := by simpa [DaemonProcess.withCrew] using hjob
        have hsame := (Worker.accepted_of_step hstep).resolve_right
          fun ⟨_, job, hsubmit, _⟩ => hlabel job hsubmit
        exact h.scans hserving job (hsame ▸ hjob)
  bus := h.bus

theorem Manned.submitted (h : Manned s) {job : Actor.Job .adapterWorker}
    (hscan : s.serving = false → job = AdapterJob.snapshot)
    {worker : Worker Unit (Actor.Job .adapterWorker)}
    (hstep : (s.crew .adapterWorker).step (.submit () job) = some worker) :
    Manned (s.withCrew .adapterWorker worker) where
  crew := tended_withCrew h hstep
  scans hserving other hother := by
    replace hother : other ∈ worker.accepted := by simpa [DaemonProcess.withCrew] using hother
    have hmachine : Worker.machine.step (s.crew .adapterWorker) (.submit () job) = some worker := hstep
    rcases Worker.accepted_of_step hmachine with hsame | ⟨thread, job', hjob, hmore⟩
    · exact h.scans hserving other (hsame ▸ hother)
    · rcases List.mem_append.mp (hmore ▸ hother) with hold | hnew
      · exact h.scans hserving other hold
      · cases hjob
        rw [List.mem_singleton.mp hnew]
        exact hscan hserving
  bus := h.bus

theorem Manned.dropped (h : Manned s) (p : Part) : Manned (s.dropped p) where
  crew actor := by
    rw [dropped_crew]
    exact h.crew actor
  scans hserving := by
    rw [dropped_crew]
    exact h.scans (by simpa [serving] using hserving)
  bus hbus := by
    unfold DaemonProcess.dropped at hbus ⊢
    split_ifs at hbus ⊢ with hadapter
    exact List.mem_filter.mpr ⟨h.bus hbus, by simpa using Ne.symm hadapter⟩

/-- The main thread is elsewhere, and parts have been added at most. -/
theorem Manned.moved (h : Manned s) (hserving : s'.serving = false → s.serving = false)
    (hcrew : s'.crew = s.crew) (halive : s.alive ⊆ s'.alive)
    (hbus : s'.busThreads = true → s.busThreads = true ∨ .adapter ∈ s.alive) : Manned s' where
  crew actor := hcrew ▸ h.crew actor
  scans hnew := hcrew ▸ h.scans (hserving hnew)
  bus hnew := halive ((hbus hnew).elim h.bus id)

/-- Statements other than those of the teardown stand before the loop. -/
theorem Manned.perform (h : Manned s) {a : Act} {ok : Bool} (hallows : s.ledger.allows a = true)
    (hserving : a.tearsDown = true ∨ s.serving = false) (hstep : s.perform a ok = some s') :
    Manned s' := by
  have hfail (hbefore : s.serving = false) : Manned s.fail :=
    h.moved (fun _ => hbefore) rfl (fun _ hmem => hmem) Or.inl
  have hworker {actor : Actor} {label : Worker.Label Unit actor.Job}
      (hlabel : ∀ job, label ≠ .submit () job)
      (hstep : ((s.crew actor).step label).map (s.withCrew actor) = some s') : Manned s' := by
    obtain ⟨worker, hworker, rfl⟩ := Option.map_eq_some_iff.mp hstep
    exact h.withCrew hlabel hworker
  cases a with
  | make p =>
      cases ok <;> obtain rfl := Option.some.inj hstep
      · exact hfail (hserving.resolve_left (by simp [Act.tearsDown]))
      · exact h.moved id rfl (fun _ hmem => List.mem_cons_of_mem _ hmem) Or.inl
  | require parts =>
      cases ok <;> obtain rfl := Option.some.inj hstep
      · exact hfail (hserving.resolve_left (by simp [Act.tearsDown]))
      · exact h
  | openAdapter =>
      have hbefore := hserving.resolve_left (by simp [Act.tearsDown])
      have hadapter : .adapter ∈ s.alive := has_iff.mp hallows .adapter (by decide)
      cases ok <;> obtain rfl := Option.some.inj hstep
      · exact h.moved (fun _ => hbefore) rfl (fun _ hmem => hmem) fun _ => Or.inr hadapter
      · exact h.moved id rfl (fun _ hmem => hmem) fun _ => Or.inr hadapter
  | spawn actor =>
      obtain ⟨worker, hstarted, hnext⟩ := Option.map_eq_some_iff.mp hstep
      cases ok with
      | false =>
          obtain rfl : s.fail = s' := hnext
          exact hfail (hserving.resolve_left (by simp [Act.tearsDown]))
      | true =>
          obtain rfl : s.withCrew actor worker = s' := hnext
          exact h.withCrew (by simp) hstarted
  | submit job =>
      obtain ⟨worker, hsubmitted, rfl⟩ := Option.map_eq_some_iff.mp hstep
      refine h.submitted (fun _ => ?_) hsubmitted
      simp only [Ledger.allows, Bool.and_eq_true, decide_eq_true_eq] at hallows
      exact hallows.1.1.1
  | notify actor =>
      simp only [DaemonProcess.perform] at hstep
      split_ifs at hstep
      · exact hworker (by simp) hstep
      · exact Option.some.inj hstep ▸ h
  | monitor =>
      cases ok <;> obtain rfl := Option.some.inj hstep
      · exact h
      · exact h.moved id rfl (fun _ hmem => List.mem_cons_of_mem _ hmem) Or.inl
  | attach =>
      cases ok <;> obtain rfl := Option.some.inj hstep
      · exact (h.dropped .dbusMonitor).moved id rfl (fun _ hmem => hmem) Or.inl
      · exact h
  | enter =>
      obtain rfl := Option.some.inj hstep
      exact h.moved (by simp [serving]) rfl (fun _ hmem => hmem) Or.inl
  | call p =>
      obtain rfl := Option.some.inj hstep
      split_ifs
      · exact h
      · exact h.moved id rfl (fun _ hmem => hmem) Or.inl
  | caught => exact Option.some.inj hstep ▸ h
  | order actor =>
      simp only [DaemonProcess.perform] at hstep
      split_ifs at hstep
      · exact hworker (by simp) hstep
      · exact Option.some.inj hstep ▸ h
  | join actor =>
      simp only [DaemonProcess.perform] at hstep
      split_ifs at hstep
      · exact hworker (by simp) hstep
      · exact Option.some.inj hstep ▸ h
  | drop p => exact Option.some.inj hstep ▸ h.dropped p

/-! ### What is touched is there -/

/-- A statement the ledger allows touches what is there. -/
theorem mem_alive_of_allows {a : Act} (hallows : s.ledger.allows a = true) :
    ∀ p ∈ s.actTouches a, p ∈ s.alive := by
  have hif {p : Part} {parts : List Part}
      (hparts : (!s.ledger.has [p] || s.ledger.has parts) = true) :
      ∀ q ∈ s.ifAlive p parts, q ∈ s.alive := by
    intro q hq
    unfold ifAlive at hq
    split_ifs at hq with hp
    · have hhas : s.ledger.has [p] = true := has_iff.mpr (by simpa [ledger] using hp)
      rw [hhas] at hparts
      exact has_iff.mp (by simpa using hparts) q hq
    · cases hq
  cases a with
  | make p => exact has_iff.mp hallows
  | require parts => exact has_iff.mp hallows
  | openAdapter => exact has_iff.mp hallows
  | spawn actor => exact has_iff.mp (Bool.and_eq_true_iff.mp hallows).1
  | submit job =>
      simp only [Ledger.allows, Bool.and_eq_true] at hallows
      exact has_iff.mp hallows.1.1.2
  | notify actor =>
      intro q hq
      simp only [actTouches] at hq
      split_ifs at hq with hmem
      · have hhas : s.ledger.has [actor.part] = true := by
          simpa [Ledger.allows, Flags.ofWorker, hmem] using hallows
        exact has_iff.mp hhas q hq
      · cases hq
  | monitor => exact has_iff.mp hallows
  | attach => exact hif hallows
  | enter => simp [actTouches]
  | call p => exact hif hallows
  | caught => simp [actTouches]
  | order actor => exact hif (by simp)
  | join actor =>
      intro q hq
      simp only [actTouches] at hq
      split_ifs at hq with hstopping
      · simp only [Ledger.allows, ledger_flags, Flags.ofWorker, hstopping, Bool.not_true,
          Bool.false_or, Bool.and_eq_true] at hallows
        exact has_iff.mp hallows.1 q hq
      · cases hq
  | drop p =>
      intro q hq
      simp only [actTouches, ifAlive] at hq
      split_ifs at hq with hp
      · rcases List.mem_cons.mp hq with rfl | hq
        · exact hp
        · have hhas : s.ledger.has [p] = true := has_iff.mpr (by simpa [ledger] using hp)
          exact has_iff.mp (by simpa [Ledger.allows, hhas] using hallows) q hq
      · cases hq

end DaemonProcess

end CecControl
