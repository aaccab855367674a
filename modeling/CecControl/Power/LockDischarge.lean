/-
# Exactly-once discharge of the inhibit lock

The sequencer is fed an arbitrary list of events: requests, pumps, completions,
and any number of safety-timer firings and arm failures, stale ones included. A
cycle runs from the output that starts its work to the output that returns the
phase to idle.

Whose cycle it is, the events tell: requests wait in the order they came, one
that equals the last is dropped, and a cycle serves the oldest that is not yet
finished. The sequencer's own record of the source is compared with that.

Inside a suspend cycle the release obligation is paid either by the safety timer
or by the completion. The invariant that makes this exactly once is that the
number of releases emitted so far in the cycle is one iff the cycle belongs to
D-Bus and `safetyFiredFirst` is set, and that the flag records precisely whether
a `fired` outcome was emitted.
-/

import CecControl.Power.PowerLifecycle
import Mathlib.Data.List.Induction

namespace CecControl.PowerLifecycle

/-- The inputs of the sequencer. -/
inductive Event
  | suspendRequested (source : Source)
  | resumeRequested (source : Source)
  | pumpQueue
  | suspendCompleted
  | resumeCompleted (adapterValid : Bool)
  | safetyTimerFired
  | safetyTimerArmFailed
  deriving DecidableEq, Repr

/-- Route an event to its handler. -/
def handle (p : PowerLifecycle) : Event → PowerLifecycle × Output
  | .suspendRequested source => p.onSuspendRequested source
  | .resumeRequested source => p.onResumeRequested source
  | .pumpQueue => p.pumpQueue
  | .suspendCompleted => p.onSuspendCompleted
  | .resumeCompleted adapterValid => p.onResumeCompleted adapterValid
  | .safetyTimerFired => p.onSafetyTimerFired
  | .safetyTimerArmFailed => p.onSafetyTimerArmFailed

/-- One handled event with the states around it. -/
structure Transition where
  before : PowerLifecycle
  event : Event
  output : Output
  after : PowerLifecycle
  deriving DecidableEq, Repr

/-- Feed the events in order and record every transition. -/
def trace : PowerLifecycle → List Event → List Transition
  | _, [] => []
  | p, event :: events =>
      ⟨p, event, (p.handle event).2, (p.handle event).1⟩ :: trace (p.handle event).1 events

/-- The request an event makes. -/
def Event.request : Event → Option Pending
  | .suspendRequested source => some ⟨.suspend, source⟩
  | .resumeRequested source => some ⟨.resume, source⟩
  | _ => none

/-- The output returns the phase to idle. -/
def Transition.Completes (t : Transition) : Prop :=
  t.before.phase ≠ .idle ∧ t.after.phase = .idle

instance (t : Transition) : Decidable t.Completes := inferInstanceAs (Decidable (_ ∧ _))

/-- A request joins those that wait unless it equals the last of them, and the end
of a cycle finishes the oldest. -/
def advance (waiting : List Pending) (t : Transition) : List Pending :=
  match t.event.request with
  | some request =>
      if waiting.getLast? = some request then waiting else waiting ++ [request]
  | none => if t.Completes then waiting.tail else waiting

/-- The requests not yet finished, oldest first, as the events tell it. -/
def outstanding (steps : List Transition) : List Pending := steps.foldl advance []

/-- The request that a cycle opened next serves. -/
def served (earlier : List Transition) : Option Pending := (outstanding earlier).head?

/-- `entry`, `interior`, `completion` is a complete cycle of `work` inside
`steps`, behind `earlier`: it starts with the output that starts the work and ends
with the first output after it that returns the phase to idle. -/
def IsCycle (work : Work) (steps earlier : List Transition) (entry : Transition)
    (interior : List Transition) (completion : Transition) : Prop :=
  entry.output.work = work ∧ (∀ t ∈ interior, t.after.phase ≠ .idle) ∧
    completion.after.phase = .idle ∧
    ∃ later, steps = earlier ++ entry :: (interior ++ completion :: later)

/-- The transition after `earlier` belongs to a cycle of `work` that serves
`request`: no output since the one that opened it has returned the phase to
idle. -/
def InCycle (work : Work) (earlier : List Transition) (request : Pending) : Prop :=
  ∃ before entry interior, earlier = before ++ entry :: interior ∧
    entry.output.work = work ∧ served before = some request ∧
    ∀ t ∈ interior, t.after.phase ≠ .idle

/-- How many outputs of a stretch carry the lock operation `op`. -/
def lockCount (op : Lock) (steps : List Transition) : ℕ :=
  steps.countP fun t => t.output.lock = op

/-! ## What one event can do -/

/-- Everything one event can do to the phase, the firing flag and the outputs
that matter for the lock. -/
theorem handle_cases (p : PowerLifecycle) (event : Event) :
    ((p.handle event).1.phase = p.phase ∧ (p.handle event).1.phaseSource = p.phaseSource ∧
      (p.handle event).1.safetyFiredFirst = p.safetyFiredFirst ∧ (p.handle event).2 = {}) ∨
    (p.phase = .idle ∧ (p.handle event).1.phase = .suspending ∧
      (p.handle event).1.safetyFiredFirst = false ∧ (p.handle event).2.work = .startSuspend ∧
      (p.handle event).2.lock = .none ∧ (p.handle event).2.safety = .inert ∧
      p.pending.head? = some ⟨.suspend, (p.handle event).1.phaseSource⟩) ∨
    (p.phase = .idle ∧ (p.handle event).1.phase = .resuming ∧
      (p.handle event).2.work = .startResume ∧
      (p.handle event).2.lock = .none ∧ (p.handle event).2.safety = .inert ∧
      p.pending.head? = some ⟨.resume, (p.handle event).1.phaseSource⟩) ∨
    (p.phase = .suspending ∧ (p.handle event).1.phase = .idle ∧
      (p.handle event).2.work = .none ∧
      (p.handle event).2.lock =
        (if p.safetyFiredFirst = false ∧ p.phaseSource = .dbus then .release else .none) ∧
      (p.handle event).2.safety = (if p.safetyFiredFirst then .overrun else .inert)) ∨
    (p.phase = .resuming ∧ (p.handle event).1.phase = .idle ∧
      (p.handle event).2.work = .none ∧
      (p.handle event).2.lock = (if p.phaseSource = .dbus then .take else .none) ∧
      (p.handle event).2.safety = .inert) ∨
    (p.phase = .suspending ∧ p.safetyFiredFirst = false ∧
      (p.handle event).1.phase = .suspending ∧
      (p.handle event).1.phaseSource = p.phaseSource ∧
      (p.handle event).1.safetyFiredFirst = true ∧ (p.handle event).2.work = .none ∧
      (p.handle event).2.lock = (if p.phaseSource = .dbus then .release else .none) ∧
      (p.handle event).2.safety = .fired) := by
  obtain ⟨phase, phaseSource, fired, pending⟩ := p
  cases event with
  | suspendRequested source =>
      left
      simp only [handle, onSuspendRequested, onRequested_eq]
      split <;> simp
  | resumeRequested source =>
      left
      simp only [handle, onResumeRequested, onRequested_eq]
      split <;> simp
  | pumpQueue =>
      cases phase with
      | idle =>
          cases pending with
          | nil => left; simp [handle, pumpQueue]
          | cons next rest =>
              obtain ⟨kind, source⟩ := next
              cases kind with
              | suspend => right; left; simp [handle, pumpQueue, makeSuspendEntry]
              | resume => right; right; left; simp [handle, pumpQueue, makeResumeEntry]
      | suspending => left; simp [handle, pumpQueue]
      | resuming => left; simp [handle, pumpQueue]
  | suspendCompleted =>
      cases phase with
      | idle => left; simp [handle, onSuspendCompleted]
      | resuming => left; simp [handle, onSuspendCompleted]
      | suspending =>
          right; right; right; left
          cases fired <;> cases phaseSource <;> simp [handle, onSuspendCompleted]
  | resumeCompleted adapterValid =>
      cases phase with
      | idle => left; simp [handle, onResumeCompleted]
      | suspending => left; simp [handle, onResumeCompleted]
      | resuming =>
          right; right; right; right; left
          cases phaseSource <;> simp [handle, onResumeCompleted]
  | safetyTimerFired =>
      cases phase with
      | idle => left; simp [handle, onSafetyTimerFired]
      | resuming => left; simp [handle, onSafetyTimerFired]
      | suspending =>
          cases fired with
          | true => left; simp [handle, onSafetyTimerFired]
          | false =>
              right; right; right; right; right
              cases phaseSource <;> simp [handle, onSafetyTimerFired]
  | safetyTimerArmFailed => left; simp [handle, onSafetyTimerArmFailed]

/-! ## Recorded transitions form a path -/

/-- The transitions lead from `p` to `q`, each handling its event in the state
the one before it left. -/
def Path : PowerLifecycle → List Transition → PowerLifecycle → Prop
  | p, [], q => p = q
  | p, t :: ts, q =>
      t.before = p ∧ t.after = (p.handle t.event).1 ∧ t.output = (p.handle t.event).2 ∧
        Path t.after ts q

theorem path_trace (p : PowerLifecycle) (events : List Event) :
    ∃ q, Path p (trace p events) q := by
  induction events generalizing p with
  | nil => exact ⟨p, rfl⟩
  | cons event events ih =>
      obtain ⟨q, hq⟩ := ih (p.handle event).1
      exact ⟨q, rfl, rfl, rfl, hq⟩

theorem path_append {p q : PowerLifecycle} {first second : List Transition} :
    Path p (first ++ second) q ↔ ∃ middle, Path p first middle ∧ Path middle second q := by
  induction first generalizing p with
  | nil => simp [Path]
  | cons t ts ih =>
      simp only [List.cons_append, Path, ih]
      constructor
      · rintro ⟨hbefore, hafter, houtput, middle, hfirst, hsecond⟩
        exact ⟨middle, ⟨hbefore, hafter, houtput, hfirst⟩, hsecond⟩
      · rintro ⟨middle, ⟨hbefore, hafter, houtput, hfirst⟩, hsecond⟩
        exact ⟨hbefore, hafter, houtput, middle, hfirst, hsecond⟩

/-! ## The requests that wait -/

/-- The sequencer's queue and the request in flight are what the events tell. -/
theorem unfinished_handle (p : PowerLifecycle) (event : Event) :
    (p.handle event).1.unfinished =
      advance p.unfinished ⟨p, event, (p.handle event).2, (p.handle event).1⟩ := by
  have hrequested (kind : EventKind) (source : Source) :
      (p.onRequested kind source).1.unfinished =
        if p.unfinished.getLast? = some ⟨kind, source⟩ then p.unfinished
        else p.unfinished ++ [⟨kind, source⟩] := by
    rw [onRequested_eq]
    split_ifs
    · rfl
    · simp [unfinished, active]
  cases event with
  | suspendRequested source => exact hrequested .suspend source
  | resumeRequested source => exact hrequested .resume source
  | pumpQueue =>
      obtain ⟨phase, phaseSource, fired, pending⟩ := p
      cases phase with
      | idle =>
          rcases pending with _ | ⟨⟨kind, source⟩, rest⟩
          · rfl
          · cases kind <;> simp [handle, pumpQueue, makeSuspendEntry, makeResumeEntry, advance,
              Event.request, Transition.Completes, unfinished, active]
      | suspending => simp [handle, pumpQueue, advance, Event.request, Transition.Completes]
      | resuming => simp [handle, pumpQueue, advance, Event.request, Transition.Completes]
  | suspendCompleted =>
      by_cases hphase : p.phase = .suspending
      · simp [handle, onSuspendCompleted_of_suspending hphase, advance, Event.request,
          Transition.Completes, unfinished, active, hphase]
      · simp [handle, onSuspendCompleted_of_not_suspending hphase, advance, Event.request,
          Transition.Completes]
  | resumeCompleted adapterValid =>
      by_cases hphase : p.phase = .resuming
      · simp [handle, onResumeCompleted_of_resuming hphase, advance, Event.request,
          Transition.Completes, unfinished, active, hphase]
      · simp [handle, onResumeCompleted_of_not_resuming hphase, advance, Event.request,
          Transition.Completes]
  | safetyTimerFired =>
      have hkeeps : p.onSafetyTimerFired.1.phase = p.phase ∧
          p.onSafetyTimerFired.1.unfinished = p.unfinished := by
        unfold onSafetyTimerFired
        split_ifs <;> exact ⟨rfl, rfl⟩
      simp [handle, advance, Event.request, Transition.Completes, hkeeps]
  | safetyTimerArmFailed =>
      simp [handle, onSafetyTimerArmFailed, advance, Event.request, Transition.Completes]

theorem unfinished_of_path {p : PowerLifecycle} {steps : List Transition}
    (hpath : Path {} steps p) : p.unfinished = outstanding steps := by
  induction steps using List.reverseRecOn generalizing p with
  | nil =>
      obtain rfl : ({} : PowerLifecycle) = p := hpath
      rfl
  | append_singleton steps t ih =>
      obtain ⟨middle, hsteps, hbefore, hafter, houtput, rfl⟩ := path_append.mp hpath
      have ht : t = ⟨middle, t.event, (middle.handle t.event).2, (middle.handle t.event).1⟩ := by
        rw [← hafter, ← houtput, ← hbefore]
      rw [outstanding, List.foldl_append, ← outstanding, ← ih hsteps, hafter, unfinished_handle]
      conv_rhs => rw [ht]
      rfl

/-- Whatever waits has been requested. -/
theorem requested_of_outstanding {steps : List Transition} {request : Pending}
    (hmem : request ∈ outstanding steps) : ∃ t ∈ steps, t.event.request = some request := by
  induction steps using List.reverseRecOn with
  | nil => cases hmem
  | append_singleton steps t ih =>
      have hcases : request ∈ outstanding steps ∨ t.event.request = some request := by
        rw [outstanding, List.foldl_append, ← outstanding] at hmem
        simp only [List.foldl_cons, List.foldl_nil, advance] at hmem
        split at hmem
        · next other hother =>
            split_ifs at hmem
            · exact .inl hmem
            · rcases List.mem_append.mp hmem with hold | hnew
              · exact .inl hold
              · rw [List.mem_singleton.mp hnew]
                exact .inr hother
        · split_ifs at hmem
          · exact .inl (List.mem_of_mem_tail hmem)
          · exact .inl hmem
      rcases hcases with hold | hnew
      · obtain ⟨u, hu, hrequest⟩ := ih hold
        exact ⟨u, List.mem_append_left _ hu, hrequest⟩
      · exact ⟨t, by simp, hnew⟩

/-- The output that starts a work serves the oldest request, which is of its kind,
and its source is taken over. -/
theorem served_of_path {p : PowerLifecycle} {earlier : List Transition}
    (hpath : Path {} earlier p) (event : Event) :
    ((p.handle event).2.work = .startSuspend →
      served earlier = some ⟨.suspend, (p.handle event).1.phaseSource⟩) ∧
    ((p.handle event).2.work = .startResume →
      served earlier = some ⟨.resume, (p.handle event).1.phaseSource⟩) := by
  have hserved (hidle : p.phase = .idle) : served earlier = p.pending.head? := by
    rw [served, ← unfinished_of_path hpath, unfinished, (active_eq_none_iff p).mpr hidle]
    rfl
  rcases p.handle_cases event with h | h | h | h | h | h
  · simp [h.2.2.2]
  · rw [hserved h.1]
    simp [h.2.2.2.1, h.2.2.2.2.2.2]
  · rw [hserved h.1]
    simp [h.2.2.1, h.2.2.2.2.2]
  · simp [h.2.2.1]
  · simp [h.2.2.1]
  · simp [h.2.2.2.2.2.1]

/-! ## The interior of a cycle -/

/-- The interior of a suspend cycle: the flag records whether the safety timer
has fired, and a release has been emitted iff it has and the cycle is D-Bus's. -/
theorem suspending_interior {p q : PowerLifecycle} {interior : List Transition}
    (hpath : Path p interior q) (hphase : p.phase = .suspending)
    (hopen : ∀ t ∈ interior, t.after.phase ≠ .idle) :
    q.phase = .suspending ∧ q.phaseSource = p.phaseSource ∧
      (q.safetyFiredFirst = true ↔
        p.safetyFiredFirst = true ∨ ∃ t ∈ interior, t.output.safety = .fired) ∧
      lockCount .take interior = 0 ∧
      lockCount .release interior =
        (if q.safetyFiredFirst = true ∧ p.safetyFiredFirst = false ∧ p.phaseSource = .dbus
          then 1 else 0) := by
  induction interior generalizing p with
  | nil =>
      obtain rfl : p = q := hpath
      cases p.safetyFiredFirst <;> simp [hphase, lockCount]
  | cons t ts ih =>
      obtain ⟨_, hafter, houtput, hrest⟩ := hpath
      have hstays : t.after.phase ≠ .idle := hopen t (by simp)
      have htail : ∀ u ∈ ts, u.after.phase ≠ .idle := fun u hu => hopen u (by simp [hu])
      rcases p.handle_cases t.event with h | h | h | h | h | h
      · obtain ⟨hsame, hsource, hfired, hinert⟩ := h
        have := ih hrest (by rw [hafter, hsame, hphase]) htail
        simp_all [lockCount]
      · simp_all
      · simp_all
      · exact absurd (hafter ▸ h.2.1) hstays
      · simp_all
      · -- the one firing of the cycle: from here on the flag stays set
        obtain ⟨_, hunfired, hsame, hsource, hfired, _, hlock, hsafety⟩ := h
        obtain ⟨hq, hqsource, hqfired, htake, hrelease⟩ :=
          ih hrest (by rw [hafter, hsame]) htail
        rw [hafter, hfired] at hqfired hrelease
        have hset : q.safetyFiredFirst = true := hqfired.mpr (Or.inl rfl)
        refine ⟨hq, by rw [hqsource, hafter, hsource], ?_, ?_, ?_⟩
        · exact ⟨fun _ => Or.inr ⟨t, by simp, by rw [houtput, hsafety]⟩, fun _ => hset⟩
        · cases hp : p.phaseSource <;> simp_all [lockCount]
        · cases hp : p.phaseSource <;> simp_all [lockCount]

/-- The interior of a resume cycle emits no lock operation at all. -/
theorem resuming_interior {p q : PowerLifecycle} {interior : List Transition}
    (hpath : Path p interior q) (hphase : p.phase = .resuming)
    (hopen : ∀ t ∈ interior, t.after.phase ≠ .idle) :
    q.phase = .resuming ∧ q.phaseSource = p.phaseSource ∧
      lockCount .take interior = 0 ∧ lockCount .release interior = 0 := by
  induction interior generalizing p with
  | nil =>
      obtain rfl : p = q := hpath
      simp [hphase, lockCount]
  | cons t ts ih =>
      obtain ⟨_, hafter, houtput, hrest⟩ := hpath
      have hstays : t.after.phase ≠ .idle := hopen t (by simp)
      have htail : ∀ u ∈ ts, u.after.phase ≠ .idle := fun u hu => hopen u (by simp [hu])
      rcases p.handle_cases t.event with h | h | h | h | h | h
      · obtain ⟨hsame, hsource, _, hinert⟩ := h
        have := ih hrest (by rw [hafter, hsame, hphase]) htail
        simp_all [lockCount]
      · simp_all
      · simp_all
      · simp_all
      · exact absurd (hafter ▸ h.2.1) hstays
      · simp_all

/-- The request in flight was taken up by an entry output, and no output since has
returned to idle. -/
theorem inCycle_of_active {p : PowerLifecycle} {steps : List Transition}
    (hpath : Path {} steps p) (hphase : p.phase ≠ .idle) :
    (p.phase = .suspending → InCycle .startSuspend steps ⟨.suspend, p.phaseSource⟩) ∧
      (p.phase = .resuming → InCycle .startResume steps ⟨.resume, p.phaseSource⟩) := by
  -- on the last transition: either it opened the cycle, or the cycle was open before it
  induction steps using List.reverseRecOn generalizing p with
  | nil =>
      obtain rfl : ({} : PowerLifecycle) = p := hpath
      exact absurd rfl hphase
  | append_singleton steps t ih =>
      obtain ⟨middle, hsteps, _, hafter, houtput, rfl⟩ := path_append.mp hpath
      have extend {work : Work} {request : Pending} (h : InCycle work steps request) :
          InCycle work (steps ++ [t]) request := by
        obtain ⟨before, entry, interior, rfl, hwork, hserved, hopen⟩ := h
        refine ⟨before, entry, interior ++ [t], by simp, hwork, hserved, ?_⟩
        simpa [or_imp, forall_and] using And.intro hopen hphase
      have keeps (hsame : t.after.phase = middle.phase)
          (hsource : t.after.phaseSource = middle.phaseSource) :
          (t.after.phase = .suspending →
              InCycle .startSuspend (steps ++ [t]) ⟨.suspend, t.after.phaseSource⟩) ∧
            (t.after.phase = .resuming →
              InCycle .startResume (steps ++ [t]) ⟨.resume, t.after.phaseSource⟩) := by
        rw [hsame, hsource]
        exact (ih hsteps (hsame ▸ hphase)).imp (fun h hs => extend (h hs)) fun h hs => extend (h hs)
      have fresh {work : Work} {request : Pending} (hwork : t.output.work = work)
          (hserved : served steps = some request) : InCycle work (steps ++ [t]) request :=
        ⟨steps, t, [], rfl, hwork, hserved, by simp⟩
      have hserved := served_of_path hsteps t.event
      rw [← hafter, ← houtput] at hserved
      rcases middle.handle_cases t.event with h | h | h | h | h | h
      · exact keeps (by rw [hafter, h.1]) (by rw [hafter, h.2.1])
      · have hwork : t.output.work = .startSuspend := by rw [houtput, h.2.2.2.1]
        exact ⟨fun _ => fresh hwork (hserved.1 hwork),
          fun hs => by simp [hafter, h.2.1] at hs⟩
      · have hwork : t.output.work = .startResume := by rw [houtput, h.2.2.1]
        exact ⟨fun hs => by simp [hafter, h.2.1] at hs,
          fun _ => fresh hwork (hserved.2 hwork)⟩
      · exact absurd (hafter ▸ h.2.1) hphase
      · exact absurd (hafter ▸ h.2.1) hphase
      · exact keeps (by rw [hafter, h.2.2.1, h.1]) (by rw [hafter, h.2.2.2.1])

/-! ## Whole cycles -/

/-- A completed suspend cycle: one release iff it is D-Bus's, no take, and
`overrun` iff the timer fired inside it. -/
theorem suspend_cycle {events : List Event} {earlier : List Transition}
    {entry completion : Transition} {interior : List Transition}
    (hcycle : IsCycle .startSuspend (trace {} events) earlier entry interior completion) :
    ∃ source, served earlier = some ⟨.suspend, source⟩ ∧
      lockCount .release (entry :: (interior ++ [completion])) =
        (if source = .dbus then 1 else 0) ∧
      lockCount .take (entry :: (interior ++ [completion])) = 0 ∧
      (completion.output.safety = .overrun ↔ ∃ t ∈ interior, t.output.safety = .fired) := by
  obtain ⟨hwork, hopen, hidle, later, hsteps⟩ := hcycle
  obtain ⟨final, hpath⟩ := path_trace {} events
  rw [hsteps] at hpath
  obtain ⟨start, hearlier, _, hafter, houtput, hrest⟩ := path_append.mp hpath
  obtain ⟨middle, hinterior, _, hcafter, hcoutput, _⟩ := path_append.mp hrest
  have hserved : served earlier = some ⟨.suspend, entry.after.phaseSource⟩ := by
    have hpopped := (served_of_path hearlier entry.event).1 (houtput ▸ hwork)
    rwa [← hafter] at hpopped
  -- the entry output identifies the start: only a suspend entry starts suspend work
  have hentry : entry.after.phase = .suspending ∧ entry.after.safetyFiredFirst = false ∧
      entry.output.lock = .none := by
    rcases start.handle_cases entry.event with h | h | h | h | h | h <;> simp_all
  obtain ⟨hphase, hunfired, hlock⟩ := hentry
  obtain ⟨hmiddle, hsource, hfired, htake, hrelease⟩ :=
    suspending_interior hinterior hphase hopen
  -- the completion leaves a suspending state for idle, so it is the completion handler's output
  have hcompletion : completion.output.lock =
        (if middle.safetyFiredFirst = false ∧ middle.phaseSource = .dbus then .release
          else .none) ∧
      completion.output.safety = (if middle.safetyFiredFirst then .overrun else .inert) := by
    rcases middle.handle_cases completion.event with h | h | h | h | h | h <;> simp_all
  refine ⟨entry.after.phaseSource, hserved, ?_⟩
  simp only [hunfired, Bool.false_eq_true, false_or] at hfired
  rw [← hfired, hcompletion.2]
  simp only [lockCount, List.countP_cons, List.countP_append, List.countP_nil] at htake hrelease ⊢
  cases hset : middle.safetyFiredFirst <;> cases hdbus : entry.after.phaseSource <;>
    simp_all

/-- A completed resume cycle: one take iff it is D-Bus's, and no release. -/
theorem resume_cycle {events : List Event} {earlier : List Transition}
    {entry completion : Transition} {interior : List Transition}
    (hcycle : IsCycle .startResume (trace {} events) earlier entry interior completion) :
    ∃ source, served earlier = some ⟨.resume, source⟩ ∧
      lockCount .take (entry :: (interior ++ [completion])) =
        (if source = .dbus then 1 else 0) ∧
      lockCount .release (entry :: (interior ++ [completion])) = 0 := by
  obtain ⟨hwork, hopen, hidle, later, hsteps⟩ := hcycle
  obtain ⟨final, hpath⟩ := path_trace {} events
  rw [hsteps] at hpath
  obtain ⟨start, hearlier, _, hafter, houtput, hrest⟩ := path_append.mp hpath
  obtain ⟨middle, hinterior, _, hcafter, hcoutput, _⟩ := path_append.mp hrest
  have hserved : served earlier = some ⟨.resume, entry.after.phaseSource⟩ := by
    have hpopped := (served_of_path hearlier entry.event).2 (houtput ▸ hwork)
    rwa [← hafter] at hpopped
  have hentry : entry.after.phase = .resuming ∧ entry.output.lock = .none := by
    rcases start.handle_cases entry.event with h | h | h | h | h | h <;> simp_all
  obtain ⟨hmiddle, hsource, htake, hrelease⟩ :=
    resuming_interior hinterior hentry.1 hopen
  have hcompletion : completion.output.lock =
      (if middle.phaseSource = .dbus then .take else .none) := by
    rcases middle.handle_cases completion.event with h | h | h | h | h | h <;> simp_all
  refine ⟨entry.after.phaseSource, hserved, ?_⟩
  simp only [lockCount, List.countP_cons, List.countP_append, List.countP_nil] at htake hrelease ⊢
  cases hdbus : entry.after.phaseSource <;> simp_all

/-- An output with a lock operation lies in an open D-Bus cycle: a release in a
suspend cycle, a take at the end of a resume cycle. -/
theorem lock_in_cycle {events : List Event} {earlier later : List Transition}
    {t : Transition} (hsteps : trace {} events = earlier ++ t :: later)
    (hlock : t.output.lock ≠ .none) :
    (t.output.lock = .release ∧ InCycle .startSuspend earlier ⟨.suspend, .dbus⟩) ∨
      (t.output.lock = .take ∧ t.after.phase = .idle ∧
        InCycle .startResume earlier ⟨.resume, .dbus⟩) := by
  obtain ⟨final, hpath⟩ := path_trace {} events
  rw [hsteps] at hpath
  obtain ⟨start, hearlier, _, hafter, houtput, _⟩ := path_append.mp hpath
  have hdbus : start.phaseSource = .dbus ∧
      (start.phase = .suspending ∧ t.output.lock = .release ∨
        start.phase = .resuming ∧ t.after.phase = .idle ∧ t.output.lock = .take) := by
    rw [houtput] at hlock
    rcases start.handle_cases t.event with h | h | h | h | h | h <;>
      cases hs : start.phaseSource <;> simp_all
  obtain ⟨hsource, ⟨hphase, hrelease⟩ | ⟨hphase, hidle, htake⟩⟩ := hdbus
  · have hcycle := (inCycle_of_active hearlier (by simp [hphase])).1 hphase
    exact .inl ⟨hrelease, hsource ▸ hcycle⟩
  · have hcycle := (inCycle_of_active hearlier (by simp [hphase])).2 hphase
    exact .inr ⟨htake, hidle, hsource ▸ hcycle⟩

/-- **Exactly-once lock discharge.** For every sequence of events: a completed
suspend cycle emits exactly one release if the request it serves came from D-Bus
and none otherwise, and reports an overrun iff the safety timer fired inside it; a
completed resume cycle emits exactly one take if its request came from D-Bus and
none otherwise; and no output outside such a cycle carries a lock operation. The
requests are those of the events, served in their order. -/
theorem lock_discharged_exactly_once (events : List Event) :
    (∀ earlier entry interior completion,
      IsCycle .startSuspend (trace {} events) earlier entry interior completion →
      ∃ source, served earlier = some ⟨.suspend, source⟩ ∧
        (∃ t ∈ earlier, t.event = .suspendRequested source) ∧
        lockCount .release (entry :: (interior ++ [completion])) =
          (if source = .dbus then 1 else 0) ∧
        lockCount .take (entry :: (interior ++ [completion])) = 0 ∧
        (completion.output.safety = .overrun ↔
          ∃ t ∈ interior, t.output.safety = .fired)) ∧
    (∀ earlier entry interior completion,
      IsCycle .startResume (trace {} events) earlier entry interior completion →
      ∃ source, served earlier = some ⟨.resume, source⟩ ∧
        (∃ t ∈ earlier, t.event = .resumeRequested source) ∧
        lockCount .take (entry :: (interior ++ [completion])) =
          (if source = .dbus then 1 else 0) ∧
        lockCount .release (entry :: (interior ++ [completion])) = 0) ∧
    (∀ earlier t later, trace {} events = earlier ++ t :: later → t.output.lock ≠ .none →
      (t.output.lock = .release ∧ InCycle .startSuspend earlier ⟨.suspend, .dbus⟩) ∨
        (t.output.lock = .take ∧ t.after.phase = .idle ∧
          InCycle .startResume earlier ⟨.resume, .dbus⟩)) := by
  have hasked {earlier : List Transition} {request : Pending}
      (hserved : served earlier = some request) :
      ∃ t ∈ earlier, t.event.request = some request :=
    requested_of_outstanding (List.mem_of_mem_head? hserved)
  refine ⟨fun earlier entry interior completion hcycle => ?_,
    fun earlier entry interior completion hcycle => ?_,
    fun _ _ _ hsteps hlock => lock_in_cycle hsteps hlock⟩
  · obtain ⟨source, hserved, hlocks⟩ := suspend_cycle hcycle
    obtain ⟨t, hmem, hrequest⟩ := hasked hserved
    refine ⟨source, hserved, ⟨t, hmem, ?_⟩, hlocks⟩
    cases hevent : t.event <;> simp_all [Event.request]
  · obtain ⟨source, hserved, hlocks⟩ := resume_cycle hcycle
    obtain ⟨t, hmem, hrequest⟩ := hasked hserved
    refine ⟨source, hserved, ⟨t, hmem, ?_⟩, hlocks⟩
    cases hevent : t.event <;> simp_all [Event.request]

/-- The safety timer fires in the suspend of a D-Bus request, twice, while a resume
waits that was asked for on the wire. -/
def overtaken : List Event :=
  [.suspendRequested .dbus, .pumpQueue, .safetyTimerFired, .resumeRequested .wire,
    .safetyTimerFired, .suspendCompleted, .pumpQueue, .resumeCompleted true]

theorem lock_discharged_exactly_once_overtaken :
    ∃ entry interior completion,
      IsCycle .startSuspend (trace {} overtaken) (trace {} (overtaken.take 1)) entry interior
        completion ∧
      lockCount .release (entry :: (interior ++ [completion])) = 1 ∧
      completion.output.safety = .overrun ∧
    ∃ entry interior completion,
      IsCycle .startResume (trace {} overtaken) (trace {} (overtaken.take 6)) entry interior
        completion ∧
      lockCount .take (entry :: (interior ++ [completion])) = 0 := by
  have hsuspend : IsCycle .startSuspend (trace {} overtaken) (trace {} (overtaken.take 1))
      ((trace {} overtaken).get ⟨1, by decide⟩) (((trace {} overtaken).drop 2).take 3)
      ((trace {} overtaken).get ⟨5, by decide⟩) :=
    ⟨by decide, by decide, by decide, (trace {} overtaken).drop 6, by decide⟩
  have hresume : IsCycle .startResume (trace {} overtaken) (trace {} (overtaken.take 6))
      ((trace {} overtaken).get ⟨6, by decide⟩) [] ((trace {} overtaken).get ⟨7, by decide⟩) :=
    ⟨by decide, by decide, by decide, [], by decide⟩
  obtain ⟨hsuspends, hresumes, -⟩ := lock_discharged_exactly_once overtaken
  obtain ⟨source, hserved, -, hrelease, -, hoverrun⟩ := hsuspends _ _ _ _ hsuspend
  obtain ⟨source', hserved', -, htake, -⟩ := hresumes _ _ _ _ hresume
  have hdbus : served (trace {} (overtaken.take 1)) = some ⟨.suspend, .dbus⟩ := by decide
  have hwire : served (trace {} (overtaken.take 6)) = some ⟨.resume, .wire⟩ := by decide
  rw [hdbus] at hserved
  rw [hwire] at hserved'
  cases hserved
  cases hserved'
  exact ⟨_, _, _, hsuspend, hrelease, hoverrun.mpr (by decide), _, _, _, hresume, htake⟩

end CecControl.PowerLifecycle
