/-
# The daemon in every interleaving

What has been checked on the main thread's code holds in every state that a run reaches, whatever
the other threads do in between and wherever `start` fails: a step of any thread touches only what
is there. Once the teardown has begun, the threads bring it to its end by themselves, and then
there is no part and no thread left.

One condition is needed. The teardown catches what the calls of its first half throw and goes on
behind them, past the wait for the worker; then the parts that its job is using are destroyed.
-/

import CecControl.Daemon.Teardown

namespace CecControl

open Lib

namespace DaemonProcess

variable {s s' : DaemonProcess}

/-- What is left of the main thread's code has passed. -/
def Passes (α : Ledger) (todo : List Act) : MainPhase → Prop
  | .starting => α.startsWell todo = true
  | .looping => todo = [] ∧ α.loops = true ∨
      ∃ actor, todo = [.notify actor] ∧ (α.after (.notify actor) true).loops = true
  | .unwinding => α.endsWell false todo = true
  | .stopping => α.endsWell true todo = true

structure Kept (s : DaemonProcess) : Prop where
  manned : Manned s
  passes : Passes s.ledger s.todo s.phase

theorem kept_boot (options : Act.Options) : Kept (boot options) where
  manned := ⟨fun _ => tended_new, by simp [boot], by simp [boot]⟩
  passes := startsWell_start options

/-! ### What has been checked at the point that has been reached -/

theorem fits_after_notify (α : Ledger) (actor : Actor) (serving : Bool) :
    (α.after (.notify actor) true).fits serving = α.fits serving := by
  cases actor <;> rfl

theorem loops_iff {α : Ledger} : α.loops = true ↔
    α.fits true = true ∧ α.ready = true ∧ α.endsWell true Act.stop = true ∧
      ∀ actor, (α.flags actor).notifying = false ∧ (α.flags actor).stopping = false := by
  simp only [Ledger.loops, Ledger.quiet, Bool.and_eq_true, Bool.not_eq_true', and_assoc]
  refine and_congr_right fun _ => and_congr_right fun _ => and_congr_right fun _ => ?_
  refine ⟨fun ⟨hw, hw', hh, hh'⟩ actor => ?_, fun h => ?_⟩
  · cases actor
    · exact ⟨hw, hw'⟩
    · exact ⟨hh, hh'⟩
  · exact ⟨(h .adapterWorker).1, (h .adapterWorker).2, (h .hookExecutor).1, (h .hookExecutor).2⟩

theorem fits_of_endsWell {α : Ledger} {serving : Bool} {todo : List Act}
    (h : α.endsWell serving todo = true) : α.fits serving = true := by
  cases todo <;> simp only [Ledger.endsWell, Bool.and_eq_true] at h
  · exact h.1.1.1
  · exact h.1.1.1

theorem fits_of_startsWell {α : Ledger} {todo : List Act} (h : α.startsWell todo = true) :
    α.fits false = true := by
  cases todo <;> simp only [Ledger.startsWell, Bool.and_eq_true, Bool.false_eq_true] at h
  exact h.1.1

/-- Whatever may be running has what it needs. -/
theorem Kept.fits (h : Kept s) : s.ledger.fits s.serving = true := by
  have hpasses := h.passes
  cases hphase : s.phase <;> rw [hphase] at hpasses <;> simp only [serving, hphase]
  case starting => exact fits_of_startsWell hpasses
  case looping =>
    rcases hpasses with ⟨-, hloops⟩ | ⟨actor, -, hloops⟩
    · exact (loops_iff.mp hloops).1
    · exact fits_after_notify s.ledger actor true ▸ (loops_iff.mp hloops).1
  case unwinding => exact fits_of_endsWell hpasses
  case stopping => exact fits_of_endsWell hpasses

/-- The loop's handlers run in between, and have what they need. -/
theorem Kept.ready (h : Kept s) (hphase : s.phase = .looping) : s.ledger.ready = true := by
  have hpasses := h.passes
  rw [hphase] at hpasses
  rcases hpasses with ⟨-, hloops⟩ | ⟨actor, -, hloops⟩ <;> exact (loops_iff.mp hloops).2.1

theorem mem_alive_of_ready (hready : s.ledger.ready = true) {p : Part}
    (hp : p ≠ .dbusMonitor ∨ s.monitored = true) : p ∈ s.alive := by
  simp only [Ledger.ready, Bool.and_eq_true, Bool.or_eq_true, Bool.not_eq_true', has_iff] at hready
  obtain ⟨hothers, hmonitor⟩ := hready
  by_cases hsame : p = .dbusMonitor
  · subst hsame
    have hmonitored : s.monitored = true := hp.resolve_left (by simp)
    exact (hmonitor.resolve_left (by simp [ledger, hmonitored])) _ (List.mem_singleton_self _)
  · refine hothers p ?_
    cases p <;> first | exact absurd rfl hsame | decide

/-- The next statement has what it needs, and outside of `start` it is one of the teardown's. -/
theorem Kept.next (h : Kept s) {a : Act} {rest : List Act} (htodo : s.todo = a :: rest) :
    s.ledger.allows a = true ∧ (s.phase = .starting ∨ a.tearsDown = true) := by
  have hpasses := h.passes
  cases hphase : s.phase <;> rw [hphase, htodo] at hpasses
  case starting =>
    simp only [Passes, Ledger.startsWell, Bool.and_eq_true] at hpasses
    exact ⟨hpasses.1.2, .inl rfl⟩
  case looping =>
    rcases hpasses with ⟨hnil, -⟩ | ⟨actor, hsingle, -⟩
    · cases hnil
    · obtain ⟨rfl, rfl⟩ := List.cons.inj hsingle
      refine ⟨?_, .inr rfl⟩
      have hpart : actor.part ∈ s.alive :=
        mem_alive_of_ready (h.ready hphase) (.inl (by cases actor <;> simp [Actor.part]))
      simp only [Ledger.allows, Bool.or_eq_true, has_iff]
      exact .inr fun p hp => (List.mem_singleton.mp hp) ▸ hpart
  all_goals
    simp only [Passes, Ledger.endsWell, Bool.and_eq_true] at hpasses
    exact ⟨hpasses.1.1.2, .inr hpasses.1.2⟩

/-! ### A step keeps it -/

/-- A call inside the teardown's `try` throws. -/
def throwsInStop (s : DaemonProcess) : Label → Bool
  | .main ok => !ok && (s.todo.head?.map Act.isCall).getD false
  | _ => false

def Calm (s : DaemonProcess) (label : Label) : Prop := throwsInStop s label = false

instance (s : DaemonProcess) (label : Label) : Decidable (Calm s label) :=
  inferInstanceAs (Decidable (_ = false))

theorem after_of_tearsDown {a : Act} (hteardown : a.tearsDown = true) (α : Ledger) (ok : Bool) :
    α.after a ok = α.after a true := by
  cases a <;> first | rfl | cases hteardown

/-- The statement that has been carried out had passed together with the rest. -/
theorem Performed.passes {a : Act} {ok : Bool} (hperformed : Performed s s' a ok) {rest : List Act}
    (htodo : s'.todo = rest) (h : Passes s.ledger (a :: rest) s.phase) :
    Passes s'.ledger s'.todo s'.phase := by
  have hafter : a.tearsDown = true → s'.ledger = s.ledger.after a true := fun hteardown => by
    rw [hperformed.ledger, after_of_tearsDown hteardown]
  have hphase' : a ≠ .enter → s'.phase = s.phase := fun hother => by
    rw [hperformed.phase, if_neg hother]
  rw [htodo]
  cases hphase : s.phase <;> rw [hphase] at h
  case starting =>
    simp only [Passes, Ledger.startsWell, Bool.and_eq_true] at h
    replace h := h.2
    cases a with
    | enter =>
        simp only [Bool.and_eq_true, List.isEmpty_iff] at h
        rw [hperformed.phase, if_pos rfl, hperformed.ledger]
        exact .inl h
    | make | require | openAdapter | spawn =>
        simp only [Bool.and_eq_true] at h
        obtain rfl := hperformed.succeeded rfl
        rw [hphase' (by simp), hphase, hperformed.ledger]
        exact h.2
    | monitor | attach =>
        simp only [Bool.and_eq_true] at h
        rw [hphase' (by simp), hphase, hperformed.ledger]
        cases ok
        · exact h.1
        · exact h.2
    | submit | notify =>
        rw [hphase' (by simp), hphase, hperformed.ledger]
        exact h
    | call | caught | order | join | drop => cases h
  case looping =>
    rcases h with ⟨hnil, -⟩ | ⟨actor, hsingle, hloops⟩
    · cases hnil
    · obtain ⟨rfl, rfl⟩ := List.cons.inj hsingle
      rw [hphase' (by simp), hphase, hafter rfl]
      exact .inl ⟨rfl, hloops⟩
  all_goals
    simp only [Passes, Ledger.endsWell, Bool.and_eq_true] at h
    have hother : a ≠ .enter := by
      rintro rfl
      cases h.1.2
    rw [hphase' hother, hphase, hafter h.1.2]
    exact h.2

theorem Kept.main (h : Kept s) {ok : Bool} (hcalm : Calm s (.main ok))
    (hstep : step s (.main ok) = some s') : Kept s' := by
  cases htodo : s.todo with
  | nil => simp [step, htodo] at hstep
  | cons a rest =>
      simp only [step, htodo] at hstep
      obtain ⟨hallows, hwhere⟩ := h.next htodo
      have hmanned : Manned { s with todo := rest } :=
        h.manned.moved id rfl (fun _ hmem => hmem) Or.inl
      have hserving : a.tearsDown = true ∨ s.serving = false :=
        hwhere.symm.imp_right fun hphase => by simp [serving, hphase]
      refine ⟨hmanned.perform hallows hserving hstep, ?_⟩
      have hpasses : Passes s.ledger (a :: rest) s.phase := htodo ▸ h.passes
      rcases performed_or_failed hmanned hallows hstep with hperformed | hfailed
      · refine hperformed.passes (hperformed.todo.resolve_right ?_) hpasses
        rintro ⟨p, rfl, rfl⟩
        simp [Calm, throwsInStop, htodo, Act.isCall] at hcalm
      · rw [hfailed.ledger, hfailed.phase, hfailed.todo]
        have hphase : s.phase = .starting := hwhere.resolve_right fun hteardown => by
          have hfails := hfailed.mayFail
          cases a <;> simp_all [Act.mayFail, Act.tearsDown]
        rw [hphase] at hpasses
        simp only [Passes, Ledger.startsWell, Bool.and_eq_true] at hpasses ⊢
        have hfails := hfailed.mayFail
        cases a with
        | make | require | openAdapter | spawn =>
            exact (Bool.and_eq_true_iff.mp hpasses.2).1
        | submit | notify | monitor | attach | enter | call | caught | order | join | drop =>
            cases hfails

/-- Other threads leave the main thread's code, and what it depends on, as they are. -/
theorem Kept.unseen (h : Kept s) (hmanned : Manned s') (hledger : s'.ledger = s.ledger)
    (htodo : s'.todo = s.todo) (hphase : s'.phase = s.phase) : Kept s' :=
  ⟨hmanned, by rw [hledger, htodo, hphase]; exact h.passes⟩

theorem own_cases {actor : Actor} {label : Worker.Label Unit actor.Job} (hown : ownStep label = true) :
    label = .look ∨ label = .wake ∨ (∃ threw, label = .finish threw) ∨ label = .leave := by
  cases label <;> simp [ownStep] at hown ⊢

/-- The worker's thread has the adapter, and what its job has captured. -/
theorem Kept.running (h : Kept s) (hphase : (s.crew .adapterWorker).phase.gone = false) :
    .worker ∈ s.alive ∧ .adapter ∈ s.alive ∧ .work ∈ s.alive ∧
      (s.serving = true → .lifecycle ∈ s.alive ∧ .dispatcher ∈ s.alive) := by
  have hup := (h.manned.crew .adapterWorker).up hphase
  have hfits := h.fits
  simp only [Ledger.fits, ledger_flags, hup, Bool.and_eq_true, Bool.or_eq_true, Bool.not_eq_true',
    Bool.not_true, Bool.false_eq_true, false_or, Bool.and_true] at hfits
  obtain ⟨⟨⟨hwork, hworker⟩, hserving⟩, -⟩ := hfits
  have hhas := has_iff.mp hworker
  have hadapter : s.ledger.has [.adapter] = true := has_iff.mpr fun p hp => hhas p (by simp_all)
  refine ⟨hhas .worker (by simp), hhas .adapter (by simp), ?_, fun hloop => ?_⟩
  · exact has_iff.mp (hwork.resolve_left (by simp [hadapter])) .work (by simp)
  · have hboth := has_iff.mp (hserving.resolve_left (by simp [hloop]))
    exact ⟨hboth .lifecycle (by simp), hboth .dispatcher (by simp)⟩

theorem crew_cases {actor : Actor} {label : Worker.Label Unit actor.Job}
    (hstep : step s (.crew actor label) = some s') :
    ownStep label = true ∧ ∃ worker, (s.crew actor).step label = some worker ∧
      (s' = s.withCrew actor worker ∨ s' = (s.withCrew actor worker).closed) := by
  simp only [step] at hstep
  split_ifs at hstep with hown
  obtain ⟨worker, hworker, hnext⟩ := Option.map_eq_some_iff.mp hstep
  refine ⟨hown, worker, hworker, ?_⟩
  split at hnext
  · exact .inr hnext.symm
  · exact .inl hnext.symm

theorem Kept.crew (h : Kept s) {actor : Actor} {label : Worker.Label Unit actor.Job}
    (hstep : step s (.crew actor label) = some s') : Kept s' := by
  obtain ⟨hown, worker, hworker, hnext⟩ := crew_cases hstep
  have hledger : (s.withCrew actor worker).ledger = s.ledger := by
    rw [ledger_withCrew, Flags.own (own_cases hown) hworker, withFlags_self]
  have hmanned : Manned (s.withCrew actor worker) := by
    refine h.manned.withCrew (fun job hjob => ?_) hworker
    subst hjob
    cases hown
  have hkept : Kept (s.withCrew actor worker) := h.unseen hmanned hledger rfl rfl
  rcases hnext with rfl | rfl
  · exact hkept
  · refine hkept.unseen ⟨hmanned.crew, hmanned.scans, fun hbus => ?_⟩ rfl rfl rfl
    exact hmanned.bus (Bool.and_eq_true_iff.mp hbus).1

theorem Kept.loops (h : Kept s) (hphase : s.phase = .looping) (htodo : s.todo = []) :
    s.ledger.loops = true := by
  have hpasses := h.passes
  rw [hphase, htodo] at hpasses
  rcases hpasses with ⟨-, hloops⟩ | ⟨actor, hsingle, -⟩
  · exact hloops
  · cases hsingle

/-- A handler has submitted something, and has yet to notify. -/
theorem loops_after_notify {α : Ledger} (hloops : α.loops = true) {actor : Actor} {f : Flags}
    (hflags : f = α.flags actor ∨ f = { α.flags actor with notifying := true }) :
    ((α.withFlags actor f).after (.notify actor) true).loops = true := by
  have hnotifying := ((loops_iff.mp hloops).2.2.2 actor).1
  have hsame : ({ f with notifying := false } : Flags) = α.flags actor := by
    rcases hflags with rfl | rfl <;> simp [← hnotifying]
  suffices hback : (α.withFlags actor f).after (.notify actor) true = α from hback.symm ▸ hloops
  simp [Ledger.after, Ledger.withFlags, hsame]

theorem Kept.handle (h : Kept s) {handler : Handler} {outcome : Outcome}
    (hstep : step s (.handle handler outcome) = some s') : Kept s' := by
  simp only [step] at hstep
  split_ifs at hstep with hloop
  obtain ⟨hphase, htodo, -, -⟩ := hloop
  have hloops := h.loops hphase htodo
  have hflags {J : Type} {w w' : Worker Unit J} {job : J} (hw : w.step (.submit () job) = some w') :
      Flags.ofWorker w' = .ofWorker w ∨
        Flags.ofWorker w' = { Flags.ofWorker w with notifying := true } := by
    rw [Flags.submit hw]
    split_ifs
    · exact .inl rfl
    · exact .inr rfl
  have hmanned {actor : Actor} {label : Worker.Label Unit actor.Job} {worker : Worker Unit actor.Job}
      (hworker : (s.crew actor).step label = some worker) : Manned (s.withCrew actor worker) :=
    ⟨tended_withCrew h.manned hworker, fun hbefore => by simp [serving, withCrew, hphase] at hbefore,
      h.manned.bus⟩
  have hsubmitted {actor : Actor} {job : actor.Job}
      (hstep : ((s.crew actor).step (.submit () job)).map
        (fun worker => { s.withCrew actor worker with todo := [.notify actor] }) = some s') :
      Kept s' := by
    obtain ⟨worker, hworker, rfl⟩ := Option.map_eq_some_iff.mp hstep
    refine ⟨(hmanned hworker).moved id rfl (fun _ hmem => hmem) Or.inl, ?_⟩
    change Passes (s.withCrew actor worker).ledger [.notify actor] s.phase
    rw [hphase, ledger_withCrew]
    exact .inr ⟨_, rfl, loops_after_notify hloops (hflags hworker)⟩
  cases outcome with
  | nothing => exact Option.some.inj hstep ▸ h
  | stopsLoop =>
      obtain rfl := Option.some.inj hstep
      exact ⟨h.manned.moved id rfl (fun _ hmem => hmem) Or.inl, h.passes⟩
  | submits job => exact @hsubmitted .adapterWorker job hstep
  | fires => exact @hsubmitted .hookExecutor () hstep

theorem Kept.leave (h : Kept s) (hstep : step s .leave = some s') : Kept s' := by
  simp only [step] at hstep
  split_ifs at hstep with hloop
  obtain rfl := Option.some.inj hstep
  refine ⟨h.manned.moved (by simp [serving]) rfl (fun _ hmem => hmem) Or.inl, ?_⟩
  exact (loops_iff.mp (h.loops hloop.1 hloop.2)).2.2.1

theorem Kept.works (h : Kept s) {connected : Bool} (hstep : step s (.works connected) = some s') :
    Kept s' := by
  simp only [step] at hstep
  split at hstep
  · next job hphase =>
      obtain rfl := Option.some.inj hstep
      have hadapter := (h.running (by simp [hphase, ThreadPhase.gone])).2.1
      exact h.unseen (h.manned.moved id rfl (fun _ hmem => hmem) fun _ => .inr hadapter) rfl rfl rfl
  · cases hstep

theorem Kept.callback (h : Kept s) {lost : Bool} (hstep : step s (.callback lost) = some s') :
    Kept s' := by
  simp only [step] at hstep
  split_ifs at hstep
  obtain rfl := Option.some.inj hstep
  exact h.unseen (h.manned.moved id rfl (fun _ hmem => hmem) Or.inl) rfl rfl rfl

theorem Kept.step (h : Kept s) {label : Label} (hcalm : Calm s label)
    (hstep : machine.step s label = some s') : Kept s' := by
  cases label with
  | main ok => exact h.main hcalm hstep
  | handle handler outcome => exact h.handle hstep
  | leave => exact h.leave hstep
  | crew actor label => exact h.crew hstep
  | works connected => exact h.works hstep
  | callback lost => exact h.callback hstep

/-! ### A step touches what is there -/

theorem Kept.part_alive (h : Kept s) {actor : Actor} (hphase : (s.crew actor).phase.gone = false) :
    actor.part ∈ s.alive := by
  cases actor with
  | adapterWorker => exact (h.running hphase).1
  | hookExecutor =>
      have hup := (h.manned.crew .hookExecutor).up hphase
      have hfits := h.fits
      simp only [Ledger.fits, ledger_flags, hup, Bool.and_eq_true, Bool.not_true,
        Bool.false_or] at hfits
      exact has_iff.mp hfits.2 _ (List.mem_singleton_self _)

/-- What the job that runs has captured is there. -/
theorem Kept.uses_alive (h : Kept s) {job : AdapterJob}
    (hphase : (s.crew .adapterWorker).phase = .running job) : ∀ p ∈ job.uses, p ∈ s.alive := by
  obtain ⟨-, hadapter, hwork, hserving⟩ := h.running (by simp [hphase, ThreadPhase.gone])
  have hcase : job = .snapshot ∨ s.serving = true := by
    cases hloop : s.serving with
    | true => exact .inr rfl
    | false =>
        refine .inl (h.manned.scans hloop job ?_)
        rw [← (h.manned.crew .adapterWorker).sound.accounted, hphase]
        exact List.mem_append_left _ (List.mem_append_left _
          (List.mem_append_right _ (List.mem_singleton_self job)))
  intro p hp
  rcases hcase with rfl | hloop
  · simp only [AdapterJob.uses, List.mem_singleton] at hp
    exact hp ▸ hadapter
  · obtain ⟨hlifecycle, hdispatcher⟩ := hserving hloop
    cases job <;> simp only [AdapterJob.uses, List.mem_cons, List.not_mem_nil, or_false] at hp <;>
      rcases hp with rfl | rfl | rfl <;> assumption

theorem up_of_own {actor : Actor} {label : Worker.Label Unit actor.Job} {w' : Worker Unit actor.Job}
    (hown : ownStep label = true) (hstep : (s.crew actor).step label = some w') :
    (s.crew actor).phase.gone = false := by
  rcases own_cases hown with rfl | rfl | ⟨threw, rfl⟩ | rfl <;> simp only [Worker.step] at hstep <;>
    split at hstep <;> first | cases hstep; done | simp_all [ThreadPhase.gone]

/-- The monitor is the one member that may be missing while the loop runs; whoever may find it
missing looks first. -/
theorem monitor_touched {handler : Handler} {outcome : Outcome}
    (hbus : handler = .bus → .dbusMonitor ∈ s.alive)
    (hmem : .dbusMonitor ∈ s.touches (.handle handler outcome)) :
    s.monitored = true ∨ .dbusMonitor ∈ s.alive := by
  by_contra hmissing
  push Not at hmissing
  obtain ⟨hmonitored, halive⟩ := hmissing
  have hsupervisor : .dbusMonitor ∉ Part.reach .supervisor := by decide
  have hpolicy : .dbusMonitor ∉ Part.reach .standbyPolicy := by decide
  have hhooks : .dbusMonitor ∉ Part.reach .hooks := by decide
  have hserver : .dbusMonitor ∉ Part.reach .socketServer := by decide
  have hother : handler ≠ .bus := fun hsame => halive (hbus hsame)
  cases handler <;> cases outcome <;>
    simp_all [touches, Handler.touches, supervised, ifAlive]

/-- **A step touches what is there.** -/
theorem Kept.touches (h : Kept s) {label : Label} (hstep : machine.step s label = some s') :
    ∀ p ∈ s.touches label, p ∈ s.alive := by
  change DaemonProcess.step s label = some s' at hstep
  cases label with
  | main ok =>
      cases htodo : s.todo with
      | nil => simp [DaemonProcess.touches, htodo]
      | cons a rest =>
          simpa [DaemonProcess.touches, htodo] using mem_alive_of_allows (h.next htodo).1
  | handle handler outcome =>
      simp only [DaemonProcess.step] at hstep
      split_ifs at hstep with hloop
      obtain ⟨hphase, -, -, hbus⟩ := hloop
      intro p hp
      by_cases hsame : p = .dbusMonitor
      · subst hsame
        rcases monitor_touched hbus hp with hmonitored | halive
        · exact mem_alive_of_ready (h.ready hphase) (.inr hmonitored)
        · exact halive
      · exact mem_alive_of_ready (h.ready hphase) (.inl hsame)
  | leave =>
      simp only [DaemonProcess.step] at hstep
      split_ifs at hstep with hloop
      intro p hp
      refine mem_alive_of_ready (h.ready hloop.1) (.inl ?_)
      rw [List.mem_singleton.mp hp]
      simp
  | crew actor label =>
      obtain ⟨hown, worker, hworker, -⟩ := crew_cases hstep
      have hup := up_of_own hown hworker
      have huses (job : actor.Job) (hjob : (s.crew actor).phase = .running job) :
          ∀ p ∈ actor.uses job, p ∈ s.alive := by
        cases actor with
        | adapterWorker => exact h.uses_alive hjob
        | hookExecutor => simp [Actor.uses]
      have hleaves : ∀ p ∈ actor.leaves, p ∈ s.alive := by
        cases actor with
        | adapterWorker => simpa [Actor.leaves] using (h.running hup).2.1
        | hookExecutor => simp [Actor.leaves]
      intro p hp
      rcases List.mem_cons.mp hp with rfl | hp
      · exact h.part_alive hup
      · rcases own_cases hown with rfl | rfl | ⟨threw, rfl⟩ | rfl
        · cases hp
        · cases hp
        · obtain ⟨job, hjob, hp⟩ := List.mem_flatMap.mp hp
          refine huses job ?_ p hp
          cases hphase : (s.crew actor).phase <;> simp_all [ThreadPhase.current]
        · exact hleaves p hp
  | works connected =>
      simp only [DaemonProcess.step] at hstep
      split at hstep
      · next job hphase =>
          intro p hp
          simp only [DaemonProcess.touches, hphase, ThreadPhase.current, Option.toList_some,
            List.flatMap_cons, List.flatMap_nil, List.append_nil, List.mem_cons] at hp
          rcases hp with rfl | hp
          · exact @Kept.part_alive _ h .adapterWorker (by simp [hphase, ThreadPhase.gone])
          · exact h.uses_alive hphase p hp
      · cases hstep
  | callback lost =>
      simp only [DaemonProcess.step] at hstep
      split_ifs at hstep with hbus
      have hadapter := h.manned.bus hbus
      have hwork : .work ∈ s.alive := by
        have hfits := h.fits
        simp only [Ledger.fits, Bool.and_eq_true, Bool.or_eq_true, Bool.not_eq_true'] at hfits
        have hhas : s.ledger.has [.adapter] = true :=
          has_iff.mpr fun p hp => (List.mem_singleton.mp hp) ▸ hadapter
        exact has_iff.mp (hfits.1.1.1.resolve_left (by simp [hhas])) _ (List.mem_singleton_self _)
      have hreach : Part.reach .adapter = [.adapter, .work] := by decide
      simpa [DaemonProcess.touches, hreach] using ⟨hadapter, hwork⟩

/-! ### The teardown comes to its end -/

/-- The teardown is under way, or done. -/
def Ending (s : DaemonProcess) : Prop := s.phase = .unwinding ∨ s.phase = .stopping

/-- The main thread goes on, and so do threads that are awake. -/
def Due : Label → Prop
  | .main ok => ok = true
  | .crew _ label => Worker.Due label
  | .handle _ _ | .leave | .works _ | .callback _ => False

/-- A statement costs a step, and an order what it makes the thread do. -/
def effort (s : DaemonProcess) : ℕ :=
  5 * s.todo.length + (s.crew .adapterWorker).effort + (s.crew .hookExecutor).effort

theorem calm_of_due {label : Label} (hdue : Due label) : Calm s label := by
  cases label <;> simp_all [Due, Calm, throwsInStop]

theorem effort_withCrew (s : DaemonProcess) (actor : Actor) (worker : Worker Unit actor.Job) :
    (s.withCrew actor worker).effort + (s.crew actor).effort = s.effort + worker.effort := by
  cases actor <;> simp [effort, withCrew] <;> omega

theorem effort_requestStop {J : Type} {w w' : Worker Unit J}
    (hstep : w.step (.requestStop ()) = some w') : w'.effort ≤ w.effort + 4 := by
  simp only [Worker.step] at hstep
  split_ifs at hstep with hbusy hstop <;> obtain rfl := Option.some.inj hstep
  · exact Nat.le_add_right _ _
  · simp only [Worker.effort, List.length_cons]
    split_ifs <;> omega

theorem effort_perform (h : Manned s) {a : Act} (hteardown : a.tearsDown = true)
    (hstep : s.perform a true = some s') : s'.effort ≤ s.effort + 4 := by
  have hcrew {actor : Actor} {label : Worker.Label Unit actor.Job}
      (hle : ∀ worker, (s.crew actor).step label = some worker →
        worker.effort ≤ (s.crew actor).effort + 4)
      (hstep : ((s.crew actor).step label).map (s.withCrew actor) = some s') :
      s'.effort ≤ s.effort + 4 := by
    obtain ⟨worker, hworker, rfl⟩ := Option.map_eq_some_iff.mp hstep
    have heffort := effort_withCrew s actor worker
    have hworker := hle worker hworker
    omega
  have hlower {actor : Actor} {label : Worker.Label Unit actor.Job} (hdue : Worker.Due label)
      {worker : Worker Unit actor.Job} (hworker : (s.crew actor).step label = some worker) :
      worker.effort ≤ (s.crew actor).effort + 4 :=
    (Worker.lowers_effort.lower (h.crew actor).sound hdue hworker).le.trans (Nat.le_add_right _ _)
  cases a with
  | make | require | openAdapter | spawn | submit | monitor | attach | enter => cases hteardown
  | call p =>
      obtain rfl := Option.some.inj hstep
      simp
  | caught => exact Option.some.inj hstep ▸ Nat.le_add_right _ _
  | drop p =>
      obtain rfl := Option.some.inj hstep
      simp [effort]
  | notify actor =>
      simp only [perform] at hstep
      split_ifs at hstep
      · exact hcrew (fun worker hworker => hlower (by trivial) hworker) hstep
      · exact Option.some.inj hstep ▸ Nat.le_add_right _ _
  | order actor =>
      simp only [perform] at hstep
      split_ifs at hstep
      · exact hcrew (fun worker hworker => effort_requestStop hworker) hstep
      · exact Option.some.inj hstep ▸ Nat.le_add_right _ _
  | join actor =>
      simp only [perform] at hstep
      split_ifs at hstep
      · exact hcrew (fun worker hworker => hlower (by trivial) hworker) hstep
      · exact Option.some.inj hstep ▸ Nat.le_add_right _ _

/-- In the teardown a statement is one of the teardown's, and carrying it out stays there. -/
theorem Kept.next_of_ending (h : Kept s) (hending : s.Ending) {a : Act} {rest : List Act}
    (htodo : s.todo = a :: rest) : s.ledger.allows a = true ∧ a.tearsDown = true := by
  obtain ⟨hallows, hwhere⟩ := h.next htodo
  exact ⟨hallows, hwhere.resolve_left fun hphase => by simp_all [Ending]⟩

theorem ending_of_due (h : Kept s) (hending : s.Ending) {label : Label} (hdue : Due label)
    (hstep : machine.step s label = some s') : s'.Ending := by
  change DaemonProcess.step s label = some s' at hstep
  cases label with
  | main ok =>
      cases htodo : s.todo with
      | nil => simp [step, htodo] at hstep
      | cons a rest =>
          obtain ⟨hallows, hteardown⟩ := h.next_of_ending hending htodo
          have hmanned : Manned { s with todo := rest } :=
            h.manned.moved id rfl (fun _ hmem => hmem) Or.inl
          simp only [step, htodo] at hstep
          rcases performed_or_failed hmanned hallows hstep with hperformed | hfailed
          · have hother : a ≠ .enter := by
              rintro rfl
              cases hteardown
            have hphase : s'.phase = s.phase := hperformed.phase.trans (if_neg hother)
            simpa [Ending, hphase] using hending
          · exact .inl hfailed.phase
  | crew actor label =>
      obtain ⟨-, worker, -, rfl | rfl⟩ := crew_cases hstep <;> exact hending
  | handle | leave | works | callback => exact hdue.elim

theorem lowers_effort : machine.Lowers (fun s => Kept s ∧ s.Ending) Due effort where
  keeps h hdue hstep := ⟨h.1.step (calm_of_due hdue) hstep, ending_of_due h.1 h.2 hdue hstep⟩
  lower {s label s'} h hdue hstep := by
    change DaemonProcess.step s label = some s' at hstep
    cases label with
    | main ok =>
        obtain rfl : ok = true := hdue
        cases htodo : s.todo with
        | nil => simp [step, htodo] at hstep
        | cons a rest =>
            have hmanned : Manned { s with todo := rest } :=
              h.1.manned.moved id rfl (fun _ hmem => hmem) Or.inl
            simp only [step, htodo] at hstep
            have hle := effort_perform hmanned (h.1.next_of_ending h.2 htodo).2 hstep
            have hrest : effort { s with todo := rest } + 5 = s.effort := by
              simp only [effort, htodo, List.length_cons]
              omega
            omega
    | crew actor label =>
        obtain ⟨-, worker, hworker, hnext⟩ := crew_cases hstep
        have hlower := Worker.lowers_effort.lower (h.1.manned.crew actor).sound hdue hworker
        have heffort := effort_withCrew s actor worker
        have hsame : s'.effort = (s.withCrew actor worker).effort := by
          rcases hnext with rfl | rfl <;> rfl
        omega
    | handle | leave | works | callback => exact hdue.elim

theorem exists_main {a : Act} {rest : List Act} (htodo : s.todo = a :: rest)
    (hsome : (perform { s with todo := rest } a true).isSome = true) :
    ∃ label s', Due label ∧ machine.step s label = some s' := by
  obtain ⟨s', hstep⟩ := Option.isSome_iff_exists.mp hsome
  refine ⟨.main true, s', rfl, ?_⟩
  change DaemonProcess.step s (.main true) = some s'
  simpa [step, htodo] using hstep

/-- The main thread can go on, unless it waits for a thread that can. -/
theorem Kept.exists_due (h : Kept s) (hending : s.Ending) (htodo : s.todo ≠ []) :
    ∃ label s', Due label ∧ machine.step s label = some s' := by
  obtain ⟨a, rest, htodo⟩ := List.exists_cons_of_ne_nil htodo
  obtain ⟨hallows, hteardown⟩ := h.next_of_ending hending htodo
  cases a with
  | make | require | openAdapter | spawn | submit | monitor | attach | enter => cases hteardown
  | call | caught | drop => exact exists_main htodo rfl
  | notify actor =>
      refine exists_main htodo ?_
      by_cases hmem : () ∈ (s.crew actor).notifying <;> simp [perform, Worker.step, hmem]
  | order actor =>
      refine exists_main htodo ?_
      simp only [Ledger.allows, ledger_flags, Flags.ofWorker, Bool.and_eq_true, Bool.not_eq_true',
        decide_eq_false_iff_not] at hallows
      have hfree : (s.crew actor).busy () = false := by simp_all [Worker.busy]
      by_cases halive : actor.part ∈ s.alive <;> simp [perform, halive, Worker.step, hfree]
      split_ifs <;> rfl
  | join actor =>
      cases hstopping : (s.crew actor).stopping with
      | none => exact exists_main htodo (by simp [perform, hstopping])
      | some thread =>
          simp only [Ledger.allows, ledger_flags, Flags.ofWorker, hstopping, Option.isSome_some,
            Bool.not_true, Bool.false_or, Bool.and_eq_true, Bool.not_eq_true',
            decide_eq_false_iff_not] at hallows
          cases hgone : (s.crew actor).phase.gone with
          | true =>
              exact exists_main htodo (by simp [perform, Worker.step, hstopping, hallows.2, hgone])
          | false =>
              -- The thread has been told, so it is awake.
              have hrest : ¬ Worker.Rested (s.crew actor) := fun hrested => by
                simp [hrested.returned] at hstopping
              obtain ⟨label, worker, hdue, hworker⟩ :=
                (h.manned.crew actor).sound.exists_due hrest
              change (s.crew actor).step label = some worker at hworker
              have hown : ownStep label = true := by
                cases label with
                | look | finish | leave => rfl
                | notify => simp [Worker.step, hallows.2] at hworker
                | join => simp [Worker.step, hstopping, hgone] at hworker
                | submit | start | requestStop | wake => exact hdue.elim
              have hsome : (machine.step s (.crew actor label)).isSome = true := by
                change (DaemonProcess.step s (.crew actor label)).isSome = true
                simp [DaemonProcess.step, hown, hworker]
              obtain ⟨s', hstep⟩ := Option.isSome_iff_exists.mp hsome
              exact ⟨.crew actor label, s', hdue, hstep⟩

/-- Nothing is left over. -/
theorem Kept.nothing_left (h : Kept s) (hending : s.Ending) (htodo : s.todo = []) :
    s.alive = [] ∧ (∀ actor, (s.crew actor).phase.gone = true) ∧ s.busThreads = false := by
  have hends : ∃ serving, s.ledger.endsWell serving [] = true := by
    have hpasses := h.passes
    rcases hending with hphase | hphase <;> rw [hphase, htodo] at hpasses
    · exact ⟨false, hpasses⟩
    · exact ⟨true, hpasses⟩
  obtain ⟨serving, hends⟩ := hends
  simp only [Ledger.endsWell, Bool.and_eq_true, List.isEmpty_iff, Bool.not_eq_true'] at hends
  obtain ⟨⟨⟨-, hempty⟩, hworker⟩, hhooks⟩ := hends
  replace hempty : s.alive = [] := hempty
  refine ⟨hempty, fun actor => (h.manned.crew actor).gone ?_, ?_⟩
  · cases actor
    · exact hworker
    · exact hhooks
  · by_contra hbus
    have hadapter := h.manned.bus (by simpa using hbus)
    simp [hempty] at hadapter

/-! ## The daemon's lifetime -/

structure Sheltered (s : DaemonProcess) : Prop where
  touches : ∀ label s', machine.step s label = some s' → ∀ p ∈ s.touches label, p ∈ s.alive
  /-- The teardown takes so many steps at most, in whatever order the threads take them, -/
  bounded : s.Ending → ∀ labels final, (∀ label ∈ labels, Due label) →
    machine.run s labels = some final → labels.length ≤ s.effort
  /-- and can always be completed. -/
  ends : s.Ending → ∃ labels final, (∀ label ∈ labels, Due label) ∧
    machine.run s labels = some final ∧ final.Ending ∧ final.todo = []
  /-- Then there is no part, no thread of the daemon's and none of libcec's. -/
  gone : s.Ending → s.todo = [] →
    s.alive = [] ∧ (∀ actor, (s.crew actor).phase.gone = true) ∧ s.busThreads = false

/-- **Nobody touches what is gone.** However the daemon is configured, wherever its start fails
and however the threads interleave, as long as nothing is thrown inside the teardown's `try`. -/
theorem sheltered {options : Act.Options} {labels : List Label} {s : DaemonProcess}
    (hcalm : machine.Meets Calm (boot options) labels)
    (hrun : machine.run (boot options) labels = some s) : Sheltered s := by
  have hkept : Kept s := machine.invariant_of_meets
    (fun h hcalm hstep => h.step hcalm hstep) (kept_boot options) hcalm hrun
  refine ⟨fun label s' hstep => hkept.touches hstep, fun hending labels final hdue hrun => ?_,
    fun hending => ?_, fun hending htodo => hkept.nothing_left hending htodo⟩
  · have hle := lowers_effort.length_le ⟨hkept, hending⟩ hdue hrun
    exact Nat.le_trans (Nat.le_add_right _ _) hle
  · obtain ⟨labels, final, hdue, hrun, ⟨-, hfinal⟩, htodo⟩ :=
      lowers_effort.exists_run (fun h htodo => h.1.exists_due h.2 htodo) ⟨hkept, hending⟩
    exact ⟨labels, final, hdue, hrun, hfinal, htodo⟩

/-- The socket cannot be bound while the scan at start-up is running. -/
def refusedStart : List Label :=
  List.replicate 19 (.main true) ++ [.crew .adapterWorker .look, .main false]

theorem sheltered_refusedStart :
    ∃ s, machine.run (boot {}) refusedStart = some s ∧
      (s.crew .adapterWorker).phase.current.isSome = true ∧ s.Ending ∧ Sheltered s := by
  have hsome : ((machine.run (boot {}) refusedStart).map fun s =>
      ((s.crew .adapterWorker).phase.current.isSome, s.phase)) = some (true, .unwinding) := by
    decide +kernel
  obtain ⟨s, hrun, hstate⟩ := Option.map_eq_some_iff.mp hsome
  obtain ⟨hrunning, hunwinding⟩ := Prod.mk.inj hstate
  exact ⟨s, hrun, hrunning, .inl hunwinding, sheltered (by decide +kernel) hrun⟩

/-- A command is running when the loop ends, and the socket server's `stop` throws. -/
def thrownStop : List Label :=
  List.replicate 19 (.main true) ++ [.crew .adapterWorker .look, .crew .adapterWorker (.finish false),
    .crew .adapterWorker .look] ++ List.replicate 10 (.main true) ++
  [.handle .socket (.submits .command), .main true, .crew .adapterWorker .look, .leave, .main true,
    .main false] ++ List.replicate 5 (.main true)

-- Then the command goes on without its dispatcher.
example : ((machine.run (boot {}) thrownStop).map fun s =>
    (decide (.dispatcher ∈ s.touches (.crew .adapterWorker (.finish false))),
      decide (.dispatcher ∈ s.alive), (step s (.crew .adapterWorker (.finish false))).isSome)) =
    some (true, false, true) := by decide +kernel

end DaemonProcess

end CecControl
