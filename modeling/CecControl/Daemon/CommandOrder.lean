/-
# Accepted commands are executed in order

A command reaches the worker by one of two routes: submitted at once, or parked
while the adapter is suspended and replayed when the resume reports back. What
the daemon owes its clients is the list of accepted commands in acceptance
order, with one exception: the commands parked during a suspension are dropped
together when the resume that ends it finds no adapter, or at shutdown.

The invariant is an equation. Away from shutdown that list is exactly what has
been executed, then what is queued at the worker, then what is parked.
-/

import CecControl.Daemon.StepLog

namespace CecControl

open Lib PowerLifecycle

/-- Effects that concern accepted commands. -/
def Effect.aboutCommands : Effect → Bool
  | .accepted _ _ | .executed _ | .resumed _ | .shutdown => true
  | _ => false

/-- The events that end a block of parked commands, with whether it is dropped. -/
def Effect.closesBlock? : Effect → Option Bool
  | .resumed adapterValid => some !adapterValid
  | .shutdown => some true
  | _ => none

namespace Daemon

/-- All accepted commands, in acceptance order. -/
def acceptedCommands : List Effect → List Command
  | [] => []
  | .accepted command _ :: log => command :: acceptedCommands log
  | _ :: log => acceptedCommands log

/-- The commands `executeOnAdapter` has been run on, in order. -/
def executedCommands : List Effect → List Command
  | [] => []
  | .executed command :: log => command :: executedCommands log
  | _ :: log => executedCommands log

/-- The accepted commands with whole parked blocks removed: a parked command
shares the fate of its block, which the next report of a resume or the shutdown
decides. The flag marks commands whose block is still open. -/
def surviving : List Effect → List (Command × Bool)
  | [] => []
  | .accepted command parked :: log =>
      if parked then
        match log.findSome? Effect.closesBlock? with
        | some true => surviving log
        | some false => (command, false) :: surviving log
        | none => (command, true) :: surviving log
      else (command, false) :: surviving log
  | _ :: log => surviving log

/-- The part of the log that concerns commands. -/
def commandLog (log : List Effect) : List Effect := log.filter Effect.aboutCommands

/-! ## The three readings of the log -/

@[simp]
theorem commandLog_nil : commandLog [] = [] := rfl

@[simp]
theorem commandLog_cons (e : Effect) (log : List Effect) :
    commandLog (e :: log) = if e.aboutCommands then e :: commandLog log else commandLog log := by
  simp [commandLog, List.filter_cons]

theorem closesBlock?_commandLog (log : List Effect) :
    (commandLog log).findSome? Effect.closesBlock? = log.findSome? Effect.closesBlock? := by
  induction log with
  | nil => rfl
  | cons e log ih =>
      cases e <;> simp_all [List.findSome?_cons, Effect.aboutCommands,
        Effect.closesBlock?]

theorem surviving_commandLog (log : List Effect) : surviving (commandLog log) = surviving log := by
  induction log with
  | nil => rfl
  | cons e log ih =>
      have hcloses := closesBlock?_commandLog log
      cases e <;> simp_all [Effect.aboutCommands, surviving]

theorem executedCommands_commandLog (log : List Effect) :
    executedCommands (commandLog log) = executedCommands log := by
  induction log with
  | nil => rfl
  | cons e log ih =>
      cases e <;> simp_all [Effect.aboutCommands, executedCommands]

theorem acceptedCommands_commandLog (log : List Effect) :
    acceptedCommands (commandLog log) = acceptedCommands log := by
  induction log with
  | nil => rfl
  | cons e log ih =>
      cases e <;> simp_all [Effect.aboutCommands, acceptedCommands]

@[simp]
theorem commandLog_append (log more : List Effect) :
    commandLog (log ++ more) = commandLog log ++ commandLog more := by
  simp [commandLog]

@[simp]
theorem commandLog_lockLog (source : Source) (op : Lock) :
    commandLog (lockLog source op) = [] := by
  unfold lockLog
  split_ifs <;> rfl

@[simp]
theorem executedCommands_append (log more : List Effect) :
    executedCommands (log ++ more) = executedCommands log ++ executedCommands more := by
  fun_induction executedCommands log <;> simp_all [executedCommands]

@[simp]
theorem acceptedCommands_append (log more : List Effect) :
    acceptedCommands (log ++ more) = acceptedCommands log ++ acceptedCommands more := by
  fun_induction acceptedCommands log <;> simp_all [acceptedCommands]

/-- An event that ends no block adds what it accepts. -/
theorem surviving_append_singleton {e : Effect} (he : e.closesBlock? = none) (log : List Effect) :
    surviving (log ++ [e]) = surviving log ++ surviving [e] := by
  induction log with
  | nil => rfl
  | cons first log ih =>
      cases first with
      | accepted command parked =>
          simp only [List.cons_append, surviving, List.findSome?_append, ih]
          cases parked with
          | false => simp
          | true =>
              cases hcloses : log.findSome? Effect.closesBlock? with
              | none => simp [he]
              | some dropped => cases dropped <;> simp
      | _ => simpa [surviving] using ih

/-- A block that is kept is no longer open. -/
theorem surviving_append_kept {e : Effect} (he : e.closesBlock? = some false)
    (log : List Effect) :
    surviving (log ++ [e]) = (surviving log).map fun entry => (entry.1, false) := by
  induction log with
  | nil =>
      cases e with
      | accepted command parked => simp [Effect.closesBlock?] at he
      | _ => rfl
  | cons first log ih =>
      cases first with
      | accepted command parked =>
          simp only [List.cons_append, surviving, List.findSome?_append, ih]
          cases parked with
          | false => simp
          | true =>
              cases hcloses : log.findSome? Effect.closesBlock? with
              | none => simp [he]
              | some dropped => cases dropped <;> simp
      | _ => simpa [surviving] using ih

/-- A block that is dropped disappears as a whole. -/
theorem surviving_append_dropped {e : Effect} (he : e.closesBlock? = some true)
    (log : List Effect) :
    surviving (log ++ [e]) = (surviving log).filter fun entry => !entry.2 := by
  induction log with
  | nil =>
      cases e with
      | accepted command parked => simp [Effect.closesBlock?] at he
      | _ => rfl
  | cons first log ih =>
      cases first with
      | accepted command parked =>
          simp only [List.cons_append, surviving, List.findSome?_append, ih]
          cases parked with
          | false => simp
          | true =>
              cases hcloses : log.findSome? Effect.closesBlock? with
              | none => simp [he]
              | some dropped => cases dropped <;> simp
      | _ => simpa [surviving] using ih

/-- What survives is part of what was accepted, in the same order. -/
theorem surviving_sublist (log : List Effect) :
    ((surviving log).map Prod.fst).Sublist (acceptedCommands log) := by
  induction log with
  | nil => simp [surviving, acceptedCommands]
  | cons e log ih =>
      cases e with
      | accepted command parked =>
          unfold surviving acceptedCommands
          split_ifs
          · split
            · exact ih.cons _
            · exact ih.cons_cons _
            · exact ih.cons_cons _
          · exact ih.cons_cons _
      | _ => simpa [surviving, acceptedCommands] using ih

/-- The commands of queued jobs. -/
def jobCommands (jobs : List Job) : List Command := jobs.filterMap Job.command?

/-- A command the dispatch table sends to the adapter. -/
def Replayable (command : Command) : Prop :=
  ∃ spec, findDispatchByType command.message.type = some spec ∧ spec.dispatch = .adapterCall

/-- Replaying parked commands loses none of them. -/
theorem jobCommands_replayJobs {commands : List Command}
    (h : ∀ command ∈ commands, Replayable command) :
    jobCommands (replayJobs commands) = commands := by
  induction commands with
  | nil => rfl
  | cons command commands ih =>
      obtain ⟨spec, hfind, hcall⟩ := h command (by simp)
      have hrest := ih fun other hother => h other (by simp [hother])
      simp_all [jobCommands, replayJobs, Job.command?]

/-- The ledger of accepted commands. -/
structure Ordered (d : Daemon) : Prop where
  coupled : Coupled d
  /-- Executed, then queued at the worker, then parked. -/
  ledger : d.lifecycleShutdown = false →
    surviving d.log = (executedCommands d.log ++ jobCommands d.jobs).map (fun c => (c, false)) ++
      d.queued.map fun c => (c, true)
  /-- After shutdown nothing more is executed and no block is open. -/
  closed : d.lifecycleShutdown = true →
    executedCommands d.log <+: (surviving d.log).map Prod.fst ∧
      ∀ entry ∈ surviving d.log, entry.2 = false
  parkedSuspended : d.lifecycleShutdown = false → d.queued ≠ [] → d.suspended = true
  replayable : ∀ command ∈ d.queued, Replayable command
  /-- Commands are numbered by their requests. -/
  fresh : ∀ command ∈ acceptedCommands d.log, command.id < d.requests
  distinct : ((acceptedCommands d.log).map Command.id).Nodup

namespace Ordered

variable {d : Daemon}

/-- Nothing that concerns commands has happened. -/
theorem keep (h : Ordered d) {d' : Daemon} (hcoupled : Coupled d')
    (hlog : commandLog d'.log = commandLog d.log)
    (hjobs : jobCommands d'.jobs = jobCommands d.jobs) (hqueued : d'.queued = d.queued)
    (hshut : d'.lifecycleShutdown = d.lifecycleShutdown)
    (hsuspended : d.suspended = true → d'.suspended = true)
    (hrequests : d.requests ≤ d'.requests) : Ordered d' := by
  have hsurviving : surviving d'.log = surviving d.log := by
    rw [← surviving_commandLog, hlog, surviving_commandLog]
  have hexecuted : executedCommands d'.log = executedCommands d.log := by
    rw [← executedCommands_commandLog, hlog, executedCommands_commandLog]
  have haccepted : acceptedCommands d'.log = acceptedCommands d.log := by
    rw [← acceptedCommands_commandLog, hlog, acceptedCommands_commandLog]
  refine ⟨hcoupled, ?_, ?_, ?_, ?_, ?_, ?_⟩
  · rw [hshut, hsurviving, hexecuted, hjobs, hqueued]
    exact h.ledger
  · rw [hshut, hsurviving, hexecuted]
    exact h.closed
  · rw [hshut, hqueued]
    exact fun hopen hne => hsuspended (h.parkedSuspended hopen hne)
  · rw [hqueued]
    exact h.replayable
  · rw [haccepted]
    exact fun command hcommand => Nat.lt_of_lt_of_le (h.fresh command hcommand) hrequests
  · rw [haccepted]
    exact h.distinct

theorem roundStable : RoundStable Ordered where
  suspendNow h hidle hpending hnow :=
    h.keep (Coupled.roundStable.suspendNow h.coupled hidle hpending hnow)
      (by simp [Daemon.suspendNow, Effect.aboutCommands]) rfl rfl rfl id (Nat.le_refl _)
  suspendLater {d source rest} h hidle hpending hlater := by
    refine h.keep (Coupled.roundStable.suspendLater h.coupled hidle hpending hlater)
      (by simp [Daemon.suspendLater, Effect.aboutCommands]) ?_ rfl rfl
      (fun _ => rfl) (Nat.le_refl _)
    unfold Daemon.suspendLater
    split_ifs <;> simp [jobCommands, Job.command?]
  resumeNow h hidle hpending hnow :=
    h.keep (Coupled.roundStable.resumeNow h.coupled hidle hpending hnow)
      (by simp [Daemon.resumeNow, Effect.aboutCommands]) rfl rfl rfl id (Nat.le_refl _)
  resumeLater {d source rest} h hidle hpending hlater := by
    refine h.keep (Coupled.roundStable.resumeLater h.coupled hidle hpending hlater)
      (by simp [Daemon.resumeLater, Effect.aboutCommands]) ?_ rfl rfl id (Nat.le_refl _)
    unfold Daemon.resumeLater
    split_ifs <;> simp [jobCommands, Job.command?]

theorem reconnectStable : ReconnectStable Ordered where
  quiet {d} reconnect timer arms h :=
    h.keep (Coupled.reconnectStable.quiet (d := d) _ _ _ h.coupled) rfl rfl rfl rfl id (Nat.le_refl _)
  attempt {d} h := by
    have hcoupled := Coupled.reconnectStable.attempt h.coupled
    unfold reconnectAsync at hcoupled ⊢
    dsimp only [issue, emit, submit] at hcoupled ⊢
    split_ifs at hcoupled ⊢ with hshut hsuspended hconnected <;>
      exact h.keep hcoupled (by simp [Effect.aboutCommands])
        (by simp [jobCommands, Job.command?]) rfl rfl id (Nat.le_refl _)
  abandon h :=
    h.keep (Coupled.reconnectStable.abandon h.coupled)
      (by simp [onAdapterUnrecoverable, Effect.aboutCommands]) rfl rfl rfl id (Nat.le_refl _)

theorem settle (h : Ordered d) (rounds : ℕ) : Ordered (settle rounds d) :=
  roundStable.settle reconnectStable.seedReconnect rounds h

/-- A suspended daemon parks a command behind those already parked. -/
theorem park (h : Ordered d) {d' : Daemon} {message : Message} (hcoupled : Coupled d')
    (hopen : d.lifecycleShutdown = false) (hsuspended : d'.suspended = true)
    (hreplayable : Replayable ⟨d.requests, message⟩)
    (hlog : commandLog d'.log = commandLog d.log ++ [.accepted ⟨d.requests, message⟩ true])
    (hjobs : jobCommands d'.jobs = jobCommands d.jobs)
    (hqueued : d'.queued = d.queued ++ [⟨d.requests, message⟩])
    (hshut : d'.lifecycleShutdown = d.lifecycleShutdown)
    (hrequests : d'.requests = d.requests + 1) : Ordered d' := by
  have hsurviving : surviving d'.log = surviving d.log ++ [(⟨d.requests, message⟩, true)] := by
    rw [← surviving_commandLog, hlog, surviving_append_singleton (by rfl), surviving_commandLog]
    rfl
  have hexecuted : executedCommands d'.log = executedCommands d.log := by
    rw [← executedCommands_commandLog, hlog, executedCommands_append,
      executedCommands_commandLog]
    simp [executedCommands]
  have haccepted : acceptedCommands d'.log =
      acceptedCommands d.log ++ [⟨d.requests, message⟩] := by
    rw [← acceptedCommands_commandLog, hlog, acceptedCommands_append,
      acceptedCommands_commandLog]
    rfl
  refine ⟨hcoupled, fun _ => ?_, fun hclosed => ?_, fun _ _ => hsuspended, ?_, ?_, ?_⟩
  · rw [hsurviving, h.ledger hopen, hexecuted, hjobs, hqueued]
    simp
  · exact absurd (hopen.symm.trans (hshut.symm.trans hclosed)) (by simp)
  · intro command hcommand
    rw [hqueued, List.mem_append, List.mem_singleton] at hcommand
    rcases hcommand with hold | rfl
    · exact h.replayable command hold
    · exact hreplayable
  · intro command hcommand
    rw [haccepted, List.mem_append, List.mem_singleton] at hcommand
    rw [hrequests]
    rcases hcommand with hold | rfl
    · exact Nat.lt_succ_of_lt (h.fresh command hold)
    · exact Nat.lt_succ_self _
  · rw [haccepted, List.map_append, List.nodup_append]
    refine ⟨h.distinct, by simp, ?_⟩
    intro id hid other hother
    obtain ⟨command, hcommand, rfl⟩ := List.mem_map.mp hid
    obtain rfl : other = d.requests := by simpa using hother
    exact Nat.ne_of_lt (h.fresh command hcommand)

/-- A daemon that is not suspended has nothing parked, so a live command may
follow everything accepted before it. -/
theorem accept (h : Ordered d) {d' : Daemon} {message : Message} (hcoupled : Coupled d')
    (hopen : d.lifecycleShutdown = false) (hsuspended : d.suspended = false)
    (hlog : d'.log = d.log ++ [.accepted ⟨d.requests, message⟩ false])
    (hjobs : jobCommands d'.jobs = jobCommands d.jobs ++ [⟨d.requests, message⟩])
    (hqueued : d'.queued = d.queued) (hshut : d'.lifecycleShutdown = d.lifecycleShutdown)
    (hrequests : d'.requests = d.requests + 1) : Ordered d' := by
  have hnil : d.queued = [] := by
    by_contra hne
    exact absurd (h.parkedSuspended hopen hne) (by simp [hsuspended])
  refine ⟨hcoupled, fun _ => ?_, fun hclosed => ?_, fun _ hne => ?_, ?_, ?_, ?_⟩
  · rw [hlog, surviving_append_singleton (by rfl), h.ledger hopen, hjobs, hqueued, hnil]
    simp [surviving, executedCommands]
  · exact absurd (hopen.symm.trans (hshut.symm.trans hclosed)) (by simp)
  · exact absurd (hqueued.trans hnil) hne
  · rw [hqueued, hnil]
    simp
  · intro command hcommand
    rw [hlog, acceptedCommands_append, List.mem_append] at hcommand
    rw [hrequests]
    rcases hcommand with hold | hnew
    · exact Nat.lt_succ_of_lt (h.fresh command hold)
    · obtain rfl : command = ⟨d.requests, message⟩ := by simpa [acceptedCommands] using hnew
      exact Nat.lt_succ_self _
  · rw [hlog, acceptedCommands_append, List.map_append, List.nodup_append]
    refine ⟨h.distinct, by simp [acceptedCommands], ?_⟩
    intro id hid other hother
    obtain ⟨command, hcommand, rfl⟩ := List.mem_map.mp hid
    obtain rfl : other = d.requests := by simpa [acceptedCommands] using hother
    exact Nat.ne_of_lt (h.fresh command hcommand)

/-- The report of a resume: the parked block is replayed behind everything else,
or dropped as a whole. -/
theorem resumed (h : Ordered d) {d' : Daemon} {adapterValid : Bool} (hcoupled : Coupled d')
    (hlog : commandLog d'.log = commandLog d.log ++ [.resumed adapterValid])
    (hjobs : d.lifecycleShutdown = false → jobCommands d'.jobs =
      jobCommands d.jobs ++ jobCommands (replayJobs (if adapterValid then d.queued else [])))
    (hqueued : d'.queued = []) (hshut : d'.lifecycleShutdown = d.lifecycleShutdown)
    (hrequests : d'.requests = d.requests) : Ordered d' := by
  have hexecuted : executedCommands d'.log = executedCommands d.log := by
    rw [← executedCommands_commandLog, hlog, executedCommands_append,
      executedCommands_commandLog]
    simp [executedCommands]
  have haccepted : acceptedCommands d'.log = acceptedCommands d.log := by
    rw [← acceptedCommands_commandLog, hlog, acceptedCommands_append,
      acceptedCommands_commandLog]
    simp [acceptedCommands]
  have hsurviving : surviving d'.log = surviving (d.log ++ [.resumed adapterValid]) := by
    rw [← surviving_commandLog, hlog,
      ← surviving_commandLog (d.log ++ [Effect.resumed adapterValid])]
    simp [Effect.aboutCommands]
  refine ⟨hcoupled, fun hopen => ?_, fun hclosed => ?_, fun _ hne => absurd hqueued hne, ?_, ?_, ?_⟩
  · rw [hshut] at hopen
    rw [hsurviving, hexecuted, hjobs hopen, hqueued]
    cases adapterValid with
    | true =>
        rw [surviving_append_kept (by rfl), h.ledger hopen, if_pos rfl,
          jobCommands_replayJobs h.replayable]
        simp [Function.comp_def]
    | false =>
        rw [surviving_append_dropped (by rfl), h.ledger hopen]
        simp [List.filter_append, List.filter_map, Function.comp_def, replayJobs, jobCommands]
  · rw [hshut] at hclosed
    obtain ⟨hextends, hopenless⟩ := h.closed hclosed
    rw [hsurviving, hexecuted]
    cases adapterValid with
    | true =>
        rw [surviving_append_kept (by rfl)]
        simpa [Function.comp_def] using hextends
    | false =>
        rw [surviving_append_dropped (by rfl),
          List.filter_eq_self.mpr fun entry hentry => by simp [hopenless entry hentry]]
        exact ⟨hextends, hopenless⟩
  · simp [hqueued]
  · rw [haccepted, hrequests]
    exact h.fresh
  · rw [haccepted]
    exact h.distinct

/-- Taking a job executes its command, the next one due. -/
theorem take (h : Ordered d) {job : Job} {jobs : List Job} (hcoupled : Coupled (d.takeJob job jobs))
    (hjobs : d.jobs = job :: jobs) (hopen : d.lifecycleShutdown = false) :
    Ordered (d.takeJob job jobs) := by
  have hexecuted : executedCommands (d.takeJob job jobs).log =
      executedCommands d.log ++ job.command?.toList := by
    cases hcommand : job.command? <;> simp [takeJob, executedCommands, hcommand]
  have haccepted : acceptedCommands (d.takeJob job jobs).log = acceptedCommands d.log := by
    cases hcommand : job.command? <;> simp [takeJob, acceptedCommands, hcommand]
  have hsurviving : surviving (d.takeJob job jobs).log = surviving d.log := by
    cases hcommand : job.command? with
    | none =>
        simp only [takeJob, hcommand, Option.toList_none, List.map_nil]
        rw [surviving_append_singleton (by rfl)]
        simp [surviving]
    | some command =>
        simp only [takeJob, hcommand, Option.toList_some, List.map_cons, List.map_nil]
        rw [show d.log ++ [.taken job, .executed command] =
          (d.log ++ [.taken job]) ++ [.executed command] by simp,
          surviving_append_singleton (by rfl), surviving_append_singleton (by rfl)]
        simp [surviving]
  refine ⟨hcoupled, fun _ => ?_, fun hclosed => ?_, h.parkedSuspended, h.replayable, ?_, ?_⟩
  · rw [hsurviving, h.ledger hopen, hexecuted, hjobs]
    cases hcommand : job.command? <;> simp [takeJob, jobCommands, hcommand]
  · exact absurd (hopen.symm.trans hclosed) (by simp)
  · rw [haccepted]
    exact h.fresh
  · rw [haccepted]
    exact h.distinct

/-- Shutdown drops the parked block and whatever the worker has not begun. -/
theorem stop (h : Ordered d) (hcoupled : Coupled d.stop) : Ordered d.stop := by
  by_cases hshut : d.lifecycleShutdown = true
  · have hstop : d.stop = { d with dispatcherShutdown := true, stopRequested := true, jobs := [] } := by
      simp [Daemon.stop, lifecycleStop, hshut]
    have hjobs : d.jobs = [] := h.coupled.gates.2.2 (h.coupled.gates.1.trans hshut)
    rw [hstop] at hcoupled ⊢
    exact h.keep hcoupled rfl (by simp [hjobs]) rfl rfl id (Nat.le_refl _)
  · have hopen : d.lifecycleShutdown = false := by simpa using hshut
    have hlog : d.stop.log = d.log ++ [.shutdown] := by
      simp [Daemon.stop, lifecycleStop, hopen]
    have hclosed : d.stop.lifecycleShutdown = true := by
      simp [Daemon.stop, lifecycleStop, hopen]
    have hqueued : d.stop.queued = [] := by simp [Daemon.stop, lifecycleStop, hopen]
    have hrequests : d.stop.requests = d.requests := by
      simp [Daemon.stop, lifecycleStop, hopen]
    refine ⟨hcoupled, fun hopen' => absurd (hclosed.symm.trans hopen') (by simp), fun _ => ?_,
      fun _ hne => absurd hqueued hne, by simp [hqueued], ?_, ?_⟩
    · rw [hlog, surviving_append_dropped (by rfl), h.ledger hopen]
      constructor
      · simp [List.filter_append, List.filter_map, Function.comp_def, executedCommands]
      · intro entry hentry
        simpa using (List.mem_filter.mp hentry).2
    · rw [hlog, hrequests]
      simpa [acceptedCommands] using h.fresh
    · rw [hlog]
      simpa [acceptedCommands] using h.distinct

theorem stepStable {C : Daemon → Label → Prop} : StepStable C Ordered where
  settle rounds h := h.settle rounds
  received request h :=
    h.keep (h.coupled.received request) (by simp [Daemon.received, Effect.aboutCommands])
      rfl rfl rfl id (Nat.le_refl _)
  safetyFired {d} h := by
    refine h.keep h.coupled.safetyFired ?_ rfl rfl rfl id (Nat.le_refl _)
    unfold Daemon.safetyFired
    split_ifs <;> simp
  answered response hC h :=
    h.keep (Coupled.stepStable (C := C) |>.answered response hC h.coupled)
      (by simp [answer, Effect.aboutCommands]) rfl rfl rfl id (Nat.le_succ _)
  standby enabled h :=
    h.keep (Coupled.stepStable (C := C) |>.standby enabled h.coupled) rfl rfl rfl rfl id
      (Nat.le_refl _)
  parked {d message spec} hC h hshut hsuspended hfind hqueue := by
    have hopen : d.lifecycleShutdown = false := h.coupled.gates.2.1.symm.trans hshut
    exact h.park (Coupled.stepStable.parked hC h.coupled hshut hsuspended hfind hqueue) hopen
      hsuspended ⟨spec, hfind, adapterCall_of_queueable hfind hqueue⟩
      (by simp [Effect.aboutCommands]) rfl rfl rfl rfl
  live {d message spec} hC h hshut hsuspended hfind hcall := by
    have hopen : d.lifecycleShutdown = false := h.coupled.gates.2.1.symm.trans hshut
    have hstop : d.stopRequested = false := h.coupled.gates.1.trans hopen
    exact h.accept (Coupled.stepStable.live hC h.coupled hshut hsuspended hfind hcall) hopen
      hsuspended rfl (by simp [hstop, jobCommands, Job.command?]) rfl rfl rfl
  posted kind h :=
    h.keep (Coupled.stepStable (C := C) |>.posted kind h.coupled) rfl rfl rfl rfl id
      (Nat.le_refl _)
  powerDrained h hposts :=
    h.keep (h.coupled.drained hposts) rfl rfl rfl rfl id (Nat.le_refl _)
  replyDrained _ h hposts :=
    h.keep (h.coupled.drained hposts) (by simp [Effect.aboutCommands]) rfl rfl rfl id
      (Nat.le_refl _)
  suspendDrained {d ticket posts} h hposts := by
    have hcoupled := h.coupled.suspendDrained hposts
    unfold suspendReported at hcoupled ⊢
    split_ifs at hcoupled ⊢
    · refine h.keep hcoupled ?_ rfl rfl rfl id (Nat.le_refl _)
      unfold finishSuspend
      split_ifs <;> simp [Effect.aboutCommands]
    · exact h.keep hcoupled (by simp [Effect.aboutCommands]) rfl rfl rfl id (Nat.le_refl _)
  resumeDrained {d ticket adapterValid posts} _ h hposts := by
    have hcoupled := h.coupled.resumeReported_resumedWith hposts
    have hjobs : d.lifecycleShutdown = false →
        jobCommands (d.resumedWith ticket adapterValid posts).jobs = jobCommands d.jobs ++
          jobCommands (replayJobs (if adapterValid then d.queued else [])) := by
      intro hopen
      have hstop : d.stopRequested = false := h.coupled.gates.1.trans hopen
      simp [resumedWith, hstop, jobCommands]
    refine resumeDrained_of_reported (P := Ordered) (fun rounds h => h.settle rounds)
      reconnectStable.seedReconnect ?_
    unfold resumeReported at hcoupled ⊢
    split_ifs at hcoupled ⊢
    · exact h.resumed hcoupled (by simp [finishResume, resumedWith, Effect.aboutCommands])
        hjobs rfl rfl rfl
    · exact h.resumed hcoupled (by simp [resumedWith, Effect.aboutCommands]) hjobs rfl rfl rfl
  reconnectDrained {d ticket ok posts} _ h hposts :=
    reconnectStable.onReconnectEvent
      (h.keep (h.coupled.drained hposts) (by simp [Effect.aboutCommands]) rfl rfl rfl id
        (Nat.le_refl _)) _
  lostDrained {d posts} _ h hposts :=
    reconnectStable.onReconnectEvent
      (h.keep (h.coupled.drained hposts) rfl rfl rfl rfl id (Nat.le_refl _)) _
  retryTimer {d} _ h :=
    reconnectStable.onReconnectEvent (reconnectStable.quiet (d := d) _ _ d.arms h) _
  safetyExpired h :=
    h.keep (Coupled.stepStable (C := C) |>.safetyExpired h.coupled) rfl rfl rfl rfl id
      (Nat.le_refl _)
  retryExpired htimer h :=
    h.keep (Coupled.stepStable (C := C) |>.retryExpired htimer h.coupled) rfl rfl rfl rfl id
      (Nat.le_refl _)
  taken {d job jobs} h hrunning hjobs hstop :=
    h.take (Coupled.stepStable (C := C) |>.taken h.coupled hrunning hjobs hstop) hjobs
      (h.coupled.gates.1.symm.trans hstop)
  reopening h hrunning hrest hstage :=
    h.keep (Coupled.stepStable (C := C) |>.reopening h.coupled hrunning hrest hstage)
      rfl rfl rfl rfl id (Nat.le_refl _)
  opened h hrunning hstage :=
    h.keep (Coupled.stepStable (C := C) |>.opened h.coupled hrunning hstage) rfl rfl rfl rfl id
      (Nat.le_refl _)
  called hC h hrunning hrest hpossible :=
    h.keep (Coupled.stepStable.called hC h.coupled hrunning hrest hpossible) rfl rfl rfl rfl id
      (Nat.le_refl _)
  ticked time h hrunning hrest :=
    h.keep (Coupled.stepStable (C := C) |>.ticked time h.coupled hrunning hrest)
      rfl rfl rfl rfl id (Nat.le_refl _)
  slept h hrunning hrest :=
    h.keep (Coupled.stepStable (C := C) |>.slept h.coupled hrunning hrest) rfl rfl rfl rfl id
      (Nat.le_refl _)
  finished {d r result throttler} hC h hrunning hrest := by
    have hcoupled := Coupled.stepStable.finished hC h.coupled hrunning hrest
    rcases result with _ | (_ | p)
    · exact h.keep hcoupled (by simp [finishJob, Effect.aboutCommands]) rfl rfl rfl id
        (Nat.le_refl _)
    · exact h.keep hcoupled rfl rfl rfl rfl id (Nat.le_refl _)
    · exact h.keep hcoupled rfl rfl rfl rfl id (Nat.le_refl _)
  exited h hrunning hstop :=
    h.keep (Coupled.stepStable (C := C) |>.exited h.coupled hrunning hstop) rfl rfl rfl rfl id
      (Nat.le_refl _)
  alerted h :=
    h.keep (Coupled.stepStable (C := C) |>.alerted h.coupled) rfl rfl rfl rfl id (Nat.le_refl _)
  alertPosted h halerting :=
    h.keep (Coupled.stepStable (C := C) |>.alertPosted h.coupled halerting) rfl rfl rfl rfl id
      (Nat.le_refl _)
  stopped h := h.stop (Coupled.stepStable (C := C) |>.stopped h.coupled)

theorem boot (setup : Setup) : Ordered (boot setup) where
  coupled := Coupled.boot setup
  ledger := by simp [Daemon.boot, surviving, executedCommands, jobCommands]
  closed := by simp [Daemon.boot]
  parkedSuspended := by simp [Daemon.boot]
  replayable := by simp [Daemon.boot]
  fresh := by simp [Daemon.boot, acceptedCommands]
  distinct := by simp [Daemon.boot, acceptedCommands]

end Ordered

/-! ## What the log says happened -/

/-- The job of a command runs `executeOnAdapter` on it, live or replayed. -/
theorem body_of_command {job : Job} {command : Command} (h : job.command? = some command) :
    ∃ spec, ∃ finish : Message → Option Post,
      job.body = do return finish (← executeOnAdapter command.message spec) := by
  cases job with
  | live command' spec =>
      obtain rfl := Option.some.inj h
      exact ⟨spec, fun response => some (.reply command'.id response), rfl⟩
  | replay command' spec =>
      obtain rfl := Option.some.inj h
      exact ⟨spec, fun _ => none, rfl⟩
  | _ => cases h

/-- The command on which the step has the worker start `executeOnAdapter`. -/
def executes? (d : Daemon) : Label → Option Command
  | .workerTake => d.jobs.head?.bind Job.command?
  | _ => none

variable {d d' : Daemon}

/-- The step that executes a command leaves the worker at the start of `executeOnAdapter`. -/
theorem running_of_executes {label : Label} {command : Command}
    (hexecutes : d.executes? label = some command) (hstep : machine.step d label = some d') :
    ∃ job spec, ∃ finish : Message → Option Post, d'.running = some ⟨job,
      (do return finish (← executeOnAdapter command.message spec) :
        WorkerM (Option Post)).program d.throttler, .outside⟩ := by
  cases moves_of_step hstep with
  | workerTake hrunning hjobs hstop =>
      rename_i job jobs
      have hcommand : job.command? = some command := by simpa [executes?, hjobs] using hexecutes
      obtain ⟨spec, finish, hbody⟩ := body_of_command hcommand
      exact ⟨job, spec, finish, by rw [takeJob, hbody]⟩
  | working hrunning hworks => cases hworks <;> cases hexecutes
  | _ => cases hexecutes

theorem executedCommands_told (d : Daemon) : executedCommands d.log = executedCommands d.told := by
  unfold told
  induction d.log with
  | nil => rfl
  | cons e log ih => cases e <;> simp_all [executedCommands, Effect.ofSupervisor]

/-- Of the steps, only taking the job of a command logs an execution. -/
theorem executedCommands_step {label : Label} (hstep : machine.step d label = some d') :
    executedCommands d'.log = executedCommands d.log ++ (d.executes? label).toList := by
  obtain ⟨more, hmore, htells⟩ := told_step hstep
  have hexecuted : executedCommands more = (d.executes? label).toList := by
    cases htells with
    | @taken job jobs hjobs =>
        cases hcommand : job.command? <;> simp [executedCommands, executes?, hjobs, hcommand]
    | @nothing label hrequest hlabel => cases label <;> simp_all [executedCommands, executes?]
    | _ => rfl
  rw [executedCommands_told, executedCommands_told, hmore, executedCommands_append, hexecuted]

/-- A command is parked with the success it is answered with. -/
theorem replied_of_parked {setup : Setup} {labels : List Label}
    (hrun : machine.run (boot setup) labels = some d) {command : Command}
    (hparked : .accepted command true ∈ d.log) : .replied command.id respSuccess ∈ d.log := by
  have hstep {d d' : Daemon} {label : Label}
      (hd : .accepted command true ∈ d.told → .replied command.id respSuccess ∈ d.told)
      (hstep : machine.step d label = some d') :
      .accepted command true ∈ d'.told → .replied command.id respSuccess ∈ d'.told := by
    obtain ⟨more, hmore, htells⟩ := told_step hstep
    intro hmem
    rw [hmore, List.mem_append] at hmem ⊢
    refine hmem.imp hd fun hnew => ?_
    cases htells <;> simp_all
  have hboot : .accepted command true ∈ (boot setup).told →
      .replied command.id respSuccess ∈ (boot setup).told := by simp [boot, told]
  have htold := machine.invariant_of_step (I := fun d =>
    .accepted command true ∈ d.told → .replied command.id respSuccess ∈ d.told) hstep hboot hrun
  exact (List.mem_filter.mp (htold (List.mem_filter.mpr ⟨hparked, rfl⟩))).1

/-- **No accepted command is lost, duplicated or reordered.** In every run, the
commands executed on the worker are a prefix of the accepted ones with whole
parked blocks removed, a block being removed only by a resume that reported no
adapter or by shutdown; no command is executed twice; and short of shutdown a
command is parked only while the adapter is suspended. The commands executed are
those that a step of the run has the worker start `executeOnAdapter` on
(`running_of_executes`), and whoever had one parked was told of success. -/
theorem executed_prefix_of_accepted {setup : Setup} {labels : List Label} {d : Daemon}
    (hrun : machine.run (boot setup) labels = some d) :
    executedCommands d.log <+: (surviving d.log).map Prod.fst ∧
      ((surviving d.log).map Prod.fst).Sublist (acceptedCommands d.log) ∧
      ((executedCommands d.log).map Command.id).Nodup ∧
      (d.lifecycleShutdown = false → d.queued ≠ [] → d.suspended = true) ∧
      executedCommands d.log =
        machine.seenAlong (fun d label => (d.executes? label).toList) (boot setup) labels ∧
      ∀ command, .accepted command true ∈ d.log → .replied command.id respSuccess ∈ d.log := by
  have h : Ordered d := Ordered.stepStable.always (Ordered.boot setup) hrun
  have hextends : executedCommands d.log <+: (surviving d.log).map Prod.fst := by
    cases hshut : d.lifecycleShutdown with
    | true => exact (h.closed hshut).1
    | false =>
        rw [h.ledger hshut]
        simp [Function.comp_def]
  have hsublist := surviving_sublist d.log
  refine ⟨hextends, hsublist, ?_, h.parkedSuspended, ?_, fun _ => replied_of_parked hrun⟩
  · exact h.distinct.sublist ((hextends.sublist.trans hsublist).map Command.id)
  · exact machine.recorded_of_step (I := fun _ => True) (fun _ _ => trivial)
      (fun _ hstep => executedCommands_step hstep) trivial hrun

/-- A command executed live, one parked during a suspension and replayed after it. -/
def parkedAndReplayed : List Label :=
  [.wire ⟨.cmdRestartAdapter, 0, []⟩, .wire ⟨.cmdSuspend, 0, []⟩, .wire ⟨.cmdVolumeUp, 0, []⟩,
    .workerTake, .workerReopen, .workerOpened, .workerCall (.ok true), .workerFinish, .drain,
    .workerTake, .workerCall (.ok true), .workerCall (.ok true), .workerCall (.ok true),
    .workerFinish, .drain, .wire ⟨.cmdResume, 0, []⟩, .workerTake, .workerReopen, .workerOpened,
    .workerCall (.ok true), .workerCall (.ok true), .workerCall (.ok true), .workerFinish,
    .drain, .workerTake]

theorem executed_prefix_of_accepted_parkedAndReplayed :
    ∃ d, machine.run (boot {}) parkedAndReplayed = some d ∧
      (executedCommands d.log).length = 2 ∧
      executedCommands d.log <+: (surviving d.log).map Prod.fst := by
  have hlength : (machine.run (boot {}) parkedAndReplayed).map
      (fun d => (executedCommands d.log).length) = some 2 := by decide
  obtain ⟨d, hd, htwo⟩ := Option.map_eq_some_iff.mp hlength
  exact ⟨d, hd, htwo, (executed_prefix_of_accepted hd).1⟩

end Daemon

end CecControl
