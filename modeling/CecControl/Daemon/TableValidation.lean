/-
# What validating the tables rules out

The daemon checks its command tables when it starts, and the dispatch code has branches that it
takes to be ruled out by that. Here the tables are parameters, as they are for whoever adds the
next command. The checks let two mistakes pass: a type classified for the supervisor that is not
one of its two commands, and a command of the main thread that may be queued. In tables without
them, no run reaches any of those branches.
-/

import CecControl.Daemon.System
import CecControl.Lib.Machine
import Mathlib.Data.List.Pairwise

namespace CecControl

open Daemon (respSuccess respError)

universe u

/-! ## Tables -/

/-- A row of the daemon's table, for handlers of any type. -/
structure DispatchRow (η : Type u) where
  type : MessageType
  dispatch : DispatchClass
  queueableWhileSuspended : Bool
  requiresAdapterConnection : Bool
  adapterHandler : Option η

/-- A row of the table as it is. -/
def DispatchRow.ofSpec (spec : DispatchSpec) : DispatchRow AdapterHandler :=
  ⟨spec.type, spec.dispatch, spec.queueableWhileSuspended, spec.requiresAdapterConnection,
    spec.adapterHandler⟩

/-- The client's registry and the daemon's table. -/
structure CommandTables (η : Type u) where
  registry : List CommandSpec
  rows : List (DispatchRow η)

namespace CommandTables

variable {η : Type u} (t : CommandTables η)

def findDispatchByType (type : MessageType) : Option (DispatchRow η) :=
  t.rows.find? fun spec => spec.type == type

def findByType (type : MessageType) : Option CommandSpec :=
  t.registry.find? fun spec => spec.types.contains type

/-- The four checks: every type of the registry has a row, every row is in the registry, no two
rows share a type, and just the rows for the adapter have handlers. -/
def validateDispatchTable : Bool :=
  (t.registry.all fun cmd => cmd.types.all fun type => (t.findDispatchByType type).isSome) &&
    (t.rows.all fun spec => (t.findByType spec.type).isSome) &&
    decide (t.rows.Pairwise fun spec other => spec.type ≠ other.type) &&
    t.rows.all fun spec => (spec.dispatch == .adapterCall) == spec.adapterHandler.isSome

end CommandTables

/-! ## Routing a command -/

/-- The branches that validation is taken to rule out. -/
inductive RuledOut
  | interceptedWithoutMapping
  | interceptedAtDispatcher
  | unhandledClass
  | nullHandler
  | replaySkips
  deriving DecidableEq, Repr

/-- What deciding where a command goes depends on, the commands that are queued, the jobs handed to
the worker, and which of the branches have been reached. -/
structure Router (η : Type u) where
  dispatcherShutdown : Bool
  suspended : Bool
  queueCommandsDuringSuspend : Bool
  standbyEnabled : Bool
  stopRequested : Bool
  queued : List Message := []
  jobs : List (Message × DispatchRow η) := []
  reached : List RuledOut := []

namespace Router

variable {η : Type u} (t : CommandTables η)

def reach (r : Router η) (branch : RuledOut) : Router η := { r with reached := r.reached ++ [branch] }

def applyStandby (r : Router η) (command : Message) : Router η × Message :=
  match command.data.head? with
  | none => (r, respError)
  | some enabled => ({ r with standbyEnabled := enabled.toNat > 0 }, respSuccess)

def enqueue (r : Router η) (command : Message) : Router η :=
  { r with queued := if r.suspended then r.queued ++ [command] else r.queued }

def handleSuspendedInline (r : Router η) (command : Message) (spec : DispatchRow η) :
    Router η × Message :=
  if r.queueCommandsDuringSuspend && spec.queueableWhileSuspended then
    (r.enqueue command, respSuccess)
  else (r, respError)

def submit (r : Router η) (command : Message) (spec : DispatchRow η) : Router η :=
  { r with jobs := if r.stopRequested then r.jobs else r.jobs ++ [(command, spec)] }

/-- `CommandDispatcher::dispatch`, with the reply when it is made on the spot. -/
def dispatch (r : Router η) (command : Message) : Router η × Option Message :=
  if r.dispatcherShutdown then (r, some respError)
  else
    match t.findDispatchByType command.type with
    | none => (r, some respError)
    | some spec =>
        if spec.dispatch = .supervisorIntercepted then
          (r.reach .interceptedAtDispatcher, some respError)
        else if r.suspended then
          ((r.handleSuspendedInline command spec).1, some (r.handleSuspendedInline command spec).2)
        else
          match spec.dispatch with
          | .adapterCall => (r.submit command spec, none)
          | .stateOnly => ((r.applyStandby command).1, some (r.applyStandby command).2)
          | .supervisorIntercepted => (r.reach .unhandledClass, some respError)

/-- `CommandDispatcher::replay`. -/
def replay (r : Router η) : List Message → Router η
  | [] => r
  | command :: commands =>
      match t.findDispatchByType command.type with
      | none => (r.reach .replaySkips).replay commands
      | some spec =>
          if spec.dispatch ≠ .adapterCall then (r.reach .replaySkips).replay commands
          else (r.submit command spec).replay commands

/-- `CECDaemon::handleCommand`. What the supervisor then does to the adapter's lifecycle is a step
of its own. -/
def handleCommand (r : Router η) (command : Message) : Router η × Option Message :=
  match t.findDispatchByType command.type with
  | none => r.dispatch t command
  | some spec =>
      if spec.dispatch = .supervisorIntercepted then
        if command.type = .cmdSuspend ∨ command.type = .cmdResume then (r, some respSuccess)
        else (r.reach .interceptedWithoutMapping, some respError)
      else r.dispatch t command

/-- `executeOnAdapter`, when the adapter is connected or not, and the handler succeeds or not. -/
def executeOnAdapter (r : Router η) (spec : DispatchRow η) (connected succeeds : Bool) :
    Router η × Message :=
  if spec.requiresAdapterConnection && !connected then (r, respError)
  else
    match spec.adapterHandler with
    | none => (r.reach .nullHandler, respError)
    | some _ => (r, if succeeds then respSuccess else respError)

/-- The worker takes the next of its jobs. -/
def executeNext (r : Router η) (connected succeeds : Bool) : Option (Router η) :=
  match r.jobs with
  | [] => none
  | (_, spec) :: jobs => some (({ r with jobs := jobs }).executeOnAdapter spec connected succeeds).1

/-- `onResumeWorkerComplete`, and the replay of what it hands on. -/
def resumeComplete (r : Router η) (adapterValid : Bool) : Router η :=
  let drained := r.queued
  let r := { r with queued := [], suspended := false }
  if adapterValid then r.replay t drained else r

end Router

/-! ## Runs -/

inductive RouterLabel
  | receive (command : Message)
  | enterSuspended
  | resumeComplete (adapterValid : Bool)
  | execute (connected succeeds : Bool)
  | stop
  deriving DecidableEq

namespace CommandTables

variable {η : Type u} (t : CommandTables η)

def machine : Lib.Machine (Router η) RouterLabel where
  step r
    | .receive command => some (r.handleCommand t command).1
    | .enterSuspended => some { r with suspended := true }
    | .resumeComplete adapterValid => some (r.resumeComplete t adapterValid)
    | .execute connected succeeds => r.executeNext connected succeeds
    | .stop => some { r with dispatcherShutdown := true, stopRequested := true, queued := [], jobs := [] }

/-- Nothing is queued, nothing handed to the worker, and no branch reached. -/
structure Fresh (r : Router η) : Prop where
  queued : r.queued = []
  jobs : r.jobs = []
  reached : r.reached = []

/-- No run reaches a branch that is taken to be ruled out, whatever the state it starts in. -/
def NeverReached : Prop :=
  ∀ start labels final, Fresh start → t.machine.run start labels = some final → final.reached = []

/-- What the dispatch code relies on besides the checks. -/
structure Covered : Prop where
  mapped : ∀ spec ∈ t.rows, spec.dispatch = .supervisorIntercepted →
    spec.type = .cmdSuspend ∨ spec.type = .cmdResume
  queueable : ∀ spec ∈ t.rows, spec.dispatch = .stateOnly → spec.queueableWhileSuspended = false

/-! ## The checks -/

/-- Types in the table are told apart, and handlers are where they are called. -/
structure Checked : Prop where
  distinct : t.rows.Pairwise fun spec other => spec.type ≠ other.type
  handler : ∀ spec ∈ t.rows, spec.dispatch = .adapterCall → spec.adapterHandler.isSome = true

variable {t}

theorem checked_of_validate (h : t.validateDispatchTable = true) : t.Checked := by
  unfold validateDispatchTable at h
  simp only [Bool.and_eq_true, decide_eq_true_eq, List.all_eq_true, beq_iff_eq] at h
  obtain ⟨⟨-, hdistinct⟩, hhandler⟩ := h
  refine ⟨hdistinct, fun spec hspec hcall => ?_⟩
  rw [← hhandler spec hspec, hcall]
  rfl

theorem of_findDispatchByType {type : MessageType} {spec : DispatchRow η}
    (h : t.findDispatchByType type = some spec) : spec ∈ t.rows ∧ spec.type = type :=
  ⟨List.mem_of_find?_eq_some h, by simpa using List.find?_some h⟩

/-- Every row is the one that is found for its type. -/
theorem Checked.find_row (h : t.Checked) {spec : DispatchRow η} (hspec : spec ∈ t.rows) :
    t.findDispatchByType spec.type = some spec := by
  cases hfind : t.findDispatchByType spec.type with
  | none =>
      have hnone := List.find?_eq_none.mp hfind spec hspec
      simp at hnone
  | some other =>
      obtain ⟨hother, htype⟩ := of_findDispatchByType hfind
      have hsame : other = spec := by
        by_contra hne
        have : Std.Symm fun spec other : DispatchRow η => spec.type ≠ other.type :=
          ⟨fun _ _ hne => hne.symm⟩
        exact h.distinct.forall hother hspec hne htype
      rw [hsame]

/-! ## Sufficiency -/

/-- What is queued is for the adapter, what the worker has been handed has a handler, and none of
the branches has been reached. -/
structure Sound (t : CommandTables η) (r : Router η) : Prop where
  queued : ∀ command ∈ r.queued, ∃ spec, t.findDispatchByType command.type = some spec ∧
    spec.dispatch = .adapterCall
  jobs : ∀ job ∈ r.jobs, job.2.adapterHandler.isSome = true
  reached : r.reached = []

variable {r : Router η}

theorem Sound.submit (h : Sound t r) (hchecked : t.Checked) {command : Message}
    {spec : DispatchRow η} (hspec : spec ∈ t.rows) (hcall : spec.dispatch = .adapterCall) :
    Sound t (r.submit command spec) := by
  refine ⟨h.queued, fun job hjob => ?_, h.reached⟩
  unfold Router.submit at hjob
  dsimp only at hjob
  split_ifs at hjob
  · exact h.jobs job hjob
  · rw [List.mem_append, List.mem_singleton] at hjob
    rcases hjob with hjob | rfl
    · exact h.jobs job hjob
    · exact hchecked.handler spec hspec hcall

/-- Commands for the adapter are replayed without skipping one. -/
theorem Sound.replay (h : Sound t r) (hchecked : t.Checked) {commands : List Message}
    (hcommands : ∀ command ∈ commands, ∃ spec, t.findDispatchByType command.type = some spec ∧
      spec.dispatch = .adapterCall) : Sound t (r.replay t commands) := by
  induction commands generalizing r with
  | nil => exact h
  | cons command commands ih =>
      obtain ⟨spec, hfind, hcall⟩ := hcommands command List.mem_cons_self
      unfold Router.replay
      rw [hfind]
      dsimp only
      rw [if_neg (not_not.mpr hcall)]
      apply ih (h.submit hchecked (of_findDispatchByType hfind).1 hcall)
      exact fun other hother => hcommands other (List.mem_cons_of_mem _ hother)

/-- A command that is queued is for the adapter. -/
theorem Sound.handleSuspendedInline (h : Sound t r) (hcovered : t.Covered) {command : Message}
    {spec : DispatchRow η} (hfind : t.findDispatchByType command.type = some spec)
    (hclass : spec.dispatch ≠ .supervisorIntercepted) :
    Sound t (r.handleSuspendedInline command spec).1 := by
  unfold Router.handleSuspendedInline
  by_cases hqueue : (r.queueCommandsDuringSuspend && spec.queueableWhileSuspended) = true
  · rw [if_pos hqueue]
    have hcall : spec.dispatch = .adapterCall := by
      cases hdispatch : spec.dispatch with
      | adapterCall => rfl
      | supervisorIntercepted => exact (hclass hdispatch).elim
      | stateOnly =>
          have hnot := hcovered.queueable spec (of_findDispatchByType hfind).1 hdispatch
          rw [hnot, Bool.and_false] at hqueue
          cases hqueue
    refine ⟨fun other hother => ?_, h.jobs, h.reached⟩
    unfold Router.enqueue at hother
    dsimp only at hother
    split_ifs at hother
    · rw [List.mem_append, List.mem_singleton] at hother
      rcases hother with hother | rfl
      · exact h.queued other hother
      · exact ⟨spec, hfind, hcall⟩
    · exact h.queued other hother
  · rw [if_neg hqueue]
    exact h

/-- A command that the supervisor does not take is routed by its class. -/
theorem Sound.dispatch (h : Sound t r) (hchecked : t.Checked) (hcovered : t.Covered)
    {command : Message} (hclass : ∀ spec, t.findDispatchByType command.type = some spec →
      spec.dispatch ≠ .supervisorIntercepted) : Sound t (r.dispatch t command).1 := by
  unfold Router.dispatch
  by_cases hshutdown : r.dispatcherShutdown = true
  · rw [if_pos hshutdown]
    exact h
  · rw [if_neg hshutdown]
    cases hfind : t.findDispatchByType command.type with
    | none => exact h
    | some spec =>
        have hnot := hclass spec hfind
        dsimp only
        rw [if_neg hnot]
        by_cases hsuspended : r.suspended = true
        · rw [if_pos hsuspended]
          exact h.handleSuspendedInline hcovered hfind hnot
        · rw [if_neg hsuspended]
          cases hdispatch : spec.dispatch with
          | adapterCall => exact h.submit hchecked (of_findDispatchByType hfind).1 hdispatch
          | stateOnly =>
              dsimp only
              unfold Router.applyStandby
              split
              · exact h
              · exact ⟨h.queued, h.jobs, h.reached⟩
          | supervisorIntercepted => exact (hnot hdispatch).elim

theorem Sound.handleCommand (h : Sound t r) (hchecked : t.Checked) (hcovered : t.Covered)
    (command : Message) : Sound t (r.handleCommand t command).1 := by
  unfold Router.handleCommand
  cases hfind : t.findDispatchByType command.type with
  | none => exact h.dispatch hchecked hcovered (by simp [hfind])
  | some spec =>
      dsimp only
      by_cases hclass : spec.dispatch = .supervisorIntercepted
      · obtain ⟨hspec, htype⟩ := of_findDispatchByType hfind
        have hmapped := hcovered.mapped spec hspec hclass
        rw [htype] at hmapped
        rw [if_pos hclass, if_pos hmapped]
        exact h
      · rw [if_neg hclass]
        apply h.dispatch hchecked hcovered
        intro other hother
        rw [hfind] at hother
        cases hother
        exact hclass

theorem Sound.executeOnAdapter (h : Sound t r) {spec : DispatchRow η}
    (hhandler : spec.adapterHandler.isSome = true) (connected succeeds : Bool) :
    Sound t (r.executeOnAdapter spec connected succeeds).1 := by
  obtain ⟨handler, hsome⟩ := Option.isSome_iff_exists.mp hhandler
  unfold Router.executeOnAdapter
  rw [hsome]
  split_ifs <;> exact h

/-- What one step preserves. -/
theorem Sound.step (hchecked : t.Checked) (hcovered : t.Covered) {label : RouterLabel}
    {next : Router η} (h : Sound t r) (hstep : t.machine.step r label = some next) :
    Sound t next := by
  cases label with
  | receive command =>
      cases hstep
      exact h.handleCommand hchecked hcovered command
  | enterSuspended =>
      cases hstep
      exact ⟨h.queued, h.jobs, h.reached⟩
  | resumeComplete adapterValid =>
      cases hstep
      have hdrained : Sound t { r with queued := [], suspended := false } :=
        ⟨List.forall_mem_nil _, h.jobs, h.reached⟩
      unfold Router.resumeComplete
      dsimp only
      split_ifs
      · exact hdrained.replay hchecked h.queued
      · exact hdrained
  | execute connected succeeds =>
      change r.executeNext connected succeeds = some next at hstep
      unfold Router.executeNext at hstep
      cases hjobs : r.jobs with
      | nil =>
          rw [hjobs] at hstep
          cases hstep
      | cons job jobs =>
          rw [hjobs] at hstep
          cases hstep
          have hall := h.jobs
          rw [hjobs] at hall
          have hrest : Sound t { r with jobs := jobs } :=
            ⟨h.queued, fun other hother => hall other (List.mem_cons_of_mem _ hother), h.reached⟩
          exact hrest.executeOnAdapter (hall job List.mem_cons_self) connected succeeds
  | stop =>
      cases hstep
      exact ⟨List.forall_mem_nil _, List.forall_mem_nil _, h.reached⟩

theorem sound_of_fresh {r : Router η} (h : Fresh r) : Sound t r := by
  constructor
  · rw [h.queued]
    exact List.forall_mem_nil _
  · rw [h.jobs]
    exact List.forall_mem_nil _
  · exact h.reached

theorem neverReached_of_covered (hchecked : t.Checked) (hcovered : t.Covered) : t.NeverReached := by
  intro start labels final hfresh hrun
  have hsound : Sound t final :=
    Lib.Machine.invariant_of_step t.machine (Sound.step hchecked hcovered) (sound_of_fresh hfresh)
      hrun
  exact hsound.reached

/-! ## Necessity -/

/-- A type for the supervisor that it has no command for is not mapped. -/
theorem mapped_of_neverReached (hchecked : t.Checked) (hnever : t.NeverReached)
    {spec : DispatchRow η} (hspec : spec ∈ t.rows) (hclass : spec.dispatch = .supervisorIntercepted) :
    spec.type = .cmdSuspend ∨ spec.type = .cmdResume := by
  by_contra htype
  let start : Router η := ⟨false, false, false, false, false, [], [], []⟩
  have hreceive : start.handleCommand t ⟨spec.type, 0, []⟩ =
      (start.reach .interceptedWithoutMapping, some respError) := by
    unfold Router.handleCommand
    rw [hchecked.find_row hspec]
    dsimp only
    rw [if_pos hclass, if_neg htype]
  have hrun : t.machine.run start [.receive ⟨spec.type, 0, []⟩] =
      some (start.handleCommand t ⟨spec.type, 0, []⟩).1 := rfl
  rw [hreceive] at hrun
  cases hnever start _ _ ⟨rfl, rfl, rfl⟩ hrun

/-- A command of the main thread that is queued is not replayed. -/
theorem queueable_of_neverReached (hchecked : t.Checked) (hnever : t.NeverReached)
    {spec : DispatchRow η} (hspec : spec ∈ t.rows) (hclass : spec.dispatch = .stateOnly) :
    spec.queueableWhileSuspended = false := by
  by_contra hqueueable
  rw [Bool.not_eq_false] at hqueueable
  let command : Message := ⟨spec.type, 0, []⟩
  let start : Router η := ⟨false, true, true, false, false, [], [], []⟩
  have hfind : t.findDispatchByType command.type = some spec := hchecked.find_row hspec
  have hreceive : start.handleCommand t command =
      ({ start with queued := [command] }, some respSuccess) := by
    unfold Router.handleCommand Router.dispatch Router.handleSuspendedInline
    rw [hfind]
    dsimp only
    rw [if_neg (by simp [hclass]), if_neg (by simp [start]), if_neg (by simp [hclass]),
      if_pos (by rfl), if_pos (by simp [start, hqueueable])]
    rfl
  have hresume : ({ start with queued := [command] }).resumeComplete t true =
      ({ start with suspended := false }).reach .replaySkips := by
    unfold Router.resumeComplete
    dsimp only
    rw [if_pos rfl, Router.replay, hfind]
    dsimp only
    rw [if_pos (by simp [hclass])]
    rfl
  have hrun : t.machine.run start [.receive command, .resumeComplete true] =
      some ((start.handleCommand t command).1.resumeComplete t true) := rfl
  rw [hreceive, hresume] at hrun
  cases hnever start _ _ ⟨rfl, rfl, rfl⟩ hrun

/-- **Validation.** Tables that pass the checks keep those branches unreached in every run just if
the supervisor's types are its two commands and no command of the main thread may be queued. -/
theorem validation_sufficient_iff {η : Type u} {t : CommandTables η}
    (hvalid : t.validateDispatchTable = true) : t.NeverReached ↔ t.Covered := by
  have hchecked := checked_of_validate hvalid
  constructor
  · intro hnever
    constructor
    · exact fun spec => mapped_of_neverReached hchecked hnever
    · exact fun spec => queueable_of_neverReached hchecked hnever
  · exact neverReached_of_covered hchecked

/-- Restarting left to the supervisor, which has no case for it. -/
def restartIntercepted : CommandTables AdapterHandler where
  registry := kCommands
  rows := kDispatchTable.map fun spec =>
    if spec.type = .cmdRestartAdapter then ⟨spec.type, .supervisorIntercepted, false, false, none⟩
    else .ofSpec spec

theorem validation_not_sufficient :
    ¬ ∀ t : CommandTables AdapterHandler, t.validateDispatchTable = true → t.NeverReached := by
  intro hsufficient
  have hreached := hsufficient restartIntercepted (by decide)
    ⟨false, false, true, true, false, [], [], []⟩ [.receive ⟨.cmdRestartAdapter, 0, []⟩] _
    ⟨rfl, rfl, rfl⟩ rfl
  cases hreached

/-! ## The tables of the program -/

def shipped : CommandTables AdapterHandler := ⟨kCommands, kDispatchTable.map .ofSpec⟩

/-- They pass the checks and make neither mistake. -/
theorem validation_sufficient_iff_shipped : shipped.NeverReached := by
  apply (validation_sufficient_iff (by decide)).mpr
  constructor
  · decide
  · decide

theorem findDispatchByType_shipped (type : MessageType) :
    shipped.findDispatchByType type = (CecControl.findDispatchByType type).map .ofSpec := by
  unfold findDispatchByType CecControl.findDispatchByType shipped
  rw [List.find?_map]
  rfl

end CommandTables

namespace Daemon

open CommandTables

/-- The jobs that carry out a command. -/
def commandJob : Job → Option (Message × DispatchRow AdapterHandler)
  | .live command spec => some (command.message, .ofSpec spec)
  | .replay command spec => some (command.message, .ofSpec spec)
  | _ => none

/-- The part of the daemon that routes commands. -/
def router (d : Daemon) : Router AdapterHandler where
  dispatcherShutdown := d.dispatcherShutdown
  suspended := d.suspended
  queueCommandsDuringSuspend := d.queueCommandsDuringSuspend
  standbyEnabled := d.standbyEnabled
  stopRequested := d.stopRequested
  queued := d.queued.map Command.message
  jobs := d.jobs.filterMap commandJob

theorem router_submit {d : Daemon} {job : Job} {command : Message} {spec : DispatchSpec}
    (hjob : commandJob job = some (command, .ofSpec spec)) :
    (d.submit job).router = d.router.submit command (.ofSpec spec) := by
  unfold Daemon.submit Router.submit router
  by_cases hstop : d.stopRequested = true
  · simp [hstop]
  · simp [hstop, List.filterMap_append, hjob]

/-- Commands for the adapter are replayed alike. -/
theorem router_replay {commands : List Command} (hcommands : ∀ command ∈ commands,
      ∃ spec, findDispatchByType command.message.type = some spec ∧ spec.dispatch = .adapterCall)
    (d : Daemon) :
    (d.replay commands).router = d.router.replay shipped (commands.map Command.message) := by
  induction commands generalizing d with
  | nil => rfl
  | cons command commands ih =>
      obtain ⟨spec, hfind, hcall⟩ := hcommands command List.mem_cons_self
      have hrest := fun other hother => hcommands other (List.mem_cons_of_mem _ hother)
      have hrow : (DispatchRow.ofSpec spec).dispatch = .adapterCall := hcall
      unfold Daemon.replay
      rw [List.map_cons, Router.replay, findDispatchByType_shipped, hfind]
      dsimp only [Option.map_some]
      rw [if_pos hcall, if_neg (not_not.mpr hrow), ih hrest, router_submit rfl]

theorem router_handleSuspendedInline (d : Daemon) (command : Command) (spec : DispatchSpec) :
    d.router.handleSuspendedInline command.message (.ofSpec spec) =
      ((d.handleSuspendedInline command spec).1.router, (d.handleSuspendedInline command spec).2) := by
  unfold Daemon.handleSuspendedInline Router.handleSuspendedInline
  by_cases hqueue : (d.queueCommandsDuringSuspend && spec.queueableWhileSuspended) = true
  · rw [if_pos hqueue, if_pos (show (d.router.queueCommandsDuringSuspend &&
      (DispatchRow.ofSpec spec).queueableWhileSuspended) = true from hqueue)]
    unfold Daemon.enqueue Router.enqueue router
    by_cases hsuspended : d.suspended = true
    · simp [hsuspended]
    · simp [hsuspended]
  · rw [if_neg hqueue, if_neg (show ¬ (d.router.queueCommandsDuringSuspend &&
      (DispatchRow.ofSpec spec).queueableWhileSuspended) = true from hqueue)]

theorem router_applyStandby (d : Daemon) (command : Message) :
    d.router.applyStandby command =
      ((d.applyStandby command).1.router, (d.applyStandby command).2) := by
  unfold Daemon.applyStandby Router.applyStandby
  cases command.data <;> rfl

/-- A command that is not for the supervisor is dispatched alike, and no branch is reached. -/
theorem router_dispatch (d : Daemon) {command : Command}
    (hclass : ∀ spec, findDispatchByType command.message.type = some spec →
      spec.dispatch ≠ .supervisorIntercepted) :
    d.router.dispatch shipped command.message =
      ((d.dispatch command).1.router, (d.dispatch command).2) := by
  unfold Daemon.dispatch Router.dispatch
  by_cases hshutdown : d.dispatcherShutdown = true
  · rw [if_pos hshutdown, if_pos (show d.router.dispatcherShutdown = true from hshutdown)]
  · rw [if_neg hshutdown, if_neg (show ¬ d.router.dispatcherShutdown = true from hshutdown),
      findDispatchByType_shipped]
    cases hfind : findDispatchByType command.message.type with
    | none => rfl
    | some spec =>
        have hnot := hclass spec hfind
        dsimp only [Option.map_some]
        rw [if_neg hnot, if_neg (show (DispatchRow.ofSpec spec).dispatch ≠ _ from hnot)]
        by_cases hsuspended : d.suspended = true
        · rw [if_pos hsuspended, if_pos (show d.router.suspended = true from hsuspended),
            router_handleSuspendedInline]
        · rw [if_neg hsuspended, if_neg (show ¬ d.router.suspended = true from hsuspended)]
          have hrow : (DispatchRow.ofSpec spec).dispatch = spec.dispatch := rfl
          rw [hrow]
          cases hdispatch : spec.dispatch with
          | adapterCall =>
              dsimp only
              rw [submitAdapterWork, router_submit rfl]
              rfl
          | stateOnly =>
              dsimp only
              rw [router_applyStandby]
          | supervisorIntercepted => exact (hnot hdispatch).elim

/-- Every command is answered alike; what the supervisor does with its own is not routing. -/
theorem router_handleCommand (d : Daemon) (command : Command) :
    (d.router.handleCommand shipped command.message).2 = (d.handleCommand command).2 ∧
    (command.message.type ≠ .cmdSuspend → command.message.type ≠ .cmdResume →
      (d.router.handleCommand shipped command.message).1 = (d.handleCommand command).1.router) := by
  unfold Daemon.handleCommand Router.handleCommand
  rw [findDispatchByType_shipped]
  cases hfind : findDispatchByType command.message.type with
  | none =>
      dsimp only [Option.map_none]
      rw [router_dispatch d (by simp [hfind])]
      exact ⟨rfl, fun _ _ => rfl⟩
  | some spec =>
      dsimp only [Option.map_some]
      have hrow : (DispatchRow.ofSpec spec).dispatch = spec.dispatch := rfl
      by_cases hclass : spec.dispatch = .supervisorIntercepted
      · have htype := (supervisorIntercepted_iff hfind).mp hclass
        rw [if_pos hclass, if_pos (hrow.trans hclass), if_pos htype]
        refine ⟨?_, fun hsuspend hresume => (htype.elim hsuspend hresume).elim⟩
        rcases htype with htype | htype <;> rw [htype]
      · rw [if_neg hclass, if_neg (show (DispatchRow.ofSpec spec).dispatch ≠ _ from hclass),
          router_dispatch d (by simp [hfind, hclass])]
        exact ⟨rfl, fun _ _ => rfl⟩

end Daemon

end CecControl
