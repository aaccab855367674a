/-
# Suspending the host when the TV goes to standby

The policy is a flag that the configuration sets and `CMD_AUTO_STANDBY` changes, and a
gate: until `arm` has run, observations are absorbed. `start` posts `arm` to the main
thread's work queue as its last action, and libcec's threads post their observations to
the same queue, from the moment the adapter is open. `Startup` runs the two against each
other, with the queue as `MainThreadWork` has it.

The gate lets through what is behind `arm` in the queue. Whether that is what is posted
after the first drain has begun depends on nothing having been posted in between; the
results below say so exactly.
-/

import CecControl.Cec.Observations
import CecControl.Common.MainThreadWork
import CecControl.Daemon.System

namespace CecControl

open Lib

/-- The suspend callback is installed when the policy is built and is never empty. -/
structure StandbyPolicy where
  enabled : Bool
  armed : Bool := false
  deriving DecidableEq, Repr

namespace StandbyPolicy

def apply (policy : StandbyPolicy) (command : Message) : StandbyPolicy × Message :=
  match command.data with
  | [] => (policy, Daemon.respError)
  | value :: _ => ({ policy with enabled := value.toNat > 0 }, Daemon.respSuccess)

/-- How often the observation makes the policy call the suspend callback. -/
def observe (policy : StandbyPolicy) (obs : Observation) : ℕ :=
  if obs.kind ≠ .tvStandby then 0
  else if !policy.armed then 0
  else if !policy.enabled then 0
  else 1

def arm (policy : StandbyPolicy) : StandbyPolicy :=
  if policy.armed then policy else { policy with armed := true }

/-- What `CommandDispatcher::dispatch` makes of `CMD_AUTO_STANDBY`: the command is turned down
once the dispatcher is shut down and while the adapter is suspended. -/
def dispatch (policy : StandbyPolicy) (shutdownComplete suspended : Bool) (command : Message) :
    StandbyPolicy × Message :=
  if shutdownComplete || suspended then (policy, Daemon.respError) else policy.apply command

@[simp]
theorem arm_armed (policy : StandbyPolicy) : policy.arm.armed = true := by
  unfold arm
  split_ifs with h
  · exact h
  · rfl

@[simp]
theorem arm_enabled (policy : StandbyPolicy) : policy.arm.enabled = policy.enabled := by
  unfold arm
  split_ifs <;> rfl

theorem dispatch_armed (policy : StandbyPolicy) (shutdownComplete suspended : Bool)
    (command : Message) :
    (policy.dispatch shutdownComplete suspended command).1.armed = policy.armed := by
  unfold dispatch apply
  split_ifs
  · rfl
  · split <;> rfl

end StandbyPolicy

namespace Daemon

/-- The policy as the daemon's state has it. -/
def standbyPolicy (d : Daemon) (armed : Bool) : StandbyPolicy := ⟨d.standbyEnabled, armed⟩

/-- A `CMD_AUTO_STANDBY` that reaches the daemon is the policy's to answer. -/
theorem handleCommand_autoStandby (d : Daemon) (armed : Bool) {command : Command}
    (htype : command.message.type = .cmdAutoStandby) :
    d.handleCommand command =
      let answered := (d.standbyPolicy armed).dispatch d.dispatcherShutdown d.suspended
        command.message
      ({ d with standbyEnabled := answered.1.enabled }, some answered.2) := by
  have hspec : findDispatchByType .cmdAutoStandby =
      some ⟨.cmdAutoStandby, .stateOnly, false, false, none⟩ := by decide
  rw [handleCommand, htype, hspec]
  simp only [reduceCtorEq, if_false, dispatch, htype, hspec]
  unfold StandbyPolicy.dispatch StandbyPolicy.apply
  cases hshutdown : d.dispatcherShutdown with
  | true => cases d; simp_all [standbyPolicy]
  | false =>
      cases hsuspended : d.suspended with
      | true => cases d; simp_all [standbyPolicy, handleSuspendedInline]
      | false =>
          cases hdata : command.message.data with
          | nil => cases d; simp_all [applyStandby, standbyPolicy]
          | cons value rest => cases d; simp_all [applyStandby, standbyPolicy]

end Daemon

/-! ## Starting up -/

namespace Startup

/-- What is posted to the main thread. -/
inductive Work
  /-- `onAdapterObservation`'s closure, and whether it was posted before the first drain. -/
  | observation (obs : Observation) (early : Bool)
  /-- The last post of `start`. -/
  | arm
  /-- Anything else; none of it touches the policy. -/
  | other
  deriving DecidableEq, Repr

/-- An observation handled by the policy: what had been set when it was, and how often it
called the suspend callback. -/
structure Processed where
  obs : Observation
  early : Bool
  setting : Bool
  calls : ℕ
  deriving DecidableEq, Repr

/-- The closure that was run for it. -/
def Processed.work (entry : Processed) : Work := .observation entry.obs entry.early

def Work.isObservation : Work → Bool
  | .observation _ _ => true
  | _ => false

end Startup

/-- The daemon from the moment its adapter is open: the work queue, the policy, and how far
`start` and the loop have come. -/
structure Startup (τ : Type) where
  work : MainThreadWork τ Startup.Work := {}
  policy : StandbyPolicy
  /-- `start` has pushed `arm`. -/
  armPosted : Bool := false
  /-- The first drain has begun. -/
  drained : Bool := false
  /-- What the configuration or the last accepted `CMD_AUTO_STANDBY` has set. -/
  setting : Bool
  processed : List Startup.Processed := []

namespace Startup

variable {τ : Type}

/-- The policy is built from the configuration, with nothing posted yet that it will see. -/
def start (enabled : Bool) : Startup τ := { policy := { enabled }, setting := enabled }

inductive Label (τ : Type)
  /-- A libcec thread pushes an observation. -/
  | observation (thread : τ) (obs : Observation)
  /-- `start` pushes `arm`. -/
  | arm
  /-- Anything else is pushed, by a thread or (`none`) on the main thread. -/
  | post (thread : Option τ)
  | write (thread : Option τ)
  | drain
  | read
  | swap
  | run
  | finish (threw : Bool)
  | leave
  /-- A client's `CMD_AUTO_STANDBY` is handled by the loop. -/
  | command (shutdownComplete suspended : Bool) (message : Message)
  deriving Repr

/-- The closure the drain enters. -/
def invoke (s : Startup τ) : DrainPhase Work → Startup τ
  | .inside (.observation obs early) =>
      { s with
        processed := s.processed ++ [⟨obs, early, s.setting, s.policy.observe obs⟩] }
  | .inside .arm => { s with policy := s.policy.arm }
  | _ => s

/-- An accepted command sets what it says; one that is turned down sets nothing. -/
def receive (s : Startup τ) (shutdownComplete suspended : Bool) (message : Message) : Startup τ :=
  let answered := s.policy.dispatch shutdownComplete suspended message
  { s with
    policy := answered.1
    setting :=
      if answered.2 = Daemon.respSuccess then decide (message.data.headD 0 ≠ 0) else s.setting }

variable [DecidableEq τ]

def step (s : Startup τ) : Label τ → Option (Startup τ)
  | .observation thread obs =>
      (MainThreadWork.machine.step s.work
        (.push (some thread) (.observation obs !s.drained))).map fun work => { s with work }
  | .arm =>
      if s.armPosted then none
      else (MainThreadWork.machine.step s.work (.push none .arm)).map fun work =>
        { s with work, armPosted := true }
  | .post thread =>
      (MainThreadWork.machine.step s.work (.push thread .other)).map fun work => { s with work }
  | .write thread =>
      (MainThreadWork.machine.step s.work (.write thread)).map fun work => { s with work }
  | .drain =>
      -- The loop runs once `start` has returned.
      if s.armPosted then
        (MainThreadWork.machine.step s.work .drain).map fun work => { s with work, drained := true }
      else none
  | .read => (MainThreadWork.machine.step s.work .read).map fun work => { s with work }
  | .swap => (MainThreadWork.machine.step s.work .swap).map fun work => { s with work }
  | .run =>
      (MainThreadWork.machine.step s.work .run).map fun work => invoke { s with work } work.phase
  | .finish threw =>
      (MainThreadWork.machine.step s.work (.finish threw)).map fun work => { s with work }
  | .leave => (MainThreadWork.machine.step s.work .leave).map fun work => { s with work }
  | .command shutdownComplete suspended message =>
      -- Clients are served between drains, and not by code that is in the middle of a post.
      if s.work.posting.contains none then none
      else if s.armPosted ∧ s.work.phase = .outside then
        some (s.receive shutdownComplete suspended message)
      else none

def machine : Machine (Startup τ) (Label τ) where
  step := step

/-! ## The gate -/

/-- A closure stands where it should: what was posted before `arm` was posted before the first
drain and, where `ok` holds, no standby of the TV behind `arm` was. -/
def Work.Fits (ok armed : Prop) : Work → Prop
  | .observation obs early =>
      (¬ armed → early = true) ∧ (ok → armed → obs.kind = .tvStandby → early = false)
  | _ => True

/-- An observation had the effect it should have. -/
def Processed.Proper (ok : Prop) (entry : Processed) : Prop :=
  entry.obs.kind = .tvStandby →
    (entry.early = false → entry.calls = if entry.setting then 1 else 0) ∧
      (ok → entry.early = true → entry.calls = 0)

/-- What holds along a run; `ok` says that the run is one in which no standby of the TV is
posted behind `arm` and before the first drain. -/
structure Gated (ok : Prop) (s : Startup τ) : Prop where
  kept : s.work.Kept
  enabled : s.policy.enabled = s.setting
  armed : s.policy.armed = true ↔ .arm ∈ s.work.begun
  posted : s.armPosted = true ↔ .arm ∈ s.work.pushed
  waiting : s.armPosted = false → s.drained = false
  fits : ∀ front work back, s.work.pushed = front ++ work :: back → work.Fits ok (.arm ∈ front)
  processed : s.processed.map Processed.work = s.work.begun.filter Work.isObservation
  proper : ∀ entry ∈ s.processed, entry.Proper ok

variable {ok : Prop} {s : Startup τ}

omit [DecidableEq τ] in
/-- Splitting a list that has grown at its end. -/
private theorem eq_or_exists_of_append_singleton {α : Type} {xs front back : List α} {x y : α}
    (h : xs ++ [x] = front ++ y :: back) :
    (x = y ∧ xs = front) ∨ ∃ rest, xs = front ++ y :: rest := by
  rcases List.eq_nil_or_concat back with rfl | ⟨rest, last, rfl⟩
  · have heq := List.append_inj' h rfl
    exact Or.inl ⟨by simpa using heq.2, heq.1⟩
  · have heq : xs ++ [x] = (front ++ y :: rest) ++ [last] := by simpa using h
    exact Or.inr ⟨rest, (List.append_inj' heq rfl).1⟩

/-- A push puts the closure behind everything pushed so far. -/
theorem Gated.push (h : Gated ok s) {thread : Option τ} {pushed : Work}
    {work : MainThreadWork τ Work}
    (hstep : MainThreadWork.machine.step s.work (.push thread pushed) = some work)
    (hfits : pushed.Fits ok (.arm ∈ s.work.pushed)) {posted : Bool}
    (hposted : posted = true ↔ s.armPosted = true ∨ pushed = .arm) :
    Gated ok { s with work, armPosted := posted } := by
  have hpushed : work.pushed = s.work.pushed ++ [pushed] := by
    rcases MainThreadWork.pushed_step hstep with ⟨_, _, heq, hpushed⟩ | ⟨hne, _⟩
    · cases heq
      exact hpushed
    · exact absurd rfl (hne thread pushed)
  have hbegun : work.begun = s.work.begun := by
    rcases MainThreadWork.begun_step hstep with ⟨_, hrun, _⟩ | ⟨_, hbegun⟩
    · cases hrun
    · exact hbegun
  constructor
  · exact h.kept.push hstep
  · exact h.enabled
  · simpa [hbegun] using h.armed
  · simp only [hpushed, List.mem_append, List.mem_singleton, hposted, h.posted, eq_comm]
  · intro hnot
    apply h.waiting
    cases hbefore : s.armPosted with
    | false => rfl
    | true => simp [hposted.mpr (Or.inl hbefore)] at hnot
  · intro front closure back hsplit
    rcases eq_or_exists_of_append_singleton (hpushed ▸ hsplit) with ⟨rfl, hfront⟩ | ⟨rest, hrest⟩
    · exact hfront ▸ hfits
    · exact h.fits front closure rest hrest
  · simpa [hbegun] using h.processed
  · exact h.proper

/-- Nothing is pushed and nothing is begun. -/
theorem Gated.move (h : Gated ok s) {label : MainThreadWork.Label τ Work}
    {work : MainThreadWork τ Work} (hstep : MainThreadWork.machine.step s.work label = some work)
    (hpush : ∀ thread pushed, label ≠ .push thread pushed) (hrun : label ≠ .run) {drained : Bool}
    (hdrained : s.armPosted = false → drained = false) :
    Gated ok { s with work, drained } := by
  have hpushed : work.pushed = s.work.pushed := by
    rcases MainThreadWork.pushed_step hstep with ⟨_, _, heq, _⟩ | ⟨_, hpushed⟩
    · exact absurd heq (hpush _ _)
    · exact hpushed
  have hbegun : work.begun = s.work.begun := by
    rcases MainThreadWork.begun_step hstep with ⟨_, heq, _⟩ | ⟨_, hbegun⟩
    · exact absurd heq hrun
    · exact hbegun
  constructor
  · exact h.kept.step hstep
  · exact h.enabled
  · simpa [hbegun] using h.armed
  · simpa [hpushed] using h.posted
  · exact hdrained
  · simpa [hpushed] using h.fits
  · simpa [hbegun] using h.processed
  · exact h.proper

omit [DecidableEq τ] in
/-- An observation that stands where it should has the effect it should have. -/
theorem Gated.proper_of_fits (h : Gated ok s) {obs : Observation} {early : Bool}
    (hfits : (Work.observation obs early).Fits ok (.arm ∈ s.work.begun)) :
    Processed.Proper ok ⟨obs, early, s.setting, s.policy.observe obs⟩ := by
  intro hkind
  obtain ⟨hbefore, hbehind⟩ := hfits
  rw [← h.armed] at hbefore hbehind
  constructor
  · intro hlate
    have harmed : s.policy.armed = true := by
      by_contra hnot
      exact Bool.false_ne_true (hlate.symm.trans (hbefore hnot))
    cases hset : s.setting <;> simp_all [StandbyPolicy.observe, h.enabled]
  · intro hok hearly
    have harmed : s.policy.armed = false := by
      by_contra hnot
      have hlate := hbehind hok (by simpa using hnot) hkind
      exact Bool.false_ne_true (hlate.symm.trans hearly)
    simp [StandbyPolicy.observe, harmed]

/-- The drain enters the closure at the front of the queue. -/
theorem Gated.run (h : Gated ok s) {work : MainThreadWork τ Work}
    (hstep : MainThreadWork.machine.step s.work .run = some work) :
    Gated ok (invoke { s with work } work.phase) := by
  have hpushed : work.pushed = s.work.pushed := by
    rcases MainThreadWork.pushed_step hstep with ⟨_, _, heq, _⟩ | ⟨_, hpushed⟩
    · cases heq
    · exact hpushed
  rcases MainThreadWork.begun_step hstep with ⟨closure, _, hphase, hqueued, hbegun⟩ | ⟨hne, _⟩
  · -- Everything the closure has to stand behind has begun before it.
    have hfits : closure.Fits ok (.arm ∈ s.work.begun) := by
      apply h.fits s.work.begun closure work.queued
      rw [← h.kept.begun_append_queued, hqueued]
    have hkept := h.kept.step hstep
    have hposted := h.posted
    have hplaces := h.fits
    rw [← hpushed] at hposted hplaces
    rw [hphase]
    cases closure with
    | observation obs early =>
        refine ⟨hkept, h.enabled, ?_, hposted, h.waiting, hplaces, ?_, ?_⟩
        · simpa [invoke, hbegun] using h.armed
        · simp [invoke, hbegun, h.processed, Processed.work, List.filter_cons, Work.isObservation]
        · intro entry hentry
          rcases List.mem_append.mp hentry with hold | hnew
          · exact h.proper entry hold
          · obtain rfl := List.mem_singleton.mp hnew
            exact h.proper_of_fits hfits
    | arm =>
        refine ⟨hkept, ?_, ?_, hposted, h.waiting, hplaces, ?_, h.proper⟩
        · simpa [invoke] using h.enabled
        · simp [invoke, hbegun]
        · simp [invoke, hbegun, h.processed, Work.isObservation]
    | other =>
        refine ⟨hkept, h.enabled, ?_, hposted, h.waiting, hplaces, ?_, h.proper⟩
        · simpa [invoke, hbegun] using h.armed
        · simp [invoke, hbegun, h.processed, Work.isObservation]
  · exact absurd rfl hne

omit [DecidableEq τ] in
/-- The policy's flag is what has been set last. -/
theorem Gated.receive (h : Gated ok s) (shutdownComplete suspended : Bool) (message : Message) :
    Gated ok (s.receive shutdownComplete suspended message) := by
  refine ⟨h.kept, ?_, ?_, h.posted, h.waiting, h.fits, h.processed, h.proper⟩
  · simp only [Startup.receive, StandbyPolicy.dispatch, StandbyPolicy.apply]
    split_ifs with hdown hreply hreply
    · cases hreply
    · exact h.enabled
    · cases hdata : message.data with
      | nil => simp [hdata, Daemon.respError, Daemon.respSuccess] at hreply
      | cons value rest =>
          have hvalue : value ≠ 0 ↔ 0 < value.toNat := by
            rw [Nat.pos_iff_ne_zero, ne_eq, ← UInt8.toNat_inj]
            rfl
          simp [hvalue]
    · cases hdata : message.data with
      | nil => exact h.enabled
      | cons value rest => simp [hdata] at hreply
  · simpa [Startup.receive, StandbyPolicy.dispatch_armed] using h.armed

/-- No standby of the TV is posted between the post of `arm` and the first drain. -/
def Orderly (s : Startup τ) : Label τ → Prop
  | .observation _ obs => obs.kind = .tvStandby → s.armPosted = true → s.drained = true
  | _ => True

instance (s : Startup τ) : ∀ label, Decidable (Orderly s label)
  | .observation _ obs =>
      inferInstanceAs (Decidable (obs.kind = .tvStandby → s.armPosted = true → s.drained = true))
  | .arm | .post _ | .write _ | .drain | .read | .swap | .run | .finish _ | .leave
  | .command _ _ _ => .isTrue trivial

theorem Gated.step (h : Gated ok s) {label : Label τ} {s' : Startup τ}
    (horderly : ok → Orderly s label) (hstep : machine.step s label = some s') :
    Gated ok s' := by
  change Startup.step s label = some s' at hstep
  cases label with
  | observation thread obs =>
      obtain ⟨work, hwork, rfl⟩ := Option.map_eq_some_iff.mp hstep
      apply h.push hwork
      · constructor
        · intro hunarmed
          have hposted : s.armPosted = false := by
            cases hposted : s.armPosted with
            | false => rfl
            | true => exact absurd (h.posted.mp hposted) hunarmed
          simp [h.waiting hposted]
        · intro hok harmed hkind
          simp [horderly hok hkind (h.posted.mpr harmed)]
      · simp
  | arm =>
      simp only [Startup.step] at hstep
      split_ifs at hstep
      obtain ⟨work, hwork, rfl⟩ := Option.map_eq_some_iff.mp hstep
      exact h.push hwork trivial (by simp)
  | post thread =>
      obtain ⟨work, hwork, rfl⟩ := Option.map_eq_some_iff.mp hstep
      exact h.push hwork trivial (by simp)
  | drain =>
      simp only [Startup.step] at hstep
      split_ifs at hstep with hposted
      obtain ⟨work, hwork, rfl⟩ := Option.map_eq_some_iff.mp hstep
      exact h.move hwork (by simp) (by simp) (by simp [hposted])
  | run =>
      obtain ⟨work, hwork, rfl⟩ := Option.map_eq_some_iff.mp hstep
      exact h.run hwork
  | command shutdownComplete suspended message =>
      simp only [Startup.step] at hstep
      split_ifs at hstep
      obtain rfl := Option.some.inj hstep
      exact h.receive shutdownComplete suspended message
  | write _ | read | swap | finish _ | leave =>
      obtain ⟨work, hwork, rfl⟩ := Option.map_eq_some_iff.mp hstep
      exact h.move hwork (by simp) (by simp) h.waiting

omit [DecidableEq τ] in
theorem gated_start (enabled : Bool) : Gated ok (start enabled : Startup τ) := by
  refine ⟨MainThreadWork.kept_empty, rfl, ?_, ?_, fun _ => rfl, ?_, rfl, ?_⟩ <;>
    simp [start, MainThreadWork.begun, DrainPhase.current]

/-- **Which standbys of the TV suspend the host.** The observations the policy has seen are those
whose closures have begun, each once and in the order of their posts. One posted after the first
drain has begun calls the suspend callback once if auto-standby was set when it was seen, and
not otherwise; and if no standby of the TV was posted between the post of `arm` and the first
drain, then none posted before that drain has called it. -/
theorem standby_gated_of_orderly {enabled : Bool} {labels : List (Label τ)}
    (hrun : machine.run (start enabled) labels = some s) :
    s.processed.map Processed.work = s.work.begun.filter Work.isObservation ∧
      (∀ entry ∈ s.processed, entry.obs.kind = .tvStandby → entry.early = false →
        entry.calls = if entry.setting then 1 else 0) ∧
      (machine.Meets Orderly (start enabled) labels →
        ∀ entry ∈ s.processed, entry.obs.kind = .tvStandby → entry.early = true →
          entry.calls = 0) := by
  have hgated : Gated False s :=
    machine.invariant_of_step (fun h hstep => h.step False.elim hstep) (gated_start enabled) hrun
  refine ⟨hgated.processed, fun entry hentry hkind => (hgated.proper entry hentry hkind).1, ?_⟩
  intro horderly entry hentry hkind
  have hgated : Gated True s :=
    machine.invariant_of_meets (fun h hC hstep => h.step (fun _ => hC) hstep)
      (gated_start enabled) horderly hrun
  exact (hgated.proper entry hentry hkind).2 trivial

/-- A standby is posted while the daemon starts and absorbed; one posted after the first drain
has begun suspends the host; and one more is ignored, since a client has turned auto-standby
off. -/
def orderlyStart : List (Label ℕ) :=
  [.observation 1 { kind := .tvStandby }, .write (some 1), .arm, .write none, .drain,
    .observation 1 { kind := .tvStandby }, .write (some 1), .read, .read, .swap,
    .run, .finish false, .run, .finish false, .run, .post none, .write none, .finish false, .leave,
    .command false false ⟨.cmdAutoStandby, 0, [0]⟩,
    .observation 2 { kind := .tvStandby }, .write (some 2), .drain, .read, .read, .swap,
    .run, .finish false, .run]

theorem standby_gated_of_orderly_orderlyStart :
    ∃ s : Startup ℕ, machine.run (start true) orderlyStart = some s ∧
      s.processed = [⟨{ kind := .tvStandby }, true, true, 0⟩, ⟨{ kind := .tvStandby }, false, true, 1⟩,
        ⟨{ kind := .tvStandby }, false, false, 0⟩] ∧
      s.processed.map Processed.work = s.work.begun.filter Work.isObservation ∧
      (∀ entry ∈ s.processed, entry.obs.kind = .tvStandby → entry.early = false →
        entry.calls = if entry.setting then 1 else 0) ∧
      ∀ entry ∈ s.processed, entry.obs.kind = .tvStandby → entry.early = true →
        entry.calls = 0 := by
  have hreached : (machine.run (start true : Startup ℕ) orderlyStart).map Startup.processed =
      some [⟨{ kind := .tvStandby }, true, true, 0⟩, ⟨{ kind := .tvStandby }, false, true, 1⟩,
        ⟨{ kind := .tvStandby }, false, false, 0⟩] := by decide
  obtain ⟨s, hrun, hprocessed⟩ := Option.map_eq_some_iff.mp hreached
  obtain ⟨hseen, hlater, hearly⟩ := standby_gated_of_orderly hrun
  exact ⟨s, hrun, hprocessed, hseen, hlater, hearly (by decide)⟩

/-- A standby is posted when `start` has posted `arm` and the loop has yet to drain. -/
def standbyBehindArm : List (Label ℕ) :=
  [.arm, .write none, .observation 1 { kind := .tvStandby }, .write (some 1),
    .drain, .read, .read, .swap, .run, .finish false, .run]

/-- It suspends the host: nothing keeps it from being posted behind `arm`. -/
theorem not_standby_gated :
    ¬ ∀ (enabled : Bool) (labels : List (Label ℕ)) (s : Startup ℕ),
      machine.run (start enabled) labels = some s →
        ∀ entry ∈ s.processed, entry.obs.kind = .tvStandby →
          entry.calls = if entry.early then 0 else if entry.setting then 1 else 0 := by
  intro h
  have hreached : (machine.run (start true : Startup ℕ) standbyBehindArm).map Startup.processed =
      some [⟨{ kind := .tvStandby }, true, true, 1⟩] := by decide
  obtain ⟨s, hrun, hprocessed⟩ := Option.map_eq_some_iff.mp hreached
  have hcalls := h true standbyBehindArm s hrun ⟨{ kind := .tvStandby }, true, true, 1⟩
    (by simp [hprocessed]) rfl
  exact absurd hcalls (by decide)

end Startup

end CecControl
