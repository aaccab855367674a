/-
# Accounting for a reconnect cycle

The reconnect machine keeps the number of an attempt in two places: the position in the
schedule, which moves when an attempt has failed, and the number captured when the retry
timer is armed. This module follows a machine through an arbitrary sequence of events,
including events that are stale or out of place, and shows that the two agree.

A transcript records each event with the state before and after it and the output.
`currentCycle` is the part of a transcript since a cycle was last begun: by leaving idle, or
by a lost connection that supersedes a pending retry. Statements about every cycle of a run
are made about the current cycle of every run.
-/

import CecControl.Power.AdapterReconnect
import Mathlib.Data.List.Induction

namespace CecControl

namespace AdapterReconnect

/-! ## Transcripts -/

/-- What the owner of the machine can do to it. -/
inductive Input
  | event (event : Event)
  | seed (initialDelay : ℕ)
  deriving DecidableEq, Repr

/-- The transition an input makes. -/
def handle (r : AdapterReconnect) : Input → AdapterReconnect × Output
  | .event event => r.onEvent event
  | .seed initialDelay => r.seedCycle initialDelay

/-- One input with its outcome. -/
structure Entry where
  before : State
  input : Input
  output : Output
  after : State
  deriving DecidableEq, Repr

/-- The entry an input makes in the transcript. -/
def entry (r : AdapterReconnect) (input : Input) : Entry :=
  ⟨r.state, input, (r.handle input).2, (r.handle input).1.state⟩

/-- Hand one more input to the machine and write it down. -/
def record (past : AdapterReconnect × List Entry) (input : Input) :
    AdapterReconnect × List Entry :=
  ((past.1.handle input).1, past.2 ++ [past.1.entry input])

/-- The machine after the inputs, and the transcript of them. -/
def transcript (r : AdapterReconnect) (inputs : List Input) : AdapterReconnect × List Entry :=
  inputs.foldl record (r, [])

/-- An entry begins a cycle when it leaves idle, and when a lost connection takes the place of
a pending retry. -/
def Entry.Begins (e : Entry) : Prop :=
  (e.before = .idle ∧ e.after ≠ .idle) ∨
    (e.before = .waitingForRetry ∧ e.input = .event .connectionLost)

instance (e : Entry) : Decidable e.Begins :=
  inferInstanceAs (Decidable (_ ∨ _))

/-- A cycle continued by one entry, or begun by it. -/
def extend (cycle : List Entry) (e : Entry) : List Entry :=
  if e.Begins then [e] else cycle ++ [e]

/-- The entries since a cycle was last begun. -/
def currentCycle (log : List Entry) : List Entry := log.foldl extend []

/-- The outputs with the given effect, in order. -/
def outputs (effect : Effect) (log : List Entry) : List Output :=
  (log.map Entry.output).filter (·.effect = effect)

/-- The numbers of the attempts started, in order. -/
def attemptNumbers (log : List Entry) : List ℕ :=
  (outputs .startAttempt log).map Output.attemptNumber

/-- With one retry: both attempts of the cycle are made, and the cycle is abandoned. -/
example :
    (transcript { schedule := { delays := [7] }, connectionLostDelay := 3 }
      [.event .connectionLost, .event .retryTimerFired, .event .attemptFailed,
        .event .retryTimerFired, .event .attemptFailed]).2.map Entry.output =
      [⟨.scheduleRetry, 3, 1, 2⟩, ⟨.startAttempt, 0, 1, 2⟩, ⟨.scheduleRetry, 7, 2, 2⟩,
        ⟨.startAttempt, 0, 2, 2⟩, ⟨.abandonCycle, 0, 0, 2⟩] := by decide

theorem transcript_concat (r : AdapterReconnect) (inputs : List Input) (input : Input) :
    r.transcript (inputs ++ [input]) = record (r.transcript inputs) input := by
  simp [transcript]

theorem currentCycle_concat (log : List Entry) (e : Entry) :
    currentCycle (log ++ [e]) = extend (currentCycle log) e := by
  simp [currentCycle]

/-! ## What an input can do -/

/-- Every transition the machine can make, with its guard. -/
inductive Transition (r : AdapterReconnect) : Input → AdapterReconnect → Output → Prop
  | absorb {input : Input}
      (hlost : ¬ (r.state = .waitingForRetry ∧ input = .event .connectionLost))
      (hfailed : ¬ (r.state = .attempting ∧ input = .event .attemptFailed))
      (harm : ¬ (r.state = .waitingForRetry ∧ input = .event .timerArmFailed)) :
      Transition r input r {}
  | beginDelayed {input : Input} {delay : ℕ} (hidle : r.state = .idle) :
      Transition r input
        { r with schedule := r.schedule.reset, nextAttemptNumber := 1, state := .waitingForRetry }
        ⟨.scheduleRetry, delay, 1, r.totalAttempts⟩
  | beginNow
      (hstate : r.state = .idle ∨ r.state = .waitingForRetry) :
      Transition r (.event .connectionLost)
        { r with schedule := r.schedule.reset, nextAttemptNumber := 1, state := .attempting }
        ⟨.startAttempt, 0, 1, r.totalAttempts⟩
  | fire (hwaiting : r.state = .waitingForRetry) :
      Transition r (.event .retryTimerFired) { r with state := .attempting }
        ⟨.startAttempt, 0, r.nextAttemptNumber, r.totalAttempts⟩
  | retry {delay : ℕ} (hattempting : r.state = .attempting)
      (hdelay : r.schedule.delays[r.schedule.attempt]? = some delay) :
      Transition r (.event .attemptFailed)
        { r with
          schedule := { r.schedule with attempt := r.schedule.attempt + 1 }
          state := .waitingForRetry
          nextAttemptNumber := r.schedule.attempt + 2 }
        ⟨.scheduleRetry, delay, r.schedule.attempt + 2, r.totalAttempts⟩
  | exhaust (hattempting : r.state = .attempting)
      (hdelay : r.schedule.delays[r.schedule.attempt]? = none) :
      Transition r (.event .attemptFailed) r.resetCycle ⟨.abandonCycle, 0, 0, r.totalAttempts⟩
  | finish {input : Input} (hattempting : r.state = .attempting)
      (hfailed : input ≠ .event .attemptFailed) :
      Transition r input r.resetCycle {}
  | cancel {input : Input} (hwaiting : r.state = .waitingForRetry)
      (harm : input ≠ .event .timerArmFailed) (hlost : input ≠ .event .connectionLost) :
      Transition r input r.resetCycle ⟨.cancelRetry, 0, 0, 0⟩
  | giveUp (hwaiting : r.state = .waitingForRetry) :
      Transition r (.event .timerArmFailed) r.resetCycle ⟨.abandonCycle, 0, 0, r.totalAttempts⟩

/-- An event makes one of the transitions. -/
theorem transition_onEvent (r : AdapterReconnect) (event : Event) :
    Transition r (.event event) (r.onEvent event).1 (r.onEvent event).2 := by
  cases hstate : r.state with
  | idle =>
      by_cases hlost : event = .connectionLost
      · subst hlost
        by_cases hdelay : r.connectionLostDelay > 0
        · simpa [onEvent, hstate, hdelay] using
            @Transition.beginDelayed r (.event .connectionLost) r.connectionLostDelay hstate
        · simpa [onEvent, hstate, hdelay] using Transition.beginNow (Or.inl hstate)
      · simpa [onEvent, hstate, hlost] using
          @Transition.absorb r (.event event) (by simp [hstate]) (by simp [hstate])
            (by simp [hstate])
  | attempting =>
      cases event with
      | attemptFailed =>
          cases hdelay : r.schedule.delays[r.schedule.attempt]? with
          | none =>
              simpa [onEvent, hstate, BackoffSchedule.nextDelay, hdelay, resetCycle] using
                Transition.exhaust hstate hdelay
          | some delay =>
              simpa [onEvent, hstate, BackoffSchedule.nextDelay, hdelay] using
                Transition.retry hstate hdelay
      | attemptSucceeded | systemSuspend | systemResume =>
          simpa [onEvent, hstate] using Transition.finish hstate (by simp)
      | connectionLost | retryTimerFired | timerArmFailed =>
          simpa [onEvent, hstate] using
            Transition.absorb (r := r) (by simp [hstate]) (by simp) (by simp [hstate])
  | waitingForRetry =>
      cases event with
      | connectionLost => simpa [onEvent, hstate] using Transition.beginNow (Or.inr hstate)
      | retryTimerFired => simpa [onEvent, hstate] using Transition.fire hstate
      | systemSuspend | systemResume =>
          simpa [onEvent, hstate] using Transition.cancel hstate (by simp) (by simp)
      | timerArmFailed => simpa [onEvent, hstate] using Transition.giveUp hstate
      | attemptSucceeded | attemptFailed =>
          simpa [onEvent, hstate] using
            Transition.absorb (r := r) (by simp) (by simp [hstate]) (by simp)

/-- So does seeding. -/
theorem transition_handle (r : AdapterReconnect) (input : Input) :
    Transition r input (r.handle input).1 (r.handle input).2 := by
  cases input with
  | event event => exact transition_onEvent r event
  | seed initialDelay =>
      by_cases hidle : r.state = .idle
      · simpa [handle, seedCycle, hidle] using
          @Transition.beginDelayed r (.seed initialDelay) initialDelay hidle
      · simpa [handle, seedCycle, hidle] using
          @Transition.absorb r (.seed initialDelay) (by simp) (by simp) (by simp)

/-! ## The books of a run -/

/-- The machine as it is constructed. -/
def constructed (delays : List ℕ) (connectionLostDelay : ℕ) : AdapterReconnect :=
  { schedule := { delays }, connectionLostDelay }

/-- How a machine with the given parameters stands to the cycle it is in: the position in the
schedule is the number of attempts that have failed, and the captured number is one more. -/
structure Books (delays : List ℕ) (connectionLostDelay : ℕ) (r : AdapterReconnect)
    (cycle : List Entry) : Prop where
  built : r.schedule.delays = delays
  settling : r.connectionLostDelay = connectionLostDelay
  idle : r.state = .idle → r = constructed delays connectionLostDelay
  position : r.schedule.attempt ≤ delays.length
  number : r.state ≠ .idle → r.nextAttemptNumber = r.schedule.attempt + 1
  consecutive : attemptNumbers cycle = List.range' 1 (attemptNumbers cycle).length
  bounded : (attemptNumbers cycle).length ≤ delays.length + 1
  attempting : r.state = .attempting → (attemptNumbers cycle).length = r.schedule.attempt + 1
  waiting : r.state = .waitingForRetry → (attemptNumbers cycle).length = r.schedule.attempt
  scheduled : r.state = .waitingForRetry → 1 ≤ r.schedule.attempt →
    ∃ delay, delays[r.schedule.attempt - 1]? = some delay ∧
      (outputs .scheduleRetry cycle).getLast? =
        some ⟨.scheduleRetry, delay, r.schedule.attempt + 1, delays.length + 1⟩

variable {delays : List ℕ} {connectionLostDelay : ℕ} {r : AdapterReconnect} {cycle : List Entry}

/-- At rest and before any input, the books are in order. -/
theorem books_constructed : Books delays connectionLostDelay
    (constructed delays connectionLostDelay) [] where
  built := rfl
  settling := rfl
  idle := fun _ => rfl
  position := Nat.zero_le _
  number := fun hidle => absurd rfl hidle
  consecutive := rfl
  bounded := Nat.zero_le _
  attempting := fun hstate => State.noConfusion hstate
  waiting := fun hstate => State.noConfusion hstate
  scheduled := fun hstate => State.noConfusion hstate

theorem Books.totalAttempts (h : Books delays connectionLostDelay r cycle) :
    r.totalAttempts = delays.length + 1 := by
  simp [AdapterReconnect.totalAttempts, BackoffSchedule.size, h.built]

theorem Books.resetCycle (h : Books delays connectionLostDelay r cycle) :
    r.resetCycle = constructed delays connectionLostDelay := by
  simp [AdapterReconnect.resetCycle, constructed, BackoffSchedule.reset, h.built, h.settling]

theorem extend_of_not_begins {e : Entry} (h : ¬ e.Begins) : extend cycle e = cycle ++ [e] :=
  if_neg h

theorem extend_of_begins {e : Entry} (h : e.Begins) : extend cycle e = [e] :=
  if_pos h

theorem attemptNumbers_concat_of_ne {e : Entry} (h : e.output.effect ≠ .startAttempt) :
    attemptNumbers (cycle ++ [e]) = attemptNumbers cycle := by
  simp [attemptNumbers, outputs, h]

theorem attemptNumbers_concat {e : Entry} (h : e.output.effect = .startAttempt) :
    attemptNumbers (cycle ++ [e]) = attemptNumbers cycle ++ [e.output.attemptNumber] := by
  simp [attemptNumbers, outputs, h]

theorem outputs_concat_of_ne {effect : Effect} {e : Entry} (h : e.output.effect ≠ effect) :
    outputs effect (cycle ++ [e]) = outputs effect cycle := by
  simp [outputs, h]

theorem outputs_concat {effect : Effect} {e : Entry} (h : e.output.effect = effect) :
    outputs effect (cycle ++ [e]) = outputs effect cycle ++ [e.output] := by
  simp [outputs, h]

/-- Going to rest keeps the attempts of the cycle on the books. -/
theorem Books.rest (h : Books delays connectionLostDelay r cycle) {e : Entry}
    (hbegins : ¬ e.Begins) (hstart : e.output.effect ≠ .startAttempt) :
    Books delays connectionLostDelay (constructed delays connectionLostDelay) (extend cycle e) := by
  have hnumbers : attemptNumbers (extend cycle e) = attemptNumbers cycle := by
    rw [extend_of_not_begins hbegins, attemptNumbers_concat_of_ne hstart]
  exact {
    built := rfl
    settling := rfl
    idle := fun _ => rfl
    position := Nat.zero_le _
    number := fun hidle => absurd rfl hidle
    consecutive := by rw [hnumbers]; exact h.consecutive
    bounded := by rw [hnumbers]; exact h.bounded
    attempting := fun hstate => State.noConfusion hstate
    waiting := fun hstate => State.noConfusion hstate
    scheduled := fun hstate => State.noConfusion hstate }

/-- **Step.** Every transition keeps the books in order. -/
theorem Books.step (h : Books delays connectionLostDelay r cycle) {input : Input}
    {r' : AdapterReconnect} {out : Output} (ht : Transition r input r' out) :
    Books delays connectionLostDelay r' (extend cycle ⟨r.state, input, out, r'.state⟩) := by
  cases ht with
  | absorb hlost hfailed harm =>
      have hbegins : ¬ (⟨r.state, input, {}, r.state⟩ : Entry).Begins := by
        simp only [Entry.Begins]
        tauto
      have hnumbers : attemptNumbers (cycle ++ [⟨r.state, input, {}, r.state⟩]) =
          attemptNumbers cycle := attemptNumbers_concat_of_ne (by simp)
      rw [extend_of_not_begins hbegins]
      exact {
        h with
        consecutive := by rw [hnumbers]; exact h.consecutive
        bounded := by rw [hnumbers]; exact h.bounded
        attempting := by rw [hnumbers]; exact h.attempting
        waiting := by rw [hnumbers]; exact h.waiting
        scheduled := by rw [outputs_concat_of_ne (by simp)]; exact h.scheduled }
  | beginDelayed hidle =>
      rw [extend_of_begins (Or.inl ⟨hidle, by simp⟩)]
      exact {
        built := h.built
        settling := h.settling
        idle := by simp
        position := Nat.zero_le _
        number := fun _ => rfl
        consecutive := rfl
        bounded := Nat.zero_le _
        attempting := by simp
        waiting := fun _ => rfl
        scheduled := by simp [BackoffSchedule.reset] }
  | beginNow hstate =>
      have hbegins : (⟨r.state, .event .connectionLost, ⟨.startAttempt, 0, 1, r.totalAttempts⟩,
          .attempting⟩ : Entry).Begins :=
        hstate.imp (fun hidle => ⟨hidle, by simp⟩) fun hwaiting => ⟨hwaiting, rfl⟩
      rw [extend_of_begins hbegins]
      exact {
        built := h.built
        settling := h.settling
        idle := by simp
        position := Nat.zero_le _
        number := fun _ => rfl
        consecutive := rfl
        bounded := Nat.succ_le_succ (Nat.zero_le _)
        attempting := fun _ => rfl
        waiting := by simp
        scheduled := by simp }
  | fire hwaiting =>
      have hnumber : r.nextAttemptNumber = r.schedule.attempt + 1 := h.number (by simp [hwaiting])
      have hlength := h.waiting hwaiting
      rw [extend_of_not_begins (by simp [Entry.Begins, hwaiting])]
      have hnumbers : attemptNumbers (cycle ++ [⟨r.state, .event .retryTimerFired,
          ⟨.startAttempt, 0, r.nextAttemptNumber, r.totalAttempts⟩, .attempting⟩]) =
          List.range' 1 (r.schedule.attempt + 1) := by
        rw [attemptNumbers_concat rfl, h.consecutive, hlength, hnumber, List.range'_concat,
          Nat.one_mul, Nat.add_comm 1]
      exact {
        built := h.built
        settling := h.settling
        idle := by simp
        position := h.position
        number := fun _ => hnumber
        consecutive := by simp [hnumbers]
        bounded := by simp [hnumbers, h.position]
        attempting := by simp [hnumbers]
        waiting := by simp
        scheduled := by simp }
  | retry hattempting hdelay =>
      rename_i delay
      have hlt : r.schedule.attempt < delays.length := by
        rw [h.built] at hdelay
        exact (List.getElem?_eq_some_iff.mp hdelay).1
      rw [extend_of_not_begins (by simp [Entry.Begins, hattempting])]
      have hnumbers : attemptNumbers (cycle ++ [⟨r.state, .event .attemptFailed,
          ⟨.scheduleRetry, delay, r.schedule.attempt + 2, r.totalAttempts⟩, .waitingForRetry⟩]) =
          attemptNumbers cycle := attemptNumbers_concat_of_ne (by simp)
      exact {
        built := h.built
        settling := h.settling
        idle := by simp
        position := hlt
        number := fun _ => rfl
        consecutive := by rw [hnumbers]; exact h.consecutive
        bounded := by rw [hnumbers]; exact h.bounded
        attempting := by simp
        waiting := by
          rw [hnumbers]
          exact fun _ => h.attempting hattempting
        scheduled := by
          intro _ _
          rw [outputs_concat (by simp), List.getLast?_concat, h.totalAttempts]
          exact ⟨delay, by simpa [h.built] using hdelay, rfl⟩ }
  | exhaust hattempting hdelay =>
      rw [h.resetCycle]
      exact h.rest (by simp [Entry.Begins, hattempting]) (by simp)
  | finish hattempting hfailed =>
      rw [h.resetCycle]
      exact h.rest (by simp [Entry.Begins, hattempting]) (by simp)
  | cancel hwaiting harm hlost =>
      rw [h.resetCycle]
      exact h.rest (by simp [Entry.Begins, hwaiting, hlost]) (by simp)
  | giveUp hwaiting =>
      rw [h.resetCycle]
      exact h.rest (by simp [Entry.Begins, hwaiting]) (by simp)

/-- **Run.** The books are in order after every sequence of inputs. -/
theorem books_transcript (delays : List ℕ) (connectionLostDelay : ℕ) (inputs : List Input) :
    Books delays connectionLostDelay
      ((constructed delays connectionLostDelay).transcript inputs).1
      (currentCycle ((constructed delays connectionLostDelay).transcript inputs).2) := by
  induction inputs using List.reverseRecOn with
  | nil => exact books_constructed
  | append_singleton inputs input ih =>
      rw [transcript_concat]
      simp only [record, currentCycle_concat]
      exact ih.step (transition_handle _ input)

/-! ## What the outputs say -/

/-- Whatever names an attempt or ends a cycle by abandoning it reports the length of a full
cycle. -/
theorem Books.reported (h : Books delays connectionLostDelay r cycle) {input : Input}
    {r' : AdapterReconnect} {out : Output} (ht : Transition r input r' out)
    (hnone : out.effect ≠ .none) (hcancel : out.effect ≠ .cancelRetry) :
    out.totalAttempts = delays.length + 1 := by
  cases ht with
  | absorb | finish => exact absurd rfl hnone
  | cancel => exact absurd rfl hcancel
  | _ => exact h.totalAttempts

/-- The attempt under way is the last one of the cycle exactly when the schedule is used up. -/
theorem Books.last_iff (h : Books delays connectionLostDelay r cycle)
    (hattempting : r.state = .attempting) :
    (attemptNumbers cycle).getLast? = some (delays.length + 1) ↔
      r.schedule.delays[r.schedule.attempt]? = none := by
  have hlength := h.attempting hattempting
  have hposition := h.position
  rw [h.consecutive, hlength, List.range'_concat, List.getLast?_concat, List.getElem?_eq_none_iff,
    h.built, Option.some.injEq]
  omega

/-- A cycle is abandoned when its last attempt fails or its timer cannot be armed, and not
otherwise. -/
theorem Books.abandons_iff (h : Books delays connectionLostDelay r cycle) {input : Input}
    {r' : AdapterReconnect} {out : Output} (ht : Transition r input r' out) :
    out.effect = .abandonCycle ↔
      (r.state = .attempting ∧ input = .event .attemptFailed ∧
          (attemptNumbers cycle).getLast? = some (delays.length + 1)) ∨
        (r.state = .waitingForRetry ∧ input = .event .timerArmFailed) := by
  cases ht with
  | absorb hlost hfailed harm =>
      simp only [reduceCtorEq, false_iff]
      tauto
  | beginDelayed hidle => simp [hidle]
  | beginNow hstate => simp
  | fire hwaiting => simp
  | retry hattempting hdelay => simp [h.last_iff hattempting, hdelay]
  | exhaust hattempting hdelay => simp [h.last_iff hattempting, hdelay, hattempting]
  | finish hattempting hfailed => simp [hattempting, hfailed]
  | cancel hwaiting harm hlost => simp [hwaiting, harm]
  | giveUp hwaiting => simp [hwaiting]

/-- An attempt other than the first follows the retry it was scheduled by. -/
theorem Books.preceded (h : Books delays connectionLostDelay r cycle) {input : Input}
    {r' : AdapterReconnect} {out : Output} (ht : Transition r input r' out) {k : ℕ}
    (hstart : out.effect = .startAttempt) (hnumber : out.attemptNumber = k + 1) (hk : 1 ≤ k) :
    ∃ delay, delays[k - 1]? = some delay ∧
      (outputs .scheduleRetry
          (extend cycle ⟨r.state, input, out, r'.state⟩)).getLast? =
        some ⟨.scheduleRetry, delay, k + 1, delays.length + 1⟩ := by
  cases ht with
  | fire hwaiting =>
      have hattempt : r.schedule.attempt = k := by
        have := h.number (by simp [hwaiting])
        simp only at hnumber
        omega
      rw [extend_of_not_begins (by simp [Entry.Begins, hwaiting]),
        outputs_concat_of_ne (by simp), ← hattempt]
      exact h.scheduled hwaiting (hattempt ▸ hk)
  | beginNow hstate =>
      simp only [Nat.right_eq_add] at hnumber
      omega
  | absorb | beginDelayed | retry | exhaust | finish | cancel | giveUp => simp at hstart

/-- A failure that is not the last one's is followed by the retry the schedule has for it. -/
theorem Books.failed (h : Books delays connectionLostDelay r cycle)
    (hattempting : r.state = .attempting)
    (hmore : (attemptNumbers cycle).length ≤ delays.length) :
    ∃ delay, delays[(attemptNumbers cycle).length - 1]? = some delay ∧
      (r.handle (.event .attemptFailed)).2 =
        ⟨.scheduleRetry, delay, (attemptNumbers cycle).length + 1, delays.length + 1⟩ ∧
      (r.handle (.event .attemptFailed)).1.state = .waitingForRetry := by
  have hcount := h.attempting hattempting
  have hlt : r.schedule.attempt < delays.length := by omega
  refine ⟨delays.get ⟨r.schedule.attempt, hlt⟩, by simp [hcount], ?_⟩
  simp [handle, onEvent, hattempting, BackoffSchedule.nextDelay, h.built, hlt, hcount,
    h.totalAttempts]

/-- When the time of a retry has come, the next attempt is made. -/
theorem Books.fired (h : Books delays connectionLostDelay r cycle)
    (hwaiting : r.state = .waitingForRetry) :
    (r.handle (.event .retryTimerFired)).2 =
        ⟨.startAttempt, 0, (attemptNumbers cycle).length + 1, delays.length + 1⟩ ∧
      (r.handle (.event .retryTimerFired)).1.state = .attempting := by
  have hnumber := h.number (by simp [hwaiting])
  simp [handle, onEvent, hwaiting, hnumber, h.waiting hwaiting, h.totalAttempts]

/-- How a cycle begins: with its first attempt, or with the announcement of it. -/
theorem entry_of_begins (r : AdapterReconnect) (input : Input) :
    (r.entry input).Begins ↔
      (r.state = .idle ∧ (input = .event .connectionLost ∨ ∃ delay, input = .seed delay)) ∨
        (r.state = .waitingForRetry ∧ input = .event .connectionLost) := by
  unfold Entry.Begins entry
  refine or_congr (and_congr_right fun hidle => ?_) Iff.rfl
  change r.state = .idle at hidle
  cases input with
  | event event =>
      simp only [handle, onEvent, hidle]
      split_ifs <;> simp_all
  | seed delay => simp [handle, seedCycle, hidle]

theorem first_of_begins {input : Input} (hbegins : (r.entry input).Begins) :
    (r.handle input).2.attemptNumber = 1 ∧
      ((r.handle input).2.effect = .startAttempt ∧ (r.handle input).1.state = .attempting ∨
        (r.handle input).2.effect = .scheduleRetry ∧
          (r.handle input).1.state = .waitingForRetry) := by
  rcases (entry_of_begins r input).mp hbegins with ⟨hidle, rfl | ⟨delay, rfl⟩⟩ | ⟨hwaiting, rfl⟩
  · simp only [handle, onEvent, hidle, if_true]
    split_ifs <;> simp
  · simp [handle, seedCycle, hidle]
  · simp [handle, onEvent, hwaiting]

/-- How it ends. -/
theorem rests_iff (input : Input) (hactive : r.state ≠ .idle) :
    (r.handle input).1.state = .idle ↔
      input ∈ [.event .systemSuspend, .event .systemResume] ∨
        (r.state = .attempting ∧ input = .event .attemptSucceeded) ∨
        (r.handle input).2.effect = .abandonCycle := by
  cases input with
  | seed delay => simp [handle, seedCycle, hactive]
  | event event =>
      cases hstate : r.state with
      | idle => exact absurd hstate hactive
      | waitingForRetry => cases event <;> simp [handle, onEvent, hstate]
      | attempting =>
          cases event with
          | attemptFailed =>
              rcases onEvent_attemptFailed_of_attempting hstate with ⟨attempt, _, h⟩ | ⟨_, h⟩ <;>
                simp [handle, h]
          | _ => simp [handle, onEvent, hstate]

/-! ## A whole cycle -/

/-- A lost connection, and `failures` attempts that fail, each followed by the next. If the first
attempt is made at once, its timer finds it under way. -/
def failing : ℕ → List Input
  | 0 => [.event .connectionLost, .event .retryTimerFired]
  | failures + 1 => failing failures ++ [.event .attemptFailed, .event .retryTimerFired]

theorem transcript_failing (connectionLostDelay : ℕ) {failures : ℕ}
    (hmore : failures ≤ delays.length) :
    ((constructed delays connectionLostDelay).transcript (failing failures)).1 =
        { constructed delays connectionLostDelay with
          state := .attempting
          schedule := ⟨delays, failures⟩
          nextAttemptNumber := failures + 1 } ∧
      attemptNumbers ((constructed delays connectionLostDelay).transcript (failing failures)).2 =
        List.range' 1 (failures + 1) := by
  induction failures with
  | zero =>
      cases connectionLostDelay <;>
        simp [failing, transcript, record, entry, handle, onEvent, constructed, attemptNumbers,
          outputs, BackoffSchedule.reset]
  | succ failures ih =>
      obtain ⟨hmachine, hnumbers⟩ := ih (by omega)
      have hdelay : delays[failures]? = some (delays.get ⟨failures, hmore⟩) := by simp
      have hsplit : failing (failures + 1) =
          (failing failures ++ [.event .attemptFailed]) ++ [.event .retryTimerFired] := by
        simp [failing]
      rw [hsplit, transcript_concat, transcript_concat]
      simp only [record, hmachine]
      rw [List.range'_concat, ← hnumbers]
      simp [entry, handle, onEvent, BackoffSchedule.nextDelay, hdelay, attemptNumbers, outputs,
        Nat.add_comm 1]

/-- **A full cycle.** From rest, as many attempts are made as the schedule has entries, and one
more, before the cycle is abandoned. -/
theorem transcript_exhausted (delays : List ℕ) (connectionLostDelay : ℕ) :
    let whole := (constructed delays connectionLostDelay).transcript
      (failing delays.length ++ [.event .attemptFailed])
    attemptNumbers whole.2 = List.range' 1 (delays.length + 1) ∧
      whole.2.getLast?.map Entry.output = some ⟨.abandonCycle, 0, 0, delays.length + 1⟩ ∧
      whole.1 = constructed delays connectionLostDelay := by
  intro whole
  obtain ⟨hmachine, hnumbers⟩ := transcript_failing connectionLostDelay (Nat.le_refl delays.length)
  have hwhole : whole = record
      ((constructed delays connectionLostDelay).transcript (failing delays.length))
      (.event .attemptFailed) := transcript_concat _ _ _
  rw [hwhole, ← hnumbers]
  simp only [record, hmachine]
  simp [entry, handle, onEvent, BackoffSchedule.nextDelay, attemptNumbers,
    outputs, constructed, AdapterReconnect.resetCycle, BackoffSchedule.reset,
    AdapterReconnect.totalAttempts, BackoffSchedule.size]

/-! ## The account -/

/-- What is to hold of the entry `e` of a transcript: `past` is the machine before it, and the
entries before it. -/
structure Accounted (delays : List ℕ) (past : AdapterReconnect × List Entry) (e : Entry) :
    Prop where
  /-- The attempts of the cycle are numbered one by one, and are no more than a full cycle has. -/
  consecutive : attemptNumbers (currentCycle (past.2 ++ [e])) =
    List.range' 1 (attemptNumbers (currentCycle (past.2 ++ [e]))).length
  bounded : (attemptNumbers (currentCycle (past.2 ++ [e]))).length ≤ delays.length + 1
  /-- An attempt but the first follows the retry that announces it, with its delay. -/
  announced : ∀ k, 1 ≤ k → e.output.effect = .startAttempt → e.output.attemptNumber = k + 1 →
    ∃ delay, delays[k - 1]? = some delay ∧
      (outputs .scheduleRetry (currentCycle (past.2 ++ [e]))).getLast? =
        some ⟨.scheduleRetry, delay, k + 1, delays.length + 1⟩
  reported : e.output.effect ∈ [.startAttempt, .scheduleRetry, .abandonCycle] →
    e.output.totalAttempts = delays.length + 1
  /-- A cycle is given up exactly when its last attempt fails, or its timer cannot be armed. -/
  abandoned : e.output.effect = .abandonCycle ↔
    (e.before = .attempting ∧ e.input = .event .attemptFailed ∧
        (attemptNumbers (currentCycle past.2)).getLast? = some (delays.length + 1)) ∨
      (e.before = .waitingForRetry ∧ e.input = .event .timerArmFailed)
  /-- When attempt `k` fails and there is another, that is scheduled. -/
  failed : ∀ k, (attemptNumbers (currentCycle past.2)).getLast? = some k → k ≤ delays.length →
    e.before = .attempting → e.input = .event .attemptFailed →
    ∃ delay, delays[k - 1]? = some delay ∧
      e.output = ⟨.scheduleRetry, delay, k + 1, delays.length + 1⟩ ∧ e.after = .waitingForRetry
  /-- When its time has come, it is made. -/
  fired : e.before = .waitingForRetry → e.input = .event .retryTimerFired →
    e.output = ⟨.startAttempt, 0, (attemptNumbers (currentCycle past.2)).length + 1,
      delays.length + 1⟩ ∧ e.after = .attempting
  /-- A lost connection and a seed begin a cycle at rest, and a lost connection begins it anew
  while a retry waits; the first attempt is made, or scheduled. -/
  begins : e.Begins ↔
    (e.before = .idle ∧ (e.input = .event .connectionLost ∨ ∃ delay, e.input = .seed delay)) ∨
      (e.before = .waitingForRetry ∧ e.input = .event .connectionLost)
  first : e.Begins → e.output.attemptNumber = 1 ∧
    (e.output.effect = .startAttempt ∧ e.after = .attempting ∨
      e.output.effect = .scheduleRetry ∧ e.after = .waitingForRetry)
  /-- A cycle comes to rest with a suspend or resume, with a success, and when it is given up. -/
  ended : e.before ≠ .idle →
    (e.after = .idle ↔
      e.input ∈ [.event .systemSuspend, .event .systemResume] ∨
        (e.before = .attempting ∧ e.input = .event .attemptSucceeded) ∨
        e.output.effect = .abandonCycle)
  /-- At rest the schedule is rewound, and no attempt is numbered. -/
  rewound : past.1.state = .idle → past.1.schedule.attempt = 0 ∧ past.1.nextAttemptNumber = 0
  /-- From rest all attempts of a full cycle can be had again. -/
  full : past.1.state = .idle →
    attemptNumbers (past.1.transcript (failing delays.length ++ [.event .attemptFailed])).2 =
        List.range' 1 (delays.length + 1) ∧
      (past.1.transcript (failing delays.length ++ [.event .attemptFailed])).1.state = .idle

/-- **Cycle accounting.** After any inputs, and for any next one. -/
theorem cycle_accounting (delays : List ℕ) (connectionLostDelay : ℕ) (inputs : List Input)
    (input : Input) :
    let past := (constructed delays connectionLostDelay).transcript inputs
    Accounted delays past (past.1.entry input) := by
  intro past
  have hpast : Books delays connectionLostDelay past.1 (currentCycle past.2) :=
    books_transcript delays connectionLostDelay inputs
  have ht : Transition past.1 input (past.1.handle input).1 (past.1.entry input).output :=
    transition_handle past.1 input
  have hcycle : currentCycle (past.2 ++ [past.1.entry input]) =
      extend (currentCycle past.2) (past.1.entry input) := currentCycle_concat past.2 _
  have hnow := hpast.step ht
  refine {
    consecutive := by rw [hcycle]; exact hnow.consecutive
    bounded := by rw [hcycle]; exact hnow.bounded
    announced := fun k hk hstart hnumber => by
      rw [hcycle]
      exact hpast.preceded ht hstart hnumber hk
    reported := fun heffect => hpast.reported ht ?_ ?_
    abandoned := hpast.abandons_iff ht
    failed := ?_
    fired := fun hwaiting hinput => ?_
    begins := entry_of_begins past.1 input
    first := first_of_begins
    ended := rests_iff input
    rewound := fun hidle => ?_
    full := fun hidle => ?_ }
  · intro hnone
    simp [hnone] at heffect
  · intro hcancel
    simp [hcancel] at heffect
  · rintro k hlast hmore hattempting rfl
    have hlength : (attemptNumbers (currentCycle past.2)).length = k := by
      rw [hpast.consecutive, hpast.attempting hattempting, List.range'_concat, List.getLast?_concat,
        Option.some.injEq] at hlast
      rw [hpast.attempting hattempting]
      omega
    rw [← hlength] at hmore ⊢
    exact hpast.failed hattempting hmore
  · obtain rfl : input = .event .retryTimerFired := hinput
    exact hpast.fired hwaiting
  · rw [hpast.idle hidle]
    exact ⟨rfl, rfl⟩
  · rw [hpast.idle hidle]
    obtain ⟨hnumbers, -, hrest⟩ := transcript_exhausted delays connectionLostDelay
    exact ⟨hnumbers, by rw [hrest]; rfl⟩

end AdapterReconnect

end CecControl
