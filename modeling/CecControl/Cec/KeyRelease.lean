/-
# Presses and releases

A key that was pressed on a device should be released there, and soon: before the attempt that
pressed it is over. Selecting a source and sending a key both press keys, inside the retry loop
of the throttler, and selecting an HDMI input by keys presses two of them in a row.

The statements are about the trace of a run. An attempt begins when the clock is read for its
slot, so what is left of an attempt is what comes before the next reading.
-/

import CecControl.Cec.ThrottledRuns

namespace CecControl

open WorkerM CommandThrottler

namespace Ops

/-! ## Reading a trace -/

/-- A press, with its address, its key and its outcome. -/
def pressOf : (op : Op) × op.Ans → Option (UInt8 × UserControlCode × Outcome)
  | ⟨.adapter (.sendKeypress address key false), outcome⟩ => some (address, key, outcome)
  | _ => none

/-- The address a release is sent to. -/
def releaseOf : (op : Op) × op.Ans → Option UInt8
  | ⟨.adapter (.sendKeypress address _ true), _⟩ => some address
  | _ => none

/-- The clock is not read. -/
def sameAttempt : (op : Op) × op.Ans → Bool
  | ⟨.now, _⟩ => false
  | _ => true

/-- What is left of the attempt. -/
def thisAttempt (trace : Trace) : Trace := trace.takeWhile sameAttempt

/-- The presses left in the attempt. -/
def presses (trace : Trace) : List (UInt8 × UserControlCode × Outcome) :=
  (thisAttempt trace).filterMap pressOf

/-- The addresses of the releases left in the attempt. -/
def releases (trace : Trace) : List UInt8 := (thisAttempt trace).filterMap releaseOf

/-- Every press that was accepted is followed by a release to the same address in the same
attempt. -/
def AllReleased : Trace → Prop
  | [] => True
  | step :: rest =>
      (∀ address key, pressOf step = some (address, key, .ok true) →
        address ∈ releases rest) ∧ AllReleased rest

/-- No accepted press of INPUT_SELECT is followed in its attempt by a press that is not
accepted. -/
def SelectionCompleted : Trace → Prop
  | [] => True
  | step :: rest =>
      (∀ address, pressOf step = some (address, .inputSelect, .ok true) →
        ∀ press ∈ presses rest, press.2.2 = .ok true) ∧
        SelectionCompleted rest

/-- Between an attempt and the next one: nothing is pressed or released. -/
def Quiet (trace : Trace) : Prop := presses trace = [] ∧ releases trace = []

section Reading

variable (address : UInt8) (key : UserControlCode) (outcome : Outcome) (rest : Trace)

@[simp]
theorem presses_press :
    presses (⟨.adapter (.sendKeypress address key false), outcome⟩ :: rest) =
      (address, key, outcome) :: presses rest := rfl

@[simp]
theorem presses_release :
    presses (⟨.adapter (.sendKeypress address key true), outcome⟩ :: rest) = presses rest := rfl

@[simp]
theorem presses_sleep (ms : ℕ) : presses (⟨.sleep ms, ()⟩ :: rest) = presses rest := rfl

@[simp]
theorem releases_press :
    releases (⟨.adapter (.sendKeypress address key false), outcome⟩ :: rest) = releases rest := rfl

@[simp]
theorem releases_release :
    releases (⟨.adapter (.sendKeypress address key true), outcome⟩ :: rest) =
      address :: releases rest := rfl

@[simp]
theorem releases_sleep (ms : ℕ) : releases (⟨.sleep ms, ()⟩ :: rest) = releases rest := rfl

theorem quiet_sleep {rest : Trace} (ms : ℕ) (h : Quiet rest) : Quiet (⟨.sleep ms, ()⟩ :: rest) := h

/-- Reading the clock begins the next attempt. -/
theorem quiet_now (time : ℕ) : Quiet (⟨.now, time⟩ :: rest) := ⟨rfl, rfl⟩

end Reading

/-- Before `rest`, the part of a trace is released exactly when its selections are
completed. -/
def Agrees (part : Trace) : Prop :=
  ∀ rest, Quiet rest → (AllReleased rest ↔ SelectionCompleted rest) →
    (AllReleased (part ++ rest) ↔ SelectionCompleted (part ++ rest))

theorem quiet_nil : Quiet [] := ⟨rfl, rfl⟩

theorem agrees_nil : Agrees [] := fun _ _ h => h

/-- An operation that is no press leaves everything to the rest. -/
theorem Agrees.cons {step : (op : Op) × op.Ans} {part : Trace} (hpress : pressOf step = none)
    (h : Agrees part) : Agrees (step :: part) := by
  intro rest hquiet hrest
  simpa [AllReleased, SelectionCompleted, hpress] using h rest hquiet hrest

theorem Agrees.append {first part : Trace} (hfirst : ∀ step ∈ first, pressOf step = none)
    (h : Agrees part) : Agrees (first ++ part) := by
  induction first with
  | nil => exact h
  | cons step first ih =>
      exact Agrees.cons (hfirst step (by simp)) (ih fun other hmem => hfirst other (by simp [hmem]))

/-- So does a press that is not accepted. -/
theorem Agrees.refused {address : UInt8} {key : UserControlCode} {outcome : Outcome} {part : Trace}
    (houtcome : outcome ≠ .ok true) (h : Agrees part) :
    Agrees (⟨.adapter (.sendKeypress address key false), outcome⟩ :: part) := by
  intro rest hquiet hrest
  simpa [AllReleased, SelectionCompleted, pressOf, houtcome] using h rest hquiet hrest

/-! ## The commands -/

/-- The two ways a single key press can go. -/
theorem runs_pressThenRelease {address : UInt8} {key : UserControlCode} {t t' : CommandThrottler}
    {trace : Trace} {outcome : Outcome} (h : Runs (pressThenRelease address key) t trace outcome t') :
    (∃ refused : Outcome, refused ≠ .ok true ∧
        trace = [⟨.adapter (.sendKeypress address key false), refused⟩]) ∨
      ∃ released : Outcome,
        trace = [⟨.adapter (.sendKeypress address key false), (.ok true : Outcome)⟩,
          ⟨.sleep kPressToReleaseDelay, ()⟩,
          ⟨.adapter (.sendKeypress address .unknown true), released⟩] := by
  obtain ⟨pressed, rest, rfl, h⟩ := h
  rcases pressed with e | _ | _
  · obtain ⟨rfl, -⟩ := h
    exact Or.inl ⟨.error e, by simp, rfl⟩
  · obtain ⟨rfl, -⟩ := h
    exact Or.inl ⟨.ok false, by simp, rfl⟩
  · obtain ⟨_, rest, rfl, released, rest, rfl, h⟩ := h
    rcases released with e | released
    · obtain ⟨rfl, -⟩ := h
      exact Or.inr ⟨.error e, rfl⟩
    · obtain ⟨rfl, -⟩ := h
      exact Or.inr ⟨.ok released, rfl⟩

/-- A single key press is always made good. -/
theorem agrees_pressThenRelease {address : UInt8} {key : UserControlCode} {t t' : CommandThrottler}
    {trace : Trace} {outcome : Outcome} (hkey : key ≠ .inputSelect)
    (h : Runs (pressThenRelease address key) t trace outcome t') : Agrees trace := by
  rcases runs_pressThenRelease h with ⟨refused, hrefused, rfl⟩ | ⟨released, rfl⟩
  · exact Agrees.refused hrefused agrees_nil
  · intro rest hquiet hrest
    simpa [AllReleased, SelectionCompleted, pressOf, hkey] using hrest

theorem hdmiNumberKey_ne_inputSelect (source : UInt8) : hdmiNumberKey source ≠ .inputSelect := by
  unfold hdmiNumberKey
  split <;> simp

/-- The fallback for HDMI inputs: INPUT_SELECT, and then the number key. The first press is
made good exactly when the second one is accepted. -/
theorem agrees_fallback {source : UInt8} {t t' : CommandThrottler} {trace : Trace}
    {outcome : Outcome}
    (h : Runs (pressThenRelease cecDeviceTv (hdmiNumberKey source)) t trace outcome t') :
    Agrees (⟨.adapter (.sendKeypress cecDeviceTv .inputSelect false), (.ok true : Outcome)⟩ ::
      ⟨.sleep kInterPressDelay, ()⟩ :: trace) := by
  intro rest hquiet hrest
  rcases runs_pressThenRelease h with ⟨refused, hrefused, rfl⟩ | ⟨released, rfl⟩
  · simp [AllReleased, SelectionCompleted, pressOf, hrefused, hquiet.2]
  · simpa [AllReleased, SelectionCompleted, pressOf, hquiet.1, hdmiNumberKey_ne_inputSelect]
      using hrest

/-- Every attempt at a source is made good exactly when its selection is completed. -/
theorem agrees_selectSource {source : UInt8} {t t' : CommandThrottler} {trace : Trace}
    {outcome : Outcome} (h : Runs (selectSource source) t trace outcome t') : Agrees trace := by
  unfold selectSource at h
  split_ifs at h with hav haudio hother
  · exact agrees_pressThenRelease (by simp) h
  · exact agrees_pressThenRelease (by simp) h
  · obtain ⟨rfl, -⟩ := h
    exact agrees_nil
  · obtain ⟨path, rest, rfl, h⟩ := h
    apply Agrees.cons rfl
    rcases path with e | _ | _
    · obtain ⟨rfl, -⟩ := h
      exact agrees_nil
    · obtain ⟨select, rest, rfl, h⟩ := h
      rcases select with e | _ | _
      · obtain ⟨rfl, -⟩ := h
        exact Agrees.refused (by simp) agrees_nil
      · obtain ⟨rfl, -⟩ := h
        exact Agrees.refused (by simp) agrees_nil
      · obtain ⟨_, rest, rfl, h⟩ := h
        exact agrees_fallback h
    · obtain ⟨rfl, -⟩ := h
      exact agrees_nil

/-! ## The retry loop -/

theorem press_of_mem_reservation {t : CommandThrottler} {now : ℕ} {step : (op : Op) × op.Ans}
    (h : step ∈ t.reservation now) : pressOf step = none := by
  unfold reservation at h
  split at h <;> simp only [List.mem_cons, List.not_mem_nil, or_false] at h
  · rcases h with rfl | rfl <;> rfl
  · rw [h]
    rfl

/-- A run of the loop begins by reading the clock, if it does anything at all. -/
theorem quiet_of_runs_attempts {command : WorkerM Bool} {remaining attempt : ℕ}
    {t t' : CommandThrottler} {trace : Trace} {outcome : Outcome}
    (h : Runs (attempts command remaining attempt) t trace outcome t') : Quiet trace := by
  cases remaining with
  | zero =>
      obtain ⟨rfl, -⟩ := runs_attempts_zero.mp h
      exact quiet_nil
  | succ remaining =>
      obtain ⟨now, body, _, _, rest, rfl, -⟩ := runs_attempts_succ.mp h
      exact quiet_now _ now

/-- **Step to run.** What each attempt is made good by, the whole loop is made good by. -/
theorem released_iff_of_runs_attempts {command : WorkerM Bool}
    (hcommand : ∀ {t trace outcome t'}, Runs command t trace outcome t' → Agrees trace)
    {remaining attempt : ℕ} {t t' : CommandThrottler} {trace : Trace} {outcome : Outcome}
    (h : Runs (attempts command remaining attempt) t trace outcome t') :
    AllReleased trace ↔ SelectionCompleted trace := by
  induction remaining generalizing t trace attempt with
  | zero =>
      obtain ⟨rfl, -⟩ := runs_attempts_zero.mp h
      exact Iff.rfl
  | succ remaining ih =>
      obtain ⟨now, body, result, between, rest, rfl, hbody, hrest⟩ := runs_attempts_succ.mp h
      have hagrees : Agrees (t.reservation now ++ body) :=
        Agrees.append (fun _ => press_of_mem_reservation) (hcommand hbody)
      rw [← List.append_assoc]
      apply hagrees
      · rcases result with e | _ | _
        · obtain ⟨rfl, -⟩ := hrest
          exact quiet_nil
        · obtain ⟨rest, rfl, hrest⟩ := hrest
          exact quiet_sleep _ (quiet_of_runs_attempts hrest)
        · obtain ⟨rfl, -⟩ := hrest
          exact quiet_nil
      · rcases result with e | _ | _
        · obtain ⟨rfl, -⟩ := hrest
          exact Iff.rfl
        · obtain ⟨rest, rfl, hrest⟩ := hrest
          simpa [AllReleased, SelectionCompleted, pressOf] using ih hrest
        · obtain ⟨rfl, -⟩ := hrest
          exact Iff.rfl

/-- The connection is checked before the loop. -/
theorem released_iff_of_throttled {command : WorkerM Bool}
    (hcommand : ∀ {t trace outcome t'}, Runs command t trace outcome t' → Agrees trace)
    {t t' : CommandThrottler} {trace : Trace} {outcome : Outcome}
    (h : Runs (ifConnected (executeWithThrottle command)) t trace outcome t') :
    AllReleased trace ↔ SelectionCompleted trace := by
  obtain ⟨connected, rest, rfl, h⟩ := h
  have hrest : AllReleased rest ↔ SelectionCompleted rest := by
    rcases connected with e | _ | _
    · obtain ⟨rfl, -⟩ := h
      exact Iff.rfl
    · obtain ⟨rfl, -⟩ := h
      exact Iff.rfl
    · exact released_iff_of_runs_attempts hcommand (runs_executeWithThrottle.mp h)
  simpa [AllReleased, SelectionCompleted, pressOf] using hrest

/-- The requests that press keys. -/
inductive KeyRequest
  | source (input : UInt8)
  | key (logicalAddress code : UInt8)
  deriving DecidableEq, Repr

def KeyRequest.perform : KeyRequest → WorkerM Bool
  | .source input => setSource input
  | .key logicalAddress code => sendKey logicalAddress code

/-- **Releases.** In every run of a request, every accepted press is released in its attempt
exactly when no accepted press of INPUT_SELECT is followed in its attempt by a number key that
is not accepted. -/
theorem released_iff_selectionCompleted (request : KeyRequest) {t t' : CommandThrottler}
    {trace : Trace} {outcome : Outcome} (h : Runs request.perform t trace outcome t') :
    AllReleased trace ↔ SelectionCompleted trace := by
  cases request with
  | source input => exact released_iff_of_throttled agrees_selectSource h
  | key logicalAddress code =>
      exact released_iff_of_throttled (agrees_pressThenRelease (by simp)) h

/-- A TV that refuses the stream path, accepts INPUT_SELECT and refuses the number key. -/
def refusingNumberKey : ∀ op : Op, op.Ans
  | .adapter (.setStreamPath _) => Except.ok false
  | .adapter (.sendKeypress _ .number1 false) => Except.ok false
  | .adapter _ => Except.ok true
  | .now => (0 : ℕ)
  | .sleep _ => ()

/-- One attempt at a source, on that TV. -/
theorem runs_refusingNumberKey (input : UInt8) :
    let answered := ((KeyRequest.source input).perform.program
      { config := { maxRetryAttempts := 1 } }).answered refusingNumberKey
    Runs (KeyRequest.source input).perform { config := { maxRetryAttempts := 1 } } answered.1
      answered.2.1 answered.2.2 :=
  Lib.Program.follows_answered refusingNumberKey _

/-- At the first HDMI input of that TV, the press of INPUT_SELECT is never released. -/
theorem inputSelect_not_released :
    ¬ ∀ (request : KeyRequest) (t t' : CommandThrottler) (trace : Trace) (outcome : Outcome),
      Runs request.perform t trace outcome t' → AllReleased trace := by
  intro h
  have hreleased := (h _ _ _ _ _ (runs_refusingNumberKey 2)).2.2.2.1 0 .inputSelect rfl
  exact absurd hreleased (by decide)

/-- At the second one, the number key is accepted and both presses are released. -/
theorem released_iff_second_input :
    ∃ trace outcome t',
      Runs (KeyRequest.source 3).perform { config := { maxRetryAttempts := 1 } } trace outcome t' ∧
        outcome = .ok true ∧ (AllReleased trace ↔ SelectionCompleted trace) :=
  ⟨_, _, _, runs_refusingNumberKey 3, rfl,
    released_iff_selectionCompleted (.source 3) (runs_refusingNumberKey 3)⟩

end Ops

end CecControl
