/-
# The CEC adapter as an environment

Everything the daemon does on the adapter's worker thread is a sequence of
`ICecAdapter` calls, clock readings and sleeps, interleaved with updates of the
command throttler's two counters. Any adapter call may throw, and the source
treats exceptions derived from `std::exception` differently from all others, so
the two are kept apart.

`WorkerM` is the monad worker code is written in: exceptions, the throttler's
state (which survives an exception, as the source's atomics do), and a `Program`
over the calls below. The code that runs in it is in the modules that follow.
-/

import CecControl.Lib.Program

namespace CecControl

open Lib

/-- The two kinds of C++ exception the source's handlers distinguish. -/
inductive Exn
  | std
  | other
  deriving DecidableEq, Repr

/-- libcec's user-control codes: the ones the source names, and a code cast from
a wire byte. -/
inductive UserControlCode
  | selectAvInputFunction
  | selectAudioInputFunction
  | inputSelect
  | number1
  | number2
  | number3
  | number4
  | unknown
  | ofByte (code : UInt8)
  deriving DecidableEq, Repr

/-- `CECDEVICE_TV` and `CECDEVICE_BROADCAST`. Logical addresses are kept as the
byte they are cast from. -/
def cecDeviceTv : UInt8 := 0

def cecDeviceBroadcast : UInt8 := 15

/-- The `ICecAdapter` members the worker calls. All of them answer a truth value
(`closeConnection` answers nothing of interest). -/
inductive AdapterCall
  | isConnected
  | closeConnection
  | reopenConnection
  | powerOnDevice (address : UInt8)
  | standbyDevice (address : UInt8)
  | volumeUp
  | volumeDown
  | toggleMute
  | sendKeypress (address : UInt8) (key : UserControlCode) (release : Bool)
  | setStreamPath (physicalAddress : ℕ)
  | isDeviceActive (address : UInt8)
  | standbyDevices (address : UInt8)
  | powerOnDevices (address : UInt8)
  deriving DecidableEq, Repr

/-- What worker code asks of its environment. -/
inductive Op
  | adapter (c : AdapterCall)
  | now
  | sleep (ms : ℕ)
  deriving DecidableEq, Repr

/-- Outcome of an adapter call. -/
abbrev Outcome := Except Exn Bool

/-- Answers, by operation. -/
def Op.Ans : Op → Type
  | .adapter _ => Outcome
  | .now => ℕ
  | .sleep _ => Unit

/-- Tuning parameters of the throttler (32-bit unsigned in the source). -/
structure ThrottlerConfig where
  baseIntervalMs : ℕ := 200
  maxIntervalMs : ℕ := 1000
  maxRetryAttempts : ℕ := 3
  deriving DecidableEq, Repr

/-- The throttler: its configuration, the next allowed slot and the
consecutive-failure counter. -/
structure CommandThrottler where
  config : ThrottlerConfig := {}
  nextAllowed : ℕ := 0
  consecutiveFailures : ℕ := 0
  deriving DecidableEq, Repr

/-- Worker-thread code. -/
abbrev WorkerM := ExceptT Exn (StateT CommandThrottler (Program Op Op.Ans))

namespace WorkerM

/-- A worker computation as a program from a throttler state. -/
def program {α : Type} (m : WorkerM α) (t : CommandThrottler) :
    Program Op Op.Ans (Except Exn α × CommandThrottler) := m t

/-- Call the adapter; an exception propagates. -/
def adapter (c : AdapterCall) : WorkerM Bool := fun t =>
  .call (.adapter c) fun (outcome : Outcome) => .ret (outcome, t)

/-- Read the steady clock. -/
def now : WorkerM ℕ := fun t => .call .now fun (time : ℕ) => .ret (.ok time, t)

def sleep (ms : ℕ) : WorkerM Unit := fun t => .call (.sleep ms) fun _ => .ret (.ok (), t)

def getThrottler : WorkerM CommandThrottler := fun t => .ret (.ok t, t)

def modifyThrottler (f : CommandThrottler → CommandThrottler) : WorkerM Unit :=
  fun t => .ret (.ok (), f t)

/-- `try { body } catch (const std::exception&) { handler }`: other exceptions
pass through. -/
def catchStd {α : Type} (body handler : WorkerM α) : WorkerM α := fun t =>
  (body.program t).bind fun
    | (.error .std, t') => handler.program t'
    | result => .ret result

@[simp]
theorem program_pure {α : Type} (value : α) (t : CommandThrottler) :
    (pure value : WorkerM α).program t = .ret (.ok value, t) := rfl

/-- Sequencing worker code runs the continuation on a value and passes an
exception on, with the throttler as it was left. -/
theorem program_bind {α β : Type} (m : WorkerM α) (f : α → WorkerM β)
    (t : CommandThrottler) :
    (m >>= f).program t = (m.program t).bind fun
      | (.ok value, t') => (f value).program t'
      | (.error e, t') => .ret (.error e, t') := by
  change Program.bind (m t) _ = Program.bind (m t) _
  congr 1
  funext result
  obtain ⟨outcome, t'⟩ := result
  cases outcome <;> rfl

/-! ## Which exceptions go through -/

/-- The answer of an operation is one of the given exceptions. -/
def Throws (Bad : AdapterCall → Exn → Prop) : ∀ op : Op, op.Ans → Prop
  | .adapter c, .error e => Bad c e
  | _, _ => False

theorem Throws.mono {Bad Bad' : AdapterCall → Exn → Prop} (hbad : ∀ c e, Bad c e → Bad' c e)
    {op : Op} {answer : op.Ans} (h : Throws Bad op answer) : Throws Bad' op answer := by
  cases op with
  | adapter c =>
      cases answer with
      | ok value => exact h
      | error e => exact hbad c e h
  | now => exact h
  | sleep ms => exact h

/-- The result carries the very exception the operation answered with. -/
def Propagates {α : Type} : ∀ op : Op, op.Ans → Except Exn α × CommandThrottler → Prop
  | .adapter _, .error e, result => result.1 = .error e
  | _, _, _ => False

/-- Code that the given exceptions end, and that no other exception keeps from
returning a value. -/
def Exposed {α : Type} (Bad : AdapterCall → Exn → Prop) (m : WorkerM α) : Prop :=
  ∀ t, (m.program t).Settles (Throws Bad) Propagates fun result => ∃ value, result.1 = .ok value

/-- Code that catches nothing: any exception ends it with that exception. -/
abbrev Transparent {α : Type} (m : WorkerM α) : Prop := Exposed (fun _ _ => True) m

section Exposed

variable {Bad : AdapterCall → Exn → Prop}

theorem exposed_pure {α : Type} (value : α) : Exposed Bad (pure value : WorkerM α) :=
  fun _ => ⟨value, rfl⟩

/-- A call outside any handler. -/
theorem exposed_adapter {c : AdapterCall} (hbad : ∀ e, Bad c e) : Exposed Bad (adapter c) := by
  intro t answer
  cases answer with
  | ok value => exact ⟨fun hthrows => hthrows.elim, fun _ => ⟨value, rfl⟩⟩
  | error e => exact ⟨fun _ => ⟨_, rfl, rfl⟩, fun hok => absurd (hbad e) hok⟩

theorem exposed_now : Exposed Bad now :=
  fun _ time => ⟨fun hthrows => hthrows.elim, fun _ => ⟨time, rfl⟩⟩

theorem exposed_sleep (ms : ℕ) : Exposed Bad (sleep ms) :=
  fun _ _ => ⟨fun hthrows => hthrows.elim, fun _ => ⟨(), rfl⟩⟩

theorem exposed_getThrottler : Exposed Bad getThrottler := fun t => ⟨t, rfl⟩

theorem exposed_modifyThrottler (f : CommandThrottler → CommandThrottler) :
    Exposed Bad (modifyThrottler f) := fun _ => ⟨(), rfl⟩

theorem Exposed.bind {α β : Type} {m : WorkerM α} {f : α → WorkerM β} (hm : Exposed Bad m)
    (hf : ∀ value, Exposed Bad (f value)) : Exposed Bad (m >>= f) := by
  intro t
  rw [program_bind]
  refine (hm t).bind ?_ ?_
  · rintro ⟨outcome, t'⟩ ⟨value, hvalue⟩
    obtain rfl : outcome = .ok value := hvalue
    exact hf value t'
  · rintro op answer ⟨outcome, t'⟩ hthrows hprop
    cases op with
    | adapter c =>
        cases answer with
        | ok value => exact hthrows.elim
        | error e =>
            obtain rfl : outcome = .error e := hprop
            exact ⟨_, rfl, rfl⟩
    | now => exact hthrows.elim
    | sleep ms => exact hthrows.elim

theorem Exposed.ite {α : Type} {c : Prop} [Decidable c] {m m' : WorkerM α}
    (hm : Exposed Bad m) (hm' : Exposed Bad m') : Exposed Bad (if c then m else m') := by
  split <;> assumption

end Exposed

theorem transparent_adapter (c : AdapterCall) : Transparent (adapter c) :=
  exposed_adapter fun _ => trivial

/-! ## Which operations code can ever use -/

/-- Every operation the code can ask for satisfies `P`. -/
def Uses {α : Type} (P : Op → Prop) (m : WorkerM α) : Prop :=
  ∀ t, (m.program t).Calls P

variable {P : Op → Prop}

theorem uses_pure {α : Type} (value : α) : Uses P (pure value : WorkerM α) :=
  fun _ => trivial

theorem uses_adapter {c : AdapterCall} (h : P (.adapter c)) : Uses P (adapter c) :=
  fun _ => ⟨h, fun _ => trivial⟩

theorem uses_now (h : P .now) : Uses P now := fun _ => ⟨h, fun _ => trivial⟩

theorem uses_sleep {ms : ℕ} (h : P (.sleep ms)) : Uses P (sleep ms) :=
  fun _ => ⟨h, fun _ => trivial⟩

theorem uses_getThrottler : Uses P getThrottler := fun _ => trivial

theorem uses_modifyThrottler (f : CommandThrottler → CommandThrottler) :
    Uses P (modifyThrottler f) := fun _ => trivial

theorem Uses.bind {α β : Type} {m : WorkerM α} {f : α → WorkerM β}
    (hm : Uses P m) (hf : ∀ value, Uses P (f value)) : Uses P (m >>= f) := by
  intro t
  rw [program_bind]
  refine (hm t).bind ?_
  rintro ⟨outcome, t'⟩
  cases outcome with
  | ok value => exact hf value t'
  | error e => trivial

theorem Uses.ite {α : Type} {c : Prop} [Decidable c] {m m' : WorkerM α}
    (hm : Uses P m) (hm' : Uses P m') : Uses P (if c then m else m') := by
  split <;> assumption

theorem Uses.catchStd {α : Type} {body handler : WorkerM α} (hbody : Uses P body)
    (hhandler : Uses P handler) : Uses P (body.catchStd handler) := by
  intro t
  refine (hbody t).bind ?_
  rintro ⟨outcome, t'⟩
  rcases outcome with (_ | _) | value
  · exact hhandler t'
  · trivial
  · trivial

/-- Code that catches nothing, inside a handler: what the handler does not name
still goes through. -/
theorem Transparent.catchStd {α : Type} {Bad : AdapterCall → Exn → Prop} {m : WorkerM α}
    (hm : Transparent m)
    (hbad : Uses (fun op => ∀ c, op = .adapter c → ∀ e, Bad c e ↔ e = .other) m) (value : α) :
    Exposed Bad (m.catchStd (pure value)) := by
  intro t
  have hsettles := hm t
  have hcalls := hbad t
  change ((m.program t).bind _).Settles _ _ _
  generalize m.program t = p at hsettles hcalls ⊢
  induction p with
  | ret result =>
      obtain ⟨outcome, t'⟩ := result
      obtain ⟨returned, hreturned⟩ := hsettles
      obtain rfl : outcome = .ok returned := hreturned
      exact ⟨returned, rfl⟩
  | call op next ih =>
      intro answer
      have hthen : ¬ Throws (fun _ _ => True) op answer →
          ((next answer).bind _).Settles (Throws Bad) Propagates
            fun result => ∃ value, result.1 = .ok value :=
        fun hquiet => ih answer ((hsettles answer).2 hquiet) (hcalls.2 answer)
      cases op with
      | now => exact ⟨fun hthrows => hthrows.elim, fun _ => hthen id⟩
      | sleep ms => exact ⟨fun hthrows => hthrows.elim, fun _ => hthen id⟩
      | adapter c =>
          cases answer with
          | ok returned => exact ⟨fun hthrows => hthrows.elim, fun _ => hthen id⟩
          | error e =>
              obtain ⟨⟨outcome, t'⟩, hnext, houtcome⟩ := (hsettles (.error e)).1 trivial
              obtain rfl : outcome = .error e := houtcome
              have he := hcalls.1 c rfl e
              dsimp only
              rw [hnext]
              cases e with
              | std =>
                  refine ⟨fun hthrows => ?_, fun _ => ⟨value, rfl⟩⟩
                  exact absurd (he.mp hthrows) (by simp)
              | other => exact ⟨fun _ => ⟨_, rfl, rfl⟩, fun hok => absurd (he.mpr rfl) hok⟩

/-! ## What code can return -/

/-- Every value the code returns, if it returns at all, satisfies `Q`. -/
def Returns {α : Type} (Q : α → Prop) (m : WorkerM α) : Prop :=
  ∀ t, (m.program t).Ends fun result => ∀ value, result.1 = .ok value → Q value

theorem returns_pure {α : Type} {Q : α → Prop} {value : α} (h : Q value) :
    Returns Q (pure value : WorkerM α) := by
  rintro _ _ ⟨⟩
  exact h

/-- What comes last decides what is returned. -/
theorem Returns.bind {α β : Type} {Q : β → Prop} {m : WorkerM α} {f : α → WorkerM β}
    (hf : ∀ value, Returns Q (f value)) : Returns Q (m >>= f) := by
  intro t
  rw [program_bind]
  refine (Program.ends_true _).bind ?_
  rintro ⟨outcome, t'⟩ _
  cases outcome with
  | ok value => exact hf value t'
  | error e => exact fun value hvalue => by cases hvalue

theorem Returns.ite {α : Type} {Q : α → Prop} {c : Prop} [Decidable c] {m m' : WorkerM α}
    (hm : Returns Q m) (hm' : Returns Q m') : Returns Q (if c then m else m') := by
  split <;> assumption

/-! ## Runs of code -/

/-- The operations of a run with their answers. -/
abbrev Trace := List ((op : Op) × op.Ans)

/-- One run of the code from a throttler state: the operations it asked for and their
answers, its outcome, and the throttler it leaves. -/
def Runs {α : Type} (m : WorkerM α) (t : CommandThrottler) (trace : Trace)
    (outcome : Except Exn α) (t' : CommandThrottler) : Prop :=
  (m.program t).Follows trace (outcome, t')

section Runs

variable {α β : Type} {t t' : CommandThrottler} {trace : Trace}

@[simp]
theorem runs_pure {value : α} {outcome : Except Exn α} :
    Runs (pure value : WorkerM α) t trace outcome t' ↔
      trace = [] ∧ outcome = .ok value ∧ t' = t := by
  simp [Runs, eq_comm]

@[simp]
theorem runs_getThrottler {outcome : Except Exn CommandThrottler} :
    Runs getThrottler t trace outcome t' ↔ trace = [] ∧ outcome = .ok t ∧ t' = t := by
  simp [Runs, program, getThrottler, eq_comm]

@[simp]
theorem runs_modifyThrottler {f : CommandThrottler → CommandThrottler}
    {outcome : Except Exn Unit} :
    Runs (modifyThrottler f) t trace outcome t' ↔ trace = [] ∧ outcome = .ok () ∧ t' = f t := by
  simp [Runs, program, modifyThrottler, eq_comm]

@[simp]
theorem runs_adapter {c : AdapterCall} {outcome : Outcome} :
    Runs (adapter c) t trace outcome t' ↔ trace = [⟨.adapter c, outcome⟩] ∧ t' = t := by
  constructor
  · rintro ⟨_, _, rfl, rfl, h⟩
    cases h
    exact ⟨rfl, rfl⟩
  · rintro ⟨rfl, rfl⟩
    exact ⟨outcome, [], rfl, rfl, rfl⟩

@[simp]
theorem runs_now {outcome : Except Exn ℕ} :
    Runs now t trace outcome t' ↔
      ∃ time : ℕ, trace = [⟨.now, time⟩] ∧ outcome = .ok time ∧ t' = t := by
  constructor
  · rintro ⟨time, _, rfl, rfl, h⟩
    cases h
    exact ⟨time, rfl, rfl, rfl⟩
  · rintro ⟨time, rfl, rfl, rfl⟩
    exact ⟨time, [], rfl, rfl, rfl⟩

@[simp]
theorem runs_sleep {ms : ℕ} {outcome : Except Exn Unit} :
    Runs (sleep ms) t trace outcome t' ↔
      trace = [⟨.sleep ms, ()⟩] ∧ outcome = .ok () ∧ t' = t := by
  constructor
  · rintro ⟨_, _, rfl, rfl, h⟩
    cases h
    exact ⟨rfl, rfl, rfl⟩
  · rintro ⟨rfl, rfl, rfl⟩
    exact ⟨(), [], rfl, rfl, rfl⟩

/-- A run of a sequence: the first part throws, or it returns and the rest runs. -/
theorem runs_bind {m : WorkerM α} {f : α → WorkerM β} {outcome : Except Exn β} :
    Runs (m >>= f) t trace outcome t' ↔
      (∃ e, outcome = .error e ∧ Runs m t trace (.error e) t') ∨
        ∃ value first rest between, trace = first ++ rest ∧
          Runs m t first (.ok value) between ∧ Runs (f value) between rest outcome t' := by
  simp only [Runs]
  rw [program_bind, Program.follows_bind]
  constructor
  · rintro ⟨first, ⟨outcome' | value, between⟩, rest, rfl, hfirst, hrest⟩
    · obtain ⟨rfl, hresult⟩ := Program.follows_ret.mp hrest
      cases hresult
      exact Or.inl ⟨outcome', rfl, by simpa using hfirst⟩
    · exact Or.inr ⟨value, first, rest, between, rfl, hfirst, hrest⟩
  · rintro (⟨e, rfl, hfirst⟩ | ⟨value, first, rest, between, rfl, hfirst, hrest⟩)
    · exact ⟨trace, (.error e, t'), [], by simp, hfirst, rfl, rfl⟩
    · exact ⟨first, (.ok value, between), rest, rfl, hfirst, hrest⟩

/-- Code that cannot throw is followed by the rest. -/
theorem runs_bind_of_ok {m : WorkerM α} {f : α → WorkerM β} {outcome : Except Exn β}
    (hm : ∀ {trace e t'}, ¬ Runs m t trace (.error e) t') :
    Runs (m >>= f) t trace outcome t' ↔
      ∃ value first rest between, trace = first ++ rest ∧
        Runs m t first (.ok value) between ∧ Runs (f value) between rest outcome t' := by
  rw [runs_bind]
  constructor
  · rintro (⟨e, -, h⟩ | h)
    · exact absurd h hm
    · exact h
  · exact Or.inr

/-- A run that begins with an adapter call: its exception ends it, and its value is handed to
the rest. -/
theorem runs_bind_adapter {c : AdapterCall} {f : Bool → WorkerM β} {answer : Outcome}
    {rest : Trace} {outcome : Except Exn β} :
    Runs (adapter c >>= f) t (⟨.adapter c, answer⟩ :: rest) outcome t' ↔
      match answer with
      | .ok value => Runs (f value) t rest outcome t'
      | .error e => rest = [] ∧ outcome = .error e ∧ t' = t := by
  constructor
  · rintro ⟨_, _, heq, h⟩
    cases heq
    cases answer with
    | ok value => exact h
    | error e =>
        obtain ⟨rfl, hresult⟩ := h
        cases hresult
        exact ⟨rfl, rfl, rfl⟩
  · intro h
    refine ⟨answer, rest, rfl, ?_⟩
    cases answer with
    | ok value => exact h
    | error e =>
        obtain ⟨rfl, rfl, rfl⟩ := h
        exact ⟨rfl, rfl⟩

/-- A run of guarded code: the body ends it, or throws what the handler catches. -/
theorem runs_catchStd {body handler : WorkerM α} {outcome : Except Exn α} :
    Runs (body.catchStd handler) t trace outcome t' ↔
      (outcome ≠ .error .std ∧ Runs body t trace outcome t') ∨
        ∃ first rest between, trace = first ++ rest ∧ Runs body t first (.error .std) between ∧
          Runs handler between rest outcome t' := by
  change Program.Follows (Program.bind (body.program t) _) trace (outcome, t') ↔ _
  rw [Program.follows_bind]
  constructor
  · rintro ⟨first, ⟨result, between⟩, rest, rfl, hfirst, hrest⟩
    rcases result with (_ | _) | value
    · exact Or.inr ⟨first, rest, between, rfl, hfirst, hrest⟩
    all_goals
      obtain ⟨rfl, hresult⟩ := Program.follows_ret.mp hrest
      cases hresult
      exact Or.inl ⟨by simp, by simpa [Runs] using hfirst⟩
  · rintro (⟨hne, hbody⟩ | ⟨first, rest, between, rfl, hbody, hhandler⟩)
    · refine ⟨trace, (outcome, t'), [], by simp, hbody, ?_⟩
      rcases outcome with (_ | _) | value
      · exact absurd rfl hne
      · exact ⟨rfl, rfl⟩
      · exact ⟨rfl, rfl⟩
    · exact ⟨first, (.error .std, between), rest, rfl, hbody, hhandler⟩

end Runs

end WorkerM

end CecControl
