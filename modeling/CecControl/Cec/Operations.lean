/-
# The command throttler and the wire-command bodies

Every CEC action a wire command drives goes through `executeWithThrottle`: it
reserves a time slot, runs the action, and retries with a growing delay until
the action reports success or the configured number of attempts is used up. The
throttler is only ever used by the adapter's worker thread here, so its atomics
are plain state.

The bodies below are the source's, call by call, because which calls an action
makes and what happens when one of them throws is exactly what is at stake. They
catch nothing: `Transparent` for each of them is proved from its parts.
-/

import CecControl.Cec.Adapter
import Mathlib.Algebra.Group.Nat.Defs

namespace CecControl

open WorkerM

/-- 32-bit unsigned wrap-around. -/
def u32 (n : ℕ) : ℕ := n % 2 ^ 32

namespace CommandThrottler

/-- Unit step of both failure-driven schedules. -/
def kFailureStepMs : ℕ := 100

/-- The inter-command interval for the current failure count. -/
def currentInterval (t : CommandThrottler) : ℕ :=
  if t.consecutiveFailures = 0 then t.config.baseIntervalMs
  else
    let capped := min t.consecutiveFailures 5
    let span :=
      if t.config.maxIntervalMs > t.config.baseIntervalMs then
        t.config.maxIntervalMs - t.config.baseIntervalMs
      else 0
    let extra := min (u32 (kFailureStepMs * u32 (1 <<< capped))) span
    u32 (t.config.baseIntervalMs + extra)

/-- Reserve the next slot and sleep until it begins. -/
def reserveSlotAndSleep : WorkerM Unit := do
  let t ← getThrottler
  let interval := t.currentInterval
  let now ← WorkerM.now
  let mySlot := if t.nextAllowed > now then t.nextAllowed else now
  modifyThrottler fun t => { t with nextAllowed := mySlot + interval }
  if mySlot > now then sleep (mySlot - now)

/-- Delay after a failed attempt. -/
def retryDelayMs (attempt : ℕ) : ℕ :=
  if attempt = 0 then kFailureStepMs else u32 (kFailureStepMs * u32 (1 <<< attempt))

/-- The retry loop with `remaining` attempts left, and the softened failure
count once they are used up. -/
def attempts (command : WorkerM Bool) : (remaining attempt : ℕ) → WorkerM Bool
  | 0, _ => do
      modifyThrottler fun t => { t with consecutiveFailures := t.consecutiveFailures - 1 }
      return false
  | remaining + 1, attempt => do
      reserveSlotAndSleep
      if ← command then
        modifyThrottler fun t => { t with consecutiveFailures := 0 }
        return true
      modifyThrottler fun t => { t with consecutiveFailures := u32 (t.consecutiveFailures + 1) }
      sleep (retryDelayMs attempt)
      attempts command remaining (attempt + 1)

/-- Run `command` under the throttle and retry policy. -/
def executeWithThrottle (command : WorkerM Bool) : WorkerM Bool := do
  let t ← getThrottler
  attempts command t.config.maxRetryAttempts 0

theorem transparent_reserveSlotAndSleep : Transparent reserveSlotAndSleep :=
  exposed_getThrottler.bind fun _ => exposed_now.bind fun _ =>
    (exposed_modifyThrottler _).bind fun _ =>
      (exposed_sleep _).ite (exposed_pure _)

theorem transparent_attempts {command : WorkerM Bool} (h : Transparent command)
    (remaining attempt : ℕ) : Transparent (attempts command remaining attempt) := by
  induction remaining generalizing attempt with
  | zero => exact (exposed_modifyThrottler _).bind fun _ => exposed_pure _
  | succ remaining ih =>
      refine transparent_reserveSlotAndSleep.bind fun _ => h.bind fun _ =>
        Exposed.ite ((exposed_modifyThrottler _).bind fun _ => exposed_pure _) ?_
      exact (exposed_modifyThrottler _).bind fun _ =>
        (exposed_sleep _).bind fun _ => ih (attempt + 1)

theorem transparent_executeWithThrottle {command : WorkerM Bool} (h : Transparent command) :
    Transparent (executeWithThrottle command) :=
  exposed_getThrottler.bind fun _ => transparent_attempts h _ _

variable {P : Op → Prop}

theorem uses_reserveSlotAndSleep (hnow : P .now) (hsleep : ∀ ms, P (.sleep ms)) :
    Uses P reserveSlotAndSleep :=
  uses_getThrottler.bind fun _ => (uses_now hnow).bind fun _ =>
    (uses_modifyThrottler _).bind fun _ => (uses_sleep (hsleep _)).ite (uses_pure _)

theorem uses_attempts {command : WorkerM Bool} (hnow : P .now) (hsleep : ∀ ms, P (.sleep ms))
    (h : Uses P command) (remaining attempt : ℕ) :
    Uses P (attempts command remaining attempt) := by
  induction remaining generalizing attempt with
  | zero => exact (uses_modifyThrottler _).bind fun _ => uses_pure _
  | succ remaining ih =>
      refine (uses_reserveSlotAndSleep hnow hsleep).bind fun _ => h.bind fun _ =>
        Uses.ite ((uses_modifyThrottler _).bind fun _ => uses_pure _) ?_
      exact (uses_modifyThrottler _).bind fun _ =>
        (uses_sleep (hsleep _)).bind fun _ => ih (attempt + 1)

theorem uses_executeWithThrottle {command : WorkerM Bool} (hnow : P .now)
    (hsleep : ∀ ms, P (.sleep ms)) (h : Uses P command) :
    Uses P (executeWithThrottle command) :=
  uses_getThrottler.bind fun _ => uses_attempts hnow hsleep h _ _

end CommandThrottler

/-! ## Operations -/

namespace Ops

open CommandThrottler

def kFirstHdmiSource : ℕ := 2

def kLastHdmiSource : ℕ := 5

def kPressToReleaseDelay : ℕ := 50

def kInterPressDelay : ℕ := 100

/-- Physical address `0xN000` of HDMI port `N`. -/
def hdmiPhysicalAddress (source : UInt8) : ℕ :=
  ((source.toNat - kFirstHdmiSource + 1) <<< 12) % 2 ^ 16

def hdmiNumberKey (source : UInt8) : UserControlCode :=
  match source.toNat with
  | 2 => .number1
  | 3 => .number2
  | 4 => .number3
  | 5 => .number4
  | _ => .unknown

/-- The connection check every operation repeats before it pays for a slot. -/
def ifConnected (body : WorkerM Bool) : WorkerM Bool := do
  if !(← adapter .isConnected) then return false
  body

/-- A key press and its release, to one address; the release's outcome is
ignored. -/
def pressThenRelease (address : UInt8) (key : UserControlCode) : WorkerM Bool := do
  if !(← adapter (.sendKeypress address key false)) then return false
  sleep kPressToReleaseDelay
  let _ ← adapter (.sendKeypress address .unknown true)
  return true

def powerOnDevice (logicalAddress : UInt8) : WorkerM Bool :=
  ifConnected <| executeWithThrottle do
    let _ ← adapter (.isDeviceActive logicalAddress)
    adapter (.powerOnDevice logicalAddress)

def powerOffDevice (logicalAddress : UInt8) : WorkerM Bool :=
  ifConnected <| executeWithThrottle do
    let _ ← adapter (.isDeviceActive logicalAddress)
    adapter (.standbyDevice logicalAddress)

/-- The address is only logged: volume goes to whatever libcec routes it to. -/
def setVolume (_logicalAddress : UInt8) (up : Bool) : WorkerM Bool :=
  ifConnected <| executeWithThrottle (if up then adapter .volumeUp else adapter .volumeDown)

def setMute (_logicalAddress : UInt8) (_mute : Bool) : WorkerM Bool :=
  ifConnected <| executeWithThrottle (adapter .toggleMute)

/-- One attempt at selecting a source: TV-internal inputs by a function key, HDMI
inputs by stream path with a key-press fallback. -/
def selectSource (source : UInt8) : WorkerM Bool := do
  if source.toNat = 0 then return ← pressThenRelease cecDeviceTv .selectAvInputFunction
  if source.toNat = 1 then return ← pressThenRelease cecDeviceTv .selectAudioInputFunction
  if source.toNat < kFirstHdmiSource ∨ source.toNat > kLastHdmiSource then return false
  if ← adapter (.setStreamPath (hdmiPhysicalAddress source)) then return true
  if !(← adapter (.sendKeypress cecDeviceTv .inputSelect false)) then return false
  sleep kInterPressDelay
  pressThenRelease cecDeviceTv (hdmiNumberKey source)

def setSource (source : UInt8) : WorkerM Bool :=
  ifConnected <| executeWithThrottle (selectSource source)

def sendKey (logicalAddress code : UInt8) : WorkerM Bool :=
  ifConnected <| executeWithThrottle (pressThenRelease logicalAddress (.ofByte code))

/-! ## They catch nothing -/

theorem transparent_ifConnected {body : WorkerM Bool} (h : Transparent body) :
    Transparent (ifConnected body) :=
  (transparent_adapter _).bind fun _ => (exposed_pure _).ite h

theorem transparent_pressThenRelease (address : UInt8) (key : UserControlCode) :
    Transparent (pressThenRelease address key) :=
  (transparent_adapter _).bind fun _ => (exposed_pure _).ite <|
    (exposed_sleep _).bind fun _ => (transparent_adapter _).bind fun _ =>
      exposed_pure _

theorem transparent_powerOnDevice (address : UInt8) : Transparent (powerOnDevice address) :=
  transparent_ifConnected <| transparent_executeWithThrottle <|
    (transparent_adapter _).bind fun _ => transparent_adapter _

theorem transparent_powerOffDevice (address : UInt8) : Transparent (powerOffDevice address) :=
  transparent_ifConnected <| transparent_executeWithThrottle <|
    (transparent_adapter _).bind fun _ => transparent_adapter _

theorem transparent_setVolume (address : UInt8) (up : Bool) :
    Transparent (setVolume address up) :=
  transparent_ifConnected <| transparent_executeWithThrottle <|
    (transparent_adapter _).ite (transparent_adapter _)

theorem transparent_setMute (address : UInt8) (mute : Bool) :
    Transparent (setMute address mute) :=
  transparent_ifConnected <| transparent_executeWithThrottle (transparent_adapter _)

theorem transparent_selectSource (source : UInt8) : Transparent (selectSource source) := by
  unfold selectSource
  refine Exposed.ite (transparent_pressThenRelease _ _) ?_
  refine Exposed.ite (transparent_pressThenRelease _ _) ?_
  refine Exposed.ite (exposed_pure _) ?_
  refine (transparent_adapter _).bind fun _ => Exposed.ite (exposed_pure _) ?_
  refine (transparent_adapter _).bind fun _ => Exposed.ite (exposed_pure _) ?_
  exact (exposed_sleep _).bind fun _ => transparent_pressThenRelease _ _

theorem transparent_setSource (source : UInt8) : Transparent (setSource source) :=
  transparent_ifConnected <| transparent_executeWithThrottle <| transparent_selectSource _

theorem transparent_sendKey (address code : UInt8) : Transparent (sendKey address code) :=
  transparent_ifConnected <| transparent_executeWithThrottle <|
    transparent_pressThenRelease _ _

/-! ## The operations they use -/

/-- What every throttled, connection-checked action uses besides the calls of its own. -/
structure Allowed (P : Op → Prop) : Prop where
  now : P .now
  sleep : ∀ ms, P (.sleep ms)
  isConnected : P (.adapter .isConnected)

section Uses

variable {P : Op → Prop}

/-- A throttled, connection-checked action only uses what the action uses. -/
theorem uses_throttled (hP : Allowed P) {command : WorkerM Bool} (h : Uses P command) :
    Uses P (ifConnected (executeWithThrottle command)) :=
  (uses_adapter hP.isConnected).bind fun _ => (uses_pure _).ite <|
    uses_executeWithThrottle hP.now hP.sleep h

theorem uses_pressThenRelease (hP : Allowed P) {address : UInt8}
    (h : ∀ key release, P (.adapter (.sendKeypress address key release))) (key : UserControlCode) :
    Uses P (pressThenRelease address key) :=
  (uses_adapter (h key false)).bind fun _ => (uses_pure _).ite <|
    (uses_sleep (hP.sleep _)).bind fun _ => (uses_adapter (h .unknown true)).bind fun _ => uses_pure _

theorem uses_powerOnDevice (hP : Allowed P) {address : UInt8}
    (hactive : P (.adapter (.isDeviceActive address)))
    (hpower : P (.adapter (.powerOnDevice address))) : Uses P (powerOnDevice address) :=
  uses_throttled hP <| (uses_adapter hactive).bind fun _ => uses_adapter hpower

theorem uses_powerOffDevice (hP : Allowed P) {address : UInt8}
    (hactive : P (.adapter (.isDeviceActive address)))
    (hpower : P (.adapter (.standbyDevice address))) : Uses P (powerOffDevice address) :=
  uses_throttled hP <| (uses_adapter hactive).bind fun _ => uses_adapter hpower

theorem uses_setVolume (hP : Allowed P) (address : UInt8) {up : Bool}
    (h : P (.adapter (if up then .volumeUp else .volumeDown))) : Uses P (setVolume address up) := by
  apply uses_throttled hP
  cases up <;> exact uses_adapter h

theorem uses_setMute (hP : Allowed P) (address : UInt8) (mute : Bool)
    (h : P (.adapter .toggleMute)) : Uses P (setMute address mute) :=
  uses_throttled hP <| uses_adapter h

theorem uses_selectSource (hP : Allowed P) (source : UInt8)
    (hpath : ∀ physicalAddress, P (.adapter (.setStreamPath physicalAddress)))
    (hpress : ∀ key release, P (.adapter (.sendKeypress cecDeviceTv key release))) :
    Uses P (selectSource source) := by
  unfold selectSource
  refine Uses.ite (uses_pressThenRelease hP hpress _) ?_
  refine Uses.ite (uses_pressThenRelease hP hpress _) ?_
  refine Uses.ite (uses_pure _) ?_
  refine (uses_adapter (hpath _)).bind fun _ => Uses.ite (uses_pure _) ?_
  refine (uses_adapter (hpress _ _)).bind fun _ => Uses.ite (uses_pure _) ?_
  exact (uses_sleep (hP.sleep _)).bind fun _ => uses_pressThenRelease hP hpress _

theorem uses_setSource (hP : Allowed P) (source : UInt8)
    (hpath : ∀ physicalAddress, P (.adapter (.setStreamPath physicalAddress)))
    (hpress : ∀ key release, P (.adapter (.sendKeypress cecDeviceTv key release))) :
    Uses P (setSource source) :=
  uses_throttled hP (uses_selectSource hP source hpath hpress)

theorem uses_sendKey (hP : Allowed P) {address : UInt8} (code : UInt8)
    (h : ∀ key release, P (.adapter (.sendKeypress address key release))) :
    Uses P (sendKey address code) :=
  uses_throttled hP (uses_pressThenRelease hP h _)

end Uses

end Ops

end CecControl
