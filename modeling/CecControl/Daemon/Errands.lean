/-
# What is typed is what is done

A command line asks for an errand: to switch a device on, to press a key on it, to open the adapter
again. On its way there it is read by the client, packed into a datagram, read by the daemon, looked
up in a table, run by a handler under a throttle, and retried. What arrives on the adapter is the
errand that was asked for: attempts at it and nothing else, none after one that succeeds, and as
many as are allowed if none does; and the reply says whether one did.

An attempt is described by the calls it makes on the adapter and their outcomes. Readings of the
connection flag are left out of it, and so are the clock and the sleeps of the throttle.
-/

import CecControl.Cec.KeyRelease
import CecControl.Common.CommandLine
import CecControl.Daemon.ClientAgreement
import CecControl.Daemon.RejectedPayloads

namespace CecControl

open WorkerM CommandThrottler Ops

/-- What a user can ask for. -/
inductive Errand
  | power (on : Bool) (device : UInt8)
  | volume (up : Bool)
  | mute
  | source (input : UInt8)
  | key (code device : UInt8)
  | restart
  | autoStandby (on : Bool)
  | suspend
  | resume
  deriving DecidableEq, Repr

namespace Errand

/-- What the arguments of a command ask for, by the type that heads its row of the registry. The
volume is changed wherever the audio is, whatever the device that is named. -/
inductive Asks : MessageType → List Argument → Errand → Prop
  | powerOn (id : UInt8) : Asks .cmdPowerOn [.word "on".toList, .number id] (.power true id)
  | powerOff (id : UInt8) : Asks .cmdPowerOn [.word "off".toList, .number id] (.power false id)
  | volumeUp (id : UInt8) : Asks .cmdVolumeUp [.word "up".toList, .number id] (.volume true)
  | volumeDown (id : UInt8) : Asks .cmdVolumeUp [.word "down".toList, .number id] (.volume false)
  | volumeMute (id : UInt8) : Asks .cmdVolumeUp [.word "mute".toList, .number id] .mute
  | source (id source : UInt8) : Asks .cmdChangeSource [.number id, .number source] (.source source)
  | key (code : UInt8) : Asks .cmdKey [.key code] (.key code 0)
  | keyFor (code id : UInt8) : Asks .cmdKey [.key code, .number id] (.key code id)
  | standbyOn : Asks .cmdAutoStandby [.word "on".toList] (.autoStandby true)
  | standbyOff : Asks .cmdAutoStandby [.word "off".toList] (.autoStandby false)
  | restart : Asks .cmdRestartAdapter [] .restart
  | suspend : Asks .cmdSuspend [] .suspend
  | resume : Asks .cmdResume [] .resume

/-! ## Attempts -/

/-- Calls on the adapter, with their outcomes. -/
abbrev Calls := List (AdapterCall × Outcome)

/-- A key is pressed, and released once the press has been accepted; whether the release is
accepted does not matter. -/
inductive Stroke (device : UInt8) (key : UserControlCode) : Calls → Outcome → Prop
  | refused {outcome : Outcome} (h : outcome ≠ .ok true) :
      Stroke device key [(.sendKeypress device key false, outcome)] outcome
  | made (released : Outcome) :
      Stroke device key
        [(.sendKeypress device key false, .ok true), (.sendKeypress device .unknown true, released)]
        (released.map fun _ => true)

/-- The keys for the inputs a TV has of its own, and for its HDMI ports. -/
def internalKeys : List UserControlCode := [.selectAvInputFunction, .selectAudioInputFunction]

def portKeys : List UserControlCode := [.number1, .number2, .number3, .number4]

/-- One attempt, and what it comes to. -/
inductive Attempt : Errand → Calls → Outcome → Prop
  | power (on : Bool) (device : UInt8) (active : Bool) (outcome : Outcome) :
      Attempt (.power on device)
        [(.isDeviceActive device, .ok active),
          (if on then .powerOnDevice device else .standbyDevice device, outcome)] outcome
  /-- Asking for the state of the device has thrown. -/
  | unknown (on : Bool) (device : UInt8) (e : Exn) :
      Attempt (.power on device) [(.isDeviceActive device, .error e)] (.error e)
  | volume (up : Bool) (outcome : Outcome) :
      Attempt (.volume up) [(if up then .volumeUp else .volumeDown, outcome)] outcome
  | mute (outcome : Outcome) : Attempt .mute [(.toggleMute, outcome)] outcome
  | internal {input : UInt8} {key : UserControlCode} {calls : Calls} {outcome : Outcome}
      (hkey : internalKeys[input.toNat]? = some key)
      (hstroke : Stroke cecDeviceTv key calls outcome) : Attempt (.source input) calls outcome
  /-- The TV follows the stream path to the port, or the attempt to set it throws. -/
  | path {input : UInt8} {port : ℕ} {outcome : Outcome} (hinput : input.toNat = port + 2)
      (hport : port < portKeys.length) (h : outcome ≠ .ok false) :
      Attempt (.source input) [(.setStreamPath ((port + 1) * 0x1000), outcome)] outcome
  /-- The TV does not, and INPUT_SELECT is not accepted. -/
  | menu {input : UInt8} {port : ℕ} {outcome : Outcome} (hinput : input.toNat = port + 2)
      (hport : port < portKeys.length) (h : outcome ≠ .ok true) :
      Attempt (.source input)
        [(.setStreamPath ((port + 1) * 0x1000), .ok false),
          (.sendKeypress cecDeviceTv .inputSelect false, outcome)] outcome
  /-- After INPUT_SELECT, the number of the port. -/
  | number {input : UInt8} {port : ℕ} {key : UserControlCode} {calls : Calls} {outcome : Outcome}
      (hinput : input.toNat = port + 2) (hkey : portKeys[port]? = some key)
      (hstroke : Stroke cecDeviceTv key calls outcome) :
      Attempt (.source input)
        ((.setStreamPath ((port + 1) * 0x1000), .ok false) ::
          (.sendKeypress cecDeviceTv .inputSelect false, .ok true) :: calls) outcome
  /-- There is no such input. -/
  | noInput {input : UInt8} (h : 5 < input.toNat) : Attempt (.source input) [] (.ok false)
  | key {code device : UInt8} {calls : Calls} {outcome : Outcome}
      (hstroke : Stroke device (.ofByte code) calls outcome) :
      Attempt (.key code device) calls outcome
  | restart (outcome : Outcome) : Attempt .restart [(.reopenConnection, outcome)] outcome

/-- At most so many attempts, up to the first that succeeds or throws. -/
inductive Tries (errand : Errand) : ℕ → Calls → Outcome → Prop
  | givenUp : Tries errand 0 [] (.ok false)
  | last {tries : ℕ} {calls : Calls} {outcome : Outcome} (hattempt : Attempt errand calls outcome)
      (h : outcome ≠ .ok false) : Tries errand (tries + 1) calls outcome
  | again {tries : ℕ} {calls rest : Calls} {outcome : Outcome}
      (hattempt : Attempt errand calls (.ok false)) (hrest : Tries errand tries rest outcome) :
      Tries errand (tries + 1) (calls ++ rest) outcome

/-- A restart is not retried. -/
def tries (errand : Errand) (config : ThrottlerConfig) : ℕ :=
  if errand = .restart then 1 else config.maxRetryAttempts

/-- A call, if it is one on the adapter. -/
def callOf : (op : Op) × op.Ans → Option (AdapterCall × Outcome)
  | ⟨.adapter .isConnected, _⟩ => none
  | ⟨.adapter c, outcome⟩ => some (c, outcome)
  | _ => none

def callsOf (trace : Trace) : Calls := trace.filterMap callOf

/-- The connection is not read, or found up. -/
def Connected (trace : Trace) : Prop := ∀ step ∈ trace, answersConnected step = true

/-- The errand is tried, unless the connection is found down, or reading it throws. -/
def CarriedOut (errand : Errand) (config : ThrottlerConfig) (trace : Trace) (result : Outcome) :
    Prop :=
  Connected trace ∧ Tries errand (errand.tries config) (callsOf trace) result ∨
    ¬ Connected trace ∧ callsOf trace = [] ∧ result ≠ .ok true

/-! ## One attempt -/

variable {errand : Errand} {t t' : CommandThrottler} {trace : Trace} {outcome : Outcome}

@[simp]
theorem callsOf_nil : callsOf [] = [] := rfl

@[simp]
theorem callsOf_append (first rest : Trace) :
    callsOf (first ++ rest) = callsOf first ++ callsOf rest := List.filterMap_append

@[simp]
theorem connected_nil : Connected [] := by simp [Connected]

theorem connected_cons {step : (op : Op) × op.Ans} :
    Connected (step :: trace) ↔ answersConnected step = true ∧ Connected trace :=
  List.forall_mem_cons

theorem connected_append {first rest : Trace} :
    Connected (first ++ rest) ↔ Connected first ∧ Connected rest := List.forall_mem_append

/-- A run of `command` is an attempt at the errand. -/
def Does (command : WorkerM Bool) (Attempt : Calls → Outcome → Prop) : Prop :=
  ∀ {t trace outcome t'}, Runs command t trace outcome t' →
    Connected trace ∧ Attempt (callsOf trace) outcome

theorem does_adapter {c : AdapterCall} (hc : c ≠ .isConnected)
    (h : ∀ outcome, Attempt errand [(c, outcome)] outcome) : Does (adapter c) (Attempt errand) := by
  intro t trace outcome t' hruns
  obtain ⟨rfl, rfl⟩ := runs_adapter.mp hruns
  cases c with
  | isConnected => exact absurd rfl hc
  | _ => exact ⟨by simp [Connected, answersConnected], h outcome⟩

theorem does_pressThenRelease (device : UInt8) (key : UserControlCode) :
    Does (pressThenRelease device key) (Stroke device key) := by
  intro t trace outcome t' hruns
  obtain ⟨pressed, rest, rfl, hruns⟩ := hruns
  rcases pressed with e | _ | _
  · obtain ⟨rfl, hresult⟩ := hruns
    cases hresult
    exact ⟨by simp [Connected, answersConnected], .refused (by simp)⟩
  · obtain ⟨rfl, hresult⟩ := hruns
    cases hresult
    exact ⟨by simp [Connected, answersConnected], .refused (by simp)⟩
  · obtain ⟨_, rest, rfl, released, rest, rfl, hruns⟩ := hruns
    rcases released with e | released
    · obtain ⟨rfl, hresult⟩ := hruns
      cases hresult
      exact ⟨by simp [Connected, answersConnected], .made (.error e)⟩
    · obtain ⟨rfl, hresult⟩ := hruns
      cases hresult
      exact ⟨by simp [Connected, answersConnected], .made (.ok released)⟩

/-- A device is asked for its state, whatever it says, before it is switched. -/
theorem does_power (on : Bool) (device : UInt8) :
    Does (do
      let _ ← adapter (.isDeviceActive device)
      adapter (if on then .powerOnDevice device else .standbyDevice device))
      (Attempt (.power on device)) := by
  intro t trace outcome t' hruns
  obtain ⟨active, rest, rfl, hruns⟩ := hruns
  rcases active with e | active
  · obtain ⟨rfl, hresult⟩ := hruns
    cases hresult
    exact ⟨by simp [Connected, answersConnected], .unknown on device e⟩
  · obtain ⟨rfl, rfl⟩ := runs_adapter.mp hruns
    refine ⟨?_, ?_⟩
    · cases on <;> simp [Connected, answersConnected]
    · cases on
      · exact .power false device active outcome
      · exact .power true device active outcome

/-- Sources two to five are the four ports. -/
theorem exists_port {input : UInt8} (h : ¬ (input.toNat < kFirstHdmiSource ∨ input.toNat > kLastHdmiSource)) :
    ∃ port key, input.toNat = port + 2 ∧ portKeys[port]? = some key ∧
      hdmiPhysicalAddress input = (port + 1) * 0x1000 ∧ hdmiNumberKey input = key := by
  have hcases : input.toNat = 2 ∨ input.toNat = 3 ∨ input.toNat = 4 ∨ input.toNat = 5 := by
    simp only [kFirstHdmiSource, kLastHdmiSource] at h
    omega
  rcases hcases with hinput | hinput | hinput | hinput
  · exact ⟨0, .number1, hinput, rfl, by simp [hdmiPhysicalAddress, hinput, kFirstHdmiSource],
      by simp [hdmiNumberKey, hinput]⟩
  · exact ⟨1, .number2, hinput, rfl, by simp [hdmiPhysicalAddress, hinput, kFirstHdmiSource],
      by simp [hdmiNumberKey, hinput]⟩
  · exact ⟨2, .number3, hinput, rfl, by simp [hdmiPhysicalAddress, hinput, kFirstHdmiSource],
      by simp [hdmiNumberKey, hinput]⟩
  · exact ⟨3, .number4, hinput, rfl, by simp [hdmiPhysicalAddress, hinput, kFirstHdmiSource],
      by simp [hdmiNumberKey, hinput]⟩

theorem does_selectSource (input : UInt8) : Does (selectSource input) (Attempt (.source input)) := by
  intro t trace outcome t' hruns
  unfold selectSource at hruns
  split_ifs at hruns with hav haudio hother
  · obtain ⟨hconnected, hstroke⟩ := does_pressThenRelease _ _ hruns
    exact ⟨hconnected, .internal (by simp [internalKeys, hav]) hstroke⟩
  · obtain ⟨hconnected, hstroke⟩ := does_pressThenRelease _ _ hruns
    exact ⟨hconnected, .internal (by simp [internalKeys, haudio]) hstroke⟩
  · obtain ⟨rfl, hresult⟩ := hruns
    cases hresult
    refine ⟨connected_nil, .noInput ?_⟩
    simp only [kFirstHdmiSource, kLastHdmiSource] at hother
    omega
  · obtain ⟨port, key, hinput, hkey, haddress, hnumber⟩ := exists_port hother
    have hport : port < portKeys.length := (List.getElem?_eq_some_iff.mp hkey).1
    rw [haddress, hnumber] at hruns
    obtain ⟨path, rest, rfl, hruns⟩ := hruns
    rcases path with e | _ | _
    · obtain ⟨rfl, hresult⟩ := hruns
      cases hresult
      exact ⟨by simp [Connected, answersConnected], .path hinput hport (by simp)⟩
    · obtain ⟨select, rest, rfl, hruns⟩ := hruns
      rcases select with e | _ | _
      · obtain ⟨rfl, hresult⟩ := hruns
        cases hresult
        exact ⟨by simp [Connected, answersConnected], .menu hinput hport (by simp)⟩
      · obtain ⟨rfl, hresult⟩ := hruns
        cases hresult
        exact ⟨by simp [Connected, answersConnected], .menu hinput hport (by simp)⟩
      · obtain ⟨_, rest, rfl, hruns⟩ := hruns
        obtain ⟨hconnected, hstroke⟩ := does_pressThenRelease _ _ hruns
        refine ⟨?_, .number hinput hkey hstroke⟩
        simpa [connected_cons, answersConnected] using hconnected
    · obtain ⟨rfl, hresult⟩ := hruns
      cases hresult
      exact ⟨by simp [Connected, answersConnected], .path hinput hport (by simp)⟩

/-! ## The retry loop -/

theorem callsOf_reservation (t : CommandThrottler) (now : ℕ) :
    callsOf (t.reservation now) = [] ∧ Connected (t.reservation now) := by
  unfold reservation
  split <;> exact ⟨rfl, by simp [Connected, answersConnected]⟩

/-- **Step to run.** A loop over attempts is as many tries. -/
theorem tries_of_runs_attempts {command : WorkerM Bool} (hdoes : Does command (Attempt errand))
    {remaining attempt : ℕ} (h : Runs (attempts command remaining attempt) t trace outcome t') :
    Connected trace ∧ Tries errand remaining (callsOf trace) outcome := by
  induction remaining generalizing t trace attempt with
  | zero =>
      obtain ⟨rfl, rfl, -⟩ := runs_attempts_zero.mp h
      exact ⟨connected_nil, .givenUp⟩
  | succ remaining ih =>
      obtain ⟨now, body, result, between, rest, rfl, hbody, hrest⟩ := runs_attempts_succ.mp h
      obtain ⟨hnone, hreserved⟩ := callsOf_reservation t now
      obtain ⟨hconnected, hattempt⟩ := hdoes hbody
      simp only [callsOf_append, connected_append, hnone, List.nil_append]
      rcases result with e | _ | _
      · obtain ⟨rfl, rfl, -⟩ := hrest
        refine ⟨⟨hreserved, hconnected, connected_nil⟩, ?_⟩
        simpa using Tries.last hattempt (by simp)
      · obtain ⟨rest, rfl, hrest⟩ := hrest
        obtain ⟨hlater, htries⟩ := ih hrest
        refine ⟨⟨hreserved, hconnected, ?_⟩, .again hattempt htries⟩
        exact connected_cons.mpr ⟨rfl, hlater⟩
      · obtain ⟨rfl, rfl, -⟩ := hrest
        refine ⟨⟨hreserved, hconnected, connected_nil⟩, ?_⟩
        simpa using Tries.last hattempt (by simp)

/-- The connection is checked before the loop. -/
theorem carriedOut_of_throttled {command : WorkerM Bool} (hdoes : Does command (Attempt errand))
    (hretried : errand ≠ .restart)
    (h : Runs (ifConnected (executeWithThrottle command)) t trace outcome t') :
    errand.CarriedOut t.config trace outcome := by
  obtain ⟨connected, rest, rfl, h⟩ := h
  rcases connected with e | _ | _
  · obtain ⟨rfl, hresult⟩ := h
    cases hresult
    exact .inr ⟨by simp [Connected, answersConnected], rfl, by simp⟩
  · obtain ⟨rfl, hresult⟩ := h
    cases hresult
    exact .inr ⟨by simp [Connected, answersConnected], rfl, by simp⟩
  · obtain ⟨hconnected, htries⟩ := tries_of_runs_attempts hdoes (runs_executeWithThrottle.mp h)
    refine .inl ⟨connected_cons.mpr ⟨rfl, hconnected⟩, ?_⟩
    rw [tries, if_neg hretried]
    exact htries

/-! ## The worker's side -/

/-- A handler's value as a response. -/
def respond (ok : Bool) : Message := if ok then Daemon.respSuccess else Daemon.respError

theorem CarriedOut.cons {config : ThrottlerConfig} {result : Outcome}
    (h : errand.CarriedOut config trace result) :
    errand.CarriedOut config (⟨.adapter .isConnected, (.ok true : Outcome)⟩ :: trace) result := by
  have hconnected : Connected (⟨.adapter .isConnected, (.ok true : Outcome)⟩ :: trace) ↔
      Connected trace := by simp [connected_cons, answersConnected]
  exact h.imp (fun h => ⟨hconnected.mpr h.1, h.2⟩) fun h => ⟨mt hconnected.mp h.1, h.2⟩

theorem carriedOut_of_gated {m : Message} {handler : AdapterHandler}
    (hrun : ∀ {t trace outcome t'}, Runs (handler.run m) t trace outcome t' →
      errand.CarriedOut t.config trace outcome)
    {response : Except Exn Message} (h : Runs (gated handler m) t trace response t') :
    ∃ result, errand.CarriedOut t.config trace result ∧ response = result.map respond := by
  obtain ⟨answer, rest, rfl, h⟩ := h
  rcases answer with e | _ | _
  · obtain ⟨rfl, hresult⟩ := h
    cases hresult
    exact ⟨.error e, .inr ⟨by simp [Connected, answersConnected], rfl, by simp⟩, rfl⟩
  · obtain ⟨rfl, hresult⟩ := h
    cases hresult
    exact ⟨.ok false, .inr ⟨by simp [Connected, answersConnected], rfl, by simp⟩, rfl⟩
  · obtain ⟨result, hhandled, rfl⟩ := runs_respond.mp h
    exact ⟨result, (hrun hhandled).cons, rfl⟩

/-- What is thrown as a `std::exception` is answered with an error. -/
theorem reported_of_guarded {body : WorkerM Message} {response : Except Exn Message}
    (h : Runs (catchStd body (pure Daemon.respError)) t trace response t')
    (Done : Trace → Outcome → Prop)
    (hbody : ∀ {trace response t'}, Runs body t trace response t' →
      ∃ result, Done trace result ∧ response = result.map respond) :
    ∃ result, Done trace result ∧ response = reported result := by
  rcases runs_catchStd.mp h with ⟨hne, hruns⟩ | ⟨first, rest, between, rfl, hruns, hrest⟩
  · obtain ⟨result, hdone, rfl⟩ := hbody hruns
    refine ⟨result, hdone, ?_⟩
    rcases result with (_ | _) | (_ | _)
    · exact absurd rfl hne
    all_goals rfl
  · obtain ⟨rfl, rfl, rfl⟩ := runs_pure.mp hrest
    obtain ⟨result, hdone, heq⟩ := hbody hruns
    rw [List.append_nil]
    refine ⟨result, hdone, ?_⟩
    rcases result with e | ok
    · cases heq
      rfl
    · cases heq

/-- The row of an errand: how commands for it are handled. -/
structure IsRow (errand : Errand) (m : Message) (row : DispatchSpec) : Prop where
  find : findDispatchByType m.type = some row
  adapterCall : row.dispatch = .adapterCall
  body : ∀ {t trace response t'}, Runs (executeOnAdapter m row) t trace response t' →
    ∃ result, errand.CarriedOut t.config trace result ∧ response = reported result

theorem isRow_of_throttled {m : Message} {row : DispatchSpec} {handler : AdapterHandler}
    {command : WorkerM Bool} (hfind : findDispatchByType m.type = some row)
    (hcall : row.dispatch = .adapterCall) (hgate : row.requiresAdapterConnection = true)
    (hspec : row.adapterHandler = some handler)
    (hhandler : handler.run m = ifConnected (executeWithThrottle command))
    (hdoes : Does command (Attempt errand)) (hretried : errand ≠ .restart) : IsRow errand m row where
  find := hfind
  adapterCall := hcall
  body h := by
    rw [executeOnAdapter_eq_gated hgate hspec] at h
    refine reported_of_guarded h _ fun hbody => carriedOut_of_gated (fun hruns => ?_) hbody
    rw [hhandler] at hruns
    exact carriedOut_of_throttled hdoes hretried hruns

/-- A restart is one call, and nothing is read before it. -/
theorem isRow_restart : IsRow .restart ⟨.cmdRestartAdapter, 0, []⟩
    ⟨.cmdRestartAdapter, .adapterCall, false, false, some .restartAdapter⟩ where
  find := rfl
  adapterCall := rfl
  body {t trace response t'} h := by
    have hbody : executeOnAdapter ⟨.cmdRestartAdapter, 0, []⟩
        ⟨.cmdRestartAdapter, .adapterCall, false, false, some .restartAdapter⟩ =
        catchStd (do
          if ← AdapterHandler.restartAdapter.run ⟨.cmdRestartAdapter, 0, []⟩ then
            return Daemon.respSuccess
          return Daemon.respError) (pure Daemon.respError) := by
      simp [executeOnAdapter, Daemon.respError, Daemon.respSuccess]
    rw [hbody] at h
    refine reported_of_guarded h (Errand.restart.CarriedOut t.config) fun hruns => ?_
    obtain ⟨result, hreopened, rfl⟩ := runs_respond.mp hruns
    obtain ⟨hconnected, hattempt⟩ := does_adapter (by simp) .restart hreopened
    have hone : Errand.restart.tries t.config = 1 := if_pos rfl
    refine ⟨result, .inl ⟨hconnected, ?_⟩, rfl⟩
    rw [hone]
    by_cases hfailed : result = .ok false
    · subst hfailed
      simpa using Tries.again hattempt .givenUp
    · exact .last hattempt hfailed

/-! ## The jobs of an errand -/

theorem runs_bind_pure {α β : Type} {m : WorkerM α} {f : α → β} {result : Except Exn β} :
    Runs (m >>= fun value => pure (f value)) t trace result t' ↔
      ∃ value, Runs m t trace value t' ∧ result = value.map f := by
  rw [runs_bind]
  constructor
  · rintro (⟨e, rfl, h⟩ | ⟨value, first, rest, between, rfl, h, hrest⟩)
    · exact ⟨.error e, h, rfl⟩
    · obtain ⟨rfl, rfl, rfl⟩ := runs_pure.mp hrest
      exact ⟨.ok value, by simpa using h, rfl⟩
  · rintro ⟨e | value, h, rfl⟩
    · exact .inl ⟨e, rfl, h⟩
    · exact .inr ⟨value, trace, [], t', by simp, h, by simp [Except.map]⟩

/-- Which errands wait for the end of a suspension. -/
def queueable : Errand → Bool
  | .power _ _ | .volume _ | .mute => true
  | _ => false

/-- A command for the adapter is submitted to the worker; while the adapter is suspended it is
parked and answered with success, or turned down. -/
def takenUp (errand : Errand) (d : Daemon) (m : Message) (row : DispatchSpec) : Daemon :=
  let command : Command := ⟨d.requests, m⟩
  if d.suspended then
    if d.queueCommandsDuringSuspend && errand.queueable then
      ((d.enqueue command).emit (.accepted command true)).answer Daemon.respSuccess
    else d.answer Daemon.respError
  else { d.submitAdapterWork command row with requests := d.requests + 1 }

/-- The job of a live command answers it, and that of a replayed one answers nothing; both carry
the errand out. -/
structure OnAdapter (errand : Errand) (m : Message) (row : DispatchSpec) : Prop where
  receive : ∀ d : Daemon, d.dispatcherShutdown = false → d.receive m = errand.takenUp d m row
  live : ∀ id t trace result t', Runs (Job.live ⟨id, m⟩ row).body t trace result t' →
    ∃ outcome, errand.CarriedOut t.config trace outcome ∧
      result = (reported outcome).map fun response => some (.reply id response)
  replay : ∀ id t trace result t', Runs (Job.replay ⟨id, m⟩ row).body t trace result t' →
    ∃ outcome, errand.CarriedOut t.config trace outcome ∧
      result = (reported outcome).map fun _ => none

theorem IsRow.onAdapter {m : Message} {row : DispatchSpec} (h : IsRow errand m row)
    (hqueue : row.queueableWhileSuspended = errand.queueable) : OnAdapter errand m row where
  receive d hopen := by
    have hown : row.dispatch ≠ .supervisorIntercepted := by simp [h.adapterCall]
    unfold Daemon.receive Daemon.handleCommand Daemon.dispatch takenUp
    simp only [h.find, h.adapterCall, hopen]
    by_cases hsuspended : d.suspended = true
    · simp only [hsuspended, Daemon.handleSuspendedInline, hqueue]
      split_ifs <;> simp_all
    · simp only [hsuspended]
      rfl
  live id t trace result t' hruns := by
    obtain ⟨response, hbody, rfl⟩ := runs_bind_pure.mp hruns
    obtain ⟨outcome, hdone, rfl⟩ := h.body hbody
    exact ⟨outcome, hdone, rfl⟩
  replay id t trace result t' hruns := by
    obtain ⟨response, hbody, rfl⟩ := runs_bind_pure.mp hruns
    obtain ⟨outcome, hdone, rfl⟩ := h.body hbody
    exact ⟨outcome, hdone, rfl⟩

/-! ## What becomes of a message -/

/-- The errand is carried out on the adapter, or on the spot. -/
def Done (errand : Errand) (m : Message) : Prop :=
  match errand with
  | .autoStandby on => ∀ d : Daemon, d.dispatcherShutdown = false →
      d.receive m =
        if d.suspended then d.answer Daemon.respError
        else { d with standbyEnabled := on }.answer Daemon.respSuccess
  | .suspend => ∀ d : Daemon, d.receive m = (d.onSuspendRequested .wire).answer Daemon.respSuccess
  | .resume => ∀ d : Daemon, d.receive m = (d.onResumeRequested .wire).answer Daemon.respSuccess
  | errand => ∃ row, OnAdapter errand m row

theorem done_autoStandby (on : Bool) :
    Done (.autoStandby on) ⟨.cmdAutoStandby, 0, [if on then 1 else 0]⟩ := by
  intro d hopen
  have hfind : findDispatchByType .cmdAutoStandby =
      some ⟨.cmdAutoStandby, .stateOnly, false, false, none⟩ := rfl
  unfold Daemon.receive Daemon.handleCommand Daemon.dispatch
  simp only [hfind, hopen]
  by_cases hsuspended : d.suspended = true
  · simp [hsuspended, Daemon.handleSuspendedInline]
  · cases on <;> simp [hsuspended, hopen, Daemon.applyStandby]

theorem done_power (on : Bool) (device : UInt8) :
    Done (.power on device) ⟨if on then .cmdPowerOn else .cmdPowerOff, device, []⟩ := by
  cases on with
  | true =>
      refine ⟨⟨.cmdPowerOn, .adapterCall, true, true, some .powerOn⟩, IsRow.onAdapter ?_ rfl⟩
      exact isRow_of_throttled rfl rfl rfl rfl rfl (does_power true device) (by simp)
  | false =>
      refine ⟨⟨.cmdPowerOff, .adapterCall, true, true, some .powerOff⟩, IsRow.onAdapter ?_ rfl⟩
      exact isRow_of_throttled rfl rfl rfl rfl rfl (does_power false device) (by simp)

theorem done_volume (up : Bool) (device : UInt8) :
    Done (.volume up) ⟨if up then .cmdVolumeUp else .cmdVolumeDown, device, []⟩ := by
  cases up with
  | true =>
      refine ⟨⟨.cmdVolumeUp, .adapterCall, true, true, some .volumeUp⟩, IsRow.onAdapter ?_ rfl⟩
      exact isRow_of_throttled rfl rfl rfl rfl rfl (does_adapter (by simp) (.volume true)) (by simp)
  | false =>
      refine ⟨⟨.cmdVolumeDown, .adapterCall, true, true, some .volumeDown⟩, IsRow.onAdapter ?_ rfl⟩
      exact isRow_of_throttled rfl rfl rfl rfl rfl (does_adapter (by simp) (.volume false)) (by simp)

theorem done_mute (device : UInt8) : Done .mute ⟨.cmdVolumeMute, device, []⟩ := by
  refine ⟨⟨.cmdVolumeMute, .adapterCall, true, true, some .volumeMute⟩, IsRow.onAdapter ?_ rfl⟩
  exact isRow_of_throttled rfl rfl rfl rfl rfl (does_adapter (by simp) .mute) (by simp)

theorem done_source (input device : UInt8) :
    Done (.source input) ⟨.cmdChangeSource, device, [input]⟩ := by
  refine ⟨⟨.cmdChangeSource, .adapterCall, false, true, some .changeSource⟩,
    IsRow.onAdapter ?_ rfl⟩
  exact isRow_of_throttled rfl rfl rfl rfl rfl (does_selectSource input) (by simp)

theorem done_key {code : UInt8} (hknown : findKeyByCode code ≠ none) (device : UInt8) :
    Done (.key code device) ⟨.cmdKey, device, [code]⟩ := by
  refine ⟨⟨.cmdKey, .adapterCall, false, true, some .key⟩, IsRow.onAdapter ?_ rfl⟩
  have hhandler : AdapterHandler.key.run ⟨.cmdKey, device, [code]⟩ =
      ifConnected (executeWithThrottle (pressThenRelease device (.ofByte code))) := by
    simp [AdapterHandler.run, handleKey, hknown, sendKey]
  refine isRow_of_throttled rfl rfl rfl rfl hhandler (fun hruns => ?_) (by simp)
  obtain ⟨hconnected, hstroke⟩ := does_pressThenRelease _ _ hruns
  exact ⟨hconnected, .key hstroke⟩

/-- What arguments denote as a message they ask for as an errand. -/
theorem exists_done {type : MessageType} {arguments : List Argument} {m : Message}
    (h : Denotes type arguments m) (hbuilt : m.Built) :
    ∃ errand, Asks type arguments errand ∧ Done errand m := by
  have hkey {code id : UInt8} (hm : m = ⟨.cmdKey, id, [code]⟩) : findKeyByCode code ≠ none := by
    have hpayload := hbuilt.payload
    simp only [Message.PayloadFits, hm] at hpayload
    obtain ⟨other, rest, heq, hknown⟩ := hpayload
    cases heq
    exact hknown
  cases h with
  | powerOn id => exact ⟨_, .powerOn id, done_power true id⟩
  | powerOff id => exact ⟨_, .powerOff id, done_power false id⟩
  | volumeUp id => exact ⟨_, .volumeUp id, done_volume true id⟩
  | volumeDown id => exact ⟨_, .volumeDown id, done_volume false id⟩
  | volumeMute id => exact ⟨_, .volumeMute id, done_mute id⟩
  | source id source => exact ⟨_, .source id source, done_source source id⟩
  | key code => exact ⟨_, .key code, done_key (hkey rfl) 0⟩
  | keyFor code id => exact ⟨_, .keyFor code id, done_key (hkey rfl) id⟩
  | standbyOn => exact ⟨_, .standbyOn, done_autoStandby true⟩
  | standbyOff => exact ⟨_, .standbyOff, done_autoStandby false⟩
  | restart => exact ⟨_, .restart, _, isRow_restart.onAdapter rfl⟩
  | suspend => exact ⟨_, .suspend, fun d => rfl⟩
  | resume => exact ⟨_, .resume, fun d => rfl⟩

/-- A client is run for a command of the registry, with tokens its syntax accepts. -/
theorem accepts_of_runClient {argv : List Text} {m : Message} {socketPath : Text}
    (h : ArgumentParser.parse argv = .runClient m socketPath) :
    ∃ program first args spec, argv = program :: first :: args ∧ findByName first = some spec ∧
      spec ∈ kCommands ∧ Accepts spec (ArgumentParser.positionals args) m := by
  obtain ⟨program, first, args, rfl⟩ : ∃ program first args, argv = program :: first :: args := by
    rcases argv with _ | ⟨program, _ | ⟨first, args⟩⟩
    · cases h
    · cases h
    · exact ⟨program, first, args, rfl⟩
  cases hfirst : findByName first with
  | some spec =>
      have haccepts := (((ArgumentParser.command_line_accepted_iff hfirst program args).1 m
        socketPath).mp h).2
      exact ⟨program, first, args, spec, rfl, hfirst, List.mem_of_find?_eq_some hfirst, haccepts⟩
  | none =>
      simp only [ArgumentParser.parse, hfirst] at h
      split_ifs at h
      · split at h <;> cases h
      · exact (ArgumentParser.parseDaemonOptions_ne_runClient _ _ _ _ _ _ h).elim
      · split at h <;> cases h

end Errand

/-- **What is typed is what is done.** Whatever the command line of a client that is run: its
tokens match the syntax of a command and ask for an errand, the datagram is read back as the message
that was sent, and what the daemon does with the message is the errand. -/
theorem typed_is_done {argv : List Text} {m : Message} {socketPath : Text}
    (h : ArgumentParser.parse argv = .runClient m socketPath) :
    ∃ program first args spec arguments errand, argv = program :: first :: args ∧
      findByName first = some spec ∧
      Matches (readSyntax spec.argSyntax) (ArgumentParser.positionals args) arguments ∧
      Errand.Asks spec.type arguments errand ∧
      Message.deserialize m.serialize = some m ∧ errand.Done m := by
  obtain ⟨program, first, args, spec, hargv, hfirst, hspec, arguments, hmatches, hdenotes⟩ :=
    Errand.accepts_of_runClient h
  have hbuilt : m.Built :=
    built_of_mem_kCommands hspec ((parse_iff_accepts hspec).mpr ⟨arguments, hmatches, hdenotes⟩)
  obtain ⟨errand, hasks, hdone⟩ := Errand.exists_done hdenotes hbuilt
  exact ⟨program, first, args, spec, arguments, errand, hargv, hfirst, hmatches, hasks,
    hbuilt.agreed.decoded, hdone⟩

/-- A key for the audio system. -/
theorem typed_is_done_key :
    ∃ program first args spec arguments errand,
      ["cec-control", "key", "red", "5"].map String.toList = program :: first :: args ∧
      findByName first = some spec ∧
      Matches (readSyntax spec.argSyntax) (ArgumentParser.positionals args) arguments ∧
      Errand.Asks spec.type arguments errand ∧
      Message.deserialize (Message.serialize ⟨.cmdKey, 5, [0x72]⟩) = some ⟨.cmdKey, 5, [0x72]⟩ ∧
      errand.Done ⟨.cmdKey, 5, [0x72]⟩ := by
  have hparse : ArgumentParser.parse (["cec-control", "key", "red", "5"].map String.toList) =
      .runClient ⟨.cmdKey, 5, [0x72]⟩ [] := by decide
  exact typed_is_done hparse

end CecControl
