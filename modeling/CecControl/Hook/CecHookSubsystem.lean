/-
# Scripts run on bus events

The hook subsystem turns observations into runs of user scripts. What the TV reports
about its power fires on the spot, unless it is what fired last. A change of the active
source is held back until the bus has been quiet for a while: each observation replaces
the pending address and sets the debounce timer again, and when the timer fires the
pending address is committed. If the timer cannot be set, the address is committed at
once.

Every fire tells its script the value of the fire before it. `Linked` says what it means
for such a record to be in order, over values of any kind.
-/

import CecControl.Cec.Observations
import CecControl.Common.Timers
import CecControl.Lib.Machine

namespace CecControl

open Lib

/-! ## Records of changes -/

section Linked

variable {β : Type}

/-- A record of changes that leads from one value to another: each entry is a new value and
the value before it, and no entry repeats the value before it. -/
def Linked : β → List (β × β) → β → Prop
  | first, [], last => first = last
  | first, (value, previous) :: rest, last =>
      previous = first ∧ value ≠ first ∧ Linked value rest last

/-- A record goes on with a value that is not its last. -/
theorem Linked.append {first last value : β} {record : List (β × β)}
    (h : Linked first record last) (hne : value ≠ last) :
    Linked first (record ++ [(value, last)]) value := by
  induction record generalizing first with
  | nil =>
      obtain rfl : first = last := h
      exact ⟨rfl, hne, rfl⟩
  | cons entry record ih =>
      obtain ⟨hprevious, hchanged, hrest⟩ := h
      exact ⟨hprevious, hchanged, ih hrest⟩

end Linked

/-! ## The subsystem -/

structure HooksConfig where
  inputSwitch : String := ""
  tvStandby : String := ""
  tvWake : String := ""
  hostActivated : String := ""
  hostDeactivated : String := ""

/-- What the daemon knows of its own process. -/
structure ProcessInfo where
  getenv : String → Option String := fun _ => none
  pid : ℕ := 1

/-- Milliseconds of `kDebounceWindow`. -/
def kDebounceWindow : ℕ := 200

inductive CachedPower
  | unknown
  | on
  | standby
  deriving DecidableEq, Repr

/-- A fire, with what it tells the script. -/
inductive Fire
  | inputSwitch (newAddr : UInt16) (previous : Option UInt16)
  | tvStandby (previous : CachedPower)
  | tvWake (previous : CachedPower)
  | hostActivated (logical : ℤ)
  | hostDeactivated (logical : ℤ)
  deriving DecidableEq, Repr

/-- `HookExecutor::Job`. -/
structure HookJob where
  path : String
  env : List String
  deriving DecidableEq, Repr

/-- The conventional form, one decimal number for each nibble. -/
def dottedPhysicalAddress (addr : UInt16) : String :=
  toString ((addr >>> 12) &&& 0xF).toNat ++ "." ++ toString ((addr >>> 8) &&& 0xF).toNat ++ "." ++
    toString ((addr >>> 4) &&& 0xF).toNat ++ "." ++ toString (addr &&& 0xF).toNat

/-- Four hexadecimal digits. -/
def rawPhysicalAddress (addr : UInt16) : String :=
  "0x" ++ String.ofList
    (([12, 8, 4, 0] : List UInt16).map fun shift => Nat.digitChar ((addr >>> shift) &&& 0xF).toNat)

def previousPowerString : CachedPower → String
  | .on => "on"
  | .standby => "standby"
  | .unknown => ""

/-- Names that are not set are left out. -/
def propagateIfSet (getenv : String → Option String) (names : List String) : List String :=
  names.filterMap fun name => (getenv name).map fun value => name ++ "=" ++ value

/-- A fire, the moment it was made, and the last active source observed by then. -/
structure Fired where
  event : Fire
  now : String
  observed : Option UInt16
  deriving DecidableEq, Repr

structure CecHookSubsystem where
  config : HooksConfig
  process : ProcessInfo
  debounceTimer : TimerSource := .disarmed
  pendingPhysical : Option UInt16 := none
  lastFiredPhysical : Option UInt16 := none
  lastTvPower : CachedPower := .unknown
  /-- Submitted to the executor. -/
  jobs : List HookJob := []
  /-- Every fire, also those without a script. -/
  fires : List Fired := []
  /-- The last active source observed. -/
  lastObserved : Option UInt16 := none

namespace CecHookSubsystem

/-- `baseEnv`, at the time given. -/
def baseEnv (process : ProcessInfo) (eventName now : String) : List String :=
  propagateIfSet process.getenv ["PATH", "HOME", "LANG", "LC_ALL", "USER"] ++
    ["CEC_EVENT=" ++ eventName, "CEC_EVENT_TS=" ++ now,
      "CEC_DAEMON_PID=" ++ toString process.pid]

end CecHookSubsystem

namespace Fire

def eventName : Fire → String
  | .inputSwitch _ _ => "InputSwitch"
  | .tvStandby _ => "TVStandby"
  | .tvWake _ => "TVWake"
  | .hostActivated _ => "HostActivated"
  | .hostDeactivated _ => "HostDeactivated"

def scriptPath (config : HooksConfig) : Fire → String
  | .inputSwitch _ _ => config.inputSwitch
  | .tvStandby _ => config.tvStandby
  | .tvWake _ => config.tvWake
  | .hostActivated _ => config.hostActivated
  | .hostDeactivated _ => config.hostDeactivated

/-- The entries a fire adds to the common ones. -/
def entries : Fire → List String
  | .inputSwitch newAddr previous =>
      ["CEC_SOURCE_PHYSICAL=" ++ dottedPhysicalAddress newAddr,
        "CEC_SOURCE_PHYSICAL_RAW=" ++ rawPhysicalAddress newAddr,
        "CEC_SOURCE_PREVIOUS_PHYSICAL=" ++ (previous.map dottedPhysicalAddress).getD ""]
  | .tvStandby previous =>
      ["CEC_TV_POWER=standby", "CEC_TV_POWER_PREVIOUS=" ++ previousPowerString previous]
  | .tvWake previous =>
      ["CEC_TV_POWER=on", "CEC_TV_POWER_PREVIOUS=" ++ previousPowerString previous]
  | .hostActivated logical => ["CEC_HOST_LOGICAL=" ++ toString logical]
  | .hostDeactivated logical => ["CEC_HOST_LOGICAL=" ++ toString logical]

/-- A switch of the active source: the new address and the one reported as previous. -/
def switch : Fire → Option (Option UInt16 × Option UInt16)
  | .inputSwitch newAddr previous => some (some newAddr, previous)
  | _ => none

/-- A change of the TV's power: the new state and the one reported as previous. -/
def tvPower : Fire → Option (CachedPower × CachedPower)
  | .tvStandby previous => some (.standby, previous)
  | .tvWake previous => some (.on, previous)
  | _ => none

end Fire

/-- `submit`: an event without a script runs nothing. -/
def Fired.job (config : HooksConfig) (process : ProcessInfo) (fired : Fired) : Option HookJob :=
  if fired.event.scriptPath config = "" then none
  else
    some ⟨fired.event.scriptPath config,
      CecHookSubsystem.baseEnv process fired.event.eventName fired.now ++ fired.event.entries⟩

namespace CecHookSubsystem

/-- Make a fire and submit its script. -/
def fire (s : CecHookSubsystem) (event : Fire) (now : String) : CecHookSubsystem :=
  let fired : Fired := ⟨event, now, s.lastObserved⟩
  { s with
    fires := s.fires ++ [fired]
    jobs := s.jobs ++ (fired.job s.config s.process).toList }

def fireInputSwitch (s : CecHookSubsystem) (newAddr : UInt16) (now : String) : CecHookSubsystem :=
  s.fire (.inputSwitch newAddr s.lastFiredPhysical) now

def fireTvStandby (s : CecHookSubsystem) (now : String) : CecHookSubsystem :=
  s.fire (.tvStandby s.lastTvPower) now

def fireTvWake (s : CecHookSubsystem) (now : String) : CecHookSubsystem :=
  s.fire (.tvWake s.lastTvPower) now

def fireHostActivated (s : CecHookSubsystem) (logical : ℤ) (now : String) : CecHookSubsystem :=
  s.fire (.hostActivated logical) now

def fireHostDeactivated (s : CecHookSubsystem) (logical : ℤ) (now : String) : CecHookSubsystem :=
  s.fire (.hostDeactivated logical) now

def commitPending (s : CecHookSubsystem) (now : String) : CecHookSubsystem :=
  match s.pendingPhysical with
  | none => s
  | some committed =>
      if s.lastFiredPhysical = some committed then { s with pendingPhysical := none }
      else
        { s.fireInputSwitch committed now with
          lastFiredPhysical := some committed
          pendingPhysical := none }

/-- `armOk` is the answer of `armOnce`, should it be asked. -/
def observe (s : CecHookSubsystem) (obs : Observation) (armOk : Bool) (now : String) :
    CecHookSubsystem :=
  match obs.kind with
  | .tvStandby =>
      if s.lastTvPower = .standby then s
      else { s.fireTvStandby now with lastTvPower := .standby }
  | .tvPowerReport =>
      if obs.power ≠ cecPowerStatusOn then s
      else if s.lastTvPower = .on then s
      else { s.fireTvWake now with lastTvPower := .on }
  | .activeSource =>
      let s := { s with
        pendingPhysical := some obs.physicalAddress
        lastObserved := some obs.physicalAddress
        debounceTimer := s.debounceTimer.armOnce kDebounceWindow armOk }
      if armOk then s else s.commitPending now
  | .hostActivated => s.fireHostActivated obs.logical now
  | .hostDeactivated => s.fireHostDeactivated obs.logical now

/-- The timer's handler; a read that fails leaves the expiry to be read. -/
def onDebounceTimerFired (s : CecHookSubsystem) (readOk : Bool) (now : String) :
    CecHookSubsystem :=
  if readOk = false ∨ s.debounceTimer.expirations = 0 then s
  else commitPending { s with debounceTimer := s.debounceTimer.consume } now

inductive Label
  | observe (obs : Observation) (armOk : Bool) (now : String)
  | expire
  /-- The loop calls the handler, whether or not the timer has expired. -/
  | timerFired (readOk : Bool) (now : String)
  deriving Repr

def step (s : CecHookSubsystem) : Label → Option CecHookSubsystem
  | .observe obs armOk now => some (s.observe obs armOk now)
  | .expire => s.debounceTimer.expire.map fun debounceTimer => { s with debounceTimer }
  | .timerFired readOk now => some (s.onDebounceTimerFired readOk now)

def machine : Machine CecHookSubsystem Label where
  step := step

def start (config : HooksConfig) (process : ProcessInfo) : CecHookSubsystem :=
  { config, process }

/-! ## The chains -/

/-- The switches fired, in order. -/
def switches (s : CecHookSubsystem) : List (Option UInt16 × Option UInt16) :=
  s.fires.filterMap fun fired => fired.event.switch

/-- The changes of the TV's power fired, in order. -/
def tvPowers (s : CecHookSubsystem) : List (CachedPower × CachedPower) :=
  s.fires.filterMap fun fired => fired.event.tvPower

/-- The fires are in order, and each has been submitted if it has a script. -/
structure Recorded (s : CecHookSubsystem) : Prop where
  switches : Linked none s.switches s.lastFiredPhysical
  observed : ∀ fired ∈ s.fires, ∀ newAddr previous,
    fired.event = .inputSwitch newAddr previous → fired.observed = some newAddr
  tvPowers : Linked .unknown s.tvPowers s.lastTvPower
  jobs : s.jobs = s.fires.filterMap fun fired => fired.job s.config s.process

/-- No switch is lost: an address that has been observed is pending with the timer set, or is
the last that fired. -/
structure Settling (s : CecHookSubsystem) : Prop where
  recorded : Recorded s
  pending : ∀ address, s.pendingPhysical = some address →
    s.lastObserved = some address ∧ s.debounceTimer ≠ .disarmed
  settled : s.pendingPhysical = none → s.lastFiredPhysical = s.lastObserved

variable {s : CecHookSubsystem}

private theorem filterMap_append_singleton {α β : Type} (f : α → Option β) (xs : List α) (x : α) :
    (xs ++ [x]).filterMap f = xs.filterMap f ++ (f x).toList := by
  cases h : f x <;> simp [h]

/-- What a fire adds to the record. -/
theorem Recorded.fire (h : Recorded s) {event : Fire} {now : String}
    {lastFired : Option UInt16} {lastPower : CachedPower} {pending : Option UInt16}
    (hswitch : Linked none (s.switches ++ event.switch.toList) lastFired)
    (hobserved : ∀ newAddr previous,
      event = .inputSwitch newAddr previous → s.lastObserved = some newAddr)
    (hpower : Linked .unknown (s.tvPowers ++ event.tvPower.toList) lastPower) :
    Recorded { s.fire event now with
      lastFiredPhysical := lastFired, lastTvPower := lastPower, pendingPhysical := pending } := by
  constructor
  · rw [CecHookSubsystem.switches, CecHookSubsystem.fire, filterMap_append_singleton]
    exact hswitch
  · intro fired hfired
    rcases List.mem_append.mp hfired with hold | hnew
    · exact h.observed fired hold
    · obtain rfl := List.mem_singleton.mp hnew
      exact hobserved
  · rw [CecHookSubsystem.tvPowers, CecHookSubsystem.fire, filterMap_append_singleton]
    exact hpower
  · rw [CecHookSubsystem.fire, filterMap_append_singleton, h.jobs]

theorem Recorded.commitPending (h : Recorded s) {now : String}
    (hpending : ∀ address, s.pendingPhysical = some address → s.lastObserved = some address)
    (hsettled : s.pendingPhysical = none → s.lastFiredPhysical = s.lastObserved) :
    Settling (s.commitPending now) := by
  unfold CecHookSubsystem.commitPending
  cases hcommitted : s.pendingPhysical with
  | none => exact ⟨h, by simp [hcommitted], fun _ => hsettled hcommitted⟩
  | some committed =>
      have hlast := hpending committed hcommitted
      dsimp only
      split_ifs with hunchanged
      · refine ⟨⟨h.switches, h.observed, h.tvPowers, h.jobs⟩, by simp, fun _ => ?_⟩
        exact hunchanged.trans hlast.symm
      · refine ⟨?_, by simp, fun _ => hlast.symm⟩
        apply h.fire
        · exact h.switches.append (Ne.symm hunchanged)
        · rintro newAddr previous ⟨⟩
          exact hlast
        · simpa [Fire.tvPower, fireInputSwitch, CecHookSubsystem.fire] using h.tvPowers

theorem Settling.observe (h : Settling s) (obs : Observation) (armOk : Bool) (now : String) :
    Settling (s.observe obs armOk now) := by
  have hrecorded := h.recorded
  unfold CecHookSubsystem.observe
  cases obs.kind with
  | tvStandby =>
      dsimp only
      split_ifs with hcached
      · exact h
      · refine ⟨?_, h.pending, h.settled⟩
        apply hrecorded.fire
        · simpa [Fire.switch, fireTvStandby, CecHookSubsystem.fire] using hrecorded.switches
        · simp
        · exact hrecorded.tvPowers.append (Ne.symm hcached)
  | tvPowerReport =>
      dsimp only
      split_ifs with hreport hcached
      · exact h
      · exact h
      · refine ⟨?_, h.pending, h.settled⟩
        apply hrecorded.fire
        · simpa [Fire.switch, fireTvWake, CecHookSubsystem.fire] using hrecorded.switches
        · simp
        · exact hrecorded.tvPowers.append (Ne.symm hcached)
  | activeSource =>
      have hobserved : Recorded { s with
          pendingPhysical := some obs.physicalAddress
          lastObserved := some obs.physicalAddress
          debounceTimer := s.debounceTimer.armOnce kDebounceWindow armOk } :=
        ⟨hrecorded.switches, hrecorded.observed, hrecorded.tvPowers, hrecorded.jobs⟩
      cases armOk with
      | true => exact ⟨hobserved, by simp [TimerSource.armOnce], by simp⟩
      | false =>
          -- The timer may have been left as an earlier observation set it; what it finds when
          -- it fires is that nothing is pending.
          exact hobserved.commitPending (by simp) (by simp)
  | hostActivated | hostDeactivated =>
      refine ⟨?_, h.pending, h.settled⟩
      apply hrecorded.fire
      · simpa [Fire.switch] using hrecorded.switches
      · simp
      · simpa [Fire.tvPower] using hrecorded.tvPowers

theorem Settling.onDebounceTimerFired (h : Settling s) (readOk : Bool) (now : String) :
    Settling (s.onDebounceTimerFired readOk now) := by
  unfold CecHookSubsystem.onDebounceTimerFired
  split_ifs
  · exact h
  · have hrecorded : Recorded { s with debounceTimer := s.debounceTimer.consume } :=
      ⟨h.recorded.switches, h.recorded.observed, h.recorded.tvPowers, h.recorded.jobs⟩
    exact hrecorded.commitPending (fun address haddress => (h.pending address haddress).1) h.settled

theorem Settling.step (h : Settling s) {label : Label} {s' : CecHookSubsystem}
    (hstep : machine.step s label = some s') : Settling s' := by
  change CecHookSubsystem.step s label = some s' at hstep
  cases label with
  | observe obs armOk now =>
      obtain rfl := Option.some.inj hstep
      exact h.observe obs armOk now
  | expire =>
      obtain ⟨debounceTimer, hexpire, rfl⟩ := Option.map_eq_some_iff.mp hstep
      have hexpired : debounceTimer ≠ .disarmed := by
        rintro rfl
        cases htimer : s.debounceTimer <;> simp [htimer, TimerSource.expire] at hexpire
      have hrecorded := h.recorded
      refine ⟨⟨hrecorded.switches, hrecorded.observed, hrecorded.tvPowers, hrecorded.jobs⟩, ?_,
        h.settled⟩
      exact fun address haddress => ⟨(h.pending address haddress).1, hexpired⟩
  | timerFired readOk now =>
      obtain rfl := Option.some.inj hstep
      exact h.onDebounceTimerFired readOk now

theorem settling_start (config : HooksConfig) (process : ProcessInfo) :
    Settling (start config process) where
  recorded := ⟨rfl, by simp [start], rfl, rfl⟩
  pending := by simp [start]
  settled _ := rfl

theorem settling_of_run {config : HooksConfig} {process : ProcessInfo} {labels : List Label}
    (hrun : machine.run (start config process) labels = some s) : Settling s :=
  machine.invariant_of_step (fun h hstep => h.step hstep) (settling_start config process) hrun

/-! ## What has been observed -/

/-- The address of an active source observed. -/
def Label.activeSources : Label → List UInt16
  | .observe obs _ _ => if obs.kind = .activeSource then [obs.physicalAddress] else []
  | _ => []

/-- The last active source among the observations. -/
def lastActiveSource (labels : List Label) : Option UInt16 :=
  (labels.flatMap Label.activeSources).getLast?

/-- The fire is made by a step along the labels, and it shows the last active source among the
observations up to that step. -/
def MadeAlong (config : HooksConfig) (process : ProcessInfo) (labels : List Label)
    (fired : Fired) : Prop :=
  ∃ before label after s s', labels = before ++ label :: after ∧
    machine.run (start config process) before = some s ∧ machine.step s label = some s' ∧
    s'.fires = s.fires ++ [fired] ∧ fired.observed = lastActiveSource (before ++ [label])

/-- At most one fire is made, and it shows what has been observed by then. -/
def FiresOnce (s s' : CecHookSubsystem) : Prop :=
  s'.fires = s.fires ∨ ∃ fired, s'.fires = s.fires ++ [fired] ∧ fired.observed = s'.lastObserved

theorem lastActiveSource_append_singleton (labels : List Label) (label : Label) :
    lastActiveSource (labels ++ [label]) =
      label.activeSources.getLast?.or (lastActiveSource labels) := by
  simp [lastActiveSource, List.getLast?_append]

theorem commitPending_lastObserved (s : CecHookSubsystem) (now : String) :
    (s.commitPending now).lastObserved = s.lastObserved := by
  unfold commitPending
  split
  · rfl
  · split_ifs <;> rfl

theorem firesOnce_commitPending (s : CecHookSubsystem) (now : String) :
    FiresOnce s (s.commitPending now) := by
  unfold commitPending
  split
  · exact .inl rfl
  · split_ifs
    · exact .inl rfl
    · exact .inr ⟨_, rfl, rfl⟩

theorem observed_observe (s : CecHookSubsystem) (obs : Observation) (armOk : Bool) (now : String) :
    (s.observe obs armOk now).lastObserved =
        ((Label.observe obs armOk now).activeSources.getLast?).or s.lastObserved ∧
      FiresOnce s (s.observe obs armOk now) := by
  obtain ⟨kind, physicalAddress, power, logical⟩ := obs
  unfold CecHookSubsystem.observe
  cases kind with
  | activeSource =>
      let observed : CecHookSubsystem := { s with
        pendingPhysical := some physicalAddress
        lastObserved := some physicalAddress
        debounceTimer := s.debounceTimer.armOnce kDebounceWindow armOk }
      cases armOk with
      | true => exact ⟨rfl, .inl rfl⟩
      | false => exact ⟨commitPending_lastObserved observed now, firesOnce_commitPending observed now⟩
  | tvStandby =>
      dsimp only
      split_ifs
      · exact ⟨rfl, .inl rfl⟩
      · exact ⟨rfl, .inr ⟨_, rfl, rfl⟩⟩
  | tvPowerReport =>
      dsimp only
      split_ifs
      · exact ⟨rfl, .inl rfl⟩
      · exact ⟨rfl, .inl rfl⟩
      · exact ⟨rfl, .inr ⟨_, rfl, rfl⟩⟩
  | hostActivated | hostDeactivated => exact ⟨rfl, .inr ⟨_, rfl, rfl⟩⟩

/-- Only an observation of an active source changes what has been observed. -/
theorem observed_of_step {label : Label} {s' : CecHookSubsystem}
    (hstep : machine.step s label = some s') :
    s'.lastObserved = label.activeSources.getLast?.or s.lastObserved ∧ FiresOnce s s' := by
  change CecHookSubsystem.step s label = some s' at hstep
  cases label with
  | observe obs armOk now =>
      obtain rfl := Option.some.inj hstep
      exact observed_observe s obs armOk now
  | expire =>
      obtain ⟨debounceTimer, -, rfl⟩ := Option.map_eq_some_iff.mp hstep
      exact ⟨rfl, .inl rfl⟩
  | timerFired readOk now =>
      obtain rfl := Option.some.inj hstep
      unfold onDebounceTimerFired
      split_ifs
      · exact ⟨rfl, .inl rfl⟩
      · let consumed : CecHookSubsystem := { s with debounceTimer := s.debounceTimer.consume }
        exact ⟨commitPending_lastObserved consumed now, firesOnce_commitPending consumed now⟩

theorem MadeAlong.append {config : HooksConfig} {process : ProcessInfo} {labels : List Label}
    {fired : Fired} (h : MadeAlong config process labels fired) (label : Label) :
    MadeAlong config process (labels ++ [label]) fired := by
  obtain ⟨before, made, after, s, s', rfl, hmade⟩ := h
  exact ⟨before, made, after ++ [label], s, s', by simp, hmade⟩

/-- What the subsystem takes for observed is what has been observed. -/
theorem observed_of_run {config : HooksConfig} {process : ProcessInfo} {labels : List Label}
    (hrun : machine.run (start config process) labels = some s) :
    s.lastObserved = lastActiveSource labels ∧
      ∀ fired ∈ s.fires, MadeAlong config process labels fired := by
  refine machine.history_of_step (I := fun labels s =>
    s.lastObserved = lastActiveSource labels ∧
      ∀ fired ∈ s.fires, MadeAlong config process labels fired)
    ⟨rfl, by simp [start]⟩ (fun {past s label s'} hpast h hstep => ?_) hrun
  obtain ⟨hobserved, hfires⟩ := observed_of_step hstep
  rw [h.1, ← lastActiveSource_append_singleton] at hobserved
  refine ⟨hobserved, fun fired hfired => ?_⟩
  rcases hfires with hsame | ⟨last, hmore, hshows⟩
  · exact (h.2 fired (hsame ▸ hfired)).append label
  · rw [hmore, List.mem_append, List.mem_singleton] at hfired
    rcases hfired with hold | rfl
    · exact (h.2 fired hold).append label
    · exact ⟨past, label, [], s, s', rfl, hpast, hstep, hmore, hshows.trans hobserved⟩

/-- **Hook events form chains.** Whatever is observed, and however the debounce timer behaves:
the switches of the active source lead from no address to the last one fired, each reporting
the one before it and none repeating it; an address fired is the last that was observed; a
pending address is the last that was observed and the timer is set for it or has expired; with
none pending, the last observed has fired; and the changes of the TV's power are a chain of
the same kind. The last that was observed is the last among the run's observations, and for a
fire the last among those up to the step that made it. -/
theorem hook_events_chained {config : HooksConfig} {process : ProcessInfo} {labels : List Label}
    (hrun : machine.run (start config process) labels = some s) :
    Linked none s.switches s.lastFiredPhysical ∧
      (∀ fired ∈ s.fires, ∀ newAddr previous,
        fired.event = .inputSwitch newAddr previous → fired.observed = some newAddr) ∧
      (∀ address, s.pendingPhysical = some address →
        s.lastObserved = some address ∧ s.debounceTimer ≠ .disarmed) ∧
      (s.pendingPhysical = none → s.lastFiredPhysical = s.lastObserved) ∧
      Linked .unknown s.tvPowers s.lastTvPower ∧
      s.lastObserved = lastActiveSource labels ∧
      ∀ fired ∈ s.fires, MadeAlong config process labels fired := by
  have h := settling_of_run hrun
  exact ⟨h.recorded.switches, h.recorded.observed, h.pending, h.settled, h.recorded.tvPowers,
    observed_of_run hrun⟩

/-- A burst that settles, a re-arm that races an expiry, an address committed at once because
the timer could not be set, and the TV going to standby and coming back in between. -/
def burst : List Label :=
  [.observe { kind := .activeSource, physicalAddress := 0x1000 } true "t0",
    .observe { kind := .activeSource, physicalAddress := 0x2000 } true "t1", .expire,
    .observe { kind := .tvStandby } true "t2", .timerFired true "t3",
    .observe { kind := .activeSource, physicalAddress := 0x3000 } true "t4", .expire,
    .observe { kind := .activeSource, physicalAddress := 0x2100 } true "t5",
    .timerFired true "t6",
    .observe { kind := .tvPowerReport, power := 0 } true "t7",
    .observe { kind := .activeSource, physicalAddress := 0x1000 } false "t8",
    .expire, .timerFired true "t9",
    .observe { kind := .activeSource, physicalAddress := 0x3000 } true "t10"]

theorem hook_events_chained_burst :
    ∃ s : CecHookSubsystem, machine.run (start {} {}) burst = some s ∧
      s.switches = [(some 0x2000, none), (some 0x1000, some 0x2000)] ∧
      s.tvPowers = [(.standby, .unknown), (.on, .standby)] ∧
      s.pendingPhysical = some 0x3000 ∧
      Linked none s.switches s.lastFiredPhysical ∧
      (∀ fired ∈ s.fires, ∀ newAddr previous,
        fired.event = .inputSwitch newAddr previous → fired.observed = some newAddr) ∧
      (∀ address, s.pendingPhysical = some address →
        s.lastObserved = some address ∧ s.debounceTimer ≠ .disarmed) ∧
      (s.pendingPhysical = none → s.lastFiredPhysical = s.lastObserved) ∧
      Linked .unknown s.tvPowers s.lastTvPower ∧
      s.lastObserved = lastActiveSource burst ∧
      ∀ fired ∈ s.fires, MadeAlong {} {} burst fired := by
  have hreached : (machine.run (start {} {}) burst).map (fun s =>
      (s.switches, s.tvPowers, s.pendingPhysical)) =
      some ([(some 0x2000, none), (some 0x1000, some 0x2000)],
        [(.standby, .unknown), (.on, .standby)], some 0x3000) := by decide
  obtain ⟨s, hrun, heq⟩ := Option.map_eq_some_iff.mp hreached
  simp only [Prod.mk.injEq] at heq
  obtain ⟨hswitches, htvPowers, hpending⟩ := heq
  exact ⟨s, hrun, hswitches, htvPowers, hpending, hook_events_chained hrun⟩

/-- The scripts run are those of the fires that have one, in their order. -/
theorem jobs_eq {config : HooksConfig} {process : ProcessInfo} {labels : List Label}
    (hrun : machine.run (start config process) labels = some s) :
    s.jobs = s.fires.filterMap fun fired => fired.job s.config s.process :=
  (settling_of_run hrun).recorded.jobs

example : (Fire.inputSwitch 0x2100 (some 0x1000)).entries =
    ["CEC_SOURCE_PHYSICAL=2.1.0.0", "CEC_SOURCE_PHYSICAL_RAW=0x2100",
      "CEC_SOURCE_PREVIOUS_PHYSICAL=1.0.0.0"] := by decide

end CecHookSubsystem

end CecControl
