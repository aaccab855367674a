/-
# The typed configuration

`loadAppConfig` turns the sections of the configuration file into the records the daemon's parts
are constructed from. Integers are read as `int` and stored in the throttler's unsigned fields
as they are: a negative number becomes a large one, and nothing bounds the number of attempts.

The second half of the module follows the three throttler settings from the text of the file to
the delays of the retry loop.
-/

import CecControl.Cec.Backoff
import CecControl.Cec.LibCecAdapter
import CecControl.Common.ConfigManager
import CecControl.Hook.CecHookSubsystem

namespace CecControl

/-! ## The records -/

structure DaemonConfig where
  enablePowerMonitor : Bool
  scanDevicesAtStartup : Bool

/-- The snapshot of the file. -/
structure AppConfig where
  adapter : AdapterConfig
  throttler : ThrottlerConfig
  queueCommandsDuringSuspend : Bool
  standbyEnabled : Bool
  daemon : DaemonConfig
  hooks : HooksConfig

/-! ## Reading it -/

/-- A relative path is dropped; whether the file can be executed is only warned about. -/
def validateHookPath (path : Text) : String :=
  if path.head? = some '/' then String.ofList path else ""

/-- One entry of an address list; entries that are no address are skipped. -/
def addLogicalAddress (addrs : LogicalAddresses) (token : Text) : LogicalAddresses :=
  match stoi token with
  | .error _ => addrs
  | .ok (id, _) => if h : 0 ≤ id ∧ id ≤ 15 then addrs.set ⟨id.toNat, by omega⟩ else addrs

def parseLogicalAddressList (input : Text) : LogicalAddresses :=
  (getlines ',' input).foldl addLogicalAddress .clear

/-- Conversion of an `int` to `uint32_t`. -/
def toUint32 (value : ℤ) : ℕ := (value % 0x100000000).toNat

def loadAppConfig (cfg : SectionMap) : AppConfig where
  adapter :=
    { deviceName := cfg.getString "Adapter".toList "DeviceName".toList "CEC Controller".toList
      autoPowerOn := cfg.getBool "Adapter".toList "AutoPowerOn".toList false
      autoWakeAVR := cfg.getBool "Adapter".toList "AutoWakeAVR".toList false
      activateSource := cfg.getBool "Adapter".toList "ActivateSource".toList false
      systemAudioMode := cfg.getBool "Adapter".toList "SystemAudioMode".toList false
      wakeDevices := parseLogicalAddressList
        (cfg.getString "Adapter".toList "WakeDevices".toList [])
      powerOffDevices := parseLogicalAddressList
        (cfg.getString "Adapter".toList "PowerOffDevices".toList []) }
  throttler :=
    { baseIntervalMs := toUint32 (cfg.getInt "Throttler".toList "BaseIntervalMs".toList 200)
      maxIntervalMs := toUint32 (cfg.getInt "Throttler".toList "MaxIntervalMs".toList 1000)
      maxRetryAttempts := toUint32 (cfg.getInt "Throttler".toList "MaxRetryAttempts".toList 3) }
  queueCommandsDuringSuspend :=
    cfg.getBool "Daemon".toList "QueueCommandsDuringSuspend".toList true
  standbyEnabled := cfg.getBool "Adapter".toList "PowerOffOnStandby".toList false
  daemon :=
    { enablePowerMonitor := cfg.getBool "Daemon".toList "EnablePowerMonitor".toList true
      scanDevicesAtStartup := cfg.getBool "Daemon".toList "ScanDevicesAtStartup".toList false }
  hooks :=
    { inputSwitch := validateHookPath (cfg.getString "Hooks".toList "InputSwitch".toList [])
      tvStandby := validateHookPath (cfg.getString "Hooks".toList "TVStandby".toList [])
      tvWake := validateHookPath (cfg.getString "Hooks".toList "TVWake".toList [])
      hostActivated := validateHookPath (cfg.getString "Hooks".toList "HostActivated".toList [])
      hostDeactivated :=
        validateHookPath (cfg.getString "Hooks".toList "HostDeactivated".toList []) }

/-! ## The throttler's settings -/

/-- The settings of the section, with their defaults. -/
inductive ThrottlerSetting
  | baseIntervalMs
  | maxIntervalMs
  | maxRetryAttempts
  deriving DecidableEq, Repr

namespace ThrottlerSetting

def key : ThrottlerSetting → Text
  | .baseIntervalMs => "BaseIntervalMs".toList
  | .maxIntervalMs => "MaxIntervalMs".toList
  | .maxRetryAttempts => "MaxRetryAttempts".toList

def default : ThrottlerSetting → ℤ
  | .baseIntervalMs => 200
  | .maxIntervalMs => 1000
  | .maxRetryAttempts => 3

def value (config : ThrottlerConfig) : ThrottlerSetting → ℕ
  | .baseIntervalMs => config.baseIntervalMs
  | .maxIntervalMs => config.maxIntervalMs
  | .maxRetryAttempts => config.maxRetryAttempts

/-- The integer the file has for a setting, of whatever size: the one at the beginning of the
value stored for it. -/
def written (cfg : SectionMap) (setting : ThrottlerSetting) : Option ℤ :=
  (cfg.lookup "Throttler".toList setting.key).bind fun text => (readInteger text).map Prod.fst

/-- The integer a setting is loaded with: the one written, where it is an `int`. -/
def loaded (cfg : SectionMap) (setting : ThrottlerSetting) : ℤ :=
  match setting.written cfg with
  | none => setting.default
  | some number =>
      if -0x80000000 ≤ number ∧ number ≤ 0x7fffffff then number else setting.default

theorem getInt_eq_loaded (cfg : SectionMap) (setting : ThrottlerSetting) :
    cfg.getInt "Throttler".toList setting.key setting.default = setting.loaded cfg := by
  unfold SectionMap.getInt SectionMap.getString loaded written stoi
  cases hlookup : cfg.lookup "Throttler".toList setting.key with
  | none => rfl
  | some text =>
      cases hread : readInteger text with
      | none => simp [hread]
      | some read =>
          -- an empty value has no integer at its beginning
          have hne : text.isEmpty = false := by
            cases text with
            | nil => cases hread
            | cons c rest => rfl
          simp only [Option.getD_some, hne, Bool.false_eq_true, if_false, hread, Option.bind_some,
            Option.map_some]
          split_ifs <;> rfl

/-- What `loadAppConfig` makes of a setting. -/
theorem value_loadAppConfig (cfg : SectionMap) (setting : ThrottlerSetting) :
    setting.value (loadAppConfig cfg).throttler = toUint32 (setting.loaded cfg) := by
  rw [← getInt_eq_loaded]
  cases setting <;> rfl

end ThrottlerSetting

/-- What the file may ask of the retry loop without harm: the delays of every run are exact, and
no setting is larger than the integer written for it. -/
def BackoffSafe (text : Text) : Prop :=
  CommandThrottler.BackoffExact (loadAppConfig (load text)).throttler ∧
    ∀ (setting : ThrottlerSetting) (number : ℤ), setting.written (load text) = some number →
      (setting.value (loadAppConfig (load text)).throttler : ℤ) ≤ number

/-- A setting is no larger than what is written exactly when that is not negative. -/
theorem ThrottlerSetting.value_le_written_iff {cfg : SectionMap} {setting : ThrottlerSetting}
    {number : ℤ} (hwritten : setting.written cfg = some number) :
    (setting.value (loadAppConfig cfg).throttler : ℤ) ≤ number ↔ 0 ≤ number := by
  have hdefault : 0 ≤ setting.default ∧ setting.default ≤ 1000 := by
    cases setting <;> decide
  rw [value_loadAppConfig]
  unfold loaded toUint32
  rw [hwritten]
  simp only
  split_ifs with hrange <;> omega

/-- **From the file to the delays.** For every text of the configuration file, the back-off is
safe exactly when none of the three settings is written as a negative number, and the number
of attempts is at most twenty-six, or is not written, or is too large to be read. -/
theorem backoffSafe_iff (text : Text) :
    BackoffSafe text ↔
      (∀ (setting : ThrottlerSetting) (number : ℤ), setting.written (load text) = some number →
        0 ≤ number) ∧
      ∀ number : ℤ, ThrottlerSetting.maxRetryAttempts.written (load text) = some number →
        number ≤ 26 ∨ 0x7fffffff < number := by
  have hvalue := ThrottlerSetting.maxRetryAttempts.value_loadAppConfig (load text)
  have hle : (∀ (setting : ThrottlerSetting) (number : ℤ),
      setting.written (load text) = some number →
        (setting.value (loadAppConfig (load text)).throttler : ℤ) ≤ number) ↔
      ∀ (setting : ThrottlerSetting) (number : ℤ), setting.written (load text) = some number →
        0 ≤ number :=
    forall_congr' fun _ => forall_congr' fun _ => forall_congr' fun hwritten =>
      ThrottlerSetting.value_le_written_iff hwritten
  unfold BackoffSafe
  rw [CommandThrottler.backoffExact_iff, hle, and_comm]
  refine and_congr_right fun hnonneg => ?_
  change ThrottlerSetting.maxRetryAttempts.value _ ≤ 26 ↔ _
  rw [hvalue]
  unfold ThrottlerSetting.loaded
  cases hwritten : ThrottlerSetting.maxRetryAttempts.written (load text) with
  | none => simp [toUint32, ThrottlerSetting.default]
  | some number =>
      have hpos := hnonneg _ _ hwritten
      simp only [Option.some.injEq, forall_eq']
      unfold toUint32
      split_ifs with hrange
      · omega
      · simp only [ThrottlerSetting.default]
        omega

/-- Thirty attempts are too many: the delay of the twenty-seventh wraps. -/
theorem thirty_attempts_not_safe : ¬ ∀ text : Text, BackoffSafe text := by
  intro h
  have hfew := (CommandThrottler.backoffExact_iff _).mp
    (h "[Throttler]\nMaxRetryAttempts = 30\n".toList).1
  exact absurd hfew (by decide)

end CecControl
