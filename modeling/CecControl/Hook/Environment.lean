/-
# What a script is told

A script has nothing but its environment to learn what it has been run for. The environment is a
list of entries `NAME=VALUE`, looked up by name; it is made of a few variables handed on from the
daemon, three that every event has, and those of the event.

The documentation promises a value for each name and says that there are no others. Both are
shown here for the processes that are started, and that the variables are enough: whatever event
fits what the script reads is the one it was run for. An address is written for people, as four
numbers with dots between them, and it is from these that it has to be told.
-/

import CecControl.Hook.HookExecutor
import Mathlib

namespace CecControl

open Lib

/-! ## Reading an environment -/

/-- The value an entry has for a name. -/
def entryValue (name entry : String) : Option String :=
  if name.toList ++ ['='] <+: entry.toList then
    some (String.ofList (entry.toList.drop (name.toList.length + 1)))
  else none

/-- `getenv` in a process with this environment. -/
def getenv (env : List String) (name : String) : Option String := env.findSome? (entryValue name)

/-- `NAME=VALUE`. -/
def assignment (binding : String × String) : String := binding.1 ++ "=" ++ binding.2

theorem toList_assignment (binding : String × String) :
    (assignment binding).toList = binding.1.toList ++ '=' :: binding.2.toList := by
  simp [assignment]

/-- A text is known up to the first occurrence of a character. -/
theorem append_cons_inj {c : Char} {first second rest rest' : Text} (hfirst : c ∉ first)
    (hsecond : c ∉ second) (h : first ++ c :: rest = second ++ c :: rest') :
    first = second ∧ rest = rest' := by
  have hread {run t : Text} (hrun : c ∉ run) :
      (run ++ c :: t).takeWhile (fun d => d ≠ c) = run ∧
        (run ++ c :: t).dropWhile (fun d => d ≠ c) = c :: t := by
    refine takeWhile_run (fun d hd => ?_) (by simp)
    simp only [decide_eq_true_eq]
    rintro rfl
    exact hrun hd
  have heads := (hread hfirst (t := rest)).1
  have tails := (hread hfirst (t := rest)).2
  rw [h] at heads tails
  refine ⟨heads.symm.trans (hread hsecond).1, ?_⟩
  exact (List.cons.inj (tails.symm.trans (hread hsecond).2)).2

theorem entryValue_assignment {name : String} (hname : '=' ∉ name.toList)
    {binding : String × String} (hbinding : '=' ∉ binding.1.toList) :
    entryValue name (assignment binding) = if name = binding.1 then some binding.2 else none := by
  unfold entryValue
  by_cases hsame : name = binding.1
  · rw [if_pos hsame, if_pos ⟨binding.2.toList, by simp [toList_assignment, hsame]⟩]
    simp [toList_assignment, hsame]
  · rw [if_neg hsame, if_neg]
    rintro ⟨rest, hrest⟩
    rw [toList_assignment, List.append_assoc, List.singleton_append] at hrest
    exact hsame (String.toList_inj.mp (append_cons_inj hname hbinding hrest).1)

/-- An environment of assignments is read as a list of bindings. -/
theorem getenv_map_assignment {bindings : List (String × String)}
    (hbindings : ∀ binding ∈ bindings, '=' ∉ binding.1.toList) {name : String}
    (hname : '=' ∉ name.toList) : getenv (bindings.map assignment) name = bindings.lookup name := by
  induction bindings with
  | nil => rfl
  | cons binding bindings ih =>
      have hrest := ih fun other hother => hbindings other (List.mem_cons_of_mem _ hother)
      unfold getenv at hrest ⊢
      rw [List.map_cons, List.findSome?_cons,
        entryValue_assignment hname (hbindings binding List.mem_cons_self), List.lookup_cons, hrest]
      by_cases hsame : name = binding.1
      · simp [hsame]
      · simp [hsame, beq_false_of_ne hsame]

theorem cString_assignment {binding : String × String} (hname : '\x00' ∉ binding.1.toList) :
    cString (assignment binding) = assignment (binding.1, cString binding.2) := by
  have hprefix : ∀ c ∈ binding.1.toList ++ ['='], decide (c ≠ '\x00') = true := by
    intro c hc
    rcases List.mem_append.mp hc with hc | hc
    · simp only [decide_eq_true_eq]
      rintro rfl
      exact hname hc
    · obtain rfl := List.mem_singleton.mp hc
      decide
  apply String.toList_inj.mp
  unfold cString
  rw [String.toList_ofList, toList_assignment, toList_assignment, String.toList_ofList,
    ← List.singleton_append, ← List.append_assoc, List.takeWhile_append_of_pos hprefix,
    List.append_assoc, List.singleton_append]

/-! ## The variables of an event -/

/-- The variables the documentation has for an event. -/
def Fire.variables : Fire → List (String × String)
  | .inputSwitch newAddr previous =>
      [("CEC_SOURCE_PHYSICAL", dottedPhysicalAddress newAddr),
        ("CEC_SOURCE_PHYSICAL_RAW", rawPhysicalAddress newAddr),
        ("CEC_SOURCE_PREVIOUS_PHYSICAL", (previous.map dottedPhysicalAddress).getD "")]
  | .tvStandby previous =>
      [("CEC_TV_POWER", "standby"), ("CEC_TV_POWER_PREVIOUS", previousPowerString previous)]
  | .tvWake previous =>
      [("CEC_TV_POWER", "on"), ("CEC_TV_POWER_PREVIOUS", previousPowerString previous)]
  | .hostActivated logical => [("CEC_HOST_LOGICAL", toString logical)]
  | .hostDeactivated logical => [("CEC_HOST_LOGICAL", toString logical)]

/-- The names handed on from the daemon. -/
def inheritedNames : List String := ["PATH", "HOME", "LANG", "LC_ALL", "USER"]

/-- What the documentation promises for each name. -/
def Fired.documented (process : ProcessInfo) (fired : Fired) (name : String) : Option String :=
  if name ∈ inheritedNames then process.getenv name
  else if name = "CEC_EVENT" then some fired.event.eventName
  else if name = "CEC_EVENT_TS" then some fired.now
  else if name = "CEC_DAEMON_PID" then some (toString process.pid)
  else fired.event.variables.lookup name

/-- The environment made for a fire, as bindings. -/
def Fired.bindings (process : ProcessInfo) (fired : Fired) : List (String × String) :=
  (inheritedNames.filterMap fun name => (process.getenv name).map fun value => (name, value)) ++
    [("CEC_EVENT", fired.event.eventName), ("CEC_EVENT_TS", fired.now),
      ("CEC_DAEMON_PID", toString process.pid)] ++ fired.event.variables

theorem Fire.entries_eq (event : Fire) : event.entries = event.variables.map assignment := by
  cases event <;> rfl

theorem Fired.env_of_job {config : HooksConfig} {process : ProcessInfo} {fired : Fired}
    {job : HookJob} (h : fired.job config process = some job) :
    job.path = fired.event.scriptPath config ∧
      job.env = (fired.bindings process).map assignment := by
  unfold Fired.job at h
  split_ifs at h
  obtain rfl := Option.some.inj h
  refine ⟨rfl, ?_⟩
  simp only [Fired.bindings, CecHookSubsystem.baseEnv, propagateIfSet, inheritedNames,
    Fire.entries_eq, List.map_append, List.map_filterMap, Option.map_map]
  rfl

theorem lookup_filterMap_names (value : String → Option String) (names : List String)
    (name : String) :
    (names.filterMap fun n => (value n).map fun v => (n, v)).lookup name =
      if name ∈ names then value name else none := by
  induction names with
  | nil => rfl
  | cons first names ih =>
      by_cases hsame : name = first
      · subst hsame
        cases hvalue : value name with
        | none => simp [hvalue, ih]
        | some v => simp [hvalue]
      · cases hvalue : value first with
        | none => simp [hvalue, ih, hsame]
        | some v => simp [hvalue, List.lookup_cons, ih, hsame, beq_false_of_ne hsame]

/-- The names of all variables there are. -/
def variableNames : List String :=
  inheritedNames ++
    ["CEC_EVENT", "CEC_EVENT_TS", "CEC_DAEMON_PID", "CEC_SOURCE_PHYSICAL",
      "CEC_SOURCE_PHYSICAL_RAW", "CEC_SOURCE_PREVIOUS_PHYSICAL", "CEC_TV_POWER",
      "CEC_TV_POWER_PREVIOUS", "CEC_HOST_LOGICAL"]

theorem Fire.names_subset (event : Fire) : event.variables.map Prod.fst ⊆ variableNames := by
  cases event with
  | inputSwitch newAddr previous =>
      exact (by decide : ["CEC_SOURCE_PHYSICAL", "CEC_SOURCE_PHYSICAL_RAW",
        "CEC_SOURCE_PREVIOUS_PHYSICAL"] ⊆ variableNames)
  | tvStandby previous | tvWake previous =>
      exact (by decide : ["CEC_TV_POWER", "CEC_TV_POWER_PREVIOUS"] ⊆ variableNames)
  | hostActivated logical | hostDeactivated logical =>
      exact (by decide : ["CEC_HOST_LOGICAL"] ⊆ variableNames)

theorem Fired.name_mem {process : ProcessInfo} {fired : Fired} {binding : String × String}
    (h : binding ∈ fired.bindings process) : binding.1 ∈ variableNames := by
  unfold Fired.bindings at h
  rcases List.mem_append.mp h with h | hevent
  · rcases List.mem_append.mp h with hinherited | hcommon
    · obtain ⟨name, hname, hbinding⟩ := List.mem_filterMap.mp hinherited
      obtain ⟨value, -, rfl⟩ := Option.map_eq_some_iff.mp hbinding
      exact List.mem_append_left _ hname
    · have hmem : binding.1 ∈ ["CEC_EVENT", "CEC_EVENT_TS", "CEC_DAEMON_PID"] :=
        List.mem_map_of_mem (f := Prod.fst) hcommon
      exact (by decide : ["CEC_EVENT", "CEC_EVENT_TS", "CEC_DAEMON_PID"] ⊆ variableNames) hmem
  · exact fired.event.names_subset (List.mem_map_of_mem hevent)

theorem names_plain : ∀ name ∈ variableNames, '=' ∉ name.toList ∧ '\x00' ∉ name.toList := by
  decide

theorem Fired.lookup_bindings (process : ProcessInfo) (fired : Fired) (name : String) :
    (fired.bindings process).lookup name = fired.documented process name := by
  unfold Fired.bindings Fired.documented
  rw [List.append_assoc, List.lookup_append, lookup_filterMap_names]
  by_cases hinherited : name ∈ inheritedNames
  · rw [if_pos hinherited, if_pos hinherited]
    -- None of the five is set by the daemon itself.
    have hnone : ([("CEC_EVENT", fired.event.eventName), ("CEC_EVENT_TS", fired.now),
        ("CEC_DAEMON_PID", toString process.pid)] ++ fired.event.variables).lookup name = none := by
      simp only [inheritedNames, List.mem_cons, List.not_mem_nil, or_false] at hinherited
      rcases hinherited with rfl | rfl | rfl | rfl | rfl <;> cases fired.event <;> rfl
    rw [hnone, Option.or_none]
  · rw [if_neg hinherited, if_neg hinherited, Option.none_or]
    by_cases hevent : name = "CEC_EVENT"
    · simp [hevent]
    by_cases hts : name = "CEC_EVENT_TS"
    · simp [hts, List.lookup_cons]
    by_cases hpid : name = "CEC_DAEMON_PID"
    · simp [hpid, List.lookup_cons]
    simp [List.lookup_cons, hevent, hts, hpid, beq_false_of_ne hevent, beq_false_of_ne hts,
      beq_false_of_ne hpid]

/-- What a process started for a fire reads. -/
theorem Fired.getenv_eq {config : HooksConfig} {process : ProcessInfo} {fired : Fired}
    {job : HookJob} (hjob : fired.job config process = some job) {name : String}
    (hname : '=' ∉ name.toList) :
    getenv (job.env.map cString) name = (fired.documented process name).map cString := by
  have henv : job.env.map cString =
      ((fired.bindings process).map fun binding => (binding.1, cString binding.2)).map assignment := by
    rw [(Fired.env_of_job hjob).2, List.map_map, List.map_map]
    refine List.map_congr_left fun binding hbinding => ?_
    exact cString_assignment (names_plain _ (Fired.name_mem hbinding)).2
  rw [henv, getenv_map_assignment ?_ hname, ← lookup_bindings]
  · generalize fired.bindings process = bindings
    induction bindings with
    | nil => rfl
    | cons binding bindings ih =>
        rw [List.map_cons, List.lookup_cons, List.lookup_cons, ih]
        cases name == binding.1 <;> rfl
  · intro binding hbinding
    obtain ⟨original, horiginal, rfl⟩ := List.mem_map.mp hbinding
    exact (names_plain _ (Fired.name_mem horiginal)).1

/-! ## Telling the event -/

theorem isDigit_of_mem_toString {n : ℕ} {c : Char} (h : c ∈ (toString n).toList) :
    c.isDigit = true := by
  rw [Nat.toString_eq_repr, Nat.toList_repr] at h
  exact Nat.isDigit_of_mem_toDigits (by decide) (by decide) h

/-- The four numbers of an address. -/
def nibbles (addr : UInt16) : List ℕ :=
  ([12, 8, 4, 0] : List UInt16).map fun shift => ((addr >>> shift) &&& 0xF).toNat

theorem nibbles_injective : Function.Injective nibbles := by
  intro addr addr' h
  have hlt := addr.toNat_lt
  have hlt' := addr'.toNat_lt
  have hand (n : ℕ) : n &&& 15 = n % 16 := Nat.and_two_pow_sub_one_eq_mod n 4
  apply UInt16.toNat_inj.mp
  simp [nibbles, UInt16.toNat_and, UInt16.toNat_shiftRight, Nat.shiftRight_eq_div_pow, hand] at h
  omega

/-- The numbers can be read off what is written. -/
theorem dottedPhysicalAddress_injective : Function.Injective dottedPhysicalAddress := by
  intro addr addr' h
  have hdot (n : ℕ) : '.' ∉ (toString n).toList := fun hmem =>
    absurd (isDigit_of_mem_toString hmem) (by decide)
  have hlist := congrArg String.toList h
  simp only [dottedPhysicalAddress, String.toList_append, List.append_assoc] at hlist
  obtain ⟨hfirst, hlist⟩ := append_cons_inj (hdot _) (hdot _) hlist
  obtain ⟨hsecond, hlist⟩ := append_cons_inj (hdot _) (hdot _) hlist
  obtain ⟨hthird, hfourth⟩ := append_cons_inj (hdot _) (hdot _) hlist
  have hnumber {m n : ℕ} (heq : (toString m).toList = (toString n).toList) : m = n :=
    Nat.repr_inj.mp (String.toList_inj.mp heq)
  apply nibbles_injective
  simp only [nibbles, List.map_cons, List.map_nil, List.cons.injEq, and_true]
  exact ⟨hnumber hfirst, hnumber hsecond, hnumber hthird, hnumber hfourth⟩

theorem cString_eq_self {s : String} (h : '\x00' ∉ s.toList) : cString s = s := by
  apply String.toList_inj.mp
  rw [cString, String.toList_ofList, List.takeWhile_eq_self_iff]
  intro c hc
  simp only [decide_eq_true_eq]
  rintro rfl
  exact h hc

theorem cString_dotted (addr : UInt16) :
    cString (dottedPhysicalAddress addr) = dottedPhysicalAddress addr := by
  have hnull (n : ℕ) : '\x00' ∉ (toString n).toList := fun hmem =>
    absurd (isDigit_of_mem_toString hmem) (by decide)
  apply cString_eq_self
  simp only [dottedPhysicalAddress, String.toList_append, List.mem_append, not_or]
  exact ⟨⟨⟨⟨⟨⟨hnull _, by decide⟩, hnull _⟩, by decide⟩, hnull _⟩, by decide⟩, hnull _⟩

theorem cString_logical (logical : ℤ) : cString (toString logical) = toString logical := by
  have hnull (n : ℕ) : '\x00' ∉ (toString n).toList := fun hmem =>
    absurd (isDigit_of_mem_toString hmem) (by decide)
  apply cString_eq_self
  cases logical with
  | ofNat n => exact hnull n
  | negSucc n =>
      change '\x00' ∉ ("-" ++ toString (n + 1)).toList
      rw [String.toList_append, List.mem_append, not_or]
      exact ⟨by decide, hnull _⟩

theorem cString_previous (previous : Option UInt16) :
    cString ((previous.map dottedPhysicalAddress).getD "") =
      (previous.map dottedPhysicalAddress).getD "" := by
  cases previous with
  | none => decide
  | some addr => exact cString_dotted addr

/-- An address that is missing is told from one that is there. -/
theorem previous_injective :
    Function.Injective fun previous : Option UInt16 =>
      (previous.map dottedPhysicalAddress).getD "" := by
  have hne (addr : UInt16) : dottedPhysicalAddress addr ≠ "" := by
    intro h
    have hlist := congrArg String.toList h
    simp [dottedPhysicalAddress] at hlist
  intro previous previous' h
  cases previous with
  | none =>
      cases previous' with
      | none => rfl
      | some addr => exact absurd h.symm (hne addr)
  | some addr =>
      cases previous' with
      | none => exact absurd h (hne addr)
      | some addr' => exact congrArg some (dottedPhysicalAddress_injective h)

theorem cString_previousPowerString_injective :
    Function.Injective fun previous => cString (previousPowerString previous) := by
  intro previous previous' h
  cases previous <;> cases previous' <;> first | rfl | exact absurd h (by decide)

theorem cString_eventName (event : Fire) : cString event.eventName = event.eventName := by
  cases event <;> dsimp only [Fire.eventName] <;> decide

/-- An event is known from its name and its variables. -/
theorem Fire.eq_of_told {event event' : Fire}
    (hname : cString event.eventName = cString event'.eventName)
    (hvariables : ∀ name ∈ variableNames.drop 8,
      (event.variables.lookup name).map cString = (event'.variables.lookup name).map cString) :
    event = event' := by
  rw [cString_eventName, cString_eventName] at hname
  cases event <;> cases event' <;> try (solve | simp [Fire.eventName] at hname)
  case inputSwitch.inputSwitch newAddr previous newAddr' previous' =>
    have hnew := hvariables "CEC_SOURCE_PHYSICAL" (by decide)
    have hprevious := hvariables "CEC_SOURCE_PREVIOUS_PHYSICAL" (by decide)
    change some (cString (dottedPhysicalAddress newAddr)) =
      some (cString (dottedPhysicalAddress newAddr')) at hnew
    change some (cString ((previous.map dottedPhysicalAddress).getD "")) =
      some (cString ((previous'.map dottedPhysicalAddress).getD "")) at hprevious
    rw [cString_dotted, cString_dotted, Option.some.injEq] at hnew
    rw [cString_previous, cString_previous, Option.some.injEq] at hprevious
    rw [dottedPhysicalAddress_injective hnew, previous_injective hprevious]
  case tvStandby.tvStandby previous previous' =>
    have hprevious := hvariables "CEC_TV_POWER_PREVIOUS" (by decide)
    rw [cString_previousPowerString_injective (Option.some.inj hprevious)]
  case tvWake.tvWake previous previous' =>
    have hprevious := hvariables "CEC_TV_POWER_PREVIOUS" (by decide)
    rw [cString_previousPowerString_injective (Option.some.inj hprevious)]
  case hostActivated.hostActivated logical logical' =>
    have hlogical := Option.some.inj (hvariables "CEC_HOST_LOGICAL" (by decide))
    rw [cString_logical, cString_logical] at hlogical
    rw [Int.repr_inj.mp hlogical]
  case hostDeactivated.hostDeactivated logical logical' =>
    have hlogical := Option.some.inj (hvariables "CEC_HOST_LOGICAL" (by decide))
    rw [cString_logical, cString_logical] at hlogical
    rw [Int.repr_inj.mp hlogical]

theorem Fired.documented_event (process : ProcessInfo) (fired : Fired) {name : String}
    (hname : name ∈ variableNames.drop 8) :
    fired.documented process name = fired.event.variables.lookup name := by
  simp only [variableNames, inheritedNames, List.cons_append, List.nil_append, List.drop_succ_cons,
    List.drop_zero, List.mem_cons, List.not_mem_nil, or_false] at hname
  rcases hname with rfl | rfl | rfl | rfl | rfl | rfl <;> rfl

/-- **What a script is told.** Whatever the configuration file says, whatever is observed, and
however the threads interleave: a process that has been started runs the script of a fire; each
name has the value in it that is documented for that fire, and none if none is; and a script that
knows no more than these values can tell which event it has been run for. -/
theorem script_told (text : Text) (process : ProcessInfo) {labels : List HookScripts.Label}
    {s : HookScripts}
    (hrun : HookScripts.machine.run
      (HookScripts.start (loadAppConfig (load text)).hooks process) labels = some s) :
    ∀ child ∈ s.executor.children, ∃ fired ∈ s.subsystem.fires,
      child.path = cString (fired.event.scriptPath (loadAppConfig (load text)).hooks) ∧
      (∀ name, '=' ∉ name.toList → getenv child.env name =
        (fired.documented s.subsystem.process name).map cString) ∧
      ∀ (process' : ProcessInfo) (fired' : Fired), (∀ name, '=' ∉ name.toList →
        getenv child.env name = (fired'.documented process' name).map cString) →
          fired'.event = fired.event := by
  intro child hchild
  have h := HookScripts.handed_of_run hrun
  obtain ⟨⟨job, calls⟩, hspawn, hspawned⟩ := List.mem_filterMap.mp hchild
  obtain ⟨hpath, -, henv, -⟩ := spawnOne_eq_some hspawned
  have hjob : job ∈ s.scripts := by
    rw [← h.order]
    simp only [List.mem_append, List.mem_map]
    exact Or.inl (Or.inl (Or.inl ⟨_, hspawn, rfl⟩))
  obtain ⟨fired, hfired, hmade⟩ := List.mem_filterMap.mp hjob
  have htold : ∀ name, '=' ∉ name.toList → getenv child.env name =
      (fired.documented s.subsystem.process name).map cString := by
    intro name hname
    rw [henv]
    exact Fired.getenv_eq hmade hname
  refine ⟨fired, hfired, ?_, htold, fun process' fired' htold' => ?_⟩
  · rw [hpath, (Fired.env_of_job hmade).1, h.config]
  · have hsame : ∀ name ∈ variableNames, (fired'.documented process' name).map cString =
        (fired.documented s.subsystem.process name).map cString := fun name hname =>
      (htold' name (names_plain name hname).1).symm.trans (htold name (names_plain name hname).1)
    apply Fire.eq_of_told
    · exact Option.some.inj (hsame "CEC_EVENT" (by decide))
    · intro name hname
      have hvalue := hsame name (List.mem_of_mem_drop hname)
      rwa [Fired.documented_event _ _ hname, Fired.documented_event _ _ hname] at hvalue

open HookScripts in
theorem script_told_standby :
    ∃ s : HookScripts,
      machine.run (start (loadAppConfig (load oneScript)).hooks {}) standbyRun = some s ∧
      s.executor.children.map (fun child => (child.path, getenv child.env "CEC_EVENT")) =
        [("/bin/off", some "TVStandby")] ∧
      ∀ child ∈ s.executor.children, ∃ fired ∈ s.subsystem.fires,
        child.path = cString (fired.event.scriptPath (loadAppConfig (load oneScript)).hooks) ∧
        (∀ name, '=' ∉ name.toList → getenv child.env name =
          (fired.documented s.subsystem.process name).map cString) ∧
        ∀ (process' : ProcessInfo) (fired' : Fired), (∀ name, '=' ∉ name.toList →
          getenv child.env name = (fired'.documented process' name).map cString) →
            fired'.event = fired.event := by
  have hreached : (machine.run (start (loadAppConfig (load oneScript)).hooks {}) standbyRun).map
      (fun s => s.executor.children.map fun child => (child.path, getenv child.env "CEC_EVENT")) =
      some [("/bin/off", some "TVStandby")] := by decide
  obtain ⟨s, hrun, hchildren⟩ := Option.map_eq_some_iff.mp hreached
  exact ⟨s, hrun, hchildren, script_told oneScript {} hrun⟩

end CecControl
