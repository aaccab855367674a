/-
# The connection flag

`m_connected` is a hint, but not an arbitrary one: whenever it is set there is an instance of
libcec, and the last `Open` of that instance succeeded with no `Close` since. Five members with
early returns and handlers touch the handle and the flag, and alerts clear the flag between any
two of their accesses; the triples below follow each of them.

Nothing that failed before stands in the way of `reopenConnection`: when libcec does its part, a
call of it makes a new instance and opens it.
-/

import CecControl.Cec.LibCecAdapter

namespace CecControl

open Lib

namespace LibCecAdapter

/-- The last `Open` of the instance succeeded, and no `Close` came after it. -/
def OpenOn (serial : ℕ) : List LibCecEvent → Prop
  | [] => False
  | .called n (.openPort _ _) outcome :: before =>
      if n = serial then outcome = (.ok true : Except Exn Bool) else OpenOn serial before
  | .called n .close _ :: before => n ≠ serial ∧ OpenOn serial before
  | _ :: before => OpenOn serial before

/-- There is an instance, and it is open. -/
def Opened (o : LibCecAdapter) : Prop := ∃ serial, o.adapter = some serial ∧ OpenOn serial o.history

structure Sound (o : LibCecAdapter) : Prop where
  opened : o.connected = true → o.Opened
  numbered : ∀ serial, o.adapter = some serial → serial < o.created

theorem sound_new : Sound {} := ⟨fun h => (by cases h), fun _ h => (by cases h)⟩

theorem Sound.alert {o : LibCecAdapter} (h : o.Sound) : o.alert.Sound :=
  ⟨fun hconnected => (by cases hconnected), h.numbered⟩

/-- Calls other than `Open` and `Close` leave open what is open. -/
theorem openOn_called {serial n : ℕ} {m : ICECAdapter} {outcome : Except Exn m.Result}
    {before : List LibCecEvent} (hopen : ∀ port timeoutMs, m ≠ .openPort port timeoutMs)
    (hclose : m ≠ .close) :
    OpenOn serial (.called n m outcome :: before) ↔ OpenOn serial before := by
  cases m with
  | openPort port timeoutMs => exact absurd rfl (hopen port timeoutMs)
  | close => exact absurd rfl hclose
  | _ => rfl

/-- `Open` leaves open what it opens. -/
theorem openOn_open {serial timeoutMs : ℕ} {port : Text} {outcome : Except Exn Bool}
    {before : List LibCecEvent} :
    OpenOn serial (.called serial (.openPort port timeoutMs) outcome :: before) ↔
      outcome = .ok true :=
  iff_of_eq (if_pos rfl)

/-! ## Accesses, with alerts in between -/

/-- The object as its owner sees it: alerts may have cleared the flag. -/
def amidAlerts : Shared LibCecAdapter AdapterAccess AdapterAccess.Ans where
  Performs o a answer o' := o.perform a answer = some o'
  Rely o o' := o' = o ∨ o' = o.alert
  refl _ := Or.inl rfl
  trans := by
    rintro o o' o'' (rfl | rfl) (rfl | rfl)
    · exact Or.inl rfl
    · exact Or.inr rfl
    · exact Or.inr rfl
    · exact Or.inr rfl

/-- An access is made on a sound object, and not through a null handle. -/
def Fits (o : LibCecAdapter) (a : AdapterAccess) : Prop :=
  o.Sound ∧ ∀ m, a = .member m → o.adapter ≠ none

/-- What the members' code knows on its way: something of the handle, and whether the flag is
known to be clear. -/
structure Knows (H : Option ℕ → Prop) (clear : Bool) (o : LibCecAdapter) : Prop where
  handle : H o.adapter
  sound : o.Sound
  clear : clear = true → o.connected = false

section Accesses

variable {H : Option ℕ → Prop} {clear : Bool}

theorem stable_knows : amidAlerts.Stable (Knows H clear) := by
  rintro o o' (rfl | rfl) h
  · exact h
  · exact ⟨h.handle, h.sound.alert, fun _ => rfl⟩

theorem stable_sound : amidAlerts.Stable Sound := by
  rintro o o' (rfl | rfl) h
  · exact h
  · exact h.alert

/-- Whatever is thrown, the object stays sound. -/
abbrev Keeps {α : Type} (P : LibCecAdapter → Prop) (m : AdapterM α)
    (R : α → LibCecAdapter → Prop) : Prop :=
  amidAlerts.Spec Fits P m R fun _ => Sound

theorem keeps_pure {α : Type} {value : α} {H' : Option ℕ → Prop} {clear' : Bool}
    (h : ∀ o, Knows H clear o → Knows H' clear' o) :
    Keeps (Knows H clear) (pure value) fun _ => Knows H' clear' :=
  Shared.Spec.pure stable_knows h

theorem Knows.fits {o : LibCecAdapter} {a : AdapterAccess} (h : Knows H clear o)
    (ha : ∀ m, a = .member m → ∀ handle, H handle → handle ≠ none) : Fits o a :=
  ⟨h.sound, fun m hm => ha m hm _ h.handle⟩

theorem keeps_hasAdapter :
    Keeps (Knows H clear) AdapterM.hasAdapter fun answer =>
      Knows (fun handle => H handle ∧ handle.isSome = answer) clear := by
  apply Shared.Spec.call stable_knows
  · exact fun o h => h.fits (by simp)
  · exact fun _ => stable_knows
  · intro o answer o' h hstate
    simp only [amidAlerts, perform, Option.ite_none_right_eq_some] at hstate
    obtain ⟨rfl, ⟨⟩⟩ := hstate
    exact ⟨⟨h.handle, rfl⟩, h.sound, h.clear⟩

theorem keeps_loadConnected :
    Keeps (Knows H clear) AdapterM.loadConnected fun answer => Knows H (clear || !answer) := by
  apply Shared.Spec.call stable_knows
  · exact fun o h => h.fits (by simp)
  · exact fun _ => stable_knows
  · intro o answer o' h hstate
    simp only [amidAlerts, perform, Option.ite_none_right_eq_some] at hstate
    obtain ⟨rfl, ⟨⟩⟩ := hstate
    refine ⟨h.handle, h.sound, fun hclear => ?_⟩
    rcases Bool.or_eq_true _ _ ▸ hclear with hclear | hclear
    · exact h.clear hclear
    · simpa using hclear

/-- Accesses that touch neither the handle nor the flag. -/
private theorem keeps_unrelated {a : AdapterAccess} {α : Type} {outcome : a.Ans → Except Exn α}
    (hcall : ∀ m, a ≠ .member m)
    (hsame : ∀ o answer o', perform o a answer = some o' →
      (∃ value, outcome answer = .ok value) ∧ o'.adapter = o.adapter ∧
        o'.connected = o.connected ∧ o'.created = o.created ∧ o'.history = o.history) :
    Keeps (Knows H clear) (ExceptT.mk (.call a fun answer => .ret (outcome answer)))
      fun _ => Knows H clear := by
  apply Shared.Spec.call stable_knows
  · exact fun o h => h.fits fun m hm => absurd hm (hcall m)
  · intro answer
    cases outcome answer with
    | ok value => exact stable_knows
    | error e => exact stable_sound
  · intro o answer o' h hstate
    obtain ⟨⟨value, hvalue⟩, hadapter, hconnected, hcreated, hhistory⟩ := hsame o answer o' hstate
    rw [hvalue]
    refine ⟨hadapter ▸ h.handle, ⟨?_, ?_⟩, hconnected ▸ h.clear⟩
    · rw [hconnected, Opened, hadapter, hhistory]
      exact h.sound.opened
    · rw [hadapter, hcreated]
      exact h.sound.numbered

theorem keeps_getPortName :
    Keeps (Knows H clear) AdapterM.getPortName fun _ => Knows H clear := by
  apply keeps_unrelated (by simp)
  intro o answer o' hstate
  simp only [perform, Option.ite_none_right_eq_some] at hstate
  obtain ⟨_, ⟨⟩⟩ := hstate
  exact ⟨⟨answer, rfl⟩, rfl, rfl, rfl, rfl⟩

theorem keeps_setPortName (port : Text) :
    Keeps (Knows H clear) (AdapterM.setPortName port) fun _ => Knows H clear := by
  apply keeps_unrelated (by simp)
  rintro o answer o' ⟨⟩
  exact ⟨⟨(), rfl⟩, rfl, rfl, rfl, rfl⟩

theorem keeps_sleep (ms : ℕ) :
    Keeps (Knows H clear) (AdapterM.sleep ms) fun _ => Knows H clear := by
  apply keeps_unrelated (by simp)
  rintro o answer o' ⟨⟩
  exact ⟨⟨(), rfl⟩, rfl, rfl, rfl, rfl⟩

theorem keeps_clearConnected :
    Keeps (Knows H clear) (AdapterM.storeConnected false) fun _ => Knows H true := by
  apply Shared.Spec.call stable_knows
  · exact fun o h => h.fits (by simp)
  · exact fun _ => stable_knows
  · rintro o answer o' h ⟨⟩
    exact ⟨h.handle, h.sound.alert, fun _ => rfl⟩

/-- `CECInitialise` is called without an instance; then the flag is clear. -/
theorem keeps_cecInitialise :
    Keeps (Knows (· = none) clear) AdapterM.cecInitialise fun answer =>
      Knows (fun handle => handle.isSome = answer) true := by
  apply Shared.Spec.call stable_knows
  · exact fun o h => h.fits (by simp)
  · intro outcome
    cases outcome with
    | ok answer => exact stable_knows
    | error e => exact stable_sound
  · rintro o outcome o' h ⟨⟩
    have hclear : o.connected = false := by
      by_contra hne
      obtain ⟨serial, hserial, -⟩ := h.sound.opened (by simpa using hne)
      exact absurd (h.handle.symm.trans hserial) (by simp)
    rcases outcome with e | (_ | _)
    · exact h.sound
    · exact ⟨rfl, ⟨fun h' => absurd h' (by simp [initialised, hclear]), by simp [initialised]⟩,
        fun _ => hclear⟩
    · refine ⟨rfl, ⟨fun h' => absurd h' (by simp [initialised, hclear]), ?_⟩, fun _ => hclear⟩
      rintro serial ⟨⟩
      exact Nat.lt_succ_self _

theorem keeps_reset :
    Keeps (Knows H true) AdapterM.reset fun _ => Knows (· = none) true := by
  apply Shared.Spec.call stable_knows
  · exact fun o h => h.fits (by simp)
  · exact fun _ => stable_knows
  · rintro o answer o' h ⟨⟩
    have hclear := h.clear rfl
    exact ⟨rfl, ⟨fun h' => absurd h' (by simp [hclear]), by simp⟩, fun _ => hclear⟩

/-- A call of libcec on the instance there is, whether it returns or throws. `Open` and `Close`
are only called with the flag known to be clear. -/
theorem keeps_member_or_throw {m : ICECAdapter}
    (hm : clear = true ∨ ((∀ port timeoutMs, m ≠ .openPort port timeoutMs) ∧ m ≠ .close)) :
    amidAlerts.Spec Fits (Knows (fun handle => H handle ∧ handle.isSome = true) clear)
      (AdapterM.member m) (fun _ => Knows (fun handle => H handle ∧ handle.isSome = true) clear)
      fun _ => Knows (fun handle => H handle ∧ handle.isSome = true) clear := by
  apply Shared.Spec.call stable_knows
  · exact fun o h => h.fits fun _ _ handle hhandle => by
      rw [← Option.isSome_iff_ne_none]
      exact hhandle.2
  · intro outcome
    cases outcome with
    | ok answer => exact stable_knows
    | error e => exact stable_knows
  · intro o outcome o' h hstate
    obtain ⟨serial, hserial, rfl⟩ := Option.map_eq_some_iff.mp hstate
    have hsound : Sound { o with history := .called serial m outcome :: o.history } := by
      refine ⟨fun hconnected => ?_, h.sound.numbered⟩
      rcases hm with hclear | ⟨hopen, hclose⟩
      · exact absurd hconnected (by simp [h.clear hclear])
      · obtain ⟨n, hn, hon⟩ := h.sound.opened hconnected
        exact ⟨n, hn, (openOn_called hopen hclose).mpr hon⟩
    cases outcome with
    | ok answer => exact ⟨h.handle, hsound, h.clear⟩
    | error e => exact ⟨h.handle, hsound, h.clear⟩

theorem keeps_member {m : ICECAdapter}
    (hm : clear = true ∨ ((∀ port timeoutMs, m ≠ .openPort port timeoutMs) ∧ m ≠ .close)) :
    Keeps (Knows (fun handle => H handle ∧ handle.isSome = true) clear) (AdapterM.member m)
      fun _ => Knows (fun handle => H handle ∧ handle.isSome = true) clear :=
  (keeps_member_or_throw hm).mono (fun _ _ h => h) fun _ _ h => h.sound

end Accesses

/-- The handle is known to hold an instance. -/
abbrev Held (handle : Option ℕ) : Prop := True ∧ handle.isSome = true

/-- After `Open` the instance is open if it says so. -/
theorem keeps_open (port : Text) (timeoutMs : ℕ) :
    Keeps (Knows Held true) (AdapterM.member (.openPort port timeoutMs)) fun (answer : Bool) o =>
      Knows Held true o ∧ (answer = true → o.Opened) := by
  have hstable (answer : Bool) : amidAlerts.Stable fun o : LibCecAdapter =>
      Knows Held true o ∧ (answer = true → o.Opened) := by
    rintro o o' (rfl | rfl) h
    · exact h
    · exact ⟨stable_knows (Or.inr rfl) h.1, h.2⟩
  intro o h
  have hmember := keeps_member (H := fun _ => True) (m := .openPort port timeoutMs) (Or.inl rfl) o h
  intro o' hrely
  refine ⟨(hmember o' hrely).1, fun outcome o'' hstate => ?_⟩
  have hnext := (hmember o' hrely).2 outcome o'' hstate
  obtain ⟨serial, hserial, rfl⟩ := Option.map_eq_some_iff.mp hstate
  match outcome with
  | .error e => exact hnext
  | .ok answer =>
      have hpost := hnext.post
      exact fun _ hrely' => hstable answer hrely' ⟨hpost, fun hanswer =>
        ⟨serial, hserial, openOn_open.mpr (congrArg Except.ok hanswer)⟩⟩

theorem keeps_setConnected :
    Keeps (fun o => Knows Held true o ∧ o.Opened) (AdapterM.storeConnected true)
      fun _ => Knows Held false := by
  have hstable : amidAlerts.Stable fun o => Knows Held true o ∧ o.Opened := by
    rintro o o' (rfl | rfl) h
    · exact h
    · exact ⟨stable_knows (Or.inr rfl) h.1, h.2⟩
  apply Shared.Spec.call hstable
  · exact fun o h => h.1.fits (by simp)
  · exact fun _ => stable_knows
  · rintro o answer o' h ⟨⟩
    exact ⟨h.1.handle, ⟨fun _ => h.2, h.1.sound.numbered⟩, fun h' => (by cases h')⟩

/-! ## The members -/

/-- What a member is entered with and leaves behind. -/
abbrev Settled : LibCecAdapter → Prop := Knows (fun _ => True) false

theorem Sound.settled {o : LibCecAdapter} (h : o.Sound) : Settled o :=
  ⟨trivial, h, fun h' => (by cases h')⟩

theorem Knows.settled {H : Option ℕ → Prop} {clear : Bool} {o : LibCecAdapter}
    (h : Knows H clear o) : Settled o := h.sound.settled

private theorem keeps_return {α : Type} {value : α} {H : Option ℕ → Prop} {clear : Bool} :
    Keeps (Knows H clear) (pure value) fun _ => Settled :=
  keeps_pure fun _ h => h.settled

private theorem thrown : ∀ _ : Exn, amidAlerts.Stable Sound := fun _ => stable_sound

theorem keeps_callIfConnected {R : Type} {fallback : R} {fn : AdapterM R}
    (hfn : Keeps (Knows Held false) fn fun _ => Settled) :
    Keeps Settled (callIfConnected fallback fn) fun _ => Settled := by
  unfold callIfConnected
  apply Shared.Spec.testNot thrown keeps_hasAdapter keeps_return
  apply Shared.Spec.testNot thrown keeps_loadConnected keeps_return
  exact hfn

theorem keeps_detectAdapter {H : Option ℕ → Prop} {clear : Bool} :
    Keeps (Knows (fun handle => H handle ∧ handle.isSome = true) clear) detectAdapter
      fun _ => Knows (fun handle => H handle ∧ handle.isSome = true) clear := by
  unfold detectAdapter
  apply Shared.Spec.bind thrown (keeps_member (by simp))
  intro found
  match found with
  | none => exact keeps_pure fun _ h => h
  | some port =>
      apply Shared.Spec.bind thrown (keeps_setPortName port)
      exact fun _ => keeps_pure fun _ h => h

theorem keeps_initializeAdapter : Keeps Settled initializeAdapter fun _ => Settled := by
  unfold initializeAdapter
  apply Shared.Spec.test thrown keeps_hasAdapter keeps_return
  have hnull : Keeps (Knows (fun handle => True ∧ handle.isSome = false) false)
      AdapterM.cecInitialise fun answer => Knows (fun handle => handle.isSome = answer) true :=
    keeps_cecInitialise.weaken fun _ h => ⟨by simpa using h.handle, h.sound, h.clear⟩
  apply Shared.Spec.testNot thrown hnull keeps_return
  have hversion : Keeps (Knows (fun handle => handle.isSome = true) true)
      (AdapterM.member .versionToString) fun _ => Knows Held true :=
    (keeps_member (Or.inl rfl)).weaken fun _ h => ⟨⟨trivial, h.handle⟩, h.sound, h.clear⟩
  apply Shared.Spec.bind thrown hversion
  intro _
  apply Shared.Spec.testNot thrown keeps_detectAdapter _ keeps_return
  apply Shared.Spec.bind thrown keeps_reset
  exact fun _ => keeps_return

theorem keeps_requestSystemAudio (config : AdapterConfig) :
    Keeps (Knows Held false) (requestSystemAudio config) fun _ => Settled := by
  unfold requestSystemAudio
  split_ifs
  · apply Shared.Spec.bind thrown (keeps_member (by simp))
    exact fun _ => keeps_return
  · exact keeps_return

theorem keeps_openPort (config : AdapterConfig) :
    Keeps (Knows Held true) (openPort config) fun _ => Settled := by
  unfold openPort
  apply Shared.Spec.bind thrown (keeps_member (Or.inl rfl))
  intro _
  apply Shared.Spec.bind thrown keeps_getPortName
  intro port
  apply Shared.Spec.testNot thrown (keeps_open port kConnectTimeoutMs)
  · exact keeps_return.weaken fun _ h => h.1
  · have hset := keeps_setConnected.weaken fun (o : LibCecAdapter)
      (h : Knows Held true o ∧ (true = true → o.Opened)) => ⟨h.1, h.2 rfl⟩
    apply Shared.Spec.bind thrown hset
    intro _
    apply Shared.Spec.bind thrown (keeps_requestSystemAudio config)
    exact fun _ => keeps_return

theorem keeps_openConnection (config : AdapterConfig) :
    Keeps Settled (openConnection config) fun _ => Settled := by
  unfold openConnection
  apply Shared.Spec.testNot thrown keeps_hasAdapter keeps_return
  apply Shared.Spec.test thrown keeps_loadConnected keeps_return
  apply Shared.Spec.bind thrown keeps_getPortName
  intro port
  split_ifs
  · exact keeps_return
  · apply Shared.Spec.handle (fun _ => stable_knows) (keeps_openPort config)
    intro e
    have hclear := keeps_clearConnected.weaken fun o (h : Sound o) => h.settled
    apply Shared.Spec.bind thrown hclear
    exact fun _ => keeps_return

theorem keeps_closeConnection : Keeps Settled closeConnection fun _ => Settled := by
  unfold closeConnection
  apply Shared.Spec.testNot thrown keeps_loadConnected keeps_return
  apply Shared.Spec.bind thrown keeps_clearConnected
  intro _
  apply Shared.Spec.testNot thrown keeps_hasAdapter keeps_return
  apply Shared.Spec.handle (fun _ => stable_knows)
  · apply Shared.Spec.bind thrown (keeps_member (Or.inl rfl))
    exact fun _ => (keeps_member (Or.inl rfl)).mono (fun _ _ h => h.settled) fun _ _ h => h
  · exact fun _ => keeps_return.weaken fun _ h => h.settled

theorem keeps_tearDown : Keeps Settled tearDown fun _ => Knows (· = none) false := by
  unfold tearDown
  apply Shared.Spec.testNot thrown keeps_hasAdapter
  · exact keeps_pure fun _ h => ⟨by simpa using h.handle, h.sound, h.clear⟩
  apply Shared.Spec.bind thrown keeps_clearConnected
  intro _
  have hclose : Keeps (Knows Held true)
      (AdapterM.catchStd (AdapterM.member .close) (pure ())) fun _ => Knows Held true := by
    apply Shared.Spec.handle (fun _ => stable_knows) (keeps_member_or_throw (Or.inl rfl))
    intro e
    cases e with
    | std => exact keeps_pure fun _ h => h
    | other => exact fun o h o' hrely => (stable_knows hrely h).sound
  apply Shared.Spec.bind thrown hclose
  intro _
  apply Shared.Spec.bind thrown keeps_reset
  exact fun _ => (keeps_sleep _).mono (fun _ _ h => ⟨h.handle, h.sound, fun h' => (by cases h')⟩)
    fun _ _ h => h

theorem keeps_reopenConnection (config : AdapterConfig) :
    Keeps Settled (reopenConnection config) fun _ => Settled := by
  unfold reopenConnection
  apply Shared.Spec.bind thrown keeps_tearDown
  intro _
  apply Shared.Spec.testNot thrown keeps_cecInitialise keeps_return
  have hdetect := keeps_detectAdapter.weaken
    fun o (h : Knows (fun handle => handle.isSome = true) true o) =>
      (⟨⟨trivial, h.handle⟩, h.sound, h.clear⟩ : Knows Held true o)
  apply Shared.Spec.testNot thrown hdetect
  · apply Shared.Spec.bind thrown keeps_reset
    exact fun _ => keeps_return
  · exact (keeps_openConnection config).weaken fun _ h => h.settled

/-- A command or query: one call of libcec, none of them `Open` or `Close`. -/
private theorem keeps_command {m : ICECAdapter} {fallback : m.Result}
    (hm : (∀ port timeoutMs, m ≠ .openPort port timeoutMs) ∧ m ≠ .close) :
    Keeps Settled (callIfConnected fallback (AdapterM.member m)) fun _ => Settled :=
  keeps_callIfConnected <|
    (keeps_member (Or.inr hm)).mono (fun _ _ h => h.settled) fun _ _ h => h

/-- Every member keeps the object sound and never calls through a null handle. -/
theorem keeps_body (config : AdapterConfig) (c : OwnerCall) :
    Keeps Settled (c.body config) fun _ => Settled := by
  cases c with
  | initializeAdapter => exact keeps_initializeAdapter
  | openConnection => exact keeps_openConnection config
  | closeConnection => exact keeps_closeConnection
  | reopenConnection => exact keeps_reopenConnection config
  | isConnected => exact keeps_loadConnected.mono (fun _ _ h => h.settled) fun _ _ h => h
  | sendKeypress address key release =>
      cases release with
      | true => exact keeps_command (m := .sendKeyRelease address) (by simp)
      | false => exact keeps_command (m := .sendKeypress address key false) (by simp)
  | powerOnDevice address => exact keeps_command (m := .powerOnDevices address) (by simp)
  | standbyDevice address => exact keeps_command (m := .standbyDevices address) (by simp)
  | volumeUp => exact keeps_command (m := .volumeUp) (by simp)
  | volumeDown => exact keeps_command (m := .volumeDown) (by simp)
  | toggleMute => exact keeps_command (m := .audioToggleMute) (by simp)
  | setStreamPath physicalAddress =>
      exact keeps_command (m := .setStreamPath physicalAddress) (by simp)
  | getDevicePhysicalAddress address =>
      exact keeps_command (m := .getDevicePhysicalAddress address) (by simp)
  | isDeviceActive address => exact keeps_command (m := .isActiveDevice address) (by simp)
  | getDevicePowerStatus address =>
      exact keeps_command (m := .getDevicePowerStatus address) (by simp)
  | getDeviceOSDName address => exact keeps_command (m := .getDeviceOSDName address) (by simp)
  | getActiveDevices => exact keeps_command (m := .getActiveDevices) (by simp)
  | getActiveSource => exact keeps_command (m := .getActiveSource) (by simp)
  | standbyDevices address => exact keeps_command (m := .standbyDevices address) (by simp)
  | powerOnDevices address => exact keeps_command (m := .powerOnDevices address) (by simp)

end LibCecAdapter

end CecControl
