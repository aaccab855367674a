/-
# Reopening

The object, its owner and the alert thread as a machine: in every state of every run the flag is
sound, and no call goes through a null handle. And in every state between two calls, whatever has
failed before, a call of `reopenConnection` that libcec answers favourably and that no alert
disturbs returns true, with a new instance opened.
-/

import CecControl.Cec.ConnectionFlag

namespace CecControl

open Lib

namespace OwnedAdapter

open LibCecAdapter

/-! ## Soundness, along every run -/

/-- Between calls the object is sound, and a call under way keeps it so. -/
def Invariant (s : OwnedAdapter) : Prop :=
  match s.running with
  | none => s.object.Sound
  | some pending => amidAlerts.Steady Fits (fun _ => Sound) pending.rest s.object

theorem invariant_pending {o : LibCecAdapter} {pending : PendingCall} :
    Invariant ⟨o, some pending⟩ ↔ amidAlerts.Steady Fits (fun _ => Sound) pending.rest o := Iff.rfl

theorem Invariant.sound {s : OwnedAdapter} (h : s.Invariant) : s.object.Sound := by
  obtain ⟨object, _ | ⟨c, rest⟩⟩ := s
  · exact h
  · cases rest with
    | ret outcome => exact (invariant_pending.mp h).post
    | call a next => exact (invariant_pending.mp h).fits.1

/-- The next access goes through the handle, which is null. -/
def DereferencesNull (s : OwnedAdapter) : Prop :=
  ∃ c m next, s.running = some ⟨c, .call (.member m) next⟩ ∧ s.object.adapter = none

theorem Invariant.not_dereferencesNull {s : OwnedAdapter} (h : s.Invariant) :
    ¬ s.DereferencesNull := by
  rintro ⟨c, m, next, hrunning, hnull⟩
  simp only [Invariant, hrunning] at h
  exact (Shared.Steady.fits h).2 m rfl hnull

theorem invariant_step {config : AdapterConfig} {s s' : OwnedAdapter} {label : OwnerLabel}
    (h : s.Invariant) (hstep : s.step config label = some s') : s'.Invariant := by
  obtain ⟨object, running⟩ := s
  cases label with
  | invoke c =>
      cases running with
      | some pending => cases hstep
      | none =>
          cases hstep
          apply (keeps_body config c object (Sound.settled h)).mono
          intro outcome o hpost
          cases outcome with
          | ok value => exact Knows.sound hpost
          | error e => exact hpost
  | access a answer =>
      cases running with
      | none => cases hstep
      | some pending =>
          simp only [step, Option.bind_eq_some_iff, Option.map_eq_some_iff] at hstep
          obtain ⟨rest, hrest, object', hobject, rfl⟩ := hstep
          exact (invariant_pending.mp h).resume hrest hobject
  | leave =>
      match running, hstep with
      | some ⟨c, .ret outcome⟩, hstep =>
          cases hstep
          exact (invariant_pending.mp h).post
  | alert =>
      cases hstep
      cases running with
      | none => exact Sound.alert h
      | some pending => exact (invariant_pending.mp h).relied (Or.inr rfl)

theorem invariant_run {config : AdapterConfig} {labels : List OwnerLabel} {s : OwnedAdapter}
    (hrun : (machine config).run {} labels = some s) : s.Invariant := by
  have hinit : Invariant {} := sound_new
  exact (machine config).invariant_of_step invariant_step hinit hrun

end OwnedAdapter

/-! ## A favourable call of `reopenConnection` -/

/-- libcec does its part: `CECInitialise` makes an instance, an adapter is found on a port with a
name, `Open` succeeds, and nothing throws. -/
def AdapterAccess.Favourable : (a : AdapterAccess) → a.Ans → Prop
  | .cecInitialise, outcome => outcome = (.ok true : Except Exn Bool)
  | .member .detectAdapters, outcome =>
      ∃ port : Text, port ≠ [] ∧ outcome = (.ok (some port) : Except Exn (Option Text))
  | .member (.openPort _ _), outcome => outcome = (.ok true : Except Exn Bool)
  | .member m, outcome => ∃ value : m.Result, outcome = .ok value
  | _, _ => True

namespace LibCecAdapter

open AdapterAccess

/-- The object while libcec does its part and no alert arrives. -/
def undisturbed : Shared LibCecAdapter AdapterAccess AdapterAccess.Ans where
  Performs o a answer o' := Favourable a answer ∧ o.perform a answer = some o'
  Rely o o' := o' = o
  refl _ := rfl
  trans h h' := h'.trans h

/-- There is a favourable answer. -/
def Enabled (o : LibCecAdapter) (a : AdapterAccess) : Prop :=
  ∃ answer o', undisturbed.Performs o a answer o'

/-- The code returns, in `R`, without an exception. -/
abbrev Reaches {α : Type} (P : LibCecAdapter → Prop) (m : AdapterM α)
    (R : α → LibCecAdapter → Prop) : Prop :=
  undisturbed.Spec Enabled P m R fun _ _ => False

private theorem stable_undisturbed {P : LibCecAdapter → Prop} : undisturbed.Stable P := by
  rintro o o' rfl h
  exact h

private theorem unthrown : ∀ _ : Exn, undisturbed.Stable fun _ => False :=
  fun _ _ _ _ h => h

section Accesses

variable {P : LibCecAdapter → Prop} {α : Type}

theorem reaches_pure {value : α} {R : α → LibCecAdapter → Prop} (h : ∀ o, P o → R value o) :
    Reaches P (pure value) R :=
  Shared.Spec.pure stable_undisturbed h

/-- An access of the object itself. -/
private theorem reaches_access {a : AdapterAccess} {value : a.Ans → α}
    {R : α → LibCecAdapter → Prop} (hfavourable : ∀ answer, Favourable a answer)
    (henabled : ∀ o, P o → ∃ answer o', o.perform a answer = some o')
    (h : ∀ o answer o', P o → o.perform a answer = some o' → R (value answer) o') :
    Reaches P (ExceptT.mk (.call a fun answer => .ret (.ok (value answer)))) R := by
  apply Shared.Spec.call stable_undisturbed
  · intro o hP
    obtain ⟨answer, o', hstate⟩ := henabled o hP
    exact ⟨answer, o', hfavourable answer, hstate⟩
  · exact fun _ => stable_undisturbed
  · exact fun o answer o' hP hstate => h o answer o' hP hstate.2

theorem reaches_hasAdapter :
    Reaches P AdapterM.hasAdapter fun answer o => P o ∧ o.adapter.isSome = answer := by
  apply reaches_access
  · exact fun _ => trivial
  · exact fun o _ => ⟨o.adapter.isSome, o, if_pos rfl⟩
  · intro o answer o' h hstate
    simp only [perform, Option.ite_none_right_eq_some] at hstate
    obtain ⟨rfl, ⟨⟩⟩ := hstate
    exact ⟨h, rfl⟩

theorem reaches_loadConnected :
    Reaches P AdapterM.loadConnected fun answer o => P o ∧ o.connected = answer := by
  apply reaches_access
  · exact fun _ => trivial
  · exact fun o _ => ⟨o.connected, o, if_pos rfl⟩
  · intro o answer o' h hstate
    simp only [perform, Option.ite_none_right_eq_some] at hstate
    obtain ⟨rfl, ⟨⟩⟩ := hstate
    exact ⟨h, rfl⟩

theorem reaches_getPortName :
    Reaches P AdapterM.getPortName fun answer o => P o ∧ o.portName = answer := by
  apply reaches_access
  · exact fun _ => trivial
  · exact fun o _ => ⟨o.portName, o, if_pos rfl⟩
  · intro o answer o' h hstate
    simp only [perform, Option.ite_none_right_eq_some] at hstate
    obtain ⟨rfl, ⟨⟩⟩ := hstate
    exact ⟨h, rfl⟩

theorem reaches_storeConnected {value : Bool} {R : LibCecAdapter → Prop}
    (h : ∀ o, P o → R { o with connected := value }) :
    Reaches P (AdapterM.storeConnected value) fun _ => R := by
  apply reaches_access
  · exact fun _ => trivial
  · exact fun o _ => ⟨(), _, rfl⟩
  · rintro o answer o' hP ⟨⟩
    exact h o hP

theorem reaches_setPortName {port : Text} {R : LibCecAdapter → Prop}
    (h : ∀ o, P o → R { o with portName := port }) :
    Reaches P (AdapterM.setPortName port) fun _ => R := by
  apply reaches_access
  · exact fun _ => trivial
  · exact fun o _ => ⟨(), _, rfl⟩
  · rintro o answer o' hP ⟨⟩
    exact h o hP

theorem reaches_reset {R : LibCecAdapter → Prop} (h : ∀ o, P o → R { o with adapter := none }) :
    Reaches P AdapterM.reset fun _ => R := by
  apply reaches_access
  · exact fun _ => trivial
  · exact fun o _ => ⟨(), _, rfl⟩
  · rintro o answer o' hP ⟨⟩
    exact h o hP

theorem reaches_sleep (ms : ℕ) : Reaches P (AdapterM.sleep ms) fun _ => P := by
  apply reaches_access
  · exact fun _ => trivial
  · exact fun o _ => ⟨(), _, rfl⟩
  · rintro o answer o' hP ⟨⟩
    exact hP

theorem reaches_cecInitialise {R : LibCecAdapter → Prop}
    (h : ∀ o, P o → R (o.initialised (.ok true))) :
    Reaches P AdapterM.cecInitialise fun answer o => answer = true ∧ R o := by
  apply Shared.Spec.call stable_undisturbed
  · exact fun o _ => ⟨.ok true, _, rfl, rfl⟩
  · exact fun _ => stable_undisturbed
  · rintro o outcome o' hP ⟨rfl, ⟨⟩⟩
    exact ⟨rfl, h o hP⟩

/-- A favourable call of libcec returns. -/
private theorem exists_of_favourable {m : ICECAdapter} {outcome : Except Exn m.Result}
    (h : Favourable (.member m) outcome) : ∃ value, outcome = .ok value := by
  cases m with
  | detectAdapters =>
      obtain ⟨port, -, hport⟩ := h
      exact ⟨some port, hport⟩
  | openPort port timeoutMs => exact ⟨true, h⟩
  | _ => exact h

private theorem exists_favourable (m : ICECAdapter) :
    ∃ outcome, Favourable (.member m) outcome := by
  cases m with
  | detectAdapters => exact ⟨.ok (some ['a']), ['a'], by simp, rfl⟩
  | openPort port timeoutMs => exact ⟨.ok true, rfl⟩
  | versionToString | close => exact ⟨.ok (), (), rfl⟩
  | getDevicePhysicalAddress | getDevicePowerStatus => exact ⟨.ok (0 : ℕ), (0 : ℕ), rfl⟩
  | getActiveSource => exact ⟨.ok (0 : ℤ), (0 : ℤ), rfl⟩
  | getDeviceOSDName => exact ⟨.ok ([] : Text), ([] : Text), rfl⟩
  | getActiveDevices => exact ⟨.ok LogicalAddresses.clear, LogicalAddresses.clear, rfl⟩
  | _ => exact ⟨.ok true, true, rfl⟩

/-- A call of libcec on the instance there is. -/
theorem reaches_member {m : ICECAdapter} {R : m.Result → LibCecAdapter → Prop}
    (hheld : ∀ o, P o → o.adapter.isSome = true)
    (h : ∀ o serial value, P o → o.adapter = some serial → Favourable (.member m) (.ok value) →
      R value { o with history := .called serial m (.ok value) :: o.history }) :
    Reaches P (AdapterM.member m) R := by
  apply Shared.Spec.call stable_undisturbed
  · intro o hP
    obtain ⟨outcome, hfavourable⟩ := exists_favourable m
    obtain ⟨serial, hserial⟩ := Option.isSome_iff_exists.mp (hheld o hP)
    exact ⟨outcome, _, hfavourable, Option.map_eq_some_iff.mpr ⟨serial, hserial, rfl⟩⟩
  · exact fun _ => stable_undisturbed
  · rintro o outcome o' hP ⟨hfavourable, hstate⟩
    obtain ⟨value, rfl⟩ := exists_of_favourable hfavourable
    obtain ⟨serial, hserial, rfl⟩ := Option.map_eq_some_iff.mp hstate
    exact h o serial value hP hserial hfavourable

end Accesses

/-- Torn down, with `n` instances made so far. -/
structure Gone (n : ℕ) (o : LibCecAdapter) : Prop where
  adapter : o.adapter = none
  connected : o.connected = false
  created : o.created = n

/-- Instance `n` is held and not yet connected. -/
structure Made (n : ℕ) (o : LibCecAdapter) : Prop where
  adapter : o.adapter = some n
  connected : o.connected = false

theorem reaches_tearDown (n : ℕ) :
    Reaches (fun o => o.Sound ∧ o.created = n) tearDown fun _ => Gone n := by
  unfold tearDown
  apply Shared.Spec.testNot unthrown reaches_hasAdapter
  · apply reaches_pure
    rintro o ⟨⟨hsound, hcreated⟩, hnull⟩
    refine ⟨by simpa using hnull, ?_, hcreated⟩
    by_contra hne
    obtain ⟨serial, hserial, -⟩ := hsound.opened (by simpa using hne)
    simp [hserial] at hnull
  have hclear : Reaches (fun o : LibCecAdapter => (o.Sound ∧ o.created = n) ∧ o.adapter.isSome = true)
      (AdapterM.storeConnected false) fun _ o =>
        o.adapter.isSome = true ∧ o.connected = false ∧ o.created = n :=
    reaches_storeConnected fun o h => ⟨h.2, rfl, h.1.2⟩
  apply Shared.Spec.bind unthrown hclear
  intro _
  have hclose : Reaches
      (fun o : LibCecAdapter => o.adapter.isSome = true ∧ o.connected = false ∧ o.created = n)
      (AdapterM.catchStd (AdapterM.member .close) (pure ())) fun _ o =>
        o.connected = false ∧ o.created = n := by
    apply Shared.Spec.handle (fun _ => stable_undisturbed)
    · exact reaches_member (fun o h => h.1) fun o _ _ h _ _ => h.2
    · exact fun _ _ h => h.elim
  apply Shared.Spec.bind unthrown hclose
  intro _
  apply Shared.Spec.bind unthrown (reaches_reset fun o h => (⟨rfl, h.1, h.2⟩ : Gone n _))
  exact fun _ => reaches_sleep _

theorem reaches_detectAdapter (n : ℕ) :
    Reaches (Made n) detectAdapter fun answer o => answer = true ∧ Made n o ∧ o.portName ≠ [] := by
  unfold detectAdapter
  have hfound : Reaches (Made n) (AdapterM.member .detectAdapters) fun (found : Option Text) o =>
      Made n o ∧ ∃ port, port ≠ [] ∧ found = some port := by
    apply reaches_member (fun o h => by simp [h.adapter])
    rintro o serial value h hserial ⟨port, hport, ⟨⟩⟩
    exact ⟨⟨h.adapter, h.connected⟩, port, hport, rfl⟩
  apply Shared.Spec.bind unthrown hfound
  intro found
  match found with
  | none => exact fun o ⟨_, _, _, h⟩ => (by cases h)
  | some port =>
      have hset : Reaches (fun o => Made n o ∧ ∃ found, found ≠ [] ∧ some port = some found)
          (AdapterM.setPortName port) fun _ o => Made n o ∧ o.portName ≠ [] := by
        apply reaches_setPortName
        rintro o ⟨h, found, hfound, ⟨⟩⟩
        exact ⟨⟨h.adapter, h.connected⟩, hfound⟩
      apply Shared.Spec.bind unthrown hset
      exact fun _ => reaches_pure fun o h => ⟨rfl, h⟩

/-- Instance `n` is held, open and connected. -/
structure Connected (n : ℕ) (o : LibCecAdapter) : Prop where
  adapter : o.adapter = some n
  connected : o.connected = true
  opened : OpenOn n o.history

theorem reaches_requestSystemAudio (config : AdapterConfig) (n : ℕ) :
    Reaches (Connected n) (requestSystemAudio config) fun _ => Connected n := by
  unfold requestSystemAudio
  split_ifs
  · have haudio : Reaches (Connected n) (AdapterM.member (.audioEnable true)) fun _ =>
        Connected n := by
      apply reaches_member (fun o h => by simp [h.adapter])
      exact fun o _ _ h _ _ =>
        ⟨h.adapter, h.connected, (openOn_called (by simp) (by simp)).mpr h.opened⟩
    apply Shared.Spec.bind unthrown haudio
    exact fun _ => reaches_pure fun o h => h
  · exact reaches_pure fun o h => h

theorem reaches_openPort (config : AdapterConfig) (n : ℕ) :
    Reaches (Made n) (openPort config) fun answer o => answer = true ∧ Connected n o := by
  unfold openPort
  have hconfigured : Reaches (Made n) (AdapterM.member .setConfiguration) fun _ => Made n := by
    apply reaches_member (fun o h => by simp [h.adapter])
    exact fun o _ _ h _ _ => ⟨h.adapter, h.connected⟩
  apply Shared.Spec.bind unthrown hconfigured
  intro _
  apply Shared.Spec.bind unthrown reaches_getPortName
  intro port
  have hopen : Reaches (fun o => Made n o ∧ o.portName = port)
      (AdapterM.member (.openPort port kConnectTimeoutMs)) fun (answer : Bool) o =>
        answer = true ∧ o.adapter = some n ∧ OpenOn n o.history := by
    apply reaches_member (fun o h => by simp [h.1.adapter])
    intro o serial value h hserial hvalue
    obtain rfl : serial = n := Option.some.inj (hserial.symm.trans h.1.adapter)
    exact ⟨Except.ok.inj hvalue, h.1.adapter, openOn_open.mpr hvalue⟩
  apply Shared.Spec.testNot unthrown hopen
  · exact fun o h => absurd h.1 (by simp)
  have hset : Reaches (fun o : LibCecAdapter =>
        true = true ∧ o.adapter = some n ∧ OpenOn n o.history)
      (AdapterM.storeConnected true) fun _ => Connected n :=
    reaches_storeConnected fun o h => ⟨h.2.1, rfl, h.2.2⟩
  apply Shared.Spec.bind unthrown hset
  intro _
  apply Shared.Spec.bind unthrown (reaches_requestSystemAudio config n)
  exact fun _ => reaches_pure fun o h => ⟨rfl, h⟩

theorem reaches_openConnection (config : AdapterConfig) (n : ℕ) :
    Reaches (fun o => Made n o ∧ o.portName ≠ []) (openConnection config) fun answer o =>
      answer = true ∧ Connected n o := by
  unfold openConnection
  apply Shared.Spec.testNot unthrown reaches_hasAdapter
  · rintro o ⟨⟨h, -⟩, hnull⟩
    simp [h.adapter] at hnull
  apply Shared.Spec.test unthrown reaches_loadConnected
  · rintro o ⟨⟨⟨h, -⟩, -⟩, hconnected⟩
    simp [h.connected] at hconnected
  apply Shared.Spec.bind unthrown reaches_getPortName
  intro port
  split_ifs with hport
  · rintro o ⟨⟨⟨⟨-, hname⟩, -⟩, -⟩, hsame⟩
    exact absurd (hsame.trans (List.isEmpty_iff.mp hport)) hname
  · apply Shared.Spec.handle (fun _ => stable_undisturbed)
    · exact (reaches_openPort config n).weaken fun o h => h.1.1.1.1
    · exact fun _ _ h => h.elim

/-- Whatever the object has been through, it ends up connected, on a new instance. -/
theorem reaches_reopenConnection (config : AdapterConfig) (n : ℕ) :
    Reaches (fun o => o.Sound ∧ o.created = n) (reopenConnection config) fun answer o =>
      answer = true ∧ Connected n o := by
  unfold reopenConnection
  apply Shared.Spec.bind unthrown (reaches_tearDown n)
  intro _
  have hinitialised : Reaches (Gone n) AdapterM.cecInitialise fun answer o =>
      answer = true ∧ Made n o :=
    reaches_cecInitialise fun o h => ⟨congrArg some h.created, h.connected⟩
  apply Shared.Spec.testNot unthrown hinitialised
  · exact fun o h => absurd h.1 (by simp)
  apply Shared.Spec.testNot unthrown ((reaches_detectAdapter n).weaken fun o h => h.2)
  · exact fun o h => absurd h.1 (by simp)
  · exact (reaches_openConnection config n).weaken fun o h => h.2

/-! ## It returns -/

open Program

section Within

private theorem within_access {α : Type} {a : AdapterAccess} (outcome : a.Ans → Except Exn α) :
    (ExceptT.mk (.call a fun answer => .ret (outcome answer)) : AdapterM α).run.Within 1 :=
  fun _ => within_ret 0 _

private theorem within_pure {α : Type} (n : ℕ) (value : α) :
    (pure value : AdapterM α).run.Within n := within_ret n _

theorem within_detectAdapter : detectAdapter.run.Within 2 := by
  apply within_bind (n := 1) (k := 1) (within_access _)
  intro found
  match found with
  | none => exact within_pure 1 _
  | some port => exact within_bind (n := 1) (k := 0) (within_access _) fun _ => within_pure 0 _

theorem within_requestSystemAudio (config : AdapterConfig) :
    (requestSystemAudio config).run.Within 1 := by
  unfold requestSystemAudio
  split_ifs
  · exact within_bind (n := 1) (k := 0) (within_access _) fun _ => within_pure 0 _
  · exact within_pure 1 _

theorem within_openPort (config : AdapterConfig) : (openPort config).run.Within 5 := by
  apply within_bind (n := 1) (k := 4) (within_access _)
  intro _
  apply within_bind (n := 1) (k := 3) (within_access _)
  intro port
  apply within_bind (n := 1) (k := 2) (within_access _)
  intro answer
  split_ifs
  · exact within_pure 2 _
  · apply within_bind (n := 1) (k := 1) (within_access _)
    intro _
    apply within_bind (n := 1) (k := 0) (within_requestSystemAudio config)
    exact fun _ => within_pure 0 _

theorem within_openConnection (config : AdapterConfig) : (openConnection config).run.Within 9 := by
  apply within_bind (n := 1) (k := 8) (within_access _)
  intro held
  split_ifs
  · exact within_pure 8 _
  apply within_bind (n := 1) (k := 7) (within_access _)
  intro connected
  split_ifs
  · exact within_pure 7 _
  apply within_bind (n := 1) (k := 6) (within_access _)
  intro port
  split_ifs
  · exact within_pure 6 _
  apply within_tryCatch (n := 5) (k := 1) (within_openPort config)
  exact fun _ => within_bind (n := 1) (k := 0) (within_access _) fun _ => within_pure 0 _

theorem within_tearDown : tearDown.run.Within 5 := by
  apply within_bind (n := 1) (k := 4) (within_access _)
  intro held
  split_ifs
  · exact within_pure 4 _
  apply within_bind (n := 1) (k := 3) (within_access _)
  intro _
  have hclose : (AdapterM.catchStd (AdapterM.member .close) (pure ())).run.Within 1 := by
    apply within_tryCatch (n := 1) (k := 0) (within_access _)
    rintro (_ | _) <;> exact within_ret 0 _
  apply within_bind (n := 1) (k := 2) hclose
  intro _
  apply within_bind (n := 1) (k := 1) (within_access _)
  exact fun _ => within_access _

theorem within_reopenConnection (config : AdapterConfig) :
    (reopenConnection config).run.Within 17 := by
  apply within_bind (n := 5) (k := 12) within_tearDown
  intro _
  apply within_bind (n := 1) (k := 11) (within_access _)
  intro made
  split_ifs
  · exact within_pure 11 _
  apply within_bind (n := 2) (k := 9) within_detectAdapter
  intro found
  split_ifs
  · exact within_bind (n := 1) (k := 8) (within_access _) fun _ => within_pure 8 _
  · exact within_openConnection config

end Within

end LibCecAdapter

namespace OwnedAdapter

open LibCecAdapter

/-- The call goes on, libcec does its part, and no alert arrives. -/
def OwnerLabel.Favourable : OwnerLabel → Prop
  | .access a answer => a.Favourable answer
  | _ => False

/-- A favourable run stays in the call it started in, makes at most the accesses the call has,
and gets where the call gets. -/
theorem favourable_run {config : AdapterConfig} {c : OwnerCall}
    {Post : Except Exn c.Result → LibCecAdapter → Prop} {n : ℕ}
    {rest : Program AdapterAccess AdapterAccess.Ans (Except Exn c.Result)} {o : LibCecAdapter}
    (hsteady : undisturbed.Steady Enabled Post rest o) (hwithin : rest.Within n)
    {during : List OwnerLabel} {final : OwnedAdapter}
    (hfavourable : ∀ label ∈ during, OwnerLabel.Favourable label)
    (hrun : (machine config).run ⟨o, some ⟨c, rest⟩⟩ during = some final) :
    during.length ≤ n ∧ ∃ rest', final.running = some ⟨c, rest'⟩ ∧
      undisturbed.Steady Enabled Post rest' final.object := by
  induction during generalizing o rest n with
  | nil =>
      cases hrun
      exact ⟨Nat.zero_le n, rest, rfl, hsteady⟩
  | cons label during ih =>
      obtain ⟨next, hstep, hrest⟩ := (machine config).run_cons_eq_some.mp hrun
      have hlabel := hfavourable label (by simp)
      cases label with
      | invoke | leave | alert => exact hlabel.elim
      | access a answer =>
          simp only [machine, step, Option.bind_eq_some_iff, Option.map_eq_some_iff] at hstep
          obtain ⟨after, hresume, o', hobject, rfl⟩ := hstep
          have hsteady' := hsteady.resume hresume ⟨hlabel, hobject⟩
          obtain ⟨following, rfl, rfl⟩ := Program.resume_eq_some.mp hresume
          match n with
          | 0 => exact hwithin.elim
          | n + 1 =>
              obtain ⟨hlength, hfinal⟩ := ih hsteady' (hwithin answer)
                (fun l hl => hfavourable l (by simp [hl])) hrest
              exact ⟨Nat.succ_le_succ hlength, hfinal⟩

/-- The flag is set, and there is a new instance, opened and not closed since. -/
structure Recovered (before after : LibCecAdapter) : Prop where
  connected : after.connected = true
  adapter : after.adapter = some before.created
  opened : OpenOn before.created after.history
  fresh : before.adapter ≠ some before.created

/-- In every state of every run, with alerts at any moment and any outcome of libcec's calls, the
flag is sound and no call goes through a null handle. Between calls `reopenConnection` recovers:
every favourable run of it has at most seventeen accesses, goes on until it has returned, and then
has returned true on a recovered object. -/
theorem flag_sound_and_recoverable (config : AdapterConfig) (labels : List OwnerLabel)
    (s : OwnedAdapter) (hrun : (machine config).run {} labels = some s) :
    (s.object.connected = true → s.object.Opened) ∧ ¬ s.DereferencesNull ∧
      (s.running = none → ∀ during final, (∀ label ∈ during, OwnerLabel.Favourable label) →
        (machine config).run s (.invoke .reopenConnection :: during) = some final →
        during.length ≤ 17 ∧ ∃ rest, final.running = some ⟨.reopenConnection, rest⟩ ∧
          (∀ outcome, rest = .ret outcome →
            outcome = (.ok true : Except Exn Bool) ∧ Recovered s.object final.object) ∧
          ((∀ outcome, rest ≠ .ret outcome) →
            ∃ label next, OwnerLabel.Favourable label ∧
              (machine config).step final label = some next)) := by
  have hinv := invariant_run hrun
  refine ⟨hinv.sound.opened, hinv.not_dereferencesNull, ?_⟩
  intro hidle during final hfavourable hcall
  obtain ⟨next, hinvoke, hduring⟩ := (machine config).run_cons_eq_some.mp hcall
  obtain ⟨object, running⟩ := s
  obtain rfl : running = none := hidle
  cases hinvoke
  have hreaches := reaches_reopenConnection config object.created object ⟨hinv, rfl⟩
  obtain ⟨hlength, rest, hrunning, hsteady⟩ :=
    favourable_run hreaches (within_reopenConnection config) hfavourable hduring
  refine ⟨hlength, rest, hrunning, ?_, ?_⟩
  · rintro outcome rfl
    have hpost := hsteady.post
    cases outcome with
    | error e => exact hpost.elim
    | ok answer =>
        obtain ⟨rfl, hconnected⟩ := hpost
        refine ⟨rfl, hconnected.connected, hconnected.adapter, hconnected.opened, fun hsame => ?_⟩
        exact absurd (hinv.sound.numbered _ hsame) (Nat.lt_irrefl _)
  · intro hunreturned
    cases rest with
    | ret outcome => exact absurd rfl (hunreturned outcome)
    | call a following =>
        obtain ⟨answer, o', hanswer, hobject⟩ := hsteady.fits
        refine ⟨.access a answer, ⟨o', some ⟨.reopenConnection, following answer⟩⟩, hanswer, ?_⟩
        obtain ⟨object', running'⟩ := final
        obtain rfl : running' = _ := hrunning
        simp only [machine, step, Option.bind_eq_some_iff, Option.map_eq_some_iff]
        exact ⟨_, Program.resume_eq_some.mpr ⟨following, rfl, rfl⟩, o', hobject, rfl⟩

/-- An initialization that throws when adapters are looked for: the instance stays behind. -/
def failedInitialization : List OwnerLabel :=
  [.invoke .initializeAdapter, .access .hasAdapter false, .access .cecInitialise (.ok true),
    .access (.member .versionToString) (.ok ()), .access (.member .detectAdapters) (.error .other),
    .leave]

/-- A favourable call of `reopenConnection` after it. -/
def favourableReopen : List OwnerLabel :=
  [.access .hasAdapter true, .access (.storeConnected false) (), .access (.member .close) (.ok ()),
    .access .reset (), .access (.sleep kUsbSettleDelay) (), .access .cecInitialise (.ok true),
    .access (.member .detectAdapters) (.ok (some ['u', 's', 'b'])),
    .access (.setPortName ['u', 's', 'b']) (), .access .hasAdapter true,
    .access .loadConnected false, .access .getPortName ['u', 's', 'b'],
    .access (.member .setConfiguration) (.ok false), .access .getPortName ['u', 's', 'b'],
    .access (.member (.openPort ['u', 's', 'b'] kConnectTimeoutMs)) (.ok true),
    .access (.storeConnected true) (), .access (.member (.audioEnable true)) (.ok false)]

def plainConfig : AdapterConfig :=
  ⟨['c', 'e', 'c'], false, false, true, false, .clear, .clear⟩

/-- The call has returned, or thrown. -/
def returned (s : OwnedAdapter) : Bool :=
  match s.running with
  | some ⟨_, .ret _⟩ => true
  | _ => false

/-- The object recovers from the failed initialization. -/
theorem recovered_after_failedInitialization :
    ∃ s final, (machine plainConfig).run {} failedInitialization = some s ∧
      (machine plainConfig).run s (.invoke .reopenConnection :: favourableReopen) = some final ∧
      Recovered s.object final.object := by
  have hfavourable : ∀ label ∈ favourableReopen, OwnerLabel.Favourable label := by
    simp only [favourableReopen, List.forall_mem_cons, OwnerLabel.Favourable,
      AdapterAccess.Favourable, List.not_mem_nil, false_imp_iff, implies_true, and_true, true_and]
    exact ⟨⟨_, rfl⟩, rfl, ⟨_, by simp, rfl⟩, ⟨_, rfl⟩, rfl, _, rfl⟩
  have hidle : ((machine plainConfig).run {} failedInitialization).any
      (fun s => s.running.isNone) = true := by decide +kernel
  have hreturned : ((machine plainConfig).run {}
      (failedInitialization ++ .invoke .reopenConnection :: favourableReopen)).any returned =
        true := by decide +kernel
  obtain ⟨s, hs, hnone⟩ := (Option.any_eq_true _ _).mp hidle
  obtain ⟨final, hfinal, hret⟩ := (Option.any_eq_true _ _).mp hreturned
  obtain ⟨s', hs', hcall⟩ := (machine plainConfig).run_append_eq_some.mp hfinal
  obtain rfl : s = s' := Option.some.inj (hs.symm.trans hs')
  obtain ⟨-, rest, hrunning, hrecovered, -⟩ :=
    (flag_sound_and_recoverable plainConfig failedInitialization s hs).2.2
      (Option.isNone_iff_eq_none.mp hnone) favourableReopen final hfavourable hcall
  refine ⟨s, final, hs, hcall, ?_⟩
  cases rest with
  | ret outcome => exact (hrecovered outcome rfl).2
  | call a next => simp [returned, hrunning] at hret

end OwnedAdapter

end CecControl
