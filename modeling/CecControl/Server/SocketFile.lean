/-
# One daemon to a socket

The path of the socket outlives the process that made it: a daemon that crashes leaves the file
behind, and the next one has to tell it from the file of a daemon that is still there. `listen`
does so by connecting to it, and removes what nobody answers on; a daemon that stops removes the
file whoever's it is by then.

Both are short programs of system calls, which those of other processes may come in between. The
file is left to one process at a time only by starting no daemon while another starts or stops;
given that, a daemon that is up is the only one and stays reachable until it stops, and one that has
gone, however it went, is no obstacle to the next.
-/

import CecControl.Client.SocketClient
import CecControl.Lib.Machine
import CecControl.Lib.Rely
import Mathlib.Logic.Function.Basic

namespace CecControl

open Lib

/-! ## The code -/

/-- System calls on sockets and their path. -/
inductive SocketCall
  | access
  | socket
  | connect
  | unlink
  | bind
  | chmod
  | listen
  | close
  deriving DecidableEq, Repr

/-- A call that fails answers `errno`. -/
abbrev SocketProgram := Program SocketCall fun _ => Option ℕ

inductive ProbeResult
  | live
  | stale
  | error
  deriving DecidableEq, Repr

namespace UnixSocket

/-- The probing socket is closed again, which nobody sees. -/
def probeExisting (path : Text) : SocketProgram ProbeResult :=
  .call .socket fun
    | some _ => .ret .error
    | none =>
        if kSunPathSize ≤ path.length then .ret .error
        else
          .call .connect fun
            | none => .ret .live
            | some err =>
                if err = Errno.ECONNREFUSED ∨ err = Errno.ENOENT then .ret .stale else .ret .error

/-- The second half of `listen`. A mode that cannot be set is let pass. -/
def openListener (path : Text) : SocketProgram Bool :=
  .call .socket fun
    | some _ => .ret false
    | none =>
        if kSunPathSize ≤ path.length then .ret false
        else
          .call .bind fun
            | some _ => .ret false
            | none =>
                .call .chmod fun _ =>
                  .call .listen fun
                    | some _ => .ret false
                    | none => .ret true

/-- Whether a stale file is out of the way. -/
def removeStale : SocketProgram Bool :=
  .call .unlink fun
    | none => .ret true
    | some err => .ret (err = Errno.ENOENT)

def listen (path : Text) : SocketProgram Bool :=
  .call .access fun
    | some _ => openListener path
    | none =>
        (probeExisting path).bind fun
          | .live => .ret false
          | .error => .ret false
          | .stale => removeStale.bind fun removed => if removed then openListener path else .ret false

end UnixSocket

/-- `SocketServer::stop`, as far as the path is concerned. -/
def SocketServer.closeListener : SocketProgram Unit :=
  .call .close fun _ => .call .unlink fun _ => .ret ()

/-! ## The processes -/

/-- What a path leads to: the socket of a process, or something else. -/
inductive PathEntry
  | socket (pid : ℕ)
  | other
  deriving DecidableEq, Repr

/-- The path, and the processes whose sockets listen. -/
structure SocketFile where
  entry : Option PathEntry := none
  listening : ℕ → Bool := fun _ => false

namespace SocketFile

/-- Somebody accepts connections made to the path. -/
def live (f : SocketFile) : Bool :=
  match f.entry with
  | some (.socket pid) => f.listening pid
  | _ => false

/-- `none` where the kernel would not answer so: a path is there or not, whoever listens does not
refuse, and nothing is bound to a path that exists. -/
def perform (pid : ℕ) (f : SocketFile) : SocketCall → Option ℕ → Option SocketFile
  | .access, none => if f.entry.isSome then some f else none
  | .connect, none => if f.live then some f else none
  | .connect, some err =>
      if f.live ∧ (err = Errno.ECONNREFUSED ∨ err = Errno.ENOENT) then none else some f
  | .unlink, none => if f.entry.isSome then some { f with entry := none } else none
  | .unlink, some err => if err = Errno.ENOENT ∧ f.entry.isSome then none else some f
  | .bind, none => if f.entry = none then some { f with entry := some (.socket pid) } else none
  | .listen, none => some { f with listening := Function.update f.listening pid true }
  | .close, _ => some { f with listening := Function.update f.listening pid false }
  | _, _ => some f

/-- A process is gone. -/
def crash (f : SocketFile) (pid : ℕ) : SocketFile :=
  { f with listening := Function.update f.listening pid false }

end SocketFile

inductive ServerPhase
  | absent
  | starting (rest : SocketProgram Bool)
  | serving
  | stopping (rest : SocketProgram Unit)
  | gone

def ServerPhase.busy : ServerPhase → Bool
  | .starting _ | .stopping _ => true
  | _ => false

/-- Processes that would be the daemon. -/
structure Candidates where
  path : Text
  file : SocketFile := {}
  phase : ℕ → ServerPhase := fun _ => .absent
  /-- The processes there have been. -/
  started : List ℕ := []

namespace Candidates

inductive Label
  | start (pid : ℕ)
  /-- The process makes its next call, and is answered. -/
  | call (pid : ℕ) (answer : Option ℕ)
  | returns (pid : ℕ)
  | stop (pid : ℕ)
  | crash (pid : ℕ)
  deriving DecidableEq, Repr

def withPhase (s : Candidates) (pid : ℕ) (phase : ServerPhase) : Candidates :=
  { s with phase := Function.update s.phase pid phase }

def step (s : Candidates) : Label → Option Candidates
  | .start pid =>
      match s.phase pid with
      | .absent =>
          some { s.withPhase pid (.starting (UnixSocket.listen s.path)) with
            started := pid :: s.started }
      | _ => none
  | .call pid answer =>
      match s.phase pid with
      | .starting (.call c next) =>
          (s.file.perform pid c answer).map fun file =>
            { s.withPhase pid (.starting (next answer)) with file := file }
      | .stopping (.call c next) =>
          (s.file.perform pid c answer).map fun file =>
            { s.withPhase pid (.stopping (next answer)) with file := file }
      | _ => none
  | .returns pid =>
      match s.phase pid with
      | .starting (.ret true) => some (s.withPhase pid .serving)
      | .starting (.ret false) => some (s.withPhase pid .gone)
      | .stopping (.ret _) => some (s.withPhase pid .gone)
      | _ => none
  | .stop pid =>
      match s.phase pid with
      | .serving => some (s.withPhase pid (.stopping SocketServer.closeListener))
      | _ => none
  | .crash pid =>
      match s.phase pid with
      | .absent => none
      | _ => some { s.withPhase pid .gone with file := s.file.crash pid }

def machine : Machine Candidates Label where
  step := step

/-- The path may lead to anything at first, but nobody listens. -/
def boot (path : Text) (entry : Option PathEntry) : Candidates :=
  { path := path, file := { entry := entry } }

/-- Nobody starts or stops while another does. -/
def Alone (s : Candidates) : Label → Prop
  | .start _ | .stop _ => ∀ pid ∈ s.started, (s.phase pid).busy = false
  | _ => True

instance (s : Candidates) : ∀ label, Decidable (Alone s label)
  | .start _ | .stop _ => inferInstanceAs (Decidable (∀ pid ∈ s.started, (s.phase pid).busy = false))
  | .call _ _ | .returns _ | .crash _ => .isTrue trivial

end Candidates

/-! ## What the programs do among others -/

namespace SocketFile

/-- The path leads to whoever listens. -/
def Led (f : SocketFile) : Prop := ∀ pid, f.listening pid = true → f.entry = some (.socket pid)

def Deserted (f : SocketFile) : Prop := ∀ pid, f.listening pid = false

/-- Others, while they neither start nor stop, can only crash. -/
def surroundings (pid : ℕ) : Program.Surroundings SocketCall (fun _ => Option ℕ) SocketFile where
  perform := perform pid
  rely f f' := f'.entry = f.entry ∧ (∀ other, f'.listening other = true → f.listening other = true) ∧
    f'.listening pid = f.listening pid
  guar f f' := Led f → Led f' ∧ ∀ other, other ≠ pid → f'.listening other = f.listening other
  refl _ := ⟨rfl, fun _ h => h, rfl⟩
  trans h h' := ⟨h'.1.trans h.1, fun other hlive => h.2.1 other (h'.2.1 other hlive), h'.2.2.trans h.2.2⟩

variable {pid : ℕ} {f f' : SocketFile}

theorem Deserted.led (h : Deserted f) : Led f := fun other hlive => by simp [h other] at hlive

theorem Led.rely (h : Led f) (hrely : (surroundings pid).rely f f') : Led f' :=
  fun other hlive => hrely.1.trans (h other (hrely.2.1 other hlive))

theorem Deserted.rely (h : Deserted f) (hrely : (surroundings pid).rely f f') : Deserted f' := by
  intro other
  cases hlive : f'.listening other with
  | false => rfl
  | true => simpa [h other] using hrely.2.1 other hlive

/-- Without a listener nobody is misled. -/
theorem led_of_not_live (h : Led f) (hlive : f.live = false) : Deserted f := by
  intro other
  cases hother : f.listening other with
  | false => rfl
  | true => simp [live, h other hother, hother] at hlive

/-- Where the path leads to a process, no other listens. -/
theorem Led.eq_of_entry (h : Led f) {other : ℕ} (hentry : f.entry = some (.socket pid))
    (hlive : f.listening other = true) : other = pid := by
  have hother := (h other hlive).symm.trans hentry
  simpa using hother

theorem guar_refl : (surroundings pid).guar f f := fun h => ⟨h, fun _ _ => rfl⟩

theorem guar_of_deserted (h : Deserted f) (hlistening : f'.listening = f.listening) :
    (surroundings pid).guar f f' :=
  fun _ => ⟨fun other hlive => by simp [hlistening, h other] at hlive,
    fun other _ => congrFun hlistening other⟩

/-- Calls that change nothing. -/
theorem perform_same {c : SocketCall} {answer : Option ℕ}
    (hc : c ∈ [.access, .socket, .connect, .chmod]) (h : f.perform pid c answer = some f') :
    f' = f := by
  cases c <;> cases answer <;> simp_all [perform]

/-- Who listens does not depend on the path. -/
theorem perform_unlink {answer : Option ℕ} (h : f.perform pid .unlink answer = some f') :
    f'.listening = f.listening := by
  cases answer <;> simp only [perform] at h <;> split_ifs at h <;> exact Option.some.inj h ▸ rfl

/-- What `listen` is to achieve. -/
def Opened (pid : ℕ) (ok : Bool) (f : SocketFile) : Prop := f.listening pid = ok

/-- The process does not listen, and the path does not lead astray. -/
def Waits (pid : ℕ) (f : SocketFile) : Prop := Led f ∧ f.listening pid = false

theorem Waits.rely (h : Waits pid f) (hrely : (surroundings pid).rely f f') : Waits pid f' :=
  ⟨h.1.rely hrely, hrely.2.2.trans h.2⟩

theorem Deserted.waits (h : Deserted f) : Waits pid f := ⟨h.led, h pid⟩

theorem behaves_fail (h : Waits pid f) :
    (Program.ret false : SocketProgram Bool).Behaves (surroundings pid) (Opened pid) f :=
  Program.behaves_ret (Waits pid) (fun h hrely => h.rely hrely) (fun h => h.2) h

/-- A call that changes nothing, whatever is answered. -/
theorem behaves_same {α : Type} {Q : α → SocketFile → Prop} {c : SocketCall}
    {next : Option ℕ → SocketProgram α} (P : SocketFile → Prop)
    (hc : c ∈ [.access, .socket, .connect, .chmod])
    (hkeep : ∀ {f f'}, P f → (surroundings pid).rely f f' → P f')
    (hrest : ∀ {f answer}, P f → f.perform pid c answer = some f →
      (next answer).Behaves (surroundings pid) Q f) (hf : P f) :
    (Program.call c next).Behaves (surroundings pid) Q f := by
  refine Program.behaves_call P hkeep (fun {f answer f'} h hperform => ?_) hf
  obtain rfl := perform_same hc hperform
  exact ⟨guar_refl, hrest h hperform⟩

/-- Nobody listens, and the path leads to the process. -/
def Bound (pid : ℕ) (f : SocketFile) : Prop := Deserted f ∧ f.entry = some (.socket pid)

theorem Bound.rely (h : Bound pid f) (hrely : (surroundings pid).rely f f') : Bound pid f' :=
  ⟨h.1.rely hrely, hrely.1.trans h.2⟩

theorem behaves_listenCall (h : Bound pid f) :
    (Program.call .listen fun
      | some _ => .ret false
      | none => .ret true : SocketProgram Bool).Behaves (surroundings pid) (Opened pid) f := by
  refine Program.behaves_call (Bound pid) (fun h hrely => h.rely hrely)
    (fun {f answer f'} h hperform => ?_) h
  cases answer with
  | some err =>
      obtain rfl := Option.some.inj hperform
      exact ⟨guar_refl, behaves_fail h.1.waits⟩
  | none =>
      obtain rfl := Option.some.inj hperform
      refine ⟨fun _ => ⟨fun other hlive => ?_, fun other hne => Function.update_of_ne hne _ _⟩, ?_⟩
      · by_cases hother : other = pid
        · exact hother ▸ h.2
        · simp [Function.update_of_ne hother, h.1 other] at hlive
      · refine Program.behaves_ret (fun f => f.listening pid = true)
          (fun hlive hrely => hrely.2.2.trans hlive) id ?_
        exact Function.update_self ..

/-- Nothing is bound to a path that leads to a listener. -/
theorem behaves_openListener (path : Text) (h : Waits pid f) :
    (UnixSocket.openListener path).Behaves (surroundings pid) (Opened pid) f := by
  refine behaves_same (Waits pid) (by decide) (fun h hrely => h.rely hrely)
    (fun {f answer} h _ => ?_) h
  cases answer with
  | some err => exact behaves_fail h
  | none =>
      dsimp only
      split_ifs
      · exact behaves_fail h
      · refine Program.behaves_call (Waits pid) (fun h hrely => h.rely hrely)
          (fun {f answer f'} h hperform => ?_) h
        cases answer with
        | some err =>
            obtain rfl := Option.some.inj hperform
            exact ⟨guar_refl, behaves_fail h⟩
        | none =>
            change (if f.entry = none then some { f with entry := some (.socket pid) } else none) =
              some f' at hperform
            split_ifs at hperform with hentry
            obtain rfl := Option.some.inj hperform
            have hdeserted : Deserted f := led_of_not_live h.1 (by simp [live, hentry])
            have hbound : Bound pid { f with entry := some (.socket pid) } := ⟨hdeserted, rfl⟩
            refine ⟨guar_of_deserted hdeserted rfl, ?_⟩
            exact behaves_same (Bound pid) (by decide) (fun h hrely => h.rely hrely)
              (fun h _ => behaves_listenCall h) hbound

/-- A file that refuses connections is nobody's. -/
theorem behaves_removeStale (path : Text) (h : Deserted f) :
    (UnixSocket.removeStale.bind fun removed =>
      if removed then UnixSocket.openListener path else .ret false).Behaves (surroundings pid)
      (Opened pid) f := by
  refine Program.behaves_call Deserted (fun h hrely => h.rely hrely)
    (fun {f answer f'} h hperform => ?_) h
  have hunchanged := perform_unlink hperform
  have hdeserted : Deserted f' := fun other => (congrFun hunchanged other).trans (h other)
  refine ⟨guar_of_deserted h hunchanged, ?_⟩
  cases answer with
  | none => exact behaves_openListener path hdeserted.waits
  | some err =>
      dsimp only [Program.ret_bind]
      split_ifs
      · exact behaves_openListener path hdeserted.waits
      · exact behaves_fail hdeserted.waits

/-- **`listen` among others**: it comes out listening or not, and displaces nobody. -/
theorem behaves_listen (path : Text) (h : Waits pid f) :
    (UnixSocket.listen path).Behaves (surroundings pid) (Opened pid) f := by
  have hkeep {f f'} (h : Waits pid f) (hrely : (surroundings pid).rely f f') := h.rely hrely
  refine behaves_same (Waits pid) (by decide) hkeep (fun {f answer} h _ => ?_) h
  cases answer with
  | some err => exact behaves_openListener path h
  | none =>
      refine behaves_same (Waits pid) (by decide) hkeep (fun {f answer} h _ => ?_) h
      cases answer with
      | some err => exact behaves_fail h
      | none =>
          dsimp only
          split_ifs
          · exact behaves_fail h
          · refine behaves_same (Waits pid) (by decide) hkeep (fun {f answer} h hperform => ?_) h
            cases answer with
            | none => exact behaves_fail h
            | some err =>
                dsimp only
                split_ifs with hrefused
                · refine behaves_removeStale path (led_of_not_live h.1 ?_)
                  cases hlive : f.live with
                  | false => rfl
                  | true => simp [perform, hlive, hrefused] at hperform
                · exact behaves_fail h

/-- The listener is closed first, so that the file that is removed is nobody's. -/
theorem behaves_closeListener (h : Led f) (hlive : f.listening pid = true) :
    SocketServer.closeListener.Behaves (surroundings pid) (fun _ => Opened pid false) f := by
  have hentry := h pid hlive
  refine Program.behaves_call (fun f => Led f ∧ f.entry = some (.socket pid))
    (fun h hrely => ⟨h.1.rely hrely, hrely.1.trans h.2⟩) (fun {f answer f'} h hperform => ?_) ⟨h, hentry⟩
  obtain rfl : { f with listening := Function.update f.listening pid false } = f' := by
    cases answer <;> exact Option.some.inj hperform
  have hdeserted : Deserted { f with listening := Function.update f.listening pid false } := by
    intro other
    by_cases hother : other = pid
    · simp [hother]
    · cases hlive : f.listening other with
      | false => simpa [Function.update_of_ne hother] using hlive
      | true => exact absurd (h.1.eq_of_entry h.2 hlive) hother
  refine ⟨fun _ => ⟨hdeserted.led, fun other hne => Function.update_of_ne hne _ _⟩, ?_⟩
  refine Program.behaves_call Deserted (fun h hrely => h.rely hrely)
    (fun {f answer f'} h hperform => ?_) hdeserted
  have hunchanged := perform_unlink hperform
  refine ⟨guar_of_deserted h hunchanged, ?_⟩
  exact Program.behaves_ret Deserted (fun h hrely => h.rely hrely) (fun h => h pid)
    fun other => (congrFun hunchanged other).trans (h other)

end SocketFile

namespace Candidates

open SocketFile

/-! ## One at a time -/

/-- What a process has to do with the path. -/
def Fits (f : SocketFile) (pid : ℕ) : ServerPhase → Prop
  | .absent | .gone => f.listening pid = false
  | .starting rest => rest.Behaves (surroundings pid) (Opened pid) f
  | .serving => f.listening pid = true
  | .stopping rest => rest.Behaves (surroundings pid) (fun _ => Opened pid false) f

structure Orderly (s : Candidates) : Prop where
  led : Led s.file
  fits : ∀ pid, Fits s.file pid (s.phase pid)
  alone : ∀ pid pid', (s.phase pid).busy = true → (s.phase pid').busy = true → pid = pid'
  known : ∀ pid, pid ∉ s.started → s.phase pid = .absent

variable {s s' : Candidates}

/-- The others do not notice. -/
theorem Fits.others {f f' : SocketFile} {pid : ℕ} {phase : ServerPhase} (h : Fits f pid phase)
    (hrely : (surroundings pid).rely f f') : Fits f' pid phase := by
  cases phase with
  | absent | gone | serving => exact hrely.2.2.trans h
  | starting rest | stopping rest => exact Program.Behaves.others h hrely

/-- One process goes on. -/
theorem Orderly.update (h : Orderly s) {pid : ℕ} {phase : ServerPhase} {file : SocketFile}
    {started : List ℕ} (hled : Led file) (hfits : Fits file pid phase)
    (hothers : ∀ other, other ≠ pid → Fits file other (s.phase other))
    (halone : phase.busy = true → ∀ other, other ≠ pid → (s.phase other).busy = false)
    (hmem : pid ∈ started) (hstarted : s.started ⊆ started) :
    Orderly { s.withPhase pid phase with file := file, started := started } := by
  have hother {other} (hne : other ≠ pid) :
      Function.update s.phase pid phase other = s.phase other := Function.update_of_ne hne _ _
  refine ⟨hled, fun other => ?_, fun other other' hbusy hbusy' => ?_, fun other hunknown => ?_⟩
  · dsimp only [Candidates.withPhase]
    by_cases hne : other = pid
    · subst hne
      rw [Function.update_self]
      exact hfits
    · rw [hother hne]
      exact hothers other hne
  · dsimp only [Candidates.withPhase] at hbusy hbusy'
    by_cases hne : other = pid <;> by_cases hne' : other' = pid
    · rw [hne, hne']
    · subst hne
      rw [Function.update_self] at hbusy
      simp [hother hne', halone hbusy other' hne'] at hbusy'
    · subst hne'
      rw [Function.update_self] at hbusy'
      simp [hother hne, halone hbusy' other hne] at hbusy
    · rw [hother hne] at hbusy
      rw [hother hne'] at hbusy'
      exact h.alone other other' hbusy hbusy'
  · have hne : other ≠ pid := fun heq => hunknown (heq ▸ hmem)
    exact (hother hne).trans (h.known other fun hold => hunknown (hstarted hold))

theorem Orderly.mem_started (h : Orderly s) {pid : ℕ} (hphase : s.phase pid ≠ .absent) :
    pid ∈ s.started := by
  by_contra hunknown
  exact hphase (h.known pid hunknown)

theorem Orderly.withPhase (h : Orderly s) {pid : ℕ} {phase : ServerPhase}
    (hphase : s.phase pid ≠ .absent) (hfits : Fits s.file pid phase)
    (halone : phase.busy = true → ∀ other, other ≠ pid → (s.phase other).busy = false) :
    Orderly (s.withPhase pid phase) :=
  h.update h.led hfits (fun other _ => h.fits other) halone (h.mem_started hphase) fun _ hmem => hmem

/-- Nobody is busy where nobody that has been started is. -/
theorem Orderly.idle (h : Orderly s) (halone : ∀ pid ∈ s.started, (s.phase pid).busy = false)
    (pid : ℕ) : (s.phase pid).busy = false := by
  by_cases hmem : pid ∈ s.started
  · exact halone pid hmem
  · rw [h.known pid hmem]
    rfl

/-- The one process that is busy makes a call. -/
theorem Orderly.called (h : Orderly s) {pid : ℕ} {phase : ServerPhase} {file : SocketFile}
    (hbusy : (s.phase pid).busy = true) (hguar : (surroundings pid).guar s.file file)
    (hfits : Fits file pid phase) :
    Orderly { s.withPhase pid phase with file := file } := by
  obtain ⟨hled, hunchanged⟩ := hguar h.led
  have hidle {other} (hne : other ≠ pid) : (s.phase other).busy = false := by
    cases hother : (s.phase other).busy with
    | false => rfl
    | true => exact absurd (h.alone other pid hother hbusy) hne
  have hpresent : s.phase pid ≠ .absent := fun heq => by
    rw [heq] at hbusy
    cases hbusy
  refine h.update hled hfits (fun other hne => ?_)
    (fun _ other hne => hidle hne) (h.mem_started hpresent) fun _ hmem => hmem
  have hfits' := h.fits other
  have hquiet := hidle hne
  cases hphase : s.phase other with
  | absent | gone | serving =>
      rw [hphase] at hfits'
      exact (hunchanged other hne).trans hfits'
  | starting rest | stopping rest => simp [hphase, ServerPhase.busy] at hquiet

theorem Orderly.crashed (h : Orderly s) {pid : ℕ} (hphase : s.phase pid ≠ .absent) :
    Orderly { s.withPhase pid .gone with file := s.file.crash pid } := by
  have hlive {other} (hother : (s.file.crash pid).listening other = true) :
      s.file.listening other = true := by
    by_cases hne : other = pid
    · simp [SocketFile.crash, hne] at hother
    · simpa [SocketFile.crash, Function.update_of_ne hne] using hother
  refine h.update (fun other hother => h.led other (hlive hother)) ?_ (fun other hne => ?_)
    (fun hbusy => by cases hbusy) (h.mem_started hphase) fun _ hmem => hmem
  · exact Function.update_self ..
  · exact (h.fits other).others ⟨rfl, fun _ => hlive, Function.update_of_ne hne _ _⟩

theorem Orderly.step (h : Orderly s) {label : Label} (halone : Alone s label)
    (hstep : machine.step s label = some s') : Orderly s' := by
  change s.step label = some s' at hstep
  cases label with
  | start pid =>
      simp only [Candidates.step] at hstep
      split at hstep
      · next hphase =>
          obtain rfl := Option.some.inj hstep
          have hfits := h.fits pid
          rw [hphase] at hfits
          exact h.update h.led (behaves_listen s.path ⟨h.led, hfits⟩) (fun other _ => h.fits other)
            (fun _ other _ => h.idle halone other) List.mem_cons_self
            fun _ hmem => List.mem_cons_of_mem _ hmem
      · cases hstep
  | call pid answer =>
      simp only [Candidates.step] at hstep
      have hfits := h.fits pid
      split at hstep
      · next c next hphase =>
          obtain ⟨file, hperform, rfl⟩ := Option.map_eq_some_iff.mp hstep
          rw [hphase] at hfits
          obtain ⟨hguar, hrest⟩ := Program.Behaves.next hfits hperform
          exact h.called (by rw [hphase]; rfl) hguar hrest
      · next c next hphase =>
          obtain ⟨file, hperform, rfl⟩ := Option.map_eq_some_iff.mp hstep
          rw [hphase] at hfits
          obtain ⟨hguar, hrest⟩ := Program.Behaves.next hfits hperform
          exact h.called (by rw [hphase]; rfl) hguar hrest
      · cases hstep
  | returns pid =>
      simp only [Candidates.step] at hstep
      have hfits := h.fits pid
      split at hstep
      · next hphase =>
          obtain rfl := Option.some.inj hstep
          rw [hphase] at hfits
          have hopened : Opened pid true s.file := Program.Behaves.result hfits
          exact h.withPhase (by simp [hphase]) hopened fun hbusy => by cases hbusy
      · next hphase =>
          obtain rfl := Option.some.inj hstep
          rw [hphase] at hfits
          have hfailed : Opened pid false s.file := Program.Behaves.result hfits
          exact h.withPhase (by simp [hphase]) hfailed fun hbusy => by cases hbusy
      · next hphase =>
          obtain rfl := Option.some.inj hstep
          rw [hphase] at hfits
          have hclosed : Opened pid false s.file := Program.Behaves.result hfits
          exact h.withPhase (by simp [hphase]) hclosed fun hbusy => by cases hbusy
      · cases hstep
  | stop pid =>
      simp only [Candidates.step] at hstep
      split at hstep
      · next hphase =>
          obtain rfl := Option.some.inj hstep
          have hfits := h.fits pid
          rw [hphase] at hfits
          exact h.withPhase (by simp [hphase]) (behaves_closeListener h.led hfits)
            fun _ other _ => h.idle halone other
      · cases hstep
  | crash pid =>
      simp only [Candidates.step] at hstep
      split at hstep
      · cases hstep
      · next hphase => exact Option.some.inj hstep ▸ h.crashed hphase

theorem Orderly.boot (path : Text) (entry : Option PathEntry) : Orderly (boot path entry) where
  led := by rintro pid ⟨⟩
  fits _ := rfl
  alone := by rintro pid pid' ⟨⟩
  known _ _ := rfl

/-- Whatever the path leads to, if nobody listens there `listen` can get it. -/
theorem exists_serving {pid : ℕ} (hshort : s.path.length < UnixSocket.kSunPathSize)
    (habsent : s.phase pid = .absent) (hlive : s.file.live = false) :
    ∃ answers final, machine.run s (.start pid :: List.map (.call pid) answers ++ [.returns pid]) =
      some final ∧ final.phase pid = .serving := by
  have hlong : ¬ UnixSocket.kSunPathSize ≤ s.path.length := Nat.not_le.mpr hshort
  cases hentry : s.file.entry with
  | none =>
      refine ⟨some Errno.ENOENT :: List.replicate 4 none, ?_⟩
      simp [Machine.run, machine, Candidates.step, Candidates.withPhase, perform,
        UnixSocket.listen, UnixSocket.openListener, habsent, hlong, hentry]
  | some entry =>
      -- the file of a process that has gone is probed, removed, and made again
      refine ⟨[none, none, some Errno.ECONNREFUSED] ++ List.replicate 5 none, ?_⟩
      simp [Machine.run, machine, Candidates.step, Candidates.withPhase, perform,
        UnixSocket.listen, UnixSocket.probeExisting, UnixSocket.removeStale,
        UnixSocket.openListener, habsent, hlong, hentry, hlive]

/-- What the path of the socket is to its daemon. -/
structure OneDaemon (s : Candidates) : Prop where
  /-- At most one process listens. -/
  only : ∀ {pid pid'}, s.file.listening pid = true → s.file.listening pid' = true → pid = pid'
  /-- A daemon that is up can be reached. -/
  reached : ∀ {pid}, s.phase pid = .serving →
    s.file.entry = some (.socket pid) ∧ s.file.listening pid = true
  /-- While it is, no other comes up. -/
  refused : ∀ {pid pid' ok}, s.phase pid = .serving → s.phase pid' = .starting (.ret ok) → ok = false
  /-- When it has gone, however it went, the next can come up. -/
  next : (∀ pid, (s.phase pid).busy = false ∧ s.file.listening pid = false) →
    s.path.length < UnixSocket.kSunPathSize → ∀ {pid}, s.phase pid = .absent →
      ∃ answers final,
        machine.run s (.start pid :: List.map (.call pid) answers ++ [.returns pid]) = some final ∧
          final.phase pid = .serving

theorem Orderly.oneDaemon (h : Orderly s) : OneDaemon s where
  only hlive hlive' := (h.led.eq_of_entry (h.led _ hlive) hlive').symm
  reached {pid} hphase := by
    have hlive := h.fits pid
    rw [hphase] at hlive
    exact ⟨h.led pid hlive, hlive⟩
  refused {pid pid' ok} hserving hphase := by
    have hlive := h.fits pid
    have hreturned := h.fits pid'
    rw [hserving] at hlive
    rw [hphase] at hreturned
    have hopened : Opened pid' ok s.file := Program.Behaves.result hreturned
    cases ok with
    | false => rfl
    | true =>
        have heq := h.led.eq_of_entry (h.led pid hlive) hopened
        rw [heq, hserving] at hphase
        cases hphase
  next hnobody hshort pid habsent := by
    refine exists_serving hshort habsent ?_
    unfold live
    split
    · exact (hnobody _).2
    · rfl

/-- **One daemon to a socket**, in every run of any number of processes in which nobody starts or
stops while another does. They may crash at any time. -/
theorem one_daemon {path : Text} {entry : Option PathEntry} {labels : List Label}
    (halone : machine.Meets Alone (boot path entry) labels)
    (hrun : machine.run (boot path entry) labels = some s) : OneDaemon s :=
  (machine.invariant_of_meets (fun h halone hstep => h.step halone hstep)
    (Orderly.boot path entry) halone hrun : Orderly s).oneDaemon

/-- A daemon comes up, crashes, and is replaced by another, which a third does not displace. -/
def replaced : List Label :=
  .start 0 :: .call 0 (some Errno.ENOENT) :: List.replicate 4 (.call 0 none) ++
    [.returns 0, .crash 0, .start 1, .call 1 none, .call 1 none, .call 1 (some Errno.ECONNREFUSED)] ++
    List.replicate 5 (.call 1 none) ++
    [.returns 1, .start 2, .call 2 none, .call 2 none, .call 2 none, .returns 2]

theorem one_daemon_replaced :
    ∃ s, machine.run (boot "/run/cec-control/socket".toList none) replaced = some s ∧
      s.file.listening 1 = true ∧ OneDaemon s := by
  have halone : machine.Meets Alone (boot "/run/cec-control/socket".toList none) replaced := by decide
  have hlive : (machine.run (boot "/run/cec-control/socket".toList none) replaced).map
      (fun s => s.file.listening 1) = some true := by decide
  obtain ⟨s, hs, hlive⟩ := Option.map_eq_some_iff.mp hlive
  exact ⟨s, hs, hlive, one_daemon halone hs⟩

/-- Two that start at once both find the same stale file, and the second removes the first's. -/
def overlapping : List Label :=
  let probes (pid : ℕ) : List Label :=
    [.start pid, .call pid none, .call pid none, .call pid (some Errno.ECONNREFUSED)]
  let opens (pid : ℕ) : List Label := List.replicate 4 (.call pid none)
  probes 0 ++ probes 1 ++ (.call 0 none :: opens 0) ++ (.call 1 none :: opens 1)

example : (machine.run (boot "/run/cec-control/socket".toList (some .other)) overlapping).map
    (fun s => (s.file.listening 0, s.file.listening 1, s.file.entry)) =
      some (true, true, some (.socket 1)) := by decide

end Candidates

end CecControl
