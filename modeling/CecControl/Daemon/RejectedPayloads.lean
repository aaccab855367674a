/-
# Payloads that are turned down

A source or key command carries one byte, and bytes outside the known sources and keys are
turned down. For keys the handler does so itself; for sources only an empty payload is caught
there, and an unknown source is found out inside the throttled command, where it looks like a
command the TV did not acknowledge.

A rejection is clean when it reports failure, transmits nothing, and leaves the throttler as it
was: then a malformed request cannot slow down the ones that follow it.
-/

import CecControl.Cec.ThrottledRuns
import CecControl.Daemon.System

namespace CecControl

open WorkerM CommandThrottler

/-- A source or key command without a usable payload. -/
def Message.Malformed (m : Message) : Prop :=
  (m.type = .cmdChangeSource ∧ ∀ source rest, m.data = source :: rest → 5 < source) ∨
    (m.type = .cmdKey ∧ ∀ code rest, m.data = code :: rest → findKeyByCode code = none)

/-- A connection check that finds the adapter connected, or something else. -/
def answersConnected : (op : Op) × op.Ans → Bool
  | ⟨.adapter .isConnected, .ok true⟩ => true
  | ⟨.adapter .isConnected, _⟩ => false
  | _ => true

/-- A call that goes out to the bus; a connection check only reads a flag. -/
def transmits : (op : Op) × op.Ans → Bool
  | ⟨.adapter .isConnected, _⟩ => false
  | ⟨.adapter _, _⟩ => true
  | _ => false

/-- Executing the message on a connected adapter fails, transmits nothing and leaves the
throttler as it was. -/
def RejectedCleanly (m : Message) (t : CommandThrottler) : Prop :=
  ∀ spec trace outcome t', findDispatchByType m.type = some spec →
    Runs (executeOnAdapter m spec) t trace outcome t' →
    (∀ step ∈ trace, answersConnected step = true) →
    outcome = .ok Daemon.respError ∧ (∀ step ∈ trace, transmits step = false) ∧ t' = t

/-! ## Runs of the two commands -/

/-- The response to what a handler returns or throws. -/
def reported : Outcome → Except Exn Message
  | .ok true => .ok Daemon.respSuccess
  | .ok false => .ok Daemon.respError
  | .error .std => .ok Daemon.respError
  | .error .other => .error .other

/-- A handler's run with the response made from its value. -/
theorem runs_respond {m : Message} {handler : AdapterHandler} {t t' : CommandThrottler}
    {trace : Trace} {outcome : Except Exn Message} :
    Runs (do
        if ← handler.run m then return Daemon.respSuccess
        return Daemon.respError) t trace outcome t' ↔
      ∃ result, Runs (handler.run m) t trace result t' ∧
        outcome = result.map fun ok => if ok then Daemon.respSuccess else Daemon.respError := by
  rw [runs_bind]
  constructor
  · rintro (⟨e, rfl, h⟩ | ⟨ok, first, rest, between, rfl, h, hrest⟩)
    · exact ⟨.error e, h, rfl⟩
    · cases ok <;> obtain ⟨rfl, rfl, rfl⟩ := runs_pure.mp hrest <;>
        exact ⟨_, by simpa using h, rfl⟩
  · rintro ⟨e | ok, h, rfl⟩
    · exact Or.inl ⟨e, rfl, h⟩
    · refine Or.inr ⟨ok, trace, [], t', by simp, h, ?_⟩
      cases ok <;> simp [Except.map]

/-- A command behind the connection gate. -/
def gated (handler : AdapterHandler) (m : Message) : WorkerM Message := do
  if !(← adapter .isConnected) then return Daemon.respError
  if ← handler.run m then return Daemon.respSuccess
  return Daemon.respError

theorem executeOnAdapter_eq_gated {m : Message} {spec : DispatchSpec} {handler : AdapterHandler}
    (hgate : spec.requiresAdapterConnection = true) (hspec : spec.adapterHandler = some handler) :
    executeOnAdapter m spec = catchStd (gated handler m) (pure Daemon.respError) := by
  simp [executeOnAdapter, gated, hgate, hspec, Daemon.respError, Daemon.respSuccess]

/-- Past a gate that finds the adapter connected, a command is its handler. -/
theorem runs_gated {m : Message} {handler : AdapterHandler} {t t' : CommandThrottler}
    {rest : Trace} {outcome : Except Exn Message} :
    Runs (gated handler m) t (⟨.adapter .isConnected, (.ok true : Outcome)⟩ :: rest) outcome t' ↔
      ∃ result, Runs (handler.run m) t rest result t' ∧
        outcome = result.map fun ok => if ok then Daemon.respSuccess else Daemon.respError :=
  Iff.trans runs_bind_adapter runs_respond

/-- What it throws is reported where it is a `std::exception`. -/
theorem runs_executeOnAdapter_of_connected {m : Message} {spec : DispatchSpec}
    {handler : AdapterHandler} (hgate : spec.requiresAdapterConnection = true)
    (hspec : spec.adapterHandler = some handler) {t t' : CommandThrottler} {rest : Trace}
    {outcome : Except Exn Message} :
    Runs (executeOnAdapter m spec) t (⟨.adapter .isConnected, (.ok true : Outcome)⟩ :: rest)
        outcome t' ↔
      ∃ result, Runs (handler.run m) t rest result t' ∧ outcome = reported result := by
  rw [executeOnAdapter_eq_gated hgate hspec, runs_catchStd]
  constructor
  · rintro (⟨hne, h⟩ | ⟨first, after, between, heq, h, hhandler⟩)
    · obtain ⟨result, hrun, rfl⟩ := runs_gated.mp h
      refine ⟨result, hrun, ?_⟩
      rcases result with (_ | _) | (_ | _)
      · exact absurd rfl hne
      all_goals rfl
    · obtain ⟨rfl, rfl, rfl⟩ := runs_pure.mp hhandler
      rw [List.append_nil] at heq
      subst heq
      obtain ⟨result, hrun, heq⟩ := runs_gated.mp h
      rcases result with e | ok
      · cases heq
        exact ⟨_, hrun, rfl⟩
      · cases heq
  · rintro ⟨result, hrun, rfl⟩
    have hgated := runs_gated.mpr ⟨result, hrun, rfl⟩
    rcases result with (_ | _) | (_ | _)
    · exact Or.inr ⟨_, [], t', by simp, hgated, runs_pure.mpr ⟨rfl, rfl, rfl⟩⟩
    all_goals exact Or.inl ⟨by simp [reported], hgated⟩

/-- On a connected adapter there is no other way past the gate. -/
theorem runs_executeOnAdapter {m : Message} {spec : DispatchSpec} {handler : AdapterHandler}
    (hgate : spec.requiresAdapterConnection = true) (hspec : spec.adapterHandler = some handler)
    {t t' : CommandThrottler} {trace : Trace} {outcome : Except Exn Message}
    (h : Runs (executeOnAdapter m spec) t trace outcome t')
    (hconnected : ∀ step ∈ trace, answersConnected step = true) :
    ∃ rest result, trace = ⟨.adapter .isConnected, (.ok true : Outcome)⟩ :: rest ∧
      Runs (handler.run m) t rest result t' ∧ outcome = reported result := by
  obtain ⟨answer, rest, rfl, -⟩ : ∃ (answer : Outcome) (rest : Trace),
      trace = ⟨.adapter .isConnected, answer⟩ :: rest ∧ True := by
    rw [executeOnAdapter_eq_gated hgate hspec] at h
    obtain ⟨answer, rest, rfl, -⟩ := h
    exact ⟨answer, rest, rfl, trivial⟩
  have hanswer := hconnected _ (List.mem_cons_self ..)
  rcases answer with e | _ | _
  · simp [answersConnected] at hanswer
  · simp [answersConnected] at hanswer
  · obtain ⟨result, hrun, houtcome⟩ := (runs_executeOnAdapter_of_connected hgate hspec).mp h
    exact ⟨rest, result, rfl, hrun, houtcome⟩

/-! ## Clean rejections -/

/-- A handler that fails at once rejects cleanly. -/
theorem rejectedCleanly_of_run_eq_pure {m : Message} {spec : DispatchSpec}
    {handler : AdapterHandler} (hfind : findDispatchByType m.type = some spec)
    (hgate : spec.requiresAdapterConnection = true) (hspec : spec.adapterHandler = some handler)
    (hrun : handler.run m = pure false) (t : CommandThrottler) : RejectedCleanly m t := by
  intro spec' trace outcome t' hfind' hruns hconnected
  obtain rfl : spec = spec' := Option.some.inj (hfind.symm.trans hfind')
  obtain ⟨rest, result, rfl, hrest, rfl⟩ := runs_executeOnAdapter hgate hspec hruns hconnected
  rw [hrun] at hrest
  obtain ⟨rfl, rfl, rfl⟩ := runs_pure.mp hrest
  simp [reported, transmits]

theorem selectSource_of_unknown {source : UInt8} (h : 5 < source) :
    Ops.selectSource source = pure false := by
  have hlt : 5 < source.toNat := UInt8.lt_iff_toNat_lt.mp h
  have hrange : source.toNat < Ops.kFirstHdmiSource ∨ source.toNat > Ops.kLastHdmiSource :=
    Or.inr hlt
  unfold Ops.selectSource
  rw [if_neg (by omega), if_neg (by omega), if_pos hrange]

/-- With an unknown source, the handler is a throttled command that always fails. -/
theorem runs_unknown_source {m : Message} {source : UInt8} {rest : List UInt8}
    (hdata : m.data = source :: rest) (h : 5 < source) {t t' : CommandThrottler} {trace : Trace}
    {result : Outcome} :
    Runs (AdapterHandler.changeSource.run m) t
        (⟨.adapter .isConnected, (.ok true : Outcome)⟩ :: trace) result t' ↔
      Runs (attempts (pure false) t.config.maxRetryAttempts 0) t trace result t' := by
  simp only [AdapterHandler.run, handleChangeSource, hdata, Ops.setSource]
  rw [selectSource_of_unknown h]
  exact runs_bind_adapter

/-- On a connected adapter it begins with a connection check that passes. -/
theorem connected_of_unknown_source {m : Message} {source : UInt8} {rest : List UInt8}
    (hdata : m.data = source :: rest) {t t' : CommandThrottler} {trace : Trace} {result : Outcome}
    (h : Runs (AdapterHandler.changeSource.run m) t trace result t')
    (hconnected : ∀ step ∈ trace, answersConnected step = true) :
    ∃ after, trace = ⟨.adapter .isConnected, (.ok true : Outcome)⟩ :: after := by
  simp only [AdapterHandler.run, handleChangeSource, hdata] at h
  obtain ⟨answer, after, rfl, -⟩ := h
  have hanswer := hconnected _ (List.mem_cons_self ..)
  rcases answer with e | _ | _
  · simp [answersConnected] at hanswer
  · simp [answersConnected] at hanswer
  · exact ⟨after, rfl⟩

/-- Where attempts are allowed, such a command can push the next slot past any time. -/
theorem exists_runs_failing (t : CommandThrottler) (remaining attempt now : ℕ) :
    ∃ trace t', Runs (attempts (pure false) remaining attempt) t trace (.ok false) t' ∧
      (∀ step ∈ trace, answersConnected step = true) ∧ t.nextAllowed ≤ t'.nextAllowed ∧
      (0 < remaining → now ≤ t'.nextAllowed) := by
  induction remaining generalizing t attempt with
  | zero =>
      exact ⟨[], _, runs_attempts_zero.mpr ⟨rfl, rfl, rfl⟩, by simp, Nat.le_refl _, by simp⟩
  | succ remaining ih =>
      let failed : CommandThrottler :=
        { t.reservedAt now with consecutiveFailures := u32 (t.consecutiveFailures + 1) }
      obtain ⟨trace, t', hruns, hconnected, hlater, -⟩ := ih failed (attempt + 1)
      have hslot : t.slotAt now ≤ failed.nextAllowed := Nat.le_add_right _ _
      have hbounds : t.nextAllowed ≤ t.slotAt now ∧ now ≤ t.slotAt now := by
        unfold slotAt
        split <;> omega
      refine ⟨t.reservation now ++ ([] ++ (⟨.sleep (retryDelayMs attempt), ()⟩ :: trace)), t',
        runs_attempts_succ.mpr ⟨now, [], .ok false, t.reservedAt now, _, rfl,
          runs_pure.mpr ⟨rfl, rfl, rfl⟩, trace, rfl, hruns⟩, ?_, by omega, fun _ => by omega⟩
      intro step hstep
      simp only [List.nil_append, List.mem_append, List.mem_cons] at hstep
      rcases hstep with hstep | rfl | hstep
      · unfold reservation at hstep
        split at hstep <;> simp only [List.mem_cons, List.not_mem_nil, or_false] at hstep
        · rcases hstep with rfl | rfl <;> rfl
        · rw [hstep]
          rfl
      · rfl
      · exact hconnected step hstep

/-- An unknown source is rejected cleanly only by a throttler that neither allows an attempt nor
has a failure to take off its count. -/
theorem rejectedCleanly_unknown_source_iff {m : Message} {source : UInt8} {rest : List UInt8}
    (htype : m.type = .cmdChangeSource) (hdata : m.data = source :: rest) (hunknown : 5 < source)
    (t : CommandThrottler) :
    RejectedCleanly m t ↔ t.config.maxRetryAttempts = 0 ∧ t.consecutiveFailures = 0 := by
  have hfind : findDispatchByType m.type =
      some ⟨.cmdChangeSource, .adapterCall, false, true, some .changeSource⟩ := by
    rw [htype]
    rfl
  constructor
  · intro hclean
    obtain ⟨trace, t', hruns, hconnected, -, hlater⟩ :=
      exists_runs_failing t t.config.maxRetryAttempts 0 (t.nextAllowed + 1)
    have hcommand : Runs (executeOnAdapter m
        ⟨.cmdChangeSource, .adapterCall, false, true, some .changeSource⟩) t _ _ t' :=
      (runs_executeOnAdapter_of_connected rfl rfl).mpr
        ⟨_, (runs_unknown_source hdata hunknown).mpr hruns, rfl⟩
    have hsame := hclean _ _ _ _ hfind hcommand (by simpa [answersConnected] using hconnected)
    rw [hsame.2.2] at hruns hlater
    have hattempts : t.config.maxRetryAttempts = 0 := by
      by_contra hpos
      have := hlater (Nat.pos_of_ne_zero hpos)
      omega
    rw [hattempts, runs_attempts_zero] at hruns
    have hcount : t.consecutiveFailures = t.consecutiveFailures - 1 :=
      congrArg consecutiveFailures hruns.2.2
    exact ⟨hattempts, by omega⟩
  · rintro ⟨hattempts, hfailures⟩ spec trace outcome t' hfind' hruns hconnected
    obtain rfl := Option.some.inj (hfind.symm.trans hfind')
    obtain ⟨_, result, rfl, hrest, rfl⟩ := runs_executeOnAdapter rfl rfl hruns hconnected
    obtain ⟨trace, rfl⟩ := connected_of_unknown_source hdata hrest
      fun step hstep => hconnected step (List.mem_cons_of_mem _ hstep)
    rw [runs_unknown_source hdata hunknown, hattempts, runs_attempts_zero] at hrest
    obtain ⟨rfl, rfl, rfl⟩ := hrest
    refine ⟨rfl, by simp [transmits], ?_⟩
    rw [hfailures, Nat.zero_sub, ← hfailures]

/-- **Rejections.** For every malformed message and every throttler: it is rejected cleanly
exactly when it is a key, when it has no payload, or when the throttler neither allows an
attempt nor has a failure to take off its count. -/
theorem rejectedCleanly_iff {m : Message} (h : m.Malformed) (t : CommandThrottler) :
    RejectedCleanly m t ↔
      m.type = .cmdKey ∨ m.data = [] ∨
        (t.config.maxRetryAttempts = 0 ∧ t.consecutiveFailures = 0) := by
  rcases h with ⟨htype, hsource⟩ | ⟨htype, hkey⟩
  · cases hdata : m.data with
    | nil =>
        have hfind : findDispatchByType m.type =
            some ⟨.cmdChangeSource, .adapterCall, false, true, some .changeSource⟩ := by
          rw [htype]
          rfl
        have hrun : AdapterHandler.changeSource.run m = pure false := by
          simp [AdapterHandler.run, handleChangeSource, hdata]
        simpa using rejectedCleanly_of_run_eq_pure hfind rfl rfl hrun t
    | cons source rest =>
        simpa [htype] using
          rejectedCleanly_unknown_source_iff htype hdata (hsource source rest hdata) t
  · have hfind : findDispatchByType m.type =
        some ⟨.cmdKey, .adapterCall, false, true, some .key⟩ := by
      rw [htype]
      rfl
    have hrun : AdapterHandler.key.run m = pure false := by
      simp only [AdapterHandler.run, handleKey]
      split
      · rfl
      · next code rest hdata => rw [if_pos (hkey code rest hdata)]
    simpa [htype] using rejectedCleanly_of_run_eq_pure hfind rfl rfl hrun t

/-- A source outside the table. -/
theorem malformed_unknown_source : Message.Malformed ⟨.cmdChangeSource, 0, [9]⟩ := by
  refine Or.inl ⟨rfl, fun source rest heq => ?_⟩
  cases heq
  decide

/-- The throttler as it is configured by default does not reject it cleanly. -/
theorem rejectedCleanly_iff_default :
    RejectedCleanly ⟨.cmdChangeSource, 0, [9]⟩ {} ↔
      MessageType.cmdChangeSource = .cmdKey ∨ ([9] : List UInt8) = [] ∨ ((3 : ℕ) = 0 ∧ (0 : ℕ) = 0) :=
  rejectedCleanly_iff malformed_unknown_source {}

/-- So a malformed request can slow down the ones that follow it. -/
theorem unknown_source_not_rejectedCleanly :
    ¬ ∀ (m : Message) (t : CommandThrottler), m.Malformed → RejectedCleanly m t := by
  intro h
  have hclean := h _ {} malformed_unknown_source
  have hconfig := (rejectedCleanly_unknown_source_iff rfl rfl (by decide) _).mp hclean
  exact absurd hconfig.1 (by decide)

end CecControl
