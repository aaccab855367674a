/-
# Whose result is it?

The result of a reconnect attempt carries nothing that says which attempt it is of.
The reconnect machine relies on having been taken out of `attempting` before the
result of an attempt it no longer waits for arrives. A suspend sees to that by itself:
its job is the last one until the daemon is awake again. A resume of a daemon that is
not suspended does not: it interrupts an attempt whose job is still on its way and
seeds a cycle, whose own attempt may fall due before the job has ended, or before its
result has been drained.

Here each attempt is known by the ticket it was issued, and the run remembers which
attempt was started last, which ones a resume request has overtaken, and which have
ended. Whether every result is that of its attempt is then a matter of the events alone.
-/

import CecControl.Daemon.Attempts

namespace CecControl

open Lib PowerLifecycle

/-! ## Runs that remember the attempts -/

/-- The daemon, and what the run has shown of the attempts. -/
structure Tracked where
  daemon : Daemon
  /-- The attempt the reconnect machine started last. -/
  current : Option ℕ := none
  /-- The attempts that a resume request took the machine out of. -/
  overtaken : List ℕ := []
  /-- The attempts whose job has ended. -/
  ended : List ℕ := []
  /-- An attempt has been handed over since the last power request was handled. -/
  handed : Bool := false

namespace Tracked

open Daemon

/-- Note an event that leads to the daemon `d`. -/
def note (t : Tracked) (d : Daemon) : AttemptEvent → Tracked
  | .handedOver => { t with daemon := d, current := some t.daemon.tickets, handed := true }
  | .answered => { t with daemon := d, current := some t.daemon.tickets }
  | .requested kind =>
      { t with
        daemon := d
        overtaken :=
          if kind = .resume ∧ t.daemon.adapterReconnect.state = .attempting then
            t.overtaken ++ t.current.toList
          else t.overtaken
        handed := false }
  | .ended ticket => { t with daemon := d, ended := ticket :: t.ended }
  | .drained _ | .stopped | .other => { t with daemon := d }

def step (t : Tracked) (label : Label) : Option Tracked :=
  (Daemon.machine.step t.daemon label).map fun d => t.note d (t.daemon.attemptEvent label)

def machine : Machine Tracked Label where
  step := step

def start (setup : Setup) : Tracked where
  daemon := boot setup

/-- The result the step drains. -/
def drains (t : Tracked) : Label → Option (ℕ × Bool)
  | .drain =>
      match t.daemon.posts with
      | .reconnectDone ticket ok :: _ => some (ticket, ok)
      | _ => none
  | _ => none

/-- What should hold of every step: a result consumed by the machine is that of the attempt
it waits for, any other result does nothing, and there is at most one reopen job. -/
structure Proper (t : Tracked) (label : Label) : Prop where
  own : ∀ ticket ok, t.drains label = some (ticket, ok) →
    t.daemon.adapterReconnect.state = .attempting → t.current = some ticket
  absorbed : ∀ ticket ok next, t.drains label = some (ticket, ok) →
    (t.daemon.adapterReconnect.state ≠ .attempting ∨ t.current ≠ some ticket) →
    machine.step t label = some next →
    next.daemon =
      { t.daemon with posts := t.daemon.posts.tail, log := t.daemon.log ++ [.invoked ticket] }
  single : ∀ next, machine.step t label = some next → next.daemon.reopens.length ≤ 1

/-- No attempt is handed to the worker before the jobs of those that a resume request has
overtaken have ended; and when an overtaken one's result is drained, a power request has been
handled since any attempt was handed over. -/
def Allows (t : Tracked) : AttemptEvent → Prop
  | .handedOver => ∀ ticket ∈ t.overtaken, ticket ∈ t.ended
  | .drained ticket => ticket ∈ t.overtaken → t.handed = false
  | _ => True

instance (t : Tracked) : ∀ event, Decidable (t.Allows event)
  | .handedOver => inferInstanceAs (Decidable (∀ ticket ∈ t.overtaken, ticket ∈ t.ended))
  | .drained ticket => inferInstanceAs (Decidable (ticket ∈ t.overtaken → t.handed = false))
  | .answered | .requested _ | .ended _ | .stopped | .other => .isTrue trivial

def Untangled (t : Tracked) (label : Label) : Prop := t.Allows (t.daemon.attemptEvent label)

instance (t : Tracked) (label : Label) : Decidable (t.Untangled label) :=
  inferInstanceAs (Decidable (t.Allows _))

variable {t t' : Tracked} {label : Label}

theorem step_cases (hstep : machine.step t label = some t') :
    ∃ d, Daemon.machine.step t.daemon label = some d ∧
      t' = t.note d (t.daemon.attemptEvent label) := by
  obtain ⟨d, hd, rfl⟩ := Option.map_eq_some_iff.mp hstep
  exact ⟨d, hd, rfl⟩

/-! ## What every run keeps -/

/-- Attempts are told apart by their tickets and come out in order, and one that is waited for,
or has been overtaken, has ended or still has its job. -/
structure Numbered (t : Tracked) : Prop where
  gated : Gated t.daemon
  sorted : t.daemon.underWay.Pairwise (· < ·)
  bounded : ∀ ticket ∈ t.daemon.underWay, ticket < t.daemon.tickets
  current : t.daemon.Attempting → ∀ ticket, t.current = some ticket → ticket < t.daemon.tickets
  noted : ∀ ticket, ticket ∈ t.overtaken ∨ ticket ∈ t.ended → ticket < t.daemon.tickets
  ended : ∀ ticket ∈ t.ended, ticket ∉ t.daemon.reopens
  awaited : t.daemon.lifecycleShutdown = false → t.daemon.Attempting →
    ∃ ticket, t.current = some ticket ∧ (ticket ∈ t.ended ∨ ticket ∈ t.daemon.reopens)
  overtaken : t.daemon.lifecycleShutdown = false → ∀ ticket ∈ t.overtaken,
    ticket ∈ t.ended ∨ ticket ∈ t.daemon.reopens

theorem sorted_step (h : Numbered t) {d : Daemon} {event : AttemptEvent}
    (hturn : Turn t.daemon event d) :
    d.underWay.Pairwise (· < ·) ∧ ∀ ticket ∈ d.underWay, ticket < d.tickets := by
  rcases hturn.underWay with ⟨-, hmore, htickets⟩ | ⟨hsub, htickets⟩
  · rw [hmore, List.pairwise_append]
    refine ⟨⟨h.sorted, by simp, fun earlier hearlier later hlater => ?_⟩, fun ticket hmem => ?_⟩
    · rw [List.mem_singleton.mp hlater]
      exact h.bounded earlier hearlier
    · rcases List.mem_append.mp hmem with hold | hnew
      · exact (h.bounded ticket hold).trans htickets
      · rwa [List.mem_singleton.mp hnew]
  · exact ⟨h.sorted.sublist hsub, fun ticket hmem =>
      (h.bounded ticket (hsub.subset hmem)).trans_le htickets⟩

theorem numbered_step (h : Numbered t) (hstep : machine.step t label = some t') : Numbered t' := by
  obtain ⟨d, hd, rfl⟩ := step_cases hstep
  obtain ⟨hgated, hturn⟩ := gated_turn_of_step h.gated hd
  obtain ⟨hsorted, hbounded⟩ := sorted_step h hturn
  have hcurrent {tickets : ℕ} (hle : t.daemon.tickets ≤ tickets) (hstate : t.daemon.Attempting)
      (ticket : ℕ) (heq : t.current = some ticket) : ticket < tickets :=
    (h.current hstate ticket heq).trans_le hle
  have hnoted {tickets : ℕ} (hle : t.daemon.tickets ≤ tickets) (ticket : ℕ)
      (hmem : ticket ∈ t.overtaken ∨ ticket ∈ t.ended) : ticket < tickets :=
    (h.noted ticket hmem).trans_le hle
  generalize t.daemon.attemptEvent label = event at hturn
  cases hturn with
  | handedOver hopen hawake hshut hsuspended hbefore hafter hreopens hresults htickets =>
      refine ⟨hgated, hsorted, hbounded, fun _ ticket heq => Option.some.inj heq ▸ htickets,
        hnoted htickets.le, fun ticket hended hmem => ?_, fun _ _ => ⟨_, rfl, Or.inr ?_⟩,
        fun _ ticket hovertaken => ?_⟩
      · rw [note, hreopens, List.mem_append, List.mem_singleton] at hmem
        rcases hmem with hmem | rfl
        · exact h.ended ticket hended hmem
        · exact Nat.lt_irrefl _ (h.noted _ (Or.inr hended))
      · simp [note, hreopens]
      · simpa [note, hreopens, or_assoc] using Or.inl (h.overtaken hshut ticket hovertaken)
  | answered hkept hsuspended hbefore hafter =>
      refine ⟨hgated, hsorted, hbounded, fun hstate => absurd hstate hafter, hnoted hkept.tickets,
        ?_, fun _ hstate => absurd hstate hafter, ?_⟩ <;>
        simp only [note, hkept.reopens, hkept.shutdown]
      · exact h.ended
      · exact h.overtaken
  | requested hkept hafter hsuspended hfenced =>
      rename_i kind
      -- an attempt overtaken was waited for, and so had ended or still had its job
      have hovertaken {ticket : ℕ} (hmem : ticket ∈ (t.note d (.requested kind)).overtaken) :
          ticket ∈ t.overtaken ∨ t.daemon.Attempting ∧ t.current = some ticket := by
        simp only [note] at hmem
        split_ifs at hmem with hresume
        · exact (List.mem_append.mp hmem).imp_right fun hcurrent =>
            ⟨hresume.2, Option.mem_toList.mp hcurrent⟩
        · exact Or.inl hmem
      refine ⟨hgated, hsorted, hbounded, fun hstate => absurd hstate hafter, fun ticket hmem => ?_,
        ?_, fun _ hstate => absurd hstate hafter, fun hopen ticket hmem => ?_⟩
      · rcases hmem with hmem | hmem
        · rcases hovertaken hmem with hold | ⟨hstate, heq⟩
          · exact hnoted hkept.tickets ticket (Or.inl hold)
          · exact hcurrent hkept.tickets hstate ticket heq
        · exact hnoted hkept.tickets ticket (Or.inr hmem)
      · simpa only [note, hkept.reopens] using h.ended
      · simp only [note, hkept.reopens, hkept.shutdown] at hopen ⊢
        rcases hovertaken hmem with hold | ⟨hstate, heq⟩
        · exact h.overtaken hopen ticket hold
        · obtain ⟨waited, hwaited, hplace⟩ := h.awaited hopen hstate
          obtain rfl := Option.some.inj (heq.symm.trans hwaited)
          exact hplace
  | ended hreopens hresults hafter htickets hshut hsuspended =>
      rename_i ended
      have hplace {ticket : ℕ} (hbefore : ticket ∈ t.ended ∨ ticket ∈ t.daemon.reopens) :
          ticket ∈ ended :: t.ended ∨ ticket ∈ d.reopens := by
        rw [hreopens, List.mem_cons] at hbefore
        rw [List.mem_cons]
        tauto
      refine ⟨hgated, hsorted, hbounded, fun hstate => hcurrent htickets.ge (hafter.mp hstate),
        fun ticket hmem => ?_, fun ticket hmem hreopen => ?_, fun hopen hstate => ?_,
        fun hopen ticket hmem => hplace (h.overtaken (hshut ▸ hopen) ticket hmem)⟩
      · rcases hmem with hmem | hmem
        · exact hnoted htickets.ge ticket (Or.inl hmem)
        · rcases List.mem_cons.mp hmem with rfl | hmem
          · exact htickets ▸ h.bounded ticket (List.mem_append_right _ (by simp [hreopens]))
          · exact hnoted htickets.ge ticket (Or.inr hmem)
      · rcases List.mem_cons.mp hmem with rfl | hmem
        · have hordered := (List.pairwise_append.mp h.sorted).2.1
          rw [hreopens, List.pairwise_cons] at hordered
          exact Nat.lt_irrefl _ (hordered.1 ticket hreopen)
        · exact h.ended ticket hmem (hreopens ▸ List.mem_cons_of_mem _ hreopen)
      · obtain ⟨ticket, heq, hbefore⟩ := h.awaited (hshut ▸ hopen) (hafter.mp hstate)
        exact ⟨ticket, heq, hplace hbefore⟩
  | drained hresults hreopens hafter htickets hshut hsuspended =>
      refine ⟨hgated, hsorted, hbounded, fun hstate => absurd hstate hafter, hnoted htickets, ?_,
        fun _ hstate => absurd hstate hafter, ?_⟩ <;> simp only [note, hreopens, hshut]
      · exact h.ended
      · exact h.overtaken
  | stopped hreopens hresults hafter htickets hshut =>
      have hclosed {P : Prop} : d.lifecycleShutdown = false → P := fun hopen => by
        rw [hshut] at hopen
        cases hopen
      exact ⟨hgated, hsorted, hbounded, fun hstate => hcurrent htickets.ge (hafter.mp hstate),
        hnoted htickets.ge, fun ticket hended hmem => h.ended ticket hended (hreopens.subset hmem),
        hclosed, hclosed⟩
  | other hkept hafter hawakened =>
      refine ⟨hgated, hsorted, hbounded, fun hstate => hcurrent hkept.tickets (hafter.mp hstate),
        hnoted hkept.tickets, ?_, ?_, ?_⟩ <;> simp only [note, hkept.reopens, hkept.shutdown, hafter]
      · exact h.ended
      · exact h.awaited
      · exact h.overtaken

/-! ## Untangled runs -/

/-- There is at most one reopen job. Whatever is under way while a result is waited for is the
attempt started last or has been overtaken; while none is, and nothing keeps an attempt from
being handed over, all of it has been. -/
structure Clear (t : Tracked) : Prop where
  single : t.daemon.reopens.length ≤ 1
  handed : t.daemon.Attempting → t.handed = true
  waiting : t.daemon.Attempting → ∀ ticket ∈ t.daemon.underWay,
    t.current = some ticket ∨ ticket ∈ t.overtaken
  free : ¬ t.daemon.Attempting → t.daemon.lifecycleShutdown = false → t.daemon.suspended = false →
    ∀ ticket ∈ t.daemon.underWay, ticket ∈ t.overtaken

theorem clear_step (h : Numbered t) (hclear : Clear t) (hallowed : t.Untangled label)
    (hstep : machine.step t label = some t') : Clear t' := by
  obtain ⟨d, hd, rfl⟩ := step_cases hstep
  obtain ⟨-, hturn⟩ := gated_turn_of_step h.gated hd
  have hway := hturn.underWay
  have hkeeps (hkept : Unmoved t.daemon d) : d.underWay = t.daemon.underWay := by
    rw [underWay, hkept.reopens, hkept.results]
    rfl
  unfold Untangled at hallowed
  generalize t.daemon.attemptEvent label = event at hturn hallowed hway
  cases hturn with
  | handedOver hopen hawake hshut hsuspended hbefore hafter hreopens hresults htickets =>
      have hovertaken := hclear.free hbefore hshut hsuspended
      -- every attempt with a job would have been overtaken and so have ended
      have hnone : t.daemon.reopens = [] := by
        refine List.eq_nil_iff_forall_not_mem.mpr fun ticket hmem => ?_
        have hended := hallowed ticket (hovertaken ticket (List.mem_append_right _ hmem))
        exact h.ended ticket hended hmem
      refine ⟨by simp [note, hreopens, hnone], fun _ => rfl, fun _ ticket hmem => ?_,
        fun hstate => absurd hafter hstate⟩
      rw [note, underWay, hreopens, hresults, hnone, List.nil_append, List.mem_append,
        List.mem_singleton] at hmem
      rcases hmem with hmem | rfl
      · exact Or.inr (hovertaken ticket (List.mem_append_left _ hmem))
      · exact Or.inl rfl
  | answered hkept hsuspended hbefore hafter =>
      refine ⟨hkept.reopens ▸ hclear.single, fun hstate => absurd hstate hafter,
        fun hstate => absurd hstate hafter, fun _ => ?_⟩
      simpa only [note, hkeeps hkept, hkept.shutdown, hsuspended] using hclear.free hbefore
  | requested hkept hafter hsuspended hfenced =>
      rename_i kind
      refine ⟨hkept.reopens ▸ hclear.single, fun hstate => absurd hstate hafter,
        fun hstate => absurd hstate hafter, fun _ hopen hawake ticket hmem => ?_⟩
      rw [note] at hopen hawake hmem ⊢
      dsimp only at hopen hawake hmem ⊢
      rw [hkeeps hkept] at hmem
      rw [hkept.shutdown] at hopen
      by_cases hstate : t.daemon.Attempting
      · have hresume : kind = .resume := by
          cases kind with
          | suspend => simp [hfenced rfl hstate hopen] at hawake
          | resume => rfl
        rw [if_pos ⟨hresume, hstate⟩, List.mem_append, Option.mem_toList]
        exact (hclear.waiting hstate ticket hmem).symm
      · rw [if_neg fun hresume => hstate hresume.2]
        refine hclear.free hstate hopen ?_ ticket hmem
        by_contra hraised
        simp [hsuspended (by simpa using hraised)] at hawake
  | ended hreopens hresults hafter htickets hshut hsuspended =>
      have hsub := (hway.resolve_left (by simp)).1.subset
      have hsingle := hclear.single
      rw [hreopens, List.length_cons] at hsingle
      refine ⟨(Nat.le_succ _).trans hsingle, fun hstate => hclear.handed (hafter.mp hstate),
        fun hstate ticket hmem => hclear.waiting (hafter.mp hstate) ticket (hsub hmem),
        fun hstate hopen hawake ticket hmem => ?_⟩
      exact hclear.free (hafter.not.mp hstate) (hshut ▸ hopen) (hsuspended ▸ hawake) ticket
        (hsub hmem)
  | drained hresults hreopens hafter htickets hshut hsuspended =>
      rename_i drained
      have hsub := (hway.resolve_left (by simp)).1.subset
      refine ⟨hreopens ▸ hclear.single, fun hstate => absurd hstate hafter,
        fun hstate => absurd hstate hafter, fun _ hopen hawake ticket hmem => ?_⟩
      have hbefore : t.daemon.underWay = drained :: d.underWay := by
        rw [underWay, underWay, hresults, hreopens]
        rfl
      by_cases hstate : t.daemon.Attempting
      · -- what is waited for is the result drained, so that all others have been overtaken
        have hcurrent : t.current = some drained := by
          refine (hclear.waiting hstate drained (hbefore ▸ List.mem_cons_self)).resolve_right ?_
          intro hovertaken
          exact absurd (hclear.handed hstate) (by simp [hallowed hovertaken])
        have hordered := h.sorted
        rw [hbefore, List.pairwise_cons] at hordered
        refine (hclear.waiting hstate ticket (hsub hmem)).resolve_left fun hsame => ?_
        obtain rfl := Option.some.inj (hcurrent.symm.trans hsame)
        exact Nat.lt_irrefl _ (hordered.1 _ hmem)
      · exact hclear.free hstate (hshut ▸ hopen) (hsuspended ▸ hawake) ticket (hsub hmem)
  | stopped hreopens hresults hafter htickets hshut =>
      have hsub := (hway.resolve_left (by simp)).1.subset
      refine ⟨hreopens.length_le.trans hclear.single,
        fun hstate => hclear.handed (hafter.mp hstate),
        fun hstate ticket hmem => hclear.waiting (hafter.mp hstate) ticket (hsub hmem),
        fun _ hopen => ?_⟩
      rw [note, hshut] at hopen
      cases hopen
  | other hkept hafter hawakened =>
      refine ⟨hkept.reopens ▸ hclear.single, fun hstate => hclear.handed (hafter.mp hstate),
        fun hstate ticket hmem => ?_, fun hstate hopen hawake ticket hmem => ?_⟩
      · exact hclear.waiting (hafter.mp hstate) ticket (hkeeps hkept ▸ hmem)
      · rcases hawakened hopen hawake with hsame | ⟨hreopens, hresults⟩
        · exact hclear.free (hafter.not.mp hstate) (hkept.shutdown ▸ hopen) hsame ticket
            (hkeeps hkept ▸ hmem)
        · rw [note, underWay, hreopens, hresults] at hmem
          cases hmem

theorem posts_of_drains {ticket : ℕ} {ok : Bool} (h : t.drains label = some (ticket, ok)) :
    label = .drain ∧ t.daemon.posts = .reconnectDone ticket ok :: t.daemon.posts.tail := by
  cases label with
  | drain =>
      simp only [drains] at h
      split at h
      · next ticket' ok' posts hposts =>
          obtain ⟨rfl, rfl⟩ := Prod.mk.inj (Option.some.inj h)
          exact ⟨rfl, by simp [hposts]⟩
      · cases h
  | _ => cases h

theorem mem_underWay_of_drains {ticket : ℕ} {ok : Bool}
    (h : t.drains label = some (ticket, ok)) : ticket ∈ t.daemon.underWay := by
  refine List.mem_append_left _ ?_
  rw [results, (posts_of_drains h).2]
  simp [Post.attempt?]

theorem drains_of_attemptEvent {ticket : ℕ} (h : t.daemon.attemptEvent label = .drained ticket) :
    ∃ ok, t.drains label = some (ticket, ok) := by
  unfold attemptEvent attemptPassed at h
  split_ifs at h
  split at h
  · cases h
  · split at h
    · rename_i hposts _ _ _
      obtain rfl := AttemptEvent.drained.inj h
      exact ⟨_, by rw [drains, hposts]⟩
    all_goals cases h

theorem attemptEvent_of_drains {ticket : ℕ} {ok : Bool} (h : t.drains label = some (ticket, ok)) :
    t.daemon.attemptEvent label = .drained ticket := by
  obtain ⟨rfl, hposts⟩ := posts_of_drains h
  rw [attemptEvent_of_quiet]
  · unfold attemptPassed
    rw [hposts]
  · rw [emitsStartAttempt, hposts]
    rfl
  · rw [request?, hposts]

theorem proper_of_clear (h : Numbered t) (hclear : Clear t) (hallowed : t.Untangled label) :
    t.Proper label := by
  have hown (ticket : ℕ) (ok : Bool) (hdrains : t.drains label = some (ticket, ok))
      (hstate : t.daemon.adapterReconnect.state = .attempting) : t.current = some ticket := by
    refine (hclear.waiting hstate ticket (mem_underWay_of_drains hdrains)).resolve_right
      fun hovertaken => ?_
    rw [Untangled, attemptEvent_of_drains hdrains] at hallowed
    exact absurd (hclear.handed hstate) (by simp [hallowed hovertaken])
  refine ⟨hown, fun ticket ok next hdrains hother hstep => ?_, fun next hstep => ?_⟩
  · obtain ⟨rfl, hposts⟩ := posts_of_drains hdrains
    have hstate : t.daemon.adapterReconnect.state ≠ .attempting :=
      hother.elim id fun hne hstate => hne (hown ticket ok hdrains hstate)
    obtain ⟨d, hd, rfl⟩ := step_cases hstep
    change Daemon.step t.daemon .drain = some d at hd
    rw [Daemon.step, hposts] at hd
    rw [attemptEvent_of_drains hdrains]
    exact (Option.some.inj hd).symm.trans (onReconnectResult_of_not_attempting (by exact hstate) ok)
  · exact (clear_step h hclear hallowed hstep).single

/-! ## Runs in which results belong to their attempts -/

/-- While an attempt overtaken is under way, an attempt handed over since is waited for. -/
def Ahead (t : Tracked) : Prop :=
  t.handed = true → (∃ ticket ∈ t.overtaken, ticket ∈ t.daemon.underWay) →
    t.daemon.Attempting ∧ ∃ current, t.current = some current ∧
      ∀ ticket ∈ t.overtaken, ticket < current

theorem ahead_step (h : Numbered t) (hahead : Ahead t) (hproper : t.Proper label)
    (hstep : machine.step t label = some t') : Ahead t' := by
  obtain ⟨d, hd, rfl⟩ := step_cases hstep
  obtain ⟨-, hturn⟩ := gated_turn_of_step h.gated hd
  have hway := hturn.underWay
  have hdrains (ticket : ℕ) (hevent : t.daemon.attemptEvent label = .drained ticket) :
      ∃ ok, t.drains label = some (ticket, ok) := drains_of_attemptEvent hevent
  generalize t.daemon.attemptEvent label = event at hturn hway hdrains
  have hbefore (hother : event ≠ .handedOver) (hmem : ∃ ticket ∈ t.overtaken, ticket ∈ d.underWay) :
      ∃ ticket ∈ t.overtaken, ticket ∈ t.daemon.underWay := by
    obtain ⟨ticket, hovertaken, hticket⟩ := hmem
    exact ⟨ticket, hovertaken, (hway.resolve_left fun hhanded => hother hhanded.1).1.subset hticket⟩
  cases hturn with
  | handedOver hopen hawake hshut hsuspended hbefore hafter hreopens hresults htickets =>
      exact fun _ _ => ⟨hafter, _, rfl, fun ticket hovertaken => h.noted ticket (Or.inl hovertaken)⟩
  | answered hkept hsuspended hidle hafter =>
      exact fun hhanded hmem => absurd (hahead hhanded (hbefore (by simp) hmem)).1 hidle
  | requested hkept hafter hsuspended hfenced => exact fun hhanded => by cases hhanded
  | ended hreopens hresults hafter htickets hshut hsuspended =>
      exact fun hhanded hmem => (hahead hhanded (hbefore (by simp) hmem)).imp_left hafter.mpr
  | drained hresults hreopens hafter htickets hshut hsuspended =>
      rename_i drained
      rintro hhanded ⟨ticket, hovertaken, hmem⟩
      obtain ⟨hstate, current, hcurrent, hless⟩ :=
        hahead hhanded (hbefore (by simp) ⟨ticket, hovertaken, hmem⟩)
      obtain ⟨ok, hdrained⟩ := hdrains drained rfl
      -- the result drained is the one waited for, and it comes last
      obtain rfl := Option.some.inj (hcurrent.symm.trans (hproper.own drained ok hdrained hstate))
      have hordered := h.sorted
      rw [show t.daemon.underWay = current :: d.underWay by
        rw [underWay, underWay, hresults, hreopens]; rfl, List.pairwise_cons] at hordered
      exact absurd (hless ticket hovertaken) (hordered.1 ticket hmem).asymm
  | stopped hreopens hresults hafter htickets hshut =>
      exact fun hhanded hmem => (hahead hhanded (hbefore (by simp) hmem)).imp_left hafter.mpr
  | other hkept hafter hawakened =>
      exact fun hhanded hmem => (hahead hhanded (hbefore (by simp) hmem)).imp_left hafter.mpr

theorem emits_of_handedOver (h : t.daemon.attemptEvent label = .handedOver) :
    t.daemon.handsOver label = true := by
  unfold attemptEvent attemptPassed at h
  by_contra hhands
  rw [if_neg hhands] at h
  split_ifs at h
  split at h
  · cases h
  · split at h <;> cases h

/-- An attempt that is handed over before an overtaken one has ended is one too many, and one
that is waited for when the overtaken one's result is drained is given a result not its own. -/
theorem untangled_of_proper (h : Numbered t) (hahead : Ahead t) (hproper : t.Proper label) :
    t.Untangled label := by
  unfold Untangled
  cases hevent : t.daemon.attemptEvent label with
  | handedOver =>
      intro ticket hovertaken
      have hhands := emits_of_handedOver hevent
      simp only [handsOver, Bool.and_eq_true, Bool.not_eq_true'] at hhands
      obtain ⟨d, hd⟩ := enabled_of_emits hhands.1.1.1
      have hsingle := hproper.single _ (Option.map_eq_some_iff.mpr ⟨d, hd, rfl⟩)
      obtain ⟨-, hturn⟩ := gated_turn_of_step h.gated hd
      rw [hevent] at hturn hsingle
      cases hturn with
      | handedOver hopen hawake hshut hsuspended hbefore hafter hreopens =>
          rw [note, hreopens, List.length_append, List.length_singleton] at hsingle
          have hnone : t.daemon.reopens = [] := List.length_eq_zero_iff.mp (by omega)
          refine (h.overtaken hshut ticket hovertaken).resolve_right ?_
          simp [hnone]
  | drained ticket =>
      intro hovertaken
      obtain ⟨ok, hdrains⟩ := drains_of_attemptEvent hevent
      by_contra hhanded
      obtain ⟨hstate, current, hcurrent, hless⟩ := hahead (by simpa using hhanded)
        ⟨ticket, hovertaken, mem_underWay_of_drains hdrains⟩
      obtain rfl := Option.some.inj (hcurrent.symm.trans (hproper.own ticket ok hdrains hstate))
      exact Nat.lt_irrefl _ (hless current hovertaken)
  | _ => trivial

/-- **Attempt results belong to their attempts**, and there is never more than one reopen job,
in a run just if the run is untangled: once a resume request has taken the machine out of an
attempt, no other is handed to the worker before the job of that one has ended, and when its
result is drained, a power request has been handled since any other was handed over. -/
theorem results_proper_iff {setup : Setup} {labels : List Label} :
    machine.Meets Proper (start setup) labels ↔ machine.Meets Untangled (start setup) labels := by
  have hnumbered : Numbered (start setup) := by
    refine ⟨Gated.boot setup, ?_, ?_, ?_, ?_, ?_, ?_, ?_⟩ <;>
      simp [start, boot, underWay, results, reopens, Attempting]
  constructor
  · apply machine.meets_of_invariant (I := fun t => Numbered t ∧ Ahead t)
      (fun h hproper hstep => ⟨numbered_step h.1 hstep, ahead_step h.1 h.2 hproper hstep⟩)
      (fun h hproper => untangled_of_proper h.1 h.2 hproper)
    exact ⟨hnumbered, fun hhanded => by cases hhanded⟩
  · apply machine.meets_of_invariant (I := fun t => Numbered t ∧ Clear t)
      (fun h hallowed hstep => ⟨numbered_step h.1 hstep, clear_step h.1 h.2 hallowed hstep⟩)
      (fun h hallowed => proper_of_clear h.1 h.2 hallowed)
    refine ⟨hnumbered, ?_, ?_, ?_, ?_⟩ <;>
      simp [start, boot, underWay, results, reopens, Attempting]

/-- A resume request while an attempt runs, and a second attempt before the first has
reported its success. -/
def secondAttempt : List Label :=
  [.alertStore, .alertPost, .drain, .retryExpire, .retryTimer, .workerTake, .workerReopen,
    .wire ⟨.cmdResume, 0, []⟩, .retryExpire, .retryTimer, .workerOpened, .workerCall (.ok true),
    .workerFinish]

/-- There have been two reopen jobs at a time, and the machine takes the result of the first for
the second's. -/
theorem result_taken_for_another :
    ∃ t, machine.run (start {}) secondAttempt = some t ∧
      ¬ machine.Meets (fun t _ => t.daemon.reopens.length ≤ 1) (start {}) secondAttempt ∧
      ¬ t.Proper .drain := by
  have hreached : (machine.run (start {}) secondAttempt).map (fun t =>
      (t.drains .drain, t.daemon.adapterReconnect.state, t.current)) =
      some (some (0, true), .attempting, some 2) := by decide
  obtain ⟨t, hrun, heq⟩ := Option.map_eq_some_iff.mp hreached
  simp only [Prod.mk.injEq] at heq
  obtain ⟨hdrains, hstate, hcurrent⟩ := heq
  refine ⟨t, hrun, by decide, fun hproper => ?_⟩
  have hown := hproper.own 0 true hdrains hstate
  rw [hcurrent] at hown
  cases hown

/-- A resume request between the end of the first attempt's job and its result, a second attempt,
and a second resume request before either result: both are absorbed. -/
def bothAbsorbed : List Label :=
  [.alertStore, .alertPost, .drain, .retryExpire, .retryTimer, .workerTake, .workerReopen,
    .workerCall (.ok false), .workerFinish, .wire ⟨.cmdResume, 0, []⟩, .retryExpire, .retryTimer,
    .wire ⟨.cmdResume, 0, []⟩, .drain, .workerTake, .workerReopen, .workerCall (.ok false),
    .workerFinish, .drain]

example : ((machine.run (start {}) bothAbsorbed).map fun t => (t.overtaken, t.daemon.posts)) =
    some ([0, 2], []) ∧ machine.Meets Untangled (start {}) bothAbsorbed := by decide

end Tracked

end CecControl
