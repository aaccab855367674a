/-
# What the throttler remembers of failures

The throttler lengthens its interval with the number of consecutive failures. Each failed
attempt adds one, a success clears the count, and when the attempts of a command are used up
one is taken off again: the comment there says that such a command is to weigh as a single
hit.

The throttler sees nothing of a command but the outcomes of its invocations, so a command is
one call that the environment answers. A session is a sequence of commands; for each the
outcomes and the count left behind are kept, and the count is compared with the tally of
exhausted commands since the last success.
-/

import CecControl.Cec.ThrottledRuns

namespace CecControl

open WorkerM

namespace CommandThrottler

/-! ## The intended count -/

/-- How a command ended, by the outcomes of its invocations. -/
inductive Verdict
  | success
  | exhausted
  | thrown (failedAttempts : ℕ)
  deriving DecidableEq, Repr

/-- A success ends the command, an exception leaves it, and after a failure the next
invocation decides. -/
def verdict : List Outcome → Verdict
  | [] => .exhausted
  | .ok true :: _ => .success
  | .error _ :: _ => .thrown 0
  | .ok false :: rest =>
      match verdict rest with
      | .thrown failedAttempts => .thrown (failedAttempts + 1)
      | other => other

/-- The tally after one more command: exhausted commands since the last successful one. -/
def tally (hits : ℕ) (outcomes : List Outcome) : ℕ :=
  match verdict outcomes with
  | .success => 0
  | .exhausted => hits + 1
  | .thrown _ => hits

/-! ## Sessions -/

/-- The outcomes of the command's invocations in a run of the throttler. -/
def invocations (trace : Trace) : List Outcome :=
  trace.filterMap fun
    | ⟨.adapter _, outcome⟩ => some outcome
    | _ => none

/-- A command that has been executed: the outcomes of its invocations, and the failure count
it left. -/
structure Executed where
  outcomes : List Outcome
  consecutiveFailures : ℕ

/-- Commands executed one after another from a throttler. -/
def Session : CommandThrottler → List Executed → Prop
  | _, [] => True
  | t, executed :: rest =>
      ∃ c trace outcome t', Runs (executeWithThrottle (adapter c)) t trace outcome t' ∧
        executed = ⟨invocations trace, t'.consecutiveFailures⟩ ∧ Session t' rest

/-- After each command, the count is the tally; `hits` is the tally so far. -/
def CountsHits (hits : ℕ) : List Executed → Prop
  | [] => True
  | executed :: rest =>
      executed.consecutiveFailures = tally hits executed.outcomes ∧
        CountsHits (tally hits executed.outcomes) rest

/-- A command that weighs what it should: a success; an exception from the first invocation;
or two failures, where two are allowed and the counter has room. -/
def Weighs (maxRetryAttempts hits : ℕ) (outcomes : List Outcome) : Prop :=
  match verdict outcomes with
  | .success => True
  | .exhausted => maxRetryAttempts = 2 ∧ hits + 2 < 2 ^ 32
  | .thrown failedAttempts => failedAttempts = 0

/-- All commands of a session weigh what they should. -/
def AllWeigh (maxRetryAttempts hits : ℕ) : List Executed → Prop
  | [] => True
  | executed :: rest =>
      Weighs maxRetryAttempts hits executed.outcomes ∧
        AllWeigh maxRetryAttempts (tally hits executed.outcomes) rest

/-! ## What one command does to the count -/

/-- The count a command leaves, starting from `failures` with `remaining` attempts. -/
def countAfter (failures remaining : ℕ) (outcomes : List Outcome) : ℕ :=
  match verdict outcomes with
  | .success => 0
  | .exhausted => u32 (failures + remaining) - 1
  | .thrown failedAttempts => u32 (failures + failedAttempts)

@[simp]
theorem invocations_append (first rest : Trace) :
    invocations (first ++ rest) = invocations first ++ invocations rest := by
  simp [invocations]

@[simp]
theorem invocations_reservation (t : CommandThrottler) (now : ℕ) :
    invocations (t.reservation now) = [] := by
  unfold reservation
  split <;> rfl

theorem u32_of_lt {n : ℕ} (h : n < 2 ^ 32) : u32 n = n := Nat.mod_eq_of_lt h

/-- The configuration is left alone, and the count is what the outcomes make it. -/
theorem countAfter_of_runs_attempts {c : AdapterCall} {t t' : CommandThrottler} {trace : Trace}
    {outcome : Outcome} {remaining attempt : ℕ} (hroom : t.consecutiveFailures < 2 ^ 32)
    (h : Runs (attempts (adapter c) remaining attempt) t trace outcome t') :
    t'.config = t.config ∧
      t'.consecutiveFailures = countAfter t.consecutiveFailures remaining (invocations trace) ∧
      (∀ failedAttempts, verdict (invocations trace) = .thrown failedAttempts →
        failedAttempts < remaining) := by
  induction remaining generalizing t trace attempt with
  | zero =>
      obtain ⟨rfl, -, rfl⟩ := runs_attempts_zero.mp h
      refine ⟨rfl, ?_, by simp [invocations, verdict]⟩
      simp [countAfter, invocations, verdict, u32_of_lt hroom]
  | succ remaining ih =>
      obtain ⟨now, _, result, _, rest, rfl, hbody, hrest⟩ := runs_attempts_succ.mp h
      obtain ⟨rfl, rfl⟩ := runs_adapter.mp hbody
      simp only [invocations_append, invocations_reservation, List.nil_append]
      rcases result with e | _ | _
      · obtain ⟨rfl, -, rfl⟩ := hrest
        refine ⟨rfl, ?_, ?_⟩
        · simp [countAfter, invocations, verdict, u32_of_lt hroom]
        · simp [invocations, verdict]
      · obtain ⟨rest, rfl, hrest⟩ := hrest
        obtain ⟨hconfig, hcount, hthrown⟩ := ih (Nat.mod_lt _ (by decide)) hrest
        have hskip : invocations [⟨.adapter c, .ok false⟩] ++
            invocations (⟨.sleep (retryDelayMs attempt), ()⟩ :: rest) =
            .ok false :: invocations rest := rfl
        rw [hskip]
        refine ⟨hconfig, ?_, ?_⟩
        · rw [hcount]
          simp only [countAfter, verdict, u32, reservedAt_consecutiveFailures]
          cases verdict (invocations rest) <;> simp only <;> omega
        · intro failedAttempts hverdict
          simp only [verdict] at hverdict
          cases hlater : verdict (invocations rest) with
          | thrown later =>
              rw [hlater] at hverdict
              cases hverdict
              exact Nat.succ_lt_succ (hthrown later hlater)
          | success | exhausted => simp [hlater] at hverdict
      · obtain ⟨rfl, -, rfl⟩ := hrest
        exact ⟨rfl, by simp [countAfter, invocations, verdict], by simp [invocations, verdict]⟩

/-- A command weighs what it should exactly when it leaves the next tally. -/
theorem countAfter_eq_tally_iff {maxRetryAttempts hits : ℕ} {outcomes : List Outcome}
    (hattempts : maxRetryAttempts < 2 ^ 32) (hhits : hits < 2 ^ 32)
    (hthrown : ∀ failedAttempts, verdict outcomes = .thrown failedAttempts →
      failedAttempts < maxRetryAttempts) :
    countAfter hits maxRetryAttempts outcomes = tally hits outcomes ↔
      Weighs maxRetryAttempts hits outcomes := by
  cases hverdict : verdict outcomes with
  | success => simp [countAfter, tally, Weighs, hverdict]
  | exhausted =>
      simp only [countAfter, tally, Weighs, hverdict, u32]
      omega
  | thrown failedAttempts =>
      have hlt := hthrown failedAttempts hverdict
      simp only [countAfter, tally, Weighs, hverdict, u32]
      omega

/-- The tally of a command that weighs what it should fits the counter. -/
theorem tally_lt {maxRetryAttempts hits : ℕ} {outcomes : List Outcome} (hhits : hits < 2 ^ 32)
    (h : Weighs maxRetryAttempts hits outcomes) : tally hits outcomes < 2 ^ 32 := by
  cases hverdict : verdict outcomes with
  | success => simp [tally, hverdict]
  | exhausted =>
      simp only [Weighs, hverdict] at h
      simp only [tally, hverdict]
      omega
  | thrown failedAttempts =>
      simp only [tally, hverdict]
      exact hhits

/-- **Sessions.** From any throttler, the count follows the tally through a session exactly
when every command of it weighs what it should. -/
theorem countsHits_iff_allWeigh {t : CommandThrottler} {executed : List Executed}
    (hattempts : t.config.maxRetryAttempts < 2 ^ 32) (hroom : t.consecutiveFailures < 2 ^ 32)
    (h : Session t executed) :
    CountsHits t.consecutiveFailures executed ↔
      AllWeigh t.config.maxRetryAttempts t.consecutiveFailures executed := by
  induction executed generalizing t with
  | nil => exact Iff.rfl
  | cons first rest ih =>
      obtain ⟨c, trace, outcome, t', hruns, rfl, hrest⟩ := h
      obtain ⟨hconfig, hcount, hthrown⟩ :=
        countAfter_of_runs_attempts hroom (runs_executeWithThrottle.mp hruns)
      have hfirst := countAfter_eq_tally_iff hattempts hroom hthrown
      simp only [CountsHits, AllWeigh]
      rw [hcount, hfirst]
      refine and_congr_right fun hweighs => ?_
      have htally : t'.consecutiveFailures = tally t.consecutiveFailures (invocations trace) :=
        hcount.trans (hfirst.mpr hweighs)
      rw [← htally, ← hconfig]
      refine ih (hconfig ▸ hattempts) ?_ hrest
      rw [htally]
      exact tally_lt hroom hweighs

/-- **The count of a new throttler.** Between the commands of a session the count is the
number of exhausted commands since the last success exactly when no command threw after a
failed attempt and, for every exhausted command, two attempts are configured and the counter
has room. -/
theorem failure_count_iff {t : CommandThrottler} {executed : List Executed}
    (hattempts : t.config.maxRetryAttempts < 2 ^ 32) (hnew : t.consecutiveFailures = 0)
    (h : Session t executed) :
    CountsHits 0 executed ↔ AllWeigh t.config.maxRetryAttempts 0 executed := by
  rw [← hnew]
  exact countsHits_iff_allWeigh hattempts (by rw [hnew]; decide) h

/-- An adapter that fails every command, at a clock that stands still. -/
def failing : ∀ op : Op, op.Ans
  | .adapter _ => Except.ok false
  | .now => (0 : ℕ)
  | .sleep _ => ()

/-- The session of one command that is never acknowledged. -/
theorem session_failing (t : CommandThrottler) :
    Session t [⟨invocations
        (((executeWithThrottle (adapter .volumeUp)).program t).answered failing).1,
      (((executeWithThrottle (adapter .volumeUp)).program t).answered
        failing).2.2.consecutiveFailures⟩] :=
  ⟨_, _, _, _, Lib.Program.follows_answered failing _, rfl, trivial⟩

/-- With two attempts, a command that fails twice is one hit. -/
theorem failure_count_two_attempts :
    (CountsHits 0 [⟨[.ok false, .ok false], 1⟩] ↔
      AllWeigh 2 0 [⟨[.ok false, .ok false], 1⟩]) ∧
    CountsHits 0 [⟨[.ok false, .ok false], 1⟩] :=
  ⟨failure_count_iff (t := { config := { maxRetryAttempts := 2 } }) (by decide) rfl
    (session_failing _), rfl, trivial⟩

/-- With the default of three attempts, one exhausted command leaves a count of two. -/
theorem failure_count_default :
    ¬ ∀ (t : CommandThrottler) (executed : List Executed), 1 ≤ t.config.maxRetryAttempts →
      t.config.maxRetryAttempts < 2 ^ 32 → t.consecutiveFailures = 0 → Session t executed →
      CountsHits 0 executed := by
  intro h
  have hcounts : CountsHits 0 [⟨[.ok false, .ok false, .ok false], 2⟩] :=
    h {} _ (by decide) (by decide) rfl (session_failing {})
  exact absurd hcounts.1 (by decide)

end CommandThrottler

end CecControl
