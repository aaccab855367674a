/-
# The delays between attempts

After a failed attempt the throttler sleeps before it tries again, twice as long each time. The
delay is computed in 32 bits from the index of the attempt, so there is a number of attempts
up to which the delays are what they should be, and beyond which they are not: a product that
wraps, and then a shift by more than the width of the type.

The delays are read off the trace of a run, as the sleeps that follow the command.
-/

import CecControl.Cec.ThrottledRuns

namespace CecControl

open WorkerM

namespace CommandThrottler

/-- The sleeps that come right after the command. -/
def backoffs : Trace → List ℕ
  | ⟨.adapter _, _⟩ :: ⟨.sleep ms, _⟩ :: rest => ms :: backoffs rest
  | _ :: rest => backoffs rest
  | [] => []

variable {t t' : CommandThrottler} {trace : Trace} {outcome : Outcome}

theorem backoffs_reservation_append (t : CommandThrottler) (now : ℕ) (rest : Trace) :
    backoffs (t.reservation now ++ rest) = backoffs rest := by
  unfold reservation
  split <;> rfl

/-- The delays of a run are those of consecutive attempts. -/
theorem backoffs_of_runs_attempts {c : AdapterCall} {remaining attempt : ℕ}
    (h : Runs (attempts (adapter c) remaining attempt) t trace outcome t') :
    ∃ failed ≤ remaining, backoffs trace = (List.range' attempt failed).map retryDelayMs := by
  induction remaining generalizing t trace attempt with
  | zero =>
      obtain ⟨rfl, -⟩ := runs_attempts_zero.mp h
      exact ⟨0, Nat.le_refl 0, rfl⟩
  | succ remaining ih =>
      obtain ⟨now, _, result, _, rest, rfl, hbody, hrest⟩ := runs_attempts_succ.mp h
      obtain ⟨rfl, rfl⟩ := runs_adapter.mp hbody
      rw [backoffs_reservation_append]
      rcases result with e | _ | _
      · obtain ⟨rfl, -⟩ := hrest
        exact ⟨0, Nat.zero_le _, rfl⟩
      · obtain ⟨rest, rfl, hrest⟩ := hrest
        obtain ⟨failed, hle, hbackoffs⟩ := ih hrest
        refine ⟨failed + 1, Nat.succ_le_succ hle, ?_⟩
        rw [List.range'_succ, List.map_cons, ← hbackoffs]
        rfl
      · obtain ⟨rfl, -⟩ := hrest
        exact ⟨0, Nat.zero_le _, rfl⟩

/-- When every attempt fails, all of them are followed by their delay. -/
theorem exists_runs_all_failing (c : AdapterCall) (t : CommandThrottler) (remaining attempt : ℕ) :
    ∃ trace t', Runs (attempts (adapter c) remaining attempt) t trace (.ok false) t' ∧
      backoffs trace = (List.range' attempt remaining).map retryDelayMs := by
  induction remaining generalizing t attempt with
  | zero => exact ⟨[], _, runs_attempts_zero.mpr ⟨rfl, rfl, rfl⟩, rfl⟩
  | succ remaining ih =>
      obtain ⟨trace, t', hruns, hbackoffs⟩ := ih
        { t.reservedAt 0 with consecutiveFailures := u32 (t.consecutiveFailures + 1) } (attempt + 1)
      refine ⟨t.reservation 0 ++ ([⟨.adapter c, (.ok false : Outcome)⟩] ++
        ⟨.sleep (retryDelayMs attempt), ()⟩ :: trace), t', ?_, ?_⟩
      · exact runs_attempts_succ.mpr ⟨0, _, .ok false, t.reservedAt 0, _, rfl,
          runs_adapter.mpr ⟨rfl, rfl⟩, trace, rfl, hruns⟩
      · rw [backoffs_reservation_append, List.range'_succ, List.map_cons, ← hbackoffs]
        rfl

/-- The delay of an attempt is the one intended as long as the product fits. -/
theorem retryDelayMs_eq {attempt : ℕ} (h : attempt < 26) : retryDelayMs attempt = 100 * 2 ^ attempt := by
  revert attempt
  decide

theorem retryDelayMs_26 : retryDelayMs 26 ≠ 100 * 2 ^ 26 := by decide

/-- With this configuration, every run computes its delays without a wrap and without an
oversized shift, and no delay is shorter than the one before it. -/
def BackoffExact (config : ThrottlerConfig) : Prop :=
  ∀ (c : AdapterCall) (t t' : CommandThrottler) (trace : Trace) (outcome : Outcome),
    t.config = config → Runs (executeWithThrottle (adapter c)) t trace outcome t' →
    (∀ attempt ms, (backoffs trace)[attempt]? = some ms → attempt < 32 ∧ ms = 100 * 2 ^ attempt) ∧
      (backoffs trace).Pairwise (· ≤ ·)

/-- So it is for up to twenty-six attempts. -/
theorem backoffExact_iff (config : ThrottlerConfig) :
    BackoffExact config ↔ config.maxRetryAttempts ≤ 26 := by
  constructor
  · intro hexact
    by_contra hmany
    obtain ⟨trace, t', hruns, hbackoffs⟩ :=
      exists_runs_all_failing .volumeUp { config } config.maxRetryAttempts 0
    have hdelay : (backoffs trace)[26]? = some (retryDelayMs 26) := by
      rw [hbackoffs, List.getElem?_map, List.getElem?_range' (by omega)]
      rfl
    have hall := hexact .volumeUp { config } t' trace _ rfl (runs_executeWithThrottle.mpr hruns)
    exact retryDelayMs_26 (hall.1 26 _ hdelay).2
  · rintro hfew c t t' trace outcome rfl hruns
    obtain ⟨failed, hle, hbackoffs⟩ := backoffs_of_runs_attempts (runs_executeWithThrottle.mp hruns)
    have hexact : backoffs trace = (List.range' 0 failed).map fun attempt => 100 * 2 ^ attempt := by
      rw [hbackoffs]
      apply List.map_congr_left
      intro attempt hmem
      apply retryDelayMs_eq
      have := (List.mem_range'_1.mp hmem).2
      omega
    rw [hexact]
    constructor
    · intro attempt ms hms
      rw [List.getElem?_map, Option.map_eq_some_iff] at hms
      obtain ⟨index, hindex, rfl⟩ := hms
      obtain ⟨hlt, rfl⟩ := List.getElem?_eq_some_iff.mp hindex
      simp only [List.length_range'] at hlt
      simp only [List.getElem_range', Nat.zero_add, Nat.one_mul]
      exact ⟨by omega, trivial⟩
    · rw [List.pairwise_map]
      apply List.Pairwise.imp _ (List.pairwise_lt_range' (s := 0) (n := failed))
      intro first second hlt
      exact Nat.mul_le_mul_left 100 (Nat.pow_le_pow_right (by decide) (Nat.le_of_lt hlt))

end CommandThrottler

end CecControl
