/-
# Deadlines of the bus

sd-bus gives its deadline as microseconds on the monotonic clock, and the timer takes
milliseconds from now. On the way are a subtraction of 64-bit numbers, a division that rounds
up, a bound, a negative number for "no deadline", and a timer that zeros disarm. Every deadline
arms the timer, none makes it fire early, and rounding costs less than a millisecond.
-/

import CecControl.Bus.DBusMonitor

namespace CecControl

/-- What `clock_gettime` reads off the monotonic clock. The kernel keeps it as a signed 64-bit
number of nanoseconds. -/
structure MonotonicReading where
  sec : UInt64
  nsec : UInt64
  nsec_lt : nsec.toNat < 1000000000
  inRange : sec.toNat * 1000000000 + nsec.toNat < 0x8000000000000000

namespace MonotonicReading

def nanoseconds (now : MonotonicReading) : ℕ := now.sec.toNat * 1000000000 + now.nsec.toNat

/-- In whole microseconds. -/
def us (now : MonotonicReading) : ℕ := now.sec.toNat * 1000000 + now.nsec.toNat / 1000

def timespec (now : MonotonicReading) : UInt64 × UInt64 := (now.sec, now.nsec)

end MonotonicReading

/-! ## Rounding up -/

/-- Milliseconds that cover `us` microseconds. -/
def ceilMs (us : ℕ) : ℕ := us / 1000 + if us % 1000 ≠ 0 then 1 else 0

theorem ceilMs_bounds (us : ℕ) : us ≤ ceilMs us * 1000 ∧ ceilMs us * 1000 < us + 1000 := by
  unfold ceilMs
  split_ifs <;> omega

theorem ceilMs_pos {us : ℕ} (h : 0 < us) : 0 < ceilMs us := by
  have := (ceilMs_bounds us).1
  omega

/-! ## The computation in 64 bits -/

/-- The largest number of milliseconds asked for. -/
def kMaxMs : ℕ := 2147483647

/-- Milliseconds until a deadline, on unbounded numbers. -/
def relativeMs (absUs nowUs : ℕ) : ℕ := min (ceilMs (absUs - nowUs)) kMaxMs

/-- None of the steps leaves the range of its type: a product, a sum, a difference, and another
sum. -/
structure NoWrap (absUs : UInt64) (now : MonotonicReading) : Prop where
  seconds : (now.sec * 1000000).toNat = now.sec.toNat * 1000000
  nowUs : (now.sec * 1000000 + now.nsec / 1000).toNat = now.us
  deltaUs : now.us < absUs.toNat →
    (absUs - (now.sec * 1000000 + now.nsec / 1000)).toNat = absUs.toNat - now.us
  deltaMs : ∀ deltaUs : UInt64,
    (deltaUs / 1000 + if deltaUs % 1000 ≠ 0 then 1 else 0).toNat = ceilMs deltaUs.toNat

theorem toNat_deltaMs (deltaUs : UInt64) :
    (deltaUs / 1000 + if deltaUs % 1000 ≠ 0 then 1 else 0).toNat = ceilMs deltaUs.toNat := by
  have hlt := deltaUs.toNat_lt
  have hmod : deltaUs % 1000 ≠ 0 ↔ deltaUs.toNat % 1000 ≠ 0 := by
    rw [ne_eq, ← UInt64.toNat_inj, UInt64.toNat_mod]
    rfl
  unfold ceilMs
  simp only [hmod]
  split_ifs
  · rw [UInt64.toNat_add, UInt64.toNat_div]
    change (deltaUs.toNat / 1000 + 1) % 2 ^ 64 = _
    omega
  · rw [UInt64.toNat_add, UInt64.toNat_div]
    change (deltaUs.toNat / 1000 + 0) % 2 ^ 64 = _
    omega

theorem noWrap (absUs : UInt64) (now : MonotonicReading) : NoWrap absUs now := by
  have hnsec := now.nsec_lt
  have hrange := now.inRange
  have hseconds : (now.sec * 1000000).toNat = now.sec.toNat * 1000000 := by
    rw [UInt64.toNat_mul]
    change now.sec.toNat * 1000000 % 2 ^ 64 = _
    omega
  have hnow : (now.sec * 1000000 + now.nsec / 1000).toNat = now.us := by
    rw [UInt64.toNat_add, hseconds, UInt64.toNat_div]
    change (now.sec.toNat * 1000000 + now.nsec.toNat / 1000) % 2 ^ 64 = _
    unfold MonotonicReading.us
    omega
  refine ⟨hseconds, hnow, fun hlater => ?_, toNat_deltaMs⟩
  rw [UInt64.toNat_sub_of_le, hnow]
  rw [UInt64.le_iff_toNat_le, hnow]
  exact Nat.le_of_lt hlater

theorem toNat_min (first second : UInt64) :
    (min first second).toNat = min first.toNat second.toNat := by
  change (if first ≤ second then first else second).toNat = _
  by_cases hle : first ≤ second
  · rw [if_pos hle, Nat.min_eq_left (UInt64.le_iff_toNat_le.mp hle)]
  · rw [if_neg hle, Nat.min_eq_right (Nat.le_of_not_le fun h => hle (UInt64.le_iff_toNat_le.mpr h))]

/-- So the result is the one on unbounded numbers. -/
theorem relativeFromAbsoluteUs_eq {absUs : UInt64} (hdeadline : absUs ≠ 0xffffffffffffffff)
    (now : MonotonicReading) :
    DBusMonitor.relativeFromAbsoluteUs absUs (some now.timespec) =
      relativeMs absUs.toNat now.us := by
  obtain ⟨-, hnow, hdelta, hms⟩ := noWrap absUs now
  unfold DBusMonitor.relativeFromAbsoluteUs MonotonicReading.timespec
  rw [if_neg hdeadline]
  dsimp only
  by_cases hpast : absUs ≤ now.sec * 1000000 + now.nsec / 1000
  · rw [if_pos hpast]
    rw [UInt64.le_iff_toNat_le, hnow] at hpast
    simp [relativeMs, ceilMs, Nat.sub_eq_zero_of_le hpast]
  · rw [if_neg hpast]
    rw [UInt64.le_iff_toNat_le, hnow] at hpast
    unfold relativeMs
    rw [← hdelta (by omega), ← hms, toNat_min]
    rfl

/-! ## What is programmed -/

/-- The specification for a number of milliseconds is one the timer takes, and runs for as long;
where that is no time at all, for a nanosecond. -/
structure Programs (spec : TimerSpec) (ms : ℕ) : Prop where
  armed : spec ≠ ⟨0, 0⟩
  seconds : 0 ≤ spec.tvSec
  nanoseconds : 0 ≤ spec.tvNsec ∧ spec.tvNsec < 1000000000
  length : spec.nanoseconds = if ms = 0 then 1 else (ms : ℤ) * 1000000

theorem programs_ofMilliseconds (ms : ℕ) :
    ∃ spec, TimerSpec.ofMilliseconds ms = some spec ∧ Programs spec ms := by
  by_cases hzero : ms = 0
  · subst hzero
    exact ⟨⟨0, 1⟩, rfl, by decide, by decide, by decide, rfl⟩
  · refine ⟨⟨ms / 1000, ms % 1000 * 1000000⟩, if_pos (by omega), ?_, ?_, ?_, ?_⟩
    · rw [ne_eq, TimerSpec.mk.injEq]
      omega
    · dsimp only
      omega
    · dsimp only
      omega
    · rw [if_neg hzero]
      unfold TimerSpec.nanoseconds
      dsimp only
      omega

/-- A deadline is past for the clock just if it is for its microseconds. -/
theorem past_iff (absUs : ℕ) (now : MonotonicReading) :
    absUs * 1000 ≤ now.nanoseconds ↔ absUs ≤ now.us := by
  have hnsec := now.nsec_lt
  unfold MonotonicReading.nanoseconds MonotonicReading.us
  omega

/-- Only the largest deadline, which means none, gives a negative number. -/
theorem relativeFromAbsoluteUs_neg_iff (absUs : UInt64) (now : MonotonicReading) :
    DBusMonitor.relativeFromAbsoluteUs absUs (some now.timespec) < 0 ↔
      absUs = 0xffffffffffffffff := by
  constructor
  · intro hneg
    by_contra hdeadline
    rw [relativeFromAbsoluteUs_eq hdeadline] at hneg
    omega
  · rintro rfl
    have hlast :
        DBusMonitor.relativeFromAbsoluteUs 0xffffffffffffffff (some now.timespec) = -1 := if_pos rfl
    rw [hlast]
    decide

theorem ofMilliseconds_eq_none_iff (ms : ℤ) : TimerSpec.ofMilliseconds ms = none ↔ ms < 0 := by
  constructor
  · intro hnone
    by_contra hnonneg
    obtain ⟨n, rfl⟩ := Int.eq_ofNat_of_zero_le (Int.not_lt.mp hnonneg)
    obtain ⟨spec, hspec, -⟩ := programs_ofMilliseconds n
    rw [hspec] at hnone
    cases hnone
  · intro hneg
    unfold TimerSpec.ofMilliseconds
    rw [if_neg (by omega), if_neg (by omega)]

theorem programs_of_armed {absUs : UInt64} {now : MonotonicReading} {spec : TimerSpec}
    (hspec :
      TimerSpec.ofMilliseconds (DBusMonitor.relativeFromAbsoluteUs absUs (some now.timespec)) =
        some spec) :
    Programs spec (relativeMs absUs.toNat now.us) := by
  have hdeadline : absUs ≠ 0xffffffffffffffff := by
    intro hlast
    rw [(ofMilliseconds_eq_none_iff _).mpr ((relativeFromAbsoluteUs_neg_iff absUs now).mpr hlast)]
      at hspec
    cases hspec
  rw [relativeFromAbsoluteUs_eq hdeadline] at hspec
  obtain ⟨spec', hspec', hprograms⟩ := programs_ofMilliseconds (relativeMs absUs.toNat now.us)
  obtain rfl : spec' = spec := Option.some.inj (hspec'.symm.trans hspec)
  exact hprograms

theorem Programs.past {spec : TimerSpec} {absUs : ℕ} {now : MonotonicReading}
    (h : Programs spec (relativeMs absUs now.us)) (hpast : absUs * 1000 ≤ now.nanoseconds) :
    spec.nanoseconds = 1 := by
  rw [past_iff] at hpast
  have hnone : relativeMs absUs now.us = 0 := by
    simp [relativeMs, ceilMs, Nat.sub_eq_zero_of_le hpast]
  rw [h.length, if_pos hnone]

theorem Programs.later {spec : TimerSpec} {absUs : ℕ} {now : MonotonicReading}
    (h : Programs spec (relativeMs absUs now.us)) (hlater : now.nanoseconds < absUs * 1000) :
    if ceilMs (absUs - now.us) ≤ kMaxMs then
      (absUs - now.us : ℤ) * 1000 ≤ spec.nanoseconds ∧
        spec.nanoseconds < absUs * 1000 - now.nanoseconds + 1000000
    else spec.nanoseconds = kMaxMs * 1000000 := by
  have hpast := past_iff absUs now
  obtain ⟨hcovers, hclose⟩ := ceilMs_bounds (absUs - now.us)
  have hpos : 0 < ceilMs (absUs - now.us) := ceilMs_pos (by omega)
  have hms : relativeMs absUs now.us ≠ 0 := by
    unfold relativeMs kMaxMs
    omega
  rw [h.length, if_neg hms]
  by_cases hfits : ceilMs (absUs - now.us) ≤ kMaxMs
  · rw [if_pos hfits, relativeMs, Nat.min_eq_left hfits]
    have hnsec := now.nsec_lt
    unfold MonotonicReading.nanoseconds at hlater hpast ⊢
    unfold MonotonicReading.us at hcovers hclose hpast ⊢
    omega
  · rw [if_neg hfits, relativeMs, Nat.min_eq_right (by omega)]

/-- **Deadlines.** Nothing wraps. Only the largest deadline, which means none, disarms the timer.
For any other the timer is armed with a specification in range. A past deadline fires after a
nanosecond; a later one not before it is due, and less than a millisecond after, unless it is so
far off that the timer runs for the longest time allowed. -/
theorem deadline_covered (absUs : UInt64) (now : MonotonicReading) :
    NoWrap absUs now ∧
    (TimerSpec.ofMilliseconds (DBusMonitor.relativeFromAbsoluteUs absUs (some now.timespec)) = none ↔
      absUs = 0xffffffffffffffff) ∧
    (∀ spec,
      TimerSpec.ofMilliseconds (DBusMonitor.relativeFromAbsoluteUs absUs (some now.timespec)) =
        some spec →
      spec ≠ ⟨0, 0⟩ ∧ 0 ≤ spec.tvSec ∧ (0 ≤ spec.tvNsec ∧ spec.tvNsec < 1000000000) ∧
      (absUs.toNat * 1000 ≤ now.nanoseconds → spec.nanoseconds = 1) ∧
      (now.nanoseconds < absUs.toNat * 1000 →
        if ceilMs (absUs.toNat - now.us) ≤ kMaxMs then
          (absUs.toNat - now.us : ℤ) * 1000 ≤ spec.nanoseconds ∧
            spec.nanoseconds < absUs.toNat * 1000 - now.nanoseconds + 1000000
        else spec.nanoseconds = kMaxMs * 1000000)) ∧
    ∀ (m : DBusMonitor) (u : DBusMonitor.Update), u.timeout = some absUs →
      u.clock = some now.timespec → u.timerOk = true →
      ((m.updateTimer u).timer = .disarmed ↔ absUs = 0xffffffffffffffff) := by
  have hneg := relativeFromAbsoluteUs_neg_iff absUs now
  refine ⟨noWrap absUs now, (ofMilliseconds_eq_none_iff _).trans hneg, ?_, ?_⟩
  · intro spec hspec
    have hprograms := programs_of_armed hspec
    exact ⟨hprograms.armed, hprograms.seconds, hprograms.nanoseconds, hprograms.past,
      hprograms.later⟩
  · intro m u htimeout hclock hok
    unfold DBusMonitor.updateTimer
    rw [htimeout, hclock, hok]
    dsimp only
    rw [← hneg]
    split_ifs with h
    · exact iff_of_true rfl h
    · exact iff_of_false (fun hdisarmed => nomatch hdisarmed) h

/-- An hour and 250.999 microseconds after boot. -/
def anHourUp : MonotonicReading := ⟨3600, 250999, by decide, by decide⟩

/-- A deadline a little more than a millisecond ahead, and the timer that covers it. -/
theorem deadline_covered_anHourUp :
    ∃ spec, TimerSpec.ofMilliseconds
        (DBusMonitor.relativeFromAbsoluteUs 3600001251 (some anHourUp.timespec)) = some spec ∧
      spec = ⟨0, 2000000⟩ ∧ spec ≠ ⟨0, 0⟩ ∧
      (3600001251 * 1000 - anHourUp.nanoseconds : ℤ) ≤ spec.nanoseconds ∧
      spec.nanoseconds < 3600001251 * 1000 - anHourUp.nanoseconds + 1000000 := by
  have hspec : TimerSpec.ofMilliseconds
      (DBusMonitor.relativeFromAbsoluteUs 3600001251 (some anHourUp.timespec)) =
        some ⟨0, 2000000⟩ := by decide
  obtain ⟨harmed, -, -, -, hlater⟩ := (deadline_covered 3600001251 anHourUp).2.2.1 _ hspec
  have hclose := hlater (by decide)
  rw [if_pos (by decide)] at hclose
  refine ⟨_, hspec, rfl, harmed, ?_, hclose.2⟩
  exact Int.le_trans (by decide) hclose.1

end CecControl
