import MediaSync.TaskWorker

/-!
# The delays of a backoff

A retry waits twice as long as the one before it, up to a limit. The loop never
doubles past the limit: it first compares the delay with half of the limit.
Half of an odd number of microseconds is rounded to even. Rounded down it is
reached one microsecond too early, and the limit is answered instead of the
doubled delay, which is one microsecond shorter.

Here the durations have the range of `timedelta`, and leaving it is an error.
-/
namespace MediaSync.BackoffDelays
open TaskTables TaskWorker

/-! ## Durations -/

def microsecondsPerDay : ℤ := 86400000000

def Representable (micros : ℤ) : Prop :=
  -999999999 ≤ micros / microsecondsPerDay ∧ micros / microsecondsPerDay ≤ 999999999

instance (micros : ℤ) : Decidable (Representable micros) := inferInstanceAs (Decidable (_ ∧ _))

/-- `datetime.timedelta` -/
structure Timedelta where
  micros : ℤ
  representable : Representable micros
  deriving DecidableEq

/-- What an operation on durations answers; days are a C integer on the way. -/
def Timedelta.ofMicros (micros : ℤ) : Except String Timedelta :=
  let days := micros / microsecondsPerDay
  if h : Representable micros then .ok ⟨micros, h⟩
  else if -2147483648 ≤ days ∧ days ≤ 2147483647 then
    .error ("days=" ++ toString days ++ "; must have magnitude <= 999999999")
  else .error "Python int too large to convert to C int"

theorem Timedelta.ofMicros_ok {micros : ℤ} (h : Representable micros) :
    ofMicros micros = .ok ⟨micros, h⟩ := dif_pos h

theorem representable_of_le {micros : ℤ} (limit : Timedelta) (hpos : 0 ≤ micros)
    (hle : micros ≤ limit.micros) : Representable micros := by
  have hlimit := limit.representable.2
  unfold Representable microsecondsPerDay at *
  omega

def Timedelta.half (delta : Timedelta) : Except String Timedelta :=
  ofMicros (halfDelay delta.micros)

def Timedelta.twice (delta : Timedelta) : Except String Timedelta := ofMicros (delta.micros * 2)

/-! ## The backoff -/

structure Backoff where
  baseDelay : Timedelta
  maxDelay : Timedelta
  positive : 0 < baseDelay.micros
  ordered : baseDelay.micros ≤ maxDelay.micros

namespace Backoff

/-- The constructor with its `__post_init__` -/
def construct (baseDelay maxDelay : Timedelta) : Except String Backoff :=
  if hpos : baseDelay.micros ≤ 0 then .error "base_delay must be positive"
  else if hle : maxDelay.micros < baseDelay.micros then
    .error "max_delay must not be shorter than base_delay"
  else .ok ⟨baseDelay, maxDelay, not_le.mp hpos, not_lt.mp hle⟩

/-- The loop of `delay_for`, and the minimum behind it. -/
def doubled (backoff : Backoff) : ℕ → Timedelta → Except String Timedelta
  | 0, delay => .ok (if backoff.maxDelay.micros < delay.micros then backoff.maxDelay else delay)
  | n + 1, delay => do
    let half ← backoff.maxDelay.half
    if half.micros ≤ delay.micros then return backoff.maxDelay
    backoff.doubled n (← delay.twice)

def delayFor (backoff : Backoff) (retryCount : ℤ) : Except String Timedelta :=
  if retryCount < 0 then .error "retry_count must not be negative"
  else backoff.doubled retryCount.toNat backoff.baseDelay

/-- The backoff of the worker, whose durations have no range. -/
def plain (backoff : Backoff) : ExponentialBackoff where
  baseDelay := backoff.baseDelay.micros
  maxDelay := backoff.maxDelay.micros
  positive := backoff.positive
  ordered := backoff.ordered

theorem construct_ok {baseDelay maxDelay : Timedelta} {backoff : Backoff}
    (h : construct baseDelay maxDelay = .ok backoff) :
    backoff.baseDelay = baseDelay ∧ backoff.maxDelay = maxDelay := by
  unfold construct at h
  split_ifs at h
  cases h
  exact ⟨rfl, rfl⟩

end Backoff

/-! ## The closed form -/

/-- Half of the limit is rounded down, and the delay before comes up to it. -/
def RoundedDown (limit delay : ℤ) (n : ℕ) : Prop :=
  0 < n ∧ limit % 4 = 1 ∧ delay * 2 ^ n + 1 = limit

instance (limit delay : ℤ) (n : ℕ) : Decidable (RoundedDown limit delay n) :=
  inferInstanceAs (Decidable (_ ∧ _))

theorem halfDelay_bounds (limit : ℤ) : ∃ half : ℤ, halfDelay limit = half ∧
    (half * 2 = limit ∨ half * 2 + 1 = limit ∧ limit % 4 = 1 ∨
      half * 2 = limit + 1 ∧ limit % 4 = 3) := by
  refine ⟨if limit % 2 = 0 ∨ limit / 2 % 2 = 0 then limit / 2 else limit / 2 + 1, rfl, ?_⟩
  split_ifs <;> omega

theorem twice_le_of_lt_half {limit delay : ℤ} (h : delay < halfDelay limit) :
    delay * 2 ≤ limit ∧ ¬(limit % 4 = 1 ∧ delay * 2 + 1 = limit) := by
  obtain ⟨half, heq, hhalf⟩ := halfDelay_bounds limit
  rw [heq] at h
  omega

theorem limit_le_of_half_le {limit delay : ℤ} (h : ¬delay < halfDelay limit) :
    limit ≤ delay * 2 ∨ limit % 4 = 1 ∧ delay * 2 + 1 = limit := by
  obtain ⟨half, heq, hhalf⟩ := halfDelay_bounds limit
  rw [heq] at h
  omega

/-- Doubling a delay that is less than half of the limit. -/
theorem roundedDown_succ {limit delay : ℤ} {n : ℕ} (h : delay < halfDelay limit) :
    RoundedDown limit delay (n + 1) ↔ RoundedDown limit (delay * 2) n := by
  have hpow : delay * 2 ^ (n + 1) = delay * 2 * 2 ^ n := by ring
  unfold RoundedDown
  rw [hpow]
  constructor
  · rintro ⟨-, hmod, heq⟩
    refine ⟨Nat.pos_of_ne_zero ?_, hmod, heq⟩
    rintro rfl
    exact (twice_le_of_lt_half h).2 ⟨hmod, by simpa using heq⟩
  · rintro ⟨-, hmod, heq⟩
    exact ⟨Nat.succ_pos n, hmod, heq⟩

/-- What the loop answers: the doubled delay up to the limit, or the limit
where half of it was rounded down. -/
theorem doubled_eq (backoff : ExponentialBackoff) (n : ℕ) (delay : ℤ) (hpos : 0 < delay)
    (hle : delay ≤ backoff.maxDelay) :
    backoff.doubled n delay =
      if RoundedDown backoff.maxDelay delay n then backoff.maxDelay
      else min (delay * 2 ^ n) backoff.maxDelay := by
  induction n generalizing delay with
  | zero =>
    rw [if_neg fun h => absurd h.1 (lt_irrefl 0), pow_zero, mul_one]
    rfl
  | succ n ih =>
    rw [ExponentialBackoff.doubled]
    split
    · rename_i hhalf
      split_ifs with hrounded
      · rfl
      · symm
        rw [min_eq_right_iff]
        have hpow : delay * 2 ^ (n + 1) = delay * 2 * 2 ^ n := by ring
        have hone : (1 : ℤ) ≤ 2 ^ n := one_le_pow₀ (by decide)
        rcases limit_le_of_half_le (not_lt.mpr hhalf) with hlimit | ⟨hmod, heq⟩
        · calc backoff.maxDelay ≤ delay * 2 := hlimit
            _ ≤ delay * 2 * 2 ^ n := le_mul_of_one_le_right (by omega) hone
            _ = delay * 2 ^ (n + 1) := hpow.symm
        · rcases Nat.eq_zero_or_pos n with rfl | hn
          · exact absurd ⟨Nat.one_pos, hmod, by simpa using heq⟩ hrounded
          · have htwo : (2 : ℤ) ≤ 2 ^ n := by
              simpa using pow_le_pow_right₀ (by decide : (1 : ℤ) ≤ 2) hn
            calc backoff.maxDelay = delay * 2 + 1 := heq.symm
              _ ≤ delay * 2 * 2 := by omega
              _ ≤ delay * 2 * 2 ^ n := mul_le_mul_of_nonneg_left htwo (by omega)
              _ = delay * 2 ^ (n + 1) := hpow.symm
    · rename_i hhalf
      have hlt : delay < halfDelay backoff.maxDelay := not_le.mp hhalf
      have hpow : delay * 2 ^ (n + 1) = delay * 2 * 2 ^ n := by ring
      rw [ih (delay * 2) (by omega) (twice_le_of_lt_half hlt).1, hpow]
      exact if_congr (roundedDown_succ hlt).symm rfl rfl

theorem delayFor_eq (backoff : ExponentialBackoff) (n : ℕ) : backoff.delayFor n =
    if RoundedDown backoff.maxDelay backoff.baseDelay n then backoff.maxDelay
    else min (backoff.baseDelay * 2 ^ n) backoff.maxDelay :=
  doubled_eq backoff n backoff.baseDelay backoff.positive backoff.ordered

theorem delayFor_le_succ (backoff : ExponentialBackoff) (n : ℕ) :
    backoff.delayFor n ≤ backoff.delayFor (n + 1) := by
  have hpos : (0 : ℤ) < backoff.baseDelay := backoff.positive
  have hpow : backoff.baseDelay * 2 ^ (n + 1) = backoff.baseDelay * 2 ^ n * 2 := by ring
  have hdoubled : (0 : ℤ) < backoff.baseDelay * 2 ^ n := by positivity
  have hgrows : backoff.baseDelay * 2 ^ n ≤ backoff.baseDelay * 2 ^ (n + 1) := by
    rw [hpow]
    exact le_mul_of_one_le_right hdoubled.le (by decide)
  rw [delayFor_eq, delayFor_eq]
  split_ifs with hrounded hnext hnext
  · exact le_refl _
  · rw [le_min_iff]
    refine ⟨?_, le_refl _⟩
    calc backoff.maxDelay = backoff.baseDelay * 2 ^ n + 1 := hrounded.2.2.symm
      _ ≤ backoff.baseDelay * 2 ^ n * 2 := by
        rw [mul_two]
        exact Int.add_le_add_left hdoubled _
      _ = backoff.baseDelay * 2 ^ (n + 1) := hpow.symm
  · exact min_le_right _ _
  · exact min_le_min_right _ hgrows

theorem delayFor_mono (backoff : ExponentialBackoff) : Monotone backoff.delayFor :=
  monotone_nat_of_le_succ (delayFor_le_succ backoff)

/-! ## No overflow -/

theorem half_ok (delta : Timedelta) (hpos : 0 < delta.micros) :
    ∃ half : Timedelta, delta.half = .ok half ∧ half.micros = halfDelay delta.micros := by
  obtain ⟨half, heq, hhalf⟩ := halfDelay_bounds delta.micros
  have hrange : Representable (halfDelay delta.micros) := by
    rw [heq]
    exact representable_of_le delta (by omega) (by omega)
  exact ⟨⟨_, hrange⟩, Timedelta.ofMicros_ok hrange, rfl⟩

/-- The loop on durations answers what the loop on numbers does. -/
theorem doubled_ok (backoff : Backoff) (n : ℕ) (delay : Timedelta) (hpos : 0 < delay.micros)
    (hle : delay.micros ≤ backoff.maxDelay.micros) :
    ∃ answer : Timedelta, backoff.doubled n delay = .ok answer ∧
      answer.micros = backoff.plain.doubled n delay.micros := by
  induction n generalizing delay with
  | zero =>
    refine ⟨delay, ?_, (min_eq_left hle).symm⟩
    rw [Backoff.doubled, if_neg (not_lt.mpr hle)]
  | succ n ih =>
    obtain ⟨half, hhalf, heq⟩ := half_ok backoff.maxDelay (hpos.trans_le hle)
    rw [Backoff.doubled, ExponentialBackoff.doubled, hhalf]
    by_cases hreached : halfDelay backoff.maxDelay.micros ≤ delay.micros
    · refine ⟨backoff.maxDelay, ?_, (if_pos hreached).symm⟩
      exact if_pos (heq ▸ hreached)
    · have htwice := (twice_le_of_lt_half (not_le.mp hreached)).1
      have hrange := representable_of_le backoff.maxDelay (by omega) htwice
      obtain ⟨answer, hanswer, hmicros⟩ := ih ⟨delay.micros * 2, hrange⟩
        (mul_pos hpos (by decide)) htwice
      refine ⟨answer, ?_, hmicros.trans (if_neg hreached).symm⟩
      refine (if_neg (heq ▸ hreached)).trans ?_
      rw [Timedelta.twice, Timedelta.ofMicros_ok hrange]
      exact hanswer

theorem delayFor_ok (backoff : Backoff) (n : ℕ) :
    ∃ answer : Timedelta, backoff.delayFor n = .ok answer ∧
      answer.micros = backoff.plain.delayFor n := by
  obtain ⟨answer, hanswer, hmicros⟩ :=
    doubled_ok backoff n backoff.baseDelay backoff.positive backoff.ordered
  refine ⟨answer, ?_, hmicros⟩
  rw [Backoff.delayFor, if_neg (by omega), Int.toNat_natCast]
  exact hanswer

/-! ## The delays -/

/-- No retry count is too large, longer waits never get shorter, and a delay is
the doubled one, up to the limit, unless half of the limit was rounded down and
reached. -/
theorem delay_exact_iff (base limit : Timedelta) (backoff : Backoff)
    (h : Backoff.construct base limit = .ok backoff) :
    (∀ n : ℕ, (backoff.delayFor n).map Timedelta.micros =
        .ok (min (base.micros * 2 ^ n) limit.micros) ↔
      ¬RoundedDown limit.micros base.micros n) ∧
    (∀ n : ℕ, ∃ delay, backoff.delayFor n = .ok delay) ∧
    ∀ (n m : ℕ) (delay later : Timedelta), n ≤ m → backoff.delayFor n = .ok delay →
      backoff.delayFor m = .ok later → delay.micros ≤ later.micros := by
  obtain ⟨rfl, rfl⟩ := Backoff.construct_ok h
  refine ⟨fun n => ?_, fun n => ?_, fun n m delay later hle hdelay hlater => ?_⟩
  · obtain ⟨answer, hanswer, hmicros⟩ := delayFor_ok backoff n
    have hclosed : answer.micros =
        if RoundedDown backoff.maxDelay.micros backoff.baseDelay.micros n
        then backoff.maxDelay.micros
        else min (backoff.baseDelay.micros * 2 ^ n) backoff.maxDelay.micros :=
      hmicros.trans (delayFor_eq backoff.plain n)
    rw [hanswer, Except.map, Except.ok.injEq, hclosed]
    constructor
    · intro hexact hrounded
      rw [if_pos hrounded] at hexact
      have hmax : backoff.maxDelay.micros ≤ backoff.baseDelay.micros * 2 ^ n :=
        min_eq_right_iff.mp hexact.symm
      have hless := hrounded.2.2
      omega
    · exact fun hrounded => if_neg hrounded
  · obtain ⟨answer, hanswer, -⟩ := delayFor_ok backoff n
    exact ⟨answer, hanswer⟩
  · obtain ⟨first, hfirst, hfirstMicros⟩ := delayFor_ok backoff n
    obtain ⟨second, hsecond, hsecondMicros⟩ := delayFor_ok backoff m
    rw [hdelay] at hfirst
    rw [hlater] at hsecond
    cases hfirst
    cases hsecond
    rw [hfirstMicros, hsecondMicros]
    exact delayFor_mono backoff.plain hle

def thirtySeconds : Timedelta := ⟨30000000, by decide⟩

/-- One microsecond more than a minute. -/
def justOverMinute : Timedelta := ⟨60000001, by decide⟩

def sampleBackoff : Backoff := ⟨thirtySeconds, justOverMinute, by decide, by decide⟩

theorem delay_exact_iff_sample :
    (sampleBackoff.delayFor 2).map Timedelta.micros = .ok (min (30000000 * 2 ^ 2) 60000001) :=
  ((delay_exact_iff thirtySeconds justOverMinute sampleBackoff rfl).1 2).mpr (by decide)

/-- The first doubling gives the limit and not a minute. -/
theorem delay_above_doubled : ¬∀ (base limit : Timedelta) (backoff : Backoff),
    Backoff.construct base limit = .ok backoff → ∀ n : ℕ,
      (backoff.delayFor n).map Timedelta.micros =
        .ok (min (base.micros * 2 ^ n) limit.micros) := by
  intro h
  exact absurd (h thirtySeconds justOverMinute sampleBackoff rfl 1) (by decide)

end MediaSync.BackoffDelays
