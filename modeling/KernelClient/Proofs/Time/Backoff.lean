import KernelClient.Kernel.Options
import Mathlib.Algebra.Group.Nat.Defs
import Mathlib.Order.Monotone.Defs
import Mathlib.Order.Lattice

/-!
# Delays that double

A policy documents its delays as the first one doubled with each attempt, up to a limit.  The
factor of the first delay is a machine word, which stops one short of the thirty-second power of
two, so the doubling is exact for thirty-two attempts.  Afterwards it is exact only where the
limit hides the difference: where there is no first delay to double, or where the limit is no more
than the first delay times the greatest factor.  Delays grow with the attempts and stay within
the limit in any case.
-/

namespace KernelClient

/-- A duration that fits: no longer than the longest one. -/
def Duration.Fits (duration : Duration) : Prop :=
  duration.nanoseconds ≤ longest.nanoseconds

instance (duration : Duration) : Decidable duration.Fits :=
  Nat.decLe _ _

theorem Duration.eq_iff {first second : Duration} :
    first = second ↔ first.nanoseconds = second.nanoseconds := by
  cases first
  cases second
  simp

namespace ReconnectPolicy

variable {policy : ReconnectPolicy}

/-- The documented delay in nanoseconds: the first delay is doubled with each attempt after the
first, in numbers without an end, and the limit comes last. -/
def doubledDelay (policy : ReconnectPolicy) (attempt : Nat) : Nat :=
  min (policy.baseDelay.nanoseconds * 2 ^ (attempt - 1)) policy.maxDelay.nanoseconds

/-- The greatest multiple of the first delay is as long as the limit, or longer. -/
def ReachesLimit (policy : ReconnectPolicy) : Prop :=
  policy.maxDelay.nanoseconds ≤ policy.baseDelay.nanoseconds * greatestFactor

instance (policy : ReconnectPolicy) : Decidable policy.ReachesLimit :=
  Nat.decLe _ _

theorem two_pow_lt_greatestFactor {attempt : Nat} (early : attempt ≤ 32) :
    2 ^ (attempt - 1) < greatestFactor := by
  have bound : 2 ^ (attempt - 1) ≤ 2 ^ 31 :=
    Nat.pow_le_pow_right (by decide) (by omega)
  have size : (2 : Nat) ^ 31 < greatestFactor := by decide
  omega

theorem greatestFactor_lt_two_pow {attempt : Nat} (late : 32 < attempt) :
    greatestFactor < 2 ^ (attempt - 1) := by
  have bound : 2 ^ 32 ≤ 2 ^ (attempt - 1) :=
    Nat.pow_le_pow_right (by decide) (by omega)
  have size : greatestFactor < (2 : Nat) ^ 32 := by decide
  omega

theorem factor_of_le {attempt : Nat} (early : attempt ≤ 32) :
    factor attempt = 2 ^ (attempt - 1) := by
  rw [factor, if_pos early, Nat.one_shiftLeft]

theorem factor_of_lt {attempt : Nat} (late : 32 < attempt) :
    factor attempt = greatestFactor := by
  rw [factor, if_neg (by omega)]

/-- Factors are powers of two for as long as those fit. -/
theorem factor_eq_min (attempt : Nat) :
    factor attempt = min (2 ^ (attempt - 1)) greatestFactor := by
  rcases Nat.lt_or_ge 32 attempt with late | early
  · rw [factor_of_lt late, Nat.min_eq_right (greatestFactor_lt_two_pow late).le]
  · rw [factor_of_le early, Nat.min_eq_left (two_pow_lt_greatestFactor early).le]

theorem factor_le_greatestFactor (attempt : Nat) : factor attempt ≤ greatestFactor := by
  rw [factor_eq_min]
  apply Nat.min_le_right

theorem factor_monotone : Monotone factor := by
  intro first second later
  rw [factor_eq_min, factor_eq_min]
  have powers : 2 ^ (first - 1) ≤ 2 ^ (second - 1) :=
    Nat.pow_le_pow_right (by decide) (by omega)
  omega

/-- A limit that fits hides where the multiple of the first delay stops at the longest
duration. -/
theorem delayFor_nanoseconds (fits : policy.maxDelay.Fits) (attempt : Nat) :
    (policy.delayFor attempt).nanoseconds =
      min (policy.baseDelay.nanoseconds * factor attempt) policy.maxDelay.nanoseconds := by
  show min (min (policy.baseDelay.nanoseconds * factor attempt) Duration.longest.nanoseconds)
    policy.maxDelay.nanoseconds = _
  have : policy.maxDelay.nanoseconds ≤ Duration.longest.nanoseconds := fits
  omega

theorem delayFor_monotone (fits : policy.maxDelay.Fits) :
    Monotone fun attempt => (policy.delayFor attempt).nanoseconds := by
  intro first second later
  have multiples : policy.baseDelay.nanoseconds * factor first ≤
      policy.baseDelay.nanoseconds * factor second :=
    Nat.mul_le_mul_left _ (factor_monotone later)
  simp only [delayFor_nanoseconds fits]
  omega

theorem delayFor_of_le (fits : policy.maxDelay.Fits) {attempt : Nat} (early : attempt ≤ 32) :
    (policy.delayFor attempt).nanoseconds = policy.doubledDelay attempt := by
  rw [delayFor_nanoseconds fits, factor_of_le early, doubledDelay]

/-- The documented delays are twice the ones before them, up to the limit. -/
theorem doubledDelay_succ {attempt : Nat} (counted : 0 < attempt) :
    policy.doubledDelay (attempt + 1) =
      min (2 * policy.doubledDelay attempt) policy.maxDelay.nanoseconds := by
  obtain ⟨previous, rfl⟩ := Nat.exists_eq_succ_of_ne_zero counted.ne'
  have twice : policy.baseDelay.nanoseconds * 2 ^ (previous + 1) =
      2 * (policy.baseDelay.nanoseconds * 2 ^ previous) := by
    rw [Nat.pow_succ, ← Nat.mul_assoc, Nat.mul_comm]
  simp only [doubledDelay, Nat.succ_eq_add_one, Nat.add_sub_cancel, twice]
  omega

/-- After thirty-two attempts the delay is the documented one where the limit is reached, or
where there is nothing to double. -/
theorem delayFor_eq_doubledDelay_iff_of_lt (fits : policy.maxDelay.Fits) {attempt : Nat}
    (late : 32 < attempt) :
    (policy.delayFor attempt).nanoseconds = policy.doubledDelay attempt ↔
      policy.baseDelay.nanoseconds = 0 ∨ policy.ReachesLimit := by
  rw [delayFor_nanoseconds fits, factor_of_lt late, doubledDelay, ReachesLimit]
  rcases Nat.eq_zero_or_pos policy.baseDelay.nanoseconds with none | some
  · simp [none]
  · have short : policy.baseDelay.nanoseconds * greatestFactor <
        policy.baseDelay.nanoseconds * 2 ^ (attempt - 1) :=
      Nat.mul_lt_mul_of_pos_left (greatestFactor_lt_two_pow late) some
    omega

theorem delayFor_eq_doubledDelay_iff (fits : policy.maxDelay.Fits) (attempt : Nat) :
    (policy.delayFor attempt).nanoseconds = policy.doubledDelay attempt ↔
      attempt ≤ 32 ∨ policy.baseDelay.nanoseconds = 0 ∨ policy.ReachesLimit := by
  rcases Nat.lt_or_ge 32 attempt with late | early
  · simp [delayFor_eq_doubledDelay_iff_of_lt fits late, Nat.not_le_of_lt late]
  · simp [delayFor_of_le fits early, early]

theorem delayFor_of_not_reachesLimit (fits : policy.maxDelay.Fits) {attempt : Nat}
    (late : 32 < attempt) (short : ¬ policy.ReachesLimit) :
    (policy.delayFor attempt).nanoseconds =
      policy.baseDelay.nanoseconds * greatestFactor := by
  rw [ReachesLimit] at short
  rw [delayFor_nanoseconds fits, factor_of_lt late]
  omega

theorem delayFor_eq_maxDelay_iff (fits : policy.maxDelay.Fits) (attempt : Nat) :
    policy.delayFor attempt = policy.maxDelay ↔
      policy.maxDelay.nanoseconds ≤ policy.baseDelay.nanoseconds * factor attempt := by
  rw [Duration.eq_iff, delayFor_nanoseconds fits]
  omega

/-- The limit is reached by all attempts from some one on, or by none. -/
theorem delayFor_eventually_maxDelay_iff (fits : policy.maxDelay.Fits) :
    (∃ first, ∀ attempt, first ≤ attempt → policy.delayFor attempt = policy.maxDelay) ↔
      policy.ReachesLimit := by
  simp only [delayFor_eq_maxDelay_iff fits]
  constructor
  · rintro ⟨first, reached⟩
    apply (reached first le_rfl).trans
    exact Nat.mul_le_mul_left _ (factor_le_greatestFactor first)
  · intro reaches
    exists 33
    intro attempt late
    rw [factor_of_lt late]
    exact reaches

/-- What is known of the delays of a policy, over all attempts. -/
structure BacksOff (policy : ReconnectPolicy) : Prop where
  /-- The documented delay, for thirty-two attempts and wherever the limit hides the rest. -/
  doubled_iff : ∀ attempt,
    (policy.delayFor attempt).nanoseconds = policy.doubledDelay attempt ↔
      attempt ≤ 32 ∨ policy.baseDelay.nanoseconds = 0 ∨ policy.ReachesLimit
  /-- For as long as factors are exact, each delay is twice the one before, up to the limit. -/
  doubles : ∀ attempt, 0 < attempt → attempt < 32 →
    (policy.delayFor (attempt + 1)).nanoseconds =
      min (2 * (policy.delayFor attempt).nanoseconds) policy.maxDelay.nanoseconds
  /-- A limit that is never reached leaves the last delay at the greatest multiple. -/
  stays : ∀ attempt, 32 < attempt → ¬ policy.ReachesLimit →
    (policy.delayFor attempt).nanoseconds = policy.baseDelay.nanoseconds * greatestFactor
  /-- No delay is shorter than one before it. -/
  grows : Monotone fun attempt => (policy.delayFor attempt).nanoseconds
  /-- No delay is longer than the limit. -/
  limited : ∀ attempt, (policy.delayFor attempt).nanoseconds ≤ policy.maxDelay.nanoseconds
  /-- The limit is reached by an attempt whose factor is great enough. -/
  reaches_iff : ∀ attempt, policy.delayFor attempt = policy.maxDelay ↔
    policy.maxDelay.nanoseconds ≤
      policy.baseDelay.nanoseconds * min (2 ^ (attempt - 1)) greatestFactor
  /-- All attempts from some one on reach the limit, or none does. -/
  settles_iff :
    (∃ first, ∀ attempt, first ≤ attempt → policy.delayFor attempt = policy.maxDelay) ↔
      policy.ReachesLimit

/-- A policy whose limit fits backs off: the delays are the documented ones for thirty-two
attempts, and from then on exactly where the limit is reached or there is nothing to double. -/
theorem backsOff_of_fits (fits : policy.maxDelay.Fits) : policy.BacksOff where
  doubled_iff := delayFor_eq_doubledDelay_iff fits
  doubles := by
    intro attempt counted early
    rw [delayFor_of_le fits early, delayFor_of_le fits early.le, doubledDelay_succ counted]
  stays := by
    intro attempt late short
    exact delayFor_of_not_reachesLimit fits late short
  grows := delayFor_monotone fits
  limited := by
    intro attempt
    rw [delayFor_nanoseconds fits]
    apply Nat.min_le_right
  reaches_iff := by
    intro attempt
    rw [delayFor_eq_maxDelay_iff fits, factor_eq_min]
  settles_iff := delayFor_eventually_maxDelay_iff fits

/-- A first delay of one nanosecond, of which no multiple reaches the limit of half a minute. -/
def patient : ReconnectPolicy where
  maxAttempts := 40
  baseDelay := ⟨1⟩
  maxDelay := .ofSeconds 30

theorem backsOff_patient :
    patient.maxDelay.Fits ∧ patient.BacksOff ∧ ¬ patient.ReachesLimit :=
  ⟨by decide, backsOff_of_fits (by decide), by decide⟩

/-- The delay before the thirty-third attempt is one nanosecond short of twice the delay before
the thirty-second. -/
theorem thirtyThird_delay_is_short :
    patient.baseDelay.Fits ∧ patient.maxDelay.Fits ∧
      (patient.delayFor 32).nanoseconds = 2147483648 ∧
      patient.doubledDelay 33 = 4294967296 ∧
      (patient.delayFor 33).nanoseconds = 4294967295 := by
  decide

end ReconnectPolicy

end KernelClient
