import Mathlib

/-!
Natural numbers held in binary64. A number has 53 significant bits, so above `2 ^ 53`
the results of arithmetic are rounded: to the nearest number that can be held, and to
the even one of two that are equally near.
-/

namespace WinWinCode.Doubles

/-- The distance of two neighbouring doubles around `n`. -/
def unitAt (n : Nat) : Nat := 2 ^ (n.log2 - 52)

def roundDouble (n : Nat) : Nat :=
  let quotient := n / unitAt n
  let rest := n % unitAt n
  if 2 * rest < unitAt n ∨ 2 * rest = unitAt n ∧ quotient % 2 = 0 then
    quotient * unitAt n
  else (quotient + 1) * unitAt n

theorem unitAt_pos (n : Nat) : 0 < unitAt n := Nat.two_pow_pos _

variable {n : Nat}

theorem roundDouble_of_dvd (divides : unitAt n ∣ n) : roundDouble n = n := by
  have rest : n % unitAt n = 0 := Nat.mod_eq_zero_of_dvd divides
  have below : 2 * (n % unitAt n) < unitAt n := by
    rw [rest]
    exact unitAt_pos n
  simp only [roundDouble, below, true_or, if_true]
  exact Nat.div_mul_cancel divides

theorem log2_lt_of_lt {bits : Nat} (positive : 0 < bits) (small : n < 2 ^ bits) :
    n.log2 < bits := by
  by_cases zero : n = 0
  · subst zero
    simpa using positive
  · exact (Nat.log2_lt zero).mpr small

/-- A number of at most 53 bits, scaled by a power of two, is held as it is. -/
theorem roundDouble_scaled {m : Nat} (small : m < 2 ^ 53) (k : Nat) :
    roundDouble (m * 2 ^ k) = m * 2 ^ k := by
  apply roundDouble_of_dvd
  have bits : (m * 2 ^ k).log2 < 53 + k := by
    apply log2_lt_of_lt (by omega)
    rw [Nat.pow_add]
    exact Nat.mul_lt_mul_of_pos_right small (Nat.two_pow_pos k)
  have unit : unitAt (m * 2 ^ k) ∣ 2 ^ k := Nat.pow_dvd_pow 2 (by omega)
  exact Nat.dvd_mul_left_of_dvd unit m

theorem roundDouble_of_le (small : n ≤ 2 ^ 53) : roundDouble n = n := by
  rcases Nat.lt_or_eq_of_le small with below | rfl
  · simpa using roundDouble_scaled below 0
  · simpa using roundDouble_scaled (m := 1) (by norm_num) 53

theorem le_roundDouble (large : 2 ^ 53 ≤ n) : 2 ^ 53 ≤ roundDouble n := by
  have bits : 53 ≤ n.log2 := (Nat.le_log2 (by omega)).mpr large
  have positive : n ≠ 0 := by omega
  have scaled : 2 ^ 52 * unitAt n ≤ n := by
    rw [unitAt, ← Nat.pow_add, show 52 + (n.log2 - 52) = n.log2 by omega]
    exact Nat.log2_self_le positive
  have quotient : 2 ^ 52 ≤ n / unitAt n := (Nat.le_div_iff_mul_le (unitAt_pos n)).mpr scaled
  have unit : 2 ^ 1 ≤ unitAt n := Nat.pow_le_pow_right (by omega) (by omega)
  have lower : 2 ^ 53 ≤ n / unitAt n * unitAt n := Nat.mul_le_mul quotient unit
  -- rounding down keeps the quotient, rounding up increases it
  unfold roundDouble
  dsimp only
  split
  · exact lower
  · exact lower.trans (Nat.mul_le_mul_right _ (Nat.le_succ _))

/-- Rounding does not move a number across a bound that is held exactly. -/
theorem lt_roundDouble_iff {bound : Nat} (held : bound < 2 ^ 53) :
    bound < roundDouble n ↔ bound < n := by
  rcases Nat.le_total n (2 ^ 53) with small | large
  · rw [roundDouble_of_le small]
  · have rounded := le_roundDouble large
    omega

end WinWinCode.Doubles
