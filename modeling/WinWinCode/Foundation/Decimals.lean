import WinWinCode.Foundation.Text

/-!
Decimal numbers as texts. Digit strings of one length compare like their values,
and a canonical number, one without a leading zero, is larger than every shorter
digit string.
-/

namespace WinWinCode.Decimals

open Text

def digitValue (symbol : Char) : Nat := symbol.toNat - 48

def decimalValue : List Char → Nat
  | [] => 0
  | symbol :: rest => digitValue symbol * 10 ^ rest.length + decimalValue rest

theorem isDigit_iff (symbol : Char) : symbol.isDigit ↔ 48 ≤ symbol.toNat ∧ symbol.toNat ≤ 57 := by
  simp [Char.isDigit, UInt32.le_iff_toNat_le]

theorem digitValue_le {symbol : Char} (digit : symbol.isDigit) : digitValue symbol ≤ 9 := by
  have bounds := (isDigit_iff symbol).mp digit
  simp only [digitValue]
  omega

theorem digitValue_lt_iff {left right : Char} (leftDigit : left.isDigit)
    (rightDigit : right.isDigit) : left < right ↔ digitValue left < digitValue right := by
  have leftBounds := (isDigit_iff left).mp leftDigit
  have rightBounds := (isDigit_iff right).mp rightDigit
  have order : left < right ↔ left.toNat < right.toNat := by
    rw [Char.lt_def, UInt32.lt_iff_toNat_lt]
    rfl
  rw [order, digitValue, digitValue]
  omega

theorem digitValue_injective {left right : Char} (leftDigit : left.isDigit)
    (rightDigit : right.isDigit) (same : digitValue left = digitValue right) : left = right := by
  have leftBounds := (isDigit_iff left).mp leftDigit
  have rightBounds := (isDigit_iff right).mp rightDigit
  apply Char.ext
  apply UInt32.toNat_inj.mp
  simp only [digitValue] at same
  change left.toNat = right.toNat
  omega

theorem decimalValue_lt {symbols : List Char} (digits : isDigits symbols) :
    decimalValue symbols < 10 ^ symbols.length := by
  induction symbols with
  | nil => simp [decimalValue]
  | cons symbol rest ih =>
    simp only [isDigits, List.all_cons, Bool.and_eq_true] at digits
    have small := digitValue_le digits.1
    have tail := ih digits.2
    rw [decimalValue, List.length_cons, pow_succ]
    calc digitValue symbol * 10 ^ rest.length + decimalValue rest
        < digitValue symbol * 10 ^ rest.length + 10 ^ rest.length := Nat.add_lt_add_left tail _
      _ = (digitValue symbol + 1) * 10 ^ rest.length := by ring
      _ ≤ 10 * 10 ^ rest.length := Nat.mul_le_mul_right _ (by omega)
      _ = 10 ^ rest.length * 10 := by ring

/-- Texts of digits of one length compare like the numbers they write. -/
theorem lt_iff_decimalValue_lt {left right : List Char} (same : left.length = right.length)
    (leftDigits : isDigits left) (rightDigits : isDigits right) :
    left < right ↔ decimalValue left < decimalValue right := by
  induction left generalizing right with
  | nil =>
    cases right with
    | nil => simp [decimalValue]
    | cons symbol rest => cases same
  | cons first others ih =>
    cases right with
    | nil => cases same
    | cons symbol rest =>
      simp only [isDigits, List.all_cons, Bool.and_eq_true] at leftDigits rightDigits
      have lengths : others.length = rest.length := Nat.succ.inj same
      have tails := ih lengths leftDigits.2 rightDigits.2
      have leftTail := decimalValue_lt leftDigits.2
      have rightTail := decimalValue_lt rightDigits.2
      have heads := digitValue_lt_iff leftDigits.1 rightDigits.1
      rw [List.cons_lt_cons_iff, decimalValue, decimalValue, lengths]
      rw [lengths] at leftTail
      constructor
      · rintro (less | ⟨rfl, less⟩)
        · have step : digitValue first + 1 ≤ digitValue symbol := heads.mp less
          calc digitValue first * 10 ^ rest.length + decimalValue others
              < digitValue first * 10 ^ rest.length + 10 ^ rest.length :=
                Nat.add_lt_add_left leftTail _
            _ = (digitValue first + 1) * 10 ^ rest.length := by ring
            _ ≤ digitValue symbol * 10 ^ rest.length := Nat.mul_le_mul_right _ step
            _ ≤ digitValue symbol * 10 ^ rest.length + decimalValue rest := Nat.le_add_right _ _
        · exact Nat.add_lt_add_left (tails.mp less) _
      · intro less
        rcases Nat.lt_trichotomy (digitValue first) (digitValue symbol) with low | equal | high
        · exact .inl (heads.mpr low)
        · rw [equal] at less
          exact .inr ⟨digitValue_injective leftDigits.1 rightDigits.1 equal,
            tails.mpr (Nat.lt_of_add_lt_add_left less)⟩
        · -- a larger first digit outweighs every remainder
          have step : (digitValue symbol + 1) * 10 ^ rest.length ≤
              digitValue first * 10 ^ rest.length := Nat.mul_le_mul_right _ high
          rw [add_mul, Nat.one_mul] at step
          omega

theorem le_decimalValue {first : Char} {rest : List Char} (digit : first.isDigit)
    (nonzero : first ≠ '0') : 10 ^ rest.length ≤ decimalValue (first :: rest) := by
  have bounds := (isDigit_iff first).mp digit
  have positive : 1 ≤ digitValue first := by
    by_contra zero
    apply nonzero
    apply Char.ext
    apply UInt32.toNat_inj.mp
    simp only [digitValue] at zero
    change first.toNat = 48
    omega
  calc 10 ^ rest.length = 1 * 10 ^ rest.length := by ring
    _ ≤ digitValue first * 10 ^ rest.length := Nat.mul_le_mul_right _ positive
    _ ≤ decimalValue (first :: rest) := Nat.le_add_right _ _

end WinWinCode.Decimals
