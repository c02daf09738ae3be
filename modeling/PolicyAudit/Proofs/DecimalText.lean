/-
Module: PolicyAudit.Proofs.DecimalText
Purpose: Runs of decimal digits inside texts.
Imports: PolicyAudit.Decimal.Digits
Trusted boundary: none
Main exports: Decimal.digits_ne_zero_cons, Decimal.takeWhile_isDigit_append,
  Decimal.dropWhile_isDigit_append, Decimal.ofDigits_replicate_zero
-/
import PolicyAudit.Decimal.Digits

namespace PolicyAudit

namespace Decimal

/-- Only zero is written with a zero in front. -/
theorem head?_digits_ne_zero {n : Nat} (positive : 0 < n) : (digits n).head? ≠ some '0' := by
  induction n using Nat.strongRecOn with
  | ind n inductionHypothesis =>
      rcases Nat.lt_or_ge n 10 with small | large
      · have value := digitValue_digitChar small
        rw [digits_of_lt small, List.head?_cons]
        intro zero
        rw [Option.some.inj zero] at value
        have isZero : n = 0 := value.symm
        omega
      · have front := inductionHypothesis (n / 10) (by omega) (by omega)
        rw [digits_of_le large, List.head?_append]
        cases digit : (digits (n / 10)).head? with
        | none => exact absurd (List.head?_eq_none_iff.mp digit) (digits_ne_nil _)
        | some d => simpa [digit] using front

/-- A zero that stands first stands alone. -/
theorem digits_ne_zero_cons (n : Nat) (d : Char) (ds : List Char) : digits n ≠ '0' :: d :: ds := by
  intro written
  rcases Nat.eq_zero_or_pos n with rfl | positive
  · rw [digits_of_lt (by decide)] at written
    simp at written
  · exact head?_digits_ne_zero positive (by rw [written]; rfl)

/-- A run of digits is all that is taken when no digit follows. -/
theorem takeWhile_isDigit_append {ds rest : List Char} (digits : ds.all Char.isDigit = true)
    (ends : ∀ c ∈ rest.head?, c.isDigit = false) :
    (ds ++ rest).takeWhile Char.isDigit = ds := by
  rw [List.takeWhile_append_of_pos (List.all_eq_true.mp digits)]
  cases rest with
  | nil => simp
  | cons c cs => simp [ends c rfl]

theorem dropWhile_isDigit_append {ds rest : List Char} (digits : ds.all Char.isDigit = true)
    (ends : ∀ c ∈ rest.head?, c.isDigit = false) :
    (ds ++ rest).dropWhile Char.isDigit = rest := by
  rw [List.dropWhile_append_of_pos (List.all_eq_true.mp digits)]
  cases rest with
  | nil => rfl
  | cons c cs => simp [ends c rfl]

theorem ofDigits_replicate_zero (k : Nat) : ofDigits (List.replicate k '0') = 0 := by
  induction k with
  | zero => rfl
  | succ k inductionHypothesis =>
      rw [List.replicate_succ', ofDigits_concat, inductionHypothesis]
      rfl

end Decimal

end PolicyAudit
