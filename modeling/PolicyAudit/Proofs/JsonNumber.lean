/-
Module: PolicyAudit.Proofs.JsonNumber
Purpose: Integers of 64 bits are read from JSON texts as they are written.
Imports: Mathlib.Algebra.Group.Int.Defs, Mathlib.Algebra.Group.Nat.Defs,
  PolicyAudit.Json.Reader, PolicyAudit.Proofs.DecimalText
Trusted boundary: none
Main exports: Json.EndsNumber, Json.Literal.read_signed, Json.Literal.value_integer,
  Json.readNumber_signed
-/
import Mathlib.Algebra.Group.Int.Defs
import Mathlib.Algebra.Group.Nat.Defs
import PolicyAudit.Json.Reader
import PolicyAudit.Proofs.DecimalText

namespace PolicyAudit

namespace Json

/-- A text that cannot prolong the number in front of it. -/
def EndsNumber (rest : List Char) : Prop :=
  ∀ c ∈ rest.head?, c.isDigit = false ∧ c ≠ '.' ∧ c ≠ 'e' ∧ c ≠ 'E'

theorem EndsNumber.nil : EndsNumber [] := by
  intro c h
  simp at h

namespace Literal

theorem readDigits_digits (n : Nat) {rest : List Char} (ends : EndsNumber rest) :
    readDigits (Decimal.digits n ++ rest) = .ok (Decimal.digits n, rest) := by
  have noDigit : ∀ c ∈ rest.head?, c.isDigit = false := fun c h => (ends c h).1
  have allDigits := Decimal.all_isDigit_digits n
  have taken := Decimal.takeWhile_isDigit_append allDigits noDigit
  have dropped := Decimal.dropWhile_isDigit_append allDigits noDigit
  cases written : Decimal.digits n with
  | nil => exact absurd written (Decimal.digits_ne_nil n)
  | cons d ds =>
      rw [written] at taken dropped allDigits
      have isDigit : d.isDigit = true := List.all_eq_true.mp allDigits d (by simp)
      rw [List.cons_append] at taken dropped ⊢
      rw [readDigits, if_pos isDigit, taken, dropped]

theorem readWhole_digits (n : Nat) {rest : List Char} (ends : EndsNumber rest) :
    readWhole (Decimal.digits n ++ rest) = .ok (Decimal.digits n, rest) := by
  simp only [readWhole, readDigits_digits n ends, bind, Except.bind]
  split
  · rename_i _ d ds written
    exact absurd written (Decimal.digits_ne_zero_cons n d ds)
  · rfl

theorem readFraction_of_ends {rest : List Char} (ends : EndsNumber rest) :
    readFraction rest = .ok (none, rest) := by
  unfold readFraction
  split
  · rename_i cs
    exact absurd rfl (ends '.' rfl).2.1
  · rfl

theorem readExponent_of_ends {rest : List Char} (ends : EndsNumber rest) :
    readExponent rest = .ok (none, rest) := by
  cases rest with
  | nil => rfl
  | cons c cs =>
      obtain ⟨_, _, notLower, notUpper⟩ := ends c rfl
      unfold readExponent
      exact if_neg (by simp [notLower, notUpper])

theorem readUnsigned_digits (negative : Bool) (n : Nat) {rest : List Char}
    (ends : EndsNumber rest) :
    readUnsigned negative (Decimal.digits n ++ rest) =
      .ok (⟨negative, Decimal.digits n, none, none⟩, rest) := by
  simp [readUnsigned, readWhole_digits n ends, readFraction_of_ends ends,
    readExponent_of_ends ends, bind, Except.bind]

/-- A written integer is read up to its last digit. -/
theorem read_signed (i : Int) {rest : List Char} (ends : EndsNumber rest) :
    read (Decimal.signed i ++ rest) =
      .ok (⟨decide (i < 0), Decimal.digits i.natAbs, none, none⟩, rest) := by
  unfold Decimal.signed
  split
  · rename_i negative
    rw [List.cons_append, read, readUnsigned_digits true _ ends, decide_eq_true negative]
  · rename_i notNegative
    rw [decide_eq_false notNegative, ← readUnsigned_digits false _ ends]
    have allDigits := Decimal.all_isDigit_digits i.natAbs
    unfold read
    split
    · rename_i cs start
      cases written : Decimal.digits i.natAbs with
      | nil => exact absurd written (Decimal.digits_ne_nil _)
      | cons d ds =>
          rw [written] at allDigits start
          have isMinus : d = '-' := (List.cons.inj start).1
          simp [isMinus] at allDigits
    · rfl

end Literal

namespace Number

private theorem le_foldl_digits (cs : List Char) (significand : Nat) :
    significand ≤ cs.foldl (fun value c => 10 * value + Decimal.digitValue c) significand := by
  induction cs generalizing significand with
  | nil => exact Nat.le_refl _
  | cons c cs inductionHypothesis =>
      have := inductionHypothesis (10 * significand + Decimal.digitValue c)
      rw [List.foldl_cons]
      omega

/-- Every digit joins a significand that ends up in 64 bits. -/
theorem gather_of_lt (cs : List Char) (significand joined : Nat)
    (fits : cs.foldl (fun value c => 10 * value + Decimal.digitValue c) significand <
      UInt64.size) :
    gather significand joined cs =
      (cs.foldl (fun value c => 10 * value + Decimal.digitValue c) significand,
        joined + cs.length) := by
  induction cs generalizing significand joined with
  | nil => rfl
  | cons c cs inductionHypothesis =>
      rw [List.foldl_cons] at fits ⊢
      have next := Nat.lt_of_le_of_lt (le_foldl_digits cs _) fits
      rw [gather, if_pos next, inductionHypothesis _ _ fits, List.length_cons]
      congr 1
      omega

/-- The sign and the absolute value of an integer of 64 bits give the integer. -/
theorem ofWhole_natAbs {i : Int} (low : -2 ^ 63 ≤ i) :
    ofWhole (decide (i < 0)) i.natAbs = int i := by
  unfold ofWhole
  by_cases negative : i < 0
  · have inRange : 0 < i.natAbs ∧ Int64.minValue.toInt ≤ -i.natAbs := by
      rw [Int64.toInt_minValue]
      omega
    have same : -(i.natAbs : Int) = i := by omega
    rw [decide_eq_true negative, if_neg (by decide), if_pos inRange, same]
  · have same : (i.natAbs : Int) = i := by omega
    rw [decide_eq_false negative, if_pos (by decide), same]

end Number

/-- An integer literal of 64 bits, with or without sign, stands for the integer it writes. -/
theorem Literal.value_integer {i : Int} (low : -2 ^ 63 ≤ i) (high : i < 2 ^ 64) :
    Literal.value ⟨decide (i < 0), Decimal.digits i.natAbs, none, none⟩ = .ok (.int i) := by
  have fits : Decimal.ofDigits (Decimal.digits i.natAbs) < UInt64.size := by
    rw [Decimal.ofDigits_digits, UInt64.size]
    omega
  have gathered := Number.gather_of_lt (Decimal.digits i.natAbs) 0 0 fits
  have folded := Decimal.ofDigits_digits i.natAbs
  rw [Decimal.ofDigits] at folded
  rw [folded] at gathered
  simp only [Literal.value, gathered, Nat.zero_add, Nat.sub_self, if_true,
    Number.ofWhole_natAbs low]

/-- Reading the digits of an integer of 64 bits gives the integer. -/
theorem readNumber_signed {i : Int} {rest : List Char} (low : -2 ^ 63 ≤ i) (high : i < 2 ^ 64)
    (ends : EndsNumber rest) :
    readNumber .keep (Decimal.signed i ++ rest) = .ok (.number (.int i), rest) := by
  simp [readNumber, Literal.read_signed i ends, Literal.value_integer low high, bind, Except.bind]

end Json

end PolicyAudit
