/-
Module: PolicyAudit.Decimal.Digits
Purpose: Natural numbers and integers in decimal, written and read back.
Trusted boundary: none
Main exports: digitChar, digitValue, digits, text, ofDigits, signed, ofDigits_digits,
  all_isDigit_digits
-/
namespace PolicyAudit.Decimal

/-- The character of a digit below ten. -/
def digitChar (d : Nat) : Char :=
  Char.ofNat (0x30 + d)

/-- The number a digit stands for. -/
def digitValue (c : Char) : Nat :=
  c.toNat - 0x30

/-- The decimal digits of a number, without leading zeros; zero is one digit. -/
def digits (n : Nat) : List Char :=
  if n < 10 then [digitChar n] else digits (n / 10) ++ [digitChar (n % 10)]
termination_by n

/-- The decimal digits of a number as a text. -/
def text (n : Nat) : String :=
  String.ofList (digits n)

/-- The number that a list of digits writes; the empty list writes zero. -/
def ofDigits (cs : List Char) : Nat :=
  cs.foldl (fun value c => 10 * value + digitValue c) 0

/-- An integer in decimal, with a minus sign below zero. -/
def signed (i : Int) : List Char :=
  if i < 0 then '-' :: digits i.natAbs else digits i.natAbs

private theorem digitChar_facts :
    ∀ d, d < 10 → digitValue (digitChar d) = d ∧ (digitChar d).isDigit = true := by
  decide

theorem digitValue_digitChar {d : Nat} (h : d < 10) : digitValue (digitChar d) = d :=
  (digitChar_facts d h).1

theorem isDigit_digitChar {d : Nat} (h : d < 10) : (digitChar d).isDigit = true :=
  (digitChar_facts d h).2

/-- One more digit at the end multiplies by ten and adds the digit. -/
theorem ofDigits_concat (cs : List Char) (c : Char) :
    ofDigits (cs ++ [c]) = 10 * ofDigits cs + digitValue c :=
  List.foldl_append

theorem digits_of_lt {n : Nat} (small : n < 10) : digits n = [digitChar n] := by
  rw [digits, if_pos small]

theorem digits_of_le {n : Nat} (large : 10 ≤ n) :
    digits n = digits (n / 10) ++ [digitChar (n % 10)] := by
  rw [digits, if_neg (Nat.not_lt.mpr large)]

/-- Reading the digits of a number gives the number. -/
theorem ofDigits_digits (n : Nat) : ofDigits (digits n) = n := by
  induction n using Nat.strongRecOn with
  | ind n inductionHypothesis =>
      rcases Nat.lt_or_ge n 10 with small | large
      · have first : ofDigits ([] ++ [digitChar n]) = n := by
          rw [ofDigits_concat, digitValue_digitChar small]
          exact Nat.zero_add n
        rw [digits_of_lt small]
        exact first
      · have remainder : n % 10 < 10 := Nat.mod_lt n (by decide)
        rw [digits_of_le large, ofDigits_concat, digitValue_digitChar remainder,
          inductionHypothesis (n / 10) (Nat.div_lt_self (by omega) (by decide))]
        exact Nat.div_add_mod n 10

/-- Only digits are written. -/
theorem all_isDigit_digits (n : Nat) : (digits n).all Char.isDigit = true := by
  induction n using Nat.strongRecOn with
  | ind n inductionHypothesis =>
      rcases Nat.lt_or_ge n 10 with small | large
      · rw [digits_of_lt small, List.all_cons, isDigit_digitChar small]
        rfl
      · have front := inductionHypothesis (n / 10) (Nat.div_lt_self (by omega) (by decide))
        have last := isDigit_digitChar (Nat.mod_lt n (by decide : 0 < 10))
        rw [digits_of_le large, List.all_append, front, List.all_cons, last]
        rfl

theorem digits_ne_nil (n : Nat) : digits n ≠ [] := by
  rcases Nat.lt_or_ge n 10 with small | large
  · rw [digits_of_lt small]
    exact List.cons_ne_nil _ _
  · rw [digits_of_le large]
    exact List.append_ne_nil_of_right_ne_nil _ (List.cons_ne_nil _ _)

end PolicyAudit.Decimal
