/-
Module: PolicyAudit.Proofs.TimestampText
Purpose: A timestamp that is written is read back as it was.
Imports: Mathlib.Algebra.Group.Nat.Defs, Mathlib.Data.Option.Basic,
  PolicyAudit.Proofs.DecimalText, PolicyAudit.Timestamp
Trusted boundary: none
Main exports: Timestamp.readPadded?_padded, Timestamp.readFraction?_writeFraction,
  Timestamp.readOffset?_writeOffset, Timestamp.read?_write
-/
import Mathlib.Algebra.Group.Nat.Defs
import Mathlib.Data.Option.Basic
import PolicyAudit.Proofs.DecimalText
import PolicyAudit.Timestamp

namespace PolicyAudit

namespace Timestamp

/-! ### Padded numbers -/

theorem length_padded (width n : Nat) : (padded width n).length = width := by
  induction width generalizing n with
  | zero => rfl
  | succ width inductionHypothesis =>
      rw [padded, List.length_append, inductionHypothesis]
      rfl

theorem all_isDigit_padded (width n : Nat) : (padded width n).all Char.isDigit = true := by
  induction width generalizing n with
  | zero => rfl
  | succ width inductionHypothesis =>
      rw [padded, List.all_append, inductionHypothesis, List.all_cons,
        Decimal.isDigit_digitChar (Nat.mod_lt n (by decide))]
      rfl

/-- The last digits of a number write its remainder. -/
theorem ofDigits_padded (width n : Nat) :
    Decimal.ofDigits (padded width n) = n % 10 ^ width := by
  induction width generalizing n with
  | zero =>
      rw [Nat.pow_zero, Nat.mod_one]
      rfl
  | succ width inductionHypothesis =>
      rw [padded, Decimal.ofDigits_concat, inductionHypothesis,
        Decimal.digitValue_digitChar (Nat.mod_lt n (by decide)), Nat.pow_succ,
        Nat.mul_comm (10 ^ width), Nat.mod_mul]
      omega

/-- A number that fits in its width is read back. -/
theorem readPadded?_padded (width : Nat) {n : Nat} (fits : n < 10 ^ width) (rest : List Char) :
    readPadded? width (padded width n ++ rest) = some (n, rest) := by
  have length := length_padded width n
  have taken : (padded width n ++ rest).take width = padded width n :=
    List.take_left' length
  have left : (padded width n ++ rest).drop width = rest :=
    List.drop_left' length
  rw [readPadded?]
  simp only [taken, left, length, all_isDigit_padded, ofDigits_padded, Nat.mod_eq_of_lt fits,
    and_self, if_true]

/-! ### Fractions of a second -/

/-- Zeros that are dropped at the end can be put back. -/
theorem exists_dropWhile_append_zeros (ds : List Char) :
    ∃ k, (ds.reverse.dropWhile (· == '0')).reverse ++ List.replicate k '0' = ds := by
  refine ⟨(ds.reverse.takeWhile (· == '0')).length, ?_⟩
  have zeros : List.replicate (ds.reverse.takeWhile (· == '0')).length '0' =
      (ds.reverse.takeWhile (· == '0')).reverse := by
    rw [eq_comm, List.eq_replicate_iff, List.length_reverse]
    refine ⟨rfl, ?_⟩
    intro c member
    rw [List.mem_reverse] at member
    simpa using List.all_eq_true.mp List.all_takeWhile c member
  rw [zeros, ← List.reverse_append, List.takeWhile_append_dropWhile, List.reverse_reverse]

/-- Filling up to the old width puts back what was dropped. -/
theorem take_append_zeros {ds whole : List Char} {k : Nat}
    (refilled : ds ++ List.replicate k '0' = whole) :
    (ds ++ List.replicate whole.length '0').take whole.length = whole := by
  have length := congrArg List.length refilled
  rw [List.length_append, List.length_replicate] at length
  have missing : whole.length - ds.length = k := by omega
  rw [List.take_append, List.take_of_length_le (by omega), List.take_replicate, missing,
    Nat.min_eq_left (by omega)]
  exact refilled

/-- A fraction of at most nine digits is read back. -/
theorem readFraction?_writeFraction {nanosecond : Nat} (small : nanosecond < 10 ^ 9)
    {rest : List Char} (ends : ∀ c ∈ rest.head?, c.isDigit = false ∧ c ≠ '.') :
    readFraction? (writeFraction nanosecond ++ rest) = some (nanosecond, rest) := by
  have noDigit : ∀ c ∈ rest.head?, c.isDigit = false := fun c head => (ends c head).1
  unfold writeFraction
  split
  · rename_i zero
    subst zero
    cases rest with
    | nil => rfl
    | cons c cs => simp [readFraction?, (ends c rfl).2]
  · rename_i notZero
    obtain ⟨k, whole⟩ := exists_dropWhile_append_zeros (padded 9 nanosecond)
    generalize ((padded 9 nanosecond).reverse.dropWhile (· == '0')).reverse = ds at whole
    have digits : ds.all Char.isDigit = true := by
      have all := all_isDigit_padded 9 nanosecond
      rw [← whole, List.all_append, Bool.and_eq_true] at all
      exact all.1
    have value := ofDigits_padded 9 nanosecond
    rw [Nat.mod_eq_of_lt small] at value
    have notNil : ds ≠ [] := by
      rintro rfl
      rw [← whole, List.nil_append, Decimal.ofDigits_replicate_zero] at value
      exact notZero value.symm
    have refilled := take_append_zeros whole
    rw [length_padded] at refilled
    rw [List.cons_append, readFraction?, Decimal.takeWhile_isDigit_append digits noDigit,
      Decimal.dropWhile_isDigit_append digits noDigit, if_neg notNil, refilled, value]

/-! ### Offsets -/

theorem readMark?_cons (mark : Char) (rest : List Char) :
    readMark? mark (mark :: rest) = some rest :=
  if_pos rfl

/-- Hours and minutes behind a sign are read back. -/
theorem readOffset?_sign {sign : Char} (isSign : sign = '+' ∨ sign = '-') {minutes : Nat}
    (small : minutes < 1440) :
    readOffset? (sign :: (padded 2 (minutes / 60) ++ ':' :: padded 2 (minutes % 60))) =
      some (if sign = '-' then -(minutes : Int) else minutes) := by
  have hours := readPadded?_padded 2 (show minutes / 60 < 10 ^ 2 by omega)
    (':' :: padded 2 (minutes % 60))
  have rest := readPadded?_padded 2 (show minutes % 60 < 10 ^ 2 by omega) []
  rw [List.append_nil] at rest
  have inRange : minutes / 60 ≤ 23 ∧ minutes % 60 ≤ 59 := by omega
  have sum : 60 * ((minutes / 60 : Nat) : Int) + (minutes % 60 : Nat) = minutes := by omega
  rw [readOffset?]
  · refine Option.bind_eq_some_iff.mpr ⟨(), if_pos isSign, ?_⟩
    refine Option.bind_eq_some_iff.mpr ⟨_, hours, ?_⟩
    refine Option.bind_eq_some_iff.mpr ⟨_, readMark?_cons ':' _, ?_⟩
    refine Option.bind_eq_some_iff.mpr ⟨_, rest, ?_⟩
    refine Option.bind_eq_some_iff.mpr ⟨(), if_pos ⟨rfl, inRange⟩, ?_⟩
    exact congrArg (fun n : Int => some (if sign = '-' then -n else n)) sum
  · exact fun empty => List.append_ne_nil_of_right_ne_nil _ (List.cons_ne_nil _ _) empty

/-- An offset of less than a day is read back. -/
theorem readOffset?_writeOffset {offset : Int} (small : offset.natAbs < 1440) :
    readOffset? (writeOffset offset) = some offset := by
  unfold writeOffset
  split
  · rename_i zero
    subst zero
    rfl
  · split
    · rw [readOffset?_sign (.inr rfl) small, if_pos rfl]
      congr 1
      omega
    · rw [readOffset?_sign (.inl rfl) small, if_neg (by decide)]
      congr 1
      omega

/-! ### Whole timestamps -/

theorem daysInMonth_le (year month : Nat) : Calendar.daysInMonth year month ≤ 31 := by
  unfold Calendar.daysInMonth
  split
  · split <;> decide
  · split <;> decide

/-- The parts of a timestamp fit in the widths at which they are written. -/
theorem bounds (t : Timestamp) :
    t.year < 10 ^ 4 ∧ t.month < 10 ^ 2 ∧ t.day < 10 ^ 2 ∧ t.hour < 10 ^ 2 ∧ t.minute < 10 ^ 2 ∧
      t.second < 60 ∧ t.nanosecond < 10 ^ 9 ∧ t.offset.natAbs < 1440 := by
  have valid := t.valid
  have month := daysInMonth_le t.year t.month
  simp only [Calendar.isValid, Bool.and_eq_true, decide_eq_true_eq] at valid
  omega

/-- Nothing after the seconds prolongs the digits in front of it. -/
theorem writeOffset_head (offset : Int) :
    ∀ c ∈ (writeOffset offset).head?, c.isDigit = false ∧ c ≠ '.' := by
  unfold writeOffset
  split
  · simp
  · split <;> simp

/-- Every timestamp is read back from its text. -/
theorem read?_write (t : Timestamp) : read? t.write = some t := by
  obtain ⟨year, month, day, hour, minute, second, nanosecond, offset⟩ := t.bounds
  have notLeap : t.second ≠ 60 := by omega
  have twoDigits : t.second < 10 ^ 2 := by omega
  have valid : of? t.year t.month t.day t.hour t.minute t.second t.nanosecond t.offset = some t :=
    dif_pos t.valid
  rw [read?, write, String.toList_ofList]
  -- one step for each part and each mark between the parts
  refine Option.bind_eq_some_iff.mpr ⟨_, readPadded?_padded 4 year _, ?_⟩
  refine Option.bind_eq_some_iff.mpr ⟨_, readMark?_cons '-' _, ?_⟩
  refine Option.bind_eq_some_iff.mpr ⟨_, readPadded?_padded 2 month _, ?_⟩
  refine Option.bind_eq_some_iff.mpr ⟨_, readMark?_cons '-' _, ?_⟩
  refine Option.bind_eq_some_iff.mpr ⟨_, readPadded?_padded 2 day _, ?_⟩
  refine Option.bind_eq_some_iff.mpr ⟨_, rfl, ?_⟩
  refine Option.bind_eq_some_iff.mpr ⟨_, readPadded?_padded 2 hour _, ?_⟩
  refine Option.bind_eq_some_iff.mpr ⟨_, readMark?_cons ':' _, ?_⟩
  refine Option.bind_eq_some_iff.mpr ⟨_, readPadded?_padded 2 minute _, ?_⟩
  refine Option.bind_eq_some_iff.mpr ⟨_, readMark?_cons ':' _, ?_⟩
  refine Option.bind_eq_some_iff.mpr ⟨_, readPadded?_padded 2 twoDigits _, ?_⟩
  refine Option.bind_eq_some_iff.mpr
    ⟨_, readFraction?_writeFraction nanosecond (writeOffset_head t.offset), ?_⟩
  refine Option.bind_eq_some_iff.mpr ⟨_, readOffset?_writeOffset offset, ?_⟩
  exact (if_neg notLeap).trans valid

end Timestamp

end PolicyAudit
