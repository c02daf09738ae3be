/-
Module: PolicyAudit.Proofs.JsonText
Purpose: A JSON value that is written is read back as it was, whatever its strings hold.
Imports: PolicyAudit.Json.Printer, PolicyAudit.Proofs.JsonNumber
Trusted boundary: none
Main exports: Json.readString_writeString, Json.Spacing.OfGaps, Json.Fits, Json.ReadsBack,
  Json.readsBack_of_fits, Json.read_write, Json.read_pretty
-/
import PolicyAudit.Json.Printer
import PolicyAudit.Proofs.JsonNumber

namespace PolicyAudit

namespace Json

/-! ### Strings -/

private theorem unit?_control : ∀ n, n < 0x20 →
    unit? '0' '0' (Nat.digitChar (n / 16)) (Nat.digitChar (n % 16)) = some n := by
  decide

/-- A character is written as a backslash and a letter, as the number of a control, or as it
is. -/
theorem escaped_cases (c : Char) :
    (∃ letter, escaped c = ['\\', letter] ∧ letter ≠ 'u' ∧ escapeValue? letter = some c) ∨
      (escaped c =
          ['\\', 'u', '0', '0', Nat.digitChar (c.toNat / 16), Nat.digitChar (c.toNat % 16)] ∧
        c.toNat < 0x20) ∨
      (escaped c = [c] ∧ c ≠ '"' ∧ c ≠ '\\' ∧ ¬ c.toNat < 0x20) := by
  unfold escaped
  split
  · exact .inl ⟨'"', rfl, by decide, by subst c; rfl⟩
  split
  · exact .inl ⟨'\\', rfl, by decide, by subst c; rfl⟩
  split
  · exact .inl ⟨'b', rfl, by decide, by subst c; rfl⟩
  split
  · exact .inl ⟨'f', rfl, by decide, by subst c; rfl⟩
  split
  · exact .inl ⟨'n', rfl, by decide, by subst c; rfl⟩
  split
  · exact .inl ⟨'r', rfl, by decide, by subst c; rfl⟩
  split
  · exact .inl ⟨'t', rfl, by decide, by subst c; rfl⟩
  split
  · rename_i control
    exact .inr (.inl ⟨rfl, control⟩)
  · rename_i notQuote notBackslash _ _ _ _ _ notControl
    exact .inr (.inr ⟨rfl, notQuote, notBackslash, notControl⟩)

/-- Reading one character as it is written puts it in front of the rest of the string. -/
theorem readString_escaped (c : Char) (rest : List Char) :
    readString .keep (escaped c ++ rest) = withChar c (readString .keep rest) := by
  rcases escaped_cases c with ⟨letter, written, notU, value⟩ | ⟨written, control⟩ |
    ⟨written, _, notBackslash, notControl⟩
  · simp [written, readString, notU, value]
  · have notLow : isLowHalf c.toNat = false := by
      simp only [isLowHalf, Bool.and_eq_false_iff, decide_eq_false_iff_not]
      omega
    have notHigh : isHighHalf c.toNat = false := by
      simp only [isHighHalf, Bool.and_eq_false_iff, decide_eq_false_iff_not]
      omega
    simp [written, readString, unit?_control c.toNat control, notLow, notHigh,
      Char.ofNat_toNat]
  · simp [written, readString, notBackslash, notControl]

/-- A written string ends at its closing quote. -/
theorem readString_flatMap_escaped (cs rest : List Char) :
    readString .keep (cs.flatMap escaped ++ '"' :: rest) = .ok (cs, rest) := by
  induction cs with
  | nil => simp [readString]
  | cons c cs inductionHypothesis =>
      rw [List.flatMap_cons, List.append_assoc, readString_escaped, inductionHypothesis]
      rfl

/-- Reading a written string from after its opening quote gives its characters. -/
theorem readString_writeString (s : String) (rest : List Char) :
    ∃ written, writeString s ++ rest = '"' :: written ∧
      readString .keep written = .ok (s.toList, rest) := by
  refine ⟨s.toList.flatMap escaped ++ '"' :: rest, ?_, readString_flatMap_escaped _ _⟩
  simp [writeString]

/-! ### Gaps -/

theorem skipGap_append {gap : List Char} (isGaps : gap.all isGap = true) (cs : List Char) :
    skipGap (gap ++ cs) = skipGap cs :=
  List.dropWhile_append_of_pos (List.all_eq_true.mp isGaps)

theorem skipGap_cons {c : Char} (notGap : isGap c = false) (cs : List Char) :
    skipGap (c :: cs) = c :: cs := by
  simp [skipGap, notGap]

theorem skipGap_gap_cons {gap : List Char} (isGaps : gap.all isGap = true) {c : Char}
    (notGap : isGap c = false) (cs : List Char) : skipGap (gap ++ c :: cs) = c :: cs := by
  rw [skipGap_append isGaps, skipGap_cons notGap]

theorem readValue_gap (mode : Mode) (fuel room : Nat) {gap : List Char}
    (isGaps : gap.all isGap = true) (cs : List Char) :
    readValue mode fuel room (gap ++ cs) = readValue mode fuel room cs := by
  cases fuel with
  | zero => simp only [readValue]
  | succ fuel => simp only [readValue, skipGap_append isGaps]

theorem readItems_gap (mode : Mode) (fuel room : Nat) {gap : List Char}
    (isGaps : gap.all isGap = true) (cs : List Char) :
    readItems mode fuel room (gap ++ cs) = readItems mode fuel room cs := by
  cases fuel with
  | zero => simp only [readItems]
  | succ fuel => simp only [readItems, readValue_gap mode fuel room isGaps]

theorem readEntries_gap (mode : Mode) (fuel room : Nat) {gap : List Char}
    (isGaps : gap.all isGap = true) (cs : List Char) :
    readEntries mode fuel room (gap ++ cs) = readEntries mode fuel room cs := by
  cases fuel with
  | zero => simp only [readEntries]
  | succ fuel => simp only [readEntries, skipGap_append isGaps]

/-- What stands between the parts of a value may be skipped. -/
structure Spacing.OfGaps (spacing : Spacing) : Prop where
  lineBreak : ∀ depth, (spacing.lineBreak depth).all isGap = true
  afterColon : spacing.afterColon.all isGap = true

theorem Spacing.indented_ofGaps : Spacing.indented.OfGaps where
  lineBreak depth := by
    simp [Spacing.indented, isGap]
  afterColon := rfl

theorem EndsNumber.cons {c : Char} (notDigit : c.isDigit = false)
    (notMark : c ≠ '.' ∧ c ≠ 'e' ∧ c ≠ 'E') (cs : List Char) : EndsNumber (c :: cs) := by
  intro d h
  cases h
  exact ⟨notDigit, notMark⟩

/-- No number goes on after a gap. -/
theorem EndsNumber.gap_append {gap cs : List Char} (isGaps : gap.all isGap = true)
    (ends : EndsNumber cs) : EndsNumber (gap ++ cs) := by
  cases gap with
  | nil => exact ends
  | cons c rest =>
      have isGap : isGap c = true := List.all_eq_true.mp isGaps c (by simp)
      simp only [Json.isGap, Bool.or_eq_true, beq_iff_eq] at isGap
      rcases isGap with ((rfl | rfl) | rfl) | rfl <;> exact .cons (by decide) (by decide) _

/-! ### Values -/

/-- A value that can be read back: its numbers are integers of 64 bits, and at most `room` lists
and objects stand inside one another. -/
inductive Fits : Nat → Json → Prop where
  | null (room : Nat) : Fits room .null
  | bool (room : Nat) (value : Bool) : Fits room (.bool value)
  | integer (room : Nat) {value : Int} (low : -2 ^ 63 ≤ value) (high : value < 2 ^ 64) :
      Fits room (.number (.int value))
  | string (room : Nat) (value : String) : Fits room (.string value)
  | array {room : Nat} {items : List Json} (fits : ∀ item ∈ items, Fits room item) :
      Fits (room + 1) (.array items)
  | object {room : Nat} {entries : List (String × Json)}
      (fits : ∀ entry ∈ entries, Fits room entry.2) : Fits (room + 1) (.object entries)

/-- Wherever the value is written, reading gives it and leaves what follows. -/
def ReadsBack (spacing : Spacing) (room : Nat) (value : Json) : Prop :=
  ∀ (fuel depth : Nat) (rest : List Char), 2 * (value.write spacing depth).length ≤ fuel →
    EndsNumber rest →
      readValue .keep fuel room (value.write spacing depth ++ rest) = .ok (value, rest)

variable {spacing : Spacing} {room : Nat}

/-- After an item comes a comma, a gap or the bracket. -/
theorem endsNumber_writeItems (gaps : spacing.OfGaps) (depth : Nat) (items : List Json)
    (rest : List Char) : EndsNumber (writeItems spacing depth items ++ rest) := by
  cases items with
  | nil =>
      rw [writeItems, List.append_assoc]
      exact .gap_append (gaps.lineBreak depth) (.cons (by decide) (by decide) _)
  | cons item items =>
      rw [writeItems, List.cons_append]
      exact .cons (by decide) (by decide) _

theorem endsNumber_writeEntries (gaps : spacing.OfGaps) (depth : Nat)
    (entries : List (String × Json)) (rest : List Char) :
    EndsNumber (writeEntries spacing depth entries ++ rest) := by
  cases entries with
  | nil =>
      rw [writeEntries, List.append_assoc]
      exact .gap_append (gaps.lineBreak depth) (.cons (by decide) (by decide) _)
  | cons entry entries =>
      rw [writeEntries, List.cons_append]
      exact .cons (by decide) (by decide) _

/-- The last item is followed by the bracket. -/
theorem readItems_last {item : Json} (first : ReadsBack spacing room item) {fuel depth : Nat}
    (enough : 2 * (item.write spacing depth).length ≤ fuel) {after rest : List Char}
    (ends : EndsNumber after) (bracket : skipGap after = ']' :: rest) :
    readItems .keep (fuel + 1) room (item.write spacing depth ++ after) = .ok ([item], rest) := by
  have readFirst := first fuel depth after enough ends
  simp [readItems, readFirst, bracket, bind, Except.bind]

/-- An item that is not the last is followed by a comma and the other items. -/
theorem readItems_more {item : Json} (first : ReadsBack spacing room item) {fuel depth : Nat}
    (enough : 2 * (item.write spacing depth).length ≤ fuel) {after others rest : List Char}
    (ends : EndsNumber after) (comma : skipGap after = ',' :: others) {items : List Json}
    (readOthers : readItems .keep fuel room others = .ok (items, rest)) :
    readItems .keep (fuel + 1) room (item.write spacing depth ++ after) =
      .ok (item :: items, rest) := by
  have readFirst := first fuel depth after enough ends
  simp [readItems, readFirst, comma, readOthers, bind, Except.bind]

/-- Items that can be read back one by one can be read back as a list. -/
theorem readItems_write (gaps : spacing.OfGaps) {item : Json} {items : List Json}
    (first : ReadsBack spacing room item) (others : ∀ next ∈ items, ReadsBack spacing room next)
    (fuel depth : Nat)
    (enough : 2 * (item.write spacing (depth + 1) ++ writeItems spacing depth items).length + 1 ≤
      fuel) (rest : List Char) :
    readItems .keep fuel room
        (item.write spacing (depth + 1) ++ (writeItems spacing depth items ++ rest)) =
      .ok (item :: items, rest) := by
  induction items generalizing item fuel with
  | nil =>
      obtain ⟨fuel, rfl⟩ := Nat.exists_eq_add_one_of_ne_zero (show fuel ≠ 0 by omega)
      have bracket : skipGap (writeItems spacing depth [] ++ rest) = ']' :: rest := by
        rw [writeItems, List.append_assoc]
        exact skipGap_gap_cons (gaps.lineBreak depth) (by decide) rest
      refine readItems_last first ?_ (endsNumber_writeItems gaps depth [] rest) bracket
      rw [List.length_append] at enough
      omega
  | cons next items inductionHypothesis =>
      obtain ⟨fuel, rfl⟩ := Nat.exists_eq_add_one_of_ne_zero (show fuel ≠ 0 by omega)
      simp only [writeItems, List.length_append, List.length_cons] at enough
      have comma : skipGap (writeItems spacing depth (next :: items) ++ rest) =
          ',' :: (spacing.lineBreak (depth + 1) ++ (next.write spacing (depth + 1) ++
            (writeItems spacing depth items ++ rest))) := by
        simp only [writeItems, List.cons_append, List.append_assoc]
        exact skipGap_cons (by decide) _
      refine readItems_more first (by omega) (endsNumber_writeItems gaps depth _ rest) comma ?_
      rw [readItems_gap .keep fuel room (gaps.lineBreak _)]
      apply inductionHypothesis (others next (by simp))
      · exact fun other member => others other (by simp [member])
      · rw [List.length_append]
        omega

/-- The text of an entry in front of what follows it. -/
def writeEntry (spacing : Spacing) (depth : Nat) (key : String) (value : Json)
    (after : List Char) : List Char :=
  writeString key ++ ':' :: (spacing.afterColon ++ (value.write spacing depth ++ after))

/-- An entry starts with the quote of its key. -/
theorem exists_writeEntry_eq_cons (spacing : Spacing) (depth : Nat) (key : String) (value : Json)
    (after : List Char) : ∃ rest, writeEntry spacing depth key value after = '"' :: rest :=
  ⟨_, rfl⟩

/-- The text of an object with entries, and what follows it. -/
theorem write_object_cons_append (spacing : Spacing) (depth : Nat) (entry : String × Json)
    (entries : List (String × Json)) (after : List Char) :
    (Json.object (entry :: entries)).write spacing depth ++ after =
      '\x7b' :: (spacing.lineBreak (depth + 1) ++ writeEntry spacing (depth + 1) entry.1 entry.2
        (writeEntries spacing depth entries ++ after)) := by
  simp [write, writeEntry]

/-- A written entry is read up to what follows its value. -/
theorem readEntries_entry (gaps : spacing.OfGaps) (key : String) {value : Json}
    (first : ReadsBack spacing room value) {fuel depth : Nat}
    (enough : 2 * (value.write spacing depth).length ≤ fuel) {after : List Char}
    (ends : EndsNumber after) {c : Char} {others : List Char}
    (next : skipGap after = c :: others) :
    readEntries .keep (fuel + 1) room (writeEntry spacing depth key value after) =
      if c = ',' then
        (readEntries .keep fuel room others).map fun read => ((key, value) :: read.1, read.2)
      else if c = '\x7d' then
        .ok ([(key, value)], others)
      else
        .error .malformed := by
  obtain ⟨written, keyText, readKey⟩ := readString_writeString key
    (':' :: (spacing.afterColon ++ (value.write spacing depth ++ after)))
  have colon : readColon (':' :: (spacing.afterColon ++ (value.write spacing depth ++ after))) =
      .ok (spacing.afterColon ++ (value.write spacing depth ++ after)) := by
    simp [readColon, skipGap_cons (show isGap ':' = false by decide)]
  have readFirst := first fuel depth after enough ends
  rw [← readValue_gap .keep fuel room gaps.afterColon] at readFirst
  rw [writeEntry, keyText]
  simp only [readEntries, skipGap_cons (show isGap '"' = false by decide), readKey, colon,
    readFirst, next, bind, Except.bind, if_true, String.ofList_toList]
  cases readEntries .keep fuel room others <;> rfl

/-- Entries whose values can be read back can be read back as an object. -/
theorem readEntries_write (gaps : spacing.OfGaps) (key : String) {value : Json}
    {entries : List (String × Json)} (first : ReadsBack spacing room value)
    (others : ∀ next ∈ entries, ReadsBack spacing room next.2) (fuel depth : Nat)
    (enough : 2 * (writeEntry spacing (depth + 1) key value
      (writeEntries spacing depth entries)).length + 1 ≤ fuel) (rest : List Char) :
    readEntries .keep fuel room
        (writeEntry spacing (depth + 1) key value (writeEntries spacing depth entries ++ rest)) =
      .ok ((key, value) :: entries, rest) := by
  induction entries generalizing key value fuel with
  | nil =>
      obtain ⟨fuel, rfl⟩ := Nat.exists_eq_add_one_of_ne_zero (show fuel ≠ 0 by omega)
      have brace : skipGap (writeEntries spacing depth [] ++ rest) = '\x7d' :: rest := by
        rw [writeEntries, List.append_assoc]
        exact skipGap_gap_cons (gaps.lineBreak depth) (by decide) rest
      simp only [writeEntry, List.length_append, List.length_cons] at enough
      rw [readEntries_entry gaps key first (by omega)
        (endsNumber_writeEntries gaps depth [] rest) brace]
      rfl
  | cons next entries inductionHypothesis =>
      obtain ⟨fuel, rfl⟩ := Nat.exists_eq_add_one_of_ne_zero (show fuel ≠ 0 by omega)
      have comma : skipGap (writeEntries spacing depth (next :: entries) ++ rest) =
          ',' :: (spacing.lineBreak (depth + 1) ++ writeEntry spacing (depth + 1) next.1 next.2
            (writeEntries spacing depth entries ++ rest)) := by
        simp only [writeEntries, writeEntry, List.cons_append, List.append_assoc]
        exact skipGap_cons (by decide) _
      simp only [writeEntries, writeEntry, List.length_append, List.length_cons] at enough
      have readOthers : readEntries .keep fuel room (writeEntry spacing (depth + 1) next.1 next.2
          (writeEntries spacing depth entries ++ rest)) = .ok (next :: entries, rest) := by
        apply inductionHypothesis next.1 (others next (by simp))
        · exact fun other member => others other (by simp [member])
        · simp only [writeEntry, List.length_append, List.length_cons]
          omega
      rw [readEntries_entry gaps key first (by omega)
        (endsNumber_writeEntries gaps depth _ rest) comma, if_pos rfl,
        readEntries_gap .keep fuel room (gaps.lineBreak _), readOthers]
      rfl

/-- A bracket starts no value. -/
theorem exists_skipGap_of_readValue {mode : Mode} {fuel : Nat} {cs : List Char}
    {result : Json × List Char} (read : readValue mode fuel room cs = .ok result) :
    ∃ c rest, skipGap cs = c :: rest ∧ c ≠ ']' := by
  cases fuel with
  | zero => simp [readValue] at read
  | succ fuel =>
      cases start : skipGap cs with
      | nil => simp [readValue, start] at read
      | cons c rest =>
          refine ⟨c, rest, rfl, ?_⟩
          rintro rfl
          simp [readValue, start, readScalar] at read

theorem readValue_scalar (mode : Mode) (fuel room : Nat) {c : Char} (notGap : isGap c = false)
    (notList : c ≠ '[') (notObject : c ≠ '\x7b') (rest : List Char) :
    readValue mode (fuel + 1) room (c :: rest) = readScalar mode c rest := by
  simp [readValue, skipGap_cons notGap, notList, notObject]

/-- A written integer starts with its sign or a digit. -/
theorem exists_signed_eq_cons (i : Int) :
    ∃ c cs, Decimal.signed i = c :: cs ∧ (c = '-' ∨ c.isDigit = true) := by
  unfold Decimal.signed
  split
  · exact ⟨'-', _, rfl, .inl rfl⟩
  · have allDigits := Decimal.all_isDigit_digits i.natAbs
    cases written : Decimal.digits i.natAbs with
    | nil => exact absurd written (Decimal.digits_ne_nil _)
    | cons d ds =>
        rw [written, List.all_cons, Bool.and_eq_true] at allDigits
        exact ⟨d, ds, rfl, .inr allDigits.1⟩

/-- What starts a number starts no other value. -/
theorem readValue_number (mode : Mode) (fuel room : Nat) {c : Char}
    (start : c = '-' ∨ c.isDigit = true) (rest : List Char) :
    readValue mode (fuel + 1) room (c :: rest) = readNumber mode (c :: rest) := by
  have notOther : ∀ d : Char, d ≠ '-' → d.isDigit = false → c ≠ d := by
    rintro d notMinus notDigit rfl
    rcases start with minus | digit
    · exact notMinus minus
    · rw [notDigit] at digit
      exact Bool.noConfusion digit
  have notGap : isGap c = false := by
    simp [isGap, notOther ' ' (by decide) (by decide), notOther '\n' (by decide) (by decide),
      notOther '\t' (by decide) (by decide), notOther '\r' (by decide) (by decide)]
  rw [readValue_scalar mode fuel room notGap (notOther '[' (by decide) (by decide))
    (notOther '\x7b' (by decide) (by decide)), readScalar,
    if_neg (notOther '"' (by decide) (by decide)), if_neg (notOther 'n' (by decide) (by decide)),
    if_neg (notOther 't' (by decide) (by decide)), if_neg (notOther 'f' (by decide) (by decide)),
    if_pos start]

theorem readsBack_null : ReadsBack spacing room .null := by
  intro fuel depth rest enough _
  rw [write, List.length_cons] at enough
  obtain ⟨fuel, rfl⟩ := Nat.exists_eq_add_one_of_ne_zero (show fuel ≠ 0 by omega)
  rw [write, List.cons_append,
    readValue_scalar .keep fuel room (by decide) (by decide) (by decide)]
  rfl

theorem readsBack_bool (value : Bool) : ReadsBack spacing room (.bool value) := by
  intro fuel depth rest enough _
  cases value <;>
  · rw [write, List.length_cons] at enough
    obtain ⟨fuel, rfl⟩ := Nat.exists_eq_add_one_of_ne_zero (show fuel ≠ 0 by omega)
    rw [write, List.cons_append,
      readValue_scalar .keep fuel room (by decide) (by decide) (by decide)]
    rfl

theorem readsBack_integer {value : Int} (low : -2 ^ 63 ≤ value) (high : value < 2 ^ 64) :
    ReadsBack spacing room (.number (.int value)) := by
  intro fuel depth rest enough ends
  obtain ⟨c, cs, written, start⟩ := exists_signed_eq_cons value
  have readBack := readNumber_signed low high ends
  rw [write, Number.text, written, List.length_cons] at enough
  obtain ⟨fuel, rfl⟩ := Nat.exists_eq_add_one_of_ne_zero (show fuel ≠ 0 by omega)
  rw [written] at readBack
  rw [write, Number.text, written, List.cons_append, readValue_number .keep fuel room start]
  exact readBack

theorem readsBack_string (value : String) : ReadsBack spacing room (.string value) := by
  intro fuel depth rest enough _
  obtain ⟨written, text, readBack⟩ := readString_writeString value rest
  rw [write, writeString, List.length_cons] at enough
  obtain ⟨fuel, rfl⟩ := Nat.exists_eq_add_one_of_ne_zero (show fuel ≠ 0 by omega)
  rw [write, text, readValue_scalar .keep fuel room (by decide) (by decide) (by decide)]
  simp [readScalar, readBack, bind, Except.bind]

theorem readsBack_array (gaps : spacing.OfGaps) {items : List Json}
    (readBack : ∀ item ∈ items, ReadsBack spacing room item) :
    ReadsBack spacing (room + 1) (.array items) := by
  intro fuel depth rest enough _
  cases items with
  | nil =>
      rw [write, List.length_cons] at enough
      obtain ⟨fuel, rfl⟩ := Nat.exists_eq_add_one_of_ne_zero (show fuel ≠ 0 by omega)
      simp [write, readValue, skipGap, isGap]
  | cons item items =>
      have first := readBack item (by simp)
      have others : ∀ next ∈ items, ReadsBack spacing room next :=
        fun next member => readBack next (by simp [member])
      rw [write, List.length_cons, List.append_assoc, List.length_append] at enough
      obtain ⟨fuel, rfl⟩ := Nat.exists_eq_add_one_of_ne_zero (show fuel ≠ 0 by omega)
      have readItems := readItems_write gaps first others fuel depth (by omega) rest
      rw [← readItems_gap .keep fuel room (gaps.lineBreak (depth + 1))] at readItems
      -- The bracket of the empty list is told from an item by the item being read.
      rw [List.length_append] at enough
      obtain ⟨c, after, start, notBracket⟩ := exists_skipGap_of_readValue
        (first fuel (depth + 1) (writeItems spacing depth items ++ rest) (by omega)
          (endsNumber_writeItems gaps depth items rest))
      rw [← skipGap_append (gaps.lineBreak (depth + 1))] at start
      rw [write, List.cons_append, List.append_assoc, List.append_assoc]
      simp [readValue, skipGap_cons (show isGap '[' = false by decide), start, notBracket,
        readItems, bind, Except.bind]

theorem readsBack_object (gaps : spacing.OfGaps) {entries : List (String × Json)}
    (readBack : ∀ entry ∈ entries, ReadsBack spacing room entry.2) :
    ReadsBack spacing (room + 1) (.object entries) := by
  intro fuel depth rest enough _
  cases entries with
  | nil =>
      rw [write, List.length_cons] at enough
      obtain ⟨fuel, rfl⟩ := Nat.exists_eq_add_one_of_ne_zero (show fuel ≠ 0 by omega)
      simp [write, readValue, skipGap, isGap]
  | cons entry entries =>
      have first := readBack entry (by simp)
      have others : ∀ next ∈ entries, ReadsBack spacing room next.2 :=
        fun next member => readBack next (by simp [member])
      have length := congrArg List.length (write_object_cons_append spacing depth entry entries [])
      simp only [List.append_nil, List.length_cons, List.length_append] at length
      obtain ⟨fuel, rfl⟩ := Nat.exists_eq_add_one_of_ne_zero (show fuel ≠ 0 by omega)
      have readEntries := readEntries_write gaps entry.1 first others fuel depth (by omega) rest
      rw [← readEntries_gap .keep fuel room (gaps.lineBreak (depth + 1))] at readEntries
      obtain ⟨after, start⟩ := exists_writeEntry_eq_cons spacing (depth + 1) entry.1 entry.2
        (writeEntries spacing depth entries ++ rest)
      have quote := skipGap_gap_cons (gaps.lineBreak (depth + 1)) (show isGap '"' = false by decide)
        after
      rw [write_object_cons_append]
      rw [start] at readEntries ⊢
      simp [readValue, skipGap_cons (show isGap '\x7b' = false by decide), quote, readEntries,
        bind, Except.bind]

/-- A value that fits is read back wherever it is written. -/
theorem readsBack_of_fits (gaps : spacing.OfGaps) {value : Json} (fits : value.Fits room) :
    ReadsBack spacing room value := by
  induction fits with
  | null => exact readsBack_null
  | bool _ value => exact readsBack_bool value
  | integer _ low high => exact readsBack_integer low high
  | string _ value => exact readsBack_string value
  | array _ inductionHypothesis => exact readsBack_array gaps inductionHypothesis
  | object _ inductionHypothesis => exact readsBack_object gaps inductionHypothesis

/-- A text that holds one written value is read as that value. -/
theorem read_write (gaps : spacing.OfGaps) {value : Json} (fits : value.Fits nestingLimit)
    (depth : Nat) : read (value.write spacing depth) = .ok value := by
  have readBack := readsBack_of_fits gaps fits (fuelFor (value.write spacing depth)) depth []
    (Nat.le_succ _) .nil
  rw [List.append_nil] at readBack
  rw [read, readFront, readBack]
  rfl

/-- The indented text of a value is read as that value. -/
theorem read_pretty {value : Json} (fits : value.Fits nestingLimit) :
    read value.pretty.toList = .ok value := by
  rw [pretty, String.toList_ofList]
  exact read_write Spacing.indented_ofGaps fits 0

end Json

end PolicyAudit
