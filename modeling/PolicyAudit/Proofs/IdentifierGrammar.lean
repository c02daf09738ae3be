/-
Module: PolicyAudit.Proofs.IdentifierGrammar
Purpose: The grammar of policy identifiers, and that the check of policies accepts exactly what it
  derives.
Imports: PolicyAudit.Proofs.FirstDefect, PolicyAudit.Proofs.LetterCase
Trusted boundary: none
Main exports: Identifier.Derives, Identifier.Ending, Identifier.CutInto, Identifier.derives_iff,
  isWellFormedId_iff, Identifier.Misspelt, Registry.build_register_eq_malformedId_iff,
  identifier_grammar
-/
import PolicyAudit.Proofs.FirstDefect
import PolicyAudit.Proofs.LetterCase

namespace PolicyAudit

namespace Identifier

/-! ### Grammar -/

/-- An ASCII capital. -/
def IsCapital (c : Char) : Prop :=
  'A' ≤ c ∧ c ≤ 'Z'

/-- An ASCII digit. -/
def IsNumeral (c : Char) : Prop :=
  '0' ≤ c ∧ c ≤ '9'

def IsSign (c : Char) : Prop :=
  IsCapital c ∨ IsNumeral c

/-- One or more characters of a kind. -/
def Run (kind : Char → Prop) (cs : List Char) : Prop :=
  cs ≠ [] ∧ ∀ c ∈ cs, kind c

/-- Any number of groups of signs and then a number, each after an underscore. -/
inductive Ending : List Char → Prop where
  | number {digits : List Char} (run : Run IsNumeral digits) : Ending ('_' :: digits)
  | group {word rest : List Char} (run : Run IsSign word) (further : Ending rest) :
      Ending ('_' :: (word ++ rest))

/-- A capital, any further signs, and an ending. -/
inductive Derives : List Char → Prop where
  | start {first : Char} {word rest : List Char} (capital : IsCapital first)
      (signs : ∀ c ∈ word, IsSign c) (further : Ending rest) : Derives (first :: (word ++ rest))

/-! ### Characters -/

section

variable {c : Char} {cs : List Char}

theorem isUpper_iff : c.isUpper = true ↔ IsCapital c :=
  Text.isUpper_iff_between

theorem isDigit_iff : c.isDigit = true ↔ IsNumeral c := by
  simp [Char.isDigit, IsNumeral, Char.le_def]

theorem isIdChar_iff : isIdChar c = true ↔ IsSign c := by
  rw [isIdChar, Bool.or_eq_true, isUpper_iff, isDigit_iff, IsSign]

theorem run_iff {kind : Char → Prop} {test : Char → Bool} (same : ∀ c, test c = true ↔ kind c) :
    (!cs.isEmpty && cs.all test) = true ↔ Run kind cs := by
  simp [Run, same]

theorem isIdPiece_iff : isIdPiece cs = true ↔ Run IsSign cs :=
  run_iff fun _ => isIdChar_iff

theorem IsSign.ne_underscore (sign : IsSign c) : c ≠ '_' := by
  rintro rfl
  revert sign
  simp [IsSign, IsCapital, IsNumeral]

theorem underscore_not_mem (signs : ∀ c ∈ cs, IsSign c) : '_' ∉ cs :=
  fun member => (signs '_' member).ne_underscore rfl

end

/-! ### Pieces -/

/-- The pieces of a text between its underscores, as an identifier has them. -/
structure CutInto (cs first : List Char) (middle : List (List Char)) (number : List Char) :
    Prop where
  pieces : Text.splitAt '_' cs = first :: (middle ++ [number])
  first : Run IsSign first
  middle : ∀ piece ∈ middle, Run IsSign piece
  number : Run IsNumeral number

section

variable {cs word rest number : List Char} {middle : List (List Char)}

/-- An ending starts with an underscore, so what stands before it is a piece. -/
theorem Ending.splitAt (ending : Ending rest) (clean : '_' ∉ word) :
    ∃ middle number, Text.splitAt '_' (word ++ rest) = word :: (middle ++ [number]) ∧
      (∀ piece ∈ middle, Run IsSign piece) ∧ Run IsNumeral number := by
  induction ending generalizing word with
  | @number digits run =>
      have noBreak : '_' ∉ digits := underscore_not_mem fun c member => .inr (run.2 c member)
      refine ⟨[], digits, ?_, by simp, run⟩
      rw [Text.splitAt_append_of_not_mem clean, Text.splitAt_of_not_mem noBreak, List.nil_append]
  | @group next rest run _ inductionHypothesis =>
      obtain ⟨middle, number, cut, signs, digits⟩ :=
        inductionHypothesis (underscore_not_mem run.2)
      refine ⟨next :: middle, number, ?_, List.forall_mem_cons.mpr ⟨run, signs⟩, digits⟩
      rw [Text.splitAt_append_of_not_mem clean, cut, List.cons_append]

/-- Pieces after the first one, the last of them a number, make an ending. -/
theorem exists_ending_of_splitAt (cut : Text.splitAt '_' cs = word :: (middle ++ [number]))
    (signs : ∀ piece ∈ middle, Run IsSign piece) (digits : Run IsNumeral number) :
    ∃ rest, cs = word ++ rest ∧ Ending rest := by
  induction middle generalizing cs word with
  | nil =>
      obtain ⟨after, split, last⟩ := Text.exists_append_of_splitAt_eq cut
      obtain rfl := Text.eq_of_splitAt_eq_singleton last
      exact ⟨'_' :: after, split, .number digits⟩
  | cons next middle inductionHypothesis =>
      obtain ⟨here, later⟩ := List.forall_mem_cons.mp signs
      obtain ⟨after, split, cut⟩ := Text.exists_append_of_splitAt_eq cut
      obtain ⟨rest, rfl, ending⟩ := inductionHypothesis cut later
      exact ⟨'_' :: (next ++ rest), split, .group here ending⟩

/-- The grammar derives the texts that are cut into the pieces of an identifier and start with a
capital. -/
theorem derives_iff :
    Derives cs ↔ (∃ first middle number, CutInto cs first middle number) ∧
      ∃ c ∈ cs.head?, IsCapital c := by
  constructor
  · intro derives
    cases derives with
    | @start c word rest capital signs further =>
        have all : ∀ d ∈ c :: word, IsSign d := List.forall_mem_cons.mpr ⟨.inl capital, signs⟩
        obtain ⟨middle, number, pieces, runs, digits⟩ := further.splitAt (underscore_not_mem all)
        exact ⟨⟨c :: word, middle, number, pieces, ⟨List.cons_ne_nil c word, all⟩, runs, digits⟩,
          c, rfl, capital⟩
  · rintro ⟨⟨first, middle, number, cut⟩, c, head, capital⟩
    obtain ⟨rest, rfl, ending⟩ := exists_ending_of_splitAt cut.pieces cut.middle cut.number
    obtain ⟨d, word, rfl⟩ := List.exists_cons_of_ne_nil cut.first.1
    obtain rfl : d = c := Option.some.inj head
    exact .start capital (List.forall_mem_cons.mp cut.first.2).2 ending

end

end Identifier

/-! ### The check -/

section

open Identifier

variable {id : String}

/-- Of a text in several pieces the check asks what the grammar does, the pieces from the last one
on. -/
theorem isWellFormedId_iff_of_splitAt {first number : List Char} {middle : List (List Char)}
    (pieces : Text.splitAt '_' id.toList = first :: (middle ++ [number])) :
    isWellFormedId id = true ↔
      CutInto id.toList first middle number ∧ ∃ c ∈ id.toList.head?, IsCapital c := by
  obtain ⟨last, front, reversed⟩ :=
    List.exists_cons_of_ne_nil (List.reverse_ne_nil_iff.mpr (List.cons_ne_nil first middle))
  have asked : (last :: front).all isIdPiece = true ↔
      Run IsSign first ∧ ∀ piece ∈ middle, Run IsSign piece := by
    rw [← reversed, List.all_reverse, List.all_eq_true, List.forall_mem_cons]
    simp only [isIdPiece_iff]
  have capital : id.toList.head?.any Char.isUpper = true ↔ ∃ c ∈ id.toList.head?, IsCapital c := by
    simp only [Option.any_eq_true, isUpper_iff, Option.mem_def]
  rw [isWellFormedId, pieces, ← List.cons_append, List.reverse_append, List.reverse_singleton,
    List.singleton_append, reversed]
  dsimp only
  rw [Bool.and_eq_true, Bool.and_eq_true, run_iff fun _ => isDigit_iff, asked, capital]
  constructor
  · rintro ⟨⟨digits, signs, runs⟩, starts⟩
    exact ⟨⟨pieces, signs, runs, digits⟩, starts⟩
  · rintro ⟨cut, starts⟩
    exact ⟨⟨cut.number, cut.first, cut.middle⟩, starts⟩

/-- The check accepts the texts that the grammar derives. -/
theorem isWellFormedId_iff : isWellFormedId id = true ↔ Derives id.toList := by
  rw [derives_iff]
  cases pieces : Text.splitAt '_' id.toList with
  | nil => exact absurd pieces (Text.splitAt_ne_nil '_' id.toList)
  | cons first others =>
      rcases List.eq_nil_or_concat' others with rfl | ⟨middle, number, rfl⟩
      · -- one piece is a prefix without a number
        refine iff_of_false (by simp [isWellFormedId, pieces]) ?_
        rintro ⟨⟨first', middle, number, cut⟩, -⟩
        simpa using (List.cons.inj (pieces.symm.trans cut.pieces)).2
      · rw [isWellFormedId_iff_of_splitAt pieces]
        refine and_congr_left fun _ => ⟨fun cut => ⟨first, middle, number, cut⟩, ?_⟩
        rintro ⟨first', middle', number', cut⟩
        obtain ⟨rfl, same⟩ := List.cons.inj (pieces.symm.trans cut.pieces)
        obtain ⟨rfl, last⟩ := List.append_inj' same rfl
        obtain rfl := List.singleton_inj.mp last
        exact cut

end

/-! ### Texts that are no identifiers -/

namespace Identifier

/-- A text with a fault that keeps it from being an identifier. -/
inductive Misspelt : List Char → Prop where
  | nonAscii {cs : List Char} {c : Char} (member : c ∈ cs) (beyond : '\x7f' < c) : Misspelt cs
  | lowerCase {cs : List Char} {c : Char} (member : c ∈ cs) (lower : 'a' ≤ c ∧ c ≤ 'z') :
      Misspelt cs
  | emptySegment {cs : List Char} (segment : Text.IsPiece '_' [] cs) : Misspelt cs
  | leading (cs : List Char) : Misspelt ('_' :: cs)
  | trailing (cs : List Char) : Misspelt (cs ++ ['_'])
  /-- No underscore has only digits after it, and at least one. -/
  | numberless {cs : List Char}
      (without : ∀ before digits, cs = before ++ '_' :: digits → ¬ Run IsNumeral digits) :
      Misspelt cs

variable {cs : List Char}

theorem Ending.sign_or_underscore (ending : Ending cs) : ∀ c ∈ cs, IsSign c ∨ c = '_' := by
  induction ending with
  | number run =>
      exact List.forall_mem_cons.mpr ⟨.inr rfl, fun c member => .inl (.inr (run.2 c member))⟩
  | group run _ inductionHypothesis =>
      refine List.forall_mem_cons.mpr ⟨.inr rfl, List.forall_mem_append.mpr ⟨?_, ?_⟩⟩
      · exact fun c member => .inl (run.2 c member)
      · exact inductionHypothesis

theorem Derives.sign_or_underscore (derives : Derives cs) : ∀ c ∈ cs, IsSign c ∨ c = '_' := by
  obtain ⟨capital, signs, further⟩ := derives
  refine List.forall_mem_cons.mpr ⟨.inl (.inl capital), List.forall_mem_append.mpr ⟨?_, ?_⟩⟩
  · exact fun c member => .inl (signs c member)
  · exact further.sign_or_underscore

/-- All characters of an identifier come before the small letters. -/
theorem Derives.lt_of_mem (derives : Derives cs) {c : Char} (member : c ∈ cs) : c < 'a' := by
  rcases derives.sign_or_underscore c member with (capital | numeral) | rfl
  · exact lt_of_le_of_lt capital.2 (by decide)
  · exact lt_of_le_of_lt numeral.2 (by decide)
  · decide

theorem Ending.exists_number (ending : Ending cs) :
    ∃ before digits, cs = before ++ '_' :: digits ∧ Run IsNumeral digits := by
  induction ending with
  | @number digits run => exact ⟨[], digits, rfl, run⟩
  | @group word rest _ _ inductionHypothesis =>
      obtain ⟨before, digits, rfl, run⟩ := inductionHypothesis
      exact ⟨'_' :: (word ++ before), digits, by simp, run⟩

theorem Derives.exists_number (derives : Derives cs) :
    ∃ before digits, cs = before ++ '_' :: digits ∧ Run IsNumeral digits := by
  cases derives with
  | @start first word rest _ _ further =>
      obtain ⟨before, digits, rfl, run⟩ := further.exists_number
      exact ⟨first :: (word ++ before), digits, by simp, run⟩

theorem Derives.no_empty_piece (derives : Derives cs) : ¬ Text.IsPiece '_' [] cs := by
  intro segment
  obtain ⟨⟨first, middle, number, cut⟩, -⟩ := derives_iff.mp derives
  have member := segment.mem_splitAt
  rw [cut.pieces, List.mem_cons, List.mem_append, List.mem_singleton] at member
  rcases member with empty | inMiddle | empty
  · exact cut.first.1 empty.symm
  · exact (cut.middle [] inMiddle).1 rfl
  · exact cut.number.1 empty.symm

theorem Derives.not_misspelt (derives : Derives cs) : ¬ Misspelt cs := by
  intro misspelt
  cases misspelt with
  | nonAscii member beyond =>
      exact lt_asymm (derives.lt_of_mem member) (lt_trans (by decide) beyond)
  | lowerCase member lower => exact not_lt_of_ge lower.1 (derives.lt_of_mem member)
  | emptySegment segment => exact derives.no_empty_piece segment
  | leading after => exact derives.no_empty_piece (.first List.not_mem_nil after)
  | trailing before => exact derives.no_empty_piece (.last List.not_mem_nil before)
  | numberless without =>
      obtain ⟨before, digits, split, run⟩ := derives.exists_number
      exact without before digits split run

end Identifier

/-- A policy is refused for its identifier, after policies that make a set, if the check does not
accept it. -/
theorem Registry.build_register_eq_malformedId_iff {r : Registry} {set : PolicySet} {p : Policy}
    (built : r.build = .ok set) :
    (r.register p).build = .error (.malformedId p.id) ↔ isWellFormedId p.id = false := by
  have sound : firstDefect? [] r.policies = none := exists_build_eq_ok_iff.mp ⟨set, built⟩
  have last : firstDefect? [] (r.policies ++ [p]) =
      p.defect? ((r.policies.map (·.id)).reverse ++ []) := by
    rw [firstDefect?_append, sound, Option.none_or, firstDefect?]
    split
    · rename_i defect found
      exact found.symm
    · rename_i none
      exact none.symm
  rw [build_eq_error_iff, register, last, Policy.defect?_eq_some_iff mem_reverse_ids]
  constructor
  · intro shows
    cases shows with
    | malformedId malformed => exact malformed
  · exact .malformedId

open Identifier in
/-- The identifiers of policies are the texts of a grammar.  The check accepts what the grammar
derives and nothing else: every policy of a set has such an identifier, and a policy is refused for
its identifier exactly if it has none.  So everything misspelt is refused. -/
theorem identifier_grammar :
    (∀ id : String, isWellFormedId id = true ↔ Derives id.toList) ∧
    (∀ set : PolicySet, ∀ p ∈ set.policies, Derives p.id.toList) ∧
    (∀ (r : Registry) (set : PolicySet) (p : Policy), r.build = .ok set →
      ((r.register p).build = .error (.malformedId p.id) ↔ ¬ Derives p.id.toList)) ∧
    ∀ id : String, Misspelt id.toList → isWellFormedId id = false := by
  refine ⟨fun _ => isWellFormedId_iff, ?_, ?_, ?_⟩
  · intro set p member
    exact isWellFormedId_iff.mp ((firstDefect?_eq_none_iff.mp set.sound).1 p member).1.wellFormed
  · intro r set p built
    rw [Registry.build_register_eq_malformedId_iff built, ← isWellFormedId_iff,
      Bool.not_eq_true]
  · intro id misspelt
    rw [← Bool.not_eq_true, isWellFormedId_iff]
    exact fun derives => derives.not_misspelt misspelt

namespace Identifier

/-- A policy that only its identifier can keep out of a set. -/
def named (id : String) : Policy :=
  ⟨id, "named", .logging, .low, ["type"], fun _ => .ok .passed⟩

/-- A set of the policy with the shortest identifier. -/
def shortest : PolicySet where
  policies := [named "X_0"]
  sound := by decide +kernel

end Identifier

open Identifier in
/-- After a sound policy one with a small letter in its identifier is refused, and two underscores
in a row are refused as well. -/
theorem identifier_grammar_ofNeighbours :
    (named "X_0" ∈ shortest.policies ∧ Derives ['X', '_', '0']) ∧
    ((Registry.mk shortest.policies).build = .ok shortest ∧
      ((Registry.mk shortest.policies).register (named "X_a_0")).build =
        .error (.malformedId "X_a_0")) ∧
    (Misspelt "X__0".toList ∧ isWellFormedId "X__0" = false) := by
  obtain ⟨accepts, members, refuses, rejects⟩ := identifier_grammar
  have member : named "X_0" ∈ shortest.policies := List.mem_singleton_self _
  have built : (Registry.mk shortest.policies).build = .ok shortest :=
    Registry.build_eq_ok_iff.mpr rfl
  have underivable : ¬ Derives (named "X_a_0").id.toList :=
    fun derives => derives.not_misspelt (.lowerCase (by decide : 'a' ∈ ['X', '_', 'a', '_', '0'])
      (by decide))
  have misspelt : Misspelt "X__0".toList := .emptySegment (.inner List.not_mem_nil ['X'] ['0'])
  exact ⟨⟨member, members shortest _ member⟩,
    ⟨built, (refuses _ shortest (named "X_a_0") built).mpr underivable⟩,
    misspelt, rejects "X__0" misspelt⟩

end PolicyAudit
