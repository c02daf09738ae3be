/-
Module: PolicyAudit.Text.Blank
Purpose: Blank characters by the Unicode property White_Space, and trimming.
Trusted boundary: none
Main exports: isBlank, trim, isBlankText, isBlankText_eq_false_iff, trim_eq_nil_iff, IsCore,
  trim_eq_iff
-/
namespace PolicyAudit.Text

/-- A character with the Unicode property White_Space. -/
def isBlank (c : Char) : Bool :=
  let n := c.toNat
  (0x09 ≤ n && n ≤ 0x0D) || n == 0x20 || n == 0x85 || n == 0xA0 || n == 0x1680 ||
    (0x2000 ≤ n && n ≤ 0x200A) || n == 0x2028 || n == 0x2029 || n == 0x202F ||
    n == 0x205F || n == 0x3000

/-- What is left when blank characters are dropped at both ends. -/
def trim (cs : List Char) : List Char :=
  ((cs.dropWhile isBlank).reverse.dropWhile isBlank).reverse

/-- A text of blank characters only; the empty text is one. -/
def isBlankText (s : String) : Bool :=
  s.toList.all isBlank

theorem isBlankText_eq_true_iff {s : String} :
    isBlankText s = true ↔ ∀ c ∈ s.toList, isBlank c = true :=
  List.all_eq_true

theorem isBlankText_eq_false_iff {s : String} :
    isBlankText s = false ↔ ∃ c ∈ s.toList, isBlank c = false := by
  rw [isBlankText, List.all_eq_false]
  simp

private theorem dropWhile_eq_nil_iff (p : Char → Bool) (cs : List Char) :
    cs.dropWhile p = [] ↔ cs.all p = true := by
  induction cs with
  | nil => simp
  | cons c cs inductionHypothesis =>
      by_cases h : p c = true <;> simp [h, inductionHypothesis]

/-- Trimming leaves nothing exactly of a blank text. -/
theorem trim_eq_nil_iff (cs : List Char) : trim cs = [] ↔ cs.all isBlank = true := by
  rw [trim, List.reverse_eq_nil_iff, dropWhile_eq_nil_iff, List.all_reverse]
  constructor
  · intro h
    rw [← dropWhile_eq_nil_iff]
    cases dropped : cs.dropWhile isBlank with
    | nil => rfl
    | cons c rest =>
        have headBlank : isBlank c = true := by
          have := List.all_eq_true.mp h c (by simp [dropped])
          exact this
        have headNot := List.head?_dropWhile_not isBlank cs
        simp [dropped, headBlank] at headNot
  · intro h
    rw [(dropWhile_eq_nil_iff isBlank cs).mpr h]
    rfl

/-- The part of a text that neither starts nor ends with a blank, with only blanks around it. -/
inductive IsCore (core : List Char) : List Char → Prop where
  | between {left right : List Char} (blankLeft : ∀ c ∈ left, isBlank c = true)
      (blankRight : ∀ c ∈ right, isBlank c = true) (start : ∀ c ∈ core.head?, isBlank c = false)
      (finish : ∀ c ∈ core.getLast?, isBlank c = false) :
      IsCore core (left ++ (core ++ right))

private theorem dropWhile_eq_self {p : Char → Bool} {cs : List Char}
    (start : ∀ c ∈ cs.head?, p c = false) : cs.dropWhile p = cs := by
  cases cs with
  | nil => rfl
  | cons c cs => exact List.dropWhile_cons_of_neg (by simp [start c rfl])

private theorem head?_dropWhile_blank (cs : List Char) :
    ∀ c ∈ (cs.dropWhile isBlank).head?, isBlank c = false := by
  intro c first
  have notBlank := List.head?_dropWhile_not isBlank cs
  rw [Option.mem_def.mp first] at notBlank
  simpa using notBlank

private theorem isBlank_of_mem_takeWhile {c : Char} {cs : List Char}
    (member : c ∈ cs.takeWhile isBlank) : isBlank c = true :=
  List.all_eq_true.mp List.all_takeWhile c member

theorem isCore_trim (cs : List Char) : IsCore (trim cs) cs := by
  have inner : trim cs ++ ((cs.dropWhile isBlank).reverse.takeWhile isBlank).reverse =
      cs.dropWhile isBlank := by
    rw [trim, ← List.reverse_append, List.takeWhile_append_dropWhile, List.reverse_reverse]
  have core : IsCore (trim cs) (cs.takeWhile isBlank ++
      (trim cs ++ ((cs.dropWhile isBlank).reverse.takeWhile isBlank).reverse)) := by
    refine .between (fun c => isBlank_of_mem_takeWhile) ?_ ?_ ?_
    · intro c member
      exact isBlank_of_mem_takeWhile (List.mem_reverse.mp member)
    · intro c first
      refine head?_dropWhile_blank cs c ?_
      rw [← inner, List.head?_append, Option.mem_def.mp first]
      rfl
    · intro c last
      rw [trim, List.getLast?_reverse] at last
      exact head?_dropWhile_blank _ c last
  rwa [inner, List.takeWhile_append_dropWhile] at core

/-- Trimming leaves the core. -/
theorem IsCore.trim_eq {cs core : List Char} (isCore : IsCore core cs) : trim cs = core := by
  cases isCore with
  | @between left right blankLeft blankRight start finish =>
      cases core with
      | nil =>
          rw [trim_eq_nil_iff, List.all_eq_true]
          intro c member
          rcases List.mem_append.mp member with inLeft | inRight
          · exact blankLeft c inLeft
          · exact blankRight c inRight
      | cons c core =>
          have leftDropped : (left ++ (c :: core ++ right)).dropWhile isBlank =
              c :: core ++ right := by
            rw [List.dropWhile_append_of_pos blankLeft]
            exact dropWhile_eq_self start
          have rightDropped : (c :: core ++ right).reverse.dropWhile isBlank =
              (c :: core).reverse := by
            rw [List.reverse_append, List.dropWhile_append_of_pos (by simpa using blankRight)]
            exact dropWhile_eq_self (by rwa [List.head?_reverse])
          rw [trim, leftDropped, rightDropped, List.reverse_reverse]

/-- The core of a text is what trimming leaves of it. -/
theorem trim_eq_iff {cs core : List Char} : trim cs = core ↔ IsCore core cs :=
  ⟨fun trimmed => trimmed ▸ isCore_trim cs, IsCore.trim_eq⟩

end PolicyAudit.Text
