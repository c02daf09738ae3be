/-
Module: PolicyAudit.Proofs.AnnotationText
Purpose: An annotation is one line, and a reader of workflow commands gets back from it just what it
  was made of, whatever characters its texts have.
Imports: Mathlib, PolicyAudit.Report.Annotation, PolicyAudit.Text.Split
Trusted boundary: none
Main exports: unescape, Marked, unescape_flatMap, escapeData_eq_replaced,
  escapeProperty_eq_replaced, WorkflowCommand, WorkflowCommand.read?, Finding.ReadFrom,
  Summary.annotations_readFrom
-/
import Mathlib
import PolicyAudit.Report.Annotation
import PolicyAudit.Text.Split

namespace PolicyAudit

/-! ### Undoing escapes -/

/-- What a percent sign stands for in the message of a command if these two characters follow it. -/
def dataMark? : Char → Char → Option Char
  | '2', '5' => some '%'
  | '0', 'D' => some '\r'
  | '0', 'A' => some '\n'
  | _, _ => none

/-- In a property it can stand for a colon or a comma as well. -/
def propertyMark? : Char → Char → Option Char
  | '3', 'A' => some ':'
  | '2', 'C' => some ','
  | a, b => dataMark? a b

/-- Undo the escapes in one pass from left to right.  What an escape stands for is not looked at
again, and a percent sign that begins no escape stands for itself. -/
def unescape (mark? : Char → Char → Option Char) : List Char → List Char
  | '%' :: a :: b :: cs =>
      match mark? a b with
      | some c => c :: unescape mark? cs
      | none => '%' :: unescape mark? (a :: b :: cs)
  | c :: cs => c :: unescape mark? cs
  | [] => []

/-- A character that stands for itself, or the escape that stands for it. -/
inductive Marked (mark? : Char → Char → Option Char) (c : Char) : List Char → Prop where
  | plain (notPercent : c ≠ '%') : Marked mark? c [c]
  | escaped {a b : Char} (stands : mark? a b = some c) : Marked mark? c ['%', a, b]

theorem Marked.mono {mark? wider? : Char → Char → Option Char} {c : Char} {written : List Char}
    (further : ∀ {a b}, mark? a b = some c → wider? a b = some c)
    (marked : Marked mark? c written) : Marked wider? c written := by
  cases marked with
  | plain notPercent => exact .plain notPercent
  | escaped stands => exact .escaped (further stands)

/-- What has a meaning in a message has the same one in a property. -/
theorem propertyMark?_of_dataMark? {a b c : Char} (stands : dataMark? a b = some c) :
    propertyMark? a b = some c := by
  unfold dataMark? at stands
  split at stands
  · exact stands
  · exact stands
  · exact stands
  · exact absurd stands (Option.some_ne_none c).symm

theorem marked_escapeDataChar (c : Char) : Marked dataMark? c (escapeDataChar c) := by
  unfold escapeDataChar
  by_cases percent : c = '%'
  · subst percent
    exact .escaped rfl
  by_cases carriageReturn : c = '\r'
  · subst carriageReturn
    exact .escaped rfl
  by_cases lineFeed : c = '\n'
  · subst lineFeed
    exact .escaped rfl
  rw [if_neg percent, if_neg carriageReturn, if_neg lineFeed]
  exact .plain percent

theorem marked_escapePropertyChar (c : Char) : Marked propertyMark? c (escapePropertyChar c) := by
  unfold escapePropertyChar
  by_cases colon : c = ':'
  · subst colon
    exact .escaped rfl
  by_cases comma : c = ','
  · subst comma
    exact .escaped rfl
  rw [if_neg colon, if_neg comma]
  exact (marked_escapeDataChar c).mono propertyMark?_of_dataMark?

section

variable {mark? : Char → Char → Option Char}

/-- A character other than the percent sign is read as itself. -/
theorem unescape_cons {c : Char} (notPercent : c ≠ '%') (cs : List Char) :
    unescape mark? (c :: cs) = c :: unescape mark? cs := by
  rw [unescape]
  intro _ _ _ percent
  exact absurd percent notPercent

/-- Where every character is marked, one pass from left to right undoes the escapes of a whole text,
also of one that looks like escapes itself. -/
theorem unescape_flatMap {escape : Char → List Char} (marked : ∀ c, Marked mark? c (escape c))
    (cs : List Char) : unescape mark? (cs.flatMap escape) = cs := by
  induction cs with
  | nil => rfl
  | cons c cs inductionHypothesis =>
      rw [List.flatMap_cons]
      have how := marked c
      generalize escape c = written at how ⊢
      cases how with
      | plain notPercent =>
          rw [List.singleton_append, unescape_cons notPercent, inductionHypothesis]
      | escaped stands =>
          simp only [List.cons_append, List.nil_append, unescape, stands, inductionHypothesis]

end

theorem unescape_escapeData (text : String) :
    unescape dataMark? (escapeData text).toList = text.toList := by
  rw [escapeData, String.toList_ofList, unescape_flatMap marked_escapeDataChar]

theorem unescape_escapeProperty (text : String) :
    unescape propertyMark? (escapeProperty text).toList = text.toList := by
  rw [escapeProperty, String.toList_ofList, unescape_flatMap marked_escapePropertyChar]

/-! ### What an escaped text is made of -/

/-- A character that breaks a line. -/
def BreaksLine (c : Char) : Prop :=
  c = '\r' ∨ c = '\n'

instance (c : Char) : Decidable (BreaksLine c) :=
  inferInstanceAs (Decidable (_ ∨ _))

/-- The characters that escapes are written with. -/
def escapeChars : List Char :=
  ['%', '0', '2', '3', '5', 'A', 'C', 'D']

/-- Escapes neither break a line nor end a property. -/
theorem of_mem_escapeChars {c : Char} (member : c ∈ escapeChars) :
    ¬BreaksLine c ∧ c ≠ ':' ∧ c ≠ ',' := by
  simp only [escapeChars, List.mem_cons, List.not_mem_nil, or_false] at member
  rcases member with rfl | rfl | rfl | rfl | rfl | rfl | rfl | rfl <;> decide

theorem mem_escapeDataChar {c d : Char} (member : d ∈ escapeDataChar c) :
    (d = c ∧ ¬BreaksLine c) ∨ d ∈ escapeChars := by
  have ofEscape {a b : Char} (listed : ['%', a, b] ⊆ escapeChars) (part : d ∈ ['%', a, b]) :
      (d = c ∧ ¬BreaksLine c) ∨ d ∈ escapeChars :=
    .inr (listed part)
  unfold escapeDataChar at member
  split at member
  · exact ofEscape (by decide) member
  split at member
  · exact ofEscape (by decide) member
  split at member
  · exact ofEscape (by decide) member
  · rename_i noReturn noFeed
    exact .inl ⟨List.mem_singleton.mp member, not_or.mpr ⟨noReturn, noFeed⟩⟩

theorem mem_escapePropertyChar {c d : Char} (member : d ∈ escapePropertyChar c) :
    (d = c ∧ ¬BreaksLine c ∧ c ≠ ':' ∧ c ≠ ',') ∨ d ∈ escapeChars := by
  unfold escapePropertyChar at member
  split at member
  · exact .inr ((by decide : ['%', '3', 'A'] ⊆ escapeChars) member)
  split at member
  · exact .inr ((by decide : ['%', '2', 'C'] ⊆ escapeChars) member)
  · rename_i noColon noComma
    exact (mem_escapeDataChar member).imp_left fun ⟨same, noBreak⟩ =>
      ⟨same, noBreak, noColon, noComma⟩

theorem not_breaksLine_of_mem_escapeData {text : String} {c : Char}
    (member : c ∈ (escapeData text).toList) : ¬BreaksLine c := by
  rw [escapeData, String.toList_ofList] at member
  obtain ⟨_, -, part⟩ := List.mem_flatMap.mp member
  rcases mem_escapeDataChar part with ⟨rfl, noBreak⟩ | ofEscape
  · exact noBreak
  · exact (of_mem_escapeChars ofEscape).1

/-- A property has no character in it that could break its line or end it. -/
theorem of_mem_escapeProperty {text : String} {c : Char}
    (member : c ∈ (escapeProperty text).toList) : ¬BreaksLine c ∧ c ≠ ':' ∧ c ≠ ',' := by
  rw [escapeProperty, String.toList_ofList] at member
  obtain ⟨_, -, part⟩ := List.mem_flatMap.mp member
  rcases mem_escapePropertyChar part with ⟨rfl, stands⟩ | ofEscape
  · exact stands
  · exact of_mem_escapeChars ofEscape

/-! ### Escapes of whole texts -/

/-- The text with every occurrence of a character replaced. -/
def replaced (c : Char) (replacement cs : List Char) : List Char :=
  cs.flatMap fun d => if d = c then replacement else [d]

theorem replaced_flatMap (c : Char) (replacement : List Char) (f : Char → List Char)
    (cs : List Char) :
    replaced c replacement (cs.flatMap f) = cs.flatMap fun d => replaced c replacement (f d) :=
  List.flatMap_assoc

theorem replaced_of_not_mem {c : Char} {cs : List Char} (absent : c ∉ cs)
    (replacement : List Char) : replaced c replacement cs = cs := by
  induction cs with
  | nil => rfl
  | cons d cs inductionHypothesis =>
      rw [List.mem_cons, not_or] at absent
      obtain ⟨other, further⟩ := absent
      rw [replaced, List.flatMap_cons, if_neg (Ne.symm other), ← replaced,
        inductionHypothesis further, List.singleton_append]

/-- The characters of a message can be escaped one after the other in the whole text, the percent
sign before those whose escapes bring percent signs into it. -/
theorem escapeData_eq_replaced (text : String) :
    (escapeData text).toList =
      replaced '\n' ['%', '0', 'A']
        (replaced '\r' ['%', '0', 'D'] (replaced '%' ['%', '2', '5'] text.toList)) := by
  rw [escapeData, String.toList_ofList, replaced.eq_1 '%', replaced_flatMap, replaced_flatMap]
  congr 1
  funext c
  unfold escapeDataChar
  by_cases percent : c = '%'
  · subst percent
    rfl
  by_cases carriageReturn : c = '\r'
  · subst carriageReturn
    rfl
  · simp [percent, carriageReturn, replaced]

/-- In a property colons and commas can be escaped last, for no escape has one of them in it. -/
theorem escapeProperty_eq_replaced (text : String) :
    (escapeProperty text).toList =
      replaced ',' ['%', '2', 'C'] (replaced ':' ['%', '3', 'A'] (escapeData text).toList) := by
  rw [escapeProperty, escapeData, String.toList_ofList, String.toList_ofList, replaced_flatMap,
    replaced_flatMap]
  congr 1
  funext c
  unfold escapePropertyChar
  by_cases colon : c = ':'
  · subst colon
    rfl
  by_cases comma : c = ','
  · subst comma
    rfl
  have noColon : ':' ∉ escapeDataChar c := fun member =>
    (mem_escapeDataChar member).elim (fun same => colon same.1.symm) (by decide)
  have noComma : ',' ∉ escapeDataChar c := fun member =>
    (mem_escapeDataChar member).elim (fun same => comma same.1.symm) (by decide)
  rw [if_neg colon, if_neg comma, replaced_of_not_mem noColon, replaced_of_not_mem noComma]

/-! ### Reading commands -/

/-- A workflow command as a build reads it from a line. -/
structure WorkflowCommand where
  level : String
  properties : List (String × String)
  message : String
deriving Repr, DecidableEq

namespace WorkflowCommand

/-- The text before the first double colon, and the text after it. -/
def cutAtColons? : List Char → Option (List Char × List Char)
  | ':' :: ':' :: cs => some ([], cs)
  | c :: cs => (cutAtColons? cs).map fun (before, after) => (c :: before, after)
  | [] => none

/-- A property is a key and after the first equals sign a value. -/
def property? (text : List Char) : Option (String × String) :=
  match text.span (· ≠ '=') with
  | (key, _ :: value) => some (.ofList key, .ofList (unescape propertyMark? value))
  | (_, []) => none

/-- The level, and after the first space the properties with commas between them. -/
def head? (text : List Char) : Option (String × List (String × String)) :=
  match text.span (· ≠ ' ') with
  | (level, _ :: properties) =>
      ((Text.splitAt ',' properties).mapM property?).map (.ofList level, ·)
  | (level, []) => some (.ofList level, [])

/-- The command of a line: two colons, the head, two colons, and the message. -/
def read? (line : String) : Option WorkflowCommand :=
  match line.toList with
  | ':' :: ':' :: cs =>
      (cutAtColons? cs).bind fun (head, message) =>
        (head? head).map fun (level, properties) =>
          ⟨level, properties, .ofList (unescape dataMark? message)⟩
  | _ => none

/-- Without a colon before it, a double colon is the first one. -/
theorem cutAtColons?_append {before : List Char} (noColon : ':' ∉ before)
    (after : List Char) : cutAtColons? (before ++ ':' :: ':' :: after) = some (before, after) := by
  induction before with
  | nil => rfl
  | cons c before inductionHypothesis =>
      rw [List.mem_cons, not_or] at noColon
      rw [List.cons_append, cutAtColons?, inductionHypothesis noColon.2]
      · rfl
      · intro _ colon
        exact absurd colon.symm noColon.1

/-- The first occurrence of a separator ends the part before it. -/
theorem span_append {separator : Char} {before : List Char}
    (clean : separator ∉ before) (after : List Char) :
    (before ++ separator :: after).span (· ≠ separator) = (before, separator :: after) := by
  have whole : ∀ c ∈ before, decide (c ≠ separator) = true := fun c member =>
    decide_eq_true fun same => clean (same ▸ member)
  rw [List.span_eq_takeWhile_dropWhile, List.takeWhile_append_of_pos whole,
    List.dropWhile_append_of_pos whole]
  simp

end WorkflowCommand

/-! ### Annotations -/

namespace Finding

/-- The only property of an annotation as it is written. -/
def titleProperty (f : Finding) : List Char :=
  ("title=" ++ escapeProperty f.policyId).toList

/-- What stands between the colons of an annotation. -/
def annotationHead (f : Finding) : List Char :=
  f.severity.level.toList ++ ' ' :: f.titleProperty

/-- The line is one line.  Its first double colon after the leading one stands behind the level and
the title, and the message begins there.  A reader gets from it the level of the severity, the title
as the only property with the id of the policy, and a message with the type and the id of the
resource, the name of the policy, and in parentheses the reason if there is one. -/
structure ReadFrom (f : Finding) (line : String) : Prop where
  oneLine : ∀ c ∈ line.toList, ¬BreaksLine c
  parts : ∃ cs, line.toList = ':' :: ':' :: cs ∧
    WorkflowCommand.cutAtColons? cs = some
      ((f.severity.level ++ " title=" ++ escapeProperty f.policyId).toList,
        (escapeData f.message).toList)
  command : WorkflowCommand.read? line = some
    { level := f.severity.level
      properties := [("title", f.policyId)]
      message := f.resourceType ++ "." ++ f.resourceId ++ ": " ++ f.policyName ++
        f.reason.elim "" fun reason => " (" ++ reason ++ ")" }

/-- The word of a level breaks no line, and it ends at the first space. -/
theorem of_mem_level (s : Severity) :
    ∀ c ∈ s.level.toList, ¬BreaksLine c ∧ c ≠ ':' ∧ c ≠ ' ' := by
  cases s <;> simp [Severity.level, BreaksLine]

variable (f : Finding)

theorem of_mem_titleProperty {c : Char} (member : c ∈ f.titleProperty) :
    ¬BreaksLine c ∧ c ≠ ':' ∧ c ≠ ',' := by
  have key : ∀ c ∈ "title=".toList, ¬BreaksLine c ∧ c ≠ ':' ∧ c ≠ ',' := by
    simp [BreaksLine]
  rw [titleProperty, String.toList_append, List.mem_append] at member
  rcases member with inKey | inTitle
  · exact key c inKey
  · exact of_mem_escapeProperty inTitle

theorem of_mem_annotationHead {c : Char} (member : c ∈ f.annotationHead) :
    ¬BreaksLine c ∧ c ≠ ':' := by
  rw [annotationHead, List.mem_append, List.mem_cons] at member
  rcases member with inLevel | rfl | inTitle
  · exact (of_mem_level f.severity c inLevel).imp_right And.left
  · decide
  · exact (f.of_mem_titleProperty inTitle).imp_right And.left

theorem annotation_toList :
    f.annotation.toList =
      ':' :: ':' :: (f.annotationHead ++ ':' :: ':' :: (escapeData f.message).toList) := by
  unfold annotation annotationHead titleProperty
  simp

theorem property?_titleProperty :
    WorkflowCommand.property? f.titleProperty = some ("title", f.policyId) := by
  have cut := WorkflowCommand.span_append (by decide : '=' ∉ "title".toList)
    (escapeProperty f.policyId).toList
  have written : f.titleProperty = "title".toList ++ '=' :: (escapeProperty f.policyId).toList := by
    simp [titleProperty]
  rw [WorkflowCommand.property?, written, cut]
  simp [unescape_escapeProperty]

/-- A title has no comma in it, so that it is the only property. -/
theorem splitAt_titleProperty : Text.splitAt ',' f.titleProperty = [f.titleProperty] :=
  Text.splitAt_of_not_mem fun comma => (f.of_mem_titleProperty comma).2.2 rfl

theorem head?_annotationHead :
    WorkflowCommand.head? f.annotationHead =
      some (f.severity.level, [("title", f.policyId)]) := by
  have level := WorkflowCommand.span_append
    (fun space => (of_mem_level f.severity ' ' space).2.2 rfl) f.titleProperty
  rw [WorkflowCommand.head?, annotationHead, level]
  simp [splitAt_titleProperty, property?_titleProperty]

theorem cutAtColons?_ofFinding :
    WorkflowCommand.cutAtColons? (f.annotationHead ++ ':' :: ':' :: (escapeData f.message).toList) =
      some (f.annotationHead, (escapeData f.message).toList) :=
  WorkflowCommand.cutAtColons?_append (fun colon => (f.of_mem_annotationHead colon).2 rfl) _

theorem read?_ofFinding :
    WorkflowCommand.read? f.annotation =
      some ⟨f.severity.level, [("title", f.policyId)], f.message⟩ := by
  rw [WorkflowCommand.read?, annotation_toList]
  simp only [cutAtColons?_ofFinding, Option.bind_some, head?_annotationHead, Option.map_some,
    unescape_escapeData, String.ofList_toList]

theorem annotation_oneLine {c : Char} (member : c ∈ f.annotation.toList) :
    ¬BreaksLine c := by
  have colon : ¬BreaksLine ':' := by decide
  simp only [annotation_toList, List.mem_cons, List.mem_append] at member
  rcases member with rfl | rfl | inHead | rfl | rfl | inMessage
  · exact colon
  · exact colon
  · exact (f.of_mem_annotationHead inHead).1
  · exact colon
  · exact colon
  · exact not_breaksLine_of_mem_escapeData inMessage

/-- Whatever its texts are, an annotation is read as what it was made of. -/
theorem readFrom_ofFinding : f.ReadFrom f.annotation where
  oneLine := fun _ member => f.annotation_oneLine member
  parts := by
    refine ⟨_, f.annotation_toList, ?_⟩
    rw [cutAtColons?_ofFinding]
    simp [annotationHead, titleProperty]
  command := by
    rw [read?_ofFinding, message]
    cases f.reason <;> rfl

end Finding

/-- The annotations of a summary stand for its first findings up to any limit, one line each.  Every
line is read as the command that its finding stands for, and no text of the finding can move the end
of the properties, add a property or break the line. -/
theorem Summary.annotations_readFrom (s : Summary) (limit : Nat) :
    List.Forall₂ Finding.ReadFrom (s.findings.take limit) (s.annotations limit) := by
  rw [Summary.annotations, ← List.map_take, List.forall₂_map_right_iff, List.forall₂_same]
  intro f _
  exact f.readFrom_ofFinding

/-- Texts that look like escapes and commands themselves. -/
example :
    let f : Finding := ⟨"t", "a\n::error::b", "x::y,z=%0A", "n%250A", .low, none⟩
    WorkflowCommand.read? f.annotation =
      some ⟨"notice", [("title", "x::y,z=%0A")], "t.a\n::error::b: n%250A"⟩ := by
  decide

end PolicyAudit
