/-
Module: PolicyAudit.Proofs.FindingsTable
Purpose: The table of findings keeps its shape just as long as those texts fit into a row that stand
  in it as they are.
Imports: Mathlib, PolicyAudit.Report.Markdown, PolicyAudit.Text.Split
Trusted boundary: none
Main exports: bareBars, Finding.line, Finding.StandsIn, Finding.FitsRow, Finding.standsIn_line_iff,
  Summary.KeepsTable, Summary.keepsTable_iff, Summary.keepsTable_iff_fitsRow
-/
import Mathlib
import PolicyAudit.Report.Markdown
import PolicyAudit.Text.Split

namespace PolicyAudit

/-! ### Bars -/

/-- The number of bars in a text that no backslash directly precedes. -/
def bareBars : List Char → Nat
  | '\\' :: '|' :: cs => bareBars cs
  | c :: cs => (if c = '|' then 1 else 0) + bareBars cs
  | [] => 0

/-- A character other than the backslash has no part in what follows it. -/
theorem bareBars_cons {c : Char} (noBackslash : c ≠ '\\') (cs : List Char) :
    bareBars (c :: cs) = (if c = '|' then 1 else 0) + bareBars cs := by
  rw [bareBars]
  intro _ backslash
  exact absurd backslash noBackslash

/-- A character other than the bar adds no bars; a backslash can hide the first one. -/
theorem bareBars_cons_le {c : Char} (noBar : c ≠ '|') (cs : List Char) :
    bareBars (c :: cs) ≤ bareBars cs := by
  by_cases hides : ∃ rest, c = '\\' ∧ cs = '|' :: rest
  · obtain ⟨rest, rfl, rfl⟩ := hides
    rw [bareBars, bareBars_cons (by decide)]
    omega
  · rw [bareBars]
    · simp [noBar]
    · intro rest backslash bar
      exact hides ⟨rest, backslash, bar⟩

/-- No bar is hidden by what stands before another character. -/
theorem bareBars_append {d : Char} (noBar : d ≠ '|') (cs ds : List Char) :
    bareBars (cs ++ d :: ds) = bareBars cs + bareBars (d :: ds) := by
  fun_induction bareBars cs with
  | case1 cs inductionHypothesis => exact inductionHypothesis
  | case2 c cs notHidden inductionHypothesis =>
      have stillNotHidden : ∀ rest, c = '\\' → cs ++ d :: ds = '|' :: rest → False := by
        intro rest backslash bar
        cases cs with
        | nil => exact noBar (List.cons.inj bar).1
        | cons e cs =>
            obtain rfl : e = '|' := (List.cons.inj bar).1
            exact notHidden cs backslash rfl
      rw [List.cons_append, bareBars, inductionHypothesis, Nat.add_assoc]
      exact stillNotHidden
  | case3 => rw [List.nil_append, Nat.zero_add]

/-! ### Escaped cells -/

/-- A character as a cell shows it. -/
def cellChar (c : Char) : List Char :=
  if c = '|' then ['\\', '|'] else if c = '\n' then [' '] else [c]

theorem escapeCell_toList (text : String) :
    (escapeCell text).toList = text.toList.flatMap cellChar := by
  rw [escapeCell, String.toList_ofList]
  rfl

/-- An escaped text has no bar of its own in its row. -/
theorem bareBars_escapeCell (text : String) : bareBars (escapeCell text).toList = 0 := by
  rw [escapeCell_toList]
  induction text.toList with
  | nil => rfl
  | cons c cs inductionHypothesis =>
      rw [List.flatMap_cons, cellChar]
      split
      · exact inductionHypothesis
      split
      · rw [List.singleton_append, bareBars_cons (by decide), inductionHypothesis]
        decide
      · rename_i noBar _
        rw [List.singleton_append]
        have fewer := bareBars_cons_le noBar (cs.flatMap cellChar)
        omega

theorem lineFeed_not_mem_escapeCell (text : String) : '\n' ∉ (escapeCell text).toList := by
  rw [escapeCell_toList, List.mem_flatMap]
  rintro ⟨c, -, part⟩
  unfold cellChar at part
  split at part
  · exact absurd part (by decide)
  split at part
  · exact absurd part (by decide)
  · rename_i other
    exact other (List.mem_singleton.mp part).symm

theorem carriageReturn_mem_escapeCell_iff (text : String) :
    '\r' ∈ (escapeCell text).toList ↔ '\r' ∈ text.toList := by
  have kept : ∀ c, '\r' ∈ cellChar c ↔ c = '\r' := by
    intro c
    unfold cellChar
    split
    · rename_i bar
      subst bar
      decide
    split
    · rename_i lineFeed
      subst lineFeed
      decide
    · rw [List.mem_singleton, eq_comm]
  rw [escapeCell_toList, List.mem_flatMap]
  simp [kept]

/-! ### Rows -/

namespace Finding

/-- How the row of a finding begins: with its severity, its resource and its policy. -/
def lead (f : Finding) : List Char :=
  ("| " ++ f.severity.word ++ " | `" ++ f.resourceType ++ "." ++ f.resourceId ++ "` | `" ++
    f.policyId ++ "` ").toList

/-- The row of a finding without the line feed that ends it. -/
def line (f : Finding) : List Char :=
  f.lead ++ (escapeCell f.policyName ++ " | " ++ escapeCell (f.reason.getD "") ++ " |").toList

theorem row_toList (f : Finding) : f.row.toList = f.line ++ ['\n'] := by
  unfold row line lead
  simp

/-- The texts that stand in a row as they are. -/
def rawTexts (f : Finding) : List String :=
  [f.resourceType, f.resourceId, f.policyId]

/-- The texts that a row escapes. -/
def escapedTexts (f : Finding) : List String :=
  [f.policyName, f.reason.getD ""]

/-- A line has five bars and those of its raw texts. -/
theorem bareBars_line (f : Finding) :
    bareBars f.line =
      5 + bareBars f.resourceType.toList + bareBars f.resourceId.toList +
        bareBars f.policyId.toList := by
  have word : bareBars f.severity.word.toList = 0 := by
    cases f.severity <;> rfl
  have nothing : bareBars [] = 0 := rfl
  simp [line, lead, bareBars_cons, bareBars_append, word, bareBars_escapeCell, nothing]
  omega

theorem lineFeed_mem_line_iff (f : Finding) :
    '\n' ∈ f.line ↔ ∃ text ∈ f.rawTexts, '\n' ∈ text.toList := by
  have word : '\n' ∉ f.severity.word.toList := by
    cases f.severity <;> decide
  simp [line, lead, rawTexts, word, lineFeed_not_mem_escapeCell]

theorem carriageReturn_mem_line_iff (f : Finding) :
    '\r' ∈ f.line ↔ ∃ text ∈ f.rawTexts ++ f.escapedTexts, '\r' ∈ text.toList := by
  have word : '\r' ∉ f.severity.word.toList := by
    cases f.severity <;> decide
  simp [line, lead, rawTexts, escapedTexts, word, carriageReturn_mem_escapeCell_iff]

/-- The text is one line that names the finding, with five bars that no backslash precedes, so that
it has the four cells of the head. -/
structure StandsIn (f : Finding) (line : List Char) : Prop where
  named : f.lead <+: line
  noLineFeed : '\n' ∉ line
  noCarriageReturn : '\r' ∉ line
  fiveBars : bareBars line = 5

/-- The texts of a finding fit into its row: those that stand in it as they are have neither a bar
without a backslash before it nor a line feed, and no text has a carriage return. -/
structure FitsRow (f : Finding) : Prop where
  raw : ∀ text ∈ f.rawTexts, bareBars text.toList = 0 ∧ '\n' ∉ text.toList
  noReturn : ∀ text ∈ f.rawTexts ++ f.escapedTexts, '\r' ∉ text.toList

theorem standsIn_line_iff (f : Finding) : f.StandsIn f.line ↔ f.FitsRow := by
  have bars : bareBars f.line = 5 ↔ ∀ text ∈ f.rawTexts, bareBars text.toList = 0 := by
    rw [bareBars_line]
    simp only [rawTexts, List.mem_cons, List.not_mem_nil, or_false, forall_eq_or_imp, forall_eq]
    omega
  have noFeed : '\n' ∉ f.line ↔ ∀ text ∈ f.rawTexts, '\n' ∉ text.toList := by
    rw [lineFeed_mem_line_iff]
    simp only [not_exists, not_and]
  have noReturn : '\r' ∉ f.line ↔ ∀ text ∈ f.rawTexts ++ f.escapedTexts, '\r' ∉ text.toList := by
    rw [carriageReturn_mem_line_iff]
    simp only [not_exists, not_and]
  constructor
  · intro stands
    exact ⟨fun text raw => ⟨bars.mp stands.fiveBars text raw, noFeed.mp stands.noLineFeed text raw⟩,
      noReturn.mp stands.noCarriageReturn⟩
  · intro fits
    exact ⟨List.prefix_append _ _, noFeed.mpr fun text raw => (fits.raw text raw).2,
      noReturn.mpr fits.noReturn, bars.mpr fun text raw => (fits.raw text raw).1⟩

theorem lineFeed_not_mem_of_standsIn {findings : List Finding} {lines : List (List Char)}
    (stands : List.Forall₂ StandsIn findings lines) : ∀ line ∈ lines, '\n' ∉ line := by
  induction stands with
  | nil => exact List.forall_mem_nil _
  | cons first _ inductionHypothesis =>
      exact List.forall_mem_cons.mpr ⟨first.noLineFeed, inductionHypothesis⟩

end Finding

/-! ### The table -/

section

variable {α : Type} {part : α → List Char} {xs : List α}

/-- Parts that are ended by line feeds have these, and those inside them. -/
theorem count_lineFeed (part : α → List Char) (xs : List α) :
    (xs.flatMap fun x => part x ++ ['\n']).count '\n' =
      (xs.map fun x => (part x).count '\n').sum + xs.length := by
  induction xs with
  | nil => rfl
  | cons x xs inductionHypothesis =>
      rw [List.flatMap_cons, List.count_append, inductionHypothesis, List.count_append,
        List.map_cons, List.sum_cons, List.length_cons, List.count_singleton_self]
      omega

/-- A text has only one sequence of lines: if as many parts are ended by line feeds in it, they are
the lines. -/
theorem eq_map_of_lines {lines : List (List Char)} (clean : ∀ line ∈ lines, '\n' ∉ line)
    (same : (xs.flatMap fun x => part x ++ ['\n']) = lines.flatMap (· ++ ['\n']))
    (asMany : xs.length = lines.length) : lines = xs.map part := by
  have noMore : (xs.map fun x => (part x).count '\n').sum = 0 := by
    have counted := congrArg (List.count '\n') same
    have none : (lines.map fun line => line.count '\n').sum = 0 :=
      List.sum_eq_zero_iff.mpr fun n listed => by
        obtain ⟨line, member, rfl⟩ := List.mem_map.mp listed
        exact List.count_eq_zero.mpr (clean line member)
    rw [count_lineFeed, count_lineFeed (fun line => line), none] at counted
    omega
  have partsClean : ∀ x ∈ xs, '\n' ∉ part x := fun x member =>
    List.count_eq_zero.mp (List.sum_eq_zero_iff.mp noMore _ (List.mem_map_of_mem member))
  have pieces := congrArg (Text.splitAt '\n') same
  rw [Text.splitAt_flatMap part partsClean,
    Text.splitAt_flatMap (fun line => line) clean] at pieces
  simpa using pieces.symm

end

namespace Summary

/-- What follows the head of the table is one line for each finding, in their order. -/
def KeepsTable (s : Summary) : Prop :=
  ∃ lines : List (List Char),
    s.markdown.toList = (s.heading ++ tableHead).toList ++ lines.flatMap (· ++ ['\n']) ∧
      List.Forall₂ Finding.StandsIn s.findings lines

theorem markdown_toList {s : Summary} (found : s.findings ≠ []) :
    s.markdown.toList =
      (s.heading ++ tableHead).toList ++ s.findings.flatMap fun f => f.line ++ ['\n'] := by
  have some : s.findings.isEmpty = false := by
    simpa using found
  rw [markdown, some]
  simp [String.toList_join, List.flatMap_map, Finding.row_toList]

/-- Without findings there is no head of a table. -/
theorem not_keepsTable_of_nil {s : Summary} (none : s.findings = []) : ¬s.KeepsTable := by
  rintro ⟨lines, text, -⟩
  rw [markdown, none, List.isEmpty_nil, if_pos rfl, String.toList_append, String.toList_append,
    List.append_assoc, List.append_cancel_left_eq] at text
  have first := congrArg List.head? text
  have hash : tableHead.toList.head? = some '#' := by decide
  rw [List.head?_append, hash, Option.some_or] at first
  exact absurd first (by decide)

/-- The table keeps its shape just if each row of the run stands on one line of it. -/
theorem keepsTable_iff (s : Summary) :
    s.KeepsTable ↔ s.findings ≠ [] ∧ ∀ f ∈ s.findings, f.StandsIn f.line := by
  constructor
  · intro keeps
    have found : s.findings ≠ [] := fun none => not_keepsTable_of_nil none keeps
    obtain ⟨lines, text, stands⟩ := keeps
    rw [markdown_toList found, List.append_cancel_left_eq] at text
    have own : lines = s.findings.map Finding.line :=
      eq_map_of_lines (Finding.lineFeed_not_mem_of_standsIn stands) text stands.length_eq
    rw [own, List.forall₂_map_right_iff, List.forall₂_same] at stands
    exact ⟨found, stands⟩
  · rintro ⟨found, stands⟩
    refine ⟨s.findings.map Finding.line, ?_, ?_⟩
    · rw [markdown_toList found, List.flatMap_map]
    · rw [List.forall₂_map_right_iff, List.forall₂_same]
      exact stands

/-- A summary keeps the table of its findings just if there are any and each fits into its row. -/
theorem keepsTable_iff_fitsRow (s : Summary) :
    s.KeepsTable ↔ s.findings ≠ [] ∧ ∀ f ∈ s.findings, f.FitsRow := by
  rw [keepsTable_iff]
  simp only [Finding.standsIn_line_iff]

/-- A bar in the id of a resource gives its row a fifth cell. -/
theorem not_keepsTable_ofBar :
    let finding : Finding :=
      ⟨"azurerm_key_vault", "main[\"eu|us\"]", "CKV_AZURE_CUSTOM_4", "network", .high, none⟩
    let s : Summary := ⟨.fail, ⟨1, 0, 1, 0⟩, [finding], []⟩
    s.findings ≠ [] ∧ ¬s.KeepsTable := by
  intro finding s
  refine ⟨List.cons_ne_nil _ _, fun keeps => ?_⟩
  have stands : finding.StandsIn finding.line :=
    (s.keepsTable_iff.mp keeps).2 finding (List.mem_singleton_self finding)
  have sixBars : bareBars finding.line = 6 := by decide
  exact absurd (sixBars.symm.trans stands.fiveBars) (by decide)

end Summary

end PolicyAudit
