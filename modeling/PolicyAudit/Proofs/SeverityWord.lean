/-
Module: PolicyAudit.Proofs.SeverityWord
Purpose: The texts that are read as severities, letter by letter.
Imports: PolicyAudit.Proofs.LetterCase, PolicyAudit.Settings.Resolve
Trusted boundary: none
Main exports: Severity.SpelledBy, Severity.ofWord?_eq_some_iff, Severity.ofWord?_eq_none_iff
-/
import PolicyAudit.Proofs.LetterCase
import PolicyAudit.Settings.Resolve

namespace PolicyAudit

namespace Severity

/-- The text is the word of the severity, with each letter in one of its two ASCII cases. -/
def SpelledBy (s : Severity) (text : String) : Prop :=
  List.Forall₂ (fun capital c => c = capital ∨ c = capital.toLower) s.word.toList text.toList

theorem isUpper_word (s : Severity) : ∀ c ∈ s.word.toList, c.isUpper = true := by
  rw [← List.all_eq_true]
  cases s <;> decide +kernel

theorem spelledBy_iff {s : Severity} {text : String} :
    s.SpelledBy text ↔ Text.lowerAscii s.word = Text.lowerAscii text := by
  rw [SpelledBy, Text.lowerAscii, Text.lowerAscii, String.ofList_inj,
    Text.map_toLower_eq_iff s.isUpper_word]

/-- A text is read as the severity whose word it spells. -/
theorem ofWord?_eq_some_iff {s : Severity} {text : String} :
    ofWord? text = some s ↔ s.SpelledBy text := by
  rw [spelledBy_iff, ofWord?]
  constructor
  · intro found
    simpa using List.find?_some found
  · intro same
    rw [← same]
    cases s <;> decide +kernel

theorem ofWord?_eq_none_iff {text : String} :
    ofWord? text = none ↔ ∀ s : Severity, ¬ s.SpelledBy text := by
  simp only [Option.eq_none_iff_forall_ne_some, ne_eq, ofWord?_eq_some_iff]

end Severity

end PolicyAudit
