/-
Module: PolicyAudit.Rule.Basic
Purpose: What a policy's rule is and what it answers.
Imports: PolicyAudit.Config.Tree, PolicyAudit.Vocabulary
Trusted boundary: none
Main exports: Evaluation, Evaluation.exact_of_cases, Breakdown, Rule
-/
import PolicyAudit.Config.Tree
import PolicyAudit.Vocabulary

namespace PolicyAudit

/-- A verdict on one configuration, with the reason a reader is given. -/
structure Evaluation where
  verdict : Verdict
  reason : Option String
deriving Repr, Inhabited, DecidableEq

namespace Evaluation

def passed : Evaluation := ⟨.passed, none⟩

def failed (reason : String) : Evaluation := ⟨.failed, some reason⟩

def skipped (reason : String) : Evaluation := ⟨.skipped, some reason⟩

theorem passed_ne_failed (reason : String) : passed ≠ failed reason :=
  fun same => nomatch congrArg verdict same

theorem failed_inj {reason other : String} : failed reason = failed other ↔ reason = other :=
  ⟨fun same => Option.some.inj (congrArg Evaluation.reason same), congrArg failed⟩

/-- Conditions to pass and to fail that leave no third case are exact. -/
theorem exact_of_cases {e : Evaluation} {Admits : Prop} {Rejects : String → Prop}
    (passes : Admits → e = passed) (fails : ∀ reason, Rejects reason → e = failed reason)
    (covers : Admits ∨ ∃ reason, Rejects reason) :
    (e = passed ↔ Admits) ∧ (∀ reason, e = failed reason ↔ Rejects reason) ∧
      (e = passed ∨ ∃ reason, e = failed reason) := by
  rcases covers with admits | ⟨given, rejects⟩
  · obtain rfl := passes admits
    exact ⟨iff_of_true rfl admits,
      fun reason => ⟨fun failed => absurd failed (passed_ne_failed reason), fails reason⟩, .inl rfl⟩
  · obtain rfl := fails given rejects
    refine ⟨⟨fun passed => absurd passed.symm (passed_ne_failed given), passes⟩,
      fun reason => ⟨fun failed => ?_, fails reason⟩, .inr ⟨given, rfl⟩⟩
    exact failed_inj.mp failed ▸ rejects

end Evaluation

/-- What is left of a rule that broke off without an answer. -/
inductive Breakdown where
  | said (message : String)
  /-- The rule left nothing that can be read as a text. -/
  | unreadable
deriving Repr, Inhabited, DecidableEq

def Breakdown.message : Breakdown → String
  | said message => message
  | unreadable => "unknown panic payload"

/-- A rule answers every configuration, or breaks off. -/
abbrev Rule := ConfigTree → Except Breakdown Evaluation

end PolicyAudit
