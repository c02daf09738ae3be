/-
Module: PolicyAudit.Proofs.RunCounts
Purpose: The counts of a run are the numbers of its outcomes by verdict.
Imports: Mathlib.Algebra.Group.Nat.Defs, PolicyAudit.Run.Evaluate
Trusted boundary: none
Main exports: Counts.of, Counts.of_record, Counts.of_foldl_record, toNat_runCounts_of,
  sum_runCounts
-/
import Mathlib.Algebra.Group.Nat.Defs
import PolicyAudit.Run.Evaluate

namespace PolicyAudit

namespace Counts

/-- The count of one verdict. -/
def of (c : Counts) : Verdict → UInt32
  | .passed => c.passed
  | .failed => c.failed
  | .skipped => c.skipped

theorem of_zero (v : Verdict) : zero.of v = 0 := by
  cases v <;> rfl

/-- Recording a verdict adds one to its count and nothing to the others. -/
theorem of_record (c : Counts) (recorded v : Verdict) :
    (c.record recorded).of v = c.of v + UInt32.ofNat (if recorded = v then 1 else 0) := by
  cases recorded <;> cases v <;> simp [record, of]

/-- Recording outcomes one after the other adds to a count how many have its verdict. -/
theorem of_foldl_record (outcomes : List Outcome) (c : Counts) (v : Verdict) :
    (outcomes.foldl (fun c o => c.record o.verdict) c).of v =
      c.of v + UInt32.ofNat (outcomes.countP (·.verdict = v)) := by
  induction outcomes generalizing c with
  | nil => simp
  | cons o outcomes inductionHypothesis =>
      rw [List.foldl_cons, inductionHypothesis, of_record, List.countP_cons, UInt32.add_assoc,
        ← UInt32.ofNat_add, Nat.add_comm]
      simp only [decide_eq_true_eq]

end Counts

/-- A count of a run is the number of its outcomes with the verdict, as long as they can be
counted. -/
theorem toNat_runCounts_of {reports : List ResourceReport}
    (few : (reports.flatMap (·.outcomes)).length < 2 ^ 32) (v : Verdict) :
    ((runCounts reports).of v).toNat =
      (reports.flatMap (·.outcomes)).countP (·.verdict = v) := by
  have atMost : (reports.flatMap (·.outcomes)).countP (·.verdict = v) < 2 ^ 32 :=
    Nat.lt_of_le_of_lt List.countP_le_length few
  rw [runCounts, Counts.of_foldl_record, Counts.of_zero, UInt32.zero_add,
    UInt32.toNat_ofNat_of_lt' atMost]

/-- Every outcome has one of the three verdicts. -/
theorem sum_countP_verdict (outcomes : List Outcome) :
    outcomes.countP (·.verdict = .passed) + outcomes.countP (·.verdict = .failed) +
      outcomes.countP (·.verdict = .skipped) = outcomes.length := by
  induction outcomes with
  | nil => rfl
  | cons o outcomes inductionHypothesis =>
      simp only [List.countP_cons, List.length_cons, decide_eq_true_eq]
      cases o.verdict <;> simp <;> omega

/-- The counts of a run sum up to the number of its outcomes. -/
theorem sum_runCounts {reports : List ResourceReport}
    (few : (reports.flatMap (·.outcomes)).length < 2 ^ 32) :
    (runCounts reports).passed.toNat + (runCounts reports).failed.toNat +
      (runCounts reports).skipped.toNat = (reports.flatMap (·.outcomes)).length := by
  rw [← sum_countP_verdict, ← toNat_runCounts_of few .passed, ← toNat_runCounts_of few .failed,
    ← toNat_runCounts_of few .skipped]
  rfl

end PolicyAudit
