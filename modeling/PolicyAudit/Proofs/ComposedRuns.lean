/-
Module: PolicyAudit.Proofs.ComposedRuns
Purpose: A run on joined lists of resources is composed of the runs on each of them, and the order
  of the resources decides nothing but the order of the reports.
Imports: Mathlib.Data.List.FinRange, PolicyAudit.Proofs.WeakerSettings
Trusted boundary: none
Main exports: RunStatus.max_le_iff, Outcome.statusAlone, runStatus_le_iff, runStatus_append,
  runStatus_of_mem_iff, runCounts_append, runCounts_of_perm, PolicySet.audit_composes
-/
import Mathlib.Data.List.FinRange
import PolicyAudit.Proofs.WeakerSettings

namespace PolicyAudit

/-! ### The order of statuses -/

namespace RunStatus

/-- The graver of two statuses. -/
instance : Max RunStatus := maxOfLe

variable {a b s : RunStatus}

theorem le_trans (first : a ≤ b) (second : b ≤ s) : a ≤ s :=
  Nat.le_trans first second

theorem le_antisymm (below : a ≤ b) (above : b ≤ a) : a = b := by
  have sameRank : a.rank = b.rank := Nat.le_antisymm below above
  cases a <;> cases b <;> simp [rank] at sameRank ⊢

/-- The graver of two statuses is their least upper bound. -/
theorem max_le_iff : max a b ≤ s ↔ a ≤ s ∧ b ≤ s := by
  rw [show max a b = if a ≤ b then b else a from rfl]
  split
  · rename_i le
    exact ⟨fun upper => ⟨le_trans le upper, upper⟩, fun ⟨_, upper⟩ => upper⟩
  · rename_i notLe
    have ge : b ≤ a := Nat.le_of_not_le notLe
    exact ⟨fun upper => ⟨upper, le_trans ge upper⟩, fun ⟨upper, _⟩ => upper⟩

/-- Statuses with the same upper bounds are the same. -/
theorem eq_of_forall_le_iff (same : ∀ s, a ≤ s ↔ b ≤ s) : a = b := by
  apply le_antisymm
  · exact (same b).mpr (Nat.le_refl b.rank)
  · exact (same a).mp (Nat.le_refl a.rank)

end RunStatus

/-! ### The status of a run as a least upper bound -/

/-- The status of a run in which nothing but the outcome has failed. -/
def Outcome.statusAlone (failOn : Severity) (o : Outcome) : RunStatus :=
  if failOn ≤ o.severity then .fail else .warn

section

variable (failOn : Severity) (xs ys : List ResourceReport)

/-- No failed outcome has a graver status alone than the whole run, and the run has no graver
status than it needs for that. -/
theorem runStatus_le_iff (s : RunStatus) :
    runStatus failOn xs ≤ s ↔ ∀ o, HasFailed xs o → o.statusAlone failOn ≤ s := by
  unfold Outcome.statusAlone
  rcases runStatus_cases failOn xs with ⟨⟨grave, failed, reaches⟩, status⟩ |
    ⟨⟨light, failed⟩, below, status⟩ | ⟨none, status⟩
  · rw [status]
    constructor
    · intro upper o _
      split
      · exact upper
      · exact RunStatus.le_trans (Nat.le_succ 1) upper
    · intro upper
      have here := upper grave failed
      rwa [if_pos reaches] at here
  · rw [status]
    constructor
    · intro upper o alsoFailed
      rwa [if_neg (Severity.not_le.mpr (below o alsoFailed))]
    · intro upper
      have here := upper light failed
      rwa [if_neg (Severity.not_le.mpr (below light failed))] at here
  · rw [status]
    constructor
    · intro _ o failed
      exact absurd failed (none o)
    · intro _
      exact RunStatus.pass_le s

theorem hasFailed_append {o : Outcome} :
    HasFailed (xs ++ ys) o ↔ HasFailed xs o ∨ HasFailed ys o := by
  simp [HasFailed, or_and_right, exists_or]

/-- The status of joined reports is the graver of the two. -/
theorem runStatus_append :
    runStatus failOn (xs ++ ys) = max (runStatus failOn xs) (runStatus failOn ys) := by
  apply RunStatus.eq_of_forall_le_iff
  intro s
  rw [RunStatus.max_le_iff, runStatus_le_iff, runStatus_le_iff, runStatus_le_iff, ← forall_and]
  apply forall_congr'
  intro o
  rw [hasFailed_append, or_imp]

/-- It does not matter for the status where the reports stand. -/
theorem runStatus_of_mem_iff {xs ys : List ResourceReport} (same : ∀ r, r ∈ xs ↔ r ∈ ys) :
    runStatus failOn xs = runStatus failOn ys := by
  apply RunStatus.eq_of_forall_le_iff
  intro s
  have sameFailures : ∀ o, HasFailed xs o ↔ HasFailed ys o := by
    intro o
    simp only [HasFailed, same]
  simp only [runStatus_le_iff, sameFailures]

end

/-! ### The counts of a run as sums -/

/-- Counts are determined by what they hold for each verdict. -/
theorem Counts.ext_of {c d : Counts} (same : ∀ v, c.of v = d.of v) : c = d := by
  rw [Counts.mk.injEq]
  exact ⟨same .passed, same .failed, same .skipped⟩

/-- As long as the outcomes of joined reports can be counted, their counts are the sums of the
counts of the two. -/
theorem runCounts_append {xs ys : List ResourceReport}
    (few : ((xs ++ ys).flatMap (·.outcomes)).length < 2 ^ 32) (v : Verdict) :
    ((runCounts (xs ++ ys)).of v).toNat =
      ((runCounts xs).of v).toNat + ((runCounts ys).of v).toNat := by
  have joined := toNat_runCounts_of few v
  rw [List.flatMap_append, List.length_append] at few
  rw [joined, List.flatMap_append, List.countP_append,
    toNat_runCounts_of (Nat.lt_of_le_of_lt (Nat.le_add_right _ _) few) v,
    toNat_runCounts_of (Nat.lt_of_le_of_lt (Nat.le_add_left _ _) few) v]

/-- It does not matter for the counts in which order the reports stand. -/
theorem runCounts_of_perm {xs ys : List ResourceReport} (perm : xs.Perm ys) :
    runCounts xs = runCounts ys := by
  apply Counts.ext_of
  intro v
  have sameOutcomes := perm.flatMap_right (·.outcomes)
  rw [runCounts, runCounts, Counts.of_foldl_record, Counts.of_foldl_record,
    sameOutcomes.countP_eq]

/-! ### Runs -/

namespace PolicySet

variable (set : PolicySet) (settings : RunSettings)

/-- A run on joined lists has the reports of the one run followed by those of the other, and the
graver of their statuses; as long as the outcomes can be counted, its counts are their sums.  A run
on the resources in another order has the same reports in that other order, and the same status,
counts and number of policies. -/
theorem audit_composes :
    (∀ xs ys : List Resource,
      let joined := set.audit settings (xs ++ ys)
      let first := set.audit settings xs
      let second := set.audit settings ys
      joined.resources = first.resources ++ second.resources ∧
        joined.status = max first.status second.status ∧
        ((joined.resources.flatMap (·.outcomes)).length < 2 ^ 32 →
          ∀ v, (joined.counts.of v).toNat =
            (first.counts.of v).toNat + (second.counts.of v).toNat)) ∧
      ∀ (resources : List Resource) (order : Equiv.Perm (Fin resources.length)),
        let run := set.audit settings resources
        let reordered := set.audit settings (List.ofFn fun i => resources.get (order i))
        reordered.resources.length = run.resources.length ∧
          (∀ i, reordered.resources[i.val]? = run.resources[(order i).val]?) ∧
          reordered.counts = run.counts ∧ reordered.status = run.status ∧
          reordered.policiesActive = run.policiesActive := by
  constructor
  · intro xs ys joined first second
    have reports : joined.resources = first.resources ++ second.resources := List.map_append
    refine ⟨reports, ?_, ?_⟩
    · calc joined.status
        _ = runStatus settings.failOn (first.resources ++ second.resources) := by rw [← reports]; rfl
        _ = max first.status second.status := runStatus_append settings.failOn _ _
    · intro few v
      rw [reports] at few
      calc (joined.counts.of v).toNat
        _ = ((runCounts (first.resources ++ second.resources)).of v).toNat := by rw [← reports]; rfl
        _ = (first.counts.of v).toNat + (second.counts.of v).toNat := runCounts_append few v
  · intro resources order run reordered
    have perm : (List.ofFn fun i => resources.get (order i)).Perm resources := by
      have moved := order.ofFn_comp_perm resources.get
      rwa [List.ofFn_get] at moved
    have reports : reordered.resources.Perm run.resources := perm.map (set.report settings)
    refine ⟨reports.length_eq, ?_, runCounts_of_perm reports, ?_, rfl⟩
    · intro i
      simp [reordered, run, audit]
    · exact runStatus_of_mem_iff settings.failOn fun r => reports.mem_iff

/-- Policies on two types that fail, one at a low severity and one at a critical one. -/
def ofGrades : PolicySet where
  policies :=
    [ ⟨"T_1", "fails", .logging, .low, ["store"], fun _ => .ok (.failed "reason")⟩,
      ⟨"T_2", "fails gravely", .iam, .critical, ["vault"], fun _ => .ok (.failed "reason")⟩ ]
  sound := by decide +kernel

/-- A run that only warns and one that fails compose to one that fails, in either order. -/
theorem audit_composes_ofGrades :
    let settings := { RunSettings.default with failOn := .high, reportSkipped := true }
    let light : List Resource := [⟨"store", "a", .scalar .null⟩]
    let grave : List Resource := [⟨"vault", "b", .scalar .null⟩, ⟨"store", "c", .scalar .null⟩]
    let joined := ofGrades.audit settings (light ++ grave)
    (joined.resources.flatMap (·.outcomes)).length < 2 ^ 32 ∧
      (joined.counts.of .failed).toNat = 1 + 2 ∧ (joined.counts.of .skipped).toNat = 1 + 2 ∧
      (ofGrades.audit settings light).status = .warn ∧
      (ofGrades.audit settings grave).status = .fail ∧
      joined.status = .fail ∧ (ofGrades.audit settings (grave ++ light)).status = .fail := by
  intro settings light grave joined
  have composes := (audit_composes ofGrades settings).1
  have few : (joined.resources.flatMap (·.outcomes)).length < 2 ^ 32 := by decide +kernel
  have sums := (composes light grave).2.2 few
  have warns : (ofGrades.audit settings light).status = .warn := by decide +kernel
  have fails : (ofGrades.audit settings grave).status = .fail := by decide +kernel
  refine ⟨few, (sums .failed).trans ?_, (sums .skipped).trans ?_, warns, fails, ?_, ?_⟩
  · decide +kernel
  · decide +kernel
  · rw [(composes light grave).2.1, warns, fails]
    rfl
  · rw [(composes grave light).2.1, warns, fails]
    rfl

end PolicySet

end PolicyAudit
