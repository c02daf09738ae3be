/-
Module: PolicyAudit.Proofs.RequiredFields
Purpose: Which configurations say something in the required field of a block, and how that compares
  with the values that stand in the field at all.
Imports: PolicyAudit.Proofs.JoinedPaths, PolicyAudit.Rule.Pattern
Trusted boundary: none
Main exports: ConfigTree.Sets, RequiredField.Accepts, RequiredField.Rejects, RequiredField.path,
  RequiredField.Accepts.scalar?_eq, RequiredField.Accepts.hasValues,
  RequiredField.exists_list_of_hasValues, requiredField_exact
-/
import PolicyAudit.Proofs.JoinedPaths
import PolicyAudit.Rule.Pattern

namespace PolicyAudit

/-! ### Fields -/

/-- The value at the path is this populated scalar, or a list that starts with it. -/
def ConfigTree.Sets (block : ConfigTree) (field : String) (s : Scalar) : Prop :=
  ∃ value, block.get? field = some value ∧ value.StartsWith s ∧ s.Populated

theorem ConfigTree.sets_iff {block : ConfigTree} {field : String} :
    (block.scalar? field).any (·.isPopulated) = true ↔ ∃ s, block.Sets field s := by
  simp only [Option.any_eq_true, scalar?, Option.bind_eq_some_iff, ownScalar?_eq_some_iff,
    Scalar.isPopulated_iff, Sets]
  constructor
  · rintro ⟨s, ⟨value, inField, starts⟩, populated⟩
    exact ⟨s, value, inField, starts, populated⟩
  · rintro ⟨s, value, inField, starts, populated⟩
    exact ⟨s, ⟨value, inField, starts⟩, populated⟩

namespace RequiredField

/-! ### Accepted values -/

/-- The block is there, and its field is set to the scalar. -/
inductive Accepts (rule : RequiredField) (config : ConfigTree) (s : Scalar) : Prop where
  | reads {block : ConfigTree} (found : config.get? rule.block = some block)
      (isBlock : block.IsBlock) (sets : block.Sets rule.field s) : Accepts rule config s

/-- Why a configuration is rejected: the block is not there, or its field is not set. -/
inductive Rejects (rule : RequiredField) (config : ConfigTree) : String → Prop where
  | absent (missing : ∀ value, config.get? rule.block = some value → ¬ value.IsBlock) :
      Rejects rule config (rule.block ++ " is absent")
  | unset {block : ConfigTree} (found : config.get? rule.block = some block)
      (isBlock : block.IsBlock) (silent : ∀ s, ¬ block.Sets rule.field s) :
      Rejects rule config (rule.block ++ "." ++ rule.field ++ " is not set")

/-- The path of the field from the whole configuration. -/
def path (rule : RequiredField) : String :=
  rule.block ++ "." ++ rule.field

variable {rule : RequiredField} {config block : ConfigTree} {s : Scalar} {reason : String}

theorem Accepts.evaluate_eq (accepts : rule.Accepts config s) : rule.evaluate config = .passed := by
  obtain ⟨found, isBlock, sets⟩ := accepts
  have governed := governedBlock?_eq_some_iff.mpr ⟨found, isBlock⟩
  have test := ConfigTree.sets_iff.mpr ⟨s, sets⟩
  simp only [evaluate, governed, test, if_true]

theorem Rejects.evaluate_eq (rejects : rule.Rejects config reason) :
    rule.evaluate config = .failed reason := by
  cases rejects with
  | absent missing =>
      rw [evaluate, governedBlock?_eq_none_iff.mpr missing]
      rfl
  | @unset block found isBlock silent =>
      have governed := governedBlock?_eq_some_iff.mpr ⟨found, isBlock⟩
      have test : ¬ (block.scalar? rule.field).any (·.isPopulated) = true := by
        rw [ConfigTree.sets_iff]
        exact not_exists.mpr silent
      simp only [evaluate, governed, if_neg test]
      rfl

theorem accepts_or_rejects (rule : RequiredField) (config : ConfigTree) :
    (∃ s, rule.Accepts config s) ∨ ∃ reason, rule.Rejects config reason := by
  cases governed : governedBlock? config rule.block with
  | none => exact .inr ⟨_, .absent (governedBlock?_eq_none_iff.mp governed)⟩
  | some block =>
      obtain ⟨found, isBlock⟩ := governedBlock?_eq_some_iff.mp governed
      by_cases set : ∃ s, block.Sets rule.field s
      · obtain ⟨s, sets⟩ := set
        exact .inl ⟨s, .reads found isBlock sets⟩
      · exact .inr ⟨_, .unset found isBlock (not_exists.mp set)⟩

/-! ### Values in the field -/

/-- The field of the block is what stands at the joined path. -/
theorem get?_path (found : config.get? rule.block = some block) :
    config.get? rule.path = block.get? rule.field :=
  ConfigTree.get?_joined_of_found found

theorem Accepts.scalar?_eq (accepts : rule.Accepts config s) :
    config.scalar? rule.path = some s := by
  obtain ⟨found, -, value, inField, starts, -⟩ := accepts
  rw [ConfigTree.scalar?, get?_path found, inField, Option.bind_some]
  exact ConfigTree.ownScalar?_eq_some_iff.mpr starts

/-- What a field starts with is one of its values. -/
theorem Accepts.hasValues (accepts : rule.Accepts config s) :
    config.hasValues rule.path = true := by
  obtain ⟨found, -, value, inField, starts, populated⟩ := accepts
  obtain ⟨place, stands⟩ := starts.exists_scalarAt
  exact ConfigTree.hasValues_iff.mpr
    ⟨place, s, ⟨value, (get?_path found).trans inField, stands⟩, populated⟩

/-- Values of which none is accepted stand behind the first item of a list. -/
theorem exists_list_of_hasValues (found : config.get? rule.block = some block)
    (isBlock : block.IsBlock) (holds : config.hasValues rule.path = true)
    (rejected : ∀ s, ¬ rule.Accepts config s) :
    ∃ first others, config.get? rule.path = some (.sequence (first :: others)) ∧
      ∀ s, first = .scalar s → ¬ s.Populated := by
  obtain ⟨place, s, ⟨value, atPath, stands⟩, populated⟩ := ConfigTree.hasValues_iff.mp holds
  have inField : block.get? rule.field = some value := (get?_path found).symm.trans atPath
  -- The value itself is no populated scalar, so what it holds stands in a list.
  have leads : ∀ s, value.StartsWith s → ¬ s.Populated := fun s starts populated =>
    rejected s (.reads found isBlock ⟨value, inField, starts, populated⟩)
  rcases stands.eq_scalar_or_list with rfl | ⟨first, others, rfl⟩
  · exact absurd populated (leads s (.scalar s))
  · refine ⟨first, others, atPath, ?_⟩
    rintro s rfl
    exact leads s (.first s others)

end RequiredField

/-- A required field passes exactly the configurations whose field it accepts, and fails every other
one for the block or the field.  What it accepts is the scalar that is read at the joined path, and
a value that is found there.  A configuration with values there that still fails has them in a list
that does not start with a populated scalar. -/
theorem requiredField_exact (rule : RequiredField) (config : ConfigTree) :
    (rule.evaluate config = .passed ↔ ∃ s, rule.Accepts config s) ∧
    (∀ reason, rule.evaluate config = .failed reason ↔ rule.Rejects config reason) ∧
    (rule.evaluate config = .passed ∨ ∃ reason, rule.evaluate config = .failed reason) ∧
    (rule.evaluate config = .passed → config.hasValues rule.path = true ∧
      ∃ s, rule.Accepts config s ∧ config.scalar? rule.path = some s) ∧
    (∀ block reason, config.get? rule.block = some block → block.IsBlock →
      config.hasValues rule.path = true → rule.evaluate config = .failed reason →
      ∃ first others, config.get? rule.path = some (.sequence (first :: others)) ∧
        ∀ s, first = .scalar s → ¬ s.Populated) := by
  obtain ⟨passes, fails, either⟩ :=
    Evaluation.exact_of_cases (fun ⟨_, accepts⟩ => RequiredField.Accepts.evaluate_eq accepts)
      (fun _ => RequiredField.Rejects.evaluate_eq) (rule.accepts_or_rejects config)
  refine ⟨passes, fails, either, ?_, ?_⟩
  · intro passed
    obtain ⟨s, accepts⟩ := passes.mp passed
    exact ⟨accepts.hasValues, s, accepts, accepts.scalar?_eq⟩
  · intro block reason found isBlock holds failed
    refine RequiredField.exists_list_of_hasValues found isBlock holds fun s accepts => ?_
    exact Evaluation.passed_ne_failed reason (accepts.evaluate_eq.symm.trans failed)

namespace RequiredField

def keyed : RequiredField := ⟨"cmk", "key.id"⟩

/-- A key's name in a list, behind a repeated block. -/
def named : ConfigTree :=
  .mapping
    [("cmk", .sequence
      [ .mapping [("key", .mapping [("id", .sequence [.scalar (.string "kv"), .scalar .null])])],
        .mapping [] ])]

/-- The same name in a list of a list, after a blank one. -/
def nestedName : ConfigTree :=
  .mapping
    [("cmk", .mapping
      [("key", .mapping
        [("id", .sequence
          [.scalar (.string " "), .sequence [.scalar (.string "kv")]])])])]

end RequiredField

open RequiredField in
/-- The name is accepted where the list starts with it; where it stands deeper it is a value that is
not accepted. -/
theorem requiredField_exact_ofNestedName :
    keyed.evaluate named = .passed ∧
    (named.hasValues keyed.path = true ∧
      ∃ s, keyed.Accepts named s ∧ named.scalar? keyed.path = some s) ∧
    nestedName.hasValues keyed.path = true ∧
    keyed.evaluate nestedName = .failed "cmk.key.id is not set" ∧
    ∃ first others, nestedName.get? keyed.path = some (.sequence (first :: others)) ∧
      ∀ s, first = .scalar s → ¬ s.Populated := by
  have populated : (Scalar.string "kv").Populated := Scalar.isPopulated_iff.mp (by decide)
  have blank : ¬ (Scalar.string " ").Populated := by
    rw [← Scalar.isPopulated_iff]
    decide
  have accepts : keyed.Accepts named (.string "kv") :=
    .reads rfl (.first _ _) ⟨_, rfl, .first _ _, populated⟩
  have rejects : keyed.Rejects nestedName "cmk.key.id is not set" := by
    refine .unset rfl (.mapping _) ?_
    rintro s ⟨value, inField, starts, populated⟩
    obtain rfl := Option.some.inj inField
    cases starts
    exact blank populated
  have holds : nestedName.hasValues keyed.path = true := by decide
  obtain ⟨passes, -, -, accepted, -⟩ := requiredField_exact keyed named
  obtain ⟨-, fails, -, -, behind⟩ := requiredField_exact keyed nestedName
  have passed := passes.mpr ⟨_, accepts⟩
  have failed := (fails _).mpr rejects
  exact ⟨passed, accepted passed, holds, failed, behind _ _ rfl (.mapping _) holds failed⟩

end PolicyAudit
