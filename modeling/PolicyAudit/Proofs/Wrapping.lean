/-
Module: PolicyAudit.Proofs.Wrapping
Purpose: Lists around single values and repeated blocks change no verdict and no reason.
Imports: Mathlib.Logic.Relation, PolicyAudit.Proofs.Observation
Trusted boundary: none
Main exports: ConfigTree.Wraps, ConfigTree.WrapBelow, ConfigTree.WrapStep,
  ConfigTree.WrapStep.alike, Pattern.evaluate_of_wrapped
-/
import Mathlib.Logic.Relation
import PolicyAudit.Proofs.Observation

namespace PolicyAudit

namespace ConfigTree

/-! ### Wrapping -/

/-- A value and a list that may stand for it: the list of only this value, or, for a block, a list
of blocks of which it is the first. -/
inductive Wraps : ConfigTree → ConfigTree → Prop where
  | scalar (s : Scalar) : Wraps (.scalar s) (.sequence [.scalar s])
  | block (m : Mapping) (others : List Mapping) :
      Wraps (.mapping m) (.sequence (.mapping m :: others.map .mapping))

/-- One value under a key, at any depth, is replaced by a list that wraps it. -/
inductive WrapBelow : ConfigTree → ConfigTree → Prop where
  | value (before : Mapping) (key : String) (after : Mapping) {v w : ConfigTree}
      (wraps : Wraps v w) :
      WrapBelow (.mapping (before ++ (key, v) :: after)) (.mapping (before ++ (key, w) :: after))
  | entry (before : Mapping) (key : String) (after : Mapping) {v w : ConfigTree}
      (below : WrapBelow v w) :
      WrapBelow (.mapping (before ++ (key, v) :: after)) (.mapping (before ++ (key, w) :: after))
  | item (before after : List ConfigTree) {v w : ConfigTree} (below : WrapBelow v w) :
      WrapBelow (.sequence (before ++ v :: after)) (.sequence (before ++ w :: after))

/-- One value, the root or one under a key, is replaced by a list that wraps it. -/
inductive WrapStep : ConfigTree → ConfigTree → Prop where
  | root {v w : ConfigTree} (wraps : Wraps v w) : WrapStep v w
  | below {v w : ConfigTree} (below : WrapBelow v w) : WrapStep v w

/-! ### What a wrapping keeps -/

/-- Blocks add no scalars to the list that they stand in. -/
theorem flatMap_itemScalars_blocks (blocks : List Mapping) :
    (blocks.map mapping).flatMap itemScalars = [] := by
  induction blocks with
  | nil => rfl
  | cons m blocks inductionHypothesis =>
      rw [List.map_cons, List.flatMap_cons, inductionHypothesis]
      rfl

/-- A list that wraps a value reads as the value does. -/
theorem Wraps.alike {v w : ConfigTree} (wraps : Wraps v w) : Alike v w := by
  intro keys
  cases wraps with
  | scalar s =>
      cases keys with
      | nil => rfl
      | cons key keys => rfl
  | block m others =>
      cases keys with
      | nil =>
          simp [descend, face, block?, ownScalar?, ownScalars, itemScalars,
            flatMap_itemScalars_blocks]
      | cons key keys => rfl

/-- A value inside a mapping or a list may be wrapped at any depth, and the whole reads as before. -/
theorem WrapBelow.interchangeable {v w : ConfigTree} (below : WrapBelow v w) :
    Interchangeable v w := by
  induction below with
  | value before key after wraps =>
      exact (wraps.alike.mapping_entry before key after).interchangeable
  | entry before key after _ inductionHypothesis => exact inductionHypothesis.entry before key after
  | item before after _ inductionHypothesis => exact inductionHypothesis.item before after

theorem WrapStep.alike {v w : ConfigTree} (step : WrapStep v w) : Alike v w := by
  cases step with
  | root wraps => exact wraps.alike
  | below below => exact below.interchangeable.alike

/-- Any number of wrappings keeps a tree alike. -/
theorem alike_of_wrapped {c d : ConfigTree} (wrapped : Relation.ReflTransGen WrapStep c d) :
    Alike c d := by
  induction wrapped with
  | refl => exact .refl c
  | tail _ step inductionHypothesis => exact inductionHypothesis.trans step.alike

end ConfigTree

open ConfigTree in
/-- However often and wherever values of a configuration are wrapped, every pattern answers the
same verdict for the same reason. -/
theorem Pattern.evaluate_of_wrapped (pattern : Pattern) {c d : ConfigTree}
    (wrapped : Relation.ReflTransGen WrapStep c d) : pattern.evaluate d = pattern.evaluate c :=
  pattern.evaluate_of_alike (alike_of_wrapped wrapped).symm

namespace Wrapping

/-- A configuration without lists. -/
def bare : ConfigTree :=
  .mapping [("acls", .mapping [("action", .scalar (.string "Deny")), ("bypass", .scalar .null)])]

/-- The same configuration as a list, with a repeated block and a listed value inside. -/
def wrapped : ConfigTree :=
  .sequence
    [ .mapping
        [ ("acls", .sequence
            [ .mapping
                [ ("action", .sequence [.scalar (.string "Deny")]),
                  ("bypass", .scalar .null) ],
              .mapping [("action", .scalar (.string "Allow"))] ]) ] ]

theorem bare_wrapped : Relation.ReflTransGen ConfigTree.WrapStep bare wrapped := by
  have action := ConfigTree.Wraps.scalar (.string "Deny")
  have block := ConfigTree.Wraps.block
    [("action", .sequence [.scalar (.string "Deny")]), ("bypass", .scalar .null)]
    [[("action", .scalar (.string "Allow"))]]
  refine .tail (.tail (.single (.below ?_)) (.below (.value [] "acls" [] block)))
    (.root (.block _ []))
  exact .entry [] "acls" [] (.value [] "action" [("bypass", .scalar .null)] action)

theorem evaluate_of_wrapped_bare :
    Relation.ReflTransGen ConfigTree.WrapStep bare wrapped ∧
      (Pattern.exceptionGate ⟨⟨"acls", "action", "Deny"⟩, "bypass", "A"⟩).evaluate wrapped =
        (Pattern.exceptionGate ⟨⟨"acls", "action", "Deny"⟩, "bypass", "A"⟩).evaluate bare :=
  ⟨bare_wrapped, Pattern.evaluate_of_wrapped _ bare_wrapped⟩

end Wrapping

end PolicyAudit
