/-
Module: PolicyAudit.Proofs.RegroupedGrants
Purpose: However a list of scalars is cut into groups, the same scalars are read and scanned.
Imports: Mathlib.Data.List.Forall2, Mathlib.Logic.Relation, PolicyAudit.Proofs.Observation
Trusted boundary: none
Main exports: ConfigTree.IsGroup, ConfigTree.Groups, ConfigTree.Regroups,
  ConfigTree.RegroupsEntry, ConfigTree.Regrouped, ConfigTree.Groups.ownScalars,
  ConfigTree.Within.sameItem, ConfigTree.Within.descend_regroups, ConfigTree.Regrouped.scalars,
  regrouping_irrelevant
-/
import Mathlib.Data.List.Forall2
import Mathlib.Logic.Relation
import PolicyAudit.Proofs.Observation

namespace PolicyAudit

namespace ConfigTree

/-! ### Groups -/

/-- An item that gives its list some scalars and nothing else: a scalar, or a list of them. -/
inductive IsGroup : ConfigTree → List Scalar → Prop where
  | scalar (s : Scalar) : IsGroup (.scalar s) [s]
  | list (group : List Scalar) : IsGroup (.sequence (group.map .scalar)) group

/-- A scalar or a list of groups, with all its scalars in their order. -/
inductive Groups : ConfigTree → List Scalar → Prop where
  | scalar (s : Scalar) : Groups (.scalar s) [s]
  | list {items : List ConfigTree} {groups : List (List Scalar)}
      (cut : List.Forall₂ IsGroup items groups) : Groups (.sequence items) groups.flatten

/-- Two values with the same scalars in the same order, cut into any groups. -/
def Regroups (v w : ConfigTree) : Prop :=
  ∃ scalars, Groups v scalars ∧ Groups w scalars

/-- One value of a mapping is regrouped. -/
inductive RegroupsEntry : ConfigTree → ConfigTree → Prop where
  | value (before : Mapping) (key : String) (after : Mapping) {v w : ConfigTree}
      (regroups : Regroups v w) :
      RegroupsEntry (.mapping (before ++ (key, v) :: after))
        (.mapping (before ++ (key, w) :: after))

/-- Two trees that differ only by the grouping of values under keys, at any depth. -/
def Regrouped : ConfigTree → ConfigTree → Prop :=
  Relation.ReflTransGen (Within RegroupsEntry)

variable {a b v w : ConfigTree} {held : List Scalar}

theorem filterMap_plain?_scalars (group : List Scalar) :
    (group.map scalar).filterMap plain? = group := by
  rw [List.filterMap_map]
  exact List.filterMap_some

theorem IsGroup.itemScalars (group : IsGroup v held) : v.itemScalars = held := by
  cases group with
  | scalar s => rfl
  | list => exact filterMap_plain?_scalars held

/-- Scalars are read group by group. -/
theorem flatMap_itemScalars_groups {items : List ConfigTree} {groups : List (List Scalar)}
    (cut : List.Forall₂ IsGroup items groups) :
    items.flatMap ConfigTree.itemScalars = groups.flatten := by
  induction cut with
  | nil => rfl
  | cons first _ inductionHypothesis =>
      rw [List.flatMap_cons, List.flatten_cons, first.itemScalars, inductionHypothesis]

theorem Groups.ownScalars (groups : Groups v held) : v.ownScalars = held := by
  cases groups with
  | scalar s => rfl
  | list cut => exact flatMap_itemScalars_groups cut

/-- No block is a group, so keys lead nowhere from a value with groups. -/
theorem Groups.block? (groups : Groups v held) : v.block? = none := by
  cases groups with
  | scalar s => rfl
  | list cut =>
      cases cut with
      | nil => rfl
      | cons first _ => cases first <;> rfl

theorem Regroups.ownScalars (regroups : Regroups v w) : v.ownScalars = w.ownScalars := by
  obtain ⟨scalars, left, right⟩ := regroups
  rw [left.ownScalars, right.ownScalars]

/-! ### Regrouping a part of a tree -/

/-- Two trees that a list shows in the same way if they stand in it. -/
structure SameItem (v w : ConfigTree) : Prop where
  isMapping : v.isMapping = w.isMapping
  plain? : v.plain? = w.plain?
  itemScalars : v.itemScalars = w.itemScalars

/-- Around the regrouped value there is a mapping, and a list around that shows none of its
scalars. -/
theorem Within.sameItem (within : Within RegroupsEntry v w) : SameItem v w := by
  induction within with
  | here changed =>
      cases changed
      exact ⟨rfl, rfl, rfl⟩
  | entry => exact ⟨rfl, rfl, rfl⟩
  | item before after _ inductionHypothesis =>
      refine ⟨rfl, rfl, ?_⟩
      simp only [itemScalars, List.filterMap_append, List.filterMap_cons,
        inductionHypothesis.plain?]

theorem Within.ownScalars_regroups (within : Within RegroupsEntry v w) :
    v.ownScalars = w.ownScalars := by
  cases within with
  | here changed =>
      cases changed
      rfl
  | entry => rfl
  | item before after within =>
      simp only [ownScalars, List.flatMap_append, List.flatMap_cons, within.sameItem.itemScalars]

/-- Keys end at a regrouped value, or lead nowhere from it. -/
theorem Regroups.descend (regroups : Regroups v w) (keys : List String) :
    v.descend keys = w.descend keys ∨
      ∃ x y, v.descend keys = some x ∧ w.descend keys = some y ∧ Regroups x y := by
  cases keys with
  | nil => exact .inr ⟨v, w, rfl, rfl, regroups⟩
  | cons key keys =>
      obtain ⟨scalars, old, new⟩ := regroups
      exact .inl (by simp only [ConfigTree.descend, old.block?, new.block?])

/-- Keys lead past the regrouped value to the same trees, or to the regrouped value itself, or to
what it is regrouped in. -/
theorem Within.descend_regroups (within : Within RegroupsEntry a b) (keys : List String) :
    a.descend keys = b.descend keys ∨
      ∃ x y, a.descend keys = some x ∧ b.descend keys = some y ∧
        (Regroups x y ∨ Within RegroupsEntry x y) := by
  induction within generalizing keys with
  | here changed =>
      obtain ⟨before, key, after, regroups⟩ := changed
      cases keys with
      | nil => exact .inr ⟨_, _, rfl, rfl, .inr (.here (.value before key after regroups))⟩
      | cons first keys =>
          rcases descend_entry before key after _ _ first keys with same | ⟨left, right⟩
          · exact .inl same
          · rw [left, right]
            rcases regroups.descend keys with same | ⟨x, y, old, new, ends⟩
            · exact .inl same
            · exact .inr ⟨x, y, old, new, .inl ends⟩
  | entry before key after within inductionHypothesis =>
      cases keys with
      | nil => exact .inr ⟨_, _, rfl, rfl, .inr (.entry before key after within)⟩
      | cons first keys =>
          rcases descend_entry before key after _ _ first keys with same | ⟨left, right⟩
          · exact .inl same
          · rw [left, right]
            exact inductionHypothesis keys
  | item before after within inductionHypothesis =>
      cases keys with
      | nil => exact .inr ⟨_, _, rfl, rfl, .inr (.item before after within)⟩
      | cons key keys =>
          rcases descend_item within.sameItem.isMapping before after key keys with
            same | ⟨left, right⟩
          · exact .inl same
          · rw [left, right]
            exact inductionHypothesis (key :: keys)

theorem Within.scalars_regroups (within : Within RegroupsEntry a b) (path : String) :
    a.scalars path = b.scalars path := by
  unfold ConfigTree.scalars ConfigTree.get?
  rcases within.descend_regroups (segments path) with
    same | ⟨x, y, left, right, regroups | inside⟩
  · rw [same]
  · rw [left, right]
    exact regroups.ownScalars
  · rw [left, right]
    exact inside.ownScalars_regroups

theorem Regrouped.scalars (regrouped : Regrouped a b) (path : String) :
    a.scalars path = b.scalars path := by
  induction regrouped with
  | refl => rfl
  | tail _ step inductionHypothesis =>
      exact inductionHypothesis.trans (step.scalars_regroups path)

end ConfigTree

/-- The grouping of scalars decides nothing.  Where values under keys are cut into other groups,
flat, in a list of lists or in any mixture, with empty groups or without, the same scalars are read
at every path, the same paths have values, and every scan answers the same verdict for the same
reason. -/
theorem regrouping_irrelevant {c d : ConfigTree} (regrouped : ConfigTree.Regrouped c d) :
    (∀ path, c.scalars path = d.scalars path ∧ c.hasValues path = d.hasValues path) ∧
      ∀ scan : GrantScan, scan.evaluate c = scan.evaluate d := by
  constructor
  · intro path
    refine ⟨regrouped.scalars path, ?_⟩
    rw [ConfigTree.hasValues, ConfigTree.hasValues, regrouped.scalars path]
  · intro scan
    exact scan.evaluate_of_scalars regrouped.scalars

namespace RegroupedGrants

/-- A block whose roles stand in one list. -/
def flat : ConfigTree :=
  .mapping
    [ ("access", .sequence
        [ .mapping
            [ ("roles", .sequence
                [ .scalar (.string "reader"), .scalar (.string "*"),
                  .scalar (.number (.int 1)) ]) ] ]) ]

/-- The same roles in groups, one of them empty. -/
def grouped : ConfigTree :=
  .mapping
    [ ("access", .sequence
        [ .mapping
            [ ("roles", .sequence
                [ .sequence [.scalar (.string "reader"), .scalar (.string "*")],
                  .sequence [], .scalar (.number (.int 1)) ]) ] ]) ]

theorem flat_regrouped : ConfigTree.Regrouped flat grouped := by
  have asItems : ConfigTree.Groups (.sequence
      [.scalar (.string "reader"), .scalar (.string "*"), .scalar (.number (.int 1))])
      [.string "reader", .string "*", .number (.int 1)] :=
    .list (.cons (.scalar _) (.cons (.scalar _) (.cons (.scalar _) .nil)))
  have asGroups : ConfigTree.Groups (.sequence
      [ .sequence [.scalar (.string "reader"), .scalar (.string "*")],
        .sequence [], .scalar (.number (.int 1)) ])
      [.string "reader", .string "*", .number (.int 1)] :=
    .list (.cons (.list [.string "reader", .string "*"])
      (.cons (.list []) (.cons (.scalar _) .nil)))
  exact .single (.entry [] "access" [] (.item [] []
    (.here (.value [] "roles" [] ⟨_, asItems, asGroups⟩))))

theorem regrouping_irrelevant_flat :
    ConfigTree.Regrouped flat grouped ∧
      flat.scalars "access.roles" = grouped.scalars "access.roles" ∧
      flat.hasValues "access.roles" = grouped.hasValues "access.roles" ∧
      GrantScan.evaluate ⟨["access.roles"], ["*"]⟩ flat =
        GrantScan.evaluate ⟨["access.roles"], ["*"]⟩ grouped := by
  obtain ⟨reads, scans⟩ := regrouping_irrelevant flat_regrouped
  exact ⟨flat_regrouped, (reads _).1, (reads _).2, scans _⟩

end RegroupedGrants

end PolicyAudit
