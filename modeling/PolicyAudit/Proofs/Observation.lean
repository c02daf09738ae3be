/-
Module: PolicyAudit.Proofs.Observation
Purpose: What rules see of a configuration, and that rules tell nothing else apart.
Imports: PolicyAudit.Rule.Pattern
Trusted boundary: none
Main exports: ConfigTree.Face, ConfigTree.Alike, ConfigTree.Alike.get?, ConfigTree.descend_entry,
  ConfigTree.descend_item, ConfigTree.Interchangeable, ConfigTree.Interchangeable.item,
  ConfigTree.Within, ConfigTree.Within.interchangeable, Gate.pass?_of_alike,
  Pattern.evaluate_of_alike
-/
import PolicyAudit.Rule.Pattern

namespace PolicyAudit

namespace ConfigTree

/-- What a tree shows at the end of a path: whether it reads as a block, and its scalars. -/
structure Face where
  isBlock : Bool
  scalar? : Option Scalar
  scalars : List Scalar
deriving Repr, DecidableEq

def face (t : ConfigTree) : Face where
  isBlock := t.block?.isSome
  scalar? := t.ownScalar?
  scalars := t.ownScalars

/-- Two trees that show the same wherever keys lead. -/
def Alike (a b : ConfigTree) : Prop :=
  ∀ keys, (a.descend keys).map face = (b.descend keys).map face

namespace Alike

variable {a b c : ConfigTree}

theorem refl (a : ConfigTree) : Alike a a :=
  fun _ => rfl

theorem symm (alike : Alike a b) : Alike b a :=
  fun keys => (alike keys).symm

theorem trans (left : Alike a b) (right : Alike b c) : Alike a c :=
  fun keys => (left keys).trans (right keys)

/-! ### Reading -/

theorem face_eq (alike : Alike a b) : a.face = b.face :=
  Option.some.inj (alike [])

theorem block?_isSome (alike : Alike a b) : a.block?.isSome = b.block?.isSome :=
  congrArg Face.isBlock alike.face_eq

theorem ownScalar? (alike : Alike a b) : a.ownScalar? = b.ownScalar? :=
  congrArg Face.scalar? alike.face_eq

theorem ownScalars (alike : Alike a b) : a.ownScalars = b.ownScalars :=
  congrArg Face.scalars alike.face_eq

/-- Keys lead to nothing in both trees, or to trees that are alike again. -/
theorem descend (alike : Alike a b) (keys : List String) :
    (a.descend keys = none ∧ b.descend keys = none) ∨
      ∃ x y, a.descend keys = some x ∧ b.descend keys = some y ∧ Alike x y := by
  have same := alike keys
  have further : ∀ more, ((a.descend keys).bind (·.descend more)).map face =
      ((b.descend keys).bind (·.descend more)).map face := by
    intro more
    rw [← descend_append, ← descend_append]
    exact alike (keys ++ more)
  cases left : a.descend keys with
  | none =>
      cases right : b.descend keys with
      | none => exact .inl ⟨rfl, rfl⟩
      | some y => simp [left, right] at same
  | some x =>
      cases right : b.descend keys with
      | none => simp [left, right] at same
      | some y =>
          rw [left, right] at further
          exact .inr ⟨x, y, rfl, rfl, further⟩

theorem get? (alike : Alike a b) (path : String) :
    (a.get? path = none ∧ b.get? path = none) ∨
      ∃ x y, a.get? path = some x ∧ b.get? path = some y ∧ Alike x y :=
  alike.descend (segments path)

theorem scalar? (alike : Alike a b) (path : String) : a.scalar? path = b.scalar? path := by
  rcases alike.get? path with ⟨left, right⟩ | ⟨x, y, left, right, found⟩
  · simp [ConfigTree.scalar?, left, right]
  · simp [ConfigTree.scalar?, left, right, found.ownScalar?]

theorem scalars (alike : Alike a b) (path : String) : a.scalars path = b.scalars path := by
  rcases alike.get? path with ⟨left, right⟩ | ⟨x, y, left, right, found⟩
  · simp [ConfigTree.scalars, left, right]
  · simp [ConfigTree.scalars, left, right, found.ownScalars]

theorem hasValues (alike : Alike a b) (path : String) : a.hasValues path = b.hasValues path := by
  rw [ConfigTree.hasValues, ConfigTree.hasValues, alike.scalars path]

/-- Blocks that are alike have the same keys. -/
theorem contains (alike : Alike a b) {m n : Mapping} (left : a.block? = some m)
    (right : b.block? = some n) (key : String) : m.contains key = n.contains key := by
  have same := congrArg Option.isSome (alike [key])
  simpa [ConfigTree.descend, left, right, Mapping.contains] using same

/-- The blocks at a path are absent from both trees, or alike. -/
theorem governedBlock? (alike : Alike a b) (path : String) :
    (governedBlock? a path = none ∧ governedBlock? b path = none) ∨
      ∃ x y, governedBlock? a path = some x ∧ governedBlock? b path = some y ∧ Alike x y := by
  unfold PolicyAudit.governedBlock?
  rcases alike.get? path with ⟨left, right⟩ | ⟨x, y, left, right, found⟩
  · simp [left, right]
  · rw [left, right, Option.filter_some, Option.filter_some, found.block?_isSome]
    split
    · exact .inr ⟨x, y, rfl, rfl, found⟩
    · exact .inl ⟨rfl, rfl⟩

/-- The blocks at a path have the same keys, where there are any. -/
theorem mapping? (alike : Alike a b) (path : String) :
    (a.mapping? path = none ∧ b.mapping? path = none) ∨
      ∃ m n, a.mapping? path = some m ∧ b.mapping? path = some n ∧
        ∀ key, m.contains key = n.contains key := by
  unfold ConfigTree.mapping?
  rcases alike.get? path with ⟨left, right⟩ | ⟨x, y, left, right, found⟩
  · simp [left, right]
  · have sameKind := found.block?_isSome
    cases leftBlock : x.block? with
    | none =>
        rw [leftBlock] at sameKind
        have rightBlock : y.block? = none := by simpa using sameKind.symm
        simp [left, right, leftBlock, rightBlock]
    | some m =>
        rw [leftBlock] at sameKind
        obtain ⟨n, rightBlock⟩ := Option.isSome_iff_exists.mp sameKind.symm
        simp [left, right, leftBlock, rightBlock, found.contains leftBlock rightBlock]

end Alike

/-! ### Replacing a part of a tree -/

section

variable {v w : ConfigTree}

/-- The tree is a mapping itself, not a list of them. -/
def isMapping : ConfigTree → Bool
  | mapping _ => true
  | _ => false

/-- A list shows what its items show, the first one above all. -/
theorem face_sequence_cons (first : ConfigTree) (others : List ConfigTree) :
    (ConfigTree.sequence (first :: others)).face =
      ⟨first.isMapping, first.plain?, (first :: others).flatMap itemScalars⟩ := by
  cases first <;> rfl

/-- Keys lead through a list into the mapping that it starts with. -/
theorem descend_sequence_cons (first : ConfigTree) (others : List ConfigTree) (key : String)
    (keys : List String) :
    (ConfigTree.sequence (first :: others)).descend (key :: keys) =
      if first.isMapping then first.descend (key :: keys) else none := by
  cases first <;> rfl

/-- The first value with a key is untouched by a change of one value, or is the changed one. -/
theorem find?_change (before : Mapping) (key : String) (after : Mapping) (v w : ConfigTree)
    (sought : String) :
    Mapping.find? (before ++ (key, v) :: after) sought =
        Mapping.find? (before ++ (key, w) :: after) sought ∨
      (Mapping.find? (before ++ (key, v) :: after) sought = some v ∧
        Mapping.find? (before ++ (key, w) :: after) sought = some w) := by
  induction before with
  | nil =>
      by_cases here : key = sought
      · exact .inr ⟨if_pos here, if_pos here⟩
      · exact .inl ((if_neg here).trans (if_neg here).symm)
  | cons entry before inductionHypothesis =>
      by_cases here : entry.1 = sought
      · exact .inl ((if_pos here).trans (if_pos here).symm)
      · simpa [Mapping.find?, here] using inductionHypothesis

/-- Keys lead past a changed value of a mapping to the same tree, or into it. -/
theorem descend_entry (before : Mapping) (key : String) (after : Mapping) (v w : ConfigTree)
    (first : String) (keys : List String) :
    (mapping (before ++ (key, v) :: after)).descend (first :: keys) =
        (mapping (before ++ (key, w) :: after)).descend (first :: keys) ∨
      ((mapping (before ++ (key, v) :: after)).descend (first :: keys) = v.descend keys ∧
        (mapping (before ++ (key, w) :: after)).descend (first :: keys) = w.descend keys) := by
  simp only [ConfigTree.descend, block?, Option.bind_some]
  rcases find?_change before key after v w first with same | ⟨left, right⟩
  · exact .inl (by rw [same])
  · exact .inr (by rw [left, right]; exact ⟨rfl, rfl⟩)

/-- Keys lead past a changed item of a list to the same tree, or into it if the list starts with
it. -/
theorem descend_item (sameKind : v.isMapping = w.isMapping) (before after : List ConfigTree)
    (key : String) (keys : List String) :
    (sequence (before ++ v :: after)).descend (key :: keys) =
        (sequence (before ++ w :: after)).descend (key :: keys) ∨
      ((sequence (before ++ v :: after)).descend (key :: keys) = v.descend (key :: keys) ∧
        (sequence (before ++ w :: after)).descend (key :: keys) = w.descend (key :: keys)) := by
  cases before with
  | nil =>
      rw [List.nil_append, List.nil_append, descend_sequence_cons, descend_sequence_cons, sameKind]
      cases w.isMapping with
      | false => exact .inl rfl
      | true => exact .inr ⟨rfl, rfl⟩
  | cons first before =>
      rw [List.cons_append, List.cons_append, descend_sequence_cons, descend_sequence_cons]
      exact .inl rfl

/-- Changing a value under a key into one that is alike keeps the mapping alike. -/
theorem Alike.mapping_entry (alike : Alike v w) (before : Mapping) (key : String)
    (after : Mapping) :
    Alike (.mapping (before ++ (key, v) :: after)) (.mapping (before ++ (key, w) :: after)) := by
  intro keys
  cases keys with
  | nil => rfl
  | cons first keys =>
      rcases descend_entry before key after v w first keys with same | ⟨left, right⟩
      · rw [same]
      · rw [left, right]
        exact alike keys

/-- Trees that show the same wherever keys lead from them, and the same as items of a list. -/
structure Interchangeable (v w : ConfigTree) : Prop where
  alike : Alike v w
  isMapping : v.isMapping = w.isMapping
  plain? : v.plain? = w.plain?
  itemScalars : v.itemScalars = w.itemScalars

/-- Mappings show no scalars in the lists that they stand in. -/
theorem Alike.interchangeable {m n : Mapping} (alike : Alike (.mapping m) (.mapping n)) :
    Interchangeable (.mapping m) (.mapping n) :=
  ⟨alike, rfl, rfl, rfl⟩

namespace Interchangeable

theorem entry (same : Interchangeable v w) (before : Mapping) (key : String) (after : Mapping) :
    Interchangeable (.mapping (before ++ (key, v) :: after))
      (.mapping (before ++ (key, w) :: after)) :=
  (same.alike.mapping_entry before key after).interchangeable

/-- Only what an item shows counts for its list, and what lies below it if it comes first. -/
theorem item (same : Interchangeable v w) (before after : List ConfigTree) :
    Interchangeable (.sequence (before ++ v :: after)) (.sequence (before ++ w :: after)) where
  alike := by
    intro keys
    cases keys with
    | nil =>
        cases before with
        | nil =>
            simp only [List.nil_append, ConfigTree.descend, Option.map_some, face_sequence_cons,
              List.flatMap_cons, same.isMapping, same.plain?, same.itemScalars]
        | cons first before =>
            simp only [List.cons_append, ConfigTree.descend, Option.map_some, face_sequence_cons,
              List.flatMap_cons, List.flatMap_append, same.itemScalars]
    | cons key keys =>
        rcases descend_item same.isMapping before after key keys with unchanged | ⟨left, right⟩
        · rw [unchanged]
        · rw [left, right]
          exact same.alike (key :: keys)
  isMapping := rfl
  plain? := rfl
  itemScalars := by
    simp only [ConfigTree.itemScalars, List.filterMap_append, List.filterMap_cons, same.plain?]

end Interchangeable

/-- A tree is changed in one place: as a whole, or inside a value under a key or an item of a
list. -/
inductive Within (change : ConfigTree → ConfigTree → Prop) : ConfigTree → ConfigTree → Prop where
  | here {v w : ConfigTree} (changed : change v w) : Within change v w
  | entry (before : Mapping) (key : String) (after : Mapping) {v w : ConfigTree}
      (within : Within change v w) :
      Within change (.mapping (before ++ (key, v) :: after)) (.mapping (before ++ (key, w) :: after))
  | item (before after : List ConfigTree) {v w : ConfigTree} (within : Within change v w) :
      Within change (.sequence (before ++ v :: after)) (.sequence (before ++ w :: after))

/-- A change in one place is not seen from outside if it is not seen there. -/
theorem Within.interchangeable {change : ConfigTree → ConfigTree → Prop}
    (unseen : ∀ v w, change v w → Interchangeable v w) {a b : ConfigTree}
    (within : Within change a b) : Interchangeable a b := by
  induction within with
  | here changed => exact unseen _ _ changed
  | entry before key after _ inductionHypothesis => exact inductionHypothesis.entry before key after
  | item before after _ inductionHypothesis => exact inductionHypothesis.item before after

end

end ConfigTree

/-! ### Rules -/

variable {a b : ConfigTree}

/-- A gate stops both trees for the same fault, or lets blocks through that are alike. -/
theorem Gate.pass?_of_alike (gate : Gate) (alike : a.Alike b) :
    (∃ fault, gate.pass? a = .error fault ∧ gate.pass? b = .error fault) ∨
      ∃ x y, gate.pass? a = .ok x ∧ gate.pass? b = .ok y ∧ x.Alike y := by
  unfold Gate.pass?
  rcases alike.governedBlock? gate.block with ⟨left, right⟩ | ⟨x, y, left, right, found⟩
  · exact .inl ⟨.blockAbsent, by rw [left], by rw [right]⟩
  · simp only [left, right, found.scalar? gate.discriminator]
    cases (y.scalar? gate.discriminator).bind (·.text?) with
    | none => exact .inl ⟨.discriminatorUnset, rfl, rfl⟩
    | some actual =>
        dsimp only
        split
        · exact .inr ⟨x, y, rfl, rfl, found⟩
        · exact .inl ⟨.discriminatorIs actual, rfl, rfl⟩

theorem ExceptionGate.evaluate_of_alike (rule : ExceptionGate) (alike : a.Alike b) :
    rule.evaluate a = rule.evaluate b := by
  unfold ExceptionGate.evaluate
  rcases rule.pass?_of_alike alike with ⟨fault, left, right⟩ | ⟨x, y, left, right, found⟩
  · simp only [left, right]
  · simp only [left, right, found.scalars rule.exceptionField]

theorem RestrictionGate.evaluate_of_alike (rule : RestrictionGate) (alike : a.Alike b) :
    rule.evaluate a = rule.evaluate b := by
  unfold RestrictionGate.evaluate
  rcases rule.pass?_of_alike alike with ⟨fault, left, right⟩ | ⟨x, y, left, right, found⟩
  · simp only [left, right]
  · have restricts : x.hasValues = y.hasValues := funext found.hasValues
    simp only [left, right, restricts]

/-- A scan looks at nothing but the scalars in its fields. -/
theorem GrantScan.evaluate_of_scalars (rule : GrantScan)
    (same : ∀ field, a.scalars field = b.scalars field) : rule.evaluate a = rule.evaluate b := by
  have sameHit : rule.hit? a = rule.hit? b := by
    unfold GrantScan.hit? GrantScan.firstDenied?
    simp only [same]
  rw [GrantScan.evaluate, GrantScan.evaluate, sameHit]

theorem GrantScan.evaluate_of_alike (rule : GrantScan) (alike : a.Alike b) :
    rule.evaluate a = rule.evaluate b :=
  rule.evaluate_of_scalars alike.scalars

theorem RequiredKeys.evaluate_of_alike (rule : RequiredKeys) (alike : a.Alike b) :
    rule.evaluate a = rule.evaluate b := by
  unfold RequiredKeys.evaluate
  rcases alike.mapping? rule.block with ⟨left, right⟩ | ⟨m, n, left, right, sameKeys⟩
  · rw [left, right]
  · simp only [left, right, sameKeys]

theorem RequiredField.evaluate_of_alike (rule : RequiredField) (alike : a.Alike b) :
    rule.evaluate a = rule.evaluate b := by
  unfold RequiredField.evaluate
  rcases alike.governedBlock? rule.block with ⟨left, right⟩ | ⟨x, y, left, right, found⟩
  · rw [left, right]
  · simp only [left, right, found.scalar? rule.field]

/-- No pattern tells trees apart that are alike. -/
theorem Pattern.evaluate_of_alike (pattern : Pattern) (alike : a.Alike b) :
    pattern.evaluate a = pattern.evaluate b := by
  cases pattern with
  | exceptionGate rule => exact rule.evaluate_of_alike alike
  | restrictionGate rule => exact rule.evaluate_of_alike alike
  | grantScan rule => exact rule.evaluate_of_alike alike
  | requiredKeys rule => exact rule.evaluate_of_alike alike
  | requiredField rule => exact rule.evaluate_of_alike alike

end PolicyAudit
