/-
Module: PolicyAudit.Proofs.AccessorAgreement
Purpose: The accessors of a configuration tree read one and the same value in agreeing ways.
Imports: PolicyAudit.Proofs.LetterCase, PolicyAudit.Proofs.ScalarPlaces
Trusted boundary: none
Main exports: ConfigTree.block?_eq_none_or, ConfigTree.StartsWith.exists_ownScalars_eq,
  ConfigTree.Enumerates, ConfigTree.exists_enumerates, ConfigTree.scalarEquals_iff,
  accessors_agree
-/
import PolicyAudit.Proofs.LetterCase
import PolicyAudit.Proofs.ScalarPlaces

namespace PolicyAudit

namespace ConfigTree

variable {t : ConfigTree} {path expected : String} {s : Scalar}

/-! ### One value -/

/-- What a value starts with decides whether it reads as a block or as a scalar; it is not both. -/
theorem block?_eq_none_or (t : ConfigTree) : t.block? = none ∨ t.ownScalar? = none := by
  cases t with
  | scalar s => exact .inl rfl
  | mapping m => exact .inr rfl
  | sequence items =>
      cases items with
      | nil => exact .inl rfl
      | cons first others =>
          cases first with
          | scalar s => exact .inl rfl
          | mapping m => exact .inr rfl
          | sequence inner => exact .inl rfl

/-- The scalar that a value starts with is the first of its scalars. -/
theorem StartsWith.exists_ownScalars_eq (starts : t.StartsWith s) :
    ∃ others, t.ownScalars = s :: others := by
  cases starts with
  | scalar => exact ⟨[], rfl⟩
  | first _ others => exact ⟨others.flatMap itemScalars, rfl⟩

/-! ### The value at a path -/

theorem mapping?_eq_none_or (t : ConfigTree) (path : String) :
    t.mapping? path = none ∨ t.scalar? path = none := by
  rw [mapping?, scalar?]
  cases t.get? path with
  | none => exact .inl rfl
  | some value => exact value.block?_eq_none_or

theorem exists_scalars_eq_of_scalar? (read : t.scalar? path = some s) :
    ∃ others, t.scalars path = s :: others := by
  obtain ⟨value, found, own⟩ := Option.bind_eq_some_iff.mp read
  rw [scalars, found]
  exact (ownScalar?_eq_some_iff.mp own).exists_ownScalars_eq

/-- Scalars with their places, each place once and in ascending order, are all that the value at
the path holds. -/
structure Enumerates (t : ConfigTree) (path : String) (listed : List (List Nat × Scalar)) :
    Prop where
  ascending : listed.Pairwise fun a b => a.1 < b.1
  mem_iff : ∀ place s, (place, s) ∈ listed ↔ t.HoldsAt path place s

/-- The scalars at a path are those that its value holds, in the order of their places. -/
theorem exists_enumerates (t : ConfigTree) (path : String) :
    ∃ listed, t.Enumerates path listed ∧ t.scalars path = listed.map Prod.snd := by
  unfold scalars
  cases found : t.get? path with
  | none =>
      refine ⟨[], ⟨.nil, fun place s => ?_⟩, rfl⟩
      simp [HoldsAt, found]
  | some value =>
      refine ⟨value.placed, ⟨pairwise_placedWithin 2 value, fun place s => ?_⟩,
        value.map_snd_placed.symm⟩
      simp only [HoldsAt, found, Option.some.injEq, exists_eq_left']
      exact ⟨scalarAt_of_mem_placed, mem_placed_of_scalarAt⟩

/-! ### Comparing -/

theorem scalarEquals_exact_iff :
    t.scalarEquals path expected false = true ↔
      ∃ s, t.scalar? path = some s ∧ s.text? = some expected := by
  rw [← Option.bind_eq_some_iff, scalarEquals]
  cases (t.scalar? path).bind (·.text?) with
  | none => simp
  | some text => simp

theorem scalarEquals_ignoringCase_iff :
    t.scalarEquals path expected true = true ↔
      ∃ s text, t.scalar? path = some s ∧ s.text? = some text ∧ Text.SameButCase text expected := by
  have compared : t.scalarEquals path expected true = true ↔
      ∃ text, (t.scalar? path).bind (·.text?) = some text ∧ Text.SameButCase text expected := by
    rw [scalarEquals]
    cases (t.scalar? path).bind (·.text?) with
    | none => simp
    | some text => simp [Text.lowerAscii_eq_iff]
  rw [compared]
  constructor
  · rintro ⟨text, read, same⟩
    obtain ⟨s, found, told⟩ := Option.bind_eq_some_iff.mp read
    exact ⟨s, text, found, told, same⟩
  · rintro ⟨s, text, found, told, same⟩
    exact ⟨text, Option.bind_eq_some_iff.mpr ⟨s, found, told⟩, same⟩

/-- What has the expected text has it in every case as well. -/
theorem scalarEquals_ignoringCase (equal : t.scalarEquals path expected false = true) :
    t.scalarEquals path expected true = true := by
  obtain ⟨s, found, told⟩ := scalarEquals_exact_iff.mp equal
  exact scalarEquals_ignoringCase_iff.mpr ⟨s, expected, found, told, .refl expected⟩

end ConfigTree

open ConfigTree in
/-- The accessors of a tree agree.  Where a path leads nowhere all of them are empty.  A value reads
as a block or as a scalar and not as both, its scalar is the first of its scalars, and it has values
if one of them is populated.  Without regard to case a text equals what it equals exactly, and
otherwise what differs by the case of ASCII letters.  The scalars are those that the value holds as
itself, in its list or in a list of that list, each once and in order. -/
theorem accessors_agree (t : ConfigTree) (path : String) :
    (t.get? path = none →
      t.hasPath path = false ∧ t.hasValues path = false ∧ t.mapping? path = none ∧
        t.scalar? path = none ∧ t.scalars path = []) ∧
    (t.mapping? path = none ∨ t.scalar? path = none) ∧
    (∀ s, t.scalar? path = some s → ∃ others, t.scalars path = s :: others) ∧
    (t.hasValues path = true ↔ ∃ s ∈ t.scalars path, s.Populated) ∧
    (∀ expected, t.scalarEquals path expected false = true →
      t.scalarEquals path expected true = true) ∧
    (∀ expected, t.scalarEquals path expected true = true ↔
      ∃ s, t.scalar? path = some s ∧ s ≠ .null ∧
        ∃ text, s.text? = some text ∧ Text.SameButCase text expected) ∧
    ∃ listed, t.Enumerates path listed ∧ t.scalars path = listed.map Prod.snd := by
  refine ⟨?_, t.mapping?_eq_none_or path, fun s => exists_scalars_eq_of_scalar?, ?_,
    fun expected => scalarEquals_ignoringCase, ?_, t.exists_enumerates path⟩
  · intro missing
    simp [hasPath, hasValues, mapping?, scalar?, scalars, missing]
  · simp only [hasValues, List.any_eq_true, Scalar.isPopulated_iff]
  · intro expected
    rw [scalarEquals_ignoringCase_iff]
    constructor
    · rintro ⟨s, text, found, told, same⟩
      have notNull : s ≠ .null := by
        rintro rfl
        cases told
      exact ⟨s, found, notNull, text, told, same⟩
    · rintro ⟨s, found, -, text, told, same⟩
      exact ⟨s, text, found, told, same⟩

namespace AccessorAgreement

/-- A block with a listed mode, after which come a list and a block. -/
def sample : ConfigTree :=
  .mapping
    [ ("acls", .sequence
        [ .mapping
            [ ("mode", .sequence
                [ .scalar (.string "Deny"), .sequence [.scalar .null, .scalar (.bool true)],
                  .mapping [("mode", .scalar .null)] ]) ] ]) ]

end AccessorAgreement

open AccessorAgreement in
/-- The mode is read by all accessors of scalars, and below it nothing is. -/
theorem accessors_agree_ofMode :
    (sample.get? "acls.mode.x" = none ∧ sample.scalars "acls.mode.x" = []) ∧
    (sample.scalar? "acls.mode" = some (.string "Deny") ∧
      ∃ others, sample.scalars "acls.mode" = .string "Deny" :: others) ∧
    (sample.scalarEquals "acls.mode" "Deny" false = true ∧
      sample.scalarEquals "acls.mode" "Deny" true = true) ∧
    sample.hasValues "acls.mode" = true := by
  obtain ⟨missing, -⟩ := accessors_agree sample "acls.mode.x"
  obtain ⟨-, -, leads, populated, ignoring, -, -⟩ := accessors_agree sample "acls.mode"
  have nothing : sample.get? "acls.mode.x" = none := rfl
  have mode : sample.scalar? "acls.mode" = some (.string "Deny") := rfl
  have equals : sample.scalarEquals "acls.mode" "Deny" false = true := by decide
  obtain ⟨others, scalars⟩ := leads _ mode
  have first : Scalar.string "Deny" ∈ sample.scalars "acls.mode" := scalars ▸ List.mem_cons_self
  have speaks : Scalar.Populated (.string "Deny") :=
    .string (by decide : 'D' ∈ ['D', 'e', 'n', 'y']) (by decide)
  exact ⟨⟨nothing, (missing nothing).2.2.2.2⟩, ⟨mode, others, scalars⟩,
    ⟨equals, ignoring "Deny" equals⟩, populated.mpr ⟨_, first, speaks⟩⟩

end PolicyAudit
