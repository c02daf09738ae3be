/-
Module: PolicyAudit.Proofs.ScalarPlaces
Purpose: The shapes in which values are read: populated scalars, blocks, leading scalars, and the
  places of the scalars in a value with their order.
Imports: Mathlib, PolicyAudit.Config.Path
Trusted boundary: none
Main exports: Scalar.Populated, ConfigTree.ReadsAs, ConfigTree.IsBlock, ConfigTree.StartsWith,
  ConfigTree.ScalarAt, ConfigTree.ScalarAt.eq_scalar_or_list, ConfigTree.placed,
  ConfigTree.HoldsAt, ConfigTree.RetainedIn, ConfigTree.map_snd_placed,
  ConfigTree.pairwise_placedWithin, ConfigTree.mem_ownScalars_iff, ConfigTree.mem_scalars_iff,
  ConfigTree.retainedIn_iff, ConfigTree.hasValues_iff, ConfigTree.find?_ownScalars_eq_some_iff,
  ConfigTree.find?_scalars_eq_some_iff
-/
import Mathlib
import PolicyAudit.Config.Path

namespace PolicyAudit

/-- A truth value, a number, or a text with a character that is not blank. -/
inductive Scalar.Populated : Scalar → Prop where
  | bool (value : Bool) : Populated (.bool value)
  | number (value : Json.Number) : Populated (.number value)
  | string {text : String} {c : Char} (member : c ∈ text.toList) (shows : Text.isBlank c = false) :
      Populated (.string text)

theorem Scalar.isPopulated_iff {s : Scalar} : s.isPopulated = true ↔ s.Populated := by
  cases s with
  | null => exact iff_of_false Bool.false_ne_true (fun populated => nomatch populated)
  | bool value => exact iff_of_true rfl (.bool value)
  | number value => exact iff_of_true rfl (.number value)
  | string text =>
      rw [isPopulated, Bool.not_eq_true', Text.isBlankText_eq_false_iff]
      constructor
      · rintro ⟨c, member, shows⟩
        exact .string member shows
      · intro populated
        cases populated with
        | string member shows => exact ⟨_, member, shows⟩

namespace ConfigTree

/-! ### Shapes -/

/-- A mapping, or a list that starts with it. -/
inductive ReadsAs : ConfigTree → Mapping → Prop where
  | mapping (m : Mapping) : ReadsAs (.mapping m) m
  | first (m : Mapping) (others : List ConfigTree) : ReadsAs (.sequence (.mapping m :: others)) m

/-- A mapping, or a list that starts with one. -/
inductive IsBlock : ConfigTree → Prop where
  | mapping (m : Mapping) : IsBlock (.mapping m)
  | first (m : Mapping) (others : List ConfigTree) : IsBlock (.sequence (.mapping m :: others))

/-- A scalar, or a list that starts with it. -/
inductive StartsWith : ConfigTree → Scalar → Prop where
  | scalar (s : Scalar) : StartsWith (.scalar s) s
  | first (s : Scalar) (others : List ConfigTree) : StartsWith (.sequence (.scalar s :: others)) s

theorem block?_eq_some_iff {t : ConfigTree} {m : Mapping} : t.block? = some m ↔ t.ReadsAs m := by
  constructor
  · intro block
    unfold block? at block
    split at block
    · exact Option.some.inj block ▸ .mapping _
    · exact Option.some.inj block ▸ .first _ _
    · contradiction
  · rintro (_ | _) <;> rfl

theorem isBlock_iff {t : ConfigTree} : t.IsBlock ↔ ∃ m, t.ReadsAs m := by
  constructor
  · rintro (m | ⟨m, others⟩)
    · exact ⟨m, .mapping m⟩
    · exact ⟨m, .first m others⟩
  · rintro ⟨m, _ | ⟨_, others⟩⟩
    · exact .mapping m
    · exact .first m others

theorem block?_isSome_iff {t : ConfigTree} : t.block?.isSome = true ↔ t.IsBlock := by
  simp only [Option.isSome_iff_exists, block?_eq_some_iff, isBlock_iff]

theorem ownScalar?_eq_some_iff {t : ConfigTree} {s : Scalar} :
    t.ownScalar? = some s ↔ t.StartsWith s := by
  constructor
  · intro own
    unfold ownScalar? at own
    split at own
    · exact Option.some.inj own ▸ .scalar _
    · exact Option.some.inj own ▸ .first _ _
    · contradiction
  · rintro (_ | _) <;> rfl

/-! ### Places -/

/-- A scalar of a value and its place: it is the value, or the item with this number in the list
that the value is, or an item of a list that is an item itself.  Lists are not read deeper than
that, and mappings are not read at all. -/
inductive ScalarAt : ConfigTree → List Nat → Scalar → Prop where
  | whole (s : Scalar) : ScalarAt (.scalar s) [] s
  | item {items : List ConfigTree} {i : Nat} {s : Scalar} (here : items[i]? = some (.scalar s)) :
      ScalarAt (.sequence items) [i] s
  | nested {items inner : List ConfigTree} {i j : Nat} {s : Scalar}
      (list : items[i]? = some (.sequence inner)) (here : inner[j]? = some (.scalar s)) :
      ScalarAt (.sequence items) [i, j] s

/-- What a value starts with stands in it. -/
theorem StartsWith.exists_scalarAt {t : ConfigTree} {s : Scalar} (starts : t.StartsWith s) :
    ∃ place, t.ScalarAt place s := by
  cases starts with
  | scalar => exact ⟨[], .whole s⟩
  | first _ others => exact ⟨[0], .item rfl⟩

/-- A value that holds a scalar is this scalar, or a list that is not empty. -/
theorem ScalarAt.eq_scalar_or_list {t : ConfigTree} {place : List Nat} {s : Scalar}
    (stands : t.ScalarAt place s) :
    t = .scalar s ∨ ∃ first others, t = .sequence (first :: others) := by
  have list {items : List ConfigTree} {i : Nat} {item : ConfigTree} (here : items[i]? = some item) :
      ∃ first others, sequence items = .sequence (first :: others) := by
    obtain ⟨first, others, rfl⟩ := List.exists_cons_of_ne_nil
      (List.ne_nil_of_mem (List.mem_of_getElem? here))
    exact ⟨first, others, rfl⟩
  cases stands with
  | whole => exact .inl rfl
  | item here => exact .inr (list here)
  | nested here _ => exact .inr (list here)

/-- The scalars of a value through so many lists, each with its place, in the order in which they
are written. -/
def placedWithin : Nat → ConfigTree → List (List Nat × Scalar)
  | _, scalar s => [([], s)]
  | depth + 1, sequence items =>
      items.zipIdx.flatMap fun (item, i) =>
        (placedWithin depth item).map fun (place, s) => (i :: place, s)
  | _, _ => []

/-- The scalars of a value with their places. -/
def placed : ConfigTree → List (List Nat × Scalar) :=
  placedWithin 2

section

variable {depth : Nat} {items : List ConfigTree} {place : List Nat} {s : Scalar}

theorem mem_placedWithin_sequence :
    (place, s) ∈ placedWithin (depth + 1) (.sequence items) ↔
      ∃ i item inside, items[i]? = some item ∧ (inside, s) ∈ placedWithin depth item ∧
        place = i :: inside := by
  simp only [placedWithin, List.mem_flatMap, List.mem_map, Prod.exists,
    List.mem_zipIdx_iff_getElem?, Prod.mk.injEq]
  constructor
  · rintro ⟨item, i, listed, inside, _, member, rfl, rfl⟩
    exact ⟨i, item, inside, listed, member, rfl⟩
  · rintro ⟨i, item, inside, listed, member, rfl⟩
    exact ⟨item, i, listed, inside, s, member, rfl, rfl⟩

/-- Through no list only a scalar itself is read. -/
theorem mem_placedWithin_zero {t : ConfigTree} :
    (place, s) ∈ placedWithin 0 t ↔ t = .scalar s ∧ place = [] := by
  cases t with
  | scalar found => simp [placedWithin, and_comm, eq_comm]
  | mapping m => simp [placedWithin]
  | sequence items => simp [placedWithin]

theorem scalarAt_of_mem_placed {t : ConfigTree} (member : (place, s) ∈ t.placed) :
    t.ScalarAt place s := by
  cases t with
  | scalar found =>
      obtain ⟨rfl, rfl⟩ : place = [] ∧ s = found := by
        simpa [placed, placedWithin] using member
      exact .whole s
  | mapping m => simp [placed, placedWithin] at member
  | sequence items =>
      obtain ⟨i, item, inside, listed, within, rfl⟩ := mem_placedWithin_sequence.mp member
      cases item with
      | scalar found =>
          obtain ⟨rfl, rfl⟩ : inside = [] ∧ s = found := by
            simpa [placedWithin] using within
          exact .item listed
      | mapping m => simp [placedWithin] at within
      | sequence inner =>
          obtain ⟨j, innermost, rest, here, last, rfl⟩ := mem_placedWithin_sequence.mp within
          obtain ⟨rfl, rfl⟩ := mem_placedWithin_zero.mp last
          exact .nested listed here

theorem mem_placed_of_scalarAt {t : ConfigTree} (stands : t.ScalarAt place s) :
    (place, s) ∈ t.placed := by
  cases stands with
  | whole => exact List.mem_singleton_self _
  | item here => exact mem_placedWithin_sequence.mpr ⟨_, _, [], here, by simp [placedWithin], rfl⟩
  | nested list here =>
      refine mem_placedWithin_sequence.mpr ⟨_, _, _, list, ?_, rfl⟩
      exact mem_placedWithin_sequence.mpr
        ⟨_, _, [], here, mem_placedWithin_zero.mpr ⟨rfl, rfl⟩, rfl⟩

/-- At one place stands one scalar. -/
theorem ScalarAt.unique {t : ConfigTree} {other : Scalar} (first : t.ScalarAt place s)
    (second : t.ScalarAt place other) : s = other := by
  cases first with
  | whole =>
      cases second
      rfl
  | item here =>
      cases second with
      | item there =>
          rw [here] at there
          exact scalar.inj (Option.some.inj there)
  | nested list here =>
      cases second with
      | nested list' there =>
          rw [list] at list'
          obtain rfl := sequence.inj (Option.some.inj list')
          rw [here] at there
          exact scalar.inj (Option.some.inj there)

end

/-- Without the places the scalars are left as they are read. -/
theorem map_snd_placedWithin_sequence (depth : Nat) (items : List ConfigTree) :
    (placedWithin (depth + 1) (.sequence items)).map Prod.snd =
      items.flatMap fun item => (placedWithin depth item).map Prod.snd := by
  rw [placedWithin, List.map_flatMap]
  conv_rhs => rw [← List.zipIdx_map_fst 0 items, List.flatMap_map]
  refine List.flatMap_congr fun ⟨item, i⟩ _ => ?_
  rw [List.map_map]
  rfl

theorem map_snd_placedWithin_zero (t : ConfigTree) :
    (placedWithin 0 t).map Prod.snd = t.plain?.toList := by
  cases t <;> rfl

theorem map_snd_placedWithin_one (t : ConfigTree) :
    (placedWithin 1 t).map Prod.snd = t.itemScalars := by
  cases t with
  | scalar s => rfl
  | mapping m => rfl
  | sequence items =>
      rw [map_snd_placedWithin_sequence, itemScalars, List.filterMap_eq_flatMap_toList]
      simp only [map_snd_placedWithin_zero]

theorem map_snd_placed (t : ConfigTree) : t.placed.map Prod.snd = t.ownScalars := by
  cases t with
  | scalar s => rfl
  | mapping m => rfl
  | sequence items =>
      rw [placed, map_snd_placedWithin_sequence, ownScalars]
      simp only [map_snd_placedWithin_one]

theorem pairwise_snd_zipIdx {α : Type} (xs : List α) (start : Nat) :
    (xs.zipIdx start).Pairwise fun a b => a.2 < b.2 := by
  induction xs generalizing start with
  | nil => exact .nil
  | cons x xs inductionHypothesis =>
      rw [List.zipIdx_cons, List.pairwise_cons]
      exact ⟨fun _ later => List.le_snd_of_mem_zipIdx later, inductionHypothesis (start + 1)⟩

/-- The places ascend from scalar to scalar. -/
theorem pairwise_placedWithin (depth : Nat) (t : ConfigTree) :
    (placedWithin depth t).Pairwise fun a b => a.1 < b.1 := by
  induction depth generalizing t with
  | zero => cases t <;> simp [placedWithin]
  | succ depth inductionHypothesis =>
      cases t with
      | scalar s => simp [placedWithin]
      | mapping m => simp [placedWithin]
      | sequence items =>
          rw [placedWithin, List.pairwise_flatMap]
          constructor
          · intro ⟨item, i⟩ _
            rw [List.pairwise_map]
            exact (inductionHypothesis item).imp fun before =>
              List.cons_lt_cons_iff.mpr (.inr ⟨rfl, before⟩)
          · refine (pairwise_snd_zipIdx items 0).imp fun before a inFirst b inSecond => ?_
            obtain ⟨_, -, rfl⟩ := List.mem_map.mp inFirst
            obtain ⟨_, -, rfl⟩ := List.mem_map.mp inSecond
            exact List.cons_lt_cons_iff.mpr (.inl before)

/-! ### What is read -/

/-- In the value at a path the scalar stands at the place. -/
def HoldsAt (t : ConfigTree) (path : String) (place : List Nat) (s : Scalar) : Prop :=
  ∃ value, t.get? path = some value ∧ value.ScalarAt place s

/-- Every scalar that the tree holds at one of the paths stands in the other tree at one of its
paths, perhaps at another place. -/
def RetainedIn (t : ConfigTree) (paths : List String) (other : ConfigTree)
    (paths' : List String) : Prop :=
  ∀ path ∈ paths, ∀ place s, t.HoldsAt path place s →
    ∃ path' ∈ paths', ∃ place', other.HoldsAt path' place' s

section

variable {t : ConfigTree} {s : Scalar}

theorem mem_ownScalars_iff : s ∈ t.ownScalars ↔ ∃ place, t.ScalarAt place s := by
  rw [← map_snd_placed, List.mem_map]
  constructor
  · rintro ⟨⟨place, _⟩, member, rfl⟩
    exact ⟨place, scalarAt_of_mem_placed member⟩
  · rintro ⟨place, stands⟩
    exact ⟨(place, s), mem_placed_of_scalarAt stands, rfl⟩

theorem mem_scalars_iff {path : String} : s ∈ t.scalars path ↔ ∃ place, t.HoldsAt path place s := by
  simp only [scalars, HoldsAt]
  cases t.get? path with
  | none => simp
  | some value => simp [mem_ownScalars_iff]

/-- The same said of the scalars that are read, without their places. -/
theorem retainedIn_iff {other : ConfigTree} {paths paths' : List String} :
    t.RetainedIn paths other paths' ↔
      ∀ path ∈ paths, ∀ s ∈ t.scalars path, ∃ path' ∈ paths', s ∈ other.scalars path' := by
  simp only [RetainedIn, mem_scalars_iff]
  constructor
  · rintro retained path listed s ⟨place, holds⟩
    exact retained path listed place s holds
  · intro retained path listed place s holds
    exact retained path listed s ⟨place, holds⟩

theorem hasValues_iff {path : String} :
    t.hasValues path = true ↔ ∃ place s, t.HoldsAt path place s ∧ s.Populated := by
  simp only [hasValues, List.any_eq_true, mem_scalars_iff, Scalar.isPopulated_iff]
  constructor
  · rintro ⟨s, ⟨place, holds⟩, populated⟩
    exact ⟨place, s, holds, populated⟩
  · rintro ⟨place, s, holds, populated⟩
    exact ⟨s, ⟨place, holds⟩, populated⟩

variable {p : Scalar → Bool}

/-- The scalar that a search finds has a place, and none with the property stands before it. -/
theorem exists_scalarAt_of_find? (found : t.ownScalars.find? p = some s) :
    ∃ place, t.ScalarAt place s ∧ p s = true ∧
      ∀ earlier other, t.ScalarAt earlier other → earlier < place → p other = false := by
  rw [← map_snd_placed, List.find?_map, Option.map_eq_some_iff] at found
  obtain ⟨⟨place, s⟩, found, rfl⟩ := found
  obtain ⟨holds, before, after, split, fail⟩ := List.find?_eq_some_iff_append.mp found
  have ascending : t.placed.Pairwise fun a b => a.1 < b.1 := pairwise_placedWithin 2 t
  rw [split, List.pairwise_append, List.pairwise_cons] at ascending
  refine ⟨place, scalarAt_of_mem_placed (split ▸ by simp), holds, ?_⟩
  intro earlier other stands precedes
  have member := mem_placed_of_scalarAt stands
  rw [split, List.mem_append, List.mem_cons] at member
  rcases member with inBefore | same | inAfter
  · simpa using fail _ inBefore
  · obtain ⟨rfl, -⟩ := Prod.mk.inj same
    exact absurd precedes (lt_irrefl earlier)
  · have follows : place < earlier := ascending.2.1.1 _ inAfter
    exact absurd precedes (lt_asymm follows)

/-- A search finds the scalar with the property that no other with it stands before. -/
theorem find?_ownScalars_eq_some_iff :
    t.ownScalars.find? p = some s ↔
      ∃ place, t.ScalarAt place s ∧ p s = true ∧
        ∀ earlier other, t.ScalarAt earlier other → earlier < place → p other = false := by
  constructor
  · exact exists_scalarAt_of_find?
  · rintro ⟨place, stands, holds, first⟩
    cases found : t.ownScalars.find? p with
    | none =>
        have fails := List.find?_eq_none.mp found s (mem_ownScalars_iff.mpr ⟨place, stands⟩)
        exact absurd holds fails
    | some other =>
        obtain ⟨place', stands', holds', first'⟩ := exists_scalarAt_of_find? found
        rcases lt_trichotomy place place' with before | same | after
        · exact absurd holds (by simp [first' place s stands before])
        · obtain rfl := same
          rw [stands.unique stands']
        · exact absurd holds' (by simp [first place' other stands' after])

/-- The same for the value at a path. -/
theorem find?_scalars_eq_some_iff {path : String} :
    (t.scalars path).find? p = some s ↔
      ∃ place, t.HoldsAt path place s ∧ p s = true ∧
        ∀ earlier other, t.HoldsAt path earlier other → earlier < place → p other = false := by
  simp only [scalars, HoldsAt]
  cases t.get? path with
  | none => simp
  | some value => simp [find?_ownScalars_eq_some_iff]

end

end ConfigTree

end PolicyAudit
