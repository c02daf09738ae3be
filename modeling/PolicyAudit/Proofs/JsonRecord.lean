/-
Module: PolicyAudit.Proofs.JsonRecord
Purpose: Objects whose keys all differ stay as they are when repeated keys are merged, and are
  read as records by their names.
Imports: PolicyAudit.Json.Shape
Trusted boundary: none
Main exports: Json.Unrepeated, Json.merged_of_unrepeated, Json.unrepeated_merged,
  Json.parts?_object, Json.oneOf?_string, Json.list?_map, Json.word32?_int
-/
import PolicyAudit.Json.Shape

namespace PolicyAudit

namespace Json

/-! ### Merging -/

/-- A value in which no object names a key twice. -/
inductive Unrepeated : Json → Prop where
  | null : Unrepeated .null
  | bool (value : Bool) : Unrepeated (.bool value)
  | number (value : Number) : Unrepeated (.number value)
  | string (value : String) : Unrepeated (.string value)
  | array {items : List Json} (values : ∀ item ∈ items, Unrepeated item) :
      Unrepeated (.array items)
  | object {entries : List (String × Json)} (keys : (entries.map (·.1)).Nodup)
      (values : ∀ entry ∈ entries, Unrepeated entry.2) : Unrepeated (.object entries)

/-- A new key goes to the end. -/
theorem put_of_not_mem {entries : List (String × Json)} {key : String}
    (new : key ∉ entries.map (·.1)) (value : Json) :
    put entries key value = entries ++ [(key, value)] := by
  induction entries with
  | nil => rfl
  | cons entry entries inductionHypothesis =>
      rw [List.map_cons, List.mem_cons, not_or] at new
      rw [put, if_neg (fun same => new.1 same.symm), inductionHypothesis new.2, List.cons_append]

theorem mergedItems_of_merged {items : List Json} (values : ∀ item ∈ items, item.merged = item) :
    mergedItems items = items := by
  induction items with
  | nil => rfl
  | cons item items inductionHypothesis =>
      have tail := inductionHypothesis fun other member => values other (by simp [member])
      rw [mergedItems, values item (by simp), tail]

/-- Entries with new keys are put one after the other behind those already there. -/
theorem mergedEntries_of_merged {entries : List (String × Json)}
    (values : ∀ entry ∈ entries, entry.2.merged = entry.2) (done : List (String × Json))
    (keys : ((done ++ entries).map (·.1)).Nodup) :
    mergedEntries done entries = done ++ entries := by
  induction entries generalizing done with
  | nil => rw [mergedEntries, List.append_nil]
  | cons entry entries inductionHypothesis =>
      obtain ⟨key, value⟩ := entry
      have new : key ∉ done.map (·.1) := by
        intro member
        rw [List.map_append, List.nodup_append] at keys
        exact keys.2.2 key member key (by simp) rfl
      have same : value.merged = value := values (key, value) (by simp)
      rw [mergedEntries, same, put_of_not_mem new,
        inductionHypothesis (fun other member => values other (by simp [member])) _
          (by simpa using keys)]
      simp

/-- Merging repeated keys changes nothing where none is repeated. -/
theorem merged_of_unrepeated {value : Json} (unrepeated : value.Unrepeated) :
    value.merged = value := by
  induction unrepeated with
  | null => rfl
  | bool => rfl
  | number => rfl
  | string => rfl
  | array _ inductionHypothesis => rw [merged, mergedItems_of_merged inductionHypothesis]
  | object keys _ inductionHypothesis =>
      rw [merged, mergedEntries_of_merged inductionHypothesis [] keys]
      rfl

/-! ### Merged values -/

theorem keys_put (entries : List (String × Json)) (key : String) (value : Json) :
    (put entries key value).map (·.1) =
      if key ∈ entries.map (·.1) then entries.map (·.1) else entries.map (·.1) ++ [key] := by
  induction entries with
  | nil => rfl
  | cons entry entries inductionHypothesis =>
      rw [put]
      split
      · rename_i same
        simp [same]
      · rename_i different
        have other : key ≠ entry.1 := fun same => different same.symm
        rw [List.map_cons, inductionHypothesis]
        simp only [List.map_cons, List.mem_cons, other, false_or]
        split <;> rfl

theorem nodup_put {entries : List (String × Json)} (keys : (entries.map (·.1)).Nodup)
    (key : String) (value : Json) : ((put entries key value).map (·.1)).Nodup := by
  rw [keys_put]
  split
  · exact keys
  · rename_i new
    refine List.nodup_append.mpr ⟨keys, by simp, ?_⟩
    intro old member last here same
    rw [List.mem_singleton.mp here] at same
    exact new (same ▸ member)

theorem mem_put {entries : List (String × Json)} {key : String} {value : Json}
    {entry : String × Json} (member : entry ∈ put entries key value) :
    entry ∈ entries ∨ entry = (key, value) := by
  induction entries with
  | nil => exact .inr (List.mem_singleton.mp member)
  | cons first entries inductionHypothesis =>
      rw [put] at member
      split at member
      · rcases List.mem_cons.mp member with here | later
        · exact .inr here
        · exact .inl (List.mem_cons_of_mem first later)
      · rcases List.mem_cons.mp member with here | later
        · exact .inl (here ▸ List.mem_cons_self)
        · exact (inductionHypothesis later).imp_left (List.mem_cons_of_mem first)

mutual

/-- Where repeated keys have been merged, none is repeated. -/
theorem unrepeated_merged : (value : Json) → value.merged.Unrepeated
  | .null => .null
  | .bool value => .bool value
  | .number value => .number value
  | .string value => .string value
  | .array items => .array (unrepeated_mergedItems items)
  | .object entries =>
      have ⟨keys, values⟩ := unrepeated_mergedEntries entries [] .nil (by simp)
      .object keys values

theorem unrepeated_mergedItems : (items : List Json) → ∀ item ∈ mergedItems items, item.Unrepeated
  | [] => by simp [mergedItems]
  | item :: items => by
      rw [mergedItems, List.forall_mem_cons]
      exact ⟨unrepeated_merged item, unrepeated_mergedItems items⟩

theorem unrepeated_mergedEntries : (entries done : List (String × Json)) →
    (done.map (·.1)).Nodup → (∀ entry ∈ done, entry.2.Unrepeated) →
      ((mergedEntries done entries).map (·.1)).Nodup ∧
        ∀ entry ∈ mergedEntries done entries, entry.2.Unrepeated
  | [], done => fun keys values => by
      rw [mergedEntries]
      exact ⟨keys, values⟩
  | (key, value) :: entries, done => fun keys values => by
      rw [mergedEntries]
      apply unrepeated_mergedEntries entries _ (nodup_put keys key value.merged)
      intro entry member
      rcases mem_put member with old | rfl
      · exact values entry old
      · exact unrepeated_merged value

end

/-! ### Shapes -/

/-- The parts of an object without repeated keys are its values at the names. -/
theorem parts?_object {entries : List (String × Json)} (keys : (entries.map (·.1)).Nodup)
    (names : List String) :
    (Json.object entries).parts? names =
      some (names.map fun name => (Json.object entries).get? name) := by
  have once : ∀ name, (entries.filter (·.1 = name)).length ≤ 1 := by
    intro name
    have atMost := List.nodup_iff_count.mp keys name
    rw [List.count_eq_countP, List.countP_map, List.countP_eq_length_filter] at atMost
    exact atMost
  rw [parts?, if_pos (by simp [once])]

/-- A word is read as the first that it names among all. -/
theorem oneOf?_string {α : Type} {word : α → String} {all : List α} {x : α} (known : x ∈ all)
    (distinct : ∀ y ∈ all, word y = word x → y = x) :
    oneOf? word all (.string (word x)) = some x := by
  rw [oneOf?]
  cases found : all.find? (word · = word x) with
  | none => simpa using List.find?_eq_none.mp found x known
  | some y =>
      have sameWord := List.find?_some found
      rw [distinct y (List.mem_of_find?_eq_some found) (by simpa using sameWord)]

/-- A list is read if its items are. -/
theorem list?_map {α : Type} {read? : Json → Option α} {write : α → Json} {xs : List α}
    (readBack : ∀ x ∈ xs, read? (write x) = some x) :
    list? read? (.array (xs.map write)) = some xs := by
  rw [list?]
  induction xs with
  | nil => rfl
  | cons x xs inductionHypothesis =>
      have tail := inductionHypothesis fun y member => readBack y (by simp [member])
      simp [List.mapM_cons, readBack x (by simp), tail]

/-- A part that is there is read as its value is. -/
theorem needed?_some {α : Type} {read? : Json → Option α} {value : Json} {x : α}
    (readBack : read? value = some x) : needed? read? (some value) = some x := by
  rw [needed?, Option.bind_some, readBack]

theorem word32?_int (n : UInt32) : word32? (.number (.int n.toNat)) = some n := by
  have inRange : 0 ≤ (n.toNat : Int) ∧ (n.toNat : Int) < UInt32.size :=
    ⟨Int.natCast_nonneg _, Int.ofNat_lt.mpr n.toNat_lt_size⟩
  rw [word32?, if_pos inRange]
  simp

end Json

end PolicyAudit
