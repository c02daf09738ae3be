/-
Module: PolicyAudit.Proofs.JsonDenotation
Purpose: Which configuration tree a JSON value denotes, said without the function that finds it.
Imports: Mathlib.Data.List.Induction, PolicyAudit.Config.Tree, PolicyAudit.Proofs.JsonRecord
Trusted boundary: none
Main exports: Json.LastOfEach, Json.Denotes, Json.LastOfEach.put, Json.LastOfEach.unique,
  Json.exists_lastOfEach, Json.denotes_iff
-/
import Mathlib.Data.List.Induction
import PolicyAudit.Config.Tree
import PolicyAudit.Proofs.JsonRecord

namespace PolicyAudit

namespace Json

/-- What an object keeps of its entries: each key once, in the order in which the keys first come,
with the value that comes last under it. -/
structure LastOfEach (entries kept : List (String × Json)) : Prop where
  keys : kept.map (·.1) = (entries.map (·.1)).eraseDups
  values : ∀ key value, (key, value) ∈ kept →
    ∃ before after, entries = before ++ (key, value) :: after ∧ key ∉ after.map (·.1)

mutual

/-- The configuration tree that a JSON value denotes. -/
inductive Denotes : Json → ConfigTree → Prop where
  | null : Denotes .null (.scalar .null)
  | bool (value : Bool) : Denotes (.bool value) (.scalar (.bool value))
  | number (value : Number) : Denotes (.number value) (.scalar (.number value))
  | string (value : String) : Denotes (.string value) (.scalar (.string value))
  | array {items : List Json} {trees : List ConfigTree} (each : ItemsDenote items trees) :
      Denotes (.array items) (.sequence trees)
  | object {entries kept : List (String × Json)} {mapping : Mapping}
      (last : LastOfEach entries kept) (each : EntriesDenote kept mapping) :
      Denotes (.object entries) (.mapping mapping)

/-- The items of a list denote trees one by one. -/
inductive ItemsDenote : List Json → List ConfigTree → Prop where
  | nil : ItemsDenote [] []
  | cons {item : Json} {tree : ConfigTree} {items : List Json} {trees : List ConfigTree}
      (first : Denotes item tree) (rest : ItemsDenote items trees) :
      ItemsDenote (item :: items) (tree :: trees)

/-- Entries denote the entries of a mapping one by one, each under its key. -/
inductive EntriesDenote : List (String × Json) → Mapping → Prop where
  | nil : EntriesDenote [] []
  | cons {key : String} {value : Json} {tree : ConfigTree} {entries : List (String × Json)}
      {mapping : Mapping} (first : Denotes value tree) (rest : EntriesDenote entries mapping) :
      EntriesDenote ((key, value) :: entries) ((key, tree) :: mapping)

end

/-! ### The last value of each key -/

section

variable {entries kept other : List (String × Json)} {key : String} {value : Json}

/-- Of the entries under the key that is put, only the new one stays. -/
theorem eq_of_mem_put (distinct : (kept.map (·.1)).Nodup) {last : Json}
    (member : (key, last) ∈ put kept key value) : last = value := by
  induction kept with
  | nil => simpa [put] using member
  | cons first kept inductionHypothesis =>
      obtain ⟨new, distinct⟩ := List.nodup_cons.mp distinct
      rw [put] at member
      split at member
      · rename_i same
        rcases List.mem_cons.mp member with here | later
        · exact (Prod.mk.inj here).2
        · exact absurd (List.mem_map_of_mem (f := (·.1)) later) (same ▸ new)
      · rename_i different
        rcases List.mem_cons.mp member with here | later
        · exact absurd (congrArg (·.1) here).symm different
        · exact inductionHypothesis distinct later

/-- What is kept of entries under the key that is put in it is the new value. -/
theorem LastOfEach.put (last : LastOfEach entries kept) (distinct : (kept.map (·.1)).Nodup)
    (key : String) (value : Json) :
    LastOfEach (entries ++ [(key, value)]) (Json.put kept key value) where
  keys := by
    have known : key ∈ kept.map (·.1) ↔ key ∈ entries.map (·.1) := by
      rw [last.keys, List.mem_eraseDups]
    rw [keys_put, last.keys, List.map_append, List.eraseDups_append, ← last.keys]
    by_cases old : key ∈ entries.map (·.1)
    · rw [if_pos (known.mpr old)]
      simp [List.removeAll, old]
    · rw [if_neg (mt known.mp old)]
      simp [List.removeAll, old, List.eraseDups_cons]
  values := by
    intro name found member
    by_cases same : name = key
    · subst same
      obtain rfl := eq_of_mem_put distinct member
      exact ⟨entries, [], rfl, List.not_mem_nil⟩
    · rcases mem_put member with old | new
      · obtain ⟨before, after, rfl, notAfter⟩ := last.values name found old
        refine ⟨before, after ++ [(key, value)], by simp, ?_⟩
        simpa [same] using notAfter
      · exact absurd (congrArg (·.1) new) same

theorem mergedEntries_append (done entries more : List (String × Json)) :
    mergedEntries done (entries ++ more) = mergedEntries (mergedEntries done entries) more := by
  induction entries generalizing done with
  | nil => rw [mergedEntries, List.nil_append]
  | cons entry entries inductionHypothesis =>
      rw [List.cons_append, mergedEntries, mergedEntries, inductionHypothesis]

/-- An entry with its repeated keys merged. -/
def mergedEntry (entry : String × Json) : String × Json :=
  (entry.1, entry.2.merged)

theorem put_map_mergedEntry (kept : List (String × Json)) (key : String) (value : Json) :
    Json.put (kept.map mergedEntry) key value.merged =
      (Json.put kept key value).map mergedEntry := by
  induction kept with
  | nil => rfl
  | cons entry kept inductionHypothesis =>
      have sameKey : (mergedEntry entry).1 = entry.1 := rfl
      rw [List.map_cons, Json.put, Json.put, sameKey]
      split
      · rfl
      · rw [inductionHypothesis, List.map_cons]

/-- Merging keeps the last of each of the entries. -/
theorem exists_lastOfEach (entries : List (String × Json)) :
    ∃ kept, LastOfEach entries kept ∧ (kept.map (·.1)).Nodup ∧
      mergedEntries [] entries = kept.map mergedEntry := by
  induction entries using List.reverseRecOn with
  | nil => exact ⟨[], ⟨rfl, by simp⟩, List.nodup_nil, rfl⟩
  | append_singleton entries entry inductionHypothesis =>
      obtain ⟨kept, last, distinct, merged⟩ := inductionHypothesis
      obtain ⟨key, value⟩ := entry
      refine ⟨Json.put kept key value, last.put distinct key value, ?_, ?_⟩
      · exact nodup_put distinct key value
      · rw [mergedEntries_append, merged, mergedEntries, mergedEntries, put_map_mergedEntry]

/-- The value that comes last under a key is the first one from the end. -/
theorem find?_reverse_of_last (before : List (String × Json)) (key : String) (value : Json)
    {after : List (String × Json)} (notAfter : key ∉ after.map (·.1)) :
    (before ++ (key, value) :: after).reverse.find? (·.1 = key) = some (key, value) := by
  have skipped : after.reverse.find? (·.1 = key) = none := by
    rw [List.find?_eq_none]
    intro entry member same
    rw [List.mem_reverse] at member
    exact notAfter (of_decide_eq_true same ▸ List.mem_map_of_mem member)
  rw [List.reverse_append, List.reverse_cons, List.append_assoc, List.find?_append, skipped]
  simp

/-- Lists with the same keys are the same if no key has different values in them. -/
theorem eq_of_sameKeys (keys : kept.map (·.1) = other.map (·.1))
    (values : ∀ key u v, (key, u) ∈ kept → (key, v) ∈ other → u = v) : kept = other := by
  induction kept generalizing other with
  | nil => exact (List.map_eq_nil_iff.mp keys.symm).symm
  | cons entry kept inductionHypothesis =>
      cases other with
      | nil => contradiction
      | cons next other =>
          obtain ⟨key, value⟩ := entry
          obtain ⟨nextKey, nextValue⟩ := next
          obtain ⟨rfl, sameRest⟩ := List.cons.inj keys
          obtain rfl := values key value nextValue List.mem_cons_self List.mem_cons_self
          rw [inductionHypothesis sameRest fun name u v here there =>
            values name u v (List.mem_cons_of_mem _ here) (List.mem_cons_of_mem _ there)]

/-- There is only one list of what an object keeps. -/
theorem LastOfEach.unique (last : LastOfEach entries kept) (also : LastOfEach entries other) :
    kept = other := by
  refine eq_of_sameKeys (last.keys.trans also.keys.symm) fun key u v here there => ?_
  obtain ⟨before, after, split, notAfter⟩ := last.values key u here
  obtain ⟨front, back, alsoSplit, notBack⟩ := also.values key v there
  have found := find?_reverse_of_last before key u notAfter
  have alsoFound := find?_reverse_of_last front key v notBack
  rw [← split] at found
  rw [← alsoSplit, found] at alsoFound
  exact (Prod.mk.inj (Option.some.inj alsoFound)).2

end

/-! ### Denoted trees -/

mutual

/-- A value denotes no other tree than the one that is found. -/
theorem Denotes.eq_ofJson : {value : Json} → {tree : ConfigTree} → value.Denotes tree →
    tree = .ofJson value.merged
  | _, _, .null => rfl
  | _, _, .bool _ => rfl
  | _, _, .number _ => rfl
  | _, _, .string _ => rfl
  | _, _, .array each => by
      rw [each.eq_ofItems]
      rfl
  | .object entries, _, .object last each => by
      obtain ⟨kept, found, -, merged⟩ := exists_lastOfEach entries
      rw [each.eq_ofEntries, last.unique found, ← merged]
      rfl

theorem ItemsDenote.eq_ofItems : {items : List Json} → {trees : List ConfigTree} →
    ItemsDenote items trees → trees = ConfigTree.ofItems (mergedItems items)
  | _, _, .nil => rfl
  | _, _, .cons first rest => by
      rw [first.eq_ofJson, rest.eq_ofItems]
      rfl

theorem EntriesDenote.eq_ofEntries : {entries : List (String × Json)} → {mapping : Mapping} →
    EntriesDenote entries mapping → mapping = ConfigTree.ofEntries (entries.map mergedEntry)
  | _, _, .nil => rfl
  | _, _, .cons first rest => by
      rw [first.eq_ofJson, rest.eq_ofEntries]
      rfl

end

/-- Entries denote what their values denote. -/
theorem entriesDenote_of_values {entries : List (String × Json)}
    (values : ∀ entry ∈ entries, entry.2.Denotes (.ofJson entry.2.merged)) :
    EntriesDenote entries (ConfigTree.ofEntries (entries.map mergedEntry)) := by
  induction entries with
  | nil => exact .nil
  | cons entry entries inductionHypothesis =>
      obtain ⟨first, rest⟩ := List.forall_mem_cons.mp values
      exact .cons first (inductionHypothesis rest)

mutual

/-- Every value denotes the tree that is found. -/
theorem denotes_ofJson : (value : Json) → value.Denotes (.ofJson value.merged)
  | .null => .null
  | .bool value => .bool value
  | .number value => .number value
  | .string value => .string value
  | .array items => .array (itemsDenote_ofItems items)
  | .object entries => by
      obtain ⟨kept, last, -, merged⟩ := exists_lastOfEach entries
      have each : ∀ entry ∈ kept, entry.2.Denotes (.ofJson entry.2.merged) := by
        intro entry member
        obtain ⟨before, after, split, -⟩ := last.values entry.1 entry.2 member
        exact values_denote entries entry (by simp [split])
      rw [Json.merged, merged, ConfigTree.ofJson]
      exact .object last (entriesDenote_of_values each)

theorem itemsDenote_ofItems : (items : List Json) →
    ItemsDenote items (ConfigTree.ofItems (mergedItems items))
  | [] => .nil
  | item :: items => .cons (denotes_ofJson item) (itemsDenote_ofItems items)

theorem values_denote : (entries : List (String × Json)) →
    ∀ entry ∈ entries, entry.2.Denotes (.ofJson entry.2.merged)
  | [] => by simp
  | (_, value) :: entries => by
      rw [List.forall_mem_cons]
      exact ⟨denotes_ofJson value, values_denote entries⟩

end

/-- A value denotes the configuration that is found after its repeated keys are merged, and nothing
else. -/
theorem denotes_iff {value : Json} {tree : ConfigTree} :
    value.Denotes tree ↔ tree = .ofJson value.merged :=
  ⟨Denotes.eq_ofJson, fun found => found ▸ denotes_ofJson value⟩

end Json

end PolicyAudit
