/-
Module: PolicyAudit.Table
Purpose: Finite maps from texts, with their entries in ascending order of the keys.
Trusted boundary: none
Main exports: Table, Table.find?, Table.update, Table.ofList, Table.map, Table.find?_update,
  Table.find?_eq_some_iff, Table.find?_map, Table.ext_find?, Table.findSome?_entries_eq_some_iff,
  Table.mem_keys_ofList
-/
namespace PolicyAudit

/-- A finite map from texts.  The keys ascend, so equal maps have equal entries. -/
structure Table (α : Type) where
  entries : List (String × α)
  ascending : entries.Pairwise fun a b => a.1 < b.1

namespace Table

variable {α β : Type}

def empty : Table α := ⟨[], .nil⟩

instance : Inhabited (Table α) := ⟨empty⟩

def keys (t : Table α) : List String :=
  t.entries.map (·.1)

/-- The value of a key in a list of entries. -/
def findIn (key : String) : List (String × α) → Option α
  | [] => none
  | (k, value) :: rest => if k = key then some value else findIn key rest

def find? (t : Table α) (key : String) : Option α :=
  findIn key t.entries

/-- Replace the value of a key, or add the key at its place. -/
def updateIn (key : String) (f : Option α → α) : List (String × α) → List (String × α)
  | [] => [(key, f none)]
  | (k, value) :: rest =>
      if key < k then
        (key, f none) :: (k, value) :: rest
      else if k = key then
        (k, f (some value)) :: rest
      else
        (k, value) :: updateIn key f rest

/-! ### Order -/

private theorem mem_updateIn {key : String} {f : Option α → α} {entry : String × α}
    {entries : List (String × α)} (member : entry ∈ updateIn key f entries) :
    entry.1 = key ∨ entry ∈ entries := by
  induction entries with
  | nil =>
      rw [updateIn, List.mem_singleton] at member
      exact .inl (by rw [member])
  | cons head rest inductionHypothesis =>
      rw [updateIn] at member
      split at member
      · rcases List.mem_cons.mp member with new | old
        · exact .inl (by rw [new])
        · exact .inr old
      · split at member
        · rename_i same
          rcases List.mem_cons.mp member with new | old
          · exact .inl (by rw [new]; exact same)
          · exact .inr (List.mem_cons_of_mem _ old)
        · rcases List.mem_cons.mp member with new | old
          · exact .inr (new ▸ List.mem_cons_self)
          · rcases inductionHypothesis old with hit | kept
            · exact .inl hit
            · exact .inr (List.mem_cons_of_mem _ kept)

private theorem lt_of_not_lt_of_ne {a b : String} (notLt : ¬ a < b) (ne : b ≠ a) : b < a := by
  have le : b ≤ a := String.not_lt.mp notLt
  by_cases lt : b < a
  · exact lt
  · exact absurd (String.le_antisymm le (String.not_lt.mp lt)) ne

theorem ascending_updateIn {entries : List (String × α)}
    (ascending : entries.Pairwise fun a b => a.1 < b.1) (key : String) (f : Option α → α) :
    (updateIn key f entries).Pairwise fun a b => a.1 < b.1 := by
  induction entries with
  | nil => simp [updateIn]
  | cons head rest inductionHypothesis =>
      have below := (List.pairwise_cons.mp ascending).1
      have tail := (List.pairwise_cons.mp ascending).2
      rw [updateIn]
      split
      · rename_i before
        refine List.pairwise_cons.mpr ⟨?_, ascending⟩
        intro entry member
        rcases List.mem_cons.mp member with first | later
        · rw [first]
          exact before
        · exact String.lt_trans before (below entry later)
      · rename_i notBefore
        split
        · exact List.pairwise_cons.mpr ⟨below, tail⟩
        · rename_i different
          refine List.pairwise_cons.mpr ⟨?_, inductionHypothesis tail⟩
          intro entry member
          rcases mem_updateIn member with hit | kept
          · rw [hit]
            exact lt_of_not_lt_of_ne notBefore different
          · exact below entry kept

/-- Give a key a new value that may depend on the one it has. -/
def update (t : Table α) (key : String) (f : Option α → α) : Table α :=
  ⟨updateIn key f t.entries, ascending_updateIn t.ascending key f⟩

/-- The map of a list of entries; of several with one key the last counts. -/
def ofList (entries : List (String × α)) : Table α :=
  entries.foldl (fun t entry => t.update entry.1 fun _ => entry.2) empty

/-- Change every value and keep the keys. -/
def map (f : α → β) (t : Table α) : Table β :=
  ⟨t.entries.map fun entry => (entry.1, f entry.2), List.pairwise_map.mpr t.ascending⟩

/-! ### Looking up -/

private theorem findIn_updateIn (key other : String) (f : Option α → α)
    {entries : List (String × α)} (ascending : entries.Pairwise fun a b => a.1 < b.1) :
    findIn other (updateIn key f entries) =
      if other = key then some (f (findIn key entries)) else findIn other entries := by
  induction entries with
  | nil =>
      by_cases same : other = key
      · simp [updateIn, findIn, same]
      · simp [updateIn, findIn, same, Ne.symm same]
  | cons head rest inductionHypothesis =>
      have below := (List.pairwise_cons.mp ascending).1
      have recursive := inductionHypothesis (List.pairwise_cons.mp ascending).2
      have missing : ∀ later : List (String × α), (∀ entry ∈ later, key < entry.1) →
          findIn key later = none := by
        intro later above
        induction later with
        | nil => rfl
        | cons entry later laterHypothesis =>
            have ne : entry.1 ≠ key := by
              rintro rfl
              exact String.lt_irrefl _ (above entry List.mem_cons_self)
            simp only [findIn, ne, if_false]
            exact laterHypothesis fun e member => above e (List.mem_cons_of_mem _ member)
      rw [updateIn]
      split
      · rename_i before
        have absent : findIn key (head :: rest) = none := by
          refine missing _ ?_
          intro entry member
          rcases List.mem_cons.mp member with first | later
          · rw [first]
            exact before
          · exact String.lt_trans before (below entry later)
        rw [absent]
        by_cases same : other = key
        · simp [findIn, same]
        · simp [findIn, same, Ne.symm same]
      · split
        · rename_i same
          by_cases hit : other = key
          · simp [findIn, same, hit]
          · simp [findIn, same, hit, Ne.symm hit]
        · rename_i different
          simp only [findIn]
          rw [recursive]
          by_cases hit : other = key
          · simp [hit, different]
          · simp [hit]

/-- An update is seen at its key and nowhere else. -/
theorem find?_update (t : Table α) (key other : String) (f : Option α → α) :
    (t.update key f).find? other = if other = key then some (f (t.find? key)) else t.find? other :=
  findIn_updateIn key other f t.ascending

private theorem findIn_eq_some_iff {key : String} {value : α} {entries : List (String × α)}
    (ascending : entries.Pairwise fun a b => a.1 < b.1) :
    findIn key entries = some value ↔ (key, value) ∈ entries := by
  induction entries with
  | nil => simp [findIn]
  | cons head rest inductionHypothesis =>
      obtain ⟨first, held⟩ := head
      have below := (List.pairwise_cons.mp ascending).1
      have recursive := inductionHypothesis (List.pairwise_cons.mp ascending).2
      by_cases same : first = key
      · have notLater : (key, value) ∉ rest := by
          intro later
          have smaller : first < key := below _ later
          exact String.lt_irrefl key (same ▸ smaller)
        simp [findIn, same, notLater, eq_comm]
      · simp [findIn, same, recursive, Ne.symm same]

/-- Looking up finds the entries and nothing else. -/
theorem find?_eq_some_iff {t : Table α} {key : String} {value : α} :
    t.find? key = some value ↔ (key, value) ∈ t.entries :=
  findIn_eq_some_iff t.ascending

theorem find?_map (f : α → β) (t : Table α) (key : String) :
    (t.map f).find? key = (t.find? key).map f := by
  refine Option.ext fun value => ?_
  rw [find?_eq_some_iff, Option.map_eq_some_iff, map, List.mem_map]
  constructor
  · rintro ⟨⟨_, held⟩, member, same⟩
    cases same
    exact ⟨held, find?_eq_some_iff.mpr member, rfl⟩
  · rintro ⟨held, found, rfl⟩
    exact ⟨(key, held), find?_eq_some_iff.mp found, rfl⟩

private theorem nodup_of_ascending {entries : List (String × α)}
    (ascending : entries.Pairwise fun a b => a.1 < b.1) : entries.Nodup := by
  refine ascending.imp fun {a b} less equal => ?_
  rw [equal] at less
  exact String.lt_irrefl b.1 less

/-- A table is determined by what can be looked up in it. -/
theorem ext_find? {t u : Table α} (same : ∀ key, t.find? key = u.find? key) : t = u := by
  obtain ⟨first, ascendingFirst⟩ := t
  obtain ⟨second, ascendingSecond⟩ := u
  have permuted : first.Perm second := by
    rw [List.perm_ext_iff_of_nodup (nodup_of_ascending ascendingFirst)
      (nodup_of_ascending ascendingSecond)]
    rintro ⟨key, value⟩
    have found : findIn key first = findIn key second := same key
    rw [← findIn_eq_some_iff ascendingFirst, ← findIn_eq_some_iff ascendingSecond, found]
  congr 1
  refine List.Perm.eq_of_pairwise (fun a b _ _ less greater => ?_) ascendingFirst ascendingSecond
    permuted
  exact absurd (String.lt_trans less greater) (String.lt_irrefl a.1)

/-! ### Searching -/

theorem findSome?_entries_eq_none_iff {t : Table α} {f : String × α → Option β} :
    t.entries.findSome? f = none ↔
      ∀ key value, t.find? key = some value → f (key, value) = none := by
  simp [List.findSome?_eq_none_iff, find?_eq_some_iff]

/-- A search through the entries stops at the least key at which there is a result. -/
theorem findSome?_entries_eq_some_iff {t : Table α} {f : String × α → Option β} {result : β} :
    t.entries.findSome? f = some result ↔
      ∃ key value, t.find? key = some value ∧ f (key, value) = some result ∧
        ∀ before passed, before < key → t.find? before = some passed →
          f (before, passed) = none := by
  simp only [find?_eq_some_iff]
  constructor
  · intro found
    obtain ⟨front, ⟨key, value⟩, back, split, hit, missed⟩ := List.findSome?_eq_some_iff.mp found
    refine ⟨key, value, by simp [split], hit, fun before passed less member => ?_⟩
    have ascending := split ▸ t.ascending
    rcases List.mem_append.mp (split ▸ member) with inFront | inRest
    · exact missed (before, passed) inFront
    · -- what comes from the result on has no smaller key
      exfalso
      rcases List.mem_cons.mp inRest with same | inBack
      · cases same
        exact String.lt_irrefl _ less
      · have later := (List.pairwise_append.mp ascending).2.1
        have greater : key < before := (List.pairwise_cons.mp later).1 _ inBack
        exact String.lt_irrefl key (String.lt_trans greater less)
  · rintro ⟨key, value, member, hit, missed⟩
    obtain ⟨front, back, split⟩ := List.append_of_mem member
    refine List.findSome?_eq_some_iff.mpr ⟨front, (key, value), back, split, hit, ?_⟩
    rintro ⟨before, passed⟩ inFront
    have ascending := split ▸ t.ascending
    have less : before < key :=
      (List.pairwise_append.mp ascending).2.2 _ inFront _ List.mem_cons_self
    exact missed before passed less (by simp [split, inFront])

/-! ### Keys -/

theorem mem_keys_iff {t : Table α} {key : String} :
    key ∈ t.keys ↔ ∃ value, t.find? key = some value := by
  simp [keys, find?_eq_some_iff]

theorem mem_keys_update {t : Table α} {key other : String} {f : Option α → α} :
    other ∈ (t.update key f).keys ↔ other = key ∨ other ∈ t.keys := by
  rw [mem_keys_iff, mem_keys_iff, find?_update]
  by_cases same : other = key <;> simp [same]

private theorem mem_keys_foldl_update {key : String} (entries : List (String × α)) (t : Table α) :
    key ∈ (entries.foldl (fun t entry => t.update entry.1 fun _ => entry.2) t).keys ↔
      key ∈ entries.map (·.1) ∨ key ∈ t.keys := by
  induction entries generalizing t with
  | nil => simp
  | cons entry rest inductionHypothesis =>
      rw [List.foldl_cons, inductionHypothesis, mem_keys_update, List.map_cons, List.mem_cons,
        or_left_comm, or_assoc]

/-- The keys of a table made of entries are the keys of the entries. -/
theorem mem_keys_ofList {entries : List (String × α)} {key : String} :
    key ∈ (ofList entries).keys ↔ key ∈ entries.map (·.1) := by
  rw [ofList, mem_keys_foldl_update]
  simp [empty, keys]

end Table

end PolicyAudit
