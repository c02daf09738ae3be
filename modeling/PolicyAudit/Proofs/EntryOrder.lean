/-
Module: PolicyAudit.Proofs.EntryOrder
Purpose: The order in which mappings list their entries changes no verdict and no reason.
Imports: Mathlib.Data.List.Forall2, Mathlib.Logic.Relation, PolicyAudit.Proofs.ConfiguredRuns,
  PolicyAudit.Proofs.JsonRecord, PolicyAudit.Proofs.Observation
Trusted boundary: none
Main exports: ConfigTree.Shuffles, ConfigTree.Reordered, Mapping.find?_of_perm,
  ConfigTree.Shuffles.interchangeable, Resource.ReorderedAs, PolicySet.audit_of_reordered,
  ConfigTree.KeysDistinct, entry_order_irrelevant
-/
import Mathlib.Data.List.Forall2
import Mathlib.Logic.Relation
import PolicyAudit.Proofs.ConfiguredRuns
import PolicyAudit.Proofs.JsonRecord
import PolicyAudit.Proofs.Observation

namespace PolicyAudit

namespace ConfigTree

/-! ### Reordering -/

/-- A mapping without repeated keys lists its entries in another order. -/
inductive Shuffles : ConfigTree → ConfigTree → Prop where
  | entries {m n : Mapping} (distinct : m.keys.Nodup) (perm : m.Perm n) :
      Shuffles (.mapping m) (.mapping n)

/-- Two trees that differ only by the order of entries, in any number of mappings at any depth. -/
def Reordered : ConfigTree → ConfigTree → Prop :=
  Relation.ReflTransGen (Within Shuffles)

/-- A tree in which no mapping names a key twice. -/
inductive KeysDistinct : ConfigTree → Prop where
  | scalar (s : Scalar) : KeysDistinct (.scalar s)
  | mapping {m : Mapping} (distinct : m.keys.Nodup) (values : ∀ entry ∈ m, KeysDistinct entry.2) :
      KeysDistinct (.mapping m)
  | sequence {items : List ConfigTree} (values : ∀ item ∈ items, KeysDistinct item) :
      KeysDistinct (.sequence items)

end ConfigTree

/-! ### Looking up -/

namespace Mapping

variable {m n : Mapping}

theorem mem_of_find? {key : String} {value : ConfigTree} (found : m.find? key = some value) :
    (key, value) ∈ m := by
  induction m with
  | nil => cases found
  | cons entry rest inductionHypothesis =>
      rw [find?] at found
      split at found
      · rename_i same
        cases found
        rw [← same]
        exact List.mem_cons_self
      · exact List.mem_cons_of_mem entry (inductionHypothesis found)

/-- Where no key is repeated, looking up finds whatever entry has the key. -/
theorem find?_eq_some_iff_mem (distinct : m.keys.Nodup) {key : String} {value : ConfigTree} :
    m.find? key = some value ↔ (key, value) ∈ m := by
  refine ⟨mem_of_find?, fun member => ?_⟩
  induction m with
  | nil => cases member
  | cons entry rest inductionHypothesis =>
      rw [keys, List.map_cons, List.nodup_cons] at distinct
      obtain ⟨new, others⟩ := distinct
      rw [find?]
      rcases List.mem_cons.mp member with rfl | later
      · rw [if_pos rfl]
      · have different : entry.1 ≠ key := fun same => new (same ▸ List.mem_map_of_mem later)
        rw [if_neg different]
        exact inductionHypothesis others later

theorem find?_of_perm (distinct : m.keys.Nodup) (perm : m.Perm n) (key : String) :
    m.find? key = n.find? key := by
  have sameKeys : m.keys.Perm n.keys := perm.map Prod.fst
  have alsoDistinct : n.keys.Nodup := sameKeys.nodup_iff.mp distinct
  apply Option.ext
  intro value
  rw [find?_eq_some_iff_mem distinct, find?_eq_some_iff_mem alsoDistinct, perm.mem_iff]

end Mapping

namespace ConfigTree

/-! ### What a reordering keeps -/

theorem Shuffles.interchangeable {v w : ConfigTree} (shuffles : Shuffles v w) :
    Interchangeable v w := by
  obtain ⟨distinct, perm⟩ := shuffles
  apply Alike.interchangeable
  intro keys
  cases keys with
  | nil => rfl
  | cons key keys =>
      simp only [descend, block?, Option.bind_some, Mapping.find?_of_perm distinct perm key]

theorem Reordered.alike {c d : ConfigTree} (reordered : Reordered c d) : Alike c d := by
  induction reordered with
  | refl => exact .refl c
  | tail _ step inductionHypothesis =>
      exact inductionHypothesis.trans
        (step.interchangeable fun _ _ shuffles => shuffles.interchangeable).alike

/-! ### Configurations of declarations -/

theorem ofItems_eq_map (items : List Json) : ofItems items = items.map ofJson := by
  induction items with
  | nil => rfl
  | cons item items inductionHypothesis => rw [ofItems, inductionHypothesis, List.map_cons]

theorem ofEntries_eq_map (entries : List (String × Json)) :
    ofEntries entries = entries.map fun entry => (entry.1, ofJson entry.2) := by
  induction entries with
  | nil => rfl
  | cons entry entries inductionHypothesis => rw [ofEntries, inductionHypothesis, List.map_cons]

theorem keysDistinct_ofJson {value : Json} (unrepeated : value.Unrepeated) :
    (ofJson value).KeysDistinct := by
  induction unrepeated with
  | null => exact .scalar _
  | bool => exact .scalar _
  | number => exact .scalar _
  | string => exact .scalar _
  | array _ inductionHypothesis =>
      rw [ofJson, ofItems_eq_map]
      refine .sequence fun item member => ?_
      obtain ⟨value, listed, rfl⟩ := List.mem_map.mp member
      exact inductionHypothesis value listed
  | object keys _ inductionHypothesis =>
      rw [ofJson, ofEntries_eq_map]
      refine .mapping ?_ fun entry member => ?_
      · rwa [Mapping.keys, List.map_map]
      · obtain ⟨value, listed, rfl⟩ := List.mem_map.mp member
        exact inductionHypothesis value listed

end ConfigTree

/-! ### Runs -/

/-- The same resource, with a configuration that lists its entries in another order. -/
structure Resource.ReorderedAs (r s : Resource) : Prop where
  resourceType : r.resourceType = s.resourceType
  resourceId : r.resourceId = s.resourceId
  config : ConfigTree.Reordered r.config s.config

/-- The rule answers the same to reordered configurations. -/
def Rule.IgnoresOrder (rule : Rule) : Prop :=
  ∀ c d, ConfigTree.Reordered c d → rule c = rule d

theorem Pattern.ignoresOrder (pattern : Pattern) : pattern.rule.IgnoresOrder := by
  intro c d reordered
  rw [rule, rule, pattern.evaluate_of_alike reordered.alike]

namespace PolicySet

variable {set : PolicySet} (settings : RunSettings)

theorem report_of_reordered (ignorant : ∀ p ∈ set.policies, p.rule.IgnoresOrder) {r s : Resource}
    (same : r.ReorderedAs s) : set.report settings r = set.report settings s := by
  have concerned : set.concerned settings r = set.concerned settings s := by
    rw [PolicySet.concerned, PolicySet.concerned, same.resourceType]
  have answers : ∀ p ∈ set.concerned settings s, p.answer r = p.answer s := by
    intro p member
    have ignores := ignorant p (set.mem_policies_of_concerned settings member)
    unfold Policy.answer Policy.run Resource.notTargeted
    rw [same.resourceType, ignores r.config s.config same.config]
  have outcomes : (set.report settings r).outcomes = (set.report settings s).outcomes := by
    rw [report_outcomes, report_outcomes, concerned]
    exact List.map_congr_left fun p member => by rw [answers p member]
  rw [ResourceReport.mk.injEq]
  exact ⟨same.resourceType, same.resourceId, outcomes⟩

theorem audit_of_reordered (ignorant : ∀ p ∈ set.policies, p.rule.IgnoresOrder)
    {xs ys : List Resource} (same : List.Forall₂ Resource.ReorderedAs xs ys) :
    set.audit settings xs = set.audit settings ys := by
  have reports : xs.map (set.report settings) = ys.map (set.report settings) := by
    induction same with
    | nil => rfl
    | cons first _ inductionHypothesis =>
        rw [List.map_cons, List.map_cons, report_of_reordered settings ignorant first,
          inductionHypothesis]
  rw [audit, audit, reports]

end PolicySet

/-- The order of entries decides nothing.  Every pattern answers the same verdict for the same
reason to reordered configurations, and under all settings the catalog gives the same result to
resources whose configurations are reordered.  Configurations of declarations repeat no key, so all
their mappings may be reordered. -/
theorem entry_order_irrelevant :
    (∀ (pattern : Pattern) (c d : ConfigTree), ConfigTree.Reordered c d →
      pattern.evaluate c = pattern.evaluate d) ∧
    (∀ settings, ∃ set, catalogUnder settings = .ok set ∧
      ∀ xs ys, List.Forall₂ Resource.ReorderedAs xs ys →
        set.audit settings xs = set.audit settings ys) ∧
    ∀ value : Json, (ConfigTree.ofJson value.merged).KeysDistinct := by
  refine ⟨?_, ?_, ?_⟩
  · intro pattern c d reordered
    exact pattern.evaluate_of_alike reordered.alike
  · intro settings
    refine ⟨_, catalogUnder_eq_ok settings, fun xs ys same => ?_⟩
    refine PolicySet.audit_of_reordered settings (fun p active => ?_) same
    obtain ⟨entry, _, _, rfl⟩ := exists_entry_of_mem_configured active
    exact entry.pattern.ignoresOrder
  · intro value
    exact ConfigTree.keysDistinct_ofJson (Json.unrepeated_merged value)

namespace EntryOrder

/-- Tags that lack a key. -/
def tags : ConfigTree :=
  .mapping [("owner", .scalar .null), ("Team", .scalar .null)]

/-- An access list before the tags. -/
def declared : ConfigTree :=
  .mapping
    [ ("network_acls", .sequence
        [.mapping [("default_action", .scalar (.string "Deny")), ("bypass", .scalar .null)]]),
      ("tags", tags) ]

/-- The same entries, in another order in the list and as a whole. -/
def reordered : ConfigTree :=
  .mapping
    [ ("tags", tags),
      ("network_acls", .sequence
        [.mapping [("bypass", .scalar .null), ("default_action", .scalar (.string "Deny"))]]) ]

theorem declared_reordered : ConfigTree.Reordered declared reordered := by
  have inList : ConfigTree.Within ConfigTree.Shuffles declared
      (.mapping
        [ ("network_acls", .sequence
            [.mapping [("bypass", .scalar .null), ("default_action", .scalar (.string "Deny"))]]),
          ("tags", tags) ]) :=
    .entry [] "network_acls" _ (.item [] [] (.here (.entries (by decide) (.swap _ _ []))))
  exact .tail (.single inList) (.here (.entries (by decide) (.swap _ _ [])))

theorem entry_order_irrelevant_declared :
    ConfigTree.Reordered declared reordered ∧
      projectTags.evaluate declared = projectTags.evaluate reordered ∧
      ∃ set, catalogUnder .default = .ok set ∧
        set.audit .default [⟨"azurerm_key_vault", "main", declared⟩] =
          set.audit .default [⟨"azurerm_key_vault", "main", reordered⟩] := by
  obtain ⟨patterns, runs, _⟩ := entry_order_irrelevant
  refine ⟨declared_reordered, patterns projectTags _ _ declared_reordered, ?_⟩
  obtain ⟨set, built, same⟩ := runs .default
  exact ⟨set, built, same _ _ (.cons ⟨rfl, rfl, declared_reordered⟩ .nil)⟩

end EntryOrder

end PolicyAudit
