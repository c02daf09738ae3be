/-
Module: PolicyAudit.Proofs.GrantScans
Purpose: Which configurations a scan for denied grants fails, and the grant that it reports.
Imports: PolicyAudit.Proofs.ScalarPlaces, PolicyAudit.Rule.Pattern
Trusted boundary: none
Main exports: GrantScan.Denies, GrantScan.GrantsAt, GrantScan.FirstGrant,
  GrantScan.Rejects, GrantScan.Rereads, GrantScan.firstDenied?_eq_some_iff,
  GrantScan.hit?_eq_some_iff, GrantScan.failed_iff_grants, GrantScan.Grants.of_rereads,
  grantScan_exact
-/
import PolicyAudit.Proofs.ScalarPlaces
import PolicyAudit.Rule.Pattern

namespace PolicyAudit

namespace GrantScan

/-! ### Denied grants -/

section

variable (rule : GrantScan) (config : ConfigTree)

/-- The text is one of the denied ones, case aside. -/
def Denies (text : String) : Prop :=
  ∃ entry ∈ rule.denied, Text.lower text = Text.lower entry

/-- In the value at a path stands a scalar with a denied text. -/
def GrantsAt (field : String) (place : List Nat) (text : String) : Prop :=
  ∃ s, config.HoldsAt field place s ∧ s.text? = some text ∧ rule.Denies text

/-- Some scanned field grants something denied. -/
def Grants : Prop :=
  ∃ field ∈ rule.fields, ∃ place text, rule.GrantsAt config field place text

/-- The first denied grant and its field: no field before has one, and in the field itself none
stands before it. -/
inductive FirstGrant : String → String → Prop where
  | first {earlier later : List String} {field text : String} {place : List Nat}
      (split : rule.fields = earlier ++ field :: later)
      (clean : ∀ other ∈ earlier, ∀ place text, ¬ rule.GrantsAt config other place text)
      (grants : rule.GrantsAt config field place text)
      (leads : ∀ before other, before < place → ¬ rule.GrantsAt config field before other) :
      FirstGrant field text

/-- A failed configuration is told the first of its denied grants. -/
inductive Rejects : String → Prop where
  | grants {field text : String} (first : rule.FirstGrant config field text) :
      Rejects (field ++ " grants " ++ Text.quoted text)

end

section

variable {rule : GrantScan} {config : ConfigTree} {field text : String}

theorem denies_eq_true_iff : rule.denies text = true ↔ rule.Denies text := by
  rw [denies, List.contains_iff_mem, List.mem_map]
  simp only [Denies, eq_comm]

/-! ### One field -/

theorem any_denies_eq_true_iff {s : Scalar} :
    s.text?.any rule.denies = true ↔ ∃ text, s.text? = some text ∧ rule.Denies text := by
  simp only [Option.any_eq_true, denies_eq_true_iff]

theorem any_denies_eq_false_iff {s : Scalar} :
    s.text?.any rule.denies = false ↔ ∀ text, s.text? = some text → ¬ rule.Denies text := by
  rw [← Bool.not_eq_true, any_denies_eq_true_iff]
  simp

theorem firstDenied?_eq_none_iff :
    rule.firstDenied? config field = none ↔
      ∀ place text, ¬ rule.GrantsAt config field place text := by
  simp only [firstDenied?, List.find?_eq_none, List.mem_filterMap, ConfigTree.mem_scalars_iff,
    denies_eq_true_iff]
  constructor
  · rintro clean place text ⟨s, holds, reads, denied⟩
    exact clean text ⟨s, ⟨place, holds⟩, reads⟩ denied
  · rintro clean text ⟨s, ⟨place, holds⟩, reads⟩ denied
    exact clean place text ⟨s, holds, reads, denied⟩

/-- The search of a field finds the denied grant that stands first in it. -/
theorem firstDenied?_eq_some_iff :
    rule.firstDenied? config field = some text ↔
      ∃ place, rule.GrantsAt config field place text ∧
        ∀ before other, before < place → ¬ rule.GrantsAt config field before other := by
  rw [firstDenied?, List.find?_filterMap, Option.bind_eq_some_iff]
  simp only [ConfigTree.find?_scalars_eq_some_iff, any_denies_eq_true_iff, any_denies_eq_false_iff]
  constructor
  · rintro ⟨s, ⟨place, holds, ⟨_, reads', denied⟩, leads⟩, reads⟩
    obtain rfl := Option.some.inj (reads'.symm.trans reads)
    refine ⟨place, ⟨s, holds, reads, denied⟩, ?_⟩
    rintro before other precedes ⟨s', holds', reads', denied'⟩
    exact leads before s' holds' precedes other reads' denied'
  · rintro ⟨place, ⟨s, holds, reads, denied⟩, leads⟩
    refine ⟨s, ⟨place, holds, ⟨text, reads, denied⟩, ?_⟩, reads⟩
    intro before s' holds' precedes other reads' denied'
    exact leads before other precedes ⟨s', holds', reads', denied'⟩

/-! ### All fields -/

theorem hit?_eq_none_iff : rule.hit? config = none ↔ ¬ rule.Grants config := by
  simp only [hit?, List.findSome?_eq_none_iff, Option.map_eq_none_iff, firstDenied?_eq_none_iff,
    Grants, not_exists, not_and]

/-- The search of all fields finds the first denied grant of the first field that has one. -/
theorem hit?_eq_some_iff :
    rule.hit? config = some (field, text) ↔ rule.FirstGrant config field text := by
  simp only [hit?, List.findSome?_eq_some_iff, Option.map_eq_some_iff, Option.map_eq_none_iff,
    firstDenied?_eq_some_iff, firstDenied?_eq_none_iff]
  constructor
  · rintro ⟨earlier, scanned, later, split, ⟨found, ⟨place, grants, leads⟩, same⟩, clean⟩
    obtain ⟨rfl, rfl⟩ := Prod.mk.inj same
    exact .first split clean grants leads
  · rintro ⟨split, clean, grants, leads⟩
    exact ⟨_, field, _, split, ⟨text, ⟨_, grants, leads⟩, rfl⟩, clean⟩

/-! ### Verdicts -/

theorem evaluate_eq_passed (clean : ¬ rule.Grants config) : rule.evaluate config = .passed := by
  rw [evaluate, hit?_eq_none_iff.mpr clean]

theorem Rejects.evaluate_eq {reason : String} (rejects : rule.Rejects config reason) :
    rule.evaluate config = .failed reason := by
  obtain ⟨first⟩ := rejects
  rw [evaluate, hit?_eq_some_iff.mpr first]

/-- Where something denied is granted, there is a first such grant. -/
theorem Grants.exists_rejects (grants : rule.Grants config) :
    ∃ reason, rule.Rejects config reason := by
  cases hit : rule.hit? config with
  | none => exact absurd grants (hit?_eq_none_iff.mp hit)
  | some found =>
      obtain ⟨field, text⟩ := found
      exact ⟨_, .grants (hit?_eq_some_iff.mp hit)⟩

/-- Whoever fails fails for some grant. -/
theorem failed_iff_grants :
    (∃ reason, rule.evaluate config = .failed reason) ↔ rule.Grants config := by
  constructor
  · rintro ⟨reason, failed⟩
    by_contra clean
    rw [evaluate_eq_passed clean] at failed
    exact Evaluation.passed_ne_failed reason failed
  · intro grants
    obtain ⟨reason, rejects⟩ := grants.exists_rejects
    exact ⟨reason, rejects.evaluate_eq⟩

/-- Every scalar that a scan reads in one configuration it reads in another one as well, perhaps in
another field or at another place. -/
def Rereads (rule : GrantScan) (config other : ConfigTree) : Prop :=
  ∀ field ∈ rule.fields, ∀ place s, config.HoldsAt field place s →
    ∃ field' ∈ rule.fields, ∃ place', other.HoldsAt field' place' s

theorem Grants.of_rereads {other : ConfigTree} (rereads : rule.Rereads config other)
    (grants : rule.Grants config) : rule.Grants other := by
  obtain ⟨field, scanned, place, text, s, holds, reads, denied⟩ := grants
  obtain ⟨field', scanned', place', holds'⟩ := rereads field scanned place s holds
  exact ⟨field', scanned', place', text, s, holds', reads, denied⟩

/-- The same said of the scalars that are read, without their places. -/
theorem rereads_iff {other : ConfigTree} :
    rule.Rereads config other ↔
      ∀ field ∈ rule.fields, ∀ s ∈ config.scalars field,
        ∃ field' ∈ rule.fields, s ∈ other.scalars field' :=
  ConfigTree.retainedIn_iff

end

end GrantScan

/-- A scan fails exactly the configurations that grant something denied, for the first such grant,
and passes every other one.  It cannot be helped by adding grants. -/
theorem grantScan_exact (rule : GrantScan) (config : ConfigTree) :
    ((∃ reason, rule.evaluate config = .failed reason) ↔ rule.Grants config) ∧
    (rule.evaluate config = .passed ↔ ¬ rule.Grants config) ∧
    (∀ reason, rule.evaluate config = .failed reason ↔ rule.Rejects config reason) ∧
    (∀ other, rule.Rereads config other → (∃ reason, rule.evaluate config = .failed reason) →
      ∃ reason, rule.evaluate other = .failed reason) := by
  have covers : ¬ rule.Grants config ∨ ∃ reason, rule.Rejects config reason := by
    by_cases grants : rule.Grants config
    · exact .inr grants.exists_rejects
    · exact .inl grants
  obtain ⟨passes, fails, -⟩ :=
    Evaluation.exact_of_cases GrantScan.evaluate_eq_passed (fun _ => GrantScan.Rejects.evaluate_eq)
      covers
  refine ⟨GrantScan.failed_iff_grants, passes, fails, ?_⟩
  intro other rereads failed
  rw [GrantScan.failed_iff_grants] at failed ⊢
  exact failed.of_rereads rereads

namespace GrantScan

def sample : GrantScan := ⟨["role", "extra.roles"], ["*", "TRUE"]⟩

/-- A wildcard among plain grants. -/
def listed : ConfigTree :=
  .mapping [("role", .sequence [.scalar (.string "reader"), .scalar (.string "*")])]

/-- The same grants in a list of a list under another field, after a truth value. -/
def nested : ConfigTree :=
  .mapping
    [ ("role", .scalar (.bool true)),
      ("extra", .mapping
        [("roles", .sequence [.sequence [.scalar (.string "reader"), .scalar (.string "*")]])]) ]

end GrantScan

/-- A configuration that takes over the failed grants of another one fails, here for a grant that
comes before them. -/
theorem grantScan_exact_ofNestedGrants :
    GrantScan.sample.Rereads GrantScan.listed GrantScan.nested ∧
    (∃ reason, GrantScan.sample.evaluate GrantScan.nested = .failed reason) ∧
    GrantScan.sample.evaluate GrantScan.nested = .failed "role grants \"true\"" := by
  have rereads : GrantScan.sample.Rereads GrantScan.listed GrantScan.nested :=
    GrantScan.rereads_iff.mpr (by decide)
  have wildcard : GrantScan.sample.GrantsAt GrantScan.listed "role" [1] "*" :=
    ⟨.string "*", ⟨_, rfl, .item rfl⟩, rfl, "*", by decide, rfl⟩
  have truth : GrantScan.sample.GrantsAt GrantScan.nested "role" [] "true" :=
    ⟨.bool true, ⟨_, rfl, .whole _⟩, rfl, "TRUE", by decide, by decide⟩
  have first : GrantScan.sample.FirstGrant GrantScan.nested "role" "true" :=
    .first (List.nil_append _).symm (by simp) truth fun _ _ precedes => absurd precedes (by simp)
  have failed := (grantScan_exact _ GrantScan.listed).1.mpr ⟨"role", by decide, [1], "*", wildcard⟩
  have told : "role" ++ " grants " ++ Text.quoted "true" = "role grants \"true\"" := by
    decide +kernel
  exact ⟨rereads, (grantScan_exact _ GrantScan.listed).2.2.2 _ rereads failed,
    ((grantScan_exact _ GrantScan.nested).2.2.1 _).mpr (told ▸ .grants first)⟩

end PolicyAudit
