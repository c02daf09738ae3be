/-
Module: PolicyAudit.Proofs.PolicyCheck
Purpose: What the check of a policy set guarantees.
Imports: PolicyAudit.Policy.Registry
Trusted boundary: none
Main exports: Policy.IsSound, Policy.defect?_eq_none_iff, firstDefect?_cons_eq_none_iff,
  firstDefect?_eq_none_iff, PolicySet.nodup_ids, Registry.build_eq_ok_iff
-/
import PolicyAudit.Policy.Registry

namespace PolicyAudit

/-- A policy that only another one of the same identifier can keep out of a set. -/
structure Policy.IsSound (p : Policy) : Prop where
  wellFormed : isWellFormedId p.id = true
  named : Text.isBlankText p.name = false
  aimed : p.targets ≠ []

theorem Policy.isSound_iff {p : Policy} :
    p.IsSound ↔ isWellFormedId p.id = true ∧ Text.isBlankText p.name = false ∧ p.targets ≠ [] :=
  ⟨fun sound => ⟨sound.wellFormed, sound.named, sound.aimed⟩,
    fun ⟨wellFormed, named, aimed⟩ => ⟨wellFormed, named, aimed⟩⟩

/-- A policy without defects is sound, and its identifier is new. -/
theorem Policy.defect?_eq_none_iff {seen : List String} {p : Policy} :
    p.defect? seen = none ↔ p.IsSound ∧ p.id ∉ seen := by
  rw [Policy.isSound_iff, Policy.defect?]
  cases isWellFormedId p.id <;> cases repeated : seen.contains p.id <;>
    cases Text.isBlankText p.name <;> cases p.targets <;> simp_all

/-- A list without defects starts with a policy without, and goes on without. -/
theorem firstDefect?_cons_eq_none_iff {seen : List String} {p : Policy} {ps : List Policy} :
    firstDefect? seen (p :: ps) = none ↔
      p.defect? seen = none ∧ firstDefect? (p.id :: seen) ps = none := by
  rw [firstDefect?]
  cases p.defect? seen <;> simp

/-- The policies of a list without defects are sound, and their identifiers are new and
different. -/
theorem firstDefect?_eq_none_iff {seen : List String} {policies : List Policy} :
    firstDefect? seen policies = none ↔
      (∀ p ∈ policies, p.IsSound ∧ p.id ∉ seen) ∧ (policies.map (·.id)).Nodup := by
  induction policies generalizing seen with
  | nil => simp [firstDefect?]
  | cons first policies inductionHypothesis =>
      rw [firstDefect?_cons_eq_none_iff, Policy.defect?_eq_none_iff, inductionHypothesis,
        List.forall_mem_cons, List.map_cons, List.nodup_cons, List.mem_map]
      constructor
      · rintro ⟨here, further, distinct⟩
        refine ⟨⟨here, fun p member => ?_⟩, ?_, distinct⟩
        · exact ⟨(further p member).1, fun old => (further p member).2 (List.mem_cons_of_mem _ old)⟩
        · rintro ⟨p, member, same⟩
          exact (further p member).2 (same ▸ List.mem_cons_self)
      · rintro ⟨⟨here, further⟩, new, distinct⟩
        refine ⟨here, fun p member => ⟨(further p member).1, fun old => ?_⟩, distinct⟩
        rcases List.mem_cons.mp old with same | old
        · exact new ⟨p, member, same⟩
        · exact (further p member).2 old

/-- The policies of a set have different identifiers. -/
theorem PolicySet.nodup_ids (set : PolicySet) : (set.policies.map (·.id)).Nodup :=
  (firstDefect?_eq_none_iff.mp set.sound).2

/-- A set is built from the policies that it has. -/
theorem Registry.build_eq_ok_iff {r : Registry} {set : PolicySet} :
    r.build = .ok set ↔ r.policies = set.policies := by
  unfold Registry.build
  constructor
  · intro built
    split at built
    · cases built
    · cases built
      rfl
  · intro same
    have none : firstDefect? [] r.policies = none := same ▸ set.sound
    split
    · rename_i defect found
      rw [none] at found
      cases found
    · obtain ⟨policies, sound⟩ := set
      cases same
      rfl

end PolicyAudit
