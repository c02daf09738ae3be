/-
Module: PolicyAudit.Proofs.FirstDefect
Purpose: Which policies make a set, and which defect keeps the others from making one.
Imports: PolicyAudit.Proofs.PolicyCheck
Trusted boundary: none
Main exports: Policy.IsDefectiveAfter, Policy.Shows, Registry.Fails, Policy.defect?_eq_some_iff,
  firstDefect?_append, firstDefect?_eq_some_iff, Registry.build_eq_error_iff,
  PolicySet.find?_eq_some_iff, Registry.build_exact
-/
import PolicyAudit.Proofs.PolicyCheck

namespace PolicyAudit

/-! ### Defects of one policy -/

section

variable (earlier : List Policy) (p : Policy)

/-- The policy cannot follow the others: its identifier is malformed or one of theirs, its name has
no character that is not blank, or it has no targets. -/
def Policy.IsDefectiveAfter : Prop :=
  isWellFormedId p.id = false ∨ (∃ q ∈ earlier, q.id = p.id) ∨
    (∀ c ∈ p.name.toList, Text.isBlank c = true) ∨ p.targets = []

/-- The defect by which a policy is reported that follows others.  Of several defects it is the one
that comes first here. -/
inductive Policy.Shows : PolicyDefect → Prop where
  | malformedId (malformed : isWellFormedId p.id = false) :
      Shows (.malformedId p.id)
  | duplicateId (wellFormed : isWellFormedId p.id = true)
      (repeated : ∃ q ∈ earlier, q.id = p.id) :
      Shows (.duplicateId p.id)
  | emptyName (wellFormed : isWellFormedId p.id = true) (new : ∀ q ∈ earlier, q.id ≠ p.id)
      (blank : ∀ c ∈ p.name.toList, Text.isBlank c = true) :
      Shows (.emptyName p.id)
  | noTargets (wellFormed : isWellFormedId p.id = true) (new : ∀ q ∈ earlier, q.id ≠ p.id)
      (named : ∃ c ∈ p.name.toList, Text.isBlank c = false) (aimless : p.targets = []) :
      Shows (.noTargets p.id)

end

/-- A policy that is sound has no other defect than to repeat an identifier. -/
theorem Policy.not_isDefectiveAfter_iff {earlier : List Policy} {p : Policy} :
    ¬ p.IsDefectiveAfter earlier ↔ p.IsSound ∧ ∀ q ∈ earlier, q.id ≠ p.id := by
  constructor
  · intro flawless
    refine ⟨⟨?_, ?_, ?_⟩, ?_⟩
    · rw [← Bool.not_eq_false]
      exact fun malformed => flawless (.inl malformed)
    · rw [← Bool.not_eq_true, Text.isBlankText_eq_true_iff]
      exact fun blank => flawless (.inr (.inr (.inl blank)))
    · exact fun aimless => flawless (.inr (.inr (.inr aimless)))
    · exact fun q member equal => flawless (.inr (.inl ⟨q, member, equal⟩))
  · rintro ⟨sound, new⟩ (malformed | ⟨q, member, equal⟩ | blank | aimless)
    · rw [sound.wellFormed] at malformed
      contradiction
    · exact new q member equal
    · have named := sound.named
      rw [Text.isBlankText_eq_true_iff.mpr blank] at named
      contradiction
    · exact sound.aimed aimless

/-- Every defective policy shows a defect. -/
theorem Policy.IsDefectiveAfter.shows {earlier : List Policy} {p : Policy}
    (defective : p.IsDefectiveAfter earlier) : ∃ defect, p.Shows earlier defect := by
  cases wellFormed : isWellFormedId p.id with
  | false => exact ⟨_, .malformedId wellFormed⟩
  | true =>
      by_cases repeated : ∃ q ∈ earlier, q.id = p.id
      · exact ⟨_, .duplicateId wellFormed repeated⟩
      · have new : ∀ q ∈ earlier, q.id ≠ p.id :=
          fun q member equal => repeated ⟨q, member, equal⟩
        cases named : Text.isBlankText p.name with
        | true => exact ⟨_, .emptyName wellFormed new (Text.isBlankText_eq_true_iff.mp named)⟩
        | false =>
            -- only the last way to be defective is left
            rcases defective with malformed | old | blank | aimless
            · rw [wellFormed] at malformed
              contradiction
            · exact absurd old repeated
            · rw [Text.isBlankText_eq_true_iff.mpr blank] at named
              contradiction
            · exact ⟨_, .noTargets wellFormed new (Text.isBlankText_eq_false_iff.mp named) aimless⟩

section

variable {seen : List String} {earlier : List Policy} {p : Policy}
  (same : ∀ id, id ∈ seen ↔ ∃ q ∈ earlier, q.id = id)

include same

/-- The defect that a policy shows is found. -/
theorem Policy.Shows.defect?_eq {defect : PolicyDefect} (shows : p.Shows earlier defect) :
    p.defect? seen = some defect := by
  have notSeen : (∀ q ∈ earlier, q.id ≠ p.id) → p.id ∉ seen := by
    intro new old
    obtain ⟨q, member, equal⟩ := (same p.id).mp old
    exact new q member equal
  unfold Policy.defect?
  cases shows with
  | malformedId malformed => simp [malformed]
  | duplicateId wellFormed repeated => simp [wellFormed, (same p.id).mpr repeated]
  | emptyName wellFormed new blank =>
      simp [wellFormed, notSeen new, Text.isBlankText_eq_true_iff.mpr blank]
  | noTargets wellFormed new named aimless =>
      simp [wellFormed, notSeen new, Text.isBlankText_eq_false_iff.mpr named, aimless]

theorem Policy.defect?_eq_none_iff_not_isDefectiveAfter :
    p.defect? seen = none ↔ ¬ p.IsDefectiveAfter earlier := by
  rw [Policy.defect?_eq_none_iff, Policy.not_isDefectiveAfter_iff, same]
  simp

/-- The defect that is found is the one that a policy shows. -/
theorem Policy.defect?_eq_some_iff {defect : PolicyDefect} :
    p.defect? seen = some defect ↔ p.Shows earlier defect := by
  constructor
  · intro found
    have defective : p.IsDefectiveAfter earlier := by
      apply Classical.byContradiction
      intro flawless
      rw [(Policy.defect?_eq_none_iff_not_isDefectiveAfter same).mpr flawless] at found
      contradiction
    obtain ⟨shown, shows⟩ := defective.shows
    rw [shows.defect?_eq same] at found
    cases found
    exact shows
  · exact Policy.Shows.defect?_eq same

end

/-! ### The first defective policy -/

/-- Some policy of the list cannot follow those before it. -/
def HasDefective (policies : List Policy) : Prop :=
  ∃ earlier p later, policies = earlier ++ p :: later ∧ p.IsDefectiveAfter earlier

/-- The defect is the one that the first defective policy of the list shows. -/
def FirstShows (policies : List Policy) (defect : PolicyDefect) : Prop :=
  ∃ earlier p later, policies = earlier ++ p :: later ∧ ¬ HasDefective earlier ∧
    p.Shows earlier defect

/-- A list is searched from the front, and its second part after the identifiers of the first. -/
theorem firstDefect?_append (seen : List String) (front back : List Policy) :
    firstDefect? seen (front ++ back) =
      (firstDefect? seen front).or (firstDefect? ((front.map (·.id)).reverse ++ seen) back) := by
  induction front generalizing seen with
  | nil => simp [firstDefect?]
  | cons p front inductionHypothesis =>
      simp only [List.cons_append, firstDefect?]
      cases p.defect? seen with
      | some defect => rfl
      | none => simp [inductionHypothesis]

/-- What is found is found at one policy, and nothing before it. -/
theorem firstDefect?_eq_some_split {seen : List String} {policies : List Policy}
    {defect : PolicyDefect} :
    firstDefect? seen policies = some defect ↔
      ∃ earlier p later, policies = earlier ++ p :: later ∧ firstDefect? seen earlier = none ∧
        p.defect? ((earlier.map (·.id)).reverse ++ seen) = some defect := by
  constructor
  · intro found
    induction policies generalizing seen with
    | nil => cases found
    | cons p policies inductionHypothesis =>
        rw [firstDefect?] at found
        split at found
        · rename_i here
          cases found
          exact ⟨[], p, policies, rfl, rfl, here⟩
        · rename_i flawless
          obtain ⟨earlier, q, later, split, none, shown⟩ := inductionHypothesis found
          refine ⟨p :: earlier, q, later, by rw [split]; rfl, ?_, by simpa using shown⟩
          exact firstDefect?_cons_eq_none_iff.mpr ⟨flawless, none⟩
  · rintro ⟨earlier, p, later, rfl, none, shown⟩
    rw [firstDefect?_append, none, firstDefect?, shown]
    rfl

/-- The identifiers that have been seen are those of the policies passed. -/
theorem mem_reverse_ids {policies : List Policy} (id : String) :
    id ∈ (policies.map (·.id)).reverse ++ [] ↔ ∃ p ∈ policies, p.id = id := by
  simp

theorem firstDefect?_eq_none_iff_not_hasDefective {policies : List Policy} :
    firstDefect? [] policies = none ↔ ¬ HasDefective policies := by
  constructor
  · rintro none ⟨earlier, p, later, rfl, defective⟩
    rw [firstDefect?_append, Option.or_eq_none_iff, firstDefect?_cons_eq_none_iff,
      Policy.defect?_eq_none_iff_not_isDefectiveAfter mem_reverse_ids] at none
    exact none.2.1 defective
  · intro flawless
    rw [Option.eq_none_iff_forall_ne_some]
    intro defect found
    obtain ⟨earlier, p, later, split, _, shown⟩ := firstDefect?_eq_some_split.mp found
    refine flawless ⟨earlier, p, later, split, ?_⟩
    apply Classical.byContradiction
    intro notDefective
    rw [(Policy.defect?_eq_none_iff_not_isDefectiveAfter mem_reverse_ids).mpr notDefective] at shown
    contradiction

/-- The defect that is found is the one that the first defective policy shows. -/
theorem firstDefect?_eq_some_iff {policies : List Policy} {defect : PolicyDefect} :
    firstDefect? [] policies = some defect ↔ FirstShows policies defect := by
  simp only [firstDefect?_eq_some_split, FirstShows, firstDefect?_eq_none_iff_not_hasDefective,
    Policy.defect?_eq_some_iff mem_reverse_ids]

/-! ### Building -/

namespace Registry

variable {r : Registry}

theorem build_eq_error_iff {defect : PolicyDefect} :
    r.build = .error defect ↔ firstDefect? [] r.policies = some defect := by
  unfold build
  constructor
  · intro refused
    split at refused
    · rename_i found
      cases refused
      exact found
    · cases refused
  · intro same
    split
    · rename_i found
      rw [found] at same
      cases same
      rfl
    · rename_i none
      rw [none] at same
      cases same

theorem exists_build_eq_ok_iff :
    (∃ set, r.build = .ok set) ↔ firstDefect? [] r.policies = none := by
  constructor
  · rintro ⟨set, built⟩
    rw [build_eq_ok_iff.mp built]
    exact set.sound
  · intro none
    exact ⟨⟨r.policies, none⟩, build_eq_ok_iff.mpr rfl⟩

end Registry

/-- Looking up an identifier finds the policy of the set that has it. -/
theorem PolicySet.find?_eq_some_iff {set : PolicySet} {id : String} {p : Policy} :
    set.find? id = some p ↔ p ∈ set.policies ∧ p.id = id := by
  unfold PolicySet.find?
  constructor
  · intro found
    exact ⟨List.mem_of_find?_eq_some found, by simpa using List.find?_some found⟩
  · rintro ⟨member, rfl⟩
    have distinct := set.nodup_ids
    obtain ⟨front, back, split⟩ := List.append_of_mem member
    rw [split, List.map_append, List.map_cons, List.nodup_append] at distinct
    refine List.find?_eq_some_iff_append.mpr ⟨by simp, front, back, split, ?_⟩
    intro q inFront
    have different : q.id ≠ p.id :=
      distinct.2.2 q.id (List.mem_map_of_mem inFront) p.id List.mem_cons_self
    simpa using different

/-- Policies make a set if and only if every identifier is well formed, no two are the same, every
name has a character that is not blank, and every policy has a target.  The set has the policies as
they are, and finds each by its identifier.  Otherwise the first policy that cannot follow those
before it is named with the defect that it shows, whatever comes after it. -/
theorem Registry.build_exact (r : Registry) :
    ((∃ set, r.build = .ok set) ↔
      (∀ p ∈ r.policies, isWellFormedId p.id = true ∧
        (∃ c ∈ p.name.toList, Text.isBlank c = false) ∧ p.targets ≠ []) ∧
      (r.policies.map (·.id)).Nodup) ∧
    (∀ set, r.build = .ok set → set.policies = r.policies ∧
      ∀ id p, set.find? id = some p ↔ p ∈ r.policies ∧ p.id = id) ∧
    (∀ defect, r.build = .error defect ↔ FirstShows r.policies defect) ∧
    ∀ defect further, r.build = .error defect →
      (r.registerAll further).build = .error defect := by
  refine ⟨?_, ?_, ?_, ?_⟩
  · rw [exists_build_eq_ok_iff, firstDefect?_eq_none_iff]
    simp [Policy.isSound_iff, Text.isBlankText_eq_false_iff]
  · intro set built
    have same := build_eq_ok_iff.mp built
    refine ⟨same.symm, fun id p => ?_⟩
    rw [same]
    exact PolicySet.find?_eq_some_iff
  · intro defect
    rw [build_eq_error_iff, firstDefect?_eq_some_iff]
  · intro defect further refused
    rw [build_eq_error_iff] at refused ⊢
    rw [registerAll, firstDefect?_append, refused]
    rfl

/-- A sound policy, one that repeats its identifier and has neither name nor targets, and one with
a malformed identifier. -/
def Registry.ofDefects : Registry :=
  ⟨[ ⟨"T_1", "sound", .logging, .low, ["type"], fun _ => .ok .passed⟩,
     ⟨"T_1", "\u2003", .logging, .low, [], fun _ => .ok .passed⟩,
     ⟨"T", "malformed", .logging, .low, ["type"], fun _ => .ok .passed⟩ ]⟩

theorem Registry.build_exact_ofDefects :
    ofDefects.build = .error (.duplicateId "T_1") ∧
      (ofDefects.registerAll ofDefects.policies).build = .error (.duplicateId "T_1") := by
  have refused : ofDefects.build = .error (.duplicateId "T_1") :=
    build_eq_error_iff.mpr (by decide +kernel)
  exact ⟨refused, (build_exact ofDefects).2.2.2 _ ofDefects.policies refused⟩

end PolicyAudit
