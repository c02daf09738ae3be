/-
Module: PolicyAudit.Proofs.InertReasons
Purpose: The catalog has a definite answer for every resource, and no configuration gets a control
  character or a line break into a reason.
Imports: PolicyAudit.Proofs.ConfiguredRuns
Trusted boundary: none
Main exports: Text.Inert, Text.IsInert, Text.isInert_quoted, Pattern.Explains, Pattern.Decides,
  Pattern.evaluate_decides, faultHead, IsRuleReason, Outcome.Definite, catalog_definite
-/
import PolicyAudit.Proofs.ConfiguredRuns

namespace PolicyAudit

/-! ### Inert texts -/

namespace Text

/-- A character that is neither one of the control characters U+0000 to U+001F and U+007F to U+009F
nor the line or paragraph separator. -/
def Inert (c : Char) : Prop :=
  0x1F < c.toNat ∧ ¬(0x7F ≤ c.toNat ∧ c.toNat ≤ 0x9F) ∧ c.toNat ≠ 0x2028 ∧ c.toNat ≠ 0x2029

instance (c : Char) : Decidable (Inert c) :=
  inferInstanceAs (Decidable (_ ∧ _ ∧ _ ∧ _))

/-- A text that can be shown on one line. -/
def IsInert (s : String) : Prop :=
  ∀ c ∈ s.toList, Inert c

instance (s : String) : Decidable (IsInert s) :=
  List.decidableBAll Inert s.toList

theorem IsInert.append {s t : String} (first : IsInert s) (second : IsInert t) :
    IsInert (s ++ t) := by
  intro c member
  rw [String.toList_append, List.mem_append] at member
  exact member.elim (first c) (second c)

theorem IsInert.intercalate {separator : String} (between : IsInert separator) {texts : List String}
    (inert : ∀ t ∈ texts, IsInert t) : IsInert (separator.intercalate texts) := by
  induction texts with
  | nil => exact List.forall_mem_nil _
  | cons t texts inductionHypothesis =>
      obtain ⟨here, further⟩ := List.forall_mem_cons.mp inert
      cases texts with
      | nil => simpa using here
      | cons next texts =>
          rw [String.intercalate_cons_of_ne_nil (List.cons_ne_nil next texts)]
          exact (here.append between).append (inductionHypothesis further)

/-- What stands for itself in quotes is inert. -/
theorem inert_of_plain {c : Char} (noControl : isControl c = false)
    (noSeparator : isSeparator c = false) : Inert c := by
  simp only [isControl, isSeparator, Bool.or_eq_false_iff, Bool.and_eq_false_iff,
    decide_eq_false_iff_not, beq_eq_false_iff_ne] at noControl noSeparator
  unfold Inert
  omega

/-- Hexadecimal digits are inert. -/
theorem inert_of_mem_toDigits {n : Nat} {c : Char} (digit : c ∈ Nat.toDigits 16 n) : Inert c := by
  have inert_digitChar : ∀ d < 16, Inert (Nat.digitChar d) := by decide
  induction n using Nat.strongRecOn with
  | ind n inductionHypothesis =>
      rw [Nat.toDigits_eq_if (by decide)] at digit
      split at digit
      · rename_i small
        rw [List.mem_singleton.mp digit]
        exact inert_digitChar n small
      · rename_i large
        rcases List.mem_append.mp digit with front | last
        · exact inductionHypothesis (n / 16) (by omega) front
        · rw [List.mem_singleton.mp last]
          exact inert_digitChar (n % 16) (Nat.mod_lt n (by decide))

theorem inert_of_mem_codePoint {c d : Char} (member : d ∈ codePoint c) : Inert d := by
  simp only [codePoint, List.mem_cons, List.mem_append, List.not_mem_nil, or_false] at member
  rcases member with rfl | rfl | rfl | digit | rfl
  · decide
  · decide
  · decide
  · exact inert_of_mem_toDigits digit
  · decide

/-- However a character is shown in quotes, nothing of it controls a display. -/
theorem inert_of_mem_shown {c d : Char} (member : d ∈ shown c) : Inert d := by
  have short {e : Char} (inert : Inert e) (part : d ∈ ['\\', e]) : Inert d := by
    rcases List.mem_cons.mp part with rfl | last
    · decide
    · exact List.mem_singleton.mp last ▸ inert
  unfold shown at member
  split at member
  · exact short (by decide) member
  split at member
  · exact short (by decide) member
  split at member
  · exact short (by decide) member
  split at member
  · exact short (by decide) member
  split at member
  · exact short (by decide) member
  split at member
  · exact short (by decide) member
  split at member
  · exact inert_of_mem_codePoint member
  · rename_i plain
    simp only [Bool.or_eq_true, not_or, Bool.not_eq_true] at plain
    rw [List.mem_singleton.mp member]
    exact inert_of_plain plain.1.1.1 plain.1.1.2

/-- A text in quotes is inert whatever the text is. -/
theorem isInert_quoted (s : String) : IsInert (quoted s) := by
  intro c member
  rw [quoted, String.toList_ofList, List.mem_cons, List.mem_append, List.mem_singleton] at member
  rcases member with rfl | inside | rfl
  · decide
  · obtain ⟨original, -, part⟩ := List.mem_flatMap.mp inside
    exact inert_of_mem_shown part
  · decide

end Text

/-! ### Reasons of patterns -/

namespace Pattern

/-- What the reasons of a pattern are about, each of them with one of these in front. -/
def subjects : Pattern → List String
  | exceptionGate rule => [rule.block]
  | restrictionGate rule => [rule.block]
  | grantScan rule => rule.fields
  | requiredKeys rule => [rule.block]
  | requiredField rule => [rule.block]

/-- The texts of a pattern that its reasons hold without quotes. -/
def texts : Pattern → List String
  | exceptionGate rule => [rule.block, rule.discriminator, rule.exceptionField, rule.token]
  | restrictionGate rule => rule.block :: rule.discriminator :: rule.restrictions
  | grantScan rule => rule.fields
  | requiredKeys rule => [rule.block]
  | requiredField rule => [rule.block, rule.field]

/-- The reason names what it is about, and the only texts in it without quotes are those of the
pattern. -/
structure Explains (pattern : Pattern) (reason : String) : Prop where
  subject : ∃ subject ∈ pattern.subjects, subject.toList <+: reason.toList
  inert : (∀ t ∈ pattern.texts, Text.IsInert t) → Text.IsInert reason

end Pattern

theorem isInert_absentReason {block : String} (inert : Text.IsInert block) :
    Text.IsInert (absentReason block) :=
  inert.append (by decide)

theorem isInert_unsetReason {block field : String} (inertBlock : Text.IsInert block)
    (inertField : Text.IsInert field) : Text.IsInert (unsetReason block field) :=
  ((inertBlock.append (by decide)).append inertField).append (by decide)

namespace Gate.Fault

variable (gate : Gate) (fault : Fault)

theorem block_le_reason : gate.block.toList <+: (fault.reason gate).toList := by
  cases fault <;> simp [reason, absentReason, unsetReason]

/-- The text that the discriminator has instead stands in quotes. -/
theorem isInert_reason (inertBlock : Text.IsInert gate.block)
    (inertDiscriminator : Text.IsInert gate.discriminator) : Text.IsInert (fault.reason gate) := by
  cases fault with
  | blockAbsent => exact isInert_absentReason inertBlock
  | discriminatorUnset => exact isInert_unsetReason inertBlock inertDiscriminator
  | discriminatorIs actual =>
      have named : Text.IsInert (gate.block ++ "." ++ gate.discriminator) :=
        (inertBlock.append (by decide)).append inertDiscriminator
      exact (((named.append (by decide)).append (Text.isInert_quoted actual)).append
        (by decide)).append (Text.isInert_quoted gate.required)

end Gate.Fault

namespace Pattern

/-- The evaluation passes, or fails with a reason that the pattern explains. -/
inductive Decides (pattern : Pattern) : Evaluation → Prop where
  | passed : pattern.Decides .passed
  | failed {reason : String} (explains : pattern.Explains reason) :
      pattern.Decides (.failed reason)

/-- A gate explains its faults in the same way whatever its block has to have besides. -/
theorem explains_fault {gate : Gate} {pattern : Pattern} (fault : Gate.Fault)
    (about : gate.block ∈ pattern.subjects) (block : gate.block ∈ pattern.texts)
    (discriminator : gate.discriminator ∈ pattern.texts) :
    pattern.Explains (fault.reason gate) where
  subject := ⟨gate.block, about, fault.block_le_reason gate⟩
  inert := fun inert =>
    fault.isInert_reason gate (inert gate.block block) (inert gate.discriminator discriminator)

theorem explains_absence {pattern : Pattern} {block : String} (about : block ∈ pattern.subjects)
    (own : block ∈ pattern.texts) : pattern.Explains (absentReason block) where
  subject := ⟨block, about, by simp [absentReason]⟩
  inert := fun inert => isInert_absentReason (inert block own)

section

variable (config : ConfigTree)

theorem exceptionGate_decides (rule : ExceptionGate) :
    (exceptionGate rule).Decides (rule.evaluate config) := by
  rw [ExceptionGate.evaluate]
  split
  · rename_i fault _
    exact .failed (explains_fault fault (by simp [subjects]) (by simp [texts]) (by simp [texts]))
  split
  · exact .passed
  · refine .failed ⟨⟨rule.block, by simp [subjects], by simp⟩, fun inert => ?_⟩
    obtain ⟨block, -, exceptionField, token⟩ :
        Text.IsInert rule.block ∧ Text.IsInert rule.discriminator ∧
          Text.IsInert rule.exceptionField ∧ Text.IsInert rule.token := by
      simpa [texts] using inert
    exact (((block.append (by decide)).append exceptionField).append (by decide)).append token

theorem restrictionGate_decides (rule : RestrictionGate) :
    (restrictionGate rule).Decides (rule.evaluate config) := by
  rw [RestrictionGate.evaluate]
  split
  · rename_i fault _
    exact .failed (explains_fault fault (by simp [subjects]) (by simp [texts]) (by simp [texts]))
  split
  · exact .passed
  · refine .failed ⟨⟨rule.block, by simp [subjects], by simp⟩, fun inert => ?_⟩
    obtain ⟨block, -, restrictions⟩ :
        Text.IsInert rule.block ∧ Text.IsInert rule.discriminator ∧
          ∀ t ∈ rule.restrictions, Text.IsInert t := by
      simpa [texts] using inert
    exact (block.append (by decide)).append (Text.IsInert.intercalate (by decide) restrictions)

/-- A field that grants a denied value is one of those scanned. -/
theorem mem_fields_of_hit {rule : GrantScan} {config : ConfigTree} {field text : String}
    (hit : rule.hit? config = some (field, text)) : field ∈ rule.fields := by
  obtain ⟨listed, member, denied⟩ := List.exists_of_findSome?_eq_some hit
  obtain ⟨_, -, same⟩ := Option.map_eq_some_iff.mp denied
  obtain rfl : listed = field := congrArg Prod.fst same
  exact member

theorem grantScan_decides (rule : GrantScan) :
    (grantScan rule).Decides (rule.evaluate config) := by
  rw [GrantScan.evaluate]
  split
  · rename_i field text hit
    have scanned : field ∈ rule.fields := mem_fields_of_hit hit
    refine .failed ⟨⟨field, scanned, by simp⟩, fun inert => ?_⟩
    exact ((inert field scanned).append (by decide)).append (Text.isInert_quoted text)
  · exact .passed

theorem requiredKeys_decides (rule : RequiredKeys) :
    (requiredKeys rule).Decides (rule.evaluate config) := by
  rw [RequiredKeys.evaluate]
  split
  · exact .failed (explains_absence (by simp [subjects]) (by simp [texts]))
  split
  · refine .failed ⟨⟨rule.block, by simp [subjects], by simp⟩, fun inert => ?_⟩
    have block : Text.IsInert rule.block := inert rule.block (by simp [texts])
    exact (block.append (by decide)).append (Text.isInert_quoted _)
  · exact .passed

theorem requiredField_decides (rule : RequiredField) :
    (requiredField rule).Decides (rule.evaluate config) := by
  rw [RequiredField.evaluate]
  split
  · exact .failed (explains_absence (by simp [subjects]) (by simp [texts]))
  split
  · exact .passed
  · refine .failed ⟨⟨rule.block, by simp [subjects], by simp [unsetReason]⟩, fun inert => ?_⟩
    exact isInert_unsetReason (inert rule.block (by simp [texts]))
      (inert rule.field (by simp [texts]))

/-- A pattern passes every configuration or fails it with a reason of its own.  It never breaks off
and never skips. -/
theorem evaluate_decides (pattern : Pattern) : pattern.Decides (pattern.evaluate config) := by
  cases pattern with
  | exceptionGate rule => exact exceptionGate_decides config rule
  | restrictionGate rule => exact restrictionGate_decides config rule
  | grantScan rule => exact grantScan_decides config rule
  | requiredKeys rule => exact requiredKeys_decides config rule
  | requiredField rule => exact requiredField_decides config rule

end

end Pattern

/-! ### Outcomes of the catalog -/

/-- How the reason of a rule that broke off begins. -/
def faultHead : String := "policy evaluation fault"

/-- The catalog holds only inert texts. -/
theorem isInert_texts_catalog :
    ∀ entry ∈ catalogEntries, ∀ t ∈ entry.pattern.texts, Text.IsInert t := by
  decide +kernel

/-- No reason of the catalog can be mistaken for that of a breakdown, whatever follows its
subject. -/
theorem subjects_catalog :
    ∀ entry ∈ catalogEntries, ∀ subject ∈ entry.pattern.subjects,
      ¬subject.toList <+: faultHead.toList ∧ ¬faultHead.toList <+: subject.toList := by
  decide +kernel

/-- The reason is one that a rule has given, and it can be shown on one line. -/
structure IsRuleReason (reason : String) : Prop where
  nonempty : reason ≠ ""
  noFault : ¬faultHead.toList <+: reason.toList
  inert : Text.IsInert reason

/-- The reasons of the catalog are those of rules, and can be shown on one line. -/
theorem isRuleReason_of_explains {entry : CatalogEntry} {reason : String}
    (listed : entry ∈ catalogEntries) (explains : entry.pattern.Explains reason) :
    IsRuleReason reason := by
  obtain ⟨subject, about, front⟩ := explains.subject
  obtain ⟨unlike, unlike'⟩ := subjects_catalog entry listed subject about
  refine ⟨?_, ?_, explains.inert (isInert_texts_catalog entry listed)⟩
  · rintro rfl
    -- the subject would be empty, and so it would begin every text
    rw [String.toList_empty, List.prefix_nil] at front
    exact unlike (front ▸ List.nil_prefix)
  · intro fault
    exact (List.prefix_or_prefix_of_prefix front fault).elim unlike unlike'

/-- An outcome that passes without a reason, fails with the reason of a rule, or is skipped. -/
inductive Outcome.Definite (o : Outcome) : Prop where
  | passed (verdict : o.verdict = .passed) (silent : o.reason = none)
  | failed (verdict : o.verdict = .failed) (reason : String) (given : o.reason = some reason)
      (ofRule : IsRuleReason reason)
  | skipped (verdict : o.verdict = .skipped)

/-- What a pattern of the catalog decides is definite, and not that it does not apply. -/
theorem Policy.outcome_of_decides (p : Policy) {entry : CatalogEntry} {evaluation : Evaluation}
    (listed : entry ∈ catalogEntries) (decides : entry.pattern.Decides evaluation) :
    (p.outcome evaluation).Definite ∧ (p.outcome evaluation).verdict ≠ .skipped := by
  cases decides with
  | passed => exact ⟨.passed rfl rfl, Verdict.noConfusion⟩
  | failed explains =>
      exact ⟨.failed rfl _ rfl (isRuleReason_of_explains listed explains), Verdict.noConfusion⟩

/-- A run without skipped policies reports only those that target the resource. -/
theorem PolicySet.appliesTo_of_concerned {set : PolicySet} {settings : RunSettings}
    {resource : Resource} {p : Policy}
    (concerned : p ∈ set.concerned settings resource) (hidden : settings.reportSkipped = false) :
    p.appliesTo resource.resourceType = true := by
  rw [PolicySet.concerned, hidden] at concerned
  exact (List.mem_filter.mp concerned).2

/-- The outcomes of the catalog are definite.  Whatever settings the policies are built under and
whatever others a run has, on every resource each outcome passes without a reason, fails with one
that is inert and not that of a breakdown, or is skipped, and it is skipped just if the run reports
skipped policies and its policy does not target the type of the resource. -/
theorem catalog_definite (built settings : RunSettings) (resource : Resource) :
    ∃ set, catalogUnder built = .ok set ∧
      ∀ o ∈ (set.report settings resource).outcomes,
        o.Definite ∧
          ∃ p ∈ set.policies, p.id = o.policyId ∧
            (o.verdict = .skipped ↔
              settings.reportSkipped = true ∧ resource.resourceType ∉ p.targets) := by
  refine ⟨PolicySet.ofCatalog.configured built, catalogUnder_eq_ok built, fun o reported => ?_⟩
  rw [PolicySet.report_outcomes] at reported
  obtain ⟨p, concerned, rfl⟩ := List.mem_map.mp reported
  have active := PolicySet.mem_policies_of_concerned _ settings concerned
  obtain ⟨entry, listed, -, same⟩ := exists_entry_of_mem_configured active
  have targets : p.appliesTo resource.resourceType = true ↔ resource.resourceType ∈ p.targets :=
    List.contains_iff_mem
  rw [Policy.answer]
  split
  · rename_i applies
    have decides : entry.pattern.Decides (p.run resource) :=
      same ▸ entry.pattern.evaluate_decides resource.config
    obtain ⟨definite, notSkipped⟩ := p.outcome_of_decides listed decides
    refine ⟨definite, p, active, rfl, ?_⟩
    exact iff_of_false notSkipped fun skipped => skipped.2 (targets.mp applies)
  · rename_i spared
    have shown : settings.reportSkipped = true := by
      by_contra hidden
      exact spared (PolicySet.appliesTo_of_concerned concerned
        (Bool.not_eq_true _ ▸ hidden))
    refine ⟨.skipped rfl, p, active, rfl, ?_⟩
    exact iff_of_true rfl ⟨shown, fun aimed => spared (targets.mpr aimed)⟩

end PolicyAudit
