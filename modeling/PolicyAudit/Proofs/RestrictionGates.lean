/-
Module: PolicyAudit.Proofs.RestrictionGates
Purpose: Which configurations get through a gate and restrict something, and that more restrictions
  never close the gate.
Imports: PolicyAudit.Proofs.BlockGates
Trusted boundary: none
Main exports: ConfigTree.Restricts, ConfigTree.Restricts.of_retained, RestrictionGate.Admits,
  RestrictionGate.Rejects, RestrictionGate.Admits.of_retained, restrictionGate_exact
-/
import PolicyAudit.Proofs.BlockGates

namespace PolicyAudit

/-! ### Restrictions of a block -/

namespace ConfigTree

/-- One of the fields holds a populated scalar, as itself, in its list or in a list of that list. -/
def Restricts (block : ConfigTree) (fields : List String) : Prop :=
  ∃ field ∈ fields, ∃ place s, block.HoldsAt field place s ∧ s.Populated

variable {block other : ConfigTree} {fields fields' : List String}

theorem restricts_iff : fields.any block.hasValues = true ↔ block.Restricts fields := by
  simp only [List.any_eq_true, hasValues_iff, Restricts]

/-- A block that retains the scalars of another one restricts as much. -/
theorem Restricts.of_retained (restricts : block.Restricts fields)
    (retained : block.RetainedIn fields other fields') : other.Restricts fields' := by
  obtain ⟨field, listed, place, s, holds, populated⟩ := restricts
  obtain ⟨field', listed', place', holds'⟩ := retained field listed place s holds
  exact ⟨field', listed', place', s, holds', populated⟩

/-- Nothing is lost in the same block by reading more of its fields. -/
theorem retainedIn_of_subset (more : fields ⊆ fields') : block.RetainedIn fields block fields' :=
  fun field listed place _ holds => ⟨field, more listed, place, holds⟩

end ConfigTree

/-! ### Gates with restrictions -/

namespace RestrictionGate

/-- The gate opens to a block that restricts something. -/
def Admits (rule : RestrictionGate) (config : ConfigTree) : Prop :=
  ∃ block, rule.Opens config block ∧ block.Restricts rule.restrictions

/-- Why a configuration is rejected: the gate stops, or it opens to a block without any
restriction. -/
inductive Rejects (rule : RestrictionGate) (config : ConfigTree) : String → Prop where
  | stopped {reason : String} (stops : rule.Stops config reason) : Rejects rule config reason
  | unrestricted {block : ConfigTree} (opens : rule.Opens config block)
      (unrestricted : ¬ block.Restricts rule.restrictions) :
      Rejects rule config
        (rule.block ++ " sets no restriction in any of: " ++ ", ".intercalate rule.restrictions)

variable {rule wider : RestrictionGate} {config config' block other : ConfigTree} {reason : String}

theorem Admits.evaluate_eq (admits : rule.Admits config) : rule.evaluate config = .passed := by
  obtain ⟨block, opens, restricts⟩ := admits
  simp only [evaluate, opens.pass?_eq, ConfigTree.restricts_iff.mpr restricts, if_true]

theorem Rejects.evaluate_eq (rejects : rule.Rejects config reason) :
    rule.evaluate config = .failed reason := by
  cases rejects with
  | stopped stops =>
      obtain ⟨fault, stopped, rfl⟩ := stops.pass?_eq
      simp only [evaluate, stopped]
  | unrestricted opens unrestricted =>
      rw [← ConfigTree.restricts_iff] at unrestricted
      simp only [evaluate, opens.pass?_eq, if_neg unrestricted]

theorem admits_or_rejects (rule : RestrictionGate) (config : ConfigTree) :
    rule.Admits config ∨ ∃ reason, rule.Rejects config reason := by
  rcases rule.opens_or_stops config with ⟨block, opens⟩ | ⟨reason, stops⟩
  · by_cases restricts : block.Restricts rule.restrictions
    · exact .inl ⟨block, opens, restricts⟩
    · exact .inr ⟨_, .unrestricted opens restricts⟩
  · exact .inr ⟨reason, .stopped stops⟩

/-- A gate admits whatever opens it and retains the scalars of a block that another gate admits. -/
theorem Admits.of_retained (admits : rule.Admits config)
    (found : config.get? rule.block = some block) (opens : wider.Opens config' other)
    (retained : block.RetainedIn rule.restrictions other wider.restrictions) :
    wider.Admits config' := by
  obtain ⟨opened, opens', restricts⟩ := admits
  obtain rfl := opens'.eq_of_found found
  exact ⟨other, opens, restricts.of_retained retained⟩

end RestrictionGate

/-- A restriction gate passes exactly the configurations that it admits, and fails every other one
for the first condition that the configuration does not meet.  Where the gate itself stops, it gives
the reason that a gate with an exception gives.  With a configuration that passes, every other one
passes whose block opens the gate and retains what the first block holds in the restricting fields;
and more restricting fields pass whatever passed before. -/
theorem restrictionGate_exact (rule : RestrictionGate) (config : ConfigTree) :
    (rule.evaluate config = .passed ↔ rule.Admits config) ∧
    (∀ reason, rule.evaluate config = .failed reason ↔ rule.Rejects config reason) ∧
    (rule.evaluate config = .passed ∨ ∃ reason, rule.evaluate config = .failed reason) ∧
    (∀ reason, rule.Stops config reason → rule.evaluate config = .failed reason ∧
      ∀ field token, ExceptionGate.evaluate ⟨rule.toGate, field, token⟩ config = .failed reason) ∧
    (∀ block config' other, config.get? rule.block = some block → rule.Opens config' other →
      block.RetainedIn rule.restrictions other rule.restrictions →
      rule.evaluate config = .passed → rule.evaluate config' = .passed) ∧
    (∀ fields, rule.restrictions ⊆ fields → rule.evaluate config = .passed →
      RestrictionGate.evaluate ⟨rule.toGate, fields⟩ config = .passed) := by
  obtain ⟨passes, fails, either⟩ :=
    Evaluation.exact_of_cases RestrictionGate.Admits.evaluate_eq
      (fun _ => RestrictionGate.Rejects.evaluate_eq) (rule.admits_or_rejects config)
  refine ⟨passes, fails, either, ?_, ?_, ?_⟩
  · intro reason stops
    exact ⟨(fails reason).mpr (.stopped stops),
      fun field token => ExceptionGate.Rejects.evaluate_eq (.stopped stops)⟩
  · intro block config' other found opens retained passed
    exact ((passes.mp passed).of_retained found opens retained).evaluate_eq
  · intro fields more passed
    obtain ⟨block, opens, restricts⟩ := passes.mp passed
    have widened : RestrictionGate.Admits ⟨rule.toGate, fields⟩ config :=
      ⟨block, opens, restricts.of_retained (ConfigTree.retainedIn_of_subset more)⟩
    exact widened.evaluate_eq

namespace RestrictionGate

def sample : RestrictionGate := ⟨⟨"rules", "action", "Deny"⟩, ["ips", "subnets"]⟩

/-- A repeated block that lists an address, after a blank, in a list of a list. -/
def byAddress : ConfigTree :=
  .sequence
    [ .mapping
        [ ("action", .sequence [.scalar (.string "Deny")]),
          ("ips", .sequence [.sequence [.scalar (.string " "), .scalar (.string "1.2.3.4")]]) ],
      .mapping [("action", .scalar (.string "Allow"))] ]

/-- A single block with the same scalars in another field. -/
def bySubnet : ConfigTree :=
  .mapping
    [ ("subnets", .sequence [.scalar (.string "1.2.3.4"), .scalar (.string " ")]),
      ("action", .scalar (.string "Deny")) ]

end RestrictionGate

open RestrictionGate in
/-- The restriction may move to another field, and further fields may be accepted.  Without the
block both kinds of gates give one reason. -/
theorem restrictionGate_exact_ofMovedRestriction :
    byAddress.RetainedIn sample.restrictions bySubnet sample.restrictions ∧
    sample.evaluate (.mapping [("rules", byAddress)]) = .passed ∧
    sample.evaluate (.mapping [("rules", bySubnet)]) = .passed ∧
    RestrictionGate.evaluate ⟨sample.toGate, ["tags", "subnets", "ips"]⟩
      (.mapping [("rules", byAddress)]) = .passed ∧
    sample.evaluate (.mapping []) = .failed "rules is absent" ∧
    ExceptionGate.evaluate ⟨sample.toGate, "bypass", "Azure"⟩ (.mapping []) =
      .failed "rules is absent" := by
  have retained : byAddress.RetainedIn sample.restrictions bySubnet sample.restrictions :=
    ConfigTree.retainedIn_iff.mpr (by decide)
  have opensByAddress : sample.Opens (.mapping [("rules", byAddress)]) byAddress :=
    ⟨rfl, .first _ _, ⟨_, .string "Deny", rfl, .first _ _, rfl⟩⟩
  have opensBySubnet : sample.Opens (.mapping [("rules", bySubnet)]) bySubnet :=
    ⟨rfl, .mapping _, ⟨_, .string "Deny", rfl, .scalar _, rfl⟩⟩
  have restricts : byAddress.Restricts sample.restrictions :=
    ConfigTree.restricts_iff.mp (by decide)
  have stops : sample.Stops (.mapping []) "rules is absent" :=
    .absent fun value found => by cases found
  obtain ⟨passes, -, -, -, moved, widened⟩ :=
    restrictionGate_exact sample (.mapping [("rules", byAddress)])
  have passed := passes.mpr ⟨byAddress, opensByAddress, restricts⟩
  obtain ⟨failed, alsoFailed⟩ := (restrictionGate_exact sample (.mapping [])).2.2.2.1 _ stops
  exact ⟨retained, passed, moved _ _ _ rfl opensBySubnet retained passed,
    widened _ (by decide) passed, failed, alsoFailed "bypass" "Azure"⟩

end PolicyAudit
