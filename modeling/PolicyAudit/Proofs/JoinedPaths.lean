/-
Module: PolicyAudit.Proofs.JoinedPaths
Purpose: A path joined of two by a dot leads where the second leads from where the first does,
  whatever the paths and their dots, and the reasons of gates name their values by such paths.
Imports: PolicyAudit.Proofs.RestrictionGates
Trusted boundary: none
Main exports: ConfigTree.get?_joined, ConfigTree.get?_joined_of_found, ConfigTree.ReadsFrom,
  ConfigTree.ReadsFrom.of_get?, Gate.tested, Gate.Tells, Gate.reads_tested_iff,
  Gate.stops_iff_tells, joined_paths
-/
import PolicyAudit.Proofs.RestrictionGates

namespace PolicyAudit

/-! ### Accessors -/

namespace ConfigTree

/-- The tree at a joined path is found from the tree at its first part. -/
theorem get?_joined (t : ConfigTree) (p q : String) :
    t.get? (p ++ "." ++ q) = (t.get? p).bind (·.get? q) := by
  rw [get?, segments_append, descend_append]
  rfl

theorem get?_joined_of_found {t below : ConfigTree} {p q : String} (found : t.get? p = some below) :
    t.get? (p ++ "." ++ q) = below.get? q := by
  rw [get?_joined, found, Option.bind_some]

/-- All that is read in a tree at a path is read at another path in the tree that `start` holds;
without one nothing is read. -/
structure ReadsFrom (t : ConfigTree) (path : String) (start : Option ConfigTree) (rest : String) :
    Prop where
  found : t.get? path = start.bind (·.get? rest)
  hasPath : t.hasPath path = start.any (·.hasPath rest)
  mapping : t.mapping? path = start.bind (·.mapping? rest)
  scalar : t.scalar? path = start.bind (·.scalar? rest)
  scalars : t.scalars path = start.elim [] (·.scalars rest)
  hasValues : t.hasValues path = start.any (·.hasValues rest)
  scalarEquals : ∀ expected ignoreCase,
    t.scalarEquals path expected ignoreCase = start.any (·.scalarEquals rest expected ignoreCase)

variable {t : ConfigTree} {path rest : String} {start : Option ConfigTree}

/-- Every accessor reads the tree that its path leads to, and nothing else. -/
theorem ReadsFrom.of_get? (found : t.get? path = start.bind (·.get? rest)) :
    t.ReadsFrom path start rest := by
  -- The last two accessors look at the scalars only, so these come first.
  have scalar : t.scalar? path = start.bind (·.scalar? rest) := by
    simp only [scalar?, found, Option.bind_assoc]
  have scalars : t.scalars path = start.elim [] (·.scalars rest) := by
    rw [ConfigTree.scalars, found]
    cases start <;> rfl
  refine ⟨found, ?_, ?_, scalar, scalars, ?_, ?_⟩
  · rw [ConfigTree.hasPath, found]
    cases start <;> rfl
  · simp only [mapping?, found, Option.bind_assoc]
  · rw [ConfigTree.hasValues, scalars]
    cases start <;> rfl
  · intro expected ignoreCase
    rw [ConfigTree.scalarEquals, scalar]
    cases start <;> rfl

/-- A text is read at a joined path where it is read from the first part on. -/
theorem reads_joined {below : ConfigTree} {p q text : String} (found : t.get? p = some below) :
    t.Reads (p ++ "." ++ q) text ↔ below.Reads q text := by
  rw [Reads, Reads, get?_joined_of_found found]

end ConfigTree

/-! ### Reasons of gates -/

namespace Gate

/-- The path of the value that a gate tests, as its reasons write it. -/
def tested (gate : Gate) : String :=
  gate.block ++ "." ++ gate.discriminator

/-- A reason that names a path, and what is read there in the whole configuration: no text, or one
that is not the required one. -/
inductive Tells (gate : Gate) (config : ConfigTree) : String → Prop where
  | unset (silent : ∀ text, ¬ config.Reads gate.tested text) :
      Tells gate config (gate.tested ++ " is not set")
  | differs {actual : String} (reads : config.Reads gate.tested actual)
      (other : actual ≠ gate.required) :
      Tells gate config
        (gate.tested ++ " is " ++ Text.quoted actual ++ ", expected " ++ Text.quoted gate.required)

variable {gate : Gate} {config block : ConfigTree} {text reason : String}

/-- The discriminator of the block is what stands at the path that the reasons name. -/
theorem reads_tested_iff (found : config.get? gate.block = some block) :
    config.Reads gate.tested text ↔ block.Reads gate.discriminator text :=
  ConfigTree.reads_joined found

theorem opens_iff_reads (found : config.get? gate.block = some block) (isBlock : block.IsBlock) :
    gate.Opens config block ↔ config.Reads gate.tested gate.required := by
  rw [reads_tested_iff found]
  exact ⟨Opens.reads, fun reads => ⟨found, isBlock, reads⟩⟩

/-- A gate that finds its block stops for what stands at the path that its reason names. -/
theorem stops_iff_tells (found : config.get? gate.block = some block) (isBlock : block.IsBlock) :
    gate.Stops config reason ↔ gate.Tells config reason := by
  constructor
  · intro stops
    cases stops with
    | absent missing => exact absurd isBlock (missing block found)
    | unset found' _ silent =>
        exact .unset fun text reads => silent text ((reads_tested_iff found').mp reads)
    | differs found' _ reads other => exact .differs ((reads_tested_iff found').mpr reads) other
  · intro tells
    cases tells with
    | unset silent =>
        exact .unset found isBlock fun text reads => silent text ((reads_tested_iff found).mpr reads)
    | differs reads other => exact .differs found isBlock ((reads_tested_iff found).mp reads) other

end Gate

/-- Paths compose.  Whatever two paths are joined by a dot, each accessor reads at the joined path
what it reads at the second one from the tree at the first, and nothing where there is none.  So a
gate that finds its block tests the value at its block and discriminator joined: it opens for the
text that is read there, or stops, under either kind of rule, with a reason that names this path. -/
theorem joined_paths :
    (∀ (t : ConfigTree) (p q : String),
      t.ReadsFrom (p ++ "." ++ q) (t.get? p) q ∧
      (t.get? p = none → t.get? (p ++ "." ++ q) = none)) ∧
    (∀ (gate : Gate) (config block : ConfigTree), config.get? gate.block = some block →
      block.IsBlock →
      config.get? gate.tested = block.get? gate.discriminator ∧
      (gate.Opens config block ∧ config.Reads gate.tested gate.required ∨
        ∃ reason, gate.Tells config reason ∧
          (∀ field token, ExceptionGate.evaluate ⟨gate, field, token⟩ config = .failed reason) ∧
          ∀ fields, RestrictionGate.evaluate ⟨gate, fields⟩ config = .failed reason)) := by
  constructor
  · intro t p q
    refine ⟨.of_get? (t.get?_joined p q), fun missing => ?_⟩
    rw [t.get?_joined, missing, Option.bind_none]
  · intro gate config block found isBlock
    constructor
    · exact ConfigTree.get?_joined_of_found found
    · rcases gate.opens_or_stops config with ⟨opened, opens⟩ | ⟨reason, stops⟩
      · obtain rfl := opens.eq_of_found found
        exact .inl ⟨opens, (Gate.opens_iff_reads found isBlock).mp opens⟩
      · exact .inr ⟨reason, (Gate.stops_iff_tells found isBlock).mp stops,
          fun field token => ExceptionGate.Rejects.evaluate_eq (.stopped stops),
          fun fields => RestrictionGate.Rejects.evaluate_eq (.stopped stops)⟩

namespace JoinedPaths

/-- A repeated block with a listed value. -/
def acls : ConfigTree :=
  .sequence
    [ .mapping [("mode", .sequence [.scalar (.string "Allow"), .scalar .null])],
      .scalar (.string "Deny") ]

def layered : ConfigTree :=
  .sequence [.mapping [("acls", acls)]]

/-- A gate whose paths have dots that name nothing. -/
def dotted : Gate := ⟨".acls.", ".mode", "Deny"⟩

end JoinedPaths

open JoinedPaths in
/-- Dots that name nothing do no harm: the gate stops for the value under both names, and a path
below a missing one leads nowhere. -/
theorem joined_paths_ofLayers :
    (layered.get? dotted.block = some acls ∧ acls.IsBlock) ∧
    layered.get? dotted.tested = acls.get? ".mode" ∧
    RestrictionGate.evaluate ⟨dotted, []⟩ layered =
      .failed (dotted.tested ++ " is " ++ Text.quoted "Allow" ++ ", expected " ++
        Text.quoted "Deny") ∧
    layered.get? "rules" = none ∧ layered.get? ("rules" ++ "." ++ "..mode") = none := by
  have found : layered.get? dotted.block = some acls := rfl
  have isBlock : acls.IsBlock := .first _ _
  have reads : layered.Reads dotted.tested "Allow" := ConfigTree.reads_iff.mp rfl
  have only : ∀ text, layered.Reads dotted.tested text → "Allow" = text := fun text other =>
    Option.some.inj ((ConfigTree.reads_iff.mpr reads).symm.trans (ConfigTree.reads_iff.mpr other))
  obtain ⟨composes, gates⟩ := joined_paths
  obtain ⟨same, opened | ⟨reason, tells, -, fails⟩⟩ := gates dotted layered acls found isBlock
  · exact absurd (only _ opened.2) (by decide)
  · refine ⟨⟨found, isBlock⟩, same, ?_, rfl, (composes layered "rules" "..mode").2 rfl⟩
    cases tells with
    | unset silent => exact absurd reads (silent "Allow")
    | differs reads' other =>
        obtain rfl := only _ reads'
        exact fails []

end PolicyAudit
