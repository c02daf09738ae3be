/-
Module: PolicyAudit.Policy.Registry
Purpose: Registering, configuring and checking policies.
Imports: PolicyAudit.Policy.Basic, PolicyAudit.Policy.Identifier
Trusted boundary: none
Main exports: PolicyDefect, Registry, Registry.register, Registry.configure, PolicySet,
  Registry.build
-/
import PolicyAudit.Policy.Basic
import PolicyAudit.Policy.Identifier

namespace PolicyAudit

/-- What keeps a policy out of a policy set. -/
inductive PolicyDefect where
  | malformedId (id : String)
  | duplicateId (id : String)
  | emptyName (id : String)
  | noTargets (id : String)
deriving Repr, Inhabited, DecidableEq

def PolicyDefect.message : PolicyDefect → String
  | malformedId id => "malformed policy id: " ++ Text.quoted id ++ " (expected CATEGORY_PREFIX_<n>)"
  | duplicateId id => "duplicate policy id: " ++ id
  | emptyName id => "policy " ++ id ++ " has an empty name"
  | noTargets id => "policy " ++ id ++ " targets no resource types"

/-- The policies registered so far, in order.  Nothing is checked yet. -/
structure Registry where
  policies : List Policy

namespace Registry

def empty : Registry := ⟨[]⟩

def register (r : Registry) (p : Policy) : Registry :=
  ⟨r.policies ++ [p]⟩

def registerAll (r : Registry) (ps : List Policy) : Registry :=
  ⟨r.policies ++ ps⟩

end Registry

/-- The policy with the severity that the settings give it. -/
def Policy.underSettings (settings : RunSettings) (p : Policy) : Policy :=
  { p with severity := (settings.severityOverride? p.id).getD p.severity }

/-- Drop the disabled policies registered so far and override the severities of the others. -/
def Registry.configure (r : Registry) (settings : RunSettings) : Registry :=
  ⟨(r.policies.filter fun p => settings.isEnabled p.id).map (·.underSettings settings)⟩

/-- The first defect of a policy among those with the given identifiers. -/
def Policy.defect? (seen : List String) (p : Policy) : Option PolicyDefect :=
  if !isWellFormedId p.id then some (.malformedId p.id)
  else if seen.contains p.id then some (.duplicateId p.id)
  else if Text.isBlankText p.name then some (.emptyName p.id)
  else if p.targets.isEmpty then some (.noTargets p.id)
  else none

/-- The defect of the first defective policy; `seen` are the identifiers before it. -/
def firstDefect? (seen : List String) : List Policy → Option PolicyDefect
  | [] => none
  | p :: ps =>
      match p.defect? seen with
      | some defect => some defect
      | none => firstDefect? (p.id :: seen) ps

/-- Checked policies in the order of their registration. -/
structure PolicySet where
  policies : List Policy
  sound : firstDefect? [] policies = none

namespace PolicySet

def length (set : PolicySet) : Nat :=
  set.policies.length

def find? (set : PolicySet) (id : String) : Option Policy :=
  set.policies.find? (·.id = id)

end PolicySet

/-- The policy set, or the first defect in the order of registration. -/
def Registry.build (r : Registry) : Except PolicyDefect PolicySet :=
  match found : firstDefect? [] r.policies with
  | some defect => .error defect
  | none => .ok ⟨r.policies, found⟩

end PolicyAudit
