/-
Module: PolicyAudit.Rule.Gate
Purpose: Blocks that have to forbid by default, with exceptions or restrictions beside it.
Imports: PolicyAudit.Config.Path, PolicyAudit.Rule.Basic, PolicyAudit.Text.Quoted
Trusted boundary: none
Main exports: governedBlock?, Gate, Gate.pass?, ExceptionGate, RestrictionGate
-/
import PolicyAudit.Config.Path
import PolicyAudit.Rule.Basic
import PolicyAudit.Text.Quoted

namespace PolicyAudit

/-- The tree at a path, if it reads as a block. -/
def governedBlock? (config : ConfigTree) (path : String) : Option ConfigTree :=
  (config.get? path).filter (·.block?.isSome)

/-- The reason for a block that is not there. -/
def absentReason (block : String) : String :=
  block ++ " is absent"

/-- The reason for a field of a block that says nothing. -/
def unsetReason (block field : String) : String :=
  block ++ "." ++ field ++ " is not set"

/-- A block whose discriminator has to have the required text. -/
structure Gate where
  block : String
  discriminator : String
  required : String
deriving Repr, DecidableEq

namespace Gate

/-- Why a block does not get through its gate. -/
inductive Fault where
  | blockAbsent
  | discriminatorUnset
  | discriminatorIs (actual : String)
deriving Repr, DecidableEq

def Fault.reason (gate : Gate) : Fault → String
  | blockAbsent => absentReason gate.block
  | discriminatorUnset => unsetReason gate.block gate.discriminator
  | discriminatorIs actual =>
      gate.block ++ "." ++ gate.discriminator ++ " is " ++ Text.quoted actual ++ ", expected " ++
        Text.quoted gate.required

/-- The block, if its discriminator has exactly the required text. -/
def pass? (gate : Gate) (config : ConfigTree) : Except Fault ConfigTree :=
  match governedBlock? config gate.block with
  | none => .error .blockAbsent
  | some block =>
      match (block.scalar? gate.discriminator).bind (·.text?) with
      | none => .error .discriminatorUnset
      | some actual =>
          if actual = gate.required then .ok block else .error (.discriminatorIs actual)

end Gate

/-- A gate whose block also has to name an exception. -/
structure ExceptionGate extends Gate where
  /-- The path inside the block that lists the exceptions. -/
  exceptionField : String
  token : String
deriving Repr, DecidableEq

/-- One of the comma-separated entries of a text is the token, blanks around it aside. -/
def hasToken (token : String) (s : Scalar) : Bool :=
  match s.string? with
  | some text => (Text.splitAt ',' text.toList).any fun entry => Text.trim entry == token.toList
  | none => false

def ExceptionGate.evaluate (rule : ExceptionGate) (config : ConfigTree) : Evaluation :=
  match rule.pass? config with
  | .error fault => .failed (fault.reason rule.toGate)
  | .ok block =>
      if (block.scalars rule.exceptionField).any (hasToken rule.token) then
        .passed
      else
        .failed (rule.block ++ "." ++ rule.exceptionField ++ " does not include " ++ rule.token)

/-- A gate whose block also has to restrict something. -/
structure RestrictionGate extends Gate where
  /-- The paths inside the block of which one has to hold values. -/
  restrictions : List String
deriving Repr, DecidableEq

def RestrictionGate.evaluate (rule : RestrictionGate) (config : ConfigTree) : Evaluation :=
  match rule.pass? config with
  | .error fault => .failed (fault.reason rule.toGate)
  | .ok block =>
      if rule.restrictions.any block.hasValues then
        .passed
      else
        .failed (rule.block ++ " sets no restriction in any of: " ++
          ", ".intercalate rule.restrictions)

end PolicyAudit
