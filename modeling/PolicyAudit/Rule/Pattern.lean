/-
Module: PolicyAudit.Rule.Pattern
Purpose: The reusable rules that policies are made of.
Imports: PolicyAudit.Rule.Gate
Trusted boundary: none
Main exports: GrantScan, RequiredKeys, RequiredField, Pattern, Pattern.evaluate, Pattern.rule
-/
import PolicyAudit.Rule.Gate

namespace PolicyAudit

/-- A scan of granted values for denied ones, without regard to case.  What grants nothing
passes. -/
structure GrantScan where
  fields : List String
  denied : List String
deriving Repr, DecidableEq

namespace GrantScan

def denies (rule : GrantScan) (text : String) : Bool :=
  (rule.denied.map Text.lower).contains (Text.lower text)

/-- The first denied value of a field, in the order of the declaration. -/
def firstDenied? (rule : GrantScan) (config : ConfigTree) (field : String) : Option String :=
  ((config.scalars field).filterMap (·.text?)).find? rule.denies

/-- The first field with a denied value, and the value. -/
def hit? (rule : GrantScan) (config : ConfigTree) : Option (String × String) :=
  rule.fields.findSome? fun field => (rule.firstDenied? config field).map (field, ·)

def evaluate (rule : GrantScan) (config : ConfigTree) : Evaluation :=
  match rule.hit? config with
  | some (field, text) => .failed (field ++ " grants " ++ Text.quoted text)
  | none => .passed

end GrantScan

/-- A block of labels that has to have certain keys, whatever their values. -/
structure RequiredKeys where
  block : String
  keys : List String
deriving Repr, DecidableEq

def RequiredKeys.evaluate (rule : RequiredKeys) (config : ConfigTree) : Evaluation :=
  match config.mapping? rule.block with
  | none => .failed (absentReason rule.block)
  | some labels =>
      match rule.keys.find? fun key => !labels.contains key with
      | some key => .failed (rule.block ++ " is missing " ++ Text.quoted key)
      | none => .passed

/-- A block that has to say something in one field. -/
structure RequiredField where
  block : String
  field : String
deriving Repr, DecidableEq

def RequiredField.evaluate (rule : RequiredField) (config : ConfigTree) : Evaluation :=
  match governedBlock? config rule.block with
  | none => .failed (absentReason rule.block)
  | some block =>
      if (block.scalar? rule.field).any (·.isPopulated) then
        .passed
      else
        .failed (unsetReason rule.block rule.field)

/-- The five kinds of reusable rules. -/
inductive Pattern where
  | exceptionGate (rule : ExceptionGate)
  | restrictionGate (rule : RestrictionGate)
  | grantScan (rule : GrantScan)
  | requiredKeys (rule : RequiredKeys)
  | requiredField (rule : RequiredField)
deriving Repr, DecidableEq

namespace Pattern

def evaluate : Pattern → ConfigTree → Evaluation
  | exceptionGate rule => rule.evaluate
  | restrictionGate rule => rule.evaluate
  | grantScan rule => rule.evaluate
  | requiredKeys rule => rule.evaluate
  | requiredField rule => rule.evaluate

/-- A reusable rule never breaks off. -/
def rule (pattern : Pattern) : Rule :=
  fun config => .ok (pattern.evaluate config)

end Pattern

end PolicyAudit
