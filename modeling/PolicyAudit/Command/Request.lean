/-
Module: PolicyAudit.Command.Request
Purpose: What can be asked for on the command line.
Imports: PolicyAudit.Command.Arguments, PolicyAudit.Decimal.Digits, PolicyAudit.Settings.Resolve
Trusted boundary: none
Main exports: Globals, AuditOptions, Task, Request, Request.ofArguments
-/
import PolicyAudit.Command.Arguments
import PolicyAudit.Decimal.Digits
import PolicyAudit.Settings.Resolve

namespace PolicyAudit.Command

/-- What stands before the name of a command. -/
structure Globals where
  /-- The path of the settings file. -/
  settings : String
  overrides : Overrides
deriving Repr, Inhabited, DecidableEq

/-- Where an audit reads and writes. -/
structure AuditOptions where
  resources : String
  reportOut : String
  writeMarkdown : Bool
  markdownOut : String
deriving Repr, Inhabited, DecidableEq

/-- A command with its options. -/
inductive Task where
  | audit (options : AuditOptions)
  | markdown (report : String) (output : Option String)
  | annotations (report : String) (limit : Nat)
  | explain (identifier : String)
  | policies
deriving Repr, Inhabited, DecidableEq

inductive Request where
  | version
  | help
  | task (globals : Globals) (task : Task)
deriving Repr, Inhabited, DecidableEq

/-! ### Options -/

def helpFlag : Flag := ⟨"help", some 'h', .stop⟩

def globalFlags : List Flag :=
  [ ⟨"config", none, .value⟩, ⟨"profile", none, .value⟩, ⟨"fail-on", none, .value⟩, helpFlag,
    ⟨"version", some 'V', .stop⟩ ]

def auditFlags : List Flag :=
  [ ⟨"resources", none, .value⟩, ⟨"report-out", none, .value⟩,
    ⟨"write-markdown", none, .switch⟩, ⟨"markdown-out", none, .value⟩, helpFlag ]

def markdownFlags : List Flag :=
  [⟨"report", none, .value⟩, ⟨"output", some 'o', .value⟩, helpFlag]

def annotationFlags : List Flag :=
  [⟨"report", none, .value⟩, ⟨"max", none, .value⟩, helpFlag]

def settingsPath : String := "iacguard.toml"

def reportPath : String := "artifacts/iacguard/report.json"

def markdownPath : String := "artifacts/iacguard/comment.md"

/-- A count of 64 bits in decimal digits, perhaps after a plus sign. -/
def readCount? (text : String) : Option Nat :=
  let digits :=
    match text.toList with
    | '+' :: cs => cs
    | cs => cs
  if digits ≠ [] ∧ digits.all Char.isDigit ∧ Decimal.ofDigits digits < UInt64.size then
    some (Decimal.ofDigits digits)
  else
    none

def Given.globals (given : Given) : Globals where
  settings := (given.find? "config").getD settingsPath
  overrides := ⟨given.find? "profile", given.find? "fail-on"⟩

/-! ### Commands -/

/-- A command without operands. -/
def Given.withoutOperands (given : Given) : Except Refusal Unit :=
  match given.operands with
  | [] => .ok ()
  | operand :: _ => .error (.unexpected operand)

def Given.audit (given : Given) : Except Refusal Task := do
  given.withoutOperands
  match given.find? "resources" with
  | none => .error (.optionMissing "resources")
  | some resources =>
      .ok (.audit
        { resources := resources
          reportOut := (given.find? "report-out").getD reportPath
          writeMarkdown := (given.find? "write-markdown").isSome
          markdownOut := (given.find? "markdown-out").getD markdownPath })

def Given.markdown (given : Given) : Except Refusal Task := do
  given.withoutOperands
  .ok (.markdown ((given.find? "report").getD reportPath) (given.find? "output"))

def Given.annotations (given : Given) : Except Refusal Task := do
  given.withoutOperands
  let limit ←
    match given.find? "max" with
    | none => .ok 10
    | some text =>
        match readCount? text with
        | some limit => .ok limit
        | none => .error (.badValue "max" text)
  .ok (.annotations ((given.find? "report").getD reportPath) limit)

def Given.explain (given : Given) : Except Refusal Task :=
  match given.operands with
  | [identifier] => .ok (.explain identifier)
  | [] => .error .operandMissing
  | _ :: operand :: _ => .error (.unexpected operand)

def Given.policies (given : Given) : Except Refusal Task := do
  given.withoutOperands
  .ok .policies

/-- The options of a command, and how they make a task. -/
def command? (name : String) : Option (List Flag × (Given → Except Refusal Task)) :=
  match name with
  | "audit" => some (auditFlags, Given.audit)
  | "md" => some (markdownFlags, Given.markdown)
  | "annotations" => some (annotationFlags, Given.annotations)
  | "explain" => some ([helpFlag], Given.explain)
  | "policies" => some ([helpFlag], Given.policies)
  | _ => none

/-- The request for a command and its arguments. -/
def Globals.request (globals : Globals) (name : String) (arguments : List String) :
    Except Refusal Request :=
  if name = "help" then
    .ok .help
  else
    match command? name with
    | none => .error (.unknownCommand name)
    | some (flags, task) => do
        match ← read flags false .nothing arguments with
        | .stopped _ => .ok .help
        | .before given _ | .operands given => .ok (.task globals (← task given))

/-- The request that arguments make. -/
def Request.ofArguments (arguments : List String) : Except Refusal Request := do
  match ← read globalFlags true .nothing arguments with
  | .stopped name => .ok (if name = "version" then .version else .help)
  | .operands given => do
      given.withoutOperands
      .error .commandMissing
  | .before _ [] => .error .commandMissing
  | .before given (name :: rest) => given.globals.request name rest

end PolicyAudit.Command
