/-
Module: PolicyAudit.Failure
Purpose: What went wrong and what was being done, as texts for readers.
Imports: PolicyAudit.Files.Fault, PolicyAudit.Json.Number, PolicyAudit.Policy.Registry,
  PolicyAudit.Report.Basic
Trusted boundary: none
Main exports: Activity, Cause, Failure, Failure.chain, Failure.oneLine, Failure.trace, attempt
-/
import PolicyAudit.Files.Fault
import PolicyAudit.Json.Number
import PolicyAudit.Policy.Registry
import PolicyAudit.Report.Basic

namespace PolicyAudit

/-- What was being done when something went wrong. -/
inductive Activity where
  | readSettings
  | resolveSettings
  | readSeverityOf (id : String)
  | readThreshold
  | buildPolicies
  | parseResources
  | openResources (path : String)
  | loadResources (path : String)
  | parseReport
  | shapeReport
  | openReport (path : String)
  | writeReport (path : String)
  | writeText (path : String)
  | createDirectory (path : String)
  | storeReport
  | storeMarkdown
  | storeOutput
  | runTask
  | createSchemas
  | writeSchema (path : String)
  | readFile (path : String)
  | listFixtures (path : String)
  | auditFixture (name : String)
deriving Repr, Inhabited, DecidableEq

def Activity.describe : Activity → String
  | readSettings => "parse config"
  | resolveSettings => "resolve config"
  | readSeverityOf id => "invalid severity for " ++ id
  | readThreshold => "invalid fail_on"
  | buildPolicies => "build policy set"
  | parseResources => "parse resources json"
  | openResources path => "read resources: " ++ path
  | loadResources path => "load resources: " ++ path
  | parseReport => "parse report json"
  | shapeReport => "parse iacguard report"
  | openReport path => "read report: " ++ path
  | writeReport path => "write report: " ++ path
  | writeText path => "write text: " ++ path
  | createDirectory path => "create directory: " ++ path
  | storeReport => "write report json"
  | storeMarkdown => "write markdown"
  | storeOutput => "write markdown output"
  | runTask => "xtask failed"
  | createSchemas => "Failed to create schemas directory"
  | writeSchema path => "Failed to write schema to " ++ path
  | readFile path => "Failed to read " ++ path
  | listFixtures path => "Failed to read " ++ path ++ "/"
  | auditFixture name => "audit fixture " ++ name

/-- What went wrong in the end. -/
inductive Cause where
  | json (fault : Json.Fault)
  /-- A JSON text that holds no resources. -/
  | notResources
  /-- A text that is no TOML, or holds no settings. -/
  | toml
  | file (fault : FileFault)
  | policy (defect : PolicyDefect)
  | unknownPolicy (id : String)
  | unknownSeverity (word : String)
  | unknownSchema (schema : String)
  | unknownTask (name : String)
  | staleSchemas
  | noFixtures (path : String)
  | gapsInExplanations (count : Nat)
deriving Repr, Inhabited, DecidableEq

def Json.Fault.message : Json.Fault → String
  | endOfText => "the JSON text ends inside a value"
  | malformed => "the JSON text is malformed"
  | shape => "the JSON value has the wrong shape"

def Cause.message : Cause → String
  | json fault => fault.message
  | notResources => "data did not match any variant of untagged enum ResourceDocument"
  | toml => "the TOML text holds no settings"
  | file fault => fault.message
  | policy defect => defect.message
  | unknownPolicy id => "unknown policy id in config: " ++ id
  | unknownSeverity word =>
      "unknown severity: " ++ word ++ " (expected low|medium|high|critical)"
  | unknownSchema schema =>
      "unknown report schema: " ++ Text.quoted schema ++ " (expected " ++ reportSchema ++ ")"
  | unknownTask name =>
      "unknown xtask command: " ++ name ++ "\n\nRun `cargo xtask help` for usage."
  | staleSchemas => "Schema validation failed"
  | noFixtures path => "No fixtures found in " ++ path
  | gapsInExplanations count =>
      "Explain coverage validation failed with " ++ Decimal.text count ++ " errors"

/-- Something that went wrong, with what was being done, the widest activity first. -/
structure Failure where
  during : List Activity
  cause : Cause
deriving Repr, Inhabited, DecidableEq

namespace Failure

/-- Something that went wrong during nothing in particular. -/
def of (cause : Cause) : Failure := ⟨[], cause⟩

/-- The failure as part of a wider activity. -/
def within (activity : Activity) (failure : Failure) : Failure :=
  { failure with during := activity :: failure.during }

/-- The texts from the widest activity to the cause. -/
def chain (failure : Failure) : List String :=
  failure.during.map Activity.describe ++ [failure.cause.message]

/-- The whole chain on one line. -/
def oneLine (failure : Failure) : String :=
  ": ".intercalate failure.chain

/-! ### A line for each cause -/

/-- A text whose later lines stand below the first character of its first line. -/
def indentAfter (front : List Char) (text : String) : List Char :=
  front ++ text.toList.flatMap fun c =>
    if c = '\n' then '\n' :: List.replicate front.length ' ' else [c]

/-- A number that ends in the fifth column, and a colon. -/
def numberMark (n : Nat) : List Char :=
  let digits := Decimal.digits n
  List.replicate (5 - digits.length) ' ' ++ digits ++ [':', ' ']

/-- The texts below the first one; they are numbered if there are several. -/
def listed : List String → List Char
  | [] => []
  | [only] => '\n' :: indentAfter [' ', ' ', ' ', ' '] only
  | texts =>
      (texts.zipIdx).flatMap fun (text, i) => '\n' :: indentAfter (numberMark i) text

/-- The widest activity, and below it what caused its failure. -/
def trace (failure : Failure) : String :=
  match failure.chain with
  | [] => ""
  | [only] => only
  | first :: causes => first ++ "\n\nCaused by:" ++ .ofList (listed causes)

end Failure

/-- The result of an activity; if it failed, the failure is one of that activity. -/
def attempt {α : Type} (activity : Activity) : Except Failure α → Except Failure α :=
  Except.mapError (Failure.within activity)

end PolicyAudit
