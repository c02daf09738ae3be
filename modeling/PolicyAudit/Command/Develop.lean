/-
Module: PolicyAudit.Command.Develop
Purpose: Tasks for developers: schema files, fixtures, and the coverage of explanations.
Imports: PolicyAudit.Host.Basic, PolicyAudit.Policy.Explanation, PolicyAudit.Schema.Published
Trusted boundary: none
Main exports: emitSchemas, validateSchemas, auditFixtures, checkExplanations, runDeveloperTask
-/
import PolicyAudit.Host.Basic
import PolicyAudit.Policy.Explanation
import PolicyAudit.Schema.Published

namespace PolicyAudit.Command

variable {m : Type → Type} [Monad m] [BrowsableHost m]

def schemasPath : String := "schemas"

def fixturesPath : String := "tests/fixtures"

/-! ### Schema files -/

def emitSchema (name : String) (schema : Schema) : ExceptT Failure m Unit := do
  let path := Path.join schemasPath name
  attemptFile [.writeSchema path] (Host.writeFile path schema.text)
  (Host.print ("Wrote " ++ path ++ "\n") : m Unit)

/-- Write every schema to its file. -/
def emitSchemas : ExceptT Failure m Unit := do
  attemptFile [.createSchemas] (Host.createDirectories schemasPath)
  Schema.published.forM fun (name, schema) => emitSchema name schema
  (Host.print "\nSchemas emitted successfully.\n" : m Unit)

/-- How a schema file stands to its schema. -/
inductive SchemaState where
  | upToDate
  | missing
  | outOfDate
deriving Repr, Inhabited, DecidableEq

def schemaState (name : String) (schema : Schema) : ExceptT Failure m SchemaState := do
  let path := Path.join schemasPath name
  if ← (BrowsableHost.isThere path : m Bool) then
    let text ← attemptFile [.readFile path] (Host.readFile path)
    return if text = schema.text then .upToDate else .outOfDate
  else
    return .missing

/-- Compare every schema file with its schema.  Missing files are listed before old ones. -/
def validateSchemas : ExceptT Failure m Unit := do
  let states ← Schema.published.mapM fun (name, schema) => do
    return (name, ← schemaState name schema)
  let missing := states.filter (·.2 = .missing)
  let old := states.filter (·.2 = .outOfDate)
  if missing.isEmpty && old.isEmpty then
    (Host.print "All schemas are up to date.\n" : m Unit)
  else
    (missing.forM fun state => Host.printError ("  - missing: " ++ state.1 ++ "\n") : m Unit)
    (old.forM fun state => Host.printError ("  - out of date: " ++ state.1 ++ "\n") : m Unit)
    (Host.printError "\nRun `cargo xtask emit-schemas` to regenerate.\n" : m Unit)
    throw (.of .staleSchemas)

/-! ### Fixtures -/

/-- The path of a file of a fixture. -/
def fixtureFile (name file : String) : String :=
  Path.join (Path.join fixturesPath name) file

def resourcesName : String := "resources.json"

def settingsName : String := "iacguard.toml"

/-- The directories of fixtures that hold resources, in ascending order. -/
def fixtures : ExceptT Failure m (List String) := do
  let names ← attemptFile [.listFixtures fixturesPath] (BrowsableHost.entries fixturesPath)
  let withResources ←
    (names.filterM fun name => BrowsableHost.isThere (fixtureFile name resourcesName) :
      m (List String))
  return withResources.mergeSort fun a b => decide (a ≤ b)

/-- Audit a fixture under its settings, if it has any.  The report is made of the fields that its
schema lists, so it conforms. -/
def auditFixture (name : String) : ExceptT Failure m Unit := do
  let resources ← attemptFile [.readFile (Path.join name resourcesName)]
    (Host.readFile (fixtureFile name resourcesName))
  let settings ← (Host.readFile (fixtureFile name settingsName) : m _)
  let _ ← attempting (.auditFixture name)
    (ofResult (audit ⟨resources, settings.toOption.getD "", .none⟩))
  (Host.print ("  ✓ " ++ name ++ " validates\n") : m Unit)

/-- Audit every fixture. -/
def auditFixtures : ExceptT Failure m Unit := do
  (Host.print ("✓ " ++ reportSchema ++ " schema compiles\n") : m Unit)
  let names ← fixtures
  if names.isEmpty then
    throw (.of (.noFixtures fixturesPath))
  names.forM auditFixture
  (Host.print ("\n✓ All " ++ Decimal.text names.length ++
    " fixtures produce conforming reports!\n") : m Unit)

/-! ### Explanations -/

/-- Check that every policy of the catalog is explained. -/
def checkExplanations : ExceptT Failure m Unit := do
  if explanationGaps.isEmpty then
    (Host.print ("✓ " ++ Decimal.text knownIds.length ++
      " policy IDs have explanations\n") : m Unit)
  else
    (explanationGaps.forM fun gap => Host.printError ("  - " ++ gap ++ "\n") : m Unit)
    throw (.of (.gapsInExplanations explanationGaps.length))

/-! ### Tasks -/

def taskHelp : String :=
  lines
    [ "xtask commands:",
      "  help              Show this message",
      "  emit-schemas      Generate JSON schemas from Rust types to schemas/",
      "  validate-schemas  Check if schemas/ matches generated output (for CI)",
      "  conform           Audit tests/fixtures/ and validate reports against the schema",
      "  explain-coverage  Validate all policy IDs have explanations" ] ++ "\n"

def developerTask (name : String) : ExceptT Failure m Unit :=
  match name with
  | "help" | "--help" | "-h" => (Host.printError taskHelp : m Unit)
  | "emit-schemas" => attempting .runTask emitSchemas
  | "validate-schemas" => attempting .runTask validateSchemas
  | "conform" => attempting .runTask auditFixtures
  | "explain-coverage" => attempting .runTask checkExplanations
  | other => throw (.of (.unknownTask other))

/-- Run the task that the first argument names; without one, show the help.  The result is the
exit code. -/
def runDeveloperTask (arguments : List String) : m Nat :=
  exitCode (developerTask (arguments.head?.getD "help"))

end PolicyAudit.Command
