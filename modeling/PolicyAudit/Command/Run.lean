/-
Module: PolicyAudit.Command.Run
Purpose: The commands, on any host.
Imports: PolicyAudit.Command.Request, PolicyAudit.Host.Basic, PolicyAudit.Policy.Explanation,
  PolicyAudit.Report.Annotation, PolicyAudit.Report.Markdown
Trusted boundary: none
Main exports: AuditOptions.compose, AuditOptions.save, AuditOptions.concede, AuditOptions.run,
  Task.run, Request.run
-/
import PolicyAudit.Command.Request
import PolicyAudit.Host.Basic
import PolicyAudit.Policy.Explanation
import PolicyAudit.Report.Annotation
import PolicyAudit.Report.Markdown

namespace PolicyAudit.Command

variable {m : Type → Type} [Monad m] [Host m]

/-- Log an event that the filter shows. -/
def report (filter : Log.Filter) (e : Log.Event) : m Unit :=
  if filter.shows e then Host.log e else pure ()

/-- The settings text at a path; nothing is said where it cannot be read. -/
def readSettings (filter : Log.Filter) (path : String) : m String := do
  match ← Host.readFile path with
  | .ok text => pure text
  | .error fault =>
      report filter
        { area := .commandLine
          level := .debug
          message := "no config loaded (" ++ fault.message ++ "); defaults apply"
          fields := [("config", path)] }
      pure ""

/-! ### Audit -/

/-- The report of an audit of what is found at the paths. -/
def AuditOptions.compose (options : AuditOptions) (filter : Log.Filter) (globals : Globals) :
    ExceptT Failure m Report := do
  let settings ← (readSettings filter globals.settings : m String)
  let resources ← attemptFile [.openResources options.resources]
    (Host.readFile options.resources)
  let startedAt ← (Host.now : m Timestamp)
  let result ← ofResult (audit ⟨resources, settings, globals.overrides⟩)
  (result.events.forM (report filter) : m Unit)
  let finishedAt ← (Host.now : m Timestamp)
  return result.report startedAt finishedAt

/-- Write a report, and its Markdown text if that is asked for. -/
def AuditOptions.save (options : AuditOptions) (written : Report) : ExceptT Failure m Unit := do
  attempting .storeReport (writeReport options.reportOut written)
  if options.writeMarkdown then
    attempting .storeMarkdown (writeText options.markdownOut written.summary.markdown)

/-- Audit the resources and save the report. -/
def AuditOptions.attempt (options : AuditOptions) (filter : Log.Filter) (globals : Globals) :
    ExceptT Failure m RunStatus := do
  let written ← options.compose filter globals
  options.save written
  return written.status

/-- End a failed audit.  It leaves a report that says so, if that can be written. -/
def AuditOptions.concede (options : AuditOptions) (filter : Log.Filter) (failure : Failure) :
    m Nat := do
  report filter
    { area := .commandLine
      level := .error
      message := "audit failed: " ++ failure.oneLine
      fields := [] }
  let time ← Host.now
  let _ ← (writeReport options.reportOut (failureReport failure.oneLine time)).run
  Host.printError ("iacguard error: " ++ failure.oneLine ++ "\n")
  return 1

def AuditOptions.run (options : AuditOptions) (filter : Log.Filter) (globals : Globals) :
    m Nat := do
  match ← (options.attempt filter globals).run with
  | .ok status => return status.exitCode
  | .error failure => options.concede filter failure

/-! ### Other commands -/

/-- A text in a column of so many characters; a longer text stands as it is. -/
def column (width : Nat) (text : String) : String :=
  text ++ .ofList (List.replicate (width - text.length) ' ')

/-- The row of a policy. -/
def policyRow (p : PolicySummary) : String :=
  " ".intercalate
    [ column 20 p.id, column 9 p.severity.word, column 17 p.category.word,
      column 34 (",".intercalate p.targets), p.name ] ++ "\n"

def Task.run (filter : Log.Filter) (globals : Globals) : Task → m Nat
  | audit options => options.run filter globals
  | markdown path output => exitCode do
      let written ← readReport path
      match output with
      | some out => attempting .storeOutput (writeText out written.summary.markdown)
      | none => (Host.print written.summary.markdown : m Unit)
  | annotations path limit => exitCode do
      let written ← readReport path
      ((written.summary.annotations limit).forM fun line => Host.print (line ++ "\n") : m Unit)
  | explain identifier =>
      match explanation? identifier with
      | some explanation => do
          Host.print explanation.write
          pure 0
      | none => do
          Host.printError (notExplained identifier knownIds)
          pure 1
  | policies => exitCode do
      let settings ← (readSettings filter globals.settings : m String)
      let listed ← ofResult (listPolicies settings globals.overrides)
      (listed.forM fun p => Host.print (policyRow p) : m Unit)

/-! ### Requests -/

def versionText : String :=
  thisTool.name ++ " " ++ thisTool.version ++ "\n"

def usage : String :=
  lines
    [ "Usage: iacguard [--config PATH] [--profile NAME] [--fail-on SEVERITY] COMMAND",
      "",
      "Commands:",
      "  audit --resources PATH [--report-out PATH] [--write-markdown] [--markdown-out PATH]",
      "  md [--report PATH] [--output PATH]",
      "  annotations [--report PATH] [--max COUNT]",
      "  explain IDENTIFIER",
      "  policies" ] ++ "\n"

def Request.run (filter : Log.Filter) : Request → m Nat
  | version => do
      Host.print versionText
      pure 0
  | help => do
      Host.print usage
      pure 0
  | task globals asked => asked.run filter globals

/-- Run what the arguments ask for.  Arguments that ask for nothing end with the code 2. -/
def runArguments (filter : Log.Filter) (arguments : List String) : m Nat :=
  match Request.ofArguments arguments with
  | .ok request => request.run filter
  | .error _ => do
      Host.printError usage
      pure 2

end PolicyAudit.Command
