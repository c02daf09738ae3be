/-
Module: PolicyAudit.Host.Basic
Purpose: What commands need of the place where they run, and files of resources and reports there.
Imports: PolicyAudit.Files.Path, PolicyAudit.Report.Format, PolicyAudit.Run.Audit
Trusted boundary: none
Main exports: Host, BrowsableHost, attemptFile, saveText, loadResources, readReport,
  writeReport, writeText, exitCode
-/
import PolicyAudit.Files.Path
import PolicyAudit.Report.Format
import PolicyAudit.Run.Audit

namespace PolicyAudit

/-- A place with files, two streams for texts, a log and a clock. -/
class Host (m : Type → Type) where
  readFile : String → m (Except FileFault String)
  /-- Write a file in a directory that is there. -/
  writeFile : String → String → m (Except FileFault Unit)
  /-- Make a directory and all above it that are missing. -/
  createDirectories : String → m (Except FileFault Unit)
  print : String → m Unit
  printError : String → m Unit
  log : Log.Event → m Unit
  now : m Timestamp

/-- A host in which one can look for files. -/
class BrowsableHost (m : Type → Type) extends Host m where
  isThere : String → m Bool
  /-- The names in a directory, in any order. -/
  entries : String → m (Except FileFault (List String))

section Host

variable {m : Type → Type} [Monad m]

/-- The result of an operation on files; if it failed, during certain activities. -/
def attemptFile {α : Type} (during : List Activity) (operation : m (Except FileFault α)) :
    ExceptT Failure m α :=
  ExceptT.mk do
    match ← operation with
    | .ok value => pure (.ok value)
    | .error fault => pure (.error ⟨during, .file fault⟩)

/-- Let an activity be part of a failure. -/
def attempting {α : Type} (activity : Activity) (action : ExceptT Failure m α) :
    ExceptT Failure m α :=
  ExceptT.mk do
    pure (attempt activity (← action.run))

def ofResult {α : Type} (result : Except Failure α) : ExceptT Failure m α :=
  ExceptT.mk (pure result)

variable [Host m]

/-- Write a file and make the directories above it that are missing. -/
def saveText (path text : String) : ExceptT Failure m Unit := do
  match Path.parent? path with
  | none => pure ()
  | some parent =>
      if parent = "" then
        pure ()
      else
        attemptFile [.createDirectory parent] (Host.createDirectories parent)
  attemptFile [] (Host.writeFile path text)

/-! ### Resources and reports -/

def loadResources (path : String) : ExceptT Failure m (List Resource) := do
  let text ← attemptFile [.openResources path] (Host.readFile path)
  attempting (.loadResources path) (ofResult (Resource.readList text))

def readReport (path : String) : ExceptT Failure m Report := do
  let text ← attemptFile [.openReport path] (Host.readFile path)
  ofResult (Report.read text)

def writeReport (path : String) (report : Report) : ExceptT Failure m Unit :=
  attempting (.writeReport path) (saveText path report.write)

def writeText (path text : String) : ExceptT Failure m Unit :=
  attempting (.writeText path) (saveText path text)

/-! ### Exit codes -/

/-- The exit code of an action.  A failure is shown with its causes. -/
def exitCode (action : ExceptT Failure m Unit) : m Nat := do
  match ← action.run with
  | .ok () => pure 0
  | .error failure =>
      Host.printError ("Error: " ++ failure.trace ++ "\n")
      pure 1

end Host

end PolicyAudit
