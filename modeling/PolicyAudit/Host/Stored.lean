/-
Module: PolicyAudit.Host.Stored
Purpose: A host whose files, streams and clock are a value.
Imports: PolicyAudit.Files.Store, PolicyAudit.Host.Basic
Trusted boundary: none
Main exports: Notice, FileAction, FileAttempt, Outage, StoredHost, StoredHost.ofFiles
-/
import PolicyAudit.Files.Store
import PolicyAudit.Host.Basic

namespace PolicyAudit

/-- What is written to the stream for errors: a text, or an event with its time. -/
inductive Notice where
  | text (s : String)
  | event (time : Timestamp) (e : Log.Event)
deriving Repr, Inhabited, DecidableEq

/-- What can be tried with files. -/
inductive FileAction where
  | read (path : String)
  | write (path text : String)
  | createDirectories (path : String)
  | lookFor (path : String)
  | list (path : String)
deriving Repr, Inhabited, DecidableEq

/-- Something that has been tried with files, and the fault if it failed. -/
structure FileAttempt where
  action : FileAction
  fault : Option FileFault
deriving Repr, Inhabited, DecidableEq

/-- What makes an attempt fail that the files allow: a full disk, a missing right. -/
structure Outage where
  fault : FileFault
  /-- What a file holds that was to be written, if a part of the text has come to it. -/
  leftover : Option String
deriving Repr, Inhabited, DecidableEq

/-- The files after an outage while a file was being written.  Where the file cannot be opened
nothing is left in it. -/
def Outage.spoil (outage : Outage) (path : String) (files : FileStore) : FileStore :=
  match outage.leftover with
  | some text => (files.writeText path text).toOption.getD files
  | none => files

/-- The files, what has been written to the two streams, a clock with the number of times that it
has been read, and what has been tried with the files. -/
structure StoredHost where
  files : FileStore
  printed : String
  notices : List Notice
  clock : Nat → Timestamp
  readings : Nat
  /-- The outages by the number of attempts before them. -/
  outages : Nat → Option Outage
  attempts : List FileAttempt

namespace StoredHost

def ofFiles (files : FileStore) : StoredHost :=
  ⟨files, "", [], fun _ => .epoch, 0, fun _ => none, []⟩

/-! ### Files -/

/-- The outage that the next attempt meets. -/
def outage? (host : StoredHost) : Option Outage :=
  host.outages host.attempts.length

/-- The host after an attempt that leaves certain files. -/
def after (host : StoredHost) (action : FileAction) (fault : Option FileFault)
    (files : FileStore) : StoredHost :=
  { host with files := files, attempts := host.attempts ++ [⟨action, fault⟩] }

/-- Look at the files, if no outage stops it. -/
def look {α : Type} (action : FileAction) (f : FileStore → Except FileFault α) :
    StateM StoredHost (Except FileFault α) := do
  let host ← get
  let result : Except FileFault α :=
    match host.outage? with
    | some outage => .error outage.fault
    | none => f host.files
  match result with
  | .ok value =>
      set (host.after action none host.files)
      return .ok value
  | .error fault =>
      set (host.after action (some fault) host.files)
      return .error fault

/-- Change the files, if no outage stops it and leaves them as it does. -/
def change (action : FileAction) (f : FileStore → Except FileFault FileStore)
    (left : Outage → FileStore → FileStore) : StateM StoredHost (Except FileFault Unit) := do
  let host ← get
  match host.outage? with
  | some outage =>
      set (host.after action (some outage.fault) (left outage host.files))
      return .error outage.fault
  | none =>
      match f host.files with
      | .ok files =>
          set (host.after action none files)
          return .ok ()
      | .error fault =>
          set (host.after action (some fault) host.files)
          return .error fault

/-! ### Streams and clock -/

def readClock : StateM StoredHost Timestamp := do
  let host ← get
  set { host with readings := host.readings + 1 }
  return host.clock host.readings

def note (notice : Notice) : StateM StoredHost Unit :=
  modify fun host => { host with notices := host.notices ++ [notice] }

instance : BrowsableHost (StateM StoredHost) where
  readFile path := look (.read path) (·.readText path)
  writeFile path text := change (.write path text) (·.writeText path text) (·.spoil path)
  createDirectories path :=
    change (.createDirectories path) (·.createDirectories path) fun _ files => files
  isThere path := do
    return (← look (.lookFor path) fun files => .ok (files.isThere path)).toOption.getD false
  entries path := look (.list path) (·.entries path)
  print text := modify fun host => { host with printed := host.printed ++ text }
  printError text := note (.text text)
  log e := do note (.event (← readClock) e)
  now := readClock

end StoredHost

end PolicyAudit
