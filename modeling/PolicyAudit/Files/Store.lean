/-
Module: PolicyAudit.Files.Store
Purpose: A file system as a value.
Imports: PolicyAudit.Files.Fault, PolicyAudit.Files.Path
Trusted boundary: none
Main exports: Location, FileNode, FileStore, FileStore.readText, FileStore.writeText,
  FileStore.createDirectories, FileStore.isThere, FileStore.entries, FileStore.remove,
  FileStore.texts
-/
import PolicyAudit.Files.Fault
import PolicyAudit.Files.Path

namespace PolicyAudit

/-- A place in the file system: the names from the root to it. -/
abbrev Location := List String

inductive FileNode where
  | file (text : String)
  | directory
deriving Repr, Inhabited, DecidableEq

/-- The files and directories, and the directory where relative paths start. -/
structure FileStore where
  nodes : List (Location × FileNode)
  here : Location
deriving Repr, Inhabited

namespace FileStore

def findIn (place : Location) : List (Location × FileNode) → Option FileNode
  | [] => none
  | (p, node) :: rest => if p = place then some node else findIn place rest

/-- What is at a place.  The root is always a directory. -/
def node? (s : FileStore) (place : Location) : Option FileNode :=
  if place = [] then some .directory else findIn place s.nodes

def putIn (place : Location) (node : FileNode) :
    List (Location × FileNode) → List (Location × FileNode)
  | [] => [(place, node)]
  | (p, old) :: rest =>
      if p = place then (place, node) :: rest else (p, old) :: putIn place node rest

/-- Let something be at a place. -/
def put (s : FileStore) (place : Location) (node : FileNode) : FileStore :=
  { s with nodes := putIn place node s.nodes }

private theorem findIn_putIn (place other : Location) (node : FileNode)
    (nodes : List (Location × FileNode)) :
    findIn other (putIn place node nodes) =
      if other = place then some node else findIn other nodes := by
  induction nodes with
  | nil =>
      by_cases same : other = place
      · simp [putIn, findIn, same]
      · simp [putIn, findIn, same, Ne.symm same]
  | cons head rest inductionHypothesis =>
      rw [putIn]
      split
      · rename_i here
        by_cases same : other = place
        · simp [findIn, same]
        · simp [findIn, same, Ne.symm same, here]
      · rename_i elsewhere
        simp only [findIn, inductionHypothesis]
        by_cases same : other = place
        · simp [same, elsewhere]
        · simp [same]

/-- What is put at a place is there, and nothing else changes. -/
theorem node?_put (s : FileStore) {place : Location} (other : Location) (node : FileNode)
    (notRoot : place ≠ []) :
    (s.put place node).node? other = if other = place then some node else s.node? other := by
  by_cases root : other = []
  · simp [node?, root, Ne.symm notRoot]
  · simp [node?, put, root, findIn_putIn]

/-! ### Paths -/

/-- The longest path, and the longest name in it, in bytes. -/
def pathLimit : Nat := 4095

def nameLimit : Nat := 255

/-- Some paths lead nowhere in any file system. -/
def checkPath (path : String) : Except FileFault Unit :=
  if path.toList.contains '\x00' then .error .invalidName
  else if path = "" then .error .notFound
  else if pathLimit < path.utf8ByteSize then .error .nameTooLong
  else .ok ()

/-- Go from a place, which has to be a directory, to a name below it; a dot stays, and two dots go
up. -/
def enter (s : FileStore) (place : Location) (name : String) : Except FileFault Location :=
  match s.node? place with
  | none => .error .notFound
  | some (.file _) => .error .notADirectory
  | some .directory =>
      if name = "." then .ok place
      else if name = ".." then .ok place.dropLast
      else if nameLimit < name.utf8ByteSize then .error .nameTooLong
      else .ok (place ++ [name])

def start (s : FileStore) (path : String) : Location :=
  if Path.isAbsolute path then [] else s.here

/-- The place that names lead to; there need not be anything at it. -/
def follow (s : FileStore) (place : Location) (names : List String) : Except FileFault Location :=
  names.foldlM s.enter place

/-- What a path leads to. -/
def lookUp (s : FileStore) (path : String) : Except FileFault (Location × FileNode) := do
  checkPath path
  let place ← s.follow (s.start path) (Path.names path)
  match s.node? place with
  | none => .error .notFound
  | some .directory => .ok (place, .directory)
  | some (.file text) =>
      if Path.endsOpen path then .error .notADirectory else .ok (place, .file text)

/-- Where the last name of a path goes, and the name; a path without names goes to the root. -/
def target (s : FileStore) (path : String) : Except FileFault (Location × String) := do
  checkPath path
  match (Path.names path).getLast? with
  | none => .ok ([], ".")
  | some last =>
      let place ← s.follow (s.start path) (Path.names path).dropLast
      .ok (← s.enter place last, last)

/-- A name for a directory that is already there. -/
def isDots (name : String) : Bool :=
  name == "." || name == ".."

/-! ### Operations -/

def readText (s : FileStore) (path : String) : Except FileFault String := do
  match ← s.lookUp path with
  | (_, .file text) => .ok text
  | (_, .directory) => .error .isADirectory

/-- Write a file, new or not, in a directory that is there. -/
def writeText (s : FileStore) (path text : String) : Except FileFault FileStore := do
  let (place, last) ← s.target path
  if isDots last || Path.endsOpen path || s.node? place == some .directory then
    .error .isADirectory
  else
    .ok (s.put place (.file text))

def isThere (s : FileStore) (path : String) : Bool :=
  (s.lookUp path).toBool

def isDirectory (s : FileStore) (path : String) : Bool :=
  match s.lookUp path with
  | .ok (_, .directory) => true
  | _ => false

/-- Make one directory in another. -/
def createDirectory (s : FileStore) (path : String) : Except FileFault FileStore := do
  let (place, last) ← s.target path
  if isDots last || (s.node? place).isSome then
    .error .alreadyExists
  else
    .ok (s.put place .directory)

/-- Make a directory unless it is there. -/
def ensureDirectory (s : FileStore) (path : String) : Except FileFault FileStore :=
  match s.createDirectory path with
  | .ok s => .ok s
  | .error fault => if s.isDirectory path then .ok s else .error fault

/-- Make directories, given from the bottom up, those above first where they are missing. -/
def ensureAll (s : FileStore) : List String → Except FileFault FileStore
  | [] => .ok s
  | path :: above =>
      match s.createDirectory path with
      | .ok s => .ok s
      | .error .notFound => do
          let s ← s.ensureAll above
          s.ensureDirectory path
      | .error fault => if s.isDirectory path then .ok s else .error fault

/-- Make a directory and all above it that are missing. -/
def createDirectories (s : FileStore) (path : String) : Except FileFault FileStore :=
  s.ensureAll (Path.upward (path.length + 1) path)

/-- The names in a directory. -/
def entries (s : FileStore) (path : String) : Except FileFault (List String) := do
  match ← s.lookUp path with
  | (_, .file _) => .error .notADirectory
  | (place, .directory) =>
      .ok (s.nodes.filterMap fun (p, _) =>
        if p.dropLast = place then p.getLast? else none)

/-- Take away what a path leads to, with all below it. -/
def remove (s : FileStore) (path : String) : Except FileFault FileStore := do
  let (place, _) ← s.lookUp path
  .ok { s with nodes := s.nodes.filter fun (p, _) => !place.isPrefixOf p }

/-- The files below the starting directory, by their relative paths. -/
def texts (s : FileStore) : List (String × String) :=
  s.nodes.filterMap fun (p, node) =>
    match node with
    | .file text =>
        if s.here.isPrefixOf p then
          some ("/".intercalate (p.drop s.here.length), text)
        else
          none
    | .directory => none

end FileStore

end PolicyAudit
