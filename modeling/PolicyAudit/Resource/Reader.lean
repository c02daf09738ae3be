/-
Module: PolicyAudit.Resource.Reader
Purpose: Reading one declaration straight from its text, with the first fault from left to right.
Imports: PolicyAudit.Resource.Declaration
Trusted boundary: none
Main exports: Declaration.read
-/
import PolicyAudit.Resource.Declaration

namespace PolicyAudit.Declaration

open Json (Fault)

/-! ### Texts -/

/-- What is wrong with a value that had to be a text.  Lists and objects are not looked into. -/
def misfit (c : Char) (rest : List Char) : Fault :=
  if c = '[' ∨ c = '\x7b' then
    .shape
  else
    match Json.readScalar .keep c rest with
    | .ok _ => .shape
    | .error fault => fault

/-- A value that has to be a text. -/
def readText (cs : List Char) : Except Fault (String × List Char) :=
  match Json.skipGap cs with
  | [] => .error .endOfText
  | c :: rest =>
      if c = '"' then
        (Json.readString .keep rest).map fun (s, after) => (.ofList s, after)
      else
        .error (misfit c rest)

/-- A configuration inside the one list or object of its declaration. -/
def readConfig (cs : List Char) : Except Fault (Json × List Char) :=
  (Json.readValue .keep (Json.fuelFor cs) (Json.nestingLimit - 1) cs).map fun (value, rest) =>
    (value.merged, rest)

/-! ### Objects -/

/-- The parts of a declaration that have been read. -/
structure Draft where
  resourceType : Option String
  resourceId : Option String
  config : Option Json

namespace Draft

def empty : Draft := ⟨none, none, none⟩

/-- A part that is missing shows at the end of the object. -/
def finish (draft : Draft) : Except Fault Declaration :=
  match draft.resourceType, draft.resourceId with
  | some resourceType, some resourceId =>
      .ok ⟨resourceType, resourceId, draft.config.getD .null⟩
  | _, _ => .error .shape

/-- The colon and the value after a key.  A known key that is repeated is a fault before its
colon. -/
def readPart (draft : Draft) (key : String) (cs : List Char) :
    Except Fault (Draft × List Char) := do
  if key = "resource_type" then
    if draft.resourceType.isSome then
      .error .shape
    else
      let (text, rest) ← readText (← Json.readColon cs)
      .ok ({ draft with resourceType := some text }, rest)
  else if key = "resource_id" then
    if draft.resourceId.isSome then
      .error .shape
    else
      let (text, rest) ← readText (← Json.readColon cs)
      .ok ({ draft with resourceId := some text }, rest)
  else if key = "config" then
    if draft.config.isSome then
      .error .shape
    else
      let (value, rest) ← readConfig (← Json.readColon cs)
      .ok ({ draft with config := some value }, rest)
  else
    .ok (draft, ← Json.skipValue (← Json.readColon cs))

end Draft

/-- The entries of an object that has at least one, and its closing brace.  Each spends one unit
of `fuel`. -/
def readEntries : Nat → Draft → List Char → Except Fault (Draft × List Char)
  | 0, _, _ => .error .malformed
  | fuel + 1, draft, cs =>
      match Json.skipGap cs with
      | [] => .error .endOfText
      | c :: rest =>
          if c = '"' then do
            let (key, rest) ← Json.readString .keep rest
            let (draft, rest) ← draft.readPart (.ofList key) rest
            match Json.skipGap rest with
            | [] => .error .endOfText
            | d :: rest =>
                if d = ',' then readEntries fuel draft rest
                else if d = '\x7d' then .ok (draft, rest)
                else .error .malformed
          else
            .error .malformed

/-- A declaration from after its opening brace. -/
def readObject (cs : List Char) : Except Fault (Declaration × List Char) :=
  match Json.skipGap cs with
  | [] => .error .endOfText
  | c :: _ =>
      if c = '\x7d' then
        .error .shape
      else do
        let (draft, rest) ← readEntries (cs.length + 1) .empty cs
        .ok (← draft.finish, rest)

/-! ### Lists -/

/-- The comma before a part that has to be there. -/
def readNext (cs : List Char) : Except Fault (List Char) :=
  match Json.skipGap cs with
  | [] => .error .endOfText
  | c :: rest =>
      if c = ']' then
        .error .shape
      else if c = ',' then
        match Json.skipGap rest with
        | [] => .error .endOfText
        | d :: _ => if d = ']' then .error .malformed else .ok rest
      else
        .error .malformed

/-- The closing bracket of a list with all its parts. -/
def readClosing (cs : List Char) : Except Fault (List Char) :=
  match Json.skipGap cs with
  | [] => .error .endOfText
  | c :: rest => if c = ']' then .ok rest else .error .malformed

/-- The configuration at the end of a list, or none, and the closing bracket. -/
def readListEnd (cs : List Char) : Except Fault (Json × List Char) :=
  match Json.skipGap cs with
  | c :: rest =>
      if c = ']' then
        .ok (.null, rest)
      else do
        let (config, rest) ← readConfig (← readNext cs)
        .ok (config, ← readClosing rest)
  | [] => .error .endOfText

/-- A declaration from after its opening bracket. -/
def readList (cs : List Char) : Except Fault (Declaration × List Char) :=
  match Json.skipGap cs with
  | [] => .error .endOfText
  | c :: _ =>
      if c = ']' then
        .error .shape
      else do
        let (resourceType, rest) ← readText cs
        let (resourceId, rest) ← readText (← readNext rest)
        let (config, rest) ← readListEnd rest
        .ok (⟨resourceType, resourceId, config⟩, rest)

/-! ### Declarations -/

/-- The one declaration that a text holds. -/
def read (text : String) : Except Fault Declaration :=
  match Json.skipGap text.toList with
  | [] => .error .endOfText
  | c :: rest =>
      if c = '\x7b' then do
        let (declaration, rest) ← readObject rest
        Json.complete declaration rest
      else if c = '[' then do
        let (declaration, rest) ← readList rest
        Json.complete declaration rest
      else
        .error (misfit c rest)

end PolicyAudit.Declaration
