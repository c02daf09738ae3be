/-
Module: PolicyAudit.Json.Basic
Purpose: JSON trees, as written and with repeated keys merged.
Imports: PolicyAudit.Json.Number
Trusted boundary: none
Main exports: Json, Json.merged, Json.get?
-/
import PolicyAudit.Json.Number

namespace PolicyAudit

/-- A JSON value.  An object keeps its entries in the order of the text. -/
inductive Json where
  | null
  | bool (value : Bool)
  | number (value : Json.Number)
  | string (value : String)
  | array (items : List Json)
  | object (entries : List (String × Json))
deriving Repr, Inhabited

namespace Json

/-- Put an entry in a list of entries with different keys: a known key keeps its place and takes
the new value. -/
def put (entries : List (String × Json)) (key : String) (value : Json) : List (String × Json) :=
  match entries with
  | [] => [(key, value)]
  | entry :: rest =>
      if entry.1 = key then (key, value) :: rest else entry :: put rest key value

mutual

/-- The tree in which each key of an object stands once, at its first place and with its last
value. -/
def merged : Json → Json
  | array items => array (mergedItems items)
  | object entries => object (mergedEntries [] entries)
  | other => other

def mergedItems : List Json → List Json
  | [] => []
  | item :: items => merged item :: mergedItems items

/-- Entries merged onto those already there. -/
def mergedEntries (done : List (String × Json)) : List (String × Json) → List (String × Json)
  | [] => done
  | (key, value) :: entries => mergedEntries (put done key (merged value)) entries

end

/-- The value of the first entry with a key. -/
def get? (key : String) : Json → Option Json
  | object entries => (entries.find? (·.1 = key)).map (·.2)
  | _ => none

end Json

end PolicyAudit
