/-
Module: PolicyAudit.Config.Tree
Purpose: Configuration trees of resource declarations.
Imports: PolicyAudit.Json.Basic, PolicyAudit.Text.Blank
Trusted boundary: none
Main exports: Scalar, ConfigTree, ConfigTree.block?, ConfigTree.ofJson, ConfigTree.same
-/
import PolicyAudit.Json.Basic
import PolicyAudit.Text.Blank

namespace PolicyAudit

/-- A value without parts. -/
inductive Scalar where
  | null
  | bool (value : Bool)
  | number (value : Json.Number)
  | string (value : String)
deriving Repr, Inhabited, DecidableEq

namespace Scalar

def string? : Scalar → Option String
  | string s => some s
  | _ => none

/-- The text that comparisons look at; null has none. -/
def text? : Scalar → Option String
  | null => none
  | bool value => some (if value then "true" else "false")
  | number value => some (.ofList value.text)
  | string s => some s

/-- A scalar says something unless it is null or a blank text. -/
def isPopulated : Scalar → Bool
  | null => false
  | string s => !Text.isBlankText s
  | bool _ | number _ => true

def display (s : Scalar) : String :=
  s.text?.getD "null"

/-- Equality with numbers compared by value. -/
def same : Scalar → Scalar → Bool
  | number a, number b => a.same b
  | a, b => a == b

end Scalar

/-- A configuration as it is parsed: a nested block is a mapping or a list with one mapping in
it, a repeated block is a list of mappings, and a plain value may stand in a list as well. -/
inductive ConfigTree where
  | scalar (value : Scalar)
  | mapping (entries : List (String × ConfigTree))
  | sequence (items : List ConfigTree)
deriving Repr, Inhabited

/-- The entries of a mapping, in the order of the declaration. -/
abbrev Mapping := List (String × ConfigTree)

namespace Mapping

/-- The value of the first entry with a key. -/
def find? : Mapping → String → Option ConfigTree
  | [], _ => none
  | (k, value) :: rest, key => if k = key then some value else find? rest key

def keys (m : Mapping) : List String :=
  m.map (·.1)

def contains (m : Mapping) (key : String) : Bool :=
  (m.find? key).isSome

end Mapping

namespace ConfigTree

mutual

/-- The configuration that a JSON value holds. -/
def ofJson : Json → ConfigTree
  | .null => scalar .null
  | .bool value => scalar (.bool value)
  | .number value => scalar (.number value)
  | .string value => scalar (.string value)
  | .array items => sequence (ofItems items)
  | .object entries => mapping (ofEntries entries)

def ofItems : List Json → List ConfigTree
  | [] => []
  | item :: items => ofJson item :: ofItems items

def ofEntries : List (String × Json) → Mapping
  | [] => []
  | (key, value) :: entries => (key, ofJson value) :: ofEntries entries

end

/-- The tree read as a block: a mapping, or the first item of a list if that is a mapping. -/
def block? : ConfigTree → Option Mapping
  | mapping entries => some entries
  | sequence (mapping entries :: _) => some entries
  | _ => none

mutual

/-- Equality with numbers compared by value. -/
def same : ConfigTree → ConfigTree → Bool
  | scalar a, scalar b => a.same b
  | mapping a, mapping b => sameEntries a b
  | sequence a, sequence b => sameItems a b
  | _, _ => false

def sameItems : List ConfigTree → List ConfigTree → Bool
  | [], [] => true
  | a :: as, b :: bs => same a b && sameItems as bs
  | _, _ => false

def sameEntries : Mapping → Mapping → Bool
  | [], [] => true
  | (k, a) :: as, (l, b) :: bs => k == l && same a b && sameEntries as bs
  | _, _ => false

end

end ConfigTree

end PolicyAudit
