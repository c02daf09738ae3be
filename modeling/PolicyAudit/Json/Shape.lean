/-
Module: PolicyAudit.Json.Shape
Purpose: Reading JSON trees as values of a known shape.
Imports: PolicyAudit.Json.Basic
Trusted boundary: none
Main exports: Json.parts?, Json.needed?, Json.optional?, Json.string?, Json.flag?, Json.word32?,
  Json.list?, Json.table?, Json.oneOf?
-/
import PolicyAudit.Json.Basic

namespace PolicyAudit.Json

/-- The parts of a record, one for each name.  A record is an object in which no name stands
twice and other keys do not matter, or the list of its parts in order, where parts at the end may
be left out. -/
def parts? (names : List String) : Json → Option (List (Option Json))
  | object entries =>
      if names.all fun name => (entries.filter (·.1 = name)).length ≤ 1 then
        some (names.map fun name => (object entries).get? name)
      else
        none
  | array items =>
      if items.length ≤ names.length then
        some (items.map some ++ List.replicate (names.length - items.length) none)
      else
        none
  | _ => none

/-- A part that has to be there. -/
def needed? {α : Type} (read? : Json → Option α) (part : Option Json) : Option α :=
  part.bind read?

/-- A part that may be missing or null. -/
def optional? {α : Type} (read? : Json → Option α) : Option Json → Option (Option α)
  | none | some null => some none
  | some value => (read? value).map some

/-- A part that stands for `default` where it is missing. -/
def orDefault? {α : Type} (default : α) (read? : Json → Option α) : Option Json → Option α
  | none => some default
  | some value => read? value

def string? : Json → Option String
  | string value => some value
  | _ => none

def flag? : Json → Option Bool
  | bool value => some value
  | _ => none

/-- A natural number of 32 bits. -/
def word32? : Json → Option UInt32
  | number (.int value) =>
      if 0 ≤ value ∧ value < UInt32.size then some (UInt32.ofNat value.toNat) else none
  | _ => none

def list? {α : Type} (read? : Json → Option α) : Json → Option (List α)
  | array items => items.mapM read?
  | _ => none

/-- The entries of an object. -/
def entries? {α : Type} (read? : Json → Option α) : Json → Option (List (String × α))
  | object entries => entries.mapM fun (key, value) => (read? value).map (key, ·)
  | _ => none

/-- One of several words: as a string, or as the only key of an object with the value null. -/
def oneOf? {α : Type} (word : α → String) (all : List α) : Json → Option α
  | string name => all.find? (word · = name)
  | object [(name, null)] => all.find? (word · = name)
  | _ => none

end PolicyAudit.Json
