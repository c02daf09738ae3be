/-
Module: PolicyAudit.Schema.Basic
Purpose: Descriptions of records, and the JSON schemas that they give.
Imports: PolicyAudit.Json.Printer
Trusted boundary: none
Main exports: Schema.Shape, Schema.Field, Schema.Definition, Schema, Schema.toJson, Schema.text
-/
import PolicyAudit.Json.Printer

namespace PolicyAudit

namespace Schema

/-- What values a field can have. -/
inductive Shape where
  | text
  | flag
  | word32
  /-- A value or null. -/
  | optional (shape : Shape)
  | list (item : Shape)
  /-- An object with any keys. -/
  | table (value : Shape)
  /-- A value that has a definition of its own. -/
  | named (name : String)
deriving Repr, Inhabited

structure Field where
  name : String
  description : Option String
  shape : Shape
  /-- The field cannot be left out. -/
  needed : Bool
  /-- What stands for a field that is left out. -/
  default : Option Json
deriving Repr, Inhabited

/-- A record with fields, or one of several words. -/
inductive Body where
  | record (fields : List Field)
  | words (all : List String)
deriving Repr, Inhabited

structure Definition where
  name : String
  description : Option String
  body : Body
deriving Repr, Inhabited

end Schema

/-- The description of a kind of document, with the definitions that it refers to. -/
structure Schema where
  root : Schema.Definition
  definitions : List Schema.Definition
deriving Repr, Inhabited

namespace Schema

/-! ### Fields -/

/-- A field that cannot be left out. -/
def field (name : String) (shape : Shape) (description : Option String) : Field :=
  ⟨name, description, shape, true, none⟩

/-- A field that can be left out. -/
def openField (name : String) (shape : Shape) (description : Option String) : Field :=
  ⟨name, description, shape, false, none⟩

/-! ### JSON -/

def descriptionEntries (description : Option String) : List (String × Json) :=
  (description.map fun d => ("description", Json.string d)).toList

/-- The entries that describe the values of a field; the type comes first. -/
def Shape.entries : Shape → List (String × Json)
  | text => [("type", .string "string")]
  | flag => [("type", .string "boolean")]
  | word32 =>
      [ ("type", .string "integer"), ("format", .string "uint32"),
        ("minimum", .number (.int 0)) ]
  | optional shape =>
      match shape.entries with
      | (key, type) :: rest => (key, .array [type, .string "null"]) :: rest
      | [] => []
  | list item => [("type", .string "array"), ("items", .object item.entries)]
  | table value => [("type", .string "object"), ("additionalProperties", .object value.entries)]
  | named name => [("$ref", .string ("#/$defs/" ++ name))]

def Field.toJson (f : Field) : Json :=
  .object (descriptionEntries f.description ++ f.shape.entries ++
    (f.default.map fun value => ("default", value)).toList)

/-- The entries of a definition.  What cannot be left out is listed if there is any. -/
def Definition.entries (d : Definition) : List (String × Json) :=
  descriptionEntries d.description ++
    match d.body with
    | .record fields =>
        let needed := fields.filter (·.needed)
        [ ("type", .string "object"),
          ("properties", .object (fields.map fun f => (f.name, f.toJson))) ] ++
          if needed.isEmpty then [] else [("required", .array (needed.map (.string ·.name)))]
    | .words all => [("type", .string "string"), ("enum", .array (all.map .string))]

def toJson (s : Schema) : Json :=
  .object
    ([ ("$schema", .string "https://json-schema.org/draft/2020-12/schema"),
       ("title", .string s.root.name) ] ++ s.root.entries ++
      [("$defs", .object (s.definitions.map fun d => (d.name, .object d.entries)))])

/-- The text of a schema file. -/
def text (s : Schema) : String :=
  s.toJson.pretty ++ "\n"

end Schema

end PolicyAudit
