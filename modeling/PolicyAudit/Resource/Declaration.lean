/-
Module: PolicyAudit.Resource.Declaration
Purpose: Resource declarations, and the documents that list them.
Imports: PolicyAudit.Failure, PolicyAudit.Json.Reader, PolicyAudit.Json.Shape,
  PolicyAudit.Run.Evaluate
Trusted boundary: none
Main exports: Declaration, Declaration.resource, Declaration.ofJson?, Declaration.listOfJson?,
  Resource.readList
-/
import PolicyAudit.Failure
import PolicyAudit.Json.Reader
import PolicyAudit.Json.Shape
import PolicyAudit.Run.Evaluate

namespace PolicyAudit

/-- A resource as it is declared; a configuration in which no key is repeated. -/
structure Declaration where
  resourceType : String
  resourceId : String
  config : Json
deriving Repr, Inhabited

namespace Declaration

def resource (d : Declaration) : Resource :=
  ⟨d.resourceType, d.resourceId, .ofJson d.config⟩

def toJson (d : Declaration) : Json :=
  .object [("resource_type", .string d.resourceType), ("resource_id", .string d.resourceId),
    ("config", d.config)]

def fields : List String := ["resource_type", "resource_id", "config"]

/-- A declaration is a record; a configuration that is left out is null. -/
def ofJson? (value : Json) : Option Declaration := do
  match ← value.parts? fields with
  | [resourceType, resourceId, config] =>
      let resourceType ← Json.needed? Json.string? resourceType
      let resourceId ← Json.needed? Json.string? resourceId
      some ⟨resourceType, resourceId, (config.getD .null).merged⟩
  | _ => none

/-- A document lists declarations, either as it is or as the one entry `resources` of an object
whose other entries do not count. -/
def listOfJson? : Json → Option (List Declaration)
  | .array items => items.mapM ofJson?
  | .object entries =>
      match (Json.object entries).parts? ["resources"] with
      | some [some resources] => Json.list? ofJson? resources
      | _ => none
  | _ => none

end Declaration

/-- The resources that a document declares.  One bad declaration makes the whole document bad,
and a document that is bad counts before what follows it in the text. -/
def Resource.readList (text : String) : Except Failure (List Resource) :=
  match Json.readFront text.toList with
  | .error fault => .error ⟨[.parseResources], .json fault⟩
  | .ok (value, rest) =>
      match Declaration.listOfJson? value with
      | none => .error ⟨[.parseResources], .notResources⟩
      | some declarations =>
          match Json.complete declarations rest with
          | .error fault => .error ⟨[.parseResources], .json fault⟩
          | .ok declarations => .ok (declarations.map Declaration.resource)

end PolicyAudit
