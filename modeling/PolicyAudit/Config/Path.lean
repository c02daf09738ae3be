/-
Module: PolicyAudit.Config.Path
Purpose: Dotted paths into configuration trees, and what is read at their ends.
Imports: PolicyAudit.Config.Tree, PolicyAudit.Text.LowerCase, PolicyAudit.Text.Split
Trusted boundary: none
Main exports: segments, ConfigTree.get?, ConfigTree.mapping?, ConfigTree.scalar?,
  ConfigTree.scalars, ConfigTree.hasValues, ConfigTree.scalarEquals
-/
import PolicyAudit.Config.Tree
import PolicyAudit.Text.LowerCase
import PolicyAudit.Text.Split

namespace PolicyAudit

/-- The keys that a dotted path names one after the other.  Empty pieces name nothing. -/
def segments (path : String) : List String :=
  ((Text.splitAt '.' path.toList).filter (· ≠ [])).map String.ofList

/-- Two paths joined by a dot name the keys of both. -/
theorem segments_append (p q : String) :
    segments (p ++ "." ++ q) = segments p ++ segments q := by
  simp [segments, Text.splitAt_append]

namespace ConfigTree

/-- Follow keys downward; every tree that is left on the way is read as a block. -/
def descend (t : ConfigTree) : List String → Option ConfigTree
  | [] => some t
  | key :: keys => (t.block?.bind (·.find? key)).bind (·.descend keys)

/-- The tree at a path; the empty path names the tree itself. -/
def get? (t : ConfigTree) (path : String) : Option ConfigTree :=
  t.descend (segments path)

theorem descend_append (t : ConfigTree) (left right : List String) :
    t.descend (left ++ right) = (t.descend left).bind (·.descend right) := by
  induction left generalizing t with
  | nil => rfl
  | cons key left inductionHypothesis =>
      simp only [List.cons_append, descend]
      cases t.block?.bind (·.find? key) with
      | none => rfl
      | some next => exact inductionHypothesis next

/-- The scalar that a tree is, or that its list starts with. -/
def ownScalar? : ConfigTree → Option Scalar
  | scalar s => some s
  | sequence (scalar s :: _) => some s
  | _ => none

/-- The scalar that an item of a list is. -/
def plain? : ConfigTree → Option Scalar
  | scalar s => some s
  | _ => none

/-- The scalars that an item gives to its list: itself, or those of a list that it is. -/
def itemScalars : ConfigTree → List Scalar
  | scalar s => [s]
  | sequence items => items.filterMap plain?
  | mapping _ => []

/-- All scalars of a tree, through at most two lists. -/
def ownScalars : ConfigTree → List Scalar
  | scalar s => [s]
  | sequence items => items.flatMap itemScalars
  | mapping _ => []

def hasPath (t : ConfigTree) (path : String) : Bool :=
  (t.get? path).isSome

def mapping? (t : ConfigTree) (path : String) : Option Mapping :=
  (t.get? path).bind block?

def scalar? (t : ConfigTree) (path : String) : Option Scalar :=
  (t.get? path).bind ownScalar?

/-- All scalars at a path, in the order of the declaration. -/
def scalars (t : ConfigTree) (path : String) : List Scalar :=
  match t.get? path with
  | some found => found.ownScalars
  | none => []

/-- Some scalar at the path says something. -/
def hasValues (t : ConfigTree) (path : String) : Bool :=
  (t.scalars path).any (·.isPopulated)

/-- The scalar at the path has the expected text; ASCII case may be left out of account. -/
def scalarEquals (t : ConfigTree) (path expected : String) (ignoreCase : Bool) : Bool :=
  match (t.scalar? path).bind (·.text?) with
  | none => false
  | some text =>
      if ignoreCase then Text.lowerAscii text == Text.lowerAscii expected else text == expected

end ConfigTree

end PolicyAudit
