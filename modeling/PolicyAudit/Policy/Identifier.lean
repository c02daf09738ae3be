/-
Module: PolicyAudit.Policy.Identifier
Purpose: The form of policy identifiers: a category prefix and a number.
Imports: PolicyAudit.Text.Split
Trusted boundary: none
Main exports: isWellFormedId
-/
import PolicyAudit.Text.Split

namespace PolicyAudit

/-- An ASCII capital or digit. -/
def isIdChar (c : Char) : Bool :=
  c.isUpper || c.isDigit

/-- A piece of an identifier's prefix. -/
def isIdPiece (piece : List Char) : Bool :=
  !piece.isEmpty && piece.all isIdChar

/-- The pieces between underscores are at least two.  The last one is a number, the others consist
of capitals and digits, and the first starts with a capital. -/
def isWellFormedId (id : String) : Bool :=
  match (Text.splitAt '_' id.toList).reverse with
  | [] | [_] => false
  | number :: pieces =>
      !number.isEmpty && number.all Char.isDigit && pieces.all isIdPiece &&
        (id.toList.head?.any Char.isUpper)

example : isWellFormedId "CKV_AZURE_CUSTOM_1" = true := by decide +kernel

example : isWellFormedId "CKV_azure_1" = false := by decide +kernel

end PolicyAudit
