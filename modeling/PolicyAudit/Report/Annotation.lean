/-
Module: PolicyAudit.Report.Annotation
Purpose: Findings as workflow commands that annotate a build.
Imports: PolicyAudit.Report.Summary
Trusted boundary: none
Main exports: escapeData, escapeProperty, Finding.annotation, Summary.annotations
-/
import PolicyAudit.Report.Summary

namespace PolicyAudit

/-- A character in the text of a command: a command stands on one line. -/
def escapeDataChar (c : Char) : List Char :=
  if c = '%' then ['%', '2', '5']
  else if c = '\r' then ['%', '0', 'D']
  else if c = '\n' then ['%', '0', 'A']
  else [c]

/-- A character in a property of a command: properties end at commas, and the last at a colon. -/
def escapePropertyChar (c : Char) : List Char :=
  if c = ':' then ['%', '3', 'A']
  else if c = ',' then ['%', '2', 'C']
  else escapeDataChar c

def escapeData (text : String) : String :=
  .ofList (text.toList.flatMap escapeDataChar)

def escapeProperty (text : String) : String :=
  .ofList (text.toList.flatMap escapePropertyChar)

/-- The level at which a build shows a severity. -/
def Severity.level : Severity → String
  | critical | high => "error"
  | medium => "warning"
  | low => "notice"

namespace Finding

/-- The resource, the policy's name, and the reason if there is one. -/
def message (f : Finding) : String :=
  f.resourceType ++ "." ++ f.resourceId ++ ": " ++ f.policyName ++
    match f.reason with
    | some reason => " (" ++ reason ++ ")"
    | none => ""

def annotation (f : Finding) : String :=
  "::" ++ f.severity.level ++ " title=" ++ escapeProperty f.policyId ++ "::" ++
    escapeData f.message

end Finding

/-- The annotations of the first findings, at most so many. -/
def Summary.annotations (s : Summary) (limit : Nat) : List String :=
  (s.findings.map Finding.annotation).take limit

end PolicyAudit
