/-
Module: PolicyAudit.Settings.File
Purpose: Settings as a file writes them, before anything is checked against the catalog.
Imports: PolicyAudit.Json.Shape, PolicyAudit.Table, PolicyAudit.Toml.Document
Trusted boundary: none
Main exports: FileSetting, SettingsFile, SettingsFile.ofToml?, SettingsFile.read?,
  SettingsFile.ofJson?, SettingsFile.toJson
-/
import PolicyAudit.Json.Shape
import PolicyAudit.Table
import PolicyAudit.Toml.Document

namespace PolicyAudit

/-- What a settings file says about one policy. -/
structure FileSetting where
  enabled : Option Bool
  severity : Option String
deriving Repr, Inhabited, DecidableEq

/-- What a settings file says.  Nothing has to be there, and what is not known does not count. -/
structure SettingsFile where
  schema : Option String
  profile : Option String
  failOn : Option String
  reportSkipped : Option Bool
  policies : Table FileSetting

namespace SettingsFile

def empty : SettingsFile := ⟨none, none, none, none, .empty⟩

instance : Inhabited SettingsFile := ⟨empty⟩

end SettingsFile

/-! ### From TOML -/

/-- A part that may be missing. -/
def Toml.part? {α : Type} (read? : Toml → Option α) : Option Toml → Option (Option α)
  | none => some none
  | some value => (read? value).map some

/-- The values of all keys that are not known can at least be read. -/
def Toml.othersReadable (known : List String) (entries : Toml.Entries) : Bool :=
  entries.all fun entry => known.contains entry.1 || entry.2.isReadable

/-- The setting of a policy is a table or the list of its parts.  A date has no parts that count,
so it says nothing. -/
def FileSetting.ofToml? : Toml → Option FileSetting
  | .table _ entries => do
      guard (Toml.othersReadable ["enabled", "severity"] entries)
      let enabled ← Toml.part? Toml.flag? (Toml.findPair? "enabled" entries)
      let severity ← Toml.part? Toml.string? (Toml.findPair? "severity" entries)
      some ⟨enabled, severity⟩
  | .array items => do
      let enabled ← Toml.part? Toml.flag? items[0]?
      let severity ← Toml.part? Toml.string? items[1]?
      some ⟨enabled, severity⟩
  | .moment => some ⟨none, none⟩
  | _ => none

/-- The settings of policies by their identifiers. -/
def FileSetting.tableOfToml? : Toml → Option (Table FileSetting)
  | .table _ entries =>
      (entries.mapM fun entry => (FileSetting.ofToml? entry.2).map (entry.1, ·)).map .ofList
  | _ => none

namespace SettingsFile

def fields : List String := ["schema", "profile", "fail_on", "report_skipped", "policies"]

def ofToml? (entries : Toml.Entries) : Option SettingsFile := do
  guard (Toml.othersReadable fields entries)
  let schema ← Toml.part? Toml.string? (Toml.findPair? "schema" entries)
  let profile ← Toml.part? Toml.string? (Toml.findPair? "profile" entries)
  let failOn ← Toml.part? Toml.string? (Toml.findPair? "fail_on" entries)
  let reportSkipped ← Toml.part? Toml.flag? (Toml.findPair? "report_skipped" entries)
  let policies ← Toml.part? FileSetting.tableOfToml? (Toml.findPair? "policies" entries)
  some ⟨schema, profile, failOn, reportSkipped, policies.getD .empty⟩

/-- The settings that a TOML text holds. -/
def read? (text : String) : Option SettingsFile :=
  (Toml.read? text).bind ofToml?

end SettingsFile

/-! ### From and to JSON -/

def FileSetting.ofJson? (value : Json) : Option FileSetting := do
  match ← value.parts? ["enabled", "severity"] with
  | [enabled, severity] =>
      some ⟨← Json.optional? Json.flag? enabled, ← Json.optional? Json.string? severity⟩
  | _ => none

/-- An entry that is left out where there is nothing to write. -/
def Json.entryOf {α : Type} (key : String) (write : α → Json) : Option α → List (String × Json)
  | none => []
  | some value => [(key, write value)]

def FileSetting.toJson (setting : FileSetting) : Json :=
  .object (Json.entryOf "enabled" .bool setting.enabled ++
    Json.entryOf "severity" .string setting.severity)

namespace SettingsFile

def ofJson? (value : Json) : Option SettingsFile := do
  match ← value.parts? fields with
  | [schema, profile, failOn, reportSkipped, policies] =>
      let schema ← Json.optional? Json.string? schema
      let profile ← Json.optional? Json.string? profile
      let failOn ← Json.optional? Json.string? failOn
      let reportSkipped ← Json.optional? Json.flag? reportSkipped
      let policies ← Json.orDefault? [] (Json.entries? FileSetting.ofJson?) policies
      some ⟨schema, profile, failOn, reportSkipped, .ofList policies⟩
  | _ => none

/-- What the file says, without what it does not say; the table of policies always stands. -/
def toJson (file : SettingsFile) : Json :=
  .object (Json.entryOf "schema" .string file.schema ++
    Json.entryOf "profile" .string file.profile ++
    Json.entryOf "fail_on" .string file.failOn ++
    Json.entryOf "report_skipped" .bool file.reportSkipped ++
    [("policies", .object (file.policies.map FileSetting.toJson).entries)])

end SettingsFile

end PolicyAudit
