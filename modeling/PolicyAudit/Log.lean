/-
Module: PolicyAudit.Log
Purpose: Events of a run, and which of them are shown.
Imports: PolicyAudit.Decimal.Digits, PolicyAudit.Text.Blank, PolicyAudit.Text.LowerCase,
  PolicyAudit.Text.Quoted, PolicyAudit.Text.Split
Trusted boundary: none
Main exports: Log.Level, Log.Area, Log.Event, Log.Event.line, Log.Filter, Log.Filter.read?,
  Log.Filter.shows
-/
import PolicyAudit.Decimal.Digits
import PolicyAudit.Text.Blank
import PolicyAudit.Text.LowerCase
import PolicyAudit.Text.Quoted
import PolicyAudit.Text.Split

namespace PolicyAudit.Log

/-- How much an event matters; later levels matter less. -/
inductive Level where
  | error
  | warn
  | info
  | debug
  | trace
deriving Repr, Inhabited, DecidableEq

namespace Level

def rank : Level → Nat
  | error => 1
  | warn => 2
  | info => 3
  | debug => 4
  | trace => 5

def all : List Level := [error, warn, info, debug, trace]

def word : Level → String
  | error => "error"
  | warn => "warn"
  | info => "info"
  | debug => "debug"
  | trace => "trace"

/-- The word in capitals, to the right of five columns. -/
def column : Level → String
  | error => "ERROR"
  | warn => " WARN"
  | info => " INFO"
  | debug => "DEBUG"
  | trace => "TRACE"

end Level

/-- The part of the program that an event comes from. -/
inductive Area where
  | commandLine
  | audit
  | evaluation
deriving Repr, Inhabited, DecidableEq

/-- The name by which a filter knows an area. -/
def Area.path : Area → String
  | commandLine => "iacguard"
  | audit => "iacguard_app::check"
  | evaluation => "iacguard_domain::engine"

/-- Something that happened, with what it happened to. -/
structure Event where
  area : Area
  level : Level
  message : String
  fields : List (String × String)
deriving Repr, Inhabited, DecidableEq

/-! ### Lines -/

/-- A character of a message.  Those that a terminal takes for a command are spelled out. -/
def harmless (c : Char) : List Char :=
  if c = '\x1b' then ['\\', 'x', '1', 'b']
  else if c = '\x07' then ['\\', 'x', '0', '7']
  else if c = '\x08' then ['\\', 'x', '0', '8']
  else if c = '\x0c' then ['\\', 'x', '0', 'c']
  else if c = '\x7f' then ['\\', 'x', '7', 'f']
  else if 0x80 ≤ c.toNat ∧ c.toNat ≤ 0x9F then Text.codePoint c
  else [c]

/-- The line of an event at a time. -/
def Event.line (e : Event) (time : String) : String :=
  time ++ " " ++ e.level.column ++ " " ++ .ofList (e.message.toList.flatMap harmless) ++
    String.join (e.fields.map fun field => " " ++ field.1 ++ "=" ++ field.2) ++ "\n"

/-! ### Filters -/

/-- Up to which level events are shown whose area's name starts in a certain way. -/
structure Directive where
  start : String
  /-- Nothing is shown without a level. -/
  upTo : Option Level
deriving Repr, Inhabited, DecidableEq

abbrev Filter := List Directive

/-- A level by its word, in any case, or by its rank; `off` and 0 are no level. -/
def readLevel? (cs : List Char) : Option (Option Level) :=
  let word := Text.lowerAscii (.ofList cs)
  if word = "off" ∨ word = "0" then
    some none
  else
    (Level.all.find? fun l => word = l.word ∨ cs = Decimal.digits l.rank).map some

/-- A directive is a level for all areas, or the start of their names and a level.  A start
without a level shows everything. -/
def readDirective? (cs : List Char) : Option Directive :=
  match Text.splitAt '=' cs with
  | [only] =>
      match readLevel? only with
      | some upTo => some ⟨"", upTo⟩
      | none => some ⟨.ofList only, some .trace⟩
  | [[], _] => none
  | [start, []] => some ⟨.ofList start, some .trace⟩
  | [start, level] => (readLevel? level).map (⟨.ofList start, ·⟩)
  | _ => none

namespace Filter

/-- Directives between commas; empty ones do not count.  Without any, only errors are shown. -/
def read? (text : String) : Option Filter := do
  let directives ←
    (((Text.splitAt ',' text.toList).filter (· ≠ [])).map Text.trim).mapM readDirective?
  some (if directives = [] then [⟨"", some .error⟩] else directives)

def default : Filter := [⟨"iacguard", some .info⟩, ⟨"", some .warn⟩]

/-- The filter that is asked for, or the default one where there is none or it cannot be read. -/
def ofSetting (setting : Option String) : Filter :=
  (setting.bind read?).getD default

/-- The directive with the longest start counts; of two with one start the later. -/
def decisive? (filter : Filter) (area : Area) : Option Directive :=
  (filter.filter fun d => d.start.toList.isPrefixOf area.path.toList).foldl
    (fun best d =>
      match best with
      | none => some d
      | some b => if b.start.length ≤ d.start.length then some d else some b)
    none

def shows (filter : Filter) (e : Event) : Bool :=
  match (filter.decisive? e.area).bind (·.upTo) with
  | some upTo => e.level.rank ≤ upTo.rank
  | none => false

end Filter

end PolicyAudit.Log
