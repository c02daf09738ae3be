/-
Module: PolicyAudit.Command.Arguments
Purpose: Reading the arguments of a command: options with and without values, and operands.
Trusted boundary: none
Main exports: FlagKind, Flag, Refusal, Given, Ending, look, read
-/
namespace PolicyAudit.Command

/-- What an option does with the text after it. -/
inductive FlagKind where
  /-- The option takes a value. -/
  | value
  | switch
  /-- Nothing after the option counts. -/
  | stop
deriving Repr, Inhabited, DecidableEq

/-- An option by its long name, with or without a letter of its own. -/
structure Flag where
  name : String
  letter : Option Char
  kind : FlagKind
deriving Repr, Inhabited, DecidableEq

/-- Why arguments are not taken. -/
inductive Refusal where
  | unknownOption (text : String)
  | valueMissing (name : String)
  /-- A value for an option that takes none. -/
  | valueNotTaken (name : String)
  | repeated (name : String)
  | badValue (name value : String)
  | optionMissing (name : String)
  | operandMissing
  | unexpected (operand : String)
  | commandMissing
  | unknownCommand (name : String)
deriving Repr, Inhabited, DecidableEq

/-- What has been given so far: options with their values, and operands. -/
structure Given where
  options : List (String × String)
  operands : List String
deriving Repr, Inhabited, DecidableEq

namespace Given

def nothing : Given := ⟨[], []⟩

def find? (given : Given) (name : String) : Option String :=
  (given.options.find? (·.1 = name)).map (·.2)

/-- Take one more option, which must not be there yet. -/
def take (given : Given) (name value : String) : Except Refusal Given :=
  if (given.find? name).isSome then
    .error (.repeated name)
  else
    .ok { given with options := given.options ++ [(name, value)] }

end Given

/-- How the options of a command end: with operands, at an option after which nothing counts, or
at the first operand, with the arguments from it on. -/
inductive Ending where
  | operands (given : Given)
  | stopped (name : String)
  | before (given : Given) (rest : List String)
deriving Repr, Inhabited, DecidableEq

/-! ### Shapes of arguments -/

/-- What an argument looks like. -/
inductive Look where
  /-- Two dashes and a name, perhaps with a value after an equals sign. -/
  | long (name : String) (value : Option String)
  /-- One dash and letters. -/
  | letters (cs : List Char)
  /-- Two dashes alone. -/
  | divider
  | plain
deriving Repr, Inhabited, DecidableEq

def look (argument : String) : Look :=
  match argument.toList with
  | ['-', '-'] => .divider
  | '-' :: '-' :: cs =>
      .long (.ofList (cs.takeWhile (· ≠ '=')))
        (match cs.dropWhile (· ≠ '=') with
          | _ :: value => some (.ofList value)
          | [] => none)
  | '-' :: c :: cs => .letters (c :: cs)
  | _ => .plain

/-- An argument that can be the value of the option before it. -/
def isValue (argument : String) : Bool :=
  look argument == .plain

/-! ### Letters -/

/-- What is left to do after letters: nothing, a value that the last one still needs, or to
stop. -/
inductive AfterLetters where
  | done (given : Given)
  | needsValue (given : Given) (name : String)
  | stopped (name : String)
deriving Repr, Inhabited, DecidableEq

/-- Letters stand for options.  What follows the letter of an option with a value is that value,
perhaps after an equals sign. -/
def readLetters (flags : List Flag) (given : Given) : List Char → Except Refusal AfterLetters
  | [] => .ok (.done given)
  | c :: cs =>
      match flags.find? (·.letter = some c) with
      | none => .error (.unknownOption (.ofList ['-', c]))
      | some flag =>
          match flag.kind with
          | .stop => .ok (.stopped flag.name)
          | .switch => do readLetters flags (← given.take flag.name "") cs
          | .value =>
              match cs with
              | [] => .ok (.needsValue given flag.name)
              | '=' :: value => do .ok (.done (← given.take flag.name (.ofList value)))
              | value => do .ok (.done (← given.take flag.name (.ofList value)))

/-! ### Arguments -/

/-- Read options and operands.  With `upToOperand` the first operand ends the options.  After two
dashes alone everything is an operand. -/
def read (flags : List Flag) (upToOperand : Bool) (given : Given) :
    List String → Except Refusal Ending
  | [] => .ok (.operands given)
  | argument :: rest =>
      match look argument with
      | .plain =>
          if upToOperand then
            .ok (.before given (argument :: rest))
          else
            read flags upToOperand { given with operands := given.operands ++ [argument] } rest
      | .divider => .ok (.operands { given with operands := given.operands ++ rest })
      | .long name attached =>
          match flags.find? (·.name = name) with
          | none => .error (.unknownOption argument)
          | some flag =>
              match flag.kind, attached with
              | .stop, none => .ok (.stopped name)
              | .switch, none => do read flags upToOperand (← given.take name "") rest
              | .value, some value => do read flags upToOperand (← given.take name value) rest
              | .value, none =>
                  match rest with
                  | value :: rest =>
                      if isValue value then do
                        read flags upToOperand (← given.take name value) rest
                      else
                        .error (.valueMissing name)
                  | [] => .error (.valueMissing name)
              | _, some _ => .error (.valueNotTaken name)
      | .letters cs =>
          match readLetters flags given cs with
          | .error refusal => .error refusal
          | .ok (.stopped name) => .ok (.stopped name)
          | .ok (.done given) => read flags upToOperand given rest
          | .ok (.needsValue given name) =>
              match rest with
              | value :: rest =>
                  if isValue value then do
                    read flags upToOperand (← given.take name value) rest
                  else
                    .error (.valueMissing name)
              | [] => .error (.valueMissing name)

end PolicyAudit.Command
