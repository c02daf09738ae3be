/-
Module: PolicyAudit.Toml.Text
Purpose: Blanks, comments, strings and keys of TOML texts.
Imports: PolicyAudit.Json.Reader
Trusted boundary: none
Main exports: Toml.skipSpaces, Toml.skipTrivia, Toml.endLine?, Toml.readString?, Toml.readKeys?
-/
import PolicyAudit.Json.Reader

namespace PolicyAudit.Toml

/-- A control character other than the tab. -/
def isControl (c : Char) : Bool :=
  c ≠ '\t' && (c.toNat < 0x20 || c.toNat == 0x7F)

def isSpace (c : Char) : Bool :=
  c == ' ' || c == '\t'

def skipSpaces (cs : List Char) : List Char :=
  cs.dropWhile isSpace

/-- Pass over spaces, line breaks and comments.  A comment holds no control characters. -/
def skipTrivia (inComment : Bool) : List Char → Option (List Char)
  | [] => some []
  | '\n' :: cs => skipTrivia false cs
  | '\r' :: '\n' :: cs => skipTrivia false cs
  | c :: cs =>
      if inComment then
        if isControl c then none else skipTrivia true cs
      else if isSpace c then
        skipTrivia false cs
      else if c = '#' then
        skipTrivia true cs
      else
        some (c :: cs)

/-- The rest of a line that holds nothing more than a comment, and its end. -/
def endLine? (inComment : Bool) : List Char → Option (List Char)
  | [] => some []
  | '\n' :: cs => some cs
  | '\r' :: '\n' :: cs => some cs
  | c :: cs =>
      if inComment then
        if isControl c then none else endLine? true cs
      else if isSpace c then
        endLine? false cs
      else if c = '#' then
        endLine? true cs
      else
        none

/-! ### Strings -/

/-- Put characters in front of what the rest of a string reads as. -/
def withChars (front : List Char) (rest : Option (List Char × List Char)) :
    Option (List Char × List Char) :=
  rest.map fun (cs, after) => (front ++ cs, after)

/-- The character of a letter after a backslash. -/
def escapeValue? (c : Char) : Option Char :=
  match c with
  | 'b' => some '\x08'
  | 't' => some '\t'
  | 'n' => some '\n'
  | 'f' => some '\x0c'
  | 'r' => some '\r'
  | 'e' => some '\x1b'
  | '"' => some '"'
  | '\\' => some '\\'
  | _ => none

/-- The character whose code point hexadecimal digits write. -/
def hexChar? (ds : List Char) : Option Char := do
  let values ← ds.mapM Json.hexValue?
  let n := values.foldl (fun value d => 16 * value + d) 0
  if n.isValidChar then some (Char.ofNat n) else none

/-- Pass over the blanks after a backslash at the end of a line. -/
def skipBlankLines : List Char → List Char
  | '\r' :: '\n' :: cs => skipBlankLines cs
  | c :: cs => if isSpace c || c == '\n' then skipBlankLines cs else c :: cs
  | [] => []

/-- What a backslash starts: a character, or nothing where the line goes on below. -/
def readEscape? (multiline : Bool) : List Char → Option (List Char × List Char)
  | 'x' :: a :: b :: cs => (hexChar? [a, b]).map fun c => ([c], cs)
  | 'u' :: a :: b :: c :: d :: cs => (hexChar? [a, b, c, d]).map fun c => ([c], cs)
  | 'U' :: a :: b :: c :: d :: e :: f :: g :: h :: cs =>
      (hexChar? [a, b, c, d, e, f, g, h]).map fun c => ([c], cs)
  | cs =>
      match cs with
      | [] => none
      | c :: rest =>
          match escapeValue? c with
          | some e => some ([e], rest)
          | none =>
              if multiline then
                match skipSpaces cs with
                | '\n' :: below => some ([], skipBlankLines below)
                | '\r' :: '\n' :: below => some ([], skipBlankLines below)
                | _ => none
              else
                none

/-- Up to two more quotes stand before the three that close a string. -/
def closingQuotes (quote : Char) : List Char → List Char × List Char
  | a :: b :: cs =>
      if a = quote then
        if b = quote then ([quote, quote], cs) else ([quote], b :: cs)
      else
        ([], a :: b :: cs)
  | [a] => if a = quote then ([quote], []) else ([], [a])
  | [] => ([], [])

/-- The four kinds of strings: between which quotes, over how many lines, with which escapes. -/
structure StringKind where
  quote : Char
  multiline : Bool
deriving Repr, DecidableEq

def StringKind.hasEscapes (kind : StringKind) : Bool :=
  kind.quote == '"'

/-- The characters of a string, from after its opening quotes to its closing ones.  Each call
spends one unit of `fuel`. -/
def readBody? (kind : StringKind) : Nat → List Char → Option (List Char × List Char)
  | 0, _ => none
  | _ + 1, [] => none
  | fuel + 1, c :: cs =>
      if c = kind.quote then
        if kind.multiline then
          match cs with
          | a :: b :: rest =>
              if a = kind.quote ∧ b = kind.quote then
                some (closingQuotes kind.quote rest)
              else
                withChars [c] (readBody? kind fuel cs)
          | _ => none
        else
          some ([], cs)
      else if c = '\\' ∧ kind.hasEscapes then
        match readEscape? kind.multiline cs with
        | some (front, rest) => withChars front (readBody? kind fuel rest)
        | none => none
      else if kind.multiline ∧ c = '\n' then
        withChars [c] (readBody? kind fuel cs)
      else if kind.multiline ∧ c = '\r' then
        match cs with
        | '\n' :: rest => withChars ['\r', '\n'] (readBody? kind fuel rest)
        | _ => none
      else if isControl c then
        none
      else
        withChars [c] (readBody? kind fuel cs)

/-- A line break right after the opening quotes does not count. -/
def dropFirstBreak : List Char → List Char
  | '\n' :: cs => cs
  | '\r' :: '\n' :: cs => cs
  | cs => cs

/-- A string on one line. -/
def readLineString? (quote : Char) (cs : List Char) : Option (String × List Char) :=
  (readBody? ⟨quote, false⟩ (cs.length + 1) cs).map fun (s, rest) => (.ofList s, rest)

/-- A string after its first quote. -/
def readString? (quote : Char) (cs : List Char) : Option (String × List Char) :=
  match cs with
  | a :: b :: rest =>
      if a = quote ∧ b = quote then
        let body := dropFirstBreak rest
        (readBody? ⟨quote, true⟩ (body.length + 1) body).map fun (s, rest) => (.ofList s, rest)
      else
        readLineString? quote cs
  | _ => readLineString? quote cs

/-! ### Keys -/

def isBareChar (c : Char) : Bool :=
  c.isAlphanum || c == '-' || c == '_'

def readKey? : List Char → Option (String × List Char)
  | [] => none
  | c :: cs =>
      if c = '"' ∨ c = '\'' then
        readLineString? c cs
      else if isBareChar c then
        some (.ofList ((c :: cs).takeWhile isBareChar), (c :: cs).dropWhile isBareChar)
      else
        none

/-- One or more keys with dots between them, and the text after the blanks that follow. -/
def readKeys? : Nat → List Char → Option (List String × List Char)
  | 0, _ => none
  | fuel + 1, cs => do
      let (key, rest) ← readKey? (skipSpaces cs)
      match skipSpaces rest with
      | '.' :: rest =>
          let (keys, rest) ← readKeys? fuel rest
          some (key :: keys, rest)
      | rest => some ([key], rest)

end PolicyAudit.Toml
