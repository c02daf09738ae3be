/-
Module: PolicyAudit.Text.Quoted
Purpose: A text in quotes, with every character that would not show in it spelled out.
Imports: PolicyAudit.Text.Extending, PolicyAudit.Text.Unprintable
Trusted boundary: none
Main exports: isControl, isSeparator, shown, quoted
-/
import PolicyAudit.Text.Extending
import PolicyAudit.Text.Unprintable

namespace PolicyAudit.Text

/-- The control characters U+0000 to U+001F and U+007F to U+009F. -/
def isControl (c : Char) : Bool :=
  c.toNat < 0x20 || (0x7F ≤ c.toNat && c.toNat < 0xA0)

/-- The space, line and paragraph separators other than the plain space. -/
def isSeparator (c : Char) : Bool :=
  let n := c.toNat
  n == 0xA0 || n == 0x1680 || (0x2000 ≤ n && n ≤ 0x200A) || n == 0x2028 || n == 0x2029 ||
    n == 0x202F || n == 0x205F || n == 0x3000

/-- A code point written as a backslash, `u` and its hexadecimal digits in braces. -/
def codePoint (c : Char) : List Char :=
  '\\' :: 'u' :: '\x7b' :: (Nat.toDigits 16 c.toNat ++ ['\x7d'])

/-- One character as it stands in a quoted text. -/
def shown (c : Char) : List Char :=
  if c = '\x00' then ['\\', '0']
  else if c = '\t' then ['\\', 't']
  else if c = '\n' then ['\\', 'n']
  else if c = '\r' then ['\\', 'r']
  else if c = '"' then ['\\', '"']
  else if c = '\\' then ['\\', '\\']
  else if isControl c || isSeparator c || isExtending c || isUnprintable c then codePoint c
  else [c]

/-- The text in quotes. -/
def quoted (s : String) : String :=
  String.ofList ('"' :: (s.toList.flatMap shown ++ ['"']))

end PolicyAudit.Text
