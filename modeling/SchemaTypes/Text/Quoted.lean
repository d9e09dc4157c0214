import SchemaTypes.Text.Ranges
import SchemaTypes.Text.PrintableTable

/-!
Quoted text in messages: a text between double quotes, with what cannot be seen written as an
escape.
-/

namespace SchemaTypes.Text

/-- The least hexadecimal digits of a number, in lower case. -/
def hexDigits (n : Nat) : List Char :=
  Nat.toDigits 16 n

/-- The escape of a code point: `\u`, and its digits between braces. -/
def codeEscape (n : Nat) : List Char :=
  '\\' :: 'u' :: '{' :: hexDigits n ++ ['}']

/-- A character that is shown as it is. -/
def isShown (c : Char) : Bool :=
  if c.toNat < 0x80 then 0x20 ≤ c.toNat && c.toNat < 0x7F
  else !inRanges unprintableRanges c.toNat

/-- One character of a quoted text. -/
def quotedChar (c : Char) : List Char :=
  if c = '\x00' then ['\\', '0']
  else if c = '\t' then ['\\', 't']
  else if c = '\r' then ['\\', 'r']
  else if c = '\n' then ['\\', 'n']
  else if c = '"' ∨ c = '\\' then ['\\', c]
  else if isShown c then [c]
  else codeEscape c.toNat

/-- The quoted form of a text. -/
def quoted (s : String) : String :=
  String.ofList ('"' :: s.toList.flatMap quotedChar ++ ['"'])

end SchemaTypes.Text
