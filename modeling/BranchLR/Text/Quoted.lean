import BranchLR.Text.Extender
import BranchLR.Text.Invisible

/-!
# Quoted text

Texts that may hold any character are shown between double quotes. The quote, the backslash and
four control characters have short escapes; a character that could not be seen, or that would merge
with the one before it, is shown by its code point.
-/

namespace BranchLR

/-- The lower-case hexadecimal digits of a number, without leading zeros. -/
def hexadecimal (n : Nat) : List Char := Nat.toDigits 16 n

/-- The escape by code point, such as `\u{301}`. -/
def codePointEscape (c : Char) : List Char :=
  '\\' :: 'u' :: '\x7b' :: (hexadecimal c.toNat ++ ['\x7d'])

/-- One character as it stands inside a quoted text. -/
def quotedChar (c : Char) : List Char :=
  if c = '\x00' then ['\\', '0']
  else if c = '\t' then ['\\', 't']
  else if c = '\r' then ['\\', 'r']
  else if c = '\n' then ['\\', 'n']
  else if c = '"' then ['\\', '"']
  else if c = '\\' then ['\\', '\\']
  else if isExtender c || isInvisible c then codePointEscape c
  else [c]

/-- A text between double quotes, with its escapes. -/
def quoted (text : String) : String :=
  String.ofList ('"' :: (text.toList.flatMap quotedChar ++ ['"']))

end BranchLR
