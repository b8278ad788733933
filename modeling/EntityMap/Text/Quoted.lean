import EntityMap.Text.Property.Extending
import EntityMap.Text.Property.Unprintable

/-!
# Quoted texts and characters

A quoted text stands between double quotes, a quoted character between single ones. What does
not show as itself is written as an escape: the quote in use, the backslash, controls, marks that
would attach to the character before them, and characters without a printed form.
-/

namespace EntityMap.Text

/-- The escape of a code point by number, in hexadecimal without leading zeros. -/
def codeEscape (c : Char) : List Char :=
  ['\\', 'u', '{'] ++ Nat.toDigits 16 c.toNat ++ ['}']

/-- How a character is written between two quotes of the given kind. -/
def escape (quote : Char) (c : Char) : List Char :=
  if c = '\x00' then ['\\', '0']
  else if c = '\t' then ['\\', 't']
  else if c = '\r' then ['\\', 'r']
  else if c = '\n' then ['\\', 'n']
  else if c = '\\' || c = quote then ['\\', c]
  else if isCombining c || !isPrintable c then codeEscape c
  else [c]

/-- The text between double quotes. -/
def quoted (s : String) : String :=
  String.ofList (['"'] ++ s.toList.flatMap (escape '"') ++ ['"'])

/-- The character between single quotes. -/
def quotedChar (c : Char) : String :=
  String.ofList (['\x27'] ++ escape '\x27' c ++ ['\x27'])

end EntityMap.Text
