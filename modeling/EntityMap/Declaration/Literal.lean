import EntityMap.Text.Blank

/-!
# Literals

How texts, characters and numbers are written in the arguments of an attribute. Readers take the
characters that are left and give what follows the literal, `quoted?` and `rawQuoted?` also the
text that it stands for. A word may be appended to a literal; it means nothing here.
-/

namespace EntityMap.Declaration

/-- A character that stands between elements: white space, or a mark of writing direction. -/
def isBlank (c : Char) : Bool := Text.isBlank c || c == '\u200e' || c == '\u200f'

/-- A character that may begin a word. -/
def startsWord (c : Char) : Bool := c.isAlpha || c == '_' || (0x80 ≤ c.toNat && !isBlank c)

/-- A character that a word may go on with. -/
def continuesWord (c : Char) : Bool := startsWord c || c.isDigit

/-- The rest after a word, if one begins here. -/
def dropWord : List Char → List Char
  | c :: rest => if startsWord c then rest.dropWhile continuesWord else c :: rest
  | [] => []

/-- The value of a hexadecimal digit. -/
def hexValue? (c : Char) : Option Nat :=
  if c.isDigit then some (c.toNat - '0'.toNat)
  else if 'a' ≤ c.toLower && c.toLower ≤ 'f' then some (c.toLower.toNat - 'a'.toNat + 10)
  else none

/-- The character with the given hexadecimal digits, if there is one. -/
def hexChar? (digits : List Char) : Option Char :=
  (digits.filter (· ≠ '_')).foldlM (fun n c => (hexValue? c).map (16 * n + ·)) 0 |>.bind fun n =>
    if n.isValidChar then some (Char.ofNat n) else none

/-- The white space that a backslash at the end of a line takes away. -/
def isIndent (c : Char) : Bool := c == ' ' || c == '\t' || c == '\n' || c == '\r'

/--
The rest of a quoted text, and what follows it. A line break counts as one character, however it
is written. The bound is on the number of steps.
-/
def quoted? : Nat → List Char → Option (List Char × List Char)
  | 0, _ => none
  | steps + 1, s =>
    let go (c : Char) (rest : List Char) :=
      (quoted? steps rest).map fun (text, rest) => (c :: text, rest)
    match s with
    | [] => none
    | '"' :: rest => some ([], rest)
    | '\\' :: 'n' :: rest => go '\n' rest
    | '\\' :: 't' :: rest => go '\t' rest
    | '\\' :: 'r' :: rest => go '\r' rest
    | '\\' :: '0' :: rest => go '\x00' rest
    | '\\' :: '\\' :: rest => go '\\' rest
    | '\\' :: '"' :: rest => go '"' rest
    | '\\' :: '\x27' :: rest => go '\x27' rest
    | '\\' :: 'x' :: a :: b :: rest => (hexChar? [a, b]).bind (go · rest)
    | '\\' :: 'u' :: '\x7b' :: rest =>
      (hexChar? (rest.takeWhile (· ≠ '\x7d'))).bind
        (go · ((rest.dropWhile (· ≠ '\x7d')).drop 1))
    | '\\' :: '\n' :: rest => quoted? steps (rest.dropWhile isIndent)
    | '\\' :: '\r' :: '\n' :: rest => quoted? steps (rest.dropWhile isIndent)
    | '\\' :: _ => none
    | '\r' :: '\n' :: rest => go '\n' rest
    | '\r' :: _ => none
    | c :: rest => go c rest

/--
The rest of a text quoted without escapes, and what follows it. Its closing quote is the first
one with the given number of hash signs behind it.
-/
def rawRest? (hashes : Nat) : List Char → Option (List Char × List Char)
  | [] => none
  | c :: rest =>
    if c = '"' ∧ rest.take hashes = List.replicate hashes '#' then some ([], rest.drop hashes)
    else (rawRest? hashes rest).map fun (text, rest) => (c :: text, rest)

/-- A text quoted without escapes, after the letters in front of it. -/
def rawQuoted? (s : List Char) : Option (List Char × List Char) :=
  match s.dropWhile (· = '#') with
  | '"' :: rest => rawRest? (s.takeWhile (· = '#')).length rest
  | _ => none

/-- What follows a quoted text whose content does not matter. -/
def quotedEnd? : List Char → Option (List Char)
  | [] => none
  | '"' :: rest => some rest
  | '\\' :: _ :: rest => quotedEnd? rest
  | _ :: rest => quotedEnd? rest

/-- What follows a quoted character. -/
def characterEnd? : List Char → Option (List Char)
  | '\\' :: 'u' :: '\x7b' :: rest =>
    match rest.dropWhile (· ≠ '\x7d') with
    | _ :: '\x27' :: rest => some rest
    | _ => none
  | '\\' :: 'x' :: _ :: _ :: '\x27' :: rest => some rest
  | '\\' :: _ :: '\x27' :: rest => some rest
  | '\\' :: _ => none
  | _ :: '\x27' :: rest => some rest
  | _ => none

/-- What follows a number that begins with a digit. -/
def numberEnd (s : List Char) : List Char :=
  match s.dropWhile continuesWord with
  | '.' :: c :: rest =>
    if c.isDigit then rest.dropWhile continuesWord
    else if c == '.' || startsWord c then '.' :: c :: rest
    else c :: rest
  | ['.'] => []
  | rest => rest

/-- A literal that is a text, and what follows it. -/
def textLiteral? : List Char → Option (List Char × List Char)
  | '"' :: rest => quoted? (rest.length + 1) rest
  | 'r' :: rest => rawQuoted? rest
  | _ => none

/-- What follows a literal that is neither a text nor a number: bytes, or a character. -/
def otherLiteralEnd? : List Char → Option (List Char)
  | 'b' :: '"' :: rest => quotedEnd? rest
  | 'c' :: '"' :: rest => quotedEnd? rest
  | 'b' :: 'r' :: rest => (rawQuoted? rest).map (·.2)
  | 'c' :: 'r' :: rest => (rawQuoted? rest).map (·.2)
  | 'b' :: '\x27' :: rest => characterEnd? rest
  | '\x27' :: rest => characterEnd? rest
  | _ => none

end EntityMap.Declaration
