import EntityMap.Settings.Toml.Scalar

/-!
# TOML: quoted texts

A text stands between double quotes, where a backslash begins an escape, or between single quotes,
where nothing does. Three quotes begin a text of several lines: a line break right after them does
not count, and up to two quotes may stand before the three that end it.
-/

namespace EntityMap.Toml

/-- A control character, which may not stand in a text; the tab may. -/
def isForbidden (c : Char) : Bool := (c.toNat < 0x20 && c != '\t') || c.toNat == 0x7f

/-- The character with a hexadecimal number, if there is one. -/
def codePoint? (digits : List Char) : Option Char :=
  if digits.all isHexDigit then
    let n := digits.foldl (fun n c => 16 * n + digitValue c) 0
    if n.isValidChar then some (Char.ofNat n) else none
  else none

/-- The character that an escape of one letter stands for. -/
def shortEscape? : Char → Option Char
  | 'b' => some '\x08'
  | 't' => some '\t'
  | 'n' => some '\n'
  | 'f' => some '\x0c'
  | 'r' => some '\r'
  | '"' => some '"'
  | '\\' => some '\\'
  | _ => none

/-- Adds a character in front of the text that a reader found. -/
def found (c : Char) (r : Option (List Char × List Char)) : Option (List Char × List Char) :=
  r.map fun (text, rest) => (c :: text, rest)

/-- The rest of a text between double quotes, and what follows it. -/
def basic : List Char → Option (List Char × List Char)
  | [] => none
  | '"' :: rest => some ([], rest)
  | '\\' :: 'u' :: a :: b :: c :: d :: rest =>
    (codePoint? [a, b, c, d]).bind (found · (basic rest))
  | '\\' :: 'U' :: a :: b :: c :: d :: e :: f :: g :: h :: rest =>
    (codePoint? [a, b, c, d, e, f, g, h]).bind (found · (basic rest))
  | '\\' :: c :: rest => (shortEscape? c).bind (found · (basic rest))
  | c :: rest => if isForbidden c then none else found c (basic rest)

/-- The rest of a text between single quotes, and what follows it. -/
def literal : List Char → Option (List Char × List Char)
  | [] => none
  | c :: rest =>
    if c = '\x27' then some ([], rest)
    else if isForbidden c then none
    else found c (literal rest)

/-- Nothing but blanks stands before the end of the line. -/
def endsLine (s : List Char) : Bool :=
  match s.dropWhile fun c => c == ' ' || c == '\t' with
  | '\n' :: _ => true
  | '\r' :: '\n' :: _ => true
  | _ => false

/--
The rest of a text of several lines between double quotes. A backslash at the end of a line takes
away the line break and the blanks after it; `skipping` is set while this lasts.
-/
def basicLines (skipping : Bool) : List Char → Option (List Char × List Char)
  | [] => none
  | '"' :: '"' :: '"' :: '"' :: '"' :: rest => some (['"', '"'], rest)
  | '"' :: '"' :: '"' :: '"' :: rest => some (['"'], rest)
  | '"' :: '"' :: '"' :: rest => some ([], rest)
  | '\r' :: '\n' :: rest =>
    if skipping then basicLines true rest else found '\n' (basicLines false rest)
  | '\n' :: rest => if skipping then basicLines true rest else found '\n' (basicLines false rest)
  | '\\' :: 'u' :: a :: b :: c :: d :: rest =>
    (codePoint? [a, b, c, d]).bind (found · (basicLines false rest))
  | '\\' :: 'U' :: a :: b :: c :: d :: e :: f :: g :: h :: rest =>
    (codePoint? [a, b, c, d, e, f, g, h]).bind (found · (basicLines false rest))
  | '\\' :: c :: rest =>
    if endsLine (c :: rest) then basicLines true (c :: rest)
    else (shortEscape? c).bind (found · (basicLines false rest))
  | c :: rest =>
    if skipping && (c == ' ' || c == '\t') then basicLines true rest
    else if isForbidden c then none
    else found c (basicLines false rest)

/-- The rest of a text of several lines between single quotes. -/
def literalLines : List Char → Option (List Char × List Char)
  | [] => none
  | '\x27' :: '\x27' :: '\x27' :: '\x27' :: '\x27' :: rest => some (['\x27', '\x27'], rest)
  | '\x27' :: '\x27' :: '\x27' :: '\x27' :: rest => some (['\x27'], rest)
  | '\x27' :: '\x27' :: '\x27' :: rest => some ([], rest)
  | '\r' :: '\n' :: rest => found '\n' (literalLines rest)
  | '\n' :: rest => found '\n' (literalLines rest)
  | c :: rest => if isForbidden c then none else found c (literalLines rest)

/-- The text without a line break at its beginning. -/
def dropLineBreak : List Char → List Char
  | '\n' :: r => r
  | '\r' :: '\n' :: r => r
  | r => r

/-- A quoted text of one line, and what follows it. -/
def lineText? : List Char → Option (List Char × List Char)
  | '"' :: rest => basic rest
  | '\x27' :: rest => literal rest
  | _ => none

/-- A quoted text, and what follows it. -/
def quotedText? : List Char → Option (List Char × List Char)
  | '"' :: '"' :: '"' :: rest => basicLines false (dropLineBreak rest)
  | '\x27' :: '\x27' :: '\x27' :: rest => literalLines (dropLineBreak rest)
  | s => lineText? s

end EntityMap.Toml
