import EntityMap.Settings.Toml.Marked
import EntityMap.Settings.Toml.Quote
import EntityMap.Settings.Toml.Tree

/-!
# TOML documents

`Toml.document?` reads a document line by line: keys with values, headers of tables, and headers of
tables in lists. Readers take the text that is left and give what they found with the text after
it; a bound on the number of steps, taken from the length of the document, ends every loop. Lists and
tables in braces are nested less than eighty deep, and a key has less than eighty parts.
-/

namespace EntityMap.Toml

/-- The text without blanks at its beginning. -/
def skipBlanks (s : List Char) : List Char := s.dropWhile fun c => c == ' ' || c == '\t'

/-- The text without the comment that it begins with, up to the end of the line. -/
def skipComment? : List Char → Option (List Char)
  | '#' :: rest =>
    let line := rest.takeWhile (· ≠ '\n')
    let comment := if line.getLast? = some '\r' then line.dropLast else line
    if comment.any isForbidden then none
    else some (rest.drop comment.length)
  | s => some s

/-- The text after a line break, or the end of the text. -/
def endLine? : List Char → Option (List Char)
  | [] => some []
  | '\n' :: rest => some rest
  | '\r' :: '\n' :: rest => some rest
  | _ => none

/-- The text after the end of the line, before which only blanks and a comment may stand. -/
def finishLine? (s : List Char) : Option (List Char) := (skipComment? (skipBlanks s)).bind endLine?

/-- The text without the blanks, comments and line breaks at its beginning. -/
def skipGap? : Nat → List Char → Option (List Char)
  | 0, s => some s
  | steps + 1, s => do
    let rest ← skipComment? (skipBlanks s)
    match rest with
    | '\n' :: rest => skipGap? steps rest
    | '\r' :: '\n' :: rest => skipGap? steps rest
    | rest => return rest

/-- A character of a key without quotes. -/
def isKeyChar (c : Char) : Bool := c.isAlphanum || c == '_' || c == '-'

/-- One key, with or without quotes. -/
def simpleKey? (s : List Char) : Option (String × List Char) :=
  match s.takeWhile isKeyChar with
  | [] => (lineText? s).map fun (key, rest) => (.ofList key, rest)
  | key => some (.ofList key, s.dropWhile isKeyChar)

/-- The depth that is too deep. -/
def depthLimit : Nat := 80

/-- A key with the keys before its last point; `room` is the number of keys that it may have. -/
def keyWithin? : Nat → List Char → Option ((List String × String) × List Char)
  | 0, _ => none
  | room + 1, s => do
    let (key, rest) ← simpleKey? (skipBlanks s)
    match skipBlanks rest with
    | '.' :: rest =>
      let ((path, last), rest) ← keyWithin? room rest
      return ((key :: path, last), rest)
    | rest => return (([], key), rest)

/-- A key with the keys before its last point. -/
def key? (s : List Char) : Option ((List String × String) × List Char) :=
  keyWithin? (depthLimit - 1) s

/-- A character of a value without quotes. -/
def isScalarChar (c : Char) : Bool :=
  c.isAlphanum || c == '_' || c == '-' || c == '+' || c == '.' || c == ':'

/-- A value without quotes; a time may follow a date after a blank. -/
def scalarRun? (s : List Char) : Option (Setting × List Char) :=
  let run := s.takeWhile isScalarChar
  let rest := s.dropWhile isScalarChar
  let longer : Bool := match rest with
    | ' ' :: d :: _ => ((date? run).any (·.2.isEmpty)) && d.isDigit
    | _ => false
  if longer then
    let time := rest.tail
    (scalar? (run ++ ' ' :: time.takeWhile isScalarChar)).map (·, time.dropWhile isScalarChar)
  else (scalar? run).map (·, rest)

mutual

/-- A value; `room` is how many lists and tables may be opened inside one another. -/
def value? : Nat → Nat → List Char → Option (Setting × List Char)
  | _, 0, _ => none
  | room, steps + 1, s =>
    match room, s with
    | 0, '[' :: _ => none
    | room + 1, '[' :: rest => do
      let rest ← skipGap? steps rest
      let (items, rest) ← items? room steps rest
      return (.list items, rest)
    | 0, '\x7b' :: _ => none
    | room + 1, '\x7b' :: rest =>
      match skipBlanks rest with
      | '\x7d' :: rest => some (.table [], rest)
      | rest => inline? room steps [] rest
    | _, s =>
      match quotedText? s with
      | some (text, rest) => some (.text (.ofList text), rest)
      | none => scalarRun? s

/-- The items of a list up to its bracket; a comma may follow the last one. -/
def items? : Nat → Nat → List Char → Option (List Setting × List Char)
  | _, 0, _ => none
  | room, steps + 1, s =>
    match s with
    | ']' :: rest => some ([], rest)
    | s => do
      let (item, rest) ← value? room steps s
      match ← skipGap? steps rest with
      | ',' :: rest =>
        let rest ← skipGap? steps rest
        let (items, rest) ← items? room steps rest
        return (item :: items, rest)
      | ']' :: rest => return ([item], rest)
      | _ => none

/-- The keys and values of a table between braces, up to its brace. -/
def inline? : Nat → Nat → Entries → List Char → Option (Setting × List Char)
  | _, 0, _, _ => none
  | room, steps + 1, es, s => do
    let ((path, key), rest) ← key? s
    match rest with
    | '=' :: rest =>
      let (value, rest) ← value? room steps (skipBlanks rest)
      let es ← es.set path key value
      match skipBlanks rest with
      | ',' :: rest => inline? room steps es rest
      | '\x7d' :: rest => return (.table (settings es), rest)
      | _ => none
    | _ => none

end

/-- The lines of a document, read into a tree; `current` is the path of the open table. -/
def lines? : Nat → List String → Entries → List Char → Option Entries
  | 0, _, _, _ => none
  | steps + 1, current, es, s => do
    match ← skipGap? steps s with
    | [] => return es
    | '[' :: '[' :: rest =>
      let ((path, key), rest) ← key? rest
      match rest with
      | ']' :: ']' :: rest =>
        let es ← es.openListTable path key
        lines? steps (path ++ [key]) es (← finishLine? rest)
      | _ => none
    | '[' :: rest =>
      let ((path, key), rest) ← key? rest
      match rest with
      | ']' :: rest =>
        let es ← es.openTable path key
        lines? steps (path ++ [key]) es (← finishLine? rest)
      | _ => none
    | s =>
      let ((path, key), rest) ← key? s
      match rest with
      | '=' :: rest =>
        let (value, rest) ← value? (depthLimit - 1) steps (skipBlanks rest)
        let es ← es.modify false (fun _ es => es.set path key value) none current
        lines? steps current es (← finishLine? rest)
      | _ => none

/-- The entries of a document; none if it is malformed, or a date alone. -/
def document? (text : String) : Option (List (String × Setting)) :=
  let s := match text.toList with
    | '\ufeff' :: s => s
    | s => s
  match (lines? (s.length + 2) [] [] s).bind fun es => (Setting.table (settings es)).dated? with
  | some (.table es) => some es
  | _ => none

end EntityMap.Toml
