import EntityMap.Declaration.Lexeme
import EntityMap.Text.Blank

/-!
# Written types

Of a type only this matters: whether it is a path, which arguments the last name of the path has,
and how the type is printed. Printing leaves out blanks and writes lifetimes before other
arguments.
-/

namespace EntityMap.Declaration

/-- How the arguments of a path are set off. -/
structure ArgumentMarks where
  /-- Colons stand before them. -/
  colons : Bool := false
  /-- A comma stands behind the last of them. -/
  comma : Bool := false
  deriving DecidableEq, Repr

/-- A type as it is written. -/
inductive TypeExpr where
  | path (segments : List String)
  /-- A path with arguments on its last segment. -/
  | generic (segments : List String) (arguments : List TypeExpr) (marks : ArgumentMarks := {})
  /-- Types between parentheses. -/
  | tuple (items : List TypeExpr)
  /-- A lifetime, which stands among arguments only. -/
  | lifetime (name : String)
  /-- Any other argument that is not a type, such as a number. -/
  | constant (text : String)
  /-- A type of another form. -/
  | other (text : String)

namespace TypeExpr

def isLifetime : TypeExpr → Bool
  | lifetime _ => true
  | _ => false

/-- The single argument of a wrapper type of the given name. -/
def argumentOf? (wrapper : String) : TypeExpr → Option TypeExpr
  | generic segments [argument] _ =>
    if segments.getLast? = some wrapper then
      match argument with
      | lifetime _ | constant _ => none
      | t => some t
    else none
  | _ => none

/-! ## Printing -/

/--
The printed arguments, each of them marked if it is a lifetime. An argument keeps the comma behind
it: one stays at the end when the last argument, being a lifetime, goes to the front.
-/
def argumentText (comma : Bool) (arguments : List (Bool × String)) : String :=
  let lifetimes := arguments.filter (·.1)
  let others := arguments.filter (!·.1)
  let moved := !others.isEmpty && arguments.getLast?.any (·.1)
  Text.join "," ((lifetimes ++ others).map (·.2)) ++ if comma || moved then "," else ""

mutual

/-- The type without blanks. -/
def text : TypeExpr → String
  | path segments => Text.join "::" segments
  | generic segments arguments marks =>
    Text.join "::" segments ++ (if marks.colons then "::<" else "<")
      ++ argumentText marks.comma (texts arguments) ++ ">"
  | tuple items => "(" ++ Text.join "," ((texts items).map (·.2)) ++ ")"
  | lifetime name => "\x27" ++ name
  | constant text => text
  | other text => text

/-- The types without blanks; lifetimes are marked. -/
def texts : List TypeExpr → List (Bool × String)
  | [] => []
  | t :: rest => (t.isLifetime, t.text) :: texts rest

end

/-! ## Reading -/

/-- Elements one after the other without blanks. -/
def writtenText (s : List Lexeme) : String := String.join (s.map (·.text))

/--
What stands before the angle bracket that closes an open one, and what follows it. The angle of
an arrow is no bracket.
-/
def angleEnd? : Nat → List Lexeme → Option (List Lexeme × List Lexeme)
  | _, [] => none
  | depth, .sign '-' j :: .sign '>' k :: rest =>
    (angleEnd? depth rest).map fun (inside, rest) => (.sign '-' j :: .sign '>' k :: inside, rest)
  | 0, .sign '>' _ :: rest => some ([], rest)
  | depth + 1, .sign '>' j :: rest =>
    (angleEnd? depth rest).map fun (inside, rest) => (.sign '>' j :: inside, rest)
  | depth, .sign '<' j :: rest =>
    (angleEnd? (depth + 1) rest).map fun (inside, rest) => (.sign '<' j :: inside, rest)
  | depth, l :: rest => (angleEnd? depth rest).map fun (inside, rest) => (l :: inside, rest)

/-- The parts between the commas that no brackets enclose, inside so many brackets. -/
def parts : Nat → List Lexeme → List (List Lexeme)
  | _, [] => [[]]
  | 0, .sign ',' _ :: rest => [] :: parts 0 rest
  | depth, .sign '-' j :: .sign '>' k :: rest =>
    match parts depth rest with
    | part :: more => (.sign '-' j :: .sign '>' k :: part) :: more
    | [] => []
  | depth, l :: rest =>
    let depth := match l with
      | .sign '<' _ => depth + 1
      | .sign '>' _ => depth - 1
      | l => if l.isOpening then depth + 1 else if l.isClosing then depth - 1 else depth
    match parts depth rest with
    | part :: more => (l :: part) :: more
    | [] => []

/-- A path at the beginning of some elements. -/
structure Path where
  segments : List String
  /-- What stands between angle brackets behind the last segment. -/
  arguments : Option (List Lexeme) := none
  /-- Colons stand before these brackets. -/
  colons : Bool := false
  /-- What follows the path. -/
  rest : List Lexeme

/-- The word may stand in a path. -/
def isPathWord (word : String) : Bool :=
  !keywords.contains word || ["self", "Self", "super", "crate", "_"].contains word

/-- The elements without colons that stand before an open angle bracket, and whether they do. -/
def dropColons : List Lexeme → Bool × List Lexeme
  | .sign ':' true :: .sign ':' _ :: .sign '<' j :: rest => (true, .sign '<' j :: rest)
  | rest => (false, rest)

/-- A path that begins with a name. The bound is on the number of its segments. -/
def namedPath? : Nat → List Lexeme → Option Path
  | bound + 1, .ident name :: rest =>
    if !isPathWord name then none
    else
      let (colons, rest) := dropColons rest
      match rest with
      | .sign '<' _ :: rest => do
        let (inside, rest) ← angleEnd? 0 rest
        match rest with
        | .sign ':' true :: .sign ':' _ :: rest =>
          let p ← namedPath? bound rest
          let segment := name ++ (if colons then "::<" else "<") ++ writtenText inside ++ ">"
          return { p with segments := segment :: p.segments }
        | rest => return ⟨[name], some inside, colons, rest⟩
      | .sign ':' true :: .sign ':' _ :: rest => do
        let p ← namedPath? bound rest
        return { p with segments := name :: p.segments }
      | rest => some ⟨[name], none, false, rest⟩
  | _, _ => none

/-- A path; colons or a type between angle brackets with colons may stand in front. -/
def path? : List Lexeme → Option Path
  | .sign ':' true :: .sign ':' _ :: rest => do
    let p ← namedPath? rest.length rest
    return { p with segments := "" :: p.segments }
  | .sign '<' _ :: rest => do
    match ← angleEnd? 0 rest with
    | (inside, .sign ':' true :: .sign ':' _ :: rest) =>
      let p ← namedPath? rest.length rest
      return { p with segments := ("<" ++ writtenText inside ++ ">") :: p.segments }
    | _ => none
  | s => namedPath? s.length s

/-- The type that elements write. The bound is on the depth of arguments. -/
def ofLexemes (bound : Nat) (s : List Lexeme) : TypeExpr :=
  match s with
  | [.sign '\x27' _, .ident name] => lifetime name
  | [.ident "true"] | [.ident "false"] => constant (writtenText s)
  | .number _ :: _ | .string _ :: _ | .literal _ :: _ => constant (writtenText s)
  | .sign '-' _ :: _ | .sign '\x7b' _ :: _ => constant (writtenText s)
  | s =>
    match bound, path? s with
    | _, some ⟨segments, none, _, []⟩ => path segments
    | bound + 1, some ⟨segments, some inside, colons, []⟩ =>
      let written := parts 0 inside
      generic segments ((written.filter (· ≠ [])).map (ofLexemes bound))
        ⟨colons, written.length > 1 && written.getLast? == some []⟩
    | _, some ⟨[_], _, _, .sign '=' _ :: _⟩ | _, some ⟨[_], _, _, .sign ':' _ :: _⟩ =>
      constant (writtenText s)
    | _, _ => other (writtenText s)

/-- The type that a text writes. -/
def ofString? (s : String) : Option TypeExpr :=
  (Lexeme.ofString? s).map fun lexemes => ofLexemes lexemes.length lexemes

end TypeExpr

end EntityMap.Declaration
