import EntityMap.Declaration.Literal

/-!
# The elements of written declarations

An attribute, a type and a list of parameters are sequences of words, literals and signs, with
blanks and comments between them. Brackets are signs like any other; `closing?` finds the partner
of an open one.
-/

namespace EntityMap.Declaration

/-- One element of a written declaration. -/
inductive Lexeme where
  | ident (name : String)
  | string (value : String)
  | number (text : String)
  /-- A literal that is neither a text nor a number. -/
  | literal (text : String)
  /-- A sign; it is joint if another sign that is no bracket follows at once. -/
  | sign (c : Char) (joint : Bool := false)
  deriving DecidableEq, Repr

namespace Lexeme

/-- The element as it is written. -/
def text : Lexeme → String
  | ident name => name
  | string value => "\"" ++ value ++ "\""
  | number text | literal text => text
  | sign c _ => .ofList [c]

def isOpening : Lexeme → Bool
  | sign c _ => c == '(' || c == '[' || c == '\x7b'
  | _ => false

def isClosing : Lexeme → Bool
  | sign c _ => c == ')' || c == ']' || c == '\x7d'
  | _ => false

end Lexeme

/-- The words that cannot be names. -/
def keywords : List String :=
  ["_", "abstract", "as", "async", "await", "become", "box", "break", "const", "continue",
   "crate", "do", "dyn", "else", "enum", "extern", "false", "final", "fn", "for", "if", "impl",
   "in", "let", "loop", "macro", "match", "mod", "move", "mut", "override", "priv", "pub", "ref",
   "return", "Self", "self", "static", "struct", "super", "trait", "true", "try", "type",
   "typeof", "unsafe", "unsized", "use", "virtual", "where", "while", "yield"]

/-! ## Comments -/

/-- What follows a comment that may hold further comments; `depth` of them are open around it. -/
def commentEnd? : Nat → List Char → Option (List Char)
  | _, [] => none
  | depth, '/' :: '*' :: rest => commentEnd? (depth + 1) rest
  | 0, '*' :: '/' :: rest => some rest
  | depth + 1, '*' :: '/' :: rest => commentEnd? depth rest
  | depth, _ :: rest => commentEnd? depth rest

/-- The kinds of comment: left out, or an attribute that documents what follows or surrounds it. -/
inductive CommentKind where
  | plain
  | outer
  | inner

/-- The kind of a comment that runs to the end of its line, from what follows its two slashes. -/
def CommentKind.ofLine : List Char → CommentKind
  | '!' :: _ => .inner
  | '/' :: '/' :: _ => .plain
  | '/' :: _ => .outer
  | _ => .plain

/-- The kind of a comment between marks, from what follows the first of them. -/
def CommentKind.ofBlock : List Char → CommentKind
  | '!' :: _ => .inner
  | '*' :: '*' :: _ => .plain
  | '*' :: '/' :: _ => .plain
  | '*' :: _ => .outer
  | _ => .plain

/-- The elements that a comment stands for. -/
def CommentKind.lexemes (kind : CommentKind) (text : List Char) : List Lexeme :=
  let document := [.sign '[', .ident "doc", .sign '=', .string (.ofList text), .sign ']']
  match kind with
  | plain => []
  | outer => .sign '#' :: document
  | inner => .sign '#' :: .sign '!' :: document

/-- The characters in front of a rest of the same text. -/
def upTo (rest s : List Char) : List Char := s.take (s.length - rest.length)

/-! ## Reading -/

/-- The signs that are no brackets. -/
def signs : List Char := "~!@#$%^&*-=+|;:,<.>/?\x27".toList

/-- The text begins with a sign that is no bracket, and with no comment. -/
def startsSign : List Char → Bool
  | '/' :: '/' :: _ => false
  | '/' :: '*' :: _ => false
  | c :: _ => signs.contains c
  | [] => false

/-- A literal that begins the text, and what follows it. -/
def literal? (s : List Char) : Option (Lexeme × List Char) :=
  match textLiteral? s with
  | some (text, rest) => some (.string (.ofList text), dropWord rest)
  | none =>
    match otherLiteralEnd? s with
    | some rest => some (.literal (.ofList (upTo rest s)), dropWord rest)
    | none =>
      if (s.head?.any Char.isDigit) then
        some (.number (.ofList (upTo (numberEnd s) s)), numberEnd s)
      else none

/-- A word that begins the text, and what follows it; it may be marked to be no keyword. -/
def word? (s : List Char) : Option (Lexeme × List Char) :=
  let (mark, s) := match s with
    | 'r' :: '#' :: rest => (['r', '#'], rest)
    | s => ([], s)
  match s with
  | [] => none
  | c :: rest =>
    if startsWord c then
      some (.ident (.ofList (mark ++ c :: rest.takeWhile continuesWord)),
        rest.dropWhile continuesWord)
    else none

/-- A sign that begins the text, and what follows it. -/
def sign? : List Char → Option (Lexeme × List Char)
  | [] => none
  | c :: rest =>
    if (Lexeme.sign c).isOpening || (Lexeme.sign c).isClosing then some (.sign c, rest)
    else if signs.contains c then some (.sign c (startsSign rest), rest)
    else none

/-- The elements of a text, if it is made of such. The bound is on the number of steps. -/
def lexemes? : Nat → List Char → Option (List Lexeme)
  | 0, _ => none
  | steps + 1, s =>
    match s with
    | [] => some []
    | '/' :: '/' :: rest =>
      let text := rest.takeWhile (· ≠ '\n')
      (lexemes? steps (rest.dropWhile (· ≠ '\n'))).map
        ((CommentKind.ofLine rest).lexemes (text.drop 1) ++ ·)
    | '/' :: '*' :: rest => do
      let after ← commentEnd? 0 rest
      let text := (upTo after rest).drop 1
      return (CommentKind.ofBlock rest).lexemes (text.take (text.length - 2))
        ++ (← lexemes? steps after)
    | c :: rest => do
      if isBlank c then lexemes? steps rest
      else
        let (l, rest) ← ((literal? s).or (sign? s)).or (word? s)
        return l :: (← lexemes? steps rest)

/-- The elements of a text, if it is made of such. -/
def Lexeme.ofString? (s : String) : Option (List Lexeme) := lexemes? (s.length + 1) s.toList

/-- What stands before the bracket that closes an open one, and what follows that bracket. -/
def closing? : Nat → List Lexeme → Option (List Lexeme × List Lexeme)
  | _, [] => none
  | depth, l :: rest =>
    let go (depth : Nat) := (closing? depth rest).map fun (inside, rest) => (l :: inside, rest)
    if l.isOpening then go (depth + 1)
    else if l.isClosing then
      match depth with
      | 0 => some ([], rest)
      | depth + 1 => go depth
    else go depth

end EntityMap.Declaration
