import EntityMap.Sql.Query
import EntityMap.Text.Blank

/-!
# The text of a statement

A statement is first laid out in pieces: fixed words, names and values. The pieces of two dialects
differ in the words around an insertion that skips duplicates, and in nothing else. Writing the
pieces out quotes the names and puts a placeholder for each value; the values become the
parameters, in the order of their placeholders.
-/

namespace EntityMap.Sql

/-- The dialects, named for the databases that speak them. -/
inductive Dialect where
  | sqlite
  | mysql
  | postgres
  deriving DecidableEq, Repr

/-- A part of the text of a statement. -/
inductive Piece where
  | word (text : String)
  | name (text : String)
  | value (v : Value)
  deriving DecidableEq, Repr

/-- A text with placeholders, and the values for them. -/
structure Statement where
  sql : String
  params : List Value
  deriving DecidableEq, Repr

/-! ## Pieces -/

/-- Lists of pieces with a separator between them. -/
def separated (separator : String) (parts : List (List Piece)) : List Piece :=
  parts.intersperse [.word separator] |>.flatten

/-- Pieces between parentheses. -/
def inParens (pieces : List Piece) : List Piece := .word "(" :: pieces ++ [.word ")"]

def ColumnRef.pieces (c : ColumnRef) : List Piece :=
  match c.table with
  | some t => [.name t, .word ".", .name c.column]
  | none => [.name c.column]

def Predicate.pieces : Predicate → List Piece
  | .equal c v => c.pieces ++ [.word " = ", .value v]
  | .notIn c vs =>
    c.pieces ++ .word " NOT IN " :: inParens (separated ", " (vs.map fun v => [.value v]))

/-- The filter of a statement; no predicates make no filter. -/
def filterPieces : List Predicate → List Piece
  | [] => []
  | ps => .word " WHERE " :: separated " AND " (ps.map (·.pieces))

def Join.pieces (j : Join) : List Piece :=
  [.word " INNER JOIN ", .name j.table, .word " ON "] ++ j.left.pieces ++ .word " = "
    :: j.right.pieces

/-- A list of names between parentheses. -/
def nameList (names : List String) : List Piece :=
  inParens (separated ", " (names.map fun n => [.name n]))

/-- The words with which an insertion begins. -/
def Dialect.insertWords (d : Dialect) : OnDuplicate → String
  | .fail => "INSERT INTO "
  | .skip =>
    match d with
    | .sqlite => "INSERT OR IGNORE INTO "
    | .mysql => "INSERT IGNORE INTO "
    | .postgres => "INSERT INTO "

/-- What stands at the end of an insertion. -/
def Dialect.conflictPieces (d : Dialect) (columns : List String) : OnDuplicate → List Piece
  | .fail => []
  | .skip =>
    match d with
    | .sqlite | .mysql => []
    | .postgres =>
      .word " ON CONFLICT " :: (if columns.isEmpty then [] else nameList columns)
        ++ [.word " DO NOTHING"]

/-- The rows of an insertion; rows without values are not written. -/
def rowPieces (rows : List (List Value)) : List Piece :=
  match rows.filter (!·.isEmpty) with
  | [] => []
  | rows =>
    .word " VALUES " :: separated ", "
      (rows.map fun row => inParens (separated ", " (row.map fun v => [.value v])))

/-- The pieces of a statement. -/
def Query.pieces (d : Dialect) : Query → List Piece
  | .select columns table join filter =>
    .word "SELECT " :: separated ", " (columns.map (·.pieces)) ++ [.word " FROM ", .name table]
      ++ (match join with
          | some j => j.pieces
          | none => [])
      ++ filterPieces filter
  | .insert table columns rows onDuplicate =>
    [.word (d.insertWords onDuplicate), .name table, .word " "] ++ nameList columns
      ++ rowPieces rows ++ d.conflictPieces columns onDuplicate
  | .update table assignments filter =>
    [.word "UPDATE ", .name table, .word " SET "]
      ++ separated ", " (assignments.map fun a => [.name a.1, .word " = ", .value a.2])
      ++ filterPieces filter
  | .delete table filter => [.word "DELETE FROM ", .name table] ++ filterPieces filter

/-! ## Writing out -/

/-- The character around names. -/
def Dialect.quote : Dialect → Char
  | .sqlite | .postgres => '"'
  | .mysql => '\x60'

/-- The name between quotes, a quote within it written twice. -/
def Dialect.quoteName (d : Dialect) (name : String) : List Char :=
  d.quote :: name.toList.flatMap (fun c => if c = d.quote then [c, c] else [c]) ++ [d.quote]

/-- The placeholder of the parameter with this number, counted from one. -/
def Dialect.placeholder (d : Dialect) (n : Nat) : List Char :=
  match d with
  | .sqlite | .mysql => ['?']
  | .postgres => '$' :: Nat.toDigits 10 n

/-- The text of the pieces, the next parameter having the given number. -/
def Dialect.write (d : Dialect) (next : Nat) : List Piece → List Char
  | [] => []
  | .word w :: rest => w.toList ++ d.write next rest
  | .name n :: rest => d.quoteName n ++ d.write next rest
  | .value _ :: rest => d.placeholder next ++ d.write (next + 1) rest

/-- The values among the pieces. -/
def values (pieces : List Piece) : List Value :=
  pieces.filterMap fun
    | .value v => some v
    | _ => none

/-- The values of one list of pieces come before those of the next. -/
@[simp] theorem values_append (ps qs : List Piece) : values (ps ++ qs) = values ps ++ values qs := by
  simp [values]

/-- Numbering goes on after the values written so far. -/
theorem Dialect.write_append (d : Dialect) (next : Nat) (ps qs : List Piece) :
    d.write next (ps ++ qs) = d.write next ps ++ d.write (next + (values ps).length) qs := by
  induction ps generalizing next with
  | nil => rfl
  | cons p rest ih =>
    cases p <;> simp [write, values, ih, Nat.add_assoc, Nat.add_comm 1]

/-- The statement that a dialect writes for a query. -/
def Dialect.render (d : Dialect) (q : Query) : Statement :=
  ⟨.ofList (d.write 1 (q.pieces d)), values (q.pieces d)⟩

end EntityMap.Sql
