import EntityMap.Proofs.Sql.Scan

/-!
# What the texts of statements are taken for

Each statement has its lexemes. They differ between dialects where an insertion skips rows, and
nowhere else. `reads_pieces` says that its text is taken for them, whatever names and values it
holds.
-/

namespace EntityMap.Sql

/-! ## Lexemes -/

def ColumnRef.lexemes (c : ColumnRef) : List Lexeme :=
  match c.table with
  | some t => [.name t, .mark '.', .name c.column]
  | none => [.name c.column]

/-- Names between parentheses. -/
def nameTuple (names : List String) : List Lexeme :=
  .mark '(' :: [.mark ','].intercalate (names.map fun n => [.name n]) ++ [.mark ')']

/-- Values between parentheses. -/
def valueTuple (vs : List Value) : List Lexeme :=
  .mark '(' :: [.mark ','].intercalate (vs.map fun v => [.value v]) ++ [.mark ')']

def Predicate.lexemes : Predicate → List Lexeme
  | .equal c v => c.lexemes ++ [.mark '=', .value v]
  | .notIn c vs => c.lexemes ++ ([.word "NOT", .word "IN"] ++ valueTuple vs)

def Join.lexemes (j : Join) : List Lexeme :=
  [.word "INNER", .word "JOIN", .name j.table, .word "ON"] ++ j.left.lexemes ++ .mark '='
    :: j.right.lexemes

def filterLexemes : List Predicate → List Lexeme
  | [] => []
  | ps => .word "WHERE" :: [.word "AND"].intercalate (ps.map (·.lexemes))

namespace Dialect

def skipLexemes : Dialect → List Lexeme
  | .sqlite => [.word "OR", .word "IGNORE"]
  | .mysql => [.word "IGNORE"]
  | .postgres => []

def conflictLexemes (d : Dialect) (columns : List String) : List Lexeme :=
  match d with
  | .sqlite | .mysql => []
  | .postgres => [.word "ON", .word "CONFLICT"] ++ nameTuple columns
      ++ [.word "DO", .word "NOTHING"]

end Dialect

def Query.lexemes (d : Dialect) : Query → List Lexeme
  | .select columns table join filter =>
    .word "SELECT" :: [.mark ','].intercalate (columns.map (·.lexemes))
      ++ .word "FROM" :: .name table :: (join.elim [] (·.lexemes) ++ filterLexemes filter)
  | .insert table columns rows onDuplicate =>
    .word "INSERT" :: (if onDuplicate = .skip then d.skipLexemes else [])
      ++ .word "INTO" :: .name table :: (nameTuple columns
      ++ .word "VALUES" :: ([.mark ','].intercalate (rows.map valueTuple)
      ++ (if onDuplicate = .skip then d.conflictLexemes columns else [])))
  | .update table assignments filter =>
    .word "UPDATE" :: .name table :: .word "SET" ::
      ([.mark ','].intercalate (assignments.map fun a => [.name a.1, .mark '=', .value a.2])
      ++ filterLexemes filter)
  | .delete table filter => .word "DELETE" :: .word "FROM" :: .name table :: filterLexemes filter

/-! ## Statements that can be read -/

/-- A predicate with a list of values lists one at least. -/
def Predicate.IsFull : Predicate → Prop
  | .equal _ _ => True
  | .notIn _ vs => vs ≠ []

/-- Something is listed wherever a list is due. -/
def Query.IsFull : Query → Prop
  | .select columns _ _ filter => columns ≠ [] ∧ ∀ p ∈ filter, p.IsFull
  | .insert _ columns rows _ => columns ≠ [] ∧ rows ≠ [] ∧ ∀ row ∈ rows, row ≠ []
  | .update _ assignments filter => assignments ≠ [] ∧ ∀ p ∈ filter, p.IsFull
  | .delete _ filter => ∀ p ∈ filter, p.IsFull

/-! ## Texts of statements -/

namespace Dialect

variable {d : Dialect} {ps qs : List Piece} {ls ms : List Lexeme}

/-- A word and what follows it. -/
private theorem reads_first (w : String) (word : List Lexeme) (hw : (w, word) ∈ vocabulary)
    (rest : Reads d qs ms) : Reads d (.word w :: qs) (word ++ ms) :=
  reads_cons_word hw rest

/-- A word and what follows it, after anything. -/
private theorem Reads.followed (h : Reads d ps ls) (w : String) (word : List Lexeme)
    (hw : (w, word) ∈ vocabulary ∧ Opens w) (rest : Reads d qs ms) :
    Reads d (ps ++ .word w :: qs) (ls ++ (word ++ ms)) :=
  h.append hw.2 (reads_cons_word hw.1 rest)

theorem reads_column (c : ColumnRef) : Reads d c.pieces c.lexemes := by
  obtain ⟨table, c⟩ := c
  cases table with
  | none => exact reads_name d c
  | some t => exact (reads_name d t).followed "." [.mark '.'] (by decide) (reads_name d c)

private theorem reads_list {α : Type} {f : α → List Piece} {g : α → List Lexeme} (xs : List α)
    (parts : ∀ x ∈ xs, Reads d (f x) (g x)) :
    Reads d (separated ", " (xs.map f)) ([.mark ','].intercalate (xs.map g)) :=
  reads_separated (by decide) (by decide +kernel) xs parts

theorem reads_valueTuple (vs : List Value) :
    Reads d (inParens (separated ", " (vs.map fun v => [.value v]))) (valueTuple vs) :=
  (reads_list vs fun v _ => reads_value d v).inParens

theorem reads_nameList (names : List String) : Reads d (nameList names) (nameTuple names) :=
  (reads_list names fun n _ => reads_name d n).inParens

theorem reads_predicate (p : Predicate) : Reads d p.pieces p.lexemes := by
  cases p with
  | equal c v => exact (reads_column c).followed " = " [.mark '='] (by decide) (reads_value d v)
  | notIn c vs =>
    exact (reads_column c).followed " NOT IN " [.word "NOT", .word "IN"] (by decide)
      (reads_valueTuple vs)

/-- A filter is read after anything. -/
theorem Reads.filter (h : Reads d ps ls) (filter : List Predicate) :
    Reads d (ps ++ filterPieces filter) (ls ++ filterLexemes filter) := by
  cases filter with
  | nil => simpa [filterPieces, filterLexemes] using h
  | cons p rest =>
    have between : (" AND ", [.word "AND"]) ∈ vocabulary := by decide
    have listed := reads_separated between (by decide) (p :: rest)
      fun q _ => @reads_predicate d q
    exact h.followed " WHERE " [.word "WHERE"] (by decide) listed

/-- A join is read after anything. -/
theorem Reads.join (h : Reads d ps ls) (j : Option Join) :
    Reads d (ps ++ j.elim [] (·.pieces)) (ls ++ j.elim [] (·.lexemes)) := by
  cases j with
  | none => simpa using h
  | some j =>
    have columns := (@reads_column d j.left).followed " = " [.mark '='] (by decide)
      (reads_column j.right)
    have table := (reads_name d j.table).followed " ON " [.word "ON"] (by decide) columns
    have all := h.followed " INNER JOIN " [.word "INNER", .word "JOIN"] (by decide) table
    simpa [Join.pieces, Join.lexemes] using all

private theorem reads_insertWords (onDuplicate : OnDuplicate) (rest : Reads d qs ms) :
    Reads d (.word (d.insertWords onDuplicate) :: qs)
      (.word "INSERT" :: (if onDuplicate = .skip then d.skipLexemes else [])
        ++ .word "INTO" :: ms) := by
  have hw : (d.insertWords onDuplicate, .word "INSERT" ::
      (if onDuplicate = .skip then d.skipLexemes else []) ++ [.word "INTO"]) ∈ vocabulary := by
    cases d <;> cases onDuplicate <;> decide
  simpa using reads_cons_word hw rest

private theorem reads_rows {rows : List (List Value)} (ne : rows ≠ [])
    (full : ∀ row ∈ rows, row ≠ []) (h : Reads d ps ls) :
    Reads d (ps ++ rowPieces rows)
      (ls ++ .word "VALUES" :: [.mark ','].intercalate (rows.map valueTuple)) := by
  have all : rows.filter (!·.isEmpty) = rows := by
    rw [List.filter_eq_self]
    intro row hrow
    simpa using full row hrow
  have listed := h.followed " VALUES " [.word "VALUES"] (by decide)
    (reads_list rows fun row _ => reads_valueTuple row)
  cases rows with
  | nil => exact absurd rfl ne
  | cons row rest =>
    rw [rowPieces, all]
    exact listed

private theorem reads_conflict {columns : List String} (ne : columns ≠ [])
    (onDuplicate : OnDuplicate) (h : Reads d ps ls) :
    Reads d (ps ++ d.conflictPieces columns onDuplicate)
      (ls ++ (if onDuplicate = .skip then d.conflictLexemes columns else [])) := by
  have silent : Reads d (ps ++ []) (ls ++ []) := by simpa using h
  cases onDuplicate with
  | fail => exact silent
  | skip =>
    cases d with
    | sqlite | mysql => exact silent
    | postgres =>
      have names : Reads .postgres (nameList columns) (nameTuple columns) := reads_nameList columns
      have last := names.append (by decide) (reads_doNothing .postgres)
      have all := h.followed " ON CONFLICT " [.word "ON", .word "CONFLICT"] (by decide) last
      simpa [conflictPieces, conflictLexemes, ne] using all

/-- The text of a statement is taken for its lexemes. -/
theorem reads_pieces {q : Query} (full : q.IsFull) : Reads d (q.pieces d) (q.lexemes d) := by
  cases q with
  | select columns table j filter =>
    have listed := reads_list columns fun c _ => @reads_column d c
    have head := reads_first "SELECT " [.word "SELECT"] (by decide)
      (listed.followed " FROM " [.word "FROM"] (by decide) (reads_name d table))
    have all := (head.join j).filter filter
    cases j <;> simpa [Query.pieces, Query.lexemes] using all
  | insert table columns rows onDuplicate =>
    have head := reads_insertWords onDuplicate
      ((reads_name d table).followed " " [] (by decide) (reads_nameList columns))
    have all := reads_conflict full.1 onDuplicate (reads_rows full.2.1 full.2.2 head)
    simpa [Query.pieces, Query.lexemes] using all
  | update table assignments filter =>
    have listed := reads_list assignments fun a _ =>
      (reads_name d a.1).followed " = " [.mark '='] (by decide) (reads_value d a.2)
    have head := reads_first "UPDATE " [.word "UPDATE"] (by decide)
      ((reads_name d table).followed " SET " [.word "SET"] (by decide) listed)
    simpa [Query.pieces, Query.lexemes] using head.filter filter
  | delete table filter =>
    have head := reads_first "DELETE FROM " [.word "DELETE", .word "FROM"] (by decide)
      (reads_name d table)
    exact head.filter filter

end Dialect

end EntityMap.Sql
