import EntityMap.Proofs.Sql.Lexemes

/-!
# Reading a statement

What a database takes a text for is read as a statement again. Each part of the grammar has a
reader, which answers with what it has read and with what is left. `read?_render` says that every
statement that lists something wherever a list is due is read back from its text in each dialect.
-/

namespace EntityMap.Sql

/-- Reads something from the front of a sequence. -/
abbrev Reader (α : Type) : Type := List Lexeme → Option (α × List Lexeme)

namespace Reader

variable {α : Type}

/-- Reads as many as there are with the separator between them; there must be one. -/
def many (read : Reader α) (sep : Lexeme) (ls : List Lexeme) : Option (List α × List Lexeme) :=
  match read ls with
  | none => none
  | some (x, []) => some ([x], [])
  | some (x, l :: rest) =>
    if l = sep then
      if rest.length < ls.length then (many read sep rest).map fun p => (x :: p.1, p.2) else none
    else some ([x], l :: rest)
termination_by ls.length

/-- Reads a list between parentheses. -/
def tuple (read : Reader α) : Reader (List α)
  | .mark '(' :: rest =>
    match many read (.mark ',') rest with
    | some (xs, .mark ')' :: rest) => some (xs, rest)
    | _ => none
  | _ => none

def name : Reader String
  | .name n :: rest => some (n, rest)
  | _ => none

def value : Reader Value
  | .value v :: rest => some (v, rest)
  | _ => none

def column : Reader ColumnRef
  | .name t :: .mark '.' :: .name c :: rest => some (.of t c, rest)
  | .name c :: rest => some (.bare c, rest)
  | _ => none

def assignment : Reader (String × Value)
  | .name c :: .mark '=' :: .value v :: rest => some ((c, v), rest)
  | _ => none

def predicate : Reader Predicate := fun ls =>
  match column ls with
  | some (c, .mark '=' :: .value v :: rest) => some (.equal c v, rest)
  | some (c, .word "NOT" :: .word "IN" :: rest) =>
    (tuple value rest).map fun p => (.notIn c p.1, p.2)
  | _ => none

/-- Reads a join, if there is one. -/
def join : Reader (Option Join)
  | .word "INNER" :: .word "JOIN" :: .name t :: .word "ON" :: rest =>
    match column rest with
    | some (left, .mark '=' :: rest) => (column rest).map fun p => (some ⟨t, left, p.1⟩, p.2)
    | _ => none
  | ls => some (none, ls)

/-- Reads the filter at the end of a statement, if there is one. -/
def filter? : List Lexeme → Option (List Predicate)
  | [] => some []
  | .word "WHERE" :: rest =>
    match many predicate (.word "AND") rest with
    | some (ps, []) => some ps
    | _ => none
  | _ => none

end Reader

namespace Dialect

/-- Reads whether an insertion is to skip rows, where the dialect says so at its beginning. -/
def insertStart (d : Dialect) (ls : List Lexeme) : OnDuplicate × List Lexeme :=
  match d, ls with
  | .sqlite, .word "OR" :: .word "IGNORE" :: rest => (.skip, rest)
  | .mysql, .word "IGNORE" :: rest => (.skip, rest)
  | _, rest => (.fail, rest)

/-- Reads whether an insertion is to skip rows, where the dialect says so at its end. The columns
that tell which rows to skip must be those inserted. -/
def insertEnd? (d : Dialect) (columns : List String) (start : OnDuplicate) :
    List Lexeme → Option OnDuplicate
  | [] => some start
  | .word "ON" :: .word "CONFLICT" :: rest =>
    if d = .postgres ∧ rest = nameTuple columns ++ [.word "DO", .word "NOTHING"] then some .skip
    else none
  | _ => none

/-- Reads a statement. -/
def query? (d : Dialect) : List Lexeme → Option Query
  | .word "SELECT" :: rest =>
    match Reader.many Reader.column (.mark ',') rest with
    | some (columns, .word "FROM" :: .name t :: rest) =>
      (Reader.join rest).bind fun (join, rest) =>
        (Reader.filter? rest).map fun filter => .select columns t join filter
    | _ => none
  | .word "INSERT" :: rest =>
    match d.insertStart rest with
    | (start, .word "INTO" :: .name t :: rest) =>
      match Reader.tuple Reader.name rest with
      | some (columns, .word "VALUES" :: rest) =>
        (Reader.many (Reader.tuple Reader.value) (.mark ',') rest).bind fun (rows, rest) =>
          (d.insertEnd? columns start rest).map fun o => .insert t columns rows o
      | _ => none
    | _ => none
  | .word "UPDATE" :: .name t :: .word "SET" :: rest =>
    (Reader.many Reader.assignment (.mark ',') rest).bind fun (assignments, rest) =>
      (Reader.filter? rest).map fun filter => .update t assignments filter
  | .word "DELETE" :: .word "FROM" :: .name t :: rest =>
    (Reader.filter? rest).map fun filter => .delete t filter
  | _ => none

/-- The statement that a database of the dialect understands. -/
def read? (d : Dialect) (s : Statement) : Option Query := (d.lexemes? s).bind d.query?

end Dialect

/-! ## Laws of readers -/

namespace Reader

variable {α : Type} {read : Reader α}

/-- A thing is read from its text, provided that what is left does not begin with one of a few
lexemes. -/
def Restores (read : Reader α) (text : List Lexeme) (x : α) (avoid : List Lexeme) : Prop :=
  ∀ rest, (∀ l ∈ avoid, rest.head? ≠ some l) → read (text ++ rest) = some (x, rest)

theorem restores_name (n : String) : Restores name [.name n] n [] := fun _ _ => rfl

theorem restores_value (v : Value) : Restores value [.value v] v [] := fun _ _ => rfl

theorem restores_assignment (a : String × Value) :
    Restores assignment [.name a.1, .mark '=', .value a.2] a [] := fun _ _ => rfl

/-- A column is read unless it could be the table of another. -/
theorem restores_column (c : ColumnRef) : Restores column c.lexemes c [.mark '.'] := by
  intro rest avoids
  obtain ⟨table, c⟩ := c
  cases table with
  | some t => rfl
  | none =>
    cases rest with
    | nil => rfl
    | cons l rest =>
      have ne : l ≠ .mark '.' := by simpa using avoids
      unfold column
      simp [ColumnRef.lexemes, ne, ColumnRef.bare]

/-- A list is read unless it could go on. -/
theorem restores_many {sep : Lexeme} {avoid : List Lexeme} {text : α → List Lexeme} {xs : List α}
    (ne : xs ≠ []) (apart : sep ∉ avoid) (h : ∀ x ∈ xs, Restores read (text x) x avoid) :
    Restores (many read sep) ([sep].intercalate (xs.map text)) xs (sep :: avoid) := by
  induction xs with
  | nil => exact absurd rfl ne
  | cons x tail ih =>
    intro rest avoids
    have first : Restores read (text x) x avoid := h x List.mem_cons_self
    cases tail with
    | nil =>
      have here : read (text x ++ rest) = some (x, rest) :=
        first rest fun l hl => avoids l (List.mem_cons_of_mem _ hl)
      rw [List.map_singleton, List.intercalate_singleton, many, here]
      cases rest with
      | nil => rfl
      | cons l rest =>
        have other : l ≠ sep := by simpa using avoids sep List.mem_cons_self
        simp [other]
    | cons y tail =>
      have later := ih (by simp) (fun z hz => h z (List.mem_cons_of_mem x hz)) rest avoids
      have split : [sep].intercalate ((x :: y :: tail).map text) ++ rest =
          text x ++ sep :: ([sep].intercalate ((y :: tail).map text) ++ rest) := by
        simp [List.intercalate]
      have here := first (sep :: ([sep].intercalate ((y :: tail).map text) ++ rest)) (by
        intro l hl
        rintro ⟨⟩
        exact apart hl)
      have shorter : ([sep].intercalate ((y :: tail).map text) ++ rest).length <
          (text x ++ sep :: ([sep].intercalate ((y :: tail).map text) ++ rest)).length := by
        simp only [List.length_append, List.length_cons]
        omega
      rw [split, many, here]
      simp only [if_true]
      rw [if_pos shorter, later]
      rfl

/-- A list between parentheses is read whatever follows. -/
theorem restores_tuple {avoid : List Lexeme} {text : α → List Lexeme} {xs : List α} (ne : xs ≠ [])
    (apart : .mark ',' ∉ avoid) (closes : .mark ')' ∉ avoid)
    (h : ∀ x ∈ xs, Restores read (text x) x avoid) :
    Restores (tuple read)
      (.mark '(' :: [.mark ','].intercalate (xs.map text) ++ [.mark ')']) xs [] := by
  intro rest _
  have inner := restores_many ne apart h (.mark ')' :: rest) (by
    intro l hl
    rintro ⟨⟩
    rcases List.mem_cons.1 hl with hl | hl
    · simp at hl
    · exact closes hl)
  simp only [List.cons_append, List.append_assoc, List.nil_append, tuple, inner]

theorem restores_nameTuple {names : List String} (ne : names ≠ []) :
    Restores (tuple name) (nameTuple names) names [] :=
  restores_tuple ne (by simp) (by simp) fun n _ => restores_name n

theorem restores_valueTuple {vs : List Value} (ne : vs ≠ []) :
    Restores (tuple value) (valueTuple vs) vs [] :=
  restores_tuple ne (by simp) (by simp) fun v _ => restores_value v

theorem restores_predicate {p : Predicate} (full : p.IsFull) :
    Restores predicate p.lexemes p [] := by
  intro rest _
  cases p with
  | equal c v =>
    have first := restores_column c (.mark '=' :: .value v :: rest) (by simp)
    have text : (Predicate.equal c v).lexemes ++ rest =
        c.lexemes ++ .mark '=' :: .value v :: rest := by
      simp [Predicate.lexemes]
    rw [text, predicate, first]
    rfl
  | notIn c vs =>
    have first := restores_column c (.word "NOT" :: .word "IN" :: (valueTuple vs ++ rest)) (by simp)
    have text : (Predicate.notIn c vs).lexemes ++ rest =
        c.lexemes ++ .word "NOT" :: .word "IN" :: (valueTuple vs ++ rest) := by
      simp [Predicate.lexemes]
    rw [text, predicate, first]
    simp only [restores_valueTuple full rest (by simp), Option.map_some]

/-- A filter is read at the end of a statement. -/
theorem filter?_filterLexemes {ps : List Predicate} (full : ∀ p ∈ ps, p.IsFull) :
    filter? (filterLexemes ps) = some ps := by
  cases ps with
  | nil => rfl
  | cons p tail =>
    have all := restores_many (by simp : p :: tail ≠ []) (by simp : Lexeme.word "AND" ∉ [])
      (fun q hq => restores_predicate (full q hq)) [] (by simp)
    rw [List.append_nil] at all
    simp only [filterLexemes, filter?, all]

/-- A join is read before a filter. -/
theorem join_lexemes (j : Option Join) (ps : List Predicate) :
    join (j.elim [] (·.lexemes) ++ filterLexemes ps) = some (j, filterLexemes ps) := by
  cases j with
  | none =>
    cases ps with
    | nil => rfl
    | cons p tail => rfl
  | some j =>
    have left := restores_column j.left
      (.mark '=' :: (j.right.lexemes ++ filterLexemes ps)) (by simp)
    have right := restores_column j.right (filterLexemes ps) (by
      cases ps <;> simp [filterLexemes])
    simp only [Option.elim_some, Join.lexemes, List.cons_append, List.append_assoc,
      List.nil_append, join, left, right, Option.map_some]

end Reader

open Reader in
/-- A statement that lists something wherever a list is due is read from its lexemes. -/
theorem Dialect.query?_lexemes (d : Dialect) {q : Query} (full : q.IsFull) :
    d.query? (q.lexemes d) = some q := by
  cases q with
  | select columns table j filter =>
    have listed := restores_many full.1 (by simp : Lexeme.mark ',' ∉ [.mark '.'])
      (fun c _ => restores_column c)
      (.word "FROM" :: .name table :: (j.elim [] (·.lexemes) ++ filterLexemes filter)) (by simp)
    simp only [Query.lexemes, List.cons_append, Dialect.query?, listed]
    rw [join_lexemes, Option.bind_some, filter?_filterLexemes full.2, Option.map_some]
  | insert table columns rows onDuplicate =>
    have listed := restores_nameTuple full.1 (.word "VALUES" ::
      ([.mark ','].intercalate (rows.map valueTuple)
        ++ (if onDuplicate = .skip then d.conflictLexemes columns else []))) (by simp)
    have tuples := restores_many full.2.1 (by simp : Lexeme.mark ',' ∉ [])
      (fun row hrow => restores_valueTuple (full.2.2 row hrow))
      (if onDuplicate = .skip then d.conflictLexemes columns else [])
      (by cases onDuplicate <;> cases d <;> simp [conflictLexemes])
    have starts (rest : List Lexeme) : d.insertStart
        ((if onDuplicate = .skip then d.skipLexemes else []) ++ .word "INTO" :: rest) =
        (if d = .postgres then .fail else onDuplicate, .word "INTO" :: rest) := by
      cases onDuplicate <;> cases d <;> rfl
    have ends : d.insertEnd? columns (if d = .postgres then .fail else onDuplicate)
        (if onDuplicate = .skip then d.conflictLexemes columns else []) = some onDuplicate := by
      cases onDuplicate <;> cases d <;> simp [conflictLexemes, insertEnd?]
    simp only [Query.lexemes, List.cons_append, Dialect.query?, starts, listed]
    rw [tuples, Option.bind_some, ends, Option.map_some]
  | update table assignments filter =>
    have listed := restores_many full.1 (by simp : Lexeme.mark ',' ∉ [])
      (fun a _ => restores_assignment a) (filterLexemes filter)
      (by cases filter <;> simp [filterLexemes])
    simp only [Query.lexemes, Dialect.query?, listed, Option.bind_some]
    rw [filter?_filterLexemes full.2, Option.map_some]
  | delete table filter =>
    simp only [Query.lexemes, Dialect.query?]
    rw [filter?_filterLexemes full, Option.map_some]

/-- A statement that lists something wherever a list is due is read back from its text. -/
theorem Dialect.read?_render (d : Dialect) {q : Query} (full : q.IsFull) :
    d.read? (d.render q) = some q := by
  rw [read?, render, lexemes?_of_reads (reads_pieces full), Option.bind_some, query?_lexemes d full]

end EntityMap.Sql
