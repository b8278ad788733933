import EntityMap.Execution
import EntityMap.Proofs.Sql.Reading
import EntityMap.Proofs.Value.Comparison

/-!
# What statements mean

A database has tables, and a table is a list of rows. A predicate selects a row if it is known to
hold of it: a comparison with a null is known neither to hold nor not to hold. The database of a
dialect is given the text of a statement and does what it reads there; `execute_eq` and
`queryAll_eq` say that this is what the statement means.
-/

namespace EntityMap

namespace Row

/-- The value in the first column of exactly this name. -/
def cell? (r : Row) (column : String) : Option Value :=
  (r.cells.find? (·.1 = column)).map (·.2)

/-- The column is known to hold a value that equals the given one. -/
def has (r : Row) (column : String) (v : Value) : Bool :=
  (r.cell? column).any fun w => w.equals? v = some true

/-- Two rows are known to hold equal values in each of some columns. -/
def agrees (columns : List String) (r s : Row) : Bool :=
  columns.all fun c => (s.cell? c).any (r.has c ·)

/-- The row with another value in a column. -/
def assign (r : Row) (a : String × Value) : Row :=
  ⟨r.cells.map fun c => if c.1 = a.1 then a else c⟩

end Row

namespace Sql

/-- The rows of each table. -/
abbrev Database : Type := String → List Row

/-- The rows that the columns of a predicate are looked up in, with the names of their tables. -/
abbrev Scope : Type := List (String × Row)

/-- The value of a column, in the row of its table or else in the first row that has it. -/
def Scope.cell? (s : Scope) (c : ColumnRef) : Option Value :=
  s.findSome? fun p => if c.table.all (· = p.1) then p.2.cell? c.column else none

/-- The predicate is known to hold. -/
def Predicate.holds (s : Scope) : Predicate → Bool
  | .equal c v => (s.cell? c).any fun w => w.equals? v = some true
  | .notIn c vs => (s.cell? c).any fun w => vs.all fun v => w.equals? v = some false

/-- All predicates of a filter are known to hold of a row of a table. -/
def selects (table : String) (filter : List Predicate) (row : Row) : Bool :=
  filter.all (·.holds [(table, row)])

/-- The table with one more row, unless it is to be skipped where another has its values. -/
def insertRow (columns : List String) (onDuplicate : OnDuplicate) (rows : List Row)
    (vs : List Value) : List Row :=
  let row : Row := ⟨columns.zip vs⟩
  if onDuplicate = .skip ∧ rows.any (row.agrees columns ·) then rows else rows ++ [row]

namespace Database

/-- The database with other rows in one table. -/
def set (db : Database) (table : String) (rows : List Row) : Database :=
  fun t => if t = table then rows else db t

@[simp] theorem set_self (db : Database) (table : String) (rows : List Row) :
    db.set table rows table = rows := by
  simp [set]

@[simp] theorem set_of_ne (db : Database) {table t : String} (h : t ≠ table) (rows : List Row) :
    db.set table rows t = db t := by
  simp [set, h]

@[simp] theorem set_set (db : Database) (table : String) (rows rows' : List Row) :
    (db.set table rows).set table rows' = db.set table rows' := by
  funext t
  simp only [set]
  split <;> rfl

@[simp] theorem set_eq_self (db : Database) (table : String) : db.set table (db table) = db := by
  funext t
  simp only [set]
  split
  · next h => rw [h]
  · rfl

/-- The rows that a selection is made from: those of a table, or each with those joined to it. -/
def scopes (db : Database) (table : String) : Option Join → List Scope
  | none => (db table).map fun row => [(table, row)]
  | some j => (db table).flatMap fun row =>
    ((db j.table).map fun other => [(table, row), (j.table, other)]).filter fun s =>
      ((s.cell? j.left).bind fun v => (s.cell? j.right).bind fun w => v.equals? w) = some true

end Database

/-- The outcome of a statement, and what it makes of a database. -/
def Query.write (q : Query) (db : Database) : Outcome × Database :=
  match q with
  | .select .. => ({}, db)
  | .insert table columns rows onDuplicate =>
    let result := rows.foldl (insertRow columns onDuplicate) (db table)
    ({ affected := result.length - (db table).length }, db.set table result)
  | .update table assignments filter =>
    ({ affected := (db table).countP (selects table filter) },
      db.set table ((db table).map fun row =>
        if selects table filter row then assignments.foldl Row.assign row else row))
  | .delete table filter =>
    ({ affected := (db table).countP (selects table filter) },
      db.set table ((db table).filter fun row => !selects table filter row))

/-- The rows that a statement answers with. -/
def Query.answer (q : Query) (db : Database) : List Row :=
  match q with
  | .select columns table join filter =>
    ((db.scopes table join).filter fun s => filter.all (·.holds s)).map fun s =>
      ⟨columns.filterMap fun c => (s.cell? c).map fun v => (c.column, v)⟩
  | _ => []

namespace Query

/-- The table that the statement is for. -/
def table : Query → String
  | .select _ table _ _ => table
  | .insert table _ _ _ => table
  | .update table _ _ => table
  | .delete table _ => table

/-- What the statement makes of the rows of its table. -/
def effect (q : Query) (rows : List Row) : List Row := (q.write fun _ => rows).2 q.table

/-- A statement writes to its table, by what is there only. -/
theorem write_eq (q : Query) (db : Database) :
    (q.write db).2 = db.set q.table (q.effect (db q.table)) := by
  cases q <;> simp [write, effect, table]

/-- What statements make of the rows of a table that all of them are for. -/
def effects (qs : List Query) (rows : List Row) : List Row :=
  qs.foldl (fun rows q => q.effect rows) rows

@[simp] theorem effects_nil (rows : List Row) : effects [] rows = rows := rfl

@[simp] theorem effects_cons (q : Query) (qs : List Query) (rows : List Row) :
    effects (q :: qs) rows = effects qs (q.effect rows) := rfl

end Query

namespace Dialect

/-- How a database of the dialect reports a text that it cannot read. -/
def syntaxError : Error := .execution "syntax error"

/-- A database of the dialect, which is given the texts of statements. -/
def database (d : Dialect) : Executor Database where
  execute q db :=
    match d.read? (d.render q) with
    | some q => (.ok (q.write db).1, (q.write db).2)
    | none => (.error syntaxError, db)
  queryAll q db :=
    match d.read? (d.render q) with
    | some q => (.ok (q.answer db), db)
    | none => (.error syntaxError, db)

variable (d : Dialect) {q : Query}

/-- A database does what a statement means. -/
theorem execute_eq (full : q.IsFull) (db : Database) :
    d.database.execute q db = (.ok (q.write db).1, (q.write db).2) := by
  simp only [database, read?_render d full]

/-- A database answers with what a selection means. -/
theorem queryAll_eq (full : q.IsFull) (db : Database) :
    d.database.queryAll q db = (.ok (q.answer db), db) := by
  simp only [database, read?_render d full]

end Dialect

/-! ## Laws of rows and predicates -/

variable {table column : String} {row : Row}

/-- A column without a table is looked up in the only row. -/
@[simp] theorem Scope.cell?_bare :
    Scope.cell? [(table, row)] (.bare column) = row.cell? column := by
  simp [Scope.cell?, ColumnRef.bare]

/-- The predicate of a key column holds of the rows that have the value there. -/
@[simp] theorem Predicate.holds_eq (v : Value) :
    (Predicate.eq column v).holds [(table, row)] = row.has column v := by
  simp [Predicate.eq, Predicate.holds, Row.has]

/-- The predicate against a list holds of the rows whose value is known to equal none. -/
@[simp] theorem Predicate.holds_notIn (vs : List Value) :
    (Predicate.notIn (.bare column) vs).holds [(table, row)] =
      (row.cell? column).any fun w => vs.all fun v => w.equals? v = some false := by
  simp [Predicate.holds]

end Sql

namespace Row

variable {r s : Row} {column : String} {v w : Value}

theorem has_eq_true_iff : r.has column v = true ↔
    ∃ w, r.cell? column = some w ∧ w.equals? v = some true := by
  simp [has, Option.any_eq_true]

theorem has_of_cell? (h : r.cell? column = some w) :
    r.has column v = decide (w.equals? v = some true) := by
  rw [has, h, Option.any_some]

/-- Of equal values a column has both or none. -/
theorem has_congr (h : v.equals? w = some true) : r.has column v = r.has column w := by
  unfold has
  cases r.cell? column with
  | none => rfl
  | some u =>
    have same : u.equals? v = u.equals? w := by
      rw [Value.equals?_comm u v, Value.equals?_comm u w, Value.equals?_congr h]
    simp only [Option.any_some, same]

/-- A column does not have two values that differ. -/
theorem equals?_of_has (h : r.has column v = true) (h' : r.has column w = true) :
    v.equals? w = some true := by
  obtain ⟨u, hu, uv⟩ := has_eq_true_iff.1 h
  obtain ⟨u', hu', uw⟩ := has_eq_true_iff.1 h'
  obtain rfl := Option.some.inj (hu.symm.trans hu')
  exact Value.equals?_trans (Value.equals?_comm v u ▸ uv) uw

theorem agrees_comm (columns : List String) (r s : Row) :
    r.agrees columns s = s.agrees columns r := by
  unfold agrees
  congr 1
  funext c
  cases hr : r.cell? c <;> cases hs : s.cell? c <;> simp [has, hr, hs, Value.equals?_comm]

/-- Rows agree just if they have a value in common in each column. -/
theorem agrees_eq_true_iff {columns : List String} :
    r.agrees columns s = true ↔ ∀ c ∈ columns, ∃ v, r.has c v = true ∧ s.has c v = true := by
  rw [agrees, List.all_eq_true]
  apply forall₂_congr
  intro c _
  constructor
  · intro h
    obtain ⟨w, hw, rw⟩ := (Option.any_eq_true _ _).1 h
    obtain ⟨v, -, equal⟩ := has_eq_true_iff.1 rw
    have self : w.equals? w = some true :=
      Value.isComparable_of_equals? (Value.equals?_comm v w ▸ equal)
    exact ⟨w, rw, has_eq_true_iff.2 ⟨w, hw, self⟩⟩
  · rintro ⟨v, rv, sv⟩
    obtain ⟨w, hw, equal⟩ := has_eq_true_iff.1 sv
    rw [hw, Option.any_some, has_congr equal]
    exact rv

/-! ## Laws of assignments -/

variable {a : String × Value} {as : List (String × Value)}

/-- An assignment changes the column it is for, if the row has it. -/
theorem cell?_assign (r : Row) (a : String × Value) (column : String) :
    (r.assign a).cell? column =
      if column = a.1 then (r.cell? column).map fun _ => a.2 else r.cell? column := by
  have names : ((fun c : String × Value => decide (c.1 = column)) ∘
      fun c => if c.1 = a.1 then a else c) = fun c => decide (c.1 = column) := by
    funext c
    by_cases h : c.1 = a.1 <;> simp [h]
  simp only [cell?, assign, List.find?_map, names, Option.map_map]
  cases hc : r.cells.find? fun c => decide (c.1 = column) with
  | none => simp
  | some c =>
    have name : c.1 = column := by simpa using List.find?_some hc
    by_cases h : column = a.1 <;> simp [name, h]

theorem cell?_foldl_assign_of_not_mem (h : column ∉ as.map (·.1)) :
    (as.foldl assign r).cell? column = r.cell? column := by
  induction as generalizing r with
  | nil => rfl
  | cons a rest ih =>
    rw [List.map_cons, List.mem_cons, not_or] at h
    rw [List.foldl_cons, ih h.2, cell?_assign, if_neg h.1]

/-- No column is added or removed. -/
theorem isSome_cell?_foldl_assign (as : List (String × Value)) (r : Row) (column : String) :
    ((as.foldl assign r).cell? column).isSome = (r.cell? column).isSome := by
  induction as generalizing r with
  | nil => rfl
  | cons a rest ih =>
    rw [List.foldl_cons, ih, cell?_assign]
    split <;> simp

/-- A column that is assigned one value only holds it afterwards. -/
theorem cell?_foldl_assign (mem : column ∈ as.map (·.1)) (all : ∀ a ∈ as, a.1 = column → a.2 = v)
    (there : (r.cell? column).isSome = true) : (as.foldl assign r).cell? column = some v := by
  induction as generalizing r with
  | nil => simp at mem
  | cons a rest ih =>
    have others : ∀ b ∈ rest, b.1 = column → b.2 = v :=
      fun b hb => all b (List.mem_cons_of_mem a hb)
    have still : ((r.assign a).cell? column).isSome = true := by
      rw [← there]
      exact isSome_cell?_foldl_assign [a] r column
    rw [List.foldl_cons]
    by_cases later : column ∈ rest.map (·.1)
    · exact ih later others still
    · have here : column = a.1 := by
        rw [List.map_cons, List.mem_cons] at mem
        exact mem.resolve_right later
      rw [cell?_foldl_assign_of_not_mem later, cell?_assign, if_pos here,
        all a List.mem_cons_self here.symm]
      obtain ⟨w, hw⟩ := Option.isSome_iff_exists.1 there
      rw [hw, Option.map_some]

end Row

/-! ## Rows that satisfy a condition -/

/-- Of members no two of which may satisfy a condition one does at most. -/
theorem length_filter_le_one {α : Type} {R : α → α → Prop} {q : α → Bool} {xs : List α}
    (h : xs.Pairwise R) (apart : ∀ x y, q x = true → q y = true → ¬ R x y) :
    (xs.filter q).length ≤ 1 := by
  have pairwise := h.filter q
  have holds : ∀ x ∈ xs.filter q, q x = true := fun x hx => (List.mem_filter.1 hx).2
  match hx : xs.filter q with
  | [] => exact Nat.zero_le 1
  | [x] => exact Nat.le_refl 1
  | x :: y :: rest =>
    rw [hx] at pairwise holds
    have related : R x y := (List.pairwise_cons.1 pairwise).1 y List.mem_cons_self
    exact absurd related (apart x y (holds x (by simp)) (holds y (by simp)))

/-- A condition that one member of a list satisfies splits the list there. -/
theorem exists_append_of_countP_eq_one {α : Type} {q : α → Bool} {xs : List α}
    (h : xs.countP q = 1) : ∃ before x after, xs = before ++ x :: after ∧ q x = true ∧
      (∀ y ∈ before, q y = false) ∧ ∀ y ∈ after, q y = false := by
  induction xs with
  | nil => simp at h
  | cons x rest ih =>
    by_cases hx : q x = true
    · rw [List.countP_cons_of_pos hx] at h
      have none : rest.countP q = 0 := by omega
      exact ⟨[], x, rest, rfl, hx, by simp, by simpa using none⟩
    · rw [List.countP_cons_of_neg hx] at h
      obtain ⟨before, y, after, rfl, hy, hb, ha⟩ := ih h
      refine ⟨x :: before, y, after, rfl, hy, ?_, ha⟩
      intro z hz
      rcases List.mem_cons.1 hz with rfl | hz
      · simpa using hx
      · exact hb z hz

/-- A change of the members that satisfy a condition changes no others. -/
theorem map_ite_eq_self {α : Type} {q : α → Bool} {xs : List α} (h : ∀ x ∈ xs, q x = false)
    (f : α → α) : (xs.map fun x => if q x = true then f x else x) = xs := by
  have same : (xs.map fun x => if q x = true then f x else x) = xs.map id := by
    apply List.map_congr_left
    intro x hx
    rw [h x hx, if_neg Bool.false_ne_true, id]
  rw [same, List.map_id]

theorem filter_not_eq_self {α : Type} {q : α → Bool} {xs : List α} (h : ∀ x ∈ xs, q x = false) :
    (xs.filter fun x => !q x) = xs := by
  rw [List.filter_eq_self]
  intro x hx
  rw [h x hx, Bool.not_false]

end EntityMap
