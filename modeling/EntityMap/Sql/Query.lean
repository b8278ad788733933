import EntityMap.Value

/-!
# Statements as data

The few forms of statement that are built: selections with at most one join, insertions of rows,
updates and deletions. A filter is a conjunction of predicates.
-/

namespace EntityMap.Sql

/-- A column, with its table where there are several. -/
structure ColumnRef where
  table : Option String := none
  column : String
  deriving DecidableEq, Repr

/-- The column of a table. -/
def ColumnRef.of (table column : String) : ColumnRef := ⟨some table, column⟩

/-- The column of the only table. -/
def ColumnRef.bare (column : String) : ColumnRef := ⟨none, column⟩

/-- A condition on one column. -/
inductive Predicate where
  | equal (column : ColumnRef) (value : Value)
  | notIn (column : ColumnRef) (values : List Value)
  deriving DecidableEq, Repr

/-- A second table, joined where two columns are equal. -/
structure Join where
  table : String
  left : ColumnRef
  right : ColumnRef
  deriving DecidableEq, Repr

/-- What an insertion does with a row whose columns hold what another row holds already. -/
inductive OnDuplicate where
  | fail
  | skip
  deriving DecidableEq, Repr

/-- A statement. -/
inductive Query where
  | select (columns : List ColumnRef) (table : String) (join : Option Join)
      (filter : List Predicate)
  | insert (table : String) (columns : List String) (rows : List (List Value))
      (onDuplicate : OnDuplicate)
  | update (table : String) (assignments : List (String × Value)) (filter : List Predicate)
  | delete (table : String) (filter : List Predicate)
  deriving DecidableEq, Repr

namespace Query

/-- A selection of columns of one table. -/
def selectFrom (table : String) (columns : List String) (filter : List Predicate) : Query :=
  .select (columns.map .bare) table none filter

end Query

/-- A column equals a value. -/
def Predicate.eq (column : String) (value : Value) : Predicate := .equal (.bare column) value

end EntityMap.Sql
