import EntityMap.Statement.Related

/-!
# Reconciling a join table

A record that lists keys through a join table can make the table agree with its list. A deletion
removes the pairs of the record with keys outside the list, and an insertion adds the pairs that
are missing; run one after the other they leave one pair for each key of the list.
-/

namespace EntityMap

open Sql

/--
An insertion that skips the rows that are there already; none for no rows. Each row must have one
value for each column.
-/
def insertMissing (table : String) (columns : List String) (rows : List (List Value)) :
    Except Error (Option Query) :=
  if rows.isEmpty then .ok none
  else
    match rows.find? (·.length ≠ columns.length) with
    | some row => .error (.shape (.rowWidth table columns.length row.length))
    | none => .ok (some (.insert table columns rows .skip))

/-- The join table of a relation, and the pairs that it is to hold for one record. -/
structure JoinPlan where
  table : String
  join : JoinLink
  own : Value
  /-- The keys to be paired with `own`, each once. -/
  desired : List Value
  deriving DecidableEq, Repr

namespace JoinPlan

/-- The deletion of the pairs that are not desired. -/
def delete (p : JoinPlan) : Query :=
  .delete p.table (.eq p.join.ownColumn p.own ::
    if p.desired.isEmpty then [] else [.notIn (.bare p.join.otherColumn) p.desired])

/-- The insertion of the desired pairs. -/
def insert (p : JoinPlan) : Except Error (Option Query) :=
  insertMissing p.table [p.join.ownColumn, p.join.otherColumn]
    (p.desired.map fun id => [p.own, id])

end JoinPlan

/-- The two statements that bring a join table in line. -/
structure Reconciliation where
  delete : Query
  insert : Option Query
  deriving DecidableEq, Repr

namespace Registry

/-- The plan for a relation of a record that holds keys through a join table. -/
def joinPlan (reg : Registry) (r : Record) (relation : String) : Except Error JoinPlan := do
  let (e, rel) ← reg.resolve r relation
  match rel.link with
  | .belongsToManyIds join =>
    let entry ← r.schema.relationEntry rel
    match r.idsAt? entry.locator with
    | none => throw (.shape (.noIdentifiers entry.field.name))
    | some ids =>
      let table := (← reg.entityNamed join.joinName).storageName
      let own ← e.ownKey r
      return ⟨table, join, own, Value.distinct ids⟩
  | link => throw (.notReconcilable relation link.kind)

def reconcileDelete (reg : Registry) (r : Record) (relation : String) : Except Error Query :=
  (reg.joinPlan r relation).map (·.delete)

def reconcileInsert (reg : Registry) (r : Record) (relation : String) :
    Except Error (Option Query) := do
  (← reg.joinPlan r relation).insert

/-- Both statements. -/
def reconcile (reg : Registry) (r : Record) (relation : String) : Except Error Reconciliation := do
  let delete ← reg.reconcileDelete r relation
  let insert ← reg.reconcileInsert r relation
  return ⟨delete, insert⟩

end Registry

end EntityMap
