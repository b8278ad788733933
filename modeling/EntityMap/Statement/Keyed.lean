import EntityMap.Record.Hooks
import EntityMap.Registry
import EntityMap.Sql.Query
import EntityMap.Statement.Version

/-!
# Statements for whole records

Selections, insertions, updates and deletions of the rows of one entity. A statement for a single
row names every key column, and a write also the version of the record, if the entity has one.
Insertions and updates run the hook of the record first; they answer with the record after its
hook, whether or not there is a statement.
-/

namespace EntityMap

open Sql

/-- Key columns with the values that they must have, in the order of the key. -/
def Entity.keyFilter (e : Entity) (keys : List Value) : List Predicate :=
  (e.keyColumns.zip keys).map fun p => .eq p.1 p.2

/-- As many key values as key columns. -/
def Entity.checkArity (e : Entity) (keys : List Value) : Except Error Unit :=
  if keys.length = e.keyColumns.length then .ok ()
  else .error (.shape (.keyArity e.name e.keyColumns.length keys.length))

/-- The predicate on the version of a record; none for an entity without versions. -/
def Entity.versionFilter (e : Entity) (r : Record) : Except Error (List Predicate) :=
  match e.versionColumn with
  | none => .ok []
  | some column => (e.columnValue r column).map fun v => [.eq column v]

/-- The filter that finds the row of a record by its key. -/
def Entity.rowFilter (e : Entity) (r : Record) : Except Error (List Predicate) :=
  (e.keyValues r).map e.keyFilter

/-- The selection of all columns of an entity. -/
def Entity.select (e : Entity) (filter : List Predicate) : Query :=
  .selectFrom e.storageName e.columns filter

/-- The values of a row to be inserted for a record. -/
def Entity.rowOf (e : Entity) (r : Record) : Except Error (List Value) :=
  e.insertColumns.mapM (e.columnValue r)

/--
Runs the hooks of records and collects their rows. The first row that cannot be built ends this;
the records after it stay as they are.
-/
def Entity.rowsOf (e : Entity) (hooks : Hooks) :
    List Record → List Record × Except Error (List (List Value))
  | [] => ([], .ok [])
  | r :: rest =>
    let r := hooks.beforeInsert r
    match e.rowOf r with
    | .error err => (r :: rest, .error err)
    | .ok row =>
      match e.rowsOf hooks rest with
      | (rest, rows) => (r :: rest, rows.map (row :: ·))

/-- The columns to be updated with their values in a record; there must be one. -/
def Entity.assignments (e : Entity) (r : Record) : Except Error (List (String × Value)) := do
  let values ← e.valuesOf r e.plainColumns
  if values.isEmpty then throw (.shape (.nothingToUpdate e.name))
  return values

/-- The update of the row of a record, which must still have the version of the record. -/
def Entity.update (e : Entity) (r : Record) : Except Error Query := do
  let assignments ← e.assignments r
  let keys ← e.rowFilter r
  match e.versionColumn with
  | none => return .update e.storageName assignments keys
  | some column =>
    let current ← e.columnValue r column
    let next ← nextVersion current
    let assignments := assignments.map fun a => if a.1 = column then (a.1, next) else a
    return .update e.storageName assignments (keys ++ [.eq column current])

/-- The deletion of the row of a record, which must still have the version of the record. -/
def Entity.delete (e : Entity) (r : Record) : Except Error Query := do
  let keys ← e.rowFilter r
  let version ← e.versionFilter r
  return .delete e.storageName (keys ++ version)

namespace Registry

/-- All rows of a type. -/
def select (reg : Registry) (t : RecordType) : Except Error Query :=
  (reg.entityOf t).map fun e => e.select []

/-- The row with the given key values. -/
def selectByKey (reg : Registry) (t : RecordType) (keys : List Value) : Except Error Query := do
  let e ← reg.entityOf t
  e.checkArity keys
  return e.select (e.keyFilter keys)

/-- The row of a record, by its key. -/
def selectById (reg : Registry) (r : Record) : Except Error Query := do
  let e ← reg.entityOf r.type
  reg.selectByKey r.type (← e.keyValues r)

/-- The deletion of the row with the given key values, whatever its version. -/
def deleteByKey (reg : Registry) (t : RecordType) (keys : List Value) : Except Error Query := do
  let e ← reg.entityOf t
  e.checkArity keys
  return .delete e.storageName (e.keyFilter keys)

/-- The deletion of the row of a record, by its key and version. -/
def deleteById (reg : Registry) (r : Record) : Except Error Query := do
  (← reg.entityOf r.type).delete r

/-- The insertion of several records, with the records after their hooks. -/
def insertMany (reg : Registry) (hooks : Hooks) (t : RecordType) (records : List Record) :
    List Record × Except Error Query :=
  match reg.entityOf t with
  | .error err => (records, .error err)
  | .ok e =>
    if records.isEmpty then (records, .error (.shape (.noRecords e.name)))
    else
      match e.rowsOf hooks records with
      | (records, rows) =>
        (records, rows.map fun rows => .insert e.storageName e.insertColumns rows .fail)

/-- The insertion of one record, with the record after its hook. -/
def insert (reg : Registry) (hooks : Hooks) (r : Record) : Record × Except Error Query :=
  match reg.insertMany hooks r.type [r] with
  | (records, result) => (records.headD r, result)

/-- The update of the row of a record by key and version, with the record after its hook. -/
def updateById (reg : Registry) (hooks : Hooks) (r : Record) : Record × Except Error Query :=
  match reg.entityOf r.type with
  | .error err => (r, .error err)
  | .ok e =>
    let r := hooks.beforeUpdate r
    (r, e.update r)

end Registry

end EntityMap
