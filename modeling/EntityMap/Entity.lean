import EntityMap.Record

/-!
# Entities

An entity says how records of one type are stored: under which table name, with which key and
version columns, and how they are related to other entities. It is built from scratch or read off
annotations; a useful one has at least one key column.
-/

namespace EntityMap

/-- How records of a type are stored and related. -/
structure Entity where
  /-- The logical name. -/
  name : String
  /-- The table. -/
  storageName : String
  schema : Schema
  keyColumns : List String := []
  /-- The store assigns the key when a row is inserted. -/
  keyGenerated : Bool := false
  /-- The column that counts the updates of a row. -/
  versionColumn : Option String := none
  /-- The relations, of which no two have one name. -/
  relations : List Relation := []

namespace Entity

/-- The entity of a schema without keys and relations; its table has the logical name. -/
def ofSchema (s : Schema) (name : String) : Entity where
  name
  storageName := name
  schema := s

/-- The type of the records. -/
def type (e : Entity) : RecordType := e.schema.type

/-- The relation of a name. -/
def relation? (e : Entity) (name : String) : Option Relation := e.relations.find? (·.name = name)

/-- The entity with a relation, in place of an earlier one of the name. -/
def addRelation (e : Entity) (r : Relation) : Entity :=
  { e with relations := e.relations.filter (·.name ≠ r.name) ++ [r] }

/-- The entity with its table renamed; all else, the logical name included, stays. -/
def renameStorage (f : String → String) (e : Entity) : Entity :=
  { e with storageName := f e.storageName }

/-- The entity with another version column; an empty name stands for none. -/
def setVersionColumn (e : Entity) (column : Option String) : Entity :=
  { e with versionColumn := column.filter (· ≠ "") }

def isKey (e : Entity) (column : String) : Bool := e.keyColumns.contains column

/-- The first key column, which relations refer to. -/
def primaryKey (e : Entity) : Except Error String :=
  match e.keyColumns with
  | [] => .error (.metadata e.name .noKey)
  | key :: _ => .ok key

/-- The storage columns in the order of declaration. -/
def columns (e : Entity) : List String := e.schema.columns

/-- The storage columns that are no key columns. -/
def plainColumns (e : Entity) : List String := e.columns.filter (!e.isKey ·)

/-- The columns that an insert fills: all of them, or all but generated keys. -/
def insertColumns (e : Entity) : List String := if e.keyGenerated then e.plainColumns else e.columns

/-- The value of a column in a record, which must be of the type of the entity. -/
def columnValue (e : Entity) (r : Record) (column : String) : Except Error Value :=
  if r.type ≠ e.type then .error (.shape (.foreignRecord r.type.name e.name e.type.name))
  else
    match (e.schema.locateColumn? column).bind r.read? with
    | some v => .ok v
    | none => .error (.shape (.noColumn column e.type.name))

/-- The values of the key columns, in the order of the key. -/
def keyValues (e : Entity) (r : Record) : Except Error (List Value) :=
  e.keyColumns.mapM (e.columnValue r)

/-- The columns with their values in a record. -/
def valuesOf (e : Entity) (r : Record) (columns : List String) :
    Except Error (List (String × Value)) :=
  columns.mapM fun c => (e.columnValue r c).map fun v => (c, v)

/-! ## Laws of relations -/

/-- An added relation is found under its name. -/
@[simp] theorem relation?_addRelation_self (e : Entity) (r : Relation) :
    (e.addRelation r).relation? r.name = some r := by
  simp only [relation?, addRelation, List.find?_append, List.find?_filter, List.find?_singleton,
    decide_true, if_true]
  rw [List.find?_eq_none.2 (by grind)]
  rfl

/-- Relations of other names are found as before. -/
theorem relation?_addRelation_of_ne (e : Entity) {r : Relation} {name : String}
    (h : name ≠ r.name) : (e.addRelation r).relation? name = e.relation? name := by
  simp only [relation?, addRelation, List.find?_append, List.find?_filter]
  rw [show List.find? (fun x => decide (x.name = name)) [r] = none by simp [Ne.symm h],
    Option.or_none]
  congr 1
  grind

end Entity

end EntityMap
