import EntityMap.Record.Handle
import EntityMap.Registry
import EntityMap.Sql.Query

/-!
# Statements for related rows

A relation of a record selects the rows, or the keys of rows, that belong to the record. The field
that the relation fills must be a relation field of the shape that the kind of the relation asks
for; it also tells the type of the related records.
-/

namespace EntityMap

open Sql

namespace Registry

/-- The entity of a record and one of its relations. -/
def resolve (reg : Registry) (r : Record) (relation : String) :
    Except Error (Entity × Relation) := do
  let e ← reg.entityOf r.type
  match e.relation? relation with
  | some rel => return (e, rel)
  | none => throw (.relationNotFound e.name relation)

end Registry

/-- The field of a schema that a relation fills. -/
def Schema.relationEntry (s : Schema) (rel : Relation) : Except Error Entry :=
  match s.fieldEntry? rel.field with
  | none => .error (.shape (.noRelationField rel.name rel.field s.type.name))
  | some entry =>
    if entry.field.kind.shape? = some rel.kind.shape then .ok entry
    else
      .error (.shape (.relationShape entry.field.name s.type.name rel.kind.shape rel.kind rel.name))

namespace Registry

/-- The entity of the records that a relation leads to. -/
def relatedEntity (reg : Registry) (s : Schema) (rel : Relation) : Except Error Entity := do
  let entry ← s.relationEntry rel
  match entry.field.kind.target? with
  | some t => reg.entityOf t
  | none => throw (.shape (.noRelatedRecords entry.field.name))

end Registry

/-- The first key value of a record. -/
def Entity.ownKey (e : Entity) (r : Record) : Except Error Value := do
  e.columnValue r (← e.primaryKey)

namespace Registry

/-- The selection of what a relation of a record leads to. -/
def selectRelation (reg : Registry) (r : Record) (relation : String) : Except Error Query := do
  let (e, rel) ← reg.resolve r relation
  match rel.link with
  | .belongsTo ownColumn =>
    let target ← reg.relatedEntity r.schema rel
    let key ← target.primaryKey
    let value ← e.columnValue r ownColumn
    return .selectFrom target.storageName target.columns [.eq key value]
  | .hasMany otherColumn | .hasOne otherColumn =>
    let target ← reg.relatedEntity r.schema rel
    let value ← e.ownKey r
    return .selectFrom target.storageName target.columns [.eq otherColumn value]
  | .belongsToMany join =>
    let target ← reg.relatedEntity r.schema rel
    let joinTable := (← reg.entityNamed join.joinName).storageName
    let targetTable := target.storageName
    let key ← target.primaryKey
    let value ← e.ownKey r
    return .select (target.columns.map (.of targetTable)) joinTable
      (some ⟨targetTable, .of joinTable join.otherColumn, .of targetTable key⟩)
      [.equal (.of joinTable join.ownColumn) value]
  | .belongsToManyIds join =>
    let _ ← r.schema.relationEntry rel
    let joinTable := (← reg.entityNamed join.joinName).storageName
    let value ← e.ownKey r
    return .selectFrom joinTable [join.otherColumn] [.eq join.ownColumn value]

/-- The selection with the place and the handle of the field that its rows belong in. -/
def selectRelationTarget (reg : Registry) (r : Record) (relation : String) :
    Except Error (Query × Locator × Handle) := do
  let query ← reg.selectRelation r relation
  let (_, rel) ← reg.resolve r relation
  let entry ← r.schema.relationEntry rel
  match r.handleAt? entry.locator with
  | some handle => return (query, entry.locator, handle)
  | none => throw (.shape (.noHandle rel.field))

end Registry

/-- The place of the field that a relation of an entity fills in a record. -/
def Entity.locateRelation? (e : Entity) (r : Record) (relation : String) : Option Locator :=
  (e.relation? relation).bind fun rel => r.schema.locateField? rel.field

/-- The handle of the field that a relation of an entity fills in a record. -/
def Entity.handle? (e : Entity) (r : Record) (relation : String) : Option Handle :=
  (e.locateRelation? r relation).bind r.handleAt?

end EntityMap
