import EntityMap.Entity
import EntityMap.Tag
import EntityMap.Text.SnakeCase

/-!
# Entities read off annotations

`Entity.ofSchema?` reads the annotations of every field of a schema, embedded ones included, and
builds the entity that they describe. It works in four passes, and the first fault ends it: the
tokens must be known; keys and the version are collected; there must be a key; and each field with
a relation kind gives a relation, whose missing columns are filled in from the key and the names.
-/

namespace EntityMap

/-- The options that are no relation kinds. -/
def optionTokens : List String :=
  ["relation_name", "sql_id_field", "sql_other_id_field", "join_name", "pk", "auto_incr",
   "version"]

/-- The token is a relation kind or an option. -/
def isKnownToken (token : String) : Bool :=
  (RelationKind.ofToken? token).isSome || optionTokens.contains token

/-- A field with its annotations. -/
structure Annotated where
  field : Field
  tag : Tag

namespace Annotated

/-- The fields of a schema with their annotations, embedded ones included. -/
def ofSchema (s : Schema) : List Annotated := s.walk.map fun e => ⟨e.field, .ofString e.field.tag⟩

/-- The first token that means nothing. -/
def unknownToken? (a : Annotated) : Option String := a.tag.keys.find? (!isKnownToken ·)

/-- The relation kinds that the field declares. -/
def kinds (a : Annotated) : List RelationKind := RelationKind.all.filter (a.tag.has ·.token)

end Annotated

/-- The keys and the version that annotations declare. -/
structure Keys where
  columns : List String := []
  generated : Bool := false
  version : Option String := none
  deriving DecidableEq, Repr

namespace Keys

/-- The keys with what one more field declares. A key column is not looked at as a version. -/
def add (k : Keys) (a : Annotated) : Except MetadataFault Keys :=
  match a.field.column with
  | none => .ok k
  | some column =>
    if a.tag.has "pk" then
      .ok { k with
        columns := k.columns ++ [column]
        generated := k.generated || a.tag.has "auto_incr" }
    else if a.tag.has "auto_incr" then .error (.generatedNoKey a.field.name)
    else if a.tag.has "version" then
      match k.version with
      | some first => .error (.twoVersions first column)
      | none => .ok { k with version := some column }
    else .ok k

/-- The keys that a list of fields declares. -/
def collect (fields : List Annotated) : Except MetadataFault Keys := fields.foldlM add {}

end Keys

/-! ## Relations -/

/-- The text without the first occurrence of a part, if the part occurs. -/
def dropFirst? (part : List Char) : List Char → Option (List Char)
  | [] => if part.isEmpty then some [] else none
  | c :: rest =>
    if part.isPrefixOf (c :: rest) then some ((c :: rest).drop part.length)
    else (dropFirst? part rest).map (c :: ·)

/--
The column of a join table for the other side: what is left of the name of the table without the
name of this side and the underscores around it, with `_id` behind.
-/
def guessOtherColumn? (joinName entity : String) : Option String :=
  if entity.isEmpty then none
  else
    (dropFirst? entity.toList joinName.toList).map fun rest =>
      String.ofList (Text.trimOf (· == '_') rest) ++ "_id"

/-- What the relation of a field is read off from. -/
structure RelationSource where
  /-- The name of the entity that declares the relation. -/
  entity : String
  /-- Its first key column. -/
  primaryKey : String
  field : Field
  tag : Tag

namespace RelationSource

/-- The name of the field in snake case. -/
def fieldName (s : RelationSource) : String := Text.snakeCase s.field.name

/-- The name of the relation: the given one, or that of the field. -/
def name (s : RelationSource) : String := (s.tag.get? "relation_name").getD s.fieldName

/-- The column of this side that holds the key of the other. -/
def foreignKey (s : RelationSource) : String :=
  (s.tag.get? "sql_id_field").getD (s.fieldName ++ "_id")

/-- The column of the other side that holds the key of this one. -/
def backReference (s : RelationSource) : String :=
  (s.tag.get? "sql_other_id_field").getD (s.entity ++ "_id")

/-- The join table and its columns. -/
def join (s : RelationSource) (kind : RelationKind) : Except MetadataFault JoinLink :=
  match s.tag.get? "join_name" with
  | none => .error (.noJoinName kind s.name)
  | some joinName =>
    let ownColumn := (s.tag.get? "sql_id_field").getD s.primaryKey
    match (s.tag.get? "sql_other_id_field").or (guessOtherColumn? joinName s.entity) with
    | some otherColumn => .ok { joinName, ownColumn, otherColumn }
    | none => .error (.noOtherColumn s.name joinName)

/-- The link of a kind. -/
def link (s : RelationSource) : RelationKind → Except MetadataFault Link
  | .belongsTo => .ok (.belongsTo s.foreignKey)
  | .hasMany => .ok (.hasMany s.backReference)
  | .hasOne => .ok (.hasOne s.backReference)
  | .belongsToMany => (s.join .belongsToMany).map .belongsToMany
  | .belongsToManyIds => (s.join .belongsToManyIds).map .belongsToManyIds

end RelationSource

/-- The relation that a field declares, if it declares one. -/
def Annotated.relation? (entity primaryKey : String) (a : Annotated) :
    Except MetadataFault (Option Relation) :=
  match a.kinds with
  | [] => .ok none
  | [kind] =>
    let source : RelationSource := ⟨entity, primaryKey, a.field, a.tag⟩
    (source.link kind).map fun link => some ⟨source.name, a.field.name, link⟩
  | kinds => .error (.severalKinds a.field.name kinds)

namespace Entity

/-- The entity with the relation that a field declares. -/
def declare (primaryKey : String) (e : Entity) (a : Annotated) : Except MetadataFault Entity :=
  (a.relation? e.name primaryKey).map fun
    | some r => e.addRelation r
    | none => e

/-- The entity that annotated fields describe, as far as keys and relations go. -/
def ofAnnotations (start : Entity) (fields : List Annotated) : Except MetadataFault Entity :=
  match fields.findSome? fun a => a.unknownToken?.map fun t => (t, a.field.name) with
  | some (token, field) => .error (.unknownToken token field)
  | none =>
    match Keys.collect fields with
    | .error fault => .error fault
    | .ok keys =>
      let entity := { start with keyColumns := keys.columns, keyGenerated := keys.generated }
      match keys.columns with
      | [] => .error .noKey
      | primaryKey :: _ => fields.foldlM (declare primaryKey) (entity.setVersionColumn keys.version)

/-- The name of an entity: the given one, or that of the type in snake case. -/
def nameFor (s : Schema) (name : Option String) : String :=
  name.getD (Text.snakeCase s.type.name)

/-- The entity that the annotations of a schema describe. -/
def ofSchema? (s : Schema) (name : Option String) : Except Error Entity :=
  let name := nameFor s name
  (ofAnnotations (.ofSchema s name) (Annotated.ofSchema s)).mapError (.metadata name)

end Entity

end EntityMap
