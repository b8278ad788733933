import EntityMap.Locator
import EntityMap.Relation
import EntityMap.Value.Text

/-!
# Errors

An error names its cause; the wording of each cause stands in one place, its `message`. Faults of
annotations and of record shapes are mistakes in a program. A missing registration or relation is
an ordinary answer, and a conflict is the expected outcome of a stale write.
-/

namespace EntityMap

open Text (quoted)

/-- What is wrong with the annotations of a record type. -/
inductive MetadataFault where
  | noKey
  | unknownToken (token field : String)
  /-- The field is generated by the store and no key. -/
  | generatedNoKey (field : String)
  | twoVersions (first second : String)
  | severalKinds (field : String) (kinds : List RelationKind)
  | noJoinName (kind : RelationKind) (relation : String)
  /-- The column of the other side is neither given nor to be guessed. -/
  | noOtherColumn (relation joinName : String)
  deriving DecidableEq, Repr

def MetadataFault.message : MetadataFault → String
  | noKey => "no primary key fields found for type"
  | unknownToken token field => s!"unknown token `{token}` on field `{field}`"
  | generatedNoKey field => s!"field `{field}` is auto_incr but not pk"
  | twoVersions first second => s!"both `{first}` and `{second}` are marked version"
  | severalKinds field kinds =>
    s!"field `{field}` declares more than one relation kind: "
      ++ Text.join ", " (kinds.map (·.token))
  | noJoinName kind relation =>
    s!"`join_name` not specified for {kind.token} relation {quoted relation}"
  | noOtherColumn relation joinName =>
    s!"`sql_other_id_field` is required for relation {quoted relation}, "
      ++ s!"unable to guess its value from join name `{joinName}`"

/-- How a record, a field or a value fails to have the shape that an operation needs. -/
inductive ShapeFault where
  /-- A record of one type was given to the entity of another. -/
  | foreignRecord (given entity expected : String)
  | noColumn (column type : String)
  | notStored (type : String) (index : Nat)
  | emptyLocator
  | nothingEmbedded (locator : Locator)
  | versionNotInteger (version : Value)
  | versionOverflow (version : Value)
  | keyArity (entity : String) (expected given : Nat)
  | noRecords (entity : String)
  /-- The entity has key columns only. -/
  | nothingToUpdate (entity : String)
  | noRelationField (relation field type : String)
  /-- The field is not a relation field of the shape that its relation fills. -/
  | relationShape (field type : String) (expected : Shape) (kind : RelationKind)
      (relation : String)
  | noRelatedRecords (field : String)
  | noHandle (field : String)
  | noIdentifiers (field : String)
  | rowWidth (table : String) (columns values : Nat)
  | severalGeneratedKeys (entity : String) (keys : Nat)
  | noKeyColumn (key entity : String)
  | insertIdRange (id : Int) (key : String)
  deriving DecidableEq, Repr

def ShapeFault.message : ShapeFault → String
  | foreignRecord given entity expected =>
    s!"record of type {given} passed to descriptor `{entity}` for {expected}"
  | noColumn column type => s!"field with column `{column}` not found on {type}"
  | notStored type index => s!"{type} has no storage-mapped field at index {index}"
  | emptyLocator => "empty field locator"
  | nothingEmbedded locator => s!"no flattened record at {locator.text}"
  | versionNotInteger version => s!"version value {version.text} is not a supported integer"
  | versionOverflow version => s!"version value {version.text} overflows"
  | keyArity entity expected given =>
    s!"`{entity}` has {expected} key fields, got {given} key values"
  | noRecords entity => s!"insert into `{entity}` needs at least one record"
  | nothingToUpdate entity => s!"`{entity}` has no non-key columns to update"
  | noRelationField relation field type =>
    s!"relation {quoted relation} names field `{field}`, which {type} does not have"
  | relationShape field type expected kind relation =>
    s!"field `{field}` of {type} must be a {expected.name} relation field for "
      ++ s!"{kind.token} relation {quoted relation}"
  | noRelatedRecords field => s!"field `{field}` does not hold related records"
  | noHandle field => s!"field `{field}` exposes no relation handle"
  | noIdentifiers field => s!"field `{field}` exposes no identifier list"
  | rowWidth table columns values =>
    s!"insert into `{table}`: Columns and values length mismatch: {columns} != {values}"
  | severalGeneratedKeys entity keys =>
    s!"`{entity}` needs exactly one key field to receive an insert id, has {keys}"
  | noKeyColumn key entity => s!"key column `{key}` not found on {entity}"
  | insertIdRange id key => s!"insert id {id} does not fit key `{key}`"

/-- Why a stored value cannot be read into a field. -/
inductive DecodeFault where
  /-- The row has no such column. -/
  | absent
  | mismatch (expected : ScalarType)
  /-- A row of keys has no column at all. -/
  | emptyRow
  deriving DecidableEq, Repr

def DecodeFault.message : DecodeFault → String
  | absent => "column not present in row"
  | mismatch expected => s!"Value type mismatch (expected {expected.name})"
  | emptyRow => "identifier row has no columns"

/-- The errors of registration, statement building and execution. -/
inductive Error where
  | metadata (entity : String) (fault : MetadataFault)
  /-- No entity is registered under the type or name. -/
  | notRegistered (name : String)
  | relationNotFound (entity relation : String)
  /-- Only relations that hold keys through a join table can be reconciled. -/
  | notReconcilable (relation : String) (kind : RelationKind)
  /-- A write by key did not affect exactly one row. -/
  | conflict
  | shape (fault : ShapeFault)
  | decode (column : String) (fault : DecodeFault)
  /-- The store reported a failure. -/
  | execution (report : String)
  deriving DecidableEq, Repr

namespace Error

def message : Error → String
  | metadata entity fault => s!"invalid metadata for `{entity}`: {fault.message}"
  | notRegistered name => s!"type not registered: {name}"
  | relationNotFound entity relation => s!"relation {quoted relation} not found on `{entity}`"
  | notReconcilable relation kind =>
    s!"relation {quoted relation} is {kind.token}, "
      ++ "which join table reconciliation does not support"
  | conflict => "update failed (not found or version conflict)"
  | shape fault => s!"type shape error: {fault.message}"
  | decode column fault => s!"cannot decode column `{column}`: {fault.message}"
  | execution report => s!"executor error: {report}"

/-- The error is the outcome of a stale write, after which the record should be read again. -/
def isConflict : Error → Bool
  | conflict => true
  | _ => false

/-- The status code with which a service answers. -/
def status : Error → Nat
  | conflict => 409
  | notRegistered _ | relationNotFound _ _ => 404
  | _ => 500

end Error

end EntityMap
