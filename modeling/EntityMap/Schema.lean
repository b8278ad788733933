import EntityMap.Relation
import EntityMap.Value

/-!
# Record types and their field tables

A schema is a record type with its table of declared fields. A field table is a finite tree: the
fields of an embedded record belong to the record that embeds it. A relation field names the type
of the related records only, so types may be related in cycles.
-/

namespace EntityMap

/-- The identity of a record type, and its name as declared. -/
structure RecordType where
  id : Nat
  name : String
  deriving DecidableEq, Repr

mutual

/-- A record type and its fields in the order of declaration. -/
structure Schema where
  type : RecordType
  fields : List Field

/-- What a field holds. -/
inductive FieldKind where
  | scalar (type : ScalarType)
  /-- An embedded record, whose fields count as fields of the record around it. -/
  | flatten (embedded : Schema)
  /-- At most one related record; without a target type the field gives no access to it. -/
  | one (target : Option RecordType)
  /-- A list of related records; without a target type the field gives no access to it. -/
  | many (target : Option RecordType)
  /-- A list of keys of related records. -/
  | ids (element : ScalarType)

/-- A declared field. -/
structure Field where
  name : String
  /-- The storage column; a field without one is not stored. -/
  column : Option String
  /-- The annotations, in their written form. -/
  tag : String
  kind : FieldKind
  /-- The record keeps the content to itself: it can be neither read nor written from outside. -/
  guarded : Bool := false

end

namespace FieldKind

/-- The shape of a relation field. -/
def shape? : FieldKind → Option Shape
  | one _ => some .one
  | many _ => some .many
  | ids _ => some .ids
  | scalar _ | flatten _ => none

/-- The type of the records that a relation field holds. -/
def target? : FieldKind → Option RecordType
  | one t | many t => t
  | scalar _ | flatten _ | ids _ => none

end FieldKind

end EntityMap
