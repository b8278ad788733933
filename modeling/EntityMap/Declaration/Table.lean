import EntityMap.Declaration.Blueprint
import EntityMap.Schema

/-!
# The schema of a declared record type

A declaration writes types as names; a scope tells what the names stand for. The schema of a
declaration has a field for each declared field, in the order of declaration.
-/

namespace EntityMap.Declaration

/-- What written types stand for, by the place at which they are written. -/
structure Scope where
  /-- The type of a scalar, or of a key in a list of keys. -/
  scalar : TypeExpr → ScalarType
  /-- The schema of an embedded record. -/
  embedded : TypeExpr → Schema
  /-- The type of related records. -/
  target : TypeExpr → RecordType

namespace PlannedField

/-- What the field holds. -/
def kind (scope : Scope) (f : PlannedField) : FieldKind :=
  match f.fieldClass with
  | .column _ | .skip => .scalar (scope.scalar f.type)
  | .flatten => .flatten (scope.embedded f.type)
  | .relation .one t => .one (some (scope.target t))
  | .relation .many t => .many (some (scope.target t))
  | .relation .ids t => .ids (scope.scalar t)

/-- The field of the schema. -/
def field (scope : Scope) (f : PlannedField) : Field where
  name := f.name
  column := f.fieldClass.column?
  tag := f.tag
  kind := f.kind scope

end PlannedField

/-- The schema of the record type, to which an identity is given. -/
def Blueprint.schema (scope : Scope) (id : Nat) (b : Blueprint) : Schema where
  type := ⟨id, b.name⟩
  fields := b.fields.map (·.field scope)

end EntityMap.Declaration
