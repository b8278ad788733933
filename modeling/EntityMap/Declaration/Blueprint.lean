import EntityMap.Declaration.Attribute
import EntityMap.Declaration.TypeExpr

/-!
# Blueprints of record types

A record type is declared as a struct with attributes. `Struct.blueprint` works out what becomes of
each field, or why the declaration is refused. The field table, the reading of rows and the fields
that each accessor knows all follow from the classes of the fields.
-/

namespace EntityMap.Declaration

/-- A declared field. -/
structure DeclaredField where
  name : String
  type : TypeExpr
  attributes : List Attribute

/-- The forms of type declaration. -/
inductive Form where
  | namedFields (fields : List DeclaredField)
  | tupleStruct
  | unitStruct
  | sum
  | union

/-- What follows the name of a type declares parameters. -/
def declaresParameters : List Lexeme → Bool
  | .sign '<' _ :: .sign '>' _ :: _ => false
  | .sign '<' _ :: _ => true
  | _ => false

/-- A type declaration with its attributes. -/
structure Struct where
  name : String
  /-- The type has parameters. -/
  isGeneric : Bool := false
  attributes : List Attribute := []
  form : Form

/-- What becomes of a field. -/
inductive FieldClass where
  | column (name : String)
  | skip
  | flatten
  | relation (shape : Shape) (target : TypeExpr)

/-- A field of a record type. -/
structure PlannedField where
  name : String
  type : TypeExpr
  tag : String
  fieldClass : FieldClass

/-- A record type. -/
structure Blueprint where
  name : String
  /-- The type brings hooks of its own. -/
  ownHooks : Bool
  fields : List PlannedField

namespace DeclaredField

/-- The wrapper around the type of related records or keys. -/
def wrapperFor (shape : Shape) : String :=
  match shape with
  | .one => "Option"
  | .many | .ids => "Vec"

/-- The class of a field, from what its attributes say. -/
def classify (f : DeclaredField) (a : FieldAttributes) : Except Fault FieldClass := do
  match ← a.kind?, a.storage with
  | some _, some (.column _) | some _, some .flatten => throw .mappedRelation
  | some kind, _ =>
    match f.type.argumentOf? (wrapperFor kind.shape) with
    | some target => return .relation kind.shape target
    | none => throw (.wrapper kind (wrapperFor kind.shape))
  | none, some (.column column) => return .column column
  | none, some .skip => return .skip
  | none, some .flatten => return .flatten
  | none, none => return .column f.name

/-- What becomes of a declared field. -/
def plan (f : DeclaredField) : Except Fault PlannedField := do
  let a ← FieldAttributes.ofList f.attributes
  return ⟨f.name, f.type, a.tag, ← f.classify a⟩

end DeclaredField

/-- The record type that a declaration describes. -/
def Struct.blueprint (s : Struct) : Except Fault Blueprint := do
  if s.isGeneric then throw .generic
  match s.form with
  | .namedFields fields =>
    let planned ← fields.mapM (·.plan)
    return ⟨s.name, ← hasHooks s.attributes, planned⟩
  | _ => throw .notNamedFields

/-! ## The parts of a record type -/

namespace FieldClass

/-- The column of a stored field. -/
def column? : FieldClass → Option String
  | column c => some c
  | _ => none

def isFlatten : FieldClass → Bool
  | flatten => true
  | _ => false

def isRelation : FieldClass → Bool
  | relation _ _ => true
  | _ => false

def isIds : FieldClass → Bool
  | relation .ids _ => true
  | _ => false

end FieldClass

/-- How a field of a new record is filled from a row. -/
inductive Filling where
  | empty
  /-- From a column, as a value of a type. -/
  | fromColumn (column : String) (type : TypeExpr)
  /-- From the whole row, as a record of a type. -/
  | fromRow (type : TypeExpr)

namespace PlannedField

/-- The type of the records that a relation field holds; a list of keys holds none. -/
def target? (f : PlannedField) : Option TypeExpr :=
  match f.fieldClass with
  | .relation .ids _ => none
  | .relation _ t => some t
  | _ => none

/-- How the field is filled from a row. -/
def filling (f : PlannedField) : Filling :=
  match f.fieldClass with
  | .column c => .fromColumn c f.type
  | .flatten => .fromRow f.type
  | .skip | .relation _ _ => .empty

end PlannedField

/-- The ways to reach the content of a field by its index. -/
inductive Accessor where
  | value
  | setValue
  | embedded
  | setEmbedded
  | handle
  | keys
  deriving DecidableEq, Repr

namespace Accessor

/-- The accessor reaches fields of the class. -/
def reaches (a : Accessor) (c : FieldClass) : Bool :=
  match a with
  | value | setValue => c.column?.isSome
  | embedded | setEmbedded => c.isFlatten
  | handle => c.isRelation
  | keys => c.isIds

/-- The accessor is there even if it reaches no field. -/
def isConstant : Accessor → Bool
  | value | setValue => true
  | _ => false

end Accessor

namespace Blueprint

/-- The indexes of the fields that an accessor reaches. -/
def reach (b : Blueprint) (a : Accessor) : List Nat :=
  b.fields.zipIdx.filterMap fun (f, i) => if a.reaches f.fieldClass then some i else none

/-- The indexes that an accessor reaches; none if the type does without the accessor. -/
def accessor? (b : Blueprint) (a : Accessor) : Option (List Nat) :=
  let reached := b.reach a
  if a.isConstant || !reached.isEmpty then some reached else none

end Blueprint

end EntityMap.Declaration
