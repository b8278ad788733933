import EntityMap.Relation
import EntityMap.Text.Blank

/-!
# Faults of record declarations
-/

namespace EntityMap.Declaration

/-- The attributes that declarations carry. -/
inductive AttributeName where
  /-- How a field is stored. -/
  | storage
  /-- Annotations. -/
  | metadata
  deriving DecidableEq, Repr

def AttributeName.text : AttributeName → String
  | storage => "db"
  | metadata => "relmeta"

/-- The attribute of a name. -/
def AttributeName.ofText? (text : String) : Option AttributeName :=
  [storage, metadata].find? (·.text == text)

/-- What a reader of arguments was looking for. -/
inductive Expected where
  | comma
  | stringLiteral
  | identifier
  /-- A part of a key with colons. -/
  | keyPart
  | key
  deriving DecidableEq, Repr

def Expected.text : Expected → String
  | comma => "expected \x60,\x60"
  | stringLiteral => "expected string literal"
  | identifier => "expected identifier"
  | keyPart => "expected ident"
  | key => "expected nested attribute"

/-- Why a declaration is refused. -/
inductive Fault where
  | generic
  | notNamedFields
  | storageTwice
  | emptyColumn
  /-- The argument is neither a column name nor one of the two words. -/
  | storageForm
  | severalKinds
  | mappedRelation
  | wrapper (kind : RelationKind) (wrapper : String)
  | structAttribute
  | keyForm
  | noArguments (name : AttributeName)
  /-- The arguments do not stand between brackets. -/
  | noBrackets (name : AttributeName)
  /-- Something else, or the end of the arguments, stands where this was looked for. -/
  | missing (expected : Expected) (atEnd : Bool)
  | keyword (word : String)
  | literalKey
  | signKey
  | leftOver
  deriving DecidableEq, Repr

def Fault.message : Fault → String
  | generic => "Record cannot be derived for generic types"
  | notNamedFields => "Record can only be derived for structs with named fields"
  | storageTwice => "duplicate #[db] attribute"
  | emptyColumn => "column name must not be empty"
  | storageForm => "expected a column name string, \x60skip\x60 or \x60flatten\x60"
  | severalKinds =>
    "relation kinds are mutually exclusive; use exactly one of "
      ++ Text.join ", " (RelationKind.all.map (·.token))
  | mappedRelation => "relation fields are never storage-mapped; drop the #[db] attribute"
  | wrapper kind w => s!"a \x60{kind.token}\x60 field must be a {w}<T>"
  | structAttribute => "unsupported struct attribute, expected \x60hooks\x60"
  | keyForm => "expected a plain identifier"
  | noArguments name => s!"expected attribute arguments in parentheses: #[{name.text}(...)]"
  | noBrackets name => s!"expected parentheses: #[{name.text}(...)]"
  | missing expected atEnd =>
    (if atEnd then "unexpected end of input, " else "") ++ expected.text
  | keyword word => s!"expected identifier, found keyword \x60{word}\x60"
  | literalKey => "unexpected literal in nested attribute, expected ident"
  | signKey => "unexpected token in nested attribute, expected ident"
  | leftOver => "unexpected token"

end EntityMap.Declaration
