import EntityMap.Number.Text
import EntityMap.Text.Blank
import EntityMap.Text.Quoted
import EntityMap.Value

/-!
# How values and types are named in messages

A value is written as its variant around its content, `Int(Some(5))` or `Int(None)`.
-/

namespace EntityMap

/-- The name of the variant of an integer type. -/
def IntKind.variantName : IntKind → String
  | .int8 => "TinyInt"
  | .int16 => "SmallInt"
  | .int32 => "Int"
  | .int64 => "BigInt"
  | .uint8 => "TinyUnsigned"
  | .uint16 => "SmallUnsigned"
  | .uint32 => "Unsigned"
  | .uint64 => "BigUnsigned"

/-- The short name of an integer type: its sign and its width. -/
def IntKind.typeName (k : IntKind) : String :=
  (if k.isSigned then "i" else "u") ++ toString k.bits

namespace Variant

/-- The name of the variant. -/
def name : Variant → String
  | bool => "Bool"
  | int k => k.variantName
  | float => "Float"
  | double => "Double"
  | string => "String"
  | char => "Char"
  | bytes => "Bytes"

/-- The full name of the type whose contents the variant holds. -/
def typeName : Variant → String
  | bool => "bool"
  | int k => k.typeName
  | float => "f32"
  | double => "f64"
  | string => "alloc::string::String"
  | char => "char"
  | bytes => "alloc::vec::Vec<u8>"

end Variant

/-- The full name of a scalar type. -/
def ScalarType.name (t : ScalarType) : String :=
  if t.nullable then "core::option::Option<" ++ t.variant.typeName ++ ">" else t.variant.typeName

namespace Value

/-- The content in the form in which messages show it; none for a null. -/
def contentText? : Value → Option String
  | bool c => c.map toString
  | int _ c => c.map fun n => toString n.val
  | float c => c.map (·.text .exact)
  | double c => c.map (·.text .exact)
  | string c => c.map Text.quoted
  | char c => c.map Text.quotedChar
  | bytes c => c.map fun bs => "[" ++ Text.join ", " (bs.map toString) ++ "]"

/-- The value in the form in which messages show it. -/
def text (v : Value) : String :=
  match v.contentText? with
  | some s => v.variant.name ++ "(Some(" ++ s ++ "))"
  | none => v.variant.name ++ "(None)"

end Value

end EntityMap
