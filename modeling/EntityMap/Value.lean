import EntityMap.Number.Binary

/-!
# Column values

A value has a variant, which is fixed by the type of its column, and either a content of that
variant or none: each variant has a null of its own. `Value.same` is the equality by which
duplicates are found; it differs from identity on floating-point numbers only.
-/

namespace EntityMap

open Number

/-- The integer types of columns. -/
inductive IntKind where
  | int8
  | int16
  | int32
  | int64
  | uint8
  | uint16
  | uint32
  | uint64
  deriving DecidableEq, Repr

namespace IntKind

/-- The number of bits. -/
def bits : IntKind → Nat
  | int8 | uint8 => 8
  | int16 | uint16 => 16
  | int32 | uint32 => 32
  | int64 | uint64 => 64

def isSigned : IntKind → Bool
  | int8 | int16 | int32 | int64 => true
  | uint8 | uint16 | uint32 | uint64 => false

/-- How many integers are of the type. -/
def count (k : IntKind) : Nat := Nat.pow 2 k.bits

/-- The least integer of the type. -/
def least (k : IntKind) : Int := if k.isSigned then -(k.count / 2 : Nat) else 0

/-- The greatest integer of the type. -/
def greatest (k : IntKind) : Int :=
  if k.isSigned then (k.count / 2 : Nat) - 1 else (k.count : Int) - 1

theorem least_le_zero (k : IntKind) : k.least ≤ 0 := by cases k <;> decide

theorem zero_le_greatest (k : IntKind) : 0 ≤ k.greatest := by cases k <;> decide

end IntKind

/-- An integer of an integer type. -/
structure Bounded (k : IntKind) where
  val : Int
  least_le : k.least ≤ val
  le_greatest : val ≤ k.greatest
  deriving DecidableEq, Repr

namespace Bounded

variable {k : IntKind}

/-- The integer, if it lies within the bounds of the type. -/
def ofInt? (k : IntKind) (n : Int) : Option (Bounded k) :=
  if h : k.least ≤ n ∧ n ≤ k.greatest then some ⟨n, h.1, h.2⟩ else none

def zero (k : IntKind) : Bounded k := ⟨0, k.least_le_zero, k.zero_le_greatest⟩

/-- The next integer, unless this is the greatest. -/
def next? (n : Bounded k) : Option (Bounded k) := ofInt? k (n.val + 1)

/-- An integer is of the type just if it is within the bounds. -/
theorem ofInt?_eq_some_iff {n : Int} {b : Bounded k} : ofInt? k n = some b ↔ b.val = n := by
  unfold ofInt?
  split
  · next h => simp only [Option.some.injEq]; constructor <;> (rintro rfl; rfl)
  · next h => simp only [reduceCtorEq, false_iff]; rintro rfl; exact h ⟨b.least_le, b.le_greatest⟩

/-- The integer of a bounded integer gives it back. -/
@[simp] theorem ofInt?_val (b : Bounded k) : ofInt? k b.val = some b := ofInt?_eq_some_iff.2 rfl

/-- The next integer is greater by one. -/
theorem next?_eq_some_iff {m n : Bounded k} : n.next? = some m ↔ m.val = n.val + 1 :=
  ofInt?_eq_some_iff

/-- Only the greatest integer has no next. -/
theorem next?_eq_none_iff {n : Bounded k} : n.next? = none ↔ n.val = k.greatest := by
  have low := n.least_le
  have high := n.le_greatest
  simp only [next?, ofInt?, dite_eq_right_iff, reduceCtorEq, imp_false, not_and]
  omega

end Bounded

/-- The variants of values. -/
inductive Variant where
  | bool
  | int (kind : IntKind)
  | float
  | double
  | string
  | char
  | bytes
  deriving DecidableEq, Repr

/-- A value of a column: a content, or the null, of one of the variants. -/
inductive Value where
  | bool (content : Option Bool)
  | int (kind : IntKind) (content : Option (Bounded kind))
  | float (content : Option (Binary .single))
  | double (content : Option (Binary .double))
  | string (content : Option String)
  | char (content : Option Char)
  | bytes (content : Option (List UInt8))
  deriving DecidableEq, Repr

namespace Value

def variant : Value → Variant
  | bool _ => .bool
  | int k _ => .int k
  | float _ => .float
  | double _ => .double
  | string _ => .string
  | char _ => .char
  | bytes _ => .bytes

def isNull : Value → Bool
  | bool c => c.isNone
  | int _ c => c.isNone
  | float c => c.isNone
  | double c => c.isNone
  | string c => c.isNone
  | char c => c.isNone
  | bytes c => c.isNone

/-- The null of a variant. -/
def null : Variant → Value
  | .bool => bool none
  | .int k => int k none
  | .float => float none
  | .double => double none
  | .string => string none
  | .char => char none
  | .bytes => bytes none

/-- What a field of the variant holds before anything is stored: false, zero or nothing. -/
def blank : Variant → Value
  | .bool => bool (some false)
  | .int k => int k (some (.zero k))
  | .float => float (some .zero)
  | .double => double (some .zero)
  | .string => string (some "")
  | .char => char (some '\x00')
  | .bytes => bytes (some [])

/-- A text. -/
def ofString (s : String) : Value := string (some s)

/-- An empty text, or the null in place of one. -/
def isEmptyText : Value → Bool
  | string none => true
  | string (some s) => s.isEmpty
  | _ => false

/-- Equal contents of one variant, floating-point numbers compared as numbers. -/
def same : Value → Value → Bool
  | float (some x), float (some y) => x.sameNumber y
  | double (some x), double (some y) => x.sameNumber y
  | v, w => v == w

/-- The values without those that are the same as an earlier one. -/
def distinct (values : List Value) : List Value :=
  values.foldl (fun kept v => if kept.any (same v) then kept else kept ++ [v]) []

@[simp] theorem variant_null (t : Variant) : (null t).variant = t := by cases t <;> rfl

@[simp] theorem isNull_null (t : Variant) : (null t).isNull = true := by cases t <;> rfl

@[simp] theorem variant_blank (t : Variant) : (blank t).variant = t := by cases t <;> rfl

@[simp] theorem isNull_blank (t : Variant) : (blank t).isNull = false := by cases t <;> rfl

end Value

/-- The type of a scalar field: a variant, with or without its null. -/
structure ScalarType where
  variant : Variant
  nullable : Bool := false
  deriving DecidableEq, Repr

namespace ScalarType

/-- The value is of the type: it has the variant, and is null only where null is admitted. -/
def admits (t : ScalarType) (v : Value) : Bool :=
  v.variant == t.variant && (t.nullable || !v.isNull)

/-- What a field of the type holds at first: the null if it is admitted. -/
def initial (t : ScalarType) : Value :=
  if t.nullable then .null t.variant else .blank t.variant

theorem admits_initial (t : ScalarType) : t.admits t.initial = true := by
  cases h : t.nullable <;> simp [admits, initial, h]

end ScalarType

end EntityMap
