import EntityMap.Error

/-!
# Result rows

A row pairs column names with values in the order of selection. A column of a qualified name such
as `book.title` also answers to its last part.
-/

namespace EntityMap

/-- A row of a result. -/
structure Row where
  cells : List (String × Value)
  deriving DecidableEq, Repr

namespace Row

/-- The part of a qualified name after its last point. -/
def lastPart? (name : String) : Option String :=
  (Text.cutAt '.' name.toList.reverse).map fun p => String.ofList p.1.reverse

/-- A column of the first name answers to the second: they are equal, or it qualifies it. -/
def answersTo (name column : String) : Bool := name == column || lastPart? name == some column

def columns (r : Row) : List String := r.cells.map (·.1)

/-- The value of the first column that answers to the name. -/
def value? (r : Row) (column : String) : Option Value :=
  (r.cells.find? fun c => answersTo c.1 column).map (·.2)

/-- The value at a position. -/
def valueAt? (r : Row) (i : Nat) : Option Value := r.cells[i]?.map (·.2)

end Row

/-- The value, provided that it is of the type; the column is named in the error. -/
def ScalarType.decode (t : ScalarType) (column : String) (v : Value) : Except Error Value :=
  if t.admits v then .ok v else .error (.decode column (.mismatch t))

/-- The value of a column, provided that it is there and of the type. -/
def Row.get (r : Row) (t : ScalarType) (column : String) : Except Error Value :=
  match r.value? column with
  | none => .error (.decode column .absent)
  | some v => t.decode column v

/-- The column name by which messages mean the first column of a row of keys. -/
def firstColumn : String := "<first>"

/-- The key in the first column of a row. -/
def Row.identifier (r : Row) (t : ScalarType) : Except Error Value :=
  match r.valueAt? 0 with
  | none => .error (.decode firstColumn .emptyRow)
  | some v => t.decode firstColumn v

end EntityMap
