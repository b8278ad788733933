import EntityMap.Record

/-!
# Relation handles

A handle is the content of a relation field together with what it takes to replace it by the rows
of a query: the type of the related records, or of their keys.
-/

namespace EntityMap

/-- The content of a relation field, ready to be filled. -/
inductive Handle where
  | one (target : RecordType) (related : Option Record)
  | many (target : RecordType) (related : List Record)
  | ids (element : ScalarType) (values : List Value)

/-- What a handle shows of its content. -/
inductive HandleState where
  | isSet (set : Bool)
  | size (records : Nat)
  | values (ids : List Value)
  deriving DecidableEq, Repr

namespace Handle

def shape : Handle → Shape
  | one .. => .one
  | many .. => .many
  | ids .. => .ids

/-- The handle as messages show it. -/
def text (h : Handle) : String := "RelationTarget(" ++ h.shape.name ++ ")"

/-- The content as the slot of a field. -/
def slot : Handle → Slot
  | one _ r => .one r
  | many _ rs => .many rs
  | ids _ vs => .ids vs

def state : Handle → HandleState
  | one _ r => .isSet r.isSome
  | many _ rs => .size rs.length
  | ids _ vs => .values vs

/--
The handle with the rows of a query as its content: the first row as a record, every row as a
record, or the first value of every row as a key. If one of them cannot be read, there is none.
-/
def fill (catalog : Catalog) (rows : List Row) : Handle → Except Error Handle
  | one target _ =>
    match rows with
    | [] => .ok (one target none)
    | row :: _ => ((catalog target).fromRow row).map fun r => one target (some r)
  | many target _ => (rows.mapM fun (row : Row) => (catalog target).fromRow row).map (many target)
  | ids element _ => (rows.mapM fun (row : Row) => row.identifier element).map (ids element)

end Handle

namespace Record

/-- The handle of a relation field, if the field gives access to its content. -/
def handle? (r : Record) (i : Nat) : Option Handle :=
  match r.cell? i with
  | some (⟨_, _, _, .one (some target), false⟩, .one related) => some (.one target related)
  | some (⟨_, _, _, .many (some target), false⟩, .many related) => some (.many target related)
  | some (⟨_, _, _, .ids element, false⟩, .ids values) => some (.ids element values)
  | _ => none

/-- The handle of the relation field at a locator. -/
def handleAt? (r : Record) (l : Locator) : Option Handle :=
  match l.split? with
  | some (path, i) => (r.within? path).bind (·.handle? i)
  | none => none

/-- The record with the content of a handle in the field at a locator. -/
def putHandle (r : Record) (l : Locator) (h : Handle) : Record :=
  match l.split? with
  | some (path, i) =>
    match r.within? path with
    | some inner => r.putWithin (inner.put i h.slot) path
    | none => r
  | none => r

end Record

end EntityMap
