import EntityMap.Row

/-!
# Records

A record carries its schema and one slot for each of its fields. Fields are accessed by index:
a stored scalar is read and written as a value, an embedded record is a record again, and a
relation field gives a handle. A locator is followed through embedded records first; `within?`
and `putWithin` read and replace the record that it leads into.

Access never fails on a record whose slots do not fit its schema: such a slot is simply not
found. `Record.Fits` says that they do fit.
-/

namespace EntityMap

mutual

/-- The content of a field. -/
inductive Slot where
  | scalar (value : Value)
  | embedded (record : Record)
  | one (related : Option Record)
  | many (related : List Record)
  | ids (values : List Value)

/-- A schema with a slot for each field. -/
structure Record where
  schema : Schema
  slots : List Slot

end

/-- The schema of each record type. -/
abbrev Catalog := RecordType → Schema

/-! ## Making records -/

mutual

/-- The record of a schema before anything is stored in it. -/
def Schema.initial : Schema → Record
  | ⟨type, fields⟩ => ⟨⟨type, fields⟩, initialSlots fields⟩

/-- The first content of each field. -/
def initialSlots : List Field → List Slot
  | [] => []
  | f :: rest => f.initial :: initialSlots rest

/-- The first content of a field: an initial value or record, or no related ones. -/
def Field.initial : Field → Slot
  | ⟨_, _, _, kind, _⟩ =>
    match kind with
    | .scalar t => .scalar t.initial
    | .flatten embedded => .embedded embedded.initial
    | .one _ => .one none
    | .many _ => .many []
    | .ids _ => .ids []

end

mutual

/-- The record with its stored fields read from a row; the other fields hold nothing yet. -/
def Schema.fromRow (row : Row) : Schema → Except Error Record
  | ⟨type, fields⟩ =>
    match slotsFromRow row fields with
    | .ok slots => .ok ⟨⟨type, fields⟩, slots⟩
    | .error e => .error e

/-- The contents of the fields, read in order; the first failure ends the reading. -/
def slotsFromRow (row : Row) : List Field → Except Error (List Slot)
  | [] => .ok []
  | f :: rest =>
    match f.fromRow row with
    | .error e => .error e
    | .ok slot =>
      match slotsFromRow row rest with
      | .error e => .error e
      | .ok slots => .ok (slot :: slots)

/-- The content of a field: the value of its column, or the embedded record of the same row. -/
def Field.fromRow (row : Row) : Field → Except Error Slot
  | ⟨_, column, _, kind, _⟩ =>
    match kind with
    | .scalar t =>
      match column with
      | some c => (row.get t c).map .scalar
      | none => .ok (.scalar t.initial)
    | .flatten embedded => (embedded.fromRow row).map .embedded
    | .one _ => .ok (.one none)
    | .many _ => .ok (.many [])
    | .ids _ => .ok (.ids [])

end

namespace Record

/-! ## Access by index -/

/-- The type of the record. -/
def type (r : Record) : RecordType := r.schema.type

/-- The declaration and the content of a field. -/
def cell? (r : Record) (i : Nat) : Option (Field × Slot) :=
  match r.schema.fields[i]?, r.slots[i]? with
  | some f, some s => some (f, s)
  | _, _ => none

/-- The record with another content of a field. -/
def put (r : Record) (i : Nat) (s : Slot) : Record := { r with slots := r.slots.set i s }

/-- The value of a stored scalar. -/
def value? (r : Record) (i : Nat) : Option Value :=
  match r.cell? i with
  | some (⟨_, some _, _, .scalar _, false⟩, .scalar v) => some v
  | _ => none

/-- The record with another value of a stored scalar, which must be of the type of the field. -/
def set (r : Record) (i : Nat) (v : Value) : Except Error Record :=
  match r.cell? i with
  | some (⟨_, some column, _, .scalar t, false⟩, .scalar _) =>
    (t.decode column v).map fun v => r.put i (.scalar v)
  | _ => .error (.shape (.notStored r.type.name i))

/-- The record that a field embeds. -/
def embedded? (r : Record) (i : Nat) : Option Record :=
  match r.cell? i with
  | some (⟨_, _, _, .flatten _, _⟩, .embedded e) => some e
  | _ => none

/-- The keys that a field holds. -/
def ids? (r : Record) (i : Nat) : Option (List Value) :=
  match r.cell? i with
  | some (⟨_, _, _, .ids _, false⟩, .ids vs) => some vs
  | _ => none

/-! ## Access along a path -/

/-- The embedded record at the end of a path of indexes. -/
def within? (r : Record) : List Nat → Option Record
  | [] => some r
  | i :: rest => (r.embedded? i).bind (·.within? rest)

/-- The record with another embedded record at the end of a path. -/
def putWithin (r : Record) (inner : Record) : List Nat → Record
  | [] => inner
  | i :: rest =>
    match r.embedded? i with
    | some e => r.put i (.embedded (e.putWithin inner rest))
    | none => r

end Record

/-- The path through embedded records and the index in the last of them. -/
def Locator.split? (l : Locator) : Option (List Nat × Nat) :=
  l.path.getLast?.map fun i => (l.path.dropLast, i)

namespace Record

/-- The value at a locator. -/
def read? (r : Record) (l : Locator) : Option Value :=
  match l.split? with
  | some (path, i) => (r.within? path).bind (·.value? i)
  | none => none

/-- The record with another value at a locator. -/
def write (r : Record) (l : Locator) (v : Value) : Except Error Record :=
  match l.split? with
  | none => .error (.shape .emptyLocator)
  | some (path, i) =>
    match r.within? path with
    | none => .error (.shape (.nothingEmbedded l))
    | some inner => (inner.set i v).map (r.putWithin · path)

/-- The keys at a locator. -/
def idsAt? (r : Record) (l : Locator) : Option (List Value) :=
  match l.split? with
  | some (path, i) => (r.within? path).bind (·.ids? i)
  | none => none

/-- The value stored in a column. -/
def column? (r : Record) (column : String) : Option Value :=
  (r.schema.locateColumn? column).bind r.read?

end Record

/-! ## Records that fit their schema -/

mutual

/-- The record has the schema, and each slot fits its field. -/
def Record.Fits : Record → Schema → Prop
  | ⟨schema, slots⟩, s => schema = s ∧ slotsFit slots s.fields

/-- Each slot fits the field at its place, and there is one for each field. -/
def slotsFit : List Slot → List Field → Prop
  | [], [] => True
  | s :: slots, f :: fields => s.Fits f.kind ∧ slotsFit slots fields
  | _, _ => False

/-- The slot holds what a field of the kind holds. -/
def Slot.Fits : Slot → FieldKind → Prop
  | .scalar v, .scalar t => t.admits v = true
  | .embedded r, .flatten s => r.Fits s
  | .one _, .one _ => True
  | .many _, .many _ => True
  | .ids vs, .ids t => ∀ v ∈ vs, t.admits v = true
  | _, _ => False

end

end EntityMap
