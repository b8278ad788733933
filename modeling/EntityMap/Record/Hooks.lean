import EntityMap.Record

/-!
# Hooks

The hooks of a record type change a record just before a statement is built from it.
-/

namespace EntityMap

/-- What happens to a record before it is inserted or updated; at first nothing. -/
structure Hooks where
  beforeInsert : Record → Record := id
  beforeUpdate : Record → Record := id

/-- A change of one field of a record, by its name. -/
inductive FieldEdit where
  /-- Text is added at the end; a null stays as it is. -/
  | append (field text : String)
  /-- A number is added to an integer, which wraps around at the ends of its type. -/
  | add (field : String) (summand : Int)
  deriving DecidableEq, Repr

/-- The integer of the type that is congruent to the given one. -/
def Bounded.wrap (k : IntKind) (n : Int) : Bounded k :=
  match Bounded.ofInt? k ((n - k.least) % k.count + k.least) with
  | some b => b
  | none => .zero k

namespace FieldEdit

def field : FieldEdit → String
  | append f _ | add f _ => f

def onValue : FieldEdit → Value → Value
  | append _ text, .string (some s) => .string (some (s ++ text))
  | add _ n, .int k (some m) => .int k (some (.wrap k (m.val + n)))
  | _, v => v

/-- The edit done on the scalar declared under its name. -/
def apply (e : FieldEdit) (r : Record) : Record :=
  match r.schema.fields.findIdx? (·.name == e.field) with
  | none => r
  | some i =>
    match r.slots[i]? with
    | some (.scalar v) => r.put i (.scalar (e.onValue v))
    | _ => r

end FieldEdit

/-- Hooks that make changes to fields, one after the other. -/
def Hooks.ofEdits (insert update : List FieldEdit) : Hooks where
  beforeInsert r := insert.foldl (fun r e => e.apply r) r
  beforeUpdate r := update.foldl (fun r e => e.apply r) r

end EntityMap
