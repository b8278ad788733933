import EntityMap.Schema
import EntityMap.Text.Blank

/-!
# Locators

A locator is the path of indexes from a record through embedded records to one of its fields. The
walk of a schema lists its fields with their locators, the fields of an embedded record standing
in the place of the field that embeds it. A name is looked up in the walk; of several fields of
the name the least deeply embedded is meant, and of those the first.
-/

namespace EntityMap

/-- A path of field indexes. -/
structure Locator where
  path : List Nat
  deriving DecidableEq, Repr

namespace Locator

/-- How many embedded records the path enters. -/
def depth (l : Locator) : Nat := l.path.length - 1

/-- The locator from the record around: one index more in front. -/
def within (i : Nat) (l : Locator) : Locator := ⟨i :: l.path⟩

/-- The locator as messages show it. -/
def text (l : Locator) : String :=
  "FieldLocator([" ++ Text.join ", " (l.path.map toString) ++ "])"

end Locator

/-- A field that holds no embedded record, with its place. -/
structure Entry where
  locator : Locator
  field : Field

/-- The entry seen from the record around. -/
def Entry.within (i : Nat) (e : Entry) : Entry := ⟨e.locator.within i, e.field⟩

mutual

/-- Every field of the record and its embedded records, except those that embed. -/
def Schema.walk : Schema → List Entry
  | ⟨_, fields⟩ => walkFields 0 fields

/-- The entries of a list of fields, of which the first has index `i`. -/
def walkFields (i : Nat) : List Field → List Entry
  | [] => []
  | f :: rest => f.walkAt i ++ walkFields (i + 1) rest

/-- The entries of the field with index `i`: itself, or those of the record it embeds. -/
def Field.walkAt (i : Nat) : Field → List Entry
  | ⟨name, column, tag, kind, guarded⟩ =>
    match kind with
    | .flatten embedded => embedded.walk.map (·.within i)
    | kind => [⟨⟨[i]⟩, ⟨name, column, tag, kind, guarded⟩⟩]

end

namespace Schema

/-- The storage columns in the order of declaration, embedded ones included. -/
def columns (s : Schema) : List String := s.walk.filterMap (·.field.column)

/-- The first of the entries with the least depth. -/
def shallowest? : List Entry → Option Entry
  | [] => none
  | e :: rest =>
    match shallowest? rest with
    | some best => if e.locator.depth ≤ best.locator.depth then some e else some best
    | none => some e

/-- The field stored in a column. -/
def columnEntry? (s : Schema) (column : String) : Option Entry :=
  shallowest? (s.walk.filter (·.field.column = some column))

/-- The field declared under a name. -/
def fieldEntry? (s : Schema) (name : String) : Option Entry :=
  shallowest? (s.walk.filter (·.field.name = name))

/-- The locator of the field stored in a column. -/
def locateColumn? (s : Schema) (column : String) : Option Locator :=
  (s.columnEntry? column).map (·.locator)

/-- The locator of the field declared under a name. -/
def locateField? (s : Schema) (name : String) : Option Locator :=
  (s.fieldEntry? name).map (·.locator)

/-- The field at the end of a path; every step before the last enters an embedded record. -/
def fieldAtPath? (s : Schema) : List Nat → Option Field
  | [] => none
  | [i] => s.fields[i]?
  | i :: j :: rest =>
    match s.fields[i]? with
    | some f =>
      match f.kind with
      | .flatten embedded => embedded.fieldAtPath? (j :: rest)
      | _ => none
    | none => none

/-- The field that a locator leads to. -/
def fieldAt? (s : Schema) (l : Locator) : Option Field := s.fieldAtPath? l.path

end Schema

end EntityMap
