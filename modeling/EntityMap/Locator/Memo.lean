import EntityMap.Locator

/-!
# Remembered lookups

A lookup walks the whole schema. A memo keeps the answer of every lookup, also that nothing was
found, and answers the same lookup again without a walk. Answers are kept by the record type, by
what the name names and by the name, which together fix the walk: columns and fields of one name
do not get into each other's way, nor do record types.
-/

namespace EntityMap

/-- What a name names in a lookup. -/
inductive NameKind where
  | column
  | field
  deriving DecidableEq, Repr

/-- The place of a field in the schema, found by walking it. -/
def Schema.locate? (s : Schema) : NameKind → String → Option Locator
  | .column, name => s.locateColumn? name
  | .field, name => s.locateField? name

/-- A lookup of a name among the fields of a record type. -/
structure Lookup where
  /-- The identity of the record type. -/
  type : Nat
  kind : NameKind
  name : String
  deriving DecidableEq, Repr

/-- The answers of earlier lookups. -/
structure LookupMemo where
  answers : List (Lookup × Option Locator) := []
  deriving DecidableEq, Repr

namespace LookupMemo

/-- The remembered answer of a lookup. -/
def answer? (m : LookupMemo) (q : Lookup) : Option (Option Locator) := m.answers.lookup q

/-- The memo with one more answer. -/
def remember (m : LookupMemo) (q : Lookup) (found : Option Locator) : LookupMemo :=
  ⟨m.answers ++ [(q, found)]⟩

/-- The answer of a lookup in a schema, and the memo that remembers it. -/
def locate? (m : LookupMemo) (s : Schema) (kind : NameKind) (name : String) :
    Option Locator × LookupMemo :=
  let q : Lookup := ⟨s.type.id, kind, name⟩
  match m.answer? q with
  | some found => (found, m)
  | none => (s.locate? kind name, m.remember q (s.locate? kind name))

end LookupMemo

end EntityMap
