import EntityMap.Entity.Annotation

/-!
# The registry

A registry holds the entities of an application, at most one for each record type and at most one
under each logical name: registering an entity removes the entities that it displaces. What was
looked up earlier stays as it was. `Registry.Distinct` says that lookups are unambiguous; every
operation keeps it.
-/

namespace EntityMap

/-- The registered entities. -/
structure Registry where
  entries : List Entity := []

namespace Registry

/-- The entity of a record type. -/
def ofType? (r : Registry) (t : RecordType) : Option Entity := r.entries.find? (·.type = t)

/-- The entity of a logical name. -/
def named? (r : Registry) (name : String) : Option Entity := r.entries.find? (·.name = name)

/-- The entity of a record type, which must be registered. -/
def entityOf (r : Registry) (t : RecordType) : Except Error Entity :=
  match r.ofType? t with
  | some e => .ok e
  | none => .error (.notRegistered t.name)

/-- The entity of a logical name, which must be registered. -/
def entityNamed (r : Registry) (name : String) : Except Error Entity :=
  match r.named? name with
  | some e => .ok e
  | none => .error (.notRegistered name)

/-- The registry with an entity, in place of those of its type or of its name. -/
def register (r : Registry) (e : Entity) : Registry :=
  ⟨r.entries.filter (fun x => x.type ≠ e.type && x.name ≠ e.name) ++ [e]⟩

/-- Registers the entity that the annotations of a schema describe. -/
def parse (r : Registry) (s : Schema) (name : Option String) : Except Error (Registry × Entity) :=
  (Entity.ofSchema? s name).map fun e => (r.register e, e)

/-- What stops a program that takes a registration for granted. -/
def failureNotice (s : Schema) (name : Option String) (e : Error) : String :=
  s!"relmeta: cannot register {name.getD s.type.name}: {e.message}"

/-- Every table renamed; logical names and relations stay. -/
def renameStorage (r : Registry) (f : String → String) : Registry :=
  ⟨r.entries.map (·.renameStorage f)⟩

/-- Every table with a prefix before its name. -/
def addPrefix (r : Registry) (tablePrefix : Option String) : Registry :=
  match tablePrefix.filter (· ≠ "") with
  | some p => r.renameStorage (p ++ ·)
  | none => r

def size (r : Registry) : Nat := r.entries.length

/-- The logical names in ascending order. -/
def names (r : Registry) : List String :=
  (r.entries.map (·.name)).mergeSort fun a b => decide (a ≤ b)

/-- The logical names with the tables, in ascending order of the names. -/
def tables (r : Registry) : List (String × String) :=
  (r.entries.map fun e => (e.name, e.storageName)).mergeSort fun a b => decide (a.1 ≤ b.1)

/-! ## Laws of registration -/

/-- After a registration there are the new entity and those that it does not displace. -/
theorem mem_register {r : Registry} {e x : Entity} :
    x ∈ (r.register e).entries ↔ x ∈ r.entries ∧ x.type ≠ e.type ∧ x.name ≠ e.name ∨ x = e := by
  simp [register]

/-- The entity just registered is found by its type. -/
@[simp] theorem ofType?_register_self (r : Registry) (e : Entity) :
    (r.register e).ofType? e.type = some e := by
  simp only [ofType?, register, List.find?_append, List.find?_filter, List.find?_singleton,
    decide_true, if_true]
  rw [List.find?_eq_none.2 (by grind)]
  rfl

/-- The entity just registered is found by its name. -/
@[simp] theorem named?_register_self (r : Registry) (e : Entity) :
    (r.register e).named? e.name = some e := by
  simp only [named?, register, List.find?_append, List.find?_filter, List.find?_singleton,
    decide_true, if_true]
  rw [List.find?_eq_none.2 (by grind)]
  rfl

/-- Renaming tables leaves the number of entities. -/
@[simp] theorem size_renameStorage (r : Registry) (f : String → String) :
    (r.renameStorage f).size = r.size := by
  simp [size, renameStorage]

/-- Renaming tables leaves the names. -/
@[simp] theorem names_renameStorage (r : Registry) (f : String → String) :
    (r.renameStorage f).names = r.names := by
  simp [names, renameStorage, Function.comp_def, Entity.renameStorage]

/-- Renaming twice is renaming once by the composition. -/
theorem renameStorage_renameStorage (r : Registry) (f g : String → String) :
    (r.renameStorage f).renameStorage g = r.renameStorage (g ∘ f) := by
  simp [renameStorage, Function.comp_def, Entity.renameStorage]

/-- A lookup by type after renaming finds the renamed entity. -/
theorem ofType?_renameStorage (r : Registry) (f : String → String) (t : RecordType) :
    (r.renameStorage f).ofType? t =
      (r.ofType? t).map (·.renameStorage f) := by
  simp only [ofType?, renameStorage, List.find?_map]
  rfl

/-- A lookup by name after renaming finds the renamed entity. -/
theorem named?_renameStorage (r : Registry) (f : String → String) (name : String) :
    (r.renameStorage f).named? name =
      (r.named? name).map (·.renameStorage f) := by
  simp only [named?, renameStorage, List.find?_map]
  rfl

/-! ## Registries without ambiguity -/

/-- Where keys are pairwise distinct, every member is found by its key. -/
theorem find?_eq_some_of_pairwise {α κ : Type} [DecidableEq κ] {key : α → κ} {xs : List α} {x : α}
    (h : xs.Pairwise fun y z => key y ≠ key z) (mem : x ∈ xs) :
    xs.find? (fun y => key y = key x) = some x := by
  induction xs with
  | nil => simp at mem
  | cons y rest ih =>
    rw [List.pairwise_cons] at h
    rcases List.mem_cons.1 mem with rfl | later
    · simp
    · simp [h.1 x later, ih h.2 later]

/-- No two entities are of one type, and no two have one name. -/
def Distinct (r : Registry) : Prop :=
  r.entries.Pairwise fun x y => x.type ≠ y.type ∧ x.name ≠ y.name

/-- An empty registry has nothing to tell apart. -/
theorem distinct_empty : Distinct {} := List.Pairwise.nil

/-- Registration displaces what could not be told from the new entity. -/
theorem Distinct.register {r : Registry} (h : r.Distinct) (e : Entity) : (r.register e).Distinct := by
  refine List.pairwise_append.2 ⟨h.filter _, List.pairwise_singleton _ _, ?_⟩
  simp +contextual

/-- Renaming tables changes neither types nor names. -/
theorem Distinct.renameStorage {r : Registry} (h : r.Distinct) (f : String → String) :
    (r.renameStorage f).Distinct :=
  List.pairwise_map.2 h

/-- A lookup by type finds every entity of a registry. -/
theorem Distinct.ofType?_eq_some_iff {r : Registry} (h : r.Distinct) {t : RecordType}
    {e : Entity} : r.ofType? t = some e ↔ e ∈ r.entries ∧ e.type = t := by
  constructor
  · intro found
    exact ⟨List.mem_of_find?_eq_some found, by simpa using List.find?_some found⟩
  · rintro ⟨mem, rfl⟩
    exact find?_eq_some_of_pairwise (h.imp And.left) mem

/-- A lookup by name finds every entity of a registry. -/
theorem Distinct.named?_eq_some_iff {r : Registry} (h : r.Distinct) {name : String}
    {e : Entity} : r.named? name = some e ↔ e ∈ r.entries ∧ e.name = name := by
  constructor
  · intro found
    exact ⟨List.mem_of_find?_eq_some found, by simpa using List.find?_some found⟩
  · rintro ⟨mem, rfl⟩
    exact find?_eq_some_of_pairwise (h.imp And.right) mem

end Registry

/-- The place for the registry that a whole application uses. -/
structure DefaultRegistry where
  current : Option Registry := none

namespace DefaultRegistry

/-- Another default; the one before is handed back. -/
def install (_ : DefaultRegistry) (r : Registry) : DefaultRegistry := ⟨some r⟩

/-- No default any more. -/
def teardown (_ : DefaultRegistry) : DefaultRegistry := ⟨none⟩

end DefaultRegistry

end EntityMap
