import EntityMap.Proofs.Success
import Mathlib.Data.List.Pairwise

/-!
# What annotations make of an entity

The key of a parsed entity is read off the stored fields in the order of declaration, and its
version off the first stored field that is marked as one and is no key. `ofSchema?_eq_ok` says how
the parts of a parsed entity come about; the key is never empty, and all its columns are columns of
the schema.
-/

namespace EntityMap

namespace Annotated

/-- The field is stored and part of the key. -/
def isKey (a : Annotated) : Bool := a.field.column.isSome && a.tag.has "pk"

/-- The field is stored and the version; a field of the key is none. -/
def isVersion (a : Annotated) : Bool :=
  a.field.column.isSome && a.tag.has "version" && !a.tag.has "pk"

/-- The field is stored, and the store assigns its value. -/
def isGenerated (a : Annotated) : Bool := a.field.column.isSome && a.tag.has "auto_incr"

/-- The key column that the field declares. -/
def keyColumn? (a : Annotated) : Option String :=
  if a.tag.has "pk" then a.field.column else none

/-- The version column that the field declares; a key column is none. -/
def versionColumn? (a : Annotated) : Option String :=
  if a.tag.has "pk" then none else if a.tag.has "version" then a.field.column else none

theorem versionColumn?_eq_some_iff {a : Annotated} {c : String} :
    a.versionColumn? = some c ↔ a.isVersion = true ∧ a.field.column = some c := by
  unfold versionColumn? isVersion
  cases a.tag.has "pk" <;> cases a.tag.has "version" <;> cases a.field.column <;> simp

theorem isVersion_eq_isSome (a : Annotated) : a.isVersion = a.versionColumn?.isSome := by
  unfold versionColumn? isVersion
  cases a.tag.has "pk" <;> cases a.tag.has "version" <;> cases a.field.column <;> simp

theorem column_of_keyColumn? {a : Annotated} {c : String} (h : a.keyColumn? = some c) :
    a.field.column = some c := by
  unfold keyColumn? at h
  split at h
  · exact h
  · simp at h

theorem column_of_versionColumn? {a : Annotated} {c : String} (h : a.versionColumn? = some c) :
    a.field.column = some c :=
  (versionColumn?_eq_some_iff.1 h).2

/-- The columns of annotated fields are those of the schema. -/
theorem filterMap_column_ofSchema (s : Schema) :
    (Annotated.ofSchema s).filterMap (·.field.column) = s.columns := by
  simp [Annotated.ofSchema, Schema.columns, List.filterMap_map]

end Annotated

/-! ## Keys and version -/

/-- Where what is picked from a list is distinct, nothing is picked from two of its members. -/
theorem eq_of_nodup_filterMap {α β : Type} {f : α → Option β} {xs : List α} {x y : α} {b : β}
    (nodup : (xs.filterMap f).Nodup) (hx : x ∈ xs) (hy : y ∈ xs) (fx : f x = some b)
    (fy : f y = some b) : x = y := by
  by_contra ne
  have apart : xs.Pairwise fun x y => ∀ b, f x = some b → ∀ c, f y = some c → b ≠ c :=
    List.pairwise_filterMap.1 nodup
  have symm : Std.Symm fun x y => ∀ b, f x = some b → ∀ c, f y = some c → b ≠ c :=
    ⟨fun x y h b hb c hc => (h c hc b hb).symm⟩
  exact apart.forall hx hy ne b fx b fy rfl

/-- What one more field adds to the keys. It is refused if the store is to assign its value and it
is no key, and if it is a second version. -/
theorem Keys.add_eq_ok_iff {k k' : Keys} {a : Annotated} : k.add a = .ok k' ↔
    (a.isGenerated = true → a.isKey = true) ∧ (k.version = none ∨ a.versionColumn? = none) ∧
    k' = ⟨k.columns ++ a.keyColumn?.toList, k.generated || a.isKey && a.isGenerated,
      k.version.or a.versionColumn?⟩ := by
  unfold Keys.add Annotated.keyColumn? Annotated.versionColumn? Annotated.isKey
    Annotated.isGenerated
  cases a.field.column with
  | none => simp [@eq_comm _ k']
  | some column =>
    cases a.tag.has "pk" with
    | true => simp [@eq_comm _ k']
    | false =>
      cases a.tag.has "auto_incr" with
      | true => simp
      | false =>
        cases a.tag.has "version" with
        | false => simp [@eq_comm _ k']
        | true => cases hv : k.version <;> simp [@eq_comm _ k']

private theorem foldlM_add_eq_ok_iff {fields : List Annotated} {k k' : Keys} :
    fields.foldlM Keys.add k = .ok k' ↔
      (∀ a ∈ fields, a.isGenerated = true → a.isKey = true) ∧
      k.version.toList.length + (fields.filter (·.isVersion)).length ≤ 1 ∧
      k' = ⟨k.columns ++ fields.filterMap (·.keyColumn?),
        k.generated || fields.any fun a => a.isKey && a.isGenerated,
        k.version.or (fields.findSome? (·.versionColumn?))⟩ := by
  induction fields generalizing k with
  | nil =>
    have one : k.version.toList.length ≤ 1 := by cases k.version <;> simp
    simp [pure, Except.pure, one, @eq_comm _ k']
  | cons a rest ih =>
    -- what is left to count once this field has been added
    have count : (k.version = none ∨ a.versionColumn? = none) ∧
        (k.version.or a.versionColumn?).toList.length + (rest.filter (·.isVersion)).length ≤ 1 ↔
        k.version.toList.length + ((a :: rest).filter (·.isVersion)).length ≤ 1 := by
      rw [List.filter_cons, a.isVersion_eq_isSome]
      generalize rest.filter (·.isVersion) = versions
      cases k.version <;> cases a.versionColumn? <;> simp [Nat.add_comm 1]
    have columns : k.columns ++ (a :: rest).filterMap (·.keyColumn?) =
        k.columns ++ a.keyColumn?.toList ++ rest.filterMap (·.keyColumn?) := by
      rw [List.filterMap_cons]
      cases a.keyColumn? <;> simp
    have version : k.version.or ((a :: rest).findSome? (·.versionColumn?)) =
        (k.version.or a.versionColumn?).or (rest.findSome? (·.versionColumn?)) := by
      rw [List.findSome?_cons]
      cases k.version <;> cases a.versionColumn? <;> simp
    simp only [List.foldlM_cons, bind_eq_ok_iff, Keys.add_eq_ok_iff, ih, List.forall_mem_cons,
      ← count, columns, version, List.any_cons, ← Bool.or_assoc]
    constructor
    · rintro ⟨_, ⟨here, single, rfl⟩, later, most, rfl⟩
      exact ⟨⟨here, later⟩, ⟨single, most⟩, rfl⟩
    · rintro ⟨⟨here, later⟩, ⟨single, most⟩, rfl⟩
      exact ⟨_, ⟨here, single, rfl⟩, later, most, rfl⟩

/-- The keys are collected in the order of the fields, and the version is the only one. -/
theorem Keys.collect_eq_ok_iff {fields : List Annotated} {k : Keys} :
    Keys.collect fields = .ok k ↔
      (∀ a ∈ fields, a.isGenerated = true → a.isKey = true) ∧
      (fields.filter (·.isVersion)).length ≤ 1 ∧
      k = ⟨fields.filterMap (·.keyColumn?), fields.any fun a => a.isKey && a.isGenerated,
        fields.findSome? (·.versionColumn?)⟩ := by
  rw [Keys.collect, foldlM_add_eq_ok_iff]
  simp

private theorem filterMap_sublist {α β : Type} {f g : α → Option β} (xs : List α)
    (h : ∀ x b, f x = some b → g x = some b) : (xs.filterMap f).Sublist (xs.filterMap g) := by
  induction xs with
  | nil => simp
  | cons x rest ih =>
    cases hf : f x with
    | some b =>
      rw [List.filterMap_cons_some hf, List.filterMap_cons_some (h x b hf)]
      exact ih.cons_cons b
    | none =>
      rw [List.filterMap_cons_none hf]
      cases hg : g x with
      | none => rwa [List.filterMap_cons_none hg]
      | some b =>
        rw [List.filterMap_cons_some hg]
        exact ih.cons b

/-- Where columns are distinct, no field of a key column is the field of a version. -/
private theorem keyColumn?_ne_versionColumn? {fields : List Annotated} {a b : Annotated}
    {c : String} (nodup : (fields.filterMap (·.field.column)).Nodup) (ha : a ∈ fields)
    (hb : b ∈ fields) (key : a.keyColumn? = some c) : b.versionColumn? ≠ some c := by
  intro version
  have same : a = b := eq_of_nodup_filterMap nodup ha hb
    (Annotated.column_of_keyColumn? key) (Annotated.column_of_versionColumn? version)
  subst same
  unfold Annotated.keyColumn? at key
  unfold Annotated.versionColumn? at version
  split at key
  · next pk => simp [pk] at version
  · simp at key

/-! ## The entity -/

private theorem foldlM_declare_eq_ok {fields : List Annotated} {primaryKey : String} {e e' : Entity}
    (h : fields.foldlM (Entity.declare primaryKey) e = .ok e') :
    ∃ relations, e' = { e with relations } := by
  induction fields generalizing e with
  | nil =>
    simp only [List.foldlM_nil, pure, Except.pure, Except.ok.injEq] at h
    exact ⟨e.relations, h.symm⟩
  | cons a rest ih =>
    rw [List.foldlM_cons, bind_eq_ok_iff] at h
    obtain ⟨next, ha, hr⟩ := h
    obtain ⟨relations, rfl⟩ := ih hr
    obtain ⟨found, -, rfl⟩ := map_eq_ok_iff.1 ha
    cases found with
    | none => exact ⟨relations, rfl⟩
    | some r => exact ⟨relations, rfl⟩

/-- Annotations are accepted pass by pass. -/
theorem ofAnnotations_eq_ok_iff {start e : Entity} {fields : List Annotated} :
    Entity.ofAnnotations start fields = .ok e ↔
      (∀ a ∈ fields, a.unknownToken? = none) ∧
      ∃ keys primaryKey rest, Keys.collect fields = .ok keys ∧ keys.columns = primaryKey :: rest ∧
        fields.foldlM (Entity.declare primaryKey)
          ({ start with keyColumns := keys.columns, keyGenerated := keys.generated }
            |>.setVersionColumn keys.version) = .ok e := by
  have known : (fields.findSome? fun a => a.unknownToken?.map fun t => (t, a.field.name)) = none ↔
      ∀ a ∈ fields, a.unknownToken? = none := by simp
  unfold Entity.ofAnnotations
  rw [← known]
  cases fields.findSome? fun a => a.unknownToken?.map fun t => (t, a.field.name) with
  | some unknown => simp
  | none =>
    cases Keys.collect fields with
    | error fault => simp
    | ok keys =>
      obtain ⟨columns, generated, version⟩ := keys
      cases columns with
      | nil => simp
      | cons primaryKey rest => simp

theorem ofSchema?_eq_ok_iff {s : Schema} {name : Option String} {e : Entity} :
    Entity.ofSchema? s name = .ok e ↔
      Entity.ofAnnotations (.ofSchema s (Entity.nameFor s name)) (Annotated.ofSchema s) = .ok e := by
  unfold Entity.ofSchema?
  cases h : Entity.ofAnnotations (.ofSchema s (Entity.nameFor s name)) (Annotated.ofSchema s) <;>
    simp [h, Except.mapError]

/-- The parts of a parsed entity, but for its relations. -/
theorem ofSchema?_eq_ok {s : Schema} {name : Option String} {e : Entity}
    (h : Entity.ofSchema? s name = .ok e) :
    ∃ keys, Keys.collect (Annotated.ofSchema s) = .ok keys ∧ keys.columns ≠ [] ∧
      e.schema = s ∧ e.name = Entity.nameFor s name ∧ e.storageName = e.name ∧
      e.keyColumns = keys.columns ∧ e.keyGenerated = keys.generated ∧
      e.versionColumn = keys.version.filter (· ≠ "") := by
  obtain ⟨-, keys, primaryKey, rest, collected, columns, declared⟩ :=
    ofAnnotations_eq_ok_iff.1 (ofSchema?_eq_ok_iff.1 h)
  obtain ⟨relations, rfl⟩ := foldlM_declare_eq_ok declared
  exact ⟨keys, collected, by simp [columns], rfl, rfl, rfl, rfl, rfl, rfl⟩

/-- A parsed entity has a key. -/
theorem keyColumns_ne_nil_of_ofSchema? {s : Schema} {name : Option String} {e : Entity}
    (h : Entity.ofSchema? s name = .ok e) : e.keyColumns ≠ [] := by
  obtain ⟨keys, -, nonempty, -, -, -, columns, -, -⟩ := ofSchema?_eq_ok h
  rwa [columns]

/-- The key columns of a parsed entity are columns of its schema, in their order. -/
theorem keyColumns_sublist_of_ofSchema? {s : Schema} {name : Option String} {e : Entity}
    (h : Entity.ofSchema? s name = .ok e) : e.keyColumns.Sublist s.columns := by
  obtain ⟨keys, hk, -, -, -, -, columns, -, -⟩ := ofSchema?_eq_ok h
  obtain ⟨-, -, rfl⟩ := Keys.collect_eq_ok_iff.1 hk
  rw [columns, ← Annotated.filterMap_column_ofSchema]
  exact filterMap_sublist _ fun a c => Annotated.column_of_keyColumn?

/-- The version column of a parsed entity is a column of its schema, and where these are distinct
no key column. -/
theorem versionColumn_of_ofSchema? {s : Schema} {name : Option String} {e : Entity} {c : String}
    (h : Entity.ofSchema? s name = .ok e) (nodup : s.columns.Nodup)
    (version : e.versionColumn = some c) : c ∈ s.columns ∧ c ∉ e.keyColumns := by
  obtain ⟨keys, hk, -, -, -, -, columns, -, version'⟩ := ofSchema?_eq_ok h
  obtain ⟨-, -, rfl⟩ := Keys.collect_eq_ok_iff.1 hk
  rw [version', Option.filter_eq_some_iff] at version
  obtain ⟨a, ha, hc⟩ := List.exists_of_findSome?_eq_some version.1
  rw [← Annotated.filterMap_column_ofSchema] at nodup ⊢
  constructor
  · exact List.mem_filterMap.2 ⟨a, ha, Annotated.column_of_versionColumn? hc⟩
  · rw [columns]
    intro mem
    obtain ⟨b, hb, key⟩ := List.mem_filterMap.1 mem
    exact keyColumn?_ne_versionColumn? nodup hb ha key hc

/-- The entity was read off the annotations of its schema; its table may have been renamed since. -/
def Entity.IsParsed (e : Entity) : Prop :=
  ∃ name e₀ f, Entity.ofSchema? e.schema name = .ok e₀ ∧ e = e₀.renameStorage f

namespace Entity.IsParsed

variable {e : Entity} (h : e.IsParsed)
include h

theorem keyColumns_sublist : e.keyColumns.Sublist e.columns := by
  obtain ⟨name, e₀, f, parsed, same⟩ := h
  have keys : e.keyColumns = e₀.keyColumns := by rw [same]; rfl
  rw [keys]
  exact keyColumns_sublist_of_ofSchema? parsed

theorem keyColumns_subset : ∀ c ∈ e.keyColumns, c ∈ e.columns :=
  fun _ hc => h.keyColumns_sublist.subset hc

/-- The columns that are no key columns, and the key columns, are all columns. -/
theorem perm_columns (distinct : e.columns.Nodup) :
    (e.plainColumns ++ e.keyColumns).Perm e.columns := by
  have apart : (e.plainColumns ++ e.keyColumns).Nodup := by
    refine List.nodup_append.2 ⟨distinct.filter _, distinct.sublist h.keyColumns_sublist, ?_⟩
    rintro c hc d hd rfl
    have plain := (List.mem_filter.1 hc).2
    simp [isKey, hd] at plain
  rw [List.perm_ext_iff_of_nodup apart distinct]
  intro c
  rw [List.mem_append, plainColumns, List.mem_filter]
  by_cases key : c ∈ e.keyColumns
  · simp [key, h.keyColumns_subset c key]
  · simp [key, isKey]

theorem keyColumns_ne_nil : e.keyColumns ≠ [] := by
  obtain ⟨name, e₀, f, parsed, same⟩ := h
  have keys : e.keyColumns = e₀.keyColumns := by rw [same]; rfl
  rw [keys]
  exact keyColumns_ne_nil_of_ofSchema? parsed

/-- The first key column is a column of the schema. -/
theorem exists_primaryKey :
    ∃ key ∈ e.columns, e.primaryKey = .ok key ∧ e.keyColumns.head? = some key := by
  obtain ⟨key, rest, columns⟩ := List.exists_cons_of_ne_nil h.keyColumns_ne_nil
  refine ⟨key, h.keyColumns_subset key (by rw [columns]; exact List.mem_cons_self), ?_, ?_⟩
  · rw [primaryKey, columns]
  · rw [columns, List.head?_cons]

/-- The version is stored in a column that is no key column. -/
theorem version_mem (distinct : e.columns.Nodup) {c : String} (version : e.versionColumn = some c) :
    c ∈ e.columns ∧ c ∉ e.keyColumns := by
  obtain ⟨name, e₀, f, parsed, same⟩ := h
  have keys : e.keyColumns = e₀.keyColumns := by rw [same]; rfl
  have marked : e.versionColumn = e₀.versionColumn := by rw [same]; rfl
  rw [keys]
  exact versionColumn_of_ofSchema? parsed distinct (marked ▸ version)

end Entity.IsParsed

end EntityMap
