import EntityMap.Proofs.Entity.Parsed
import EntityMap.Proofs.Entity.Relations
import Mathlib.Data.List.Nodup

/-!
# Which annotations describe an entity, and which entity

Annotations are read in passes, of which the later ones depend on what the earlier ones found.
`WellAnnotated` says on the fields alone which annotations are accepted, and `Entity.IsDescribedBy`
which entity they describe: its key and version columns, and under each name the relation that the
last field of several declares. `ofSchema?_cases` says that reading comes to just that.
-/

namespace EntityMap

/-- The annotated fields describe an entity of the name. -/
structure WellAnnotated (entity : String) (fields : List Annotated) : Prop where
  /-- Every token is a relation kind or an option. -/
  known : ∀ a ∈ fields, ∀ key ∈ a.tag.keys,
    (∃ k : RelationKind, k.token = key) ∨ key ∈ optionTokens
  key : ∃ a ∈ fields, a.isKey = true
  /-- What the store assigns is part of the key. -/
  generated : ∀ a ∈ fields, a.isGenerated = true → a.isKey = true
  version : (fields.filter (·.isVersion)).length ≤ 1
  relations : ∀ a ∈ fields, a.Consistent entity

/-- A field declares the relation, and no later field one of its name. -/
def DeclaredLast (entity primaryKey : String) (fields : List Annotated) (r : Relation) : Prop :=
  ∃ earlier a later, fields = earlier ++ a :: later ∧ a.Declares entity primaryKey r ∧
    ∀ b ∈ later, ∀ r', b.Declares entity primaryKey r' → r'.name ≠ r.name

/-- The entity is what the annotated fields of a schema describe under a name. -/
structure Entity.IsDescribedBy (e : Entity) (entity : String) (s : Schema) : Prop where
  schema : e.schema = s
  name : e.name = entity
  storageName : e.storageName = entity
  keyColumns : e.keyColumns =
    ((Annotated.ofSchema s).filter (·.isKey)).filterMap (·.field.column)
  keyGenerated : e.keyGenerated = true ↔
    ∃ a ∈ Annotated.ofSchema s, a.isKey = true ∧ a.isGenerated = true
  /-- An empty name stands for no version. -/
  versionColumn : ∀ c, e.versionColumn = some c ↔
    c ≠ "" ∧ ∃ a ∈ Annotated.ofSchema s, a.isVersion = true ∧ a.field.column = some c
  /-- Columns that refer to this entity default to its first key column. -/
  relation : ∀ name r, e.relation? name = some r ↔ r.name = name ∧
    ∃ primaryKey, e.keyColumns.head? = some primaryKey ∧
      DeclaredLast entity primaryKey (Annotated.ofSchema s) r
  /-- No two relations have one name. -/
  relations : (e.relations.map (·.name)).Nodup

/-! ## Tokens and keys -/

theorem RelationKind.ofToken?_isSome_iff {token : String} :
    (RelationKind.ofToken? token).isSome = true ↔ ∃ k : RelationKind, k.token = token := by
  simp [RelationKind.ofToken?, RelationKind.mem_all]

theorem Annotated.unknownToken?_eq_none_iff {a : Annotated} : a.unknownToken? = none ↔
    ∀ key ∈ a.tag.keys, (∃ k : RelationKind, k.token = key) ∨ key ∈ optionTokens := by
  simp only [Annotated.unknownToken?, isKnownToken, List.find?_eq_none, Bool.not_eq_true',
    Bool.not_eq_false, Bool.or_eq_true, RelationKind.ofToken?_isSome_iff, List.contains_iff_mem]

/-- The key columns are those of the fields that are part of the key. -/
theorem Annotated.filterMap_keyColumn? (fields : List Annotated) :
    fields.filterMap (·.keyColumn?) = (fields.filter (·.isKey)).filterMap (·.field.column) := by
  rw [List.filterMap_filter]
  congr 1
  funext a
  unfold Annotated.keyColumn? Annotated.isKey
  cases a.field.column <;> simp

private theorem eq_of_length_le_one {α : Type} {xs : List α} {x y : α} (h : xs.length ≤ 1)
    (hx : x ∈ xs) (hy : y ∈ xs) : x = y := by
  obtain ⟨i, hi, rfl⟩ := List.getElem_of_mem hx
  obtain ⟨j, hj, rfl⟩ := List.getElem_of_mem hy
  congr 1
  omega

/-- Where one field at most is the version, the first version column is the only one. -/
theorem Annotated.findSome?_versionColumn? {fields : List Annotated}
    (one : (fields.filter (·.isVersion)).length ≤ 1) (c : String) :
    fields.findSome? (·.versionColumn?) = some c ↔
      ∃ a ∈ fields, a.isVersion = true ∧ a.field.column = some c := by
  constructor
  · intro h
    obtain ⟨a, ha, hc⟩ := List.exists_of_findSome?_eq_some h
    exact ⟨a, ha, Annotated.versionColumn?_eq_some_iff.1 hc⟩
  · rintro ⟨a, ha, version, hc⟩
    cases h : fields.findSome? (·.versionColumn?) with
    | none =>
      have none := List.findSome?_eq_none_iff.1 h a ha
      rw [Annotated.versionColumn?_eq_some_iff.2 ⟨version, hc⟩] at none
      simp at none
    | some d =>
      obtain ⟨b, hb, hd⟩ := List.exists_of_findSome?_eq_some h
      obtain ⟨version', hd⟩ := Annotated.versionColumn?_eq_some_iff.1 hd
      have mem_a : a ∈ fields.filter (·.isVersion) := List.mem_filter.2 ⟨ha, version⟩
      have mem_b : b ∈ fields.filter (·.isVersion) := List.mem_filter.2 ⟨hb, version'⟩
      rw [← hd, ← hc, eq_of_length_le_one one mem_a mem_b]

/-! ## Relations -/

section Relations

variable {entity primaryKey name : String} {a : Annotated} {rest fields : List Annotated}
  {e e' : Entity} {r : Relation}

theorem declaredLast_cons : DeclaredLast entity primaryKey (a :: rest) r ↔
    DeclaredLast entity primaryKey rest r ∨ a.Declares entity primaryKey r ∧
      ∀ b ∈ rest, ∀ r', b.Declares entity primaryKey r' → r'.name ≠ r.name := by
  constructor
  · rintro ⟨earlier, b, later, split, declares, last⟩
    cases earlier with
    | nil =>
      obtain ⟨rfl, rfl⟩ := List.cons.inj split
      exact .inr ⟨declares, last⟩
    | cons x earlier =>
      obtain ⟨rfl, rfl⟩ := List.cons.inj split
      exact .inl ⟨earlier, b, later, rfl, declares, last⟩
  · rintro (⟨earlier, b, later, rfl, declares, last⟩ | ⟨declares, last⟩)
    · exact ⟨a :: earlier, b, later, rfl, declares, last⟩
    · exact ⟨[], a, rest, rfl, declares, last⟩

theorem Entity.mem_addRelation {r' : Relation} :
    r' ∈ (e.addRelation r).relations ↔ r' = r ∨ r' ∈ e.relations ∧ r'.name ≠ r.name := by
  simp [Entity.addRelation, or_comm]

theorem Entity.nodup_addRelation (h : (e.relations.map (·.name)).Nodup) :
    ((e.addRelation r).relations.map (·.name)).Nodup := by
  have kept : ((e.relations.filter (·.name ≠ r.name)).map (·.name)).Nodup :=
    h.sublist (List.filter_sublist.map _)
  rw [Entity.addRelation, List.map_append]
  refine List.nodup_append.2 ⟨kept, by simp, ?_⟩
  simp only [List.mem_map, List.mem_filter, decide_eq_true_eq, List.mem_singleton]
  rintro _ ⟨r', ⟨-, ne⟩, rfl⟩ _ ⟨_, rfl, rfl⟩
  exact ne

/-- Where no two relations have one name, each is found under its own. -/
theorem Entity.relation?_eq_some_iff (h : (e.relations.map (·.name)).Nodup) :
    e.relation? name = some r ↔ r.name = name ∧ r ∈ e.relations := by
  constructor
  · intro found
    exact ⟨by simpa using List.find?_some found, List.mem_of_find?_eq_some found⟩
  · rintro ⟨rfl, mem⟩
    have found : (e.relation? r.name).isSome = true := by
      rw [Entity.relation?, List.find?_isSome]
      exact ⟨r, mem, by simp⟩
    obtain ⟨r', found⟩ := Option.isSome_iff_exists.1 found
    have same : r' = r := List.inj_on_of_nodup_map h (List.mem_of_find?_eq_some found) mem
      (by simpa using List.find?_some found)
    rw [found, same]

/-- A consistent field adds the relation that it declares, in place of one of the name. -/
private theorem of_declare (h : e.declare primaryKey a = .ok e') :
    a.Consistent e.name ∧ (∃ relations, e' = { e with relations }) ∧
    ((e.relations.map (·.name)).Nodup → (e'.relations.map (·.name)).Nodup) ∧
    ∀ r, r ∈ e'.relations ↔ a.Declares e.name primaryKey r ∨
      r ∈ e.relations ∧ ∀ r', a.Declares e.name primaryKey r' → r'.name ≠ r.name := by
  obtain ⟨found, read, rfl⟩ := map_eq_ok_iff.1 h
  refine ⟨Annotated.exists_relation?_iff.1 ⟨found, read⟩, ?_⟩
  simp only [← Annotated.eq_some_iff_of_relation? read]
  cases found with
  | none => exact ⟨⟨_, rfl⟩, id, by simp⟩
  | some found =>
    refine ⟨⟨_, rfl⟩, Entity.nodup_addRelation, fun r => ?_⟩
    rw [Entity.mem_addRelation]
    simp [@eq_comm _ r found, @eq_comm _ r.name]

private theorem exists_declare (h : a.Consistent e.name) (primaryKey : String) :
    ∃ e', e.declare primaryKey a = .ok e' := by
  obtain ⟨found, read⟩ := Annotated.exists_relation?_iff.2 h
  exact ⟨_, map_eq_ok_iff.2 ⟨found, read, rfl⟩⟩

private theorem of_foldlM_declare (h : fields.foldlM (Entity.declare primaryKey) e = .ok e') :
    (∀ a ∈ fields, a.Consistent e.name) ∧ (∃ relations, e' = { e with relations }) ∧
    ((e.relations.map (·.name)).Nodup → (e'.relations.map (·.name)).Nodup) ∧
    ∀ r, r ∈ e'.relations ↔ DeclaredLast e.name primaryKey fields r ∨ r ∈ e.relations ∧
      ∀ a ∈ fields, ∀ r', a.Declares e.name primaryKey r' → r'.name ≠ r.name := by
  -- a step changes the relations only, so the name is that of the start throughout
  induction fields generalizing e with
  | nil =>
    obtain rfl : e = e' := by simpa [pure, Except.pure] using h
    exact ⟨by simp, ⟨_, rfl⟩, id, by simp [DeclaredLast]⟩
  | cons a rest ih =>
    rw [List.foldlM_cons, bind_eq_ok_iff] at h
    obtain ⟨next, here, later⟩ := h
    obtain ⟨consistent, ⟨_, rfl⟩, nodup, mem⟩ := of_declare here
    obtain ⟨consistent', ⟨_, rfl⟩, nodup', mem'⟩ := ih later
    refine ⟨List.forall_mem_cons.2 ⟨consistent, consistent'⟩, ⟨_, rfl⟩, nodup' ∘ nodup, ?_⟩
    intro r
    rw [mem', mem, declaredLast_cons]
    simp only [List.forall_mem_cons]
    tauto

private theorem exists_foldlM_declare (named : e.name = entity)
    (h : ∀ a ∈ fields, a.Consistent entity) (primaryKey : String) :
    ∃ e', fields.foldlM (Entity.declare primaryKey) e = .ok e' := by
  induction fields generalizing e with
  | nil => exact ⟨e, rfl⟩
  | cons a rest ih =>
    subst named
    obtain ⟨next, here⟩ := exists_declare (h a List.mem_cons_self) primaryKey
    obtain ⟨-, ⟨relations, rfl⟩, -⟩ := of_declare here
    obtain ⟨e', later⟩ := ih (e := { e with relations }) rfl fun b hb => h b (.tail _ hb)
    exact ⟨e', by rw [List.foldlM_cons, bind_eq_ok_iff]; exact ⟨_, here, later⟩⟩

end Relations

/-! ## The entity -/

section OfSchema

variable {s : Schema} {name : Option String} {e : Entity}

/-- Annotations that are read are well formed, and the entity is the one that they describe. -/
theorem isDescribedBy_of_ofSchema? (h : Entity.ofSchema? s name = .ok e) :
    WellAnnotated (Entity.nameFor s name) (Annotated.ofSchema s) ∧
      e.IsDescribedBy (Entity.nameFor s name) s := by
  obtain ⟨known, keys, primaryKey, rest, collected, columns, declared⟩ :=
    ofAnnotations_eq_ok_iff.1 (ofSchema?_eq_ok_iff.1 h)
  obtain ⟨generated, version, hk⟩ := Keys.collect_eq_ok_iff.1 collected
  -- the relations are declared in a later pass, on an entity that has its version already
  generalize hs : Entity.setVersionColumn _ keys.version = start at declared
  obtain ⟨consistent, ⟨relations, rfl⟩, nodup, mem⟩ := of_foldlM_declare declared
  subst start
  have keyColumns : keys.columns =
      ((Annotated.ofSchema s).filter (·.isKey)).filterMap (·.field.column) := by
    rw [hk, Annotated.filterMap_keyColumn?]
  constructor
  · refine ⟨fun a ha => Annotated.unknownToken?_eq_none_iff.1 (known a ha), ?_, generated,
      version, consistent⟩
    have key : primaryKey ∈ keys.columns := by
      rw [columns]
      exact List.mem_cons_self
    rw [keyColumns] at key
    obtain ⟨a, ha, -⟩ := List.mem_filterMap.1 key
    exact ⟨a, List.mem_filter.1 ha⟩
  · have distinct : (relations.map (·.name)).Nodup := nodup List.nodup_nil
    refine ⟨rfl, rfl, rfl, keyColumns, ?_, fun c => ?_, fun n r => ?_, distinct⟩
    · simp [Entity.setVersionColumn, hk]
    · simp only [Entity.setVersionColumn, Option.filter_eq_some_iff, decide_eq_true_eq, hk,
        Annotated.findSome?_versionColumn? version]
      exact and_comm
    · rw [Entity.relation?_eq_some_iff distinct, mem]
      simp [Entity.setVersionColumn, Entity.ofSchema, columns]

/-- Well-formed annotations are read. -/
theorem exists_ofSchema? (h : WellAnnotated (Entity.nameFor s name) (Annotated.ofSchema s)) :
    ∃ e, Entity.ofSchema? s name = .ok e := by
  obtain ⟨known, ⟨a, ha, key⟩, generated, version, consistent⟩ := h
  have columns : (Annotated.ofSchema s).filterMap (·.keyColumn?) ≠ [] := by
    rw [Annotated.filterMap_keyColumn?]
    obtain ⟨c, hc⟩ : ∃ c, a.field.column = some c := by
      simp only [Annotated.isKey, Bool.and_eq_true, Option.isSome_iff_exists] at key
      exact key.1
    exact List.ne_nil_of_mem (List.mem_filterMap.2 ⟨a, List.mem_filter.2 ⟨ha, key⟩, hc⟩)
  obtain ⟨primaryKey, rest, columns⟩ := List.exists_cons_of_ne_nil columns
  simp only [ofSchema?_eq_ok_iff, ofAnnotations_eq_ok_iff, Keys.collect_eq_ok_iff]
  have declared (start : Entity) (named : start.name = Entity.nameFor s name) :=
    exists_foldlM_declare named consistent primaryKey
  exact ⟨_, fun a ha => Annotated.unknownToken?_eq_none_iff.2 (known a ha), _, primaryKey, rest,
    ⟨generated, version, rfl⟩, columns, (declared _ rfl).choose_spec⟩

/-- Annotations are read just if they are well formed, as the entity that they describe; others are
refused as faulty. -/
theorem ofSchema?_cases (s : Schema) (name : Option String) :
    (WellAnnotated (Entity.nameFor s name) (Annotated.ofSchema s) ∧
      ∃ e, Entity.ofSchema? s name = .ok e ∧ e.IsDescribedBy (Entity.nameFor s name) s) ∨
    (¬ WellAnnotated (Entity.nameFor s name) (Annotated.ofSchema s) ∧
      ∃ fault, Entity.ofSchema? s name = .error (.metadata (Entity.nameFor s name) fault)) := by
  by_cases h : WellAnnotated (Entity.nameFor s name) (Annotated.ofSchema s)
  · obtain ⟨e, read⟩ := exists_ofSchema? h
    exact .inl ⟨h, e, read, (isDescribedBy_of_ofSchema? read).2⟩
  · refine .inr ⟨h, ?_⟩
    cases read : Entity.ofSchema? s name with
    | ok e => exact absurd (isDescribedBy_of_ofSchema? read).1 h
    | error error =>
      unfold Entity.ofSchema? at read
      cases faulty : Entity.ofAnnotations (.ofSchema s (Entity.nameFor s name))
          (Annotated.ofSchema s) with
      | ok e => simp [faulty, Except.mapError] at read
      | error fault =>
        simp only [faulty, Except.mapError, Except.error.injEq] at read
        exact ⟨fault, by rw [← read]⟩

end OfSchema

/-! ## Declaring entries -/

/-- The field of the entry with its annotations. -/
def Entry.annotated (x : Entry) : Annotated := ⟨x.field, .ofString x.field.tag⟩

/-- The relation of an entity was read off the annotations of the entry, and no later entry declares
one of its name. -/
def Entity.DeclaresAt (e : Entity) (rel : Relation) (x : Entry) : Prop :=
  ∃ primaryKey earlier later, e.keyColumns.head? = some primaryKey ∧
    e.schema.walk = earlier ++ x :: later ∧ x.annotated.Declares e.name primaryKey rel ∧
    ∀ y ∈ later, ∀ rel', y.annotated.Declares e.name primaryKey rel' → rel'.name ≠ rel.name

namespace Entity.DeclaresAt

variable {e : Entity} {rel : Relation} {x : Entry} (h : e.DeclaresAt rel x)
include h

theorem mem_walk : x ∈ e.schema.walk := by
  obtain ⟨primaryKey, earlier, later, -, walk, -, -⟩ := h
  rw [walk]
  exact List.mem_append_right earlier List.mem_cons_self

/-- The relation fills the field that declares it. -/
theorem field_eq : rel.field = x.field.name := by
  obtain ⟨primaryKey, earlier, later, -, -, declares, -⟩ := h
  exact declares.field

/-- The field is annotated with the kind of the relation. -/
theorem bears_kind : x.annotated.tag.has rel.kind.token = true := by
  obtain ⟨primaryKey, earlier, later, -, -, declares, -⟩ := h
  exact declares.kind

end Entity.DeclaresAt

namespace Entity.IsParsed

variable {e : Entity} {relation : String} {rel : Relation} {x : Entry} (parsed : e.IsParsed)
include parsed

/-- Renaming its table aside, a parsed entity is the one that its annotations describe. -/
theorem described : WellAnnotated e.name (Annotated.ofSchema e.schema) ∧
    ∀ name rel, e.relation? name = some rel ↔ rel.name = name ∧ ∃ primaryKey,
      e.keyColumns.head? = some primaryKey ∧
      DeclaredLast e.name primaryKey (Annotated.ofSchema e.schema) rel := by
  obtain ⟨name, e₀, f, read, same⟩ := parsed
  obtain ⟨annotated, described⟩ := isDescribedBy_of_ofSchema? read
  have named : e.name = e₀.name := by rw [same]; rfl
  have keys : e.keyColumns = e₀.keyColumns := by rw [same]; rfl
  have relations : e.relations = e₀.relations := by rw [same]; rfl
  rw [named, keys, described.name]
  refine ⟨annotated, fun n rel => ?_⟩
  rw [← described.relation n rel, Entity.relation?, Entity.relation?, relations]

/-- The annotations of every entry are consistent. -/
theorem consistent (hx : x ∈ e.schema.walk) : x.annotated.Consistent e.name :=
  parsed.described.1.relations _ (List.mem_map_of_mem hx)

/-- Every relation was read off some entry. -/
theorem exists_declaresAt (found : e.relation? relation = some rel) :
    rel.name = relation ∧ ∃ x, e.DeclaresAt rel x := by
  obtain ⟨named, primaryKey, key, earlier, a, later, split, declares, last⟩ :=
    (parsed.described.2 relation rel).1 found
  obtain ⟨before, rest, walk, rfl, tail⟩ := List.map_eq_append_iff.1 split
  obtain ⟨x, after, rfl, rfl, rfl⟩ := List.map_eq_cons_iff.1 tail
  exact ⟨named, x, primaryKey, before, after, key, walk, declares,
    fun y hy => last _ (List.mem_map_of_mem hy)⟩

end Entity.IsParsed

end EntityMap
