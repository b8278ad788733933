import EntityMap.Declaration.Table
import EntityMap.Proofs.Declaration.Classes
import EntityMap.Proofs.Declaration.Words
import EntityMap.Proofs.Entity.Described
import EntityMap.Proofs.Entity.Tokens
import EntityMap.Proofs.Record.Fields

/-!
# Relation fields of a declaration

Two readers tell which fields of a record type are relations. A declaration takes an item for a
relation kind if the whole item is the name of the kind; a registry reads the items from one text,
where a comma ends a token and an equals sign a key. So both find every bare kind, with the shape of
the kind, and only the registry finds a kind that has a value or stands in one.
-/

namespace EntityMap.Declaration

variable {a : FieldAttributes} {f : DeclaredField} {p : PlannedField} {d : Struct} {b : Blueprint}
  {k : RelationKind} {scope : Scope}

/-! ## Kinds among the items -/

namespace FieldAttributes

/-- An item with a value is read as the annotation of a relation kind. -/
def HidesKind (a : FieldAttributes) : Prop :=
  ∃ item ∈ a.items, item.value.isSome = true ∧
    ∃ k : RelationKind, (Tag.ofString item.text).has k.token = true

instance (a : FieldAttributes) : Decidable a.HidesKind :=
  decidable_of_iff
    (∃ item ∈ a.items, item.value.isSome = true ∧
      RelationKind.all.any (fun k => (Tag.ofString item.text).has k.token) = true)
    (by simp [HidesKind, RelationKind.mem_all])

/-- A bare kind is read as its annotation. -/
theorem has_token_self (k : RelationKind) : (Tag.ofString k.token).has k.token = true := by
  cases k <;> decide

/-- The registry finds every bare kind. -/
theorem has_tag_of_mem_kinds (h : k ∈ a.kinds) : (Tag.ofString a.tag).has k.token = true := by
  obtain ⟨item, mem, named⟩ := mem_kinds.1 h
  rw [tag, Tag.has_join_iff]
  exact ⟨_, List.mem_map_of_mem mem, by rw [named]; exact has_token_self k⟩

/-- A word is read as the annotation of a kind just if it is the name of the kind. -/
private theorem has_of_word {word : String} (h : IsWord word) :
    (Tag.ofString word).has k.token = true ↔ word = k.token := by
  simp [Tag.has, Tag.tokens_of_word h.plain.1 h.plain.2]

/-- The registry finds the bare kinds, and the hidden ones. -/
theorem exists_has_tag_iff (words : ∀ item ∈ a.items, IsWord item.key) :
    (∃ k : RelationKind, (Tag.ofString a.tag).has k.token = true) ↔ a.kinds ≠ [] ∨ a.HidesKind := by
  have has_iff (k : RelationKind) : (Tag.ofString a.tag).has k.token = true ↔
      ∃ item ∈ a.items, (Tag.ofString item.text).has k.token = true := by
    simp [tag, Tag.has_join_iff]
  constructor
  · rintro ⟨k, has⟩
    obtain ⟨item, mem, has⟩ := (has_iff k).1 has
    cases valued : item.value with
    | some v => exact .inr ⟨item, mem, by simp [valued], k, has⟩
    | none =>
      have bare : item.text = item.key := by simp [Item.text, valued]
      have named : item.text = k.token := by
        rw [bare] at has ⊢
        exact (has_of_word (words item mem)).1 has
      exact .inl (List.ne_nil_of_mem (mem_kinds.2 ⟨item, mem, named⟩))
  · rintro (bare | ⟨item, mem, -, k, has⟩)
    · obtain ⟨k, hk⟩ := List.exists_mem_of_ne_nil _ bare
      exact ⟨k, has_tag_of_mem_kinds hk⟩
    · exact ⟨k, (has_iff k).2 ⟨item, mem, has⟩⟩

/-- Relation kinds are bare flags, and no value has a comma in it. -/
structure IsPlain (a : FieldAttributes) : Prop where
  kinds : ∀ item ∈ a.items, ∀ k : RelationKind, item.key = k.token → item.value = none
  values : ∀ item ∈ a.items, ∀ v, item.value = some v → ',' ∉ v.toList

/-- No kind is hidden where kinds are bare and values are not cut. -/
theorem IsPlain.not_hidesKind (plain : a.IsPlain) (words : ∀ item ∈ a.items, IsWord item.key) :
    ¬ a.HidesKind := by
  rintro ⟨item, mem, valued, k, has⟩
  obtain ⟨v, hv⟩ := Option.isSome_iff_exists.1 valued
  have word := (words item mem).plain
  have tokens := Tag.tokens_of_assignment word.2 (plain.values item mem v hv)
  have named : item.key = k.token := by simpa [Tag.has, Item.text, hv, tokens] using has
  rw [plain.kinds item mem k named] at hv
  simp at hv

end FieldAttributes

/-! ## Classes of fields -/

/-- A field with a bare kind is a relation of the shape of the kind, and no other field is one. -/
theorem DeclaredField.classify_cases {c : FieldClass} (h : f.classify a = .ok c) :
    (∃ k t, a.kinds = [k] ∧ c = .relation k.shape t) ∨ (a.kinds = [] ∧ c.isRelation = false) := by
  cases classify_eq_ok_iff.1 h with
  | @relation k target bears only =>
    exact .inl ⟨k, target, FieldAttributes.kinds_eq_singleton_iff.2 ⟨bears, only⟩, rfl⟩
  | plain none => exact .inr ⟨FieldAttributes.kinds_eq_nil_iff.2 none, isRelation_plainClass f _⟩

/-! ## Relations read off a declaration -/

namespace PlannedField

/-- Relation fields have their shape, and no other field has one. -/
theorem shape?_kind (scope : Scope) (p : PlannedField) : (p.kind scope).shape? =
    match p.fieldClass with
    | .relation shape _ => some shape
    | .column _ | .skip | .flatten => none := by
  obtain ⟨name, type, tag, fieldClass⟩ := p
  cases fieldClass with
  | relation shape t => cases shape <;> rfl
  | column c | skip | flatten => rfl

theorem shape?_kind_of_plain (h : p.fieldClass.isRelation = false) (scope : Scope) :
    (p.kind scope).shape? = none := by
  rw [shape?_kind]
  cases hc : p.fieldClass with
  | relation shape t => simp [hc, FieldClass.isRelation] at h
  | column c | skip | flatten => rfl

theorem kind_ne_flatten (h : p.fieldClass.isFlatten = false) (s : Schema) :
    p.kind scope ≠ .flatten s := by
  obtain ⟨name, type, tag, fieldClass⟩ := p
  cases fieldClass with
  | relation shape t => cases shape <;> simp [kind]
  | column c | skip => simp [kind]
  | flatten => simp [FieldClass.isFlatten] at h

/-- The field of the schema with its annotations, as a registry reads them. -/
def annotated (scope : Scope) (p : PlannedField) : Annotated := ⟨p.field scope, .ofString p.tag⟩

/-- A field that embeds no record is among those that a registry reads. -/
theorem annotated_mem_ofSchema (mem : p ∈ b.fields) (plain : p.fieldClass.isFlatten = false)
    (scope : Scope) (id : Nat) : p.annotated scope ∈ Annotated.ofSchema (b.schema scope id) := by
  obtain ⟨i, hi⟩ := List.getElem?_of_mem mem
  have field : (b.schema scope id).fields[i]? = some (p.field scope) := by
    simp [Blueprint.schema, hi]
  exact List.mem_map.2 ⟨_, Schema.mem_walk_of_plain field (kind_ne_flatten plain), rfl⟩

/-- How a registry reads a field that was declared with the given annotations. -/
structure IsReadAs (scope : Scope) (entity primaryKey : String) (a : FieldAttributes)
    (p : PlannedField) : Prop where
  /-- A relation is read off a relation field, and off any field that hides a kind. -/
  relation : (∃ r, (p.annotated scope).relation? entity primaryKey = .ok (some r)) ↔
    p.fieldClass.isRelation = true ∨ a.HidesKind
  column : p.fieldClass.isRelation = true → (p.field scope).column = none
  /-- What is read off a relation field is of the shape of the field. -/
  shape : p.fieldClass.isRelation = true → ∀ r,
    (p.annotated scope).relation? entity primaryKey = .ok (some r) →
      (p.field scope).kind.shape? = some r.kind.shape
  /-- No other field can hold what a relation leads to. -/
  other : p.fieldClass.isRelation = false → (p.field scope).kind.shape? = none

end PlannedField

/-- A consistent field is read as it was declared, but for hidden kinds. -/
private theorem DeclaredField.isReadAs_of_plan {entity : String} (planned : f.plan = .ok p)
    (words : ∀ x ∈ f.attributes, x.NamesAreWords)
    (consistent : (p.annotated scope).Consistent entity) (primaryKey : String) :
    ∃ a, FieldAttributes.ofList f.attributes = .ok a ∧ p.IsReadAs scope entity primaryKey a := by
  obtain ⟨a, c, listed, classified, rfl⟩ := plan_eq_ok_iff.1 planned
  have found := FieldAttributes.exists_has_tag_iff (FieldAttributes.isWord_of_ofList words listed)
  refine ⟨a, listed, ?_⟩
  rcases classify_cases classified with ⟨k, t, kinds, rfl⟩ | ⟨kinds, plain⟩
  · refine ⟨?_, fun _ => rfl, fun _ r read => ?_, by simp [FieldClass.isRelation]⟩
    · rw [Annotated.exists_some_relation?_iff consistent]
      simp only [FieldClass.isRelation, true_or, iff_true]
      exact found.2 (.inl (by simp [kinds]))
    · have bare : (Tag.ofString a.tag).has k.token = true :=
        FieldAttributes.has_tag_of_mem_kinds (by simp [kinds])
      have same : r.kind = k :=
        consistent.oneKind _ _ ((Annotated.eq_some_iff_of_relation? read).1 rfl).kind bare
      rw [same]
      exact PlannedField.shape?_kind _ _
  · refine ⟨?_, by simp [plain], by simp [plain], fun _ => ?_⟩
    · rw [Annotated.exists_some_relation?_iff consistent]
      simp only [plain, Bool.false_eq_true, false_or]
      exact found.trans (by simp [kinds])
    · exact PlannedField.shape?_kind_of_plain plain scope

/-- Where a declaration is accepted, and its record type by a registry, the registry reads relations
off just those fields that the declaration makes relations, and off those that hide a kind. -/
theorem Struct.isReadAs_of_blueprint {fields : List DeclaredField} {name : Option String}
    {e : Entity} {id : Nat} (accepted : d.blueprint = .ok b) (form : d.form = .namedFields fields)
    (words : ∀ f ∈ fields, ∀ x ∈ f.attributes, x.NamesAreWords)
    (parsed : Entity.ofSchema? (b.schema scope id) name = .ok e) (primaryKey : String) :
    List.Forall₂ (fun f p => p.fieldClass.isFlatten = false →
      ∃ a, FieldAttributes.ofList f.attributes = .ok a ∧ p.IsReadAs scope e.name primaryKey a)
      fields b.fields := by
  obtain ⟨annotated, described⟩ := isDescribedBy_of_ofSchema? parsed
  refine List.forall₂_iff_get.2 ⟨(forall₂_plan accepted form).length_eq, fun i hi hj plain => ?_⟩
  have planned := (forall₂_plan accepted form).get hi hj
  have mem := PlannedField.annotated_mem_ofSchema (List.get_mem ..) plain scope id
  rw [described.name]
  exact DeclaredField.isReadAs_of_plan planned (words _ (List.get_mem ..))
    (annotated.relations _ mem) primaryKey

/-- A book has a key, and an author with the given annotations. -/
private def bookFields (author : TypeExpr) (annotations : List Lexeme) : List DeclaredField :=
  [⟨"id", .path ["String"], [.known .metadata (.given [.ident "pk"])]⟩,
    ⟨"author", author, [.known .metadata (.given annotations)]⟩]

private def bookStruct (author : TypeExpr) (annotations : List Lexeme) : Struct where
  name := "Book"
  form := .namedFields (bookFields author annotations)

private def bookBlueprint (author : TypeExpr) (tag : String) (fieldClass : FieldClass) :
    Blueprint where
  name := "Book"
  ownHooks := false
  fields := [⟨"id", .path ["String"], "pk", .column "id"⟩, ⟨"author", author, tag, fieldClass⟩]

private def texts : Scope where
  scalar _ := ⟨.string, false⟩
  embedded _ := ⟨⟨2, "None"⟩, []⟩
  target _ := ⟨1, "Author"⟩

private def bookEntity (b : Blueprint) (own : String) : Entity where
  name := "book"
  storageName := "book"
  schema := b.schema texts 0
  keyColumns := ["id"]
  relations := [⟨"author", "author", .belongsTo own⟩]

private theorem namesAreWords_bookFields {author : TypeExpr} {annotations : List Lexeme}
    {text : String} (read : (Lexeme.ofString? text).bind Attribute.listOf? =
      some [.known .metadata (.given annotations)]) :
    ∀ f ∈ bookFields author annotations, ∀ x ∈ f.attributes, x.NamesAreWords := by
  have key : (Lexeme.ofString? "#[relmeta(pk)]").bind Attribute.listOf? =
    some [.known .metadata (.given [.ident "pk"])] := rfl
  exact List.forall_mem_cons.2 ⟨Attribute.namesAreWords_of_text key,
    List.forall_mem_singleton.2 (Attribute.namesAreWords_of_text read)⟩

private def author : TypeExpr := .generic ["Option"] [.path ["Author"]]

private def belongsTo : List Lexeme :=
  [.ident "belongs_to", .sign ',', .ident "sql_id_field", .sign '=', .string "writer"]

private def related : Blueprint :=
  bookBlueprint author "belongs_to,sql_id_field=writer" (.relation .one (.path ["Author"]))

/-- The author of a book, as a relation field, is read as a relation of its shape. -/
theorem isReadAs_of_book :
    (bookStruct author belongsTo).blueprint = .ok related ∧ ∃ p, related.fields[1]? = some p ∧
      (∃ r, (p.annotated texts).relation? "book" "id" = .ok (some r) ∧
        (p.field texts).kind.shape? = some r.kind.shape) ∧ (p.field texts).column = none := by
  have accepted : (bookStruct author belongsTo).blueprint = .ok related := rfl
  have parsed : Entity.ofSchema? (related.schema texts 0) (some "book") =
    .ok (bookEntity related "writer") := rfl
  have read : (Lexeme.ofString? "#[relmeta(belongs_to, sql_id_field = \"writer\")]").bind
    Attribute.listOf? = some [.known .metadata (.given belongsTo)] := rfl
  have agree := Struct.isReadAs_of_blueprint accepted rfl (namesAreWords_bookFields read) parsed "id"
  obtain ⟨-, later⟩ := List.forall₂_cons.1 agree
  obtain ⟨a, -, read⟩ := (List.forall₂_cons.1 later).1 rfl
  obtain ⟨r, hr⟩ := read.relation.2 (.inl rfl)
  exact ⟨accepted, _, rfl, ⟨r, hr, read.shape rfl r hr⟩, read.column rfl⟩

/-- The author of a book is a text with a column, but a registry reads a relation off it, for which
the field has no shape. -/
theorem book_hides_kind :
    let items : FieldAttributes := ⟨none, [⟨"belongs_to", some "writer"⟩]⟩
    let plain := bookBlueprint (.path ["String"]) "belongs_to=writer" (.column "author")
    let p : PlannedField := ⟨"author", .path ["String"], "belongs_to=writer", .column "author"⟩
    (bookStruct (.path ["String"]) [.ident "belongs_to", .sign '=', .string "writer"]).blueprint =
      .ok plain ∧
    Entity.ofSchema? (plain.schema texts 0) (some "book") = .ok (bookEntity plain "author_id") ∧
    plain.fields[1]? = some p ∧ p.tag = items.tag ∧ items.HidesKind ∧
    p.fieldClass.isRelation = false ∧ (p.field texts).column = some "author" ∧
    (p.annotated texts).relation? "book" "id" =
      .ok (some ⟨"author", "author", .belongsTo "author_id"⟩) ∧
    (p.field texts).kind.shape? = none :=
  ⟨rfl, rfl, rfl, rfl, by decide, rfl, rfl, rfl, rfl⟩

end EntityMap.Declaration
