import EntityMap.Proofs.Declaration.Kinds
import EntityMap.Proofs.Record.Handles

/-!
# Schemas of declared record types

The schemas that declarations give are found by following what they embed. Each entry of the walk
is then a field that was planned, so every relation field gives access to its content, and bears the
annotation of a kind of its shape.
-/

namespace EntityMap

open Declaration

/-- The schema of a record type that was declared, as were the record types that it embeds. -/
inductive Schema.Declared : Schema → Prop
  | intro {d : Struct} {b : Blueprint} (scope : Scope) (id : Nat) (accepted : d.blueprint = .ok b)
      (embedded : ∀ p ∈ b.fields, p.fieldClass = .flatten →
        Schema.Declared (scope.embedded p.type)) :
      Declared (b.schema scope id)

/-- The field is annotated with words, bare kinds, and values that are not cut. -/
structure Declaration.DeclaredField.IsPlain (f : DeclaredField) : Prop where
  words : ∀ a ∈ f.attributes, a.NamesAreWords
  attributes : ∀ a, FieldAttributes.ofList f.attributes = .ok a → a.IsPlain

/-- The schema of a record type whose declared fields satisfy a condition, as do those of the record
types that it embeds. -/
inductive Schema.DeclaredWith (P : DeclaredField → Prop) : Schema → Prop
  | intro {d : Struct} {fields : List DeclaredField} {b : Blueprint} (scope : Scope) (id : Nat)
      (form : d.form = .namedFields fields) (accepted : d.blueprint = .ok b)
      (all : ∀ f ∈ fields, P f)
      (embedded : ∀ p ∈ b.fields, p.fieldClass = .flatten →
        Schema.DeclaredWith P (scope.embedded p.type)) :
      DeclaredWith P (b.schema scope id)

/-- Planned fields are not guarded, and related records have a type. -/
theorem Declaration.PlannedField.isOpen_field (scope : Scope) (p : PlannedField) :
    (p.field scope).IsOpen := by
  constructor
  · intro c stored
    have column : p.fieldClass.column? = some c := stored
    cases hp : p.fieldClass with
    | column name => exact ⟨scope.scalar p.type, stored, by simp [field, kind, hp], rfl⟩
    | _ => simp [hp, FieldClass.column?] at column
  · intro shape related
    refine ⟨rfl, ?_⟩
    rw [field, shape?_kind] at related
    cases hp : p.fieldClass with
    | relation shape' t =>
      obtain rfl : shape' = shape := by simpa [hp] using related
      cases shape' with
      | one => exact ⟨.one (scope.target t) none, by simp [field, kind, hp, Handle.kind], rfl⟩
      | many => exact ⟨.many (scope.target t) [], by simp [field, kind, hp, Handle.kind], rfl⟩
      | ids => exact ⟨.ids (scope.scalar t) [], by simp [field, kind, hp, Handle.kind], rfl⟩
    | _ => simp [hp] at related

namespace Schema

variable {s : Schema} {x : Entry} {P : DeclaredField → Prop}

/-- Each entry is a declared field that embeds nothing. -/
theorem DeclaredWith.exists_plan (h : s.DeclaredWith P) (hx : x ∈ s.walk) : ∃ f p scope, P f ∧
    DeclaredField.plan f = .ok p ∧ p.fieldClass.isFlatten = false ∧ x.field = p.field scope := by
  induction h generalizing x with
  | @intro d fields b scope id form accepted all embedded ih =>
    obtain ⟨i, f, hf, hx⟩ := mem_walk_iff.1 hx
    obtain ⟨p, hp, rfl⟩ := List.mem_map.1 (List.mem_of_getElem? hf)
    by_cases flat : p.fieldClass = .flatten
    · have hk : (p.field scope).kind = .flatten (scope.embedded p.type) := by
        simp [PlannedField.field, PlannedField.kind, flat]
      rw [Field.walkAt_of_flatten hk] at hx
      obtain ⟨y, hy, rfl⟩ := List.mem_map.1 hx
      exact @ih p hp flat y hy
    · have plain : p.fieldClass.isFlatten = false := by
        cases hc : p.fieldClass <;> simp_all [FieldClass.isFlatten]
      rw [Field.walkAt_of_plain (PlannedField.kind_ne_flatten plain), List.mem_singleton] at hx
      subst hx
      have planned := Struct.forall₂_plan accepted form
      obtain ⟨j, hj, rfl⟩ := List.getElem_of_mem hp
      have hj' : j < fields.length := planned.length_eq ▸ hj
      exact ⟨_, _, scope, all _ (List.get_mem fields ⟨j, hj'⟩), planned.get hj' hj, plain, rfl⟩

/-- No condition on the declared fields is needed for a schema to be declared. -/
theorem DeclaredWith.declared (h : s.DeclaredWith P) : s.Declared := by
  induction h with
  | intro scope id _ accepted _ _ ih => exact .intro scope id accepted ih

theorem Declared.declaredWith (h : s.Declared) : s.DeclaredWith fun _ => True := by
  induction h with
  | intro scope id accepted _ ih =>
    obtain ⟨fields, form⟩ := Struct.exists_fields accepted
    exact .intro scope id form accepted (fun _ _ => trivial) ih

/-- A field with a plain annotation of a relation kind is a relation field. -/
theorem DeclaredWith.exists_shape? (h : s.DeclaredWith DeclaredField.IsPlain) (hx : x ∈ s.walk)
    {k : RelationKind} (bears : (Tag.ofString x.field.tag).has k.token = true) :
    ∃ shape, x.field.kind.shape? = some shape := by
  obtain ⟨f, p, scope, plain, planned, -, same⟩ := h.exists_plan hx
  obtain ⟨a, c, listed, classified, rfl⟩ := DeclaredField.plan_eq_ok_iff.1 planned
  rw [same] at bears ⊢
  have words := FieldAttributes.isWord_of_ofList plain.words listed
  have kinds : a.kinds ≠ [] := by
    rcases (FieldAttributes.exists_has_tag_iff words).1 ⟨k, bears⟩ with bare | hidden
    · exact bare
    · exact absurd hidden ((plain.attributes a listed).not_hidesKind words)
  rcases DeclaredField.classify_cases classified with ⟨k, t, -, rfl⟩ | ⟨none, -⟩
  · exact ⟨k.shape, PlannedField.shape?_kind scope _⟩
  · exact absurd none kinds

/-- Each stored field of a declared record type is a scalar open to access. -/
theorem Declared.derived (h : s.Declared) : s.Derived := by
  intro x hx c stored
  obtain ⟨f, p, scope, -, -, -, same⟩ := h.declaredWith.exists_plan hx
  rw [same] at stored ⊢
  exact (p.isOpen_field scope).stored c stored

/-- A relation field of a declared record type gives access to its content, and bears the annotation
of a kind of its shape. -/
theorem Declared.relation_field (h : s.Declared) (hx : x ∈ s.walk) {shape : Shape}
    (hs : x.field.kind.shape? = some shape) :
    x.field.guarded = false ∧ (∃ h : Handle, x.field.kind = h.kind ∧ h.shape = shape) ∧
      ∃ k : RelationKind, k.shape = shape ∧ (Tag.ofString x.field.tag).has k.token = true := by
  obtain ⟨f, p, scope, -, planned, -, same⟩ := h.declaredWith.exists_plan hx
  obtain ⟨a, c, -, classified, rfl⟩ := DeclaredField.plan_eq_ok_iff.1 planned
  rw [same] at hs ⊢
  obtain ⟨accessible, handle⟩ := (PlannedField.isOpen_field scope _).related shape hs
  refine ⟨accessible, handle, ?_⟩
  rw [PlannedField.field, PlannedField.shape?_kind] at hs
  rcases DeclaredField.classify_cases classified with ⟨k, t, kinds, rfl⟩ | ⟨-, plain⟩
  · exact ⟨k, Option.some.inj hs, FieldAttributes.has_tag_of_mem_kinds (by simp [kinds])⟩
  · cases c <;> simp [FieldClass.isRelation] at plain hs

end Schema

end EntityMap
