import EntityMap.Proofs.Declaration.Attributes
import EntityMap.Proofs.Declaration.Classes

/-!
# Well-formed declarations

A declaration is accepted just if it is well formed: a struct with named fields and no parameters,
with no flag but `hooks`, whose fields are well formed one by one. A field has at most one storage
attribute and one relation kind; a field with a kind is not mapped, and its type is the wrapper that
the kind asks for, around one type.
-/

namespace EntityMap.Declaration

variable {a : FieldAttributes} {f : DeclaredField} {p : PlannedField} {d : Struct}

/-! ## Fields -/

namespace DeclaredField

/-- What the attributes of a field say agrees: no two relation kinds differ, and a field with one is
not mapped, and is of a type that the kind wraps. -/
structure Agrees (f : DeclaredField) (a : FieldAttributes) : Prop where
  oneKind : ∀ k k', a.Bears k → a.Bears k' → k = k'
  unmapped : ∀ k, a.Bears k → a.storage = none ∨ a.storage = some .skip
  wraps : ∀ k, a.Bears k → ∃ target, f.type.Wraps (wrapperFor k.shape) target

/-- Something becomes of a field just if what its attributes say agrees. -/
theorem exists_becomes_iff : (∃ c, f.Becomes a c) ↔ f.Agrees a := by
  constructor
  · rintro ⟨c, becomes⟩
    cases becomes with
    | @relation k target bears only unmapped wraps =>
      refine ⟨fun k₁ k₂ h₁ h₂ => (only k₁ h₁).trans (only k₂ h₂).symm, fun _ _ => unmapped, ?_⟩
      intro k' bears'
      exact ⟨target, only k' bears' ▸ wraps⟩
    | plain none =>
      exact ⟨fun k _ bears => absurd bears (none k), fun k bears => absurd bears (none k),
        fun k bears => absurd bears (none k)⟩
  · intro agrees
    by_cases none : ∀ k, ¬ a.Bears k
    · exact ⟨_, .plain none⟩
    · obtain ⟨k, bears⟩ := not_forall_not.1 none
      obtain ⟨target, wraps⟩ := agrees.wraps k bears
      have only : ∀ k', a.Bears k' → k' = k := fun k' bears' => agrees.oneKind k' k bears' bears
      exact ⟨_, .relation bears only (agrees.unmapped k bears) wraps⟩

/-- The attributes of the field are well written, with at most one storage attribute among them, and
what they say agrees. -/
def WellFormed (f : DeclaredField) : Prop :=
  ∃ a : FieldAttributes, AttributesSay f.attributes a.storage.toList a.items ∧ f.Agrees a

/-- The planned field is the declared one, with what becomes of it. -/
structure PlannedAs (f : DeclaredField) (a : FieldAttributes) (p : PlannedField) : Prop where
  written : AttributesSay f.attributes a.storage.toList a.items
  name : p.name = f.name
  type : p.type = f.type
  tag : p.tag = a.tag
  fieldClass : f.Becomes a p.fieldClass

/-- A field is planned from what its attributes say. -/
theorem plan_eq_ok_iff_plannedAs : f.plan = .ok p ↔ ∃ a, f.PlannedAs a p := by
  simp only [plan_eq_ok_iff, FieldAttributes.ofList_eq_ok_iff, classify_eq_ok_iff]
  constructor
  · rintro ⟨a, c, written, becomes, rfl⟩
    exact ⟨a, written, rfl, rfl, rfl, becomes⟩
  · rintro ⟨a, written, name, type, tag, becomes⟩
    obtain ⟨_, _, _, c⟩ := p
    obtain rfl := name
    obtain rfl := type
    obtain rfl := tag
    exact ⟨a, c, written, becomes, rfl⟩

/-- A field is planned just if it is well formed. -/
theorem exists_plan_iff : (∃ p, f.plan = .ok p) ↔ f.WellFormed := by
  simp only [plan_eq_ok_iff_plannedAs]
  constructor
  · rintro ⟨p, a, planned⟩
    exact ⟨a, planned.written, exists_becomes_iff.1 ⟨_, planned.fieldClass⟩⟩
  · rintro ⟨a, written, agrees⟩
    obtain ⟨c, becomes⟩ := exists_becomes_iff.2 agrees
    exact ⟨⟨f.name, f.type, a.tag, c⟩, a, written, rfl, rfl, rfl, becomes⟩

end DeclaredField

/-! ## Structs -/

/-- The declaration has named fields and no parameters. Its fields are well formed, and its
annotations are well written and hold nothing but the flag. -/
structure Struct.WellFormed (d : Struct) : Prop where
  notGeneric : d.isGeneric = false
  fields : ∃ fields, d.form = .namedFields fields ∧ ∀ f ∈ fields, f.WellFormed
  hooks : ∃ items, ItemsGiven d.attributes items ∧ ∀ i ∈ items, i = .hooks

/-- A declaration is accepted just if it is well formed. -/
theorem Struct.exists_blueprint_iff : (∃ b, d.blueprint = .ok b) ↔ d.WellFormed := by
  simp only [blueprint_eq_ok_iff]
  constructor
  · rintro ⟨b, notGeneric, fields, form, each, found, -⟩
    obtain ⟨items, given, all, -⟩ := hasHooks_eq_ok_iff.1 found
    refine ⟨notGeneric, ⟨fields, form, fun f hf => ?_⟩, items, given, all⟩
    obtain ⟨i, hi, rfl⟩ := List.getElem_of_mem hf
    exact DeclaredField.exists_plan_iff.1 ⟨_, each.get hi (each.length_eq ▸ hi)⟩
  · rintro ⟨notGeneric, ⟨fields, form, wellFormed⟩, items, given, all⟩
    have exists_plan : ∀ f ∈ fields, ∃ p, f.plan = .ok p := fun f hf =>
      DeclaredField.exists_plan_iff.2 (wellFormed f hf)
    obtain ⟨planned, each⟩ := exists_forall₂ exists_plan
    exact ⟨⟨d.name, _, planned⟩, notGeneric, fields, form, each,
      hasHooks_eq_ok_iff.2 ⟨items, given, all, rfl⟩, rfl⟩

end EntityMap.Declaration
