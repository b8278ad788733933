import EntityMap.Declaration.Blueprint
import EntityMap.Proofs.Success
import Mathlib.Data.List.Nodup

/-!
# Classes of declared fields

What becomes of a field is settled by its relation kind, which its items bear as a name without a
value, and without one by its storage attribute. A field with a kind is not mapped, and its type is
the wrapper that the kind asks for, around one type. The fields of a record type are those of its
declaration, classified one by one.
-/

namespace EntityMap.Declaration

variable {a : FieldAttributes} {c : FieldClass} {f : DeclaredField} {p : PlannedField} {d : Struct}
  {b : Blueprint} {k : RelationKind} {t target : TypeExpr} {w : String}

/-! ## Relation kinds -/

/-- The text of an item is the name of a kind if the item is that name, and has no value. -/
theorem Item.text_eq_token_iff {i : Item} : i.text = k.token ↔ i = ⟨k.token, none⟩ := by
  obtain ⟨key, value⟩ := i
  cases value with
  | none => simp [text]
  | some v =>
    have plain : '=' ∉ k.token.toList := by cases k <;> decide
    simp only [text, mk.injEq, reduceCtorEq, and_false, iff_false]
    intro same
    rw [← same] at plain
    simp at plain

namespace FieldAttributes

/-- A relation kind is among the items, without a value. -/
def Bears (a : FieldAttributes) (k : RelationKind) : Prop :=
  ⟨k.token, none⟩ ∈ a.items

theorem mem_kinds : k ∈ a.kinds ↔ ∃ item ∈ a.items, item.text = k.token := by
  simp [kinds, RelationKind.mem_all]

theorem kind?_eq_ok_iff {found : Option RelationKind} :
    a.kind? = .ok found ↔ a.kinds = found.toList := by
  unfold kind?
  match a.kinds with
  | [] => cases found <;> simp [pure, Except.pure]
  | [k] => cases found <;> simp [pure, Except.pure]
  | k :: k' :: rest => cases found <;> simp

/-- The kinds are those that are borne. -/
theorem mem_kinds_iff_bears : k ∈ a.kinds ↔ a.Bears k := by
  simp [mem_kinds, Item.text_eq_token_iff, Bears]

theorem kinds_eq_nil_iff : a.kinds = [] ↔ ∀ k, ¬ a.Bears k := by
  simp only [List.eq_nil_iff_forall_not_mem, mem_kinds_iff_bears]

/-- One kind is found if no other is there. -/
theorem kinds_eq_singleton_iff : a.kinds = [k] ↔ a.Bears k ∧ ∀ k', a.Bears k' → k' = k := by
  simp only [← mem_kinds_iff_bears]
  constructor
  · intro h
    simp [h]
  · rintro ⟨mem, only⟩
    have nodup : a.kinds.Nodup := List.Nodup.filter _ (by decide)
    have same : a.kinds.Perm [k] := by
      rw [List.perm_ext_iff_of_nodup nodup (List.nodup_singleton k)]
      intro k'
      rw [List.mem_singleton]
      exact ⟨only k', fun h => h ▸ mem⟩
    exact List.perm_singleton.1 same

end FieldAttributes

/-! ## Wrapped types -/

/-- An argument that is a type. -/
def TypeExpr.IsType : TypeExpr → Prop
  | lifetime _ | constant _ => False
  | _ => True

/-- The last segment of a path is a wrapper with one argument, and that is a type. -/
structure TypeExpr.Wraps (wrapper : String) (t target : TypeExpr) : Prop where
  isType : target.IsType
  path : ∃ segments marks, t = .generic segments [target] marks ∧ segments.getLast? = some wrapper

theorem TypeExpr.argumentOf?_eq_some_iff :
    t.argumentOf? w = some target ↔ t.Wraps w target := by
  constructor
  · intro h
    unfold argumentOf? at h
    split at h
    · next segments argument marks =>
      split at h
      · next last =>
        split at h
        · cases h
        · cases h
        · next lifetime constant =>
          obtain rfl := Option.some.inj h
          refine ⟨?_, segments, marks, rfl, last⟩
          cases argument <;> simp_all [IsType]
      · cases h
    · cases h
  · rintro ⟨isType, segments, marks, rfl, last⟩
    cases target <;> simp_all [argumentOf?, IsType]

/-! ## Fields -/

namespace DeclaredField

/-- What becomes of a field without a relation kind, by its storage attribute. -/
def plainClass (f : DeclaredField) : Option Storage → FieldClass
  | none => .column f.name
  | some (.column name) => .column name
  | some .skip => .skip
  | some .flatten => .flatten

/-- What becomes of a field, from what its attributes say. -/
inductive Becomes (f : DeclaredField) (a : FieldAttributes) : FieldClass → Prop
  | relation {k : RelationKind} {target : TypeExpr} (bears : a.Bears k)
    (only : ∀ k', a.Bears k' → k' = k) (unmapped : a.storage = none ∨ a.storage = some .skip)
    (wraps : f.type.Wraps (wrapperFor k.shape) target) : Becomes f a (.relation k.shape target)
  | plain (none : ∀ k, ¬ a.Bears k) : Becomes f a (f.plainClass a.storage)

/-- A field with one kind is not mapped, and its type is the wrapper of the kind. -/
private theorem classify_of_kinds_eq_singleton (one : a.kinds = [k]) : f.classify a = .ok c ↔
    (a.storage = none ∨ a.storage = some .skip) ∧
      ∃ target, f.type.Wraps (wrapperFor k.shape) target ∧ .relation k.shape target = c := by
  have kind : a.kind? = .ok (some k) := FieldAttributes.kind?_eq_ok_iff.2 one
  simp only [← TypeExpr.argumentOf?_eq_some_iff, classify, kind, bind, Except.bind]
  match a.storage with
  | some (.column name) | some .flatten => simp
  | none | some .skip =>
    cases wraps : f.type.argumentOf? (wrapperFor k.shape) <;> simp [wraps, pure, Except.pure]

private theorem classify_of_kinds_eq_nil (none : a.kinds = []) :
    f.classify a = .ok (f.plainClass a.storage) := by
  have kind : a.kind? = .ok .none := FieldAttributes.kind?_eq_ok_iff.2 none
  simp only [classify, kind, bind, Except.bind]
  match a.storage with
  | some (.column name) | some .skip | some .flatten | .none => rfl

/-- A field is classified as what becomes of it. -/
theorem classify_eq_ok_iff : f.classify a = .ok c ↔ f.Becomes a c := by
  constructor
  · intro h
    obtain ⟨found, kind, -⟩ := bind_eq_ok_iff.1 h
    rw [FieldAttributes.kind?_eq_ok_iff] at kind
    cases found with
    | some k =>
      obtain ⟨bears, only⟩ := FieldAttributes.kinds_eq_singleton_iff.1 kind
      obtain ⟨unmapped, target, wraps, rfl⟩ := (classify_of_kinds_eq_singleton kind).1 h
      exact .relation bears only unmapped wraps
    | none =>
      obtain rfl := Except.ok.inj ((classify_of_kinds_eq_nil kind).symm.trans h)
      exact .plain (FieldAttributes.kinds_eq_nil_iff.1 kind)
  · intro becomes
    cases becomes with
    | relation bears only unmapped wraps =>
      have one := FieldAttributes.kinds_eq_singleton_iff.2 ⟨bears, only⟩
      exact (classify_of_kinds_eq_singleton one).2 ⟨unmapped, _, wraps, rfl⟩
    | plain none => exact classify_of_kinds_eq_nil (FieldAttributes.kinds_eq_nil_iff.2 none)

/-- No field without a kind is a relation. -/
theorem isRelation_plainClass (f : DeclaredField) (s : Option Storage) :
    (f.plainClass s).isRelation = false := by
  match s with
  | none | some (.column name) | some .skip | some .flatten => rfl

end DeclaredField

/-! ## Planned fields -/

theorem DeclaredField.plan_eq_ok_iff : f.plan = .ok p ↔ ∃ a c,
    FieldAttributes.ofList f.attributes = .ok a ∧ f.classify a = .ok c ∧
      p = ⟨f.name, f.type, a.tag, c⟩ := by
  simp only [plan, bind_eq_ok_iff, pure, Except.pure, Except.ok.injEq, @eq_comm _ p,
    exists_and_left]

/-- A declaration is accepted if it has named fields and no parameters, each field is planned, and
the attributes of the struct are read. -/
theorem Struct.blueprint_eq_ok_iff : d.blueprint = .ok b ↔ d.isGeneric = false ∧
    ∃ fields, d.form = .namedFields fields ∧
      List.Forall₂ (fun f p => f.plan = .ok p) fields b.fields ∧
      hasHooks d.attributes = .ok b.ownHooks ∧ b.name = d.name := by
  unfold blueprint
  cases generic : d.isGeneric with
  | true => simp [bind, Except.bind]
  | false =>
    cases form : d.form with
    | namedFields fields =>
      simp only [Bool.false_eq_true, if_false, bind_eq_ok_iff, mapM_eq_ok_iff, pure, Except.pure,
        Except.ok.injEq, true_and, Form.namedFields.injEq, exists_eq_left']
      constructor
      · rintro ⟨planned, each, hooks, found, rfl⟩
        exact ⟨each, found, rfl⟩
      · rintro ⟨each, found, name⟩
        exact ⟨b.fields, each, b.ownHooks, found, by rw [← name]⟩
    | tupleStruct | unitStruct | sum | union => simp

/-- An accepted declaration has named fields. -/
theorem Struct.exists_fields (accepted : d.blueprint = .ok b) :
    ∃ fields, d.form = .namedFields fields := by
  obtain ⟨-, fields, form, -⟩ := blueprint_eq_ok_iff.1 accepted
  exact ⟨fields, form⟩

/-- The fields of an accepted declaration are planned one by one. -/
theorem Struct.forall₂_plan {fields : List DeclaredField} (accepted : d.blueprint = .ok b)
    (form : d.form = .namedFields fields) :
    List.Forall₂ (fun f p => f.plan = .ok p) fields b.fields := by
  obtain ⟨-, fields', form', each, -⟩ := blueprint_eq_ok_iff.1 accepted
  obtain rfl := Form.namedFields.inj (form.symm.trans form')
  exact each

end EntityMap.Declaration
