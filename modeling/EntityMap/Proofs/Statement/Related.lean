import EntityMap.Proofs.Declaration.Declared
import EntityMap.Proofs.Schema.Walk
import EntityMap.Proofs.Statement.Reconciliation

/-!
# The statements of a relation

A relation leads to the field of its name that a lookup finds, if that field has the shape that the
relation asks for. The type of the field says which rows are selected, and the place of the field
where they belong.
-/

namespace EntityMap

open Sql

/-- The statement selects rows of the table of an entity, with every column of the entity. -/
def Sql.Query.SelectsRowsOf (target : Entity) : Query → Prop
  | .select columns table none _ => table = target.storageName ∧ columns = target.columns.map .bare
  | .select columns _ (some join) _ =>
    join.table = target.storageName ∧ columns = target.columns.map (.of target.storageName)
  | .insert .. | .update .. | .delete .. => False

theorem Schema.relationEntry_eq_ok_iff {s : Schema} {rel : Relation} {x : Entry} :
    s.relationEntry rel = .ok x ↔
      s.fieldEntry? rel.field = some x ∧ x.field.kind.shape? = some rel.kind.shape := by
  unfold Schema.relationEntry
  cases s.fieldEntry? rel.field with
  | none => simp
  | some y => grind

/-! ## The field of a relation -/

/-- No entry that precedes this one has its name. -/
def Schema.Exposes (s : Schema) (x : Entry) : Prop :=
  ∀ y ∈ s.walk, y.field.name = x.field.name → ¬ y.Precedes x

instance (s : Schema) (x : Entry) : Decidable (s.Exposes x) :=
  inferInstanceAs (Decidable (∀ y ∈ s.walk, y.field.name = x.field.name → ¬ y.Precedes x))

section

variable {e : Entity} {rel : Relation} {x : Entry}

/-- Where no two fields have one name, none precedes another of its name. -/
theorem Schema.exposes_of_nodup {s : Schema} (nodup : (s.walk.map (·.field.name)).Nodup)
    (hx : x ∈ s.walk) : s.Exposes x := by
  intro y hy same
  rw [List.inj_on_of_nodup_map nodup hy hx same]
  exact x.not_precedes_self

/-- The field that declares a relation is found for it if it is a relation field and no other of its
name precedes it. -/
theorem Entity.IsParsed.relationEntry_eq_ok (parsed : e.IsParsed) (declared : e.schema.Declared)
    (declares : e.DeclaresAt rel x) (exposed : e.schema.Exposes x)
    (related : x.field.kind.shape?.isSome = true) : e.schema.relationEntry rel = .ok x := by
  have hx : x ∈ e.schema.walk := declares.mem_walk
  obtain ⟨shape, hs⟩ := Option.isSome_iff_exists.1 related
  obtain ⟨-, -, k, rfl, bears⟩ := declared.relation_field hx hs
  have kind : rel.kind = k := (parsed.consistent hx).oneKind _ _ declares.bears_kind bears
  refine Schema.relationEntry_eq_ok_iff.2 ⟨?_, ?_⟩
  · rw [Schema.fieldEntry?_eq_some_iff, declares.field_eq]
    exact ⟨hx, rfl, exposed⟩
  · rw [hs, kind]

end

namespace Registry

variable {reg : Registry} {r : Record} {relation : String} {rel : Relation} {q : Query}

/-- The related records are of the type that the field of the relation holds. -/
theorem relatedEntity_eq_ok_iff {s : Schema} {target : Entity} :
    reg.relatedEntity s rel = .ok target ↔ ∃ x t, s.relationEntry rel = .ok x ∧
      x.field.kind.target? = some t ∧ reg.ofType? t = some target := by
  simp only [relatedEntity, bind_eq_ok_iff]
  refine exists_congr fun x => ?_
  cases x.field.kind.target? with
  | none => simp
  | some t => simp [entityOf_eq_ok_iff]

/-- What a relation selects, unless it lists keys, are rows of the entity that it leads to. -/
theorem selectRelation_selects (h : reg.selectRelation r relation = .ok q) :
    ∃ e rel, reg.ofType? r.type = some e ∧ e.relation? relation = some rel ∧
      (rel.kind.shape ≠ .ids →
        ∃ target, reg.relatedEntity r.schema rel = .ok target ∧ q.SelectsRowsOf target) := by
  simp only [selectRelation, bind_eq_ok_iff, resolve_eq_ok_iff] at h
  obtain ⟨⟨e, rel⟩, ⟨registered, found⟩, h⟩ := h
  refine ⟨e, rel, registered, found, ?_⟩
  cases link : rel.link with
  | belongsTo own =>
    simp only [link, bind_eq_ok_iff] at h
    obtain ⟨target, ht, key, -, value, -, h⟩ := h
    obtain rfl := Except.ok.inj h
    exact fun _ => ⟨target, ht, rfl, rfl⟩
  | hasMany other | hasOne other =>
    simp only [link, bind_eq_ok_iff] at h
    obtain ⟨target, ht, value, -, h⟩ := h
    obtain rfl := Except.ok.inj h
    exact fun _ => ⟨target, ht, rfl, rfl⟩
  | belongsToMany join =>
    simp only [link, bind_eq_ok_iff] at h
    obtain ⟨target, ht, table, -, key, -, value, -, h⟩ := h
    obtain rfl := Except.ok.inj h
    exact fun _ => ⟨target, ht, rfl, rfl⟩
  | belongsToManyIds join =>
    intro listed
    simp [Relation.kind, link, Link.kind, RelationKind.shape] at listed

/-- A selection comes with the place and the handle of the field that its rows belong in. -/
theorem selectRelationTarget_eq_ok_iff {l : Locator} {handle : Handle} :
    reg.selectRelationTarget r relation = .ok (q, l, handle) ↔
      reg.selectRelation r relation = .ok q ∧ ∃ e rel x, reg.ofType? r.type = some e ∧
        e.relation? relation = some rel ∧ r.schema.relationEntry rel = .ok x ∧
        l = x.locator ∧ r.handleAt? l = some handle := by
  simp only [selectRelationTarget, bind_eq_ok_iff, resolve_eq_ok_iff]
  constructor
  · rintro ⟨query, hq, ⟨e, rel⟩, ⟨registered, found⟩, x, hx, h⟩
    cases hh : r.handleAt? x.locator with
    | none => simp [hh] at h
    | some handle' =>
      simp only [hh, pure, Except.pure, Except.ok.injEq, Prod.mk.injEq] at h
      obtain ⟨rfl, rfl, rfl⟩ := h
      exact ⟨hq, e, rel, x, registered, found, hx, rfl, hh⟩
  · rintro ⟨hq, e, rel, x, registered, found, hx, rfl, hh⟩
    exact ⟨q, hq, ⟨e, rel⟩, ⟨registered, found⟩, x, hx, by simp [hh, pure, Except.pure]⟩

end Registry

end EntityMap
