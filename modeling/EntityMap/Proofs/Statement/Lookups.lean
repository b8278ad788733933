import EntityMap.Proofs.Entity.Values
import EntityMap.Proofs.Statement.Related

/-!
# Lookups that fail

For a statement about a relation several things are looked up one after the other: the entity of the
record and the relation, the entity of the related records, the join table, and the column of a
foreign key. `Registry.CannotSelect` and `Registry.CannotReconcile` say which of them is the first
that is not there. For entities that come from declarations nothing else can go wrong.
-/

namespace EntityMap

open Declaration

/-! ## Entities from declarations -/

/-- The entity was read off the annotations of a declared record type. No two fields have one name,
also among those of embedded records, and the annotations are plain. -/
structure Entity.FromDeclaration (e : Entity) : Prop where
  parsed : e.IsParsed
  declared : e.schema.DeclaredWith DeclaredField.IsPlain
  names : (e.schema.walk.map (·.field.name)).Nodup

/-- The field that declares the relation holds records of the type. -/
def Entity.LeadsTo (e : Entity) (rel : Relation) (t : RecordType) : Prop :=
  ∃ x, e.DeclaresAt rel x ∧ x.field.kind.target? = some t

namespace Entity

variable {e : Entity} {r : Record} {relation column : String} {rel : Relation} {x y : Entry}
  {t : RecordType} {err : Error}

namespace FromDeclaration

variable (h : e.FromDeclaration)
include h

/-- The field that declares a relation is found for it. -/
theorem exists_entry (found : e.relation? relation = some rel) :
    ∃ x, e.DeclaresAt rel x ∧ e.schema.relationEntry rel = .ok x := by
  obtain ⟨-, x, declares⟩ := h.parsed.exists_declaresAt found
  refine ⟨x, declares, h.parsed.relationEntry_eq_ok h.declared.declared declares ?_ ?_⟩
  · exact Schema.exposes_of_nodup h.names declares.mem_walk
  · exact Option.isSome_iff_exists.2 (h.declared.exists_shape? declares.mem_walk
      declares.bears_kind)

/-- One field declares a relation. -/
theorem eq_of_declaresAt (hx : e.DeclaresAt rel x) (hy : e.DeclaresAt rel y) : x = y := by
  apply List.inj_on_of_nodup_map h.names hx.mem_walk hy.mem_walk
  rw [← hx.field_eq, ← hy.field_eq]

/-- A field that lists keys leads to no records, and any other relation field to those of one
type. -/
theorem exists_target? (found : e.relation? relation = some rel) :
    ∃ x, e.DeclaresAt rel x ∧ e.schema.relationEntry rel = .ok x ∧
      (rel.kind.shape = .ids → x.field.kind.target? = none) ∧
      (rel.kind.shape ≠ .ids → ∃ t, x.field.kind.target? = some t) := by
  obtain ⟨x, declares, entry⟩ := h.exists_entry found
  obtain ⟨-, shape⟩ := Schema.relationEntry_eq_ok_iff.1 entry
  obtain ⟨-, ⟨held, kind, same⟩, -⟩ := h.declared.declared.relation_field declares.mem_walk shape
  refine ⟨x, declares, entry, ?_, ?_⟩
  all_goals
    intro ids
    rw [← same] at ids
    rw [kind]
    cases held <;> simp_all [Handle.kind, Handle.shape, FieldKind.target?]

/-- A field that is to list keys does. -/
theorem exists_idsAt? (fits : r.Fits e.schema) (declares : e.DeclaresAt rel x)
    (entry : e.schema.relationEntry rel = .ok x) (kind : rel.kind.shape = .ids) :
    ∃ ids, r.idsAt? x.locator = some ids := by
  obtain ⟨-, shape⟩ := Schema.relationEntry_eq_ok_iff.1 entry
  obtain ⟨accessible, ⟨content, same, ids⟩, -⟩ :=
    h.declared.declared.relation_field declares.mem_walk shape
  obtain ⟨slot, leaf⟩ := fits.exists_leaf? declares.mem_walk
  obtain ⟨held, found, held_kind, -⟩ := fits.exists_handleAt? leaf same accessible
  rw [same] at held_kind
  rw [kind] at ids
  cases held with
  | ids element values => exact ⟨values, Record.idsAt?_of_handleAt? found⟩
  | one target related | many target related =>
    cases content <;> simp [Handle.kind, Handle.shape] at held_kind ids

/-- A record that fits has the values of just the columns of the entity. -/
theorem columnValue_eq_error_iff (fits : r.Fits e.schema) : e.columnValue r column = .error err ↔
    column ∉ e.columns ∧ err = .shape (.noColumn column e.type.name) := by
  rw [columnValue_of_fits fits]
  by_cases mem : column ∈ e.columns
  · obtain ⟨v, hv⟩ := fits.exists_column? h.declared.declared.derived mem
    simp [hv, mem]
  · have none : r.column? column = none := by
      rw [Record.column?, fits.schema_eq, Schema.locateColumn?, Option.bind_eq_none_iff]
      intro l hl
      obtain ⟨x, found, -⟩ := Option.map_eq_some_iff.1 hl
      obtain ⟨hx, stored⟩ := Schema.mem_walk_of_columnEntry? found
      exact absurd (Schema.mem_columns_iff.2 ⟨x, hx, stored⟩) mem
    simp [none, mem, eq_comm]

theorem exists_ownKey (fits : r.Fits e.schema) : ∃ v, e.ownKey r = .ok v := by
  obtain ⟨key, mem, primary, -⟩ := h.parsed.exists_primaryKey
  obtain ⟨v, hv⟩ := fits.exists_column? h.declared.declared.derived mem
  exact ⟨v, bind_eq_ok_iff.2 ⟨key, primary, (columnValue_eq_ok_iff fits).2 hv⟩⟩

end FromDeclaration

end Entity

/-! ## What is not there -/

namespace Registry

/-- A record has an entity, and the entity has a relation of the name. -/
structure Resolves (reg : Registry) (r : Record) (relation : String) (e : Entity)
    (rel : Relation) : Prop where
  registered : reg.ofType? r.type = some e
  found : e.relation? relation = some rel

/-- A record has no entity, or the entity has no relation of the name. -/
inductive Unresolved (reg : Registry) (r : Record) (relation : String) : Error → Prop
  | type (none : reg.ofType? r.type = none) :
      Unresolved reg r relation (.notRegistered r.type.name)
  | relation {e : Entity} (registered : reg.ofType? r.type = some e)
      (none : e.relation? relation = none) :
      Unresolved reg r relation (.relationNotFound e.name relation)

/-- The records that the relation leads to, if it does, have an entity. -/
def Targets (reg : Registry) (e : Entity) (rel : Relation) : Prop :=
  ∀ t, e.LeadsTo rel t → ∃ target, reg.ofType? t = some target

/-- The related records have no entity, or else the join table or the foreign key is not there. -/
inductive Unselectable (reg : Registry) (e : Entity) (rel : Relation) : Error → Prop
  | target {t : RecordType} (leads : e.LeadsTo rel t) (none : reg.ofType? t = none) :
      Unselectable reg e rel (.notRegistered t.name)
  | join {join : JoinLink} (targets : reg.Targets e rel) (uses : rel.link.join? = some join)
      (none : reg.named? join.joinName = none) :
      Unselectable reg e rel (.notRegistered join.joinName)
  | column {c : String} (targets : reg.Targets e rel) (link : rel.link = .belongsTo c)
      (none : c ∉ e.columns) :
      Unselectable reg e rel (.shape (.noColumn c e.type.name))

/-- The relation does not list keys through a join table, or the table is not there. -/
inductive Irreconcilable (reg : Registry) (relation : String) (rel : Relation) : Error → Prop
  | kind (other : rel.kind ≠ .belongsToManyIds) :
      Irreconcilable reg relation rel (.notReconcilable relation rel.kind)
  | join {join : JoinLink} (link : rel.link = .belongsToManyIds join)
      (none : reg.named? join.joinName = none) :
      Irreconcilable reg relation rel (.notRegistered join.joinName)

/-- The first thing that is not there for a selection, as an error tells it. -/
def CannotSelect (reg : Registry) (r : Record) (relation : String) (err : Error) : Prop :=
  reg.Unresolved r relation err ∨
    ∃ e rel, reg.Resolves r relation e rel ∧ reg.Unselectable e rel err

/-- The first thing that is not there for a reconciliation, as an error tells it. -/
def CannotReconcile (reg : Registry) (r : Record) (relation : String) (err : Error) : Prop :=
  reg.Unresolved r relation err ∨
    ∃ e rel, reg.Resolves r relation e rel ∧ reg.Irreconcilable relation rel err

variable {reg : Registry} {r : Record} {relation name : String} {e : Entity} {rel : Relation}
  {t : RecordType} {err : Error}

theorem Resolves.resolve_eq_ok (h : reg.Resolves r relation e rel) :
    reg.resolve r relation = .ok (e, rel) :=
  resolve_eq_ok_iff.2 ⟨h.registered, h.found⟩

theorem unselectable_iff : reg.Unselectable e rel err ↔
    (∃ t, e.LeadsTo rel t ∧ reg.ofType? t = none ∧ err = .notRegistered t.name) ∨
      reg.Targets e rel ∧
        ((∃ join, rel.link.join? = some join ∧ reg.named? join.joinName = none ∧
            err = .notRegistered join.joinName) ∨
          ∃ c, rel.link = .belongsTo c ∧ c ∉ e.columns ∧
            err = .shape (.noColumn c e.type.name)) := by
  constructor
  · intro unselectable
    cases unselectable with
    | target leads none => exact .inl ⟨_, leads, none, rfl⟩
    | join targets uses none => exact .inr ⟨targets, .inl ⟨_, uses, none, rfl⟩⟩
    | column targets link none => exact .inr ⟨targets, .inr ⟨_, link, none, rfl⟩⟩
  · rintro (⟨t, leads, none, rfl⟩ | ⟨targets, ⟨join, uses, none, rfl⟩ | ⟨c, link, none, rfl⟩⟩)
    · exact .target leads none
    · exact .join targets uses none
    · exact .column targets link none

theorem irreconcilable_iff : reg.Irreconcilable relation rel err ↔
    rel.kind ≠ .belongsToManyIds ∧ err = .notReconcilable relation rel.kind ∨
      ∃ join, rel.link = .belongsToManyIds join ∧ reg.named? join.joinName = none ∧
        err = .notRegistered join.joinName := by
  constructor
  · intro irreconcilable
    cases irreconcilable with
    | kind other => exact .inl ⟨other, rfl⟩
    | join link none => exact .inr ⟨_, link, none, rfl⟩
  · rintro (⟨other, rfl⟩ | ⟨join, link, none, rfl⟩)
    · exact .kind other
    · exact .join link none

theorem resolve_eq_error_iff : reg.resolve r relation = .error err ↔
    reg.Unresolved r relation err := by
  simp only [resolve, bind_eq_error_iff, entityOf_eq_ok_iff, entityOf_eq_error_iff]
  constructor
  · rintro (⟨none, rfl⟩ | ⟨e, registered, h⟩)
    · exact .type none
    · cases found : e.relation? relation with
      | some rel => simp [found, pure, Except.pure] at h
      | none =>
        simp only [found, throw_eq_error, Except.error.injEq] at h
        exact h ▸ .relation registered found
  · rintro (none | ⟨registered, none⟩)
    · exact .inl ⟨none, rfl⟩
    · exact .inr ⟨_, registered, by simp [none]⟩

section Failures

variable (h : e.FromDeclaration) (fits : r.Fits e.schema) (resolves : reg.Resolves r relation e rel)
include h fits resolves

/-- The related records are looked up by the type that the declaring field holds. -/
private theorem relatedEntity_eq_error_iff (kind : rel.kind.shape ≠ .ids) :
    reg.relatedEntity r.schema rel = .error err ↔
      ∃ t, e.LeadsTo rel t ∧ reg.ofType? t = none ∧ err = .notRegistered t.name := by
  obtain ⟨x, declares, entry, -, held⟩ := h.exists_target? resolves.found
  obtain ⟨t, ht⟩ := held kind
  have related : reg.relatedEntity r.schema rel = reg.entityOf t := by
    rw [fits.schema_eq, relatedEntity, entry]
    simp only [bind, Except.bind, ht]
  rw [related, entityOf_eq_error_iff]
  constructor
  · rintro ⟨none, rfl⟩
    exact ⟨t, ⟨x, declares, ht⟩, none, rfl⟩
  · rintro ⟨t', ⟨y, declares', ht'⟩, none, rfl⟩
    obtain rfl := h.eq_of_declaresAt declares declares'
    obtain rfl := Option.some.inj (ht.symm.trans ht')
    exact ⟨none, rfl⟩

/-- The entity of the related records is found just if there is one. -/
private theorem exists_relatedEntity_iff (kind : rel.kind.shape ≠ .ids) :
    (∃ target, reg.relatedEntity r.schema rel = .ok target) ↔ reg.Targets e rel := by
  simp only [exists_eq_ok_iff, ne_eq, relatedEntity_eq_error_iff h fits resolves kind, not_exists,
    not_and, Targets, ← Option.ne_none_iff_exists']
  constructor
  · intro never t leads none
    exact never _ t leads none rfl
  · intro targets err t leads none _
    exact targets t leads none

/-- What is looked up after the related records does not depend on which they are. -/
private theorem relatedEntity_bind_eq_error_iff (kind : rel.kind.shape ≠ .ids)
    {f : Entity → Except Error Query} (Later : Prop)
    (later : ∀ target, reg.relatedEntity r.schema rel = .ok target →
      (f target = .error err ↔ Later)) :
    reg.relatedEntity r.schema rel >>= f = .error err ↔
      (∃ t, e.LeadsTo rel t ∧ reg.ofType? t = none ∧ err = .notRegistered t.name) ∨
        reg.Targets e rel ∧ Later := by
  rw [bind_eq_error_iff, relatedEntity_eq_error_iff h fits resolves kind,
    ← exists_relatedEntity_iff h fits resolves kind]
  apply or_congr_right
  constructor
  · rintro ⟨target, related, failed⟩
    exact ⟨⟨target, related⟩, (later target related).1 failed⟩
  · rintro ⟨⟨target, related⟩, failed⟩
    exact ⟨target, related, (later target related).2 failed⟩

omit fits in
/-- A relation that lists keys leads to no records. -/
private theorem not_leadsTo (kind : rel.kind.shape = .ids) (t : RecordType) : ¬ e.LeadsTo rel t := by
  obtain ⟨x, declares, -, lists, -⟩ := h.exists_target? resolves.found
  rintro ⟨y, declares', ht⟩
  obtain rfl := h.eq_of_declaresAt declares declares'
  rw [lists kind] at ht
  cases ht

/-- A selection fails for want of the first thing that is not there, and for no other reason. -/
theorem selectRelation_eq_error_iff (all : ∀ e' ∈ reg.entries, e'.FromDeclaration) :
    reg.selectRelation r relation = .error err ↔ reg.Unselectable e rel err := by
  have keyed {target : Entity} (related : reg.relatedEntity r.schema rel = .ok target) :
      ∃ key, target.primaryKey = .ok key := by
    obtain ⟨x, t, -, -, registered⟩ := relatedEntity_eq_ok_iff.1 related
    obtain ⟨key, -, primary, -⟩ :=
      (all target (List.mem_of_find?_eq_some registered)).parsed.exists_primaryKey
    exact ⟨key, primary⟩
  obtain ⟨own, hown⟩ := h.exists_ownKey fits
  rw [selectRelation, resolves.resolve_eq_ok, bind_eq_error_iff, unselectable_iff]
  simp only [reduceCtorEq, Except.ok.injEq, false_or, exists_eq_left']
  cases link : rel.link with
  | belongsTo c =>
    have kind : rel.kind.shape ≠ .ids := by
      simp [Relation.kind, link, Link.kind, RelationKind.shape]
    rw [relatedEntity_bind_eq_error_iff h fits resolves kind (c ∉ e.columns ∧
      err = .shape (.noColumn c e.type.name))]
    · simp [Link.join?]
    · intro target related
      obtain ⟨key, primary⟩ := keyed related
      simp [bind_eq_error_iff, primary, h.columnValue_eq_error_iff fits, pure, Except.pure]
  | hasMany c | hasOne c =>
    have kind : rel.kind.shape ≠ .ids := by
      simp [Relation.kind, link, Link.kind, RelationKind.shape]
    rw [relatedEntity_bind_eq_error_iff h fits resolves kind False]
    · simp [Link.join?]
    · intro target _
      simp [bind_eq_error_iff, hown, pure, Except.pure]
  | belongsToMany join =>
    have kind : rel.kind.shape ≠ .ids := by
      simp [Relation.kind, link, Link.kind, RelationKind.shape]
    rw [relatedEntity_bind_eq_error_iff h fits resolves kind
      (reg.named? join.joinName = none ∧ err = .notRegistered join.joinName)]
    · simp [Link.join?]
    · intro target related
      obtain ⟨key, primary⟩ := keyed related
      simp [bind_eq_error_iff, entityNamed_eq_error_iff, primary, hown, pure, Except.pure]
  | belongsToManyIds join =>
    have kind : rel.kind.shape = .ids := by rw [Relation.kind, link]; rfl
    have untargeted := not_leadsTo h resolves kind
    have targets : reg.Targets e rel := fun t leads => absurd leads (untargeted t)
    obtain ⟨x, -, entry⟩ := h.exists_entry resolves.found
    simp [bind_eq_error_iff, entityNamed_eq_error_iff, fits.schema_eq, entry, hown, untargeted,
      targets, Link.join?, pure, Except.pure]

/-- So does a reconciliation. -/
theorem joinPlan_eq_error_iff :
    reg.joinPlan r relation = .error err ↔ reg.Irreconcilable relation rel err := by
  obtain ⟨own, hown⟩ := h.exists_ownKey fits
  rw [joinPlan, resolves.resolve_eq_ok, bind_eq_error_iff, irreconcilable_iff]
  simp only [reduceCtorEq, Except.ok.injEq, false_or, exists_eq_left']
  cases link : rel.link with
  | belongsToManyIds join =>
    obtain ⟨x, declares, entry⟩ := h.exists_entry resolves.found
    obtain ⟨ids, hids⟩ := h.exists_idsAt? fits declares entry (by rw [Relation.kind, link]; rfl)
    simp [bind_eq_error_iff, entityNamed_eq_error_iff, fits.schema_eq, entry, hids, hown,
      Relation.kind, link, Link.kind, pure, Except.pure]
  | belongsTo c | hasMany c | hasOne c | belongsToMany join =>
    simp [Relation.kind, link, Link.kind, eq_comm]

end Failures

/-- What fails if a relation is not found, and else for reasons of its own. -/
private theorem eq_error_iff_of_resolve {α : Type} {x : Except Error α}
    {Missing : Entity → Relation → Prop}
    (unresolved : ∀ err', reg.resolve r relation = .error err' → x = .error err')
    (resolved : ∀ e rel, reg.Resolves r relation e rel → (x = .error err ↔ Missing e rel)) :
    x = .error err ↔ reg.Unresolved r relation err ∨
      ∃ e rel, reg.Resolves r relation e rel ∧ Missing e rel := by
  rw [← resolve_eq_error_iff]
  cases found : reg.resolve r relation with
  | error err' =>
    rw [unresolved err' found]
    constructor
    · exact fun same => .inl (by rw [Except.error.inj same])
    · rintro (same | ⟨e, rel, resolves, -⟩)
      · rw [Except.error.inj same]
      · have ok := resolves.resolve_eq_ok
        rw [found] at ok
        cases ok
  | ok p =>
    obtain ⟨registered, related⟩ := resolve_eq_ok_iff.1 found
    rw [resolved p.1 p.2 ⟨registered, related⟩]
    constructor
    · exact fun missing => .inr ⟨p.1, p.2, ⟨registered, related⟩, missing⟩
    · rintro (failed | ⟨e, rel, resolves, missing⟩)
      · cases failed
      · have ok := resolves.resolve_eq_ok
        rw [found, Except.ok.injEq] at ok
        subst ok
        exact missing

/-- A selection for a relation fails just if one of the things that it looks up is not there, and
tells the first of them; so does a reconciliation. -/
theorem lookup_failures {reg : Registry} (all : ∀ e ∈ reg.entries, e.FromDeclaration) {r : Record}
    (fits : ∀ e, reg.ofType? r.type = some e → r.Fits e.schema) (relation : String) :
    (∀ err, reg.selectRelation r relation = .error err ↔ reg.CannotSelect r relation err) ∧
    ((∃ q, reg.selectRelation r relation = .ok q) ↔ ∀ err, ¬ reg.CannotSelect r relation err) ∧
    (∀ err, reg.reconcile r relation = .error err ↔ reg.CannotReconcile r relation err) ∧
    ((∃ p, reg.reconcile r relation = .ok p) ↔ ∀ err, ¬ reg.CannotReconcile r relation err) := by
  have declaration {e : Entity} {rel : Relation} (resolves : reg.Resolves r relation e rel) :
      e.FromDeclaration := all e (List.mem_of_find?_eq_some resolves.registered)
  have select (err : Error) :
      reg.selectRelation r relation = .error err ↔ reg.CannotSelect r relation err := by
    apply eq_error_iff_of_resolve
    · intro err' unresolved
      rw [selectRelation, unresolved]
      rfl
    · intro e rel resolves
      exact selectRelation_eq_error_iff (declaration resolves) (fits e resolves.registered)
        resolves all
  have reconcile (err : Error) :
      reg.reconcile r relation = .error err ↔ reg.CannotReconcile r relation err := by
    rw [reconcile_eq, map_eq_error_iff]
    apply eq_error_iff_of_resolve
    · intro err' unresolved
      rw [joinPlan, unresolved]
      rfl
    · intro e rel resolves
      exact joinPlan_eq_error_iff (declaration resolves) (fits e resolves.registered) resolves
  simp only [exists_eq_ok_iff, ne_eq, select, reconcile, implies_true, and_self]

end Registry

private def nodeParent : TypeExpr := .generic ["Option"] [.path ["Node"]]

/-- Nodes belong to a parent, by a foreign key that they do not have. -/
private def nodeStruct : Struct where
  name := "Node"
  form := .namedFields
    [⟨"id", .path ["String"], [.known .metadata (.given [.ident "pk"])]⟩,
      ⟨"parent", nodeParent, [.known .metadata (.given [.ident "belongs_to"])]⟩]

private def nodeBlueprint : Blueprint where
  name := "Node"
  ownHooks := false
  fields := [⟨"id", .path ["String"], "pk", .column "id"⟩,
    ⟨"parent", nodeParent, "belongs_to", .relation .one (.path ["Node"])⟩]

private def nodes : Entity where
  name := "node"
  storageName := "node"
  schema := nodeBlueprint.schema ⟨fun _ => ⟨.string, false⟩, fun _ => ⟨⟨1, "None"⟩, []⟩,
    fun _ => ⟨0, "Node"⟩⟩ 0
  keyColumns := ["id"]
  relations := [⟨"parent", "parent", .belongsTo "parent_id"⟩]

private theorem fromDeclaration_nodes : nodes.FromDeclaration := by
  have key : (Lexeme.ofString? "#[relmeta(pk)]").bind Attribute.listOf? =
    some [.known .metadata (.given [.ident "pk"])] := rfl
  have parent : (Lexeme.ofString? "#[relmeta(belongs_to)]").bind Attribute.listOf? =
    some [.known .metadata (.given [.ident "belongs_to"])] := rfl
  have bare (word : String) : (FieldAttributes.mk none [⟨word, none⟩]).IsPlain :=
    ⟨by simp, by simp⟩
  refine ⟨⟨some "node", nodes, id, rfl, rfl⟩, ?_, by decide⟩
  refine .intro (d := nodeStruct) _ _ rfl rfl ?_ (by simp [nodeBlueprint])
  intro f hf
  rcases List.mem_cons.1 hf with rfl | hf
  · refine ⟨Attribute.namesAreWords_of_text key, ?_⟩
    intro a ha
    obtain rfl := Except.ok.inj ha
    exact bare "pk"
  · obtain rfl := List.mem_singleton.1 hf
    refine ⟨Attribute.namesAreWords_of_text parent, ?_⟩
    intro a ha
    obtain rfl := Except.ok.inj ha
    exact bare "belongs_to"

/-- The parent of a node cannot be selected for want of the foreign key, and not be reconciled. -/
theorem lookup_failures_of_node :
    let reg : Registry := ⟨[nodes]⟩
    let node : Record := ⟨nodes.schema, [.scalar (.ofString "n"), .one none]⟩
    (∀ e ∈ reg.entries, e.FromDeclaration) ∧ node.Fits nodes.schema ∧
    reg.selectRelation node "parent" = .error (.shape (.noColumn "parent_id" "Node")) ∧
    reg.reconcile node "parent" = .error (.notReconcilable "parent" .belongsTo) ∧
    reg.selectRelation node "children" = .error (.relationNotFound "node" "children") := by
  intro reg node
  have all : ∀ e ∈ reg.entries, e.FromDeclaration := by
    intro e he
    obtain rfl := List.mem_singleton.1 he
    exact fromDeclaration_nodes
  have fits : node.Fits nodes.schema := ⟨rfl, rfl, trivial, trivial⟩
  have only : ∀ e, reg.ofType? node.type = some e → node.Fits e.schema := by
    intro e registered
    obtain rfl := List.mem_singleton.1 (List.mem_of_find?_eq_some registered)
    exact fits
  have targets : reg.Targets nodes ⟨"parent", "parent", .belongsTo "parent_id"⟩ := by
    rintro t ⟨x, declares, ht⟩
    have walk := declares.mem_walk
    rcases List.mem_cons.1 walk with rfl | walk
    · cases ht
    · obtain rfl := List.mem_singleton.1 walk
      obtain rfl := Option.some.inj ht
      exact ⟨nodes, rfl⟩
  obtain ⟨select, -, reconcile, -⟩ := Registry.lookup_failures all only "parent"
  obtain ⟨select', -⟩ := Registry.lookup_failures all only "children"
  refine ⟨all, fits, (select _).2 ?_, (reconcile _).2 ?_, (select' _).2 ?_⟩
  · exact .inr ⟨nodes, _, ⟨rfl, rfl⟩, .column targets rfl (by decide)⟩
  · exact .inr ⟨nodes, _, ⟨rfl, rfl⟩, .kind (by decide)⟩
  · exact .inl (.relation (e := nodes) rfl rfl)

end EntityMap
