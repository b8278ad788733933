import EntityMap.Proofs.Execution.Calls
import EntityMap.Proofs.Statement.Related

/-!
# Which field a relation fills

A relation keeps the name of the field that declares it, and the field is looked up again when the
relation is used. It is found unless another field of its name is less deep, or as deep and declared
earlier: then the relation selects for that field, and loads into it. A field that declares a
relation without being a relation field is never filled.
-/

namespace EntityMap

open Sql

variable {σ : Type} {e : Entity} {reg : Registry} {catalog : Catalog} {r : Record}
  {relation : String} {rel : Relation} {x : Entry}

/-! ## Loading -/

/-- The record after is the record before but for the field of the entry, which holds the rows. -/
structure Record.LoadedAt (catalog : Catalog) (rows : List Row) (x : Entry) (r r' : Record) :
    Prop where
  content : ∃ held filled : Handle, r.leaf? x.locator = some (x.field, held.slot) ∧
    held.kind = x.field.kind ∧ held.fill catalog rows = .ok filled ∧
    r'.leaf? x.locator = some (x.field, filled.slot)
  others : ∀ m, m ≠ x.locator → r'.leaf? m = r.leaf? m

/-- A relation is loaded if it can be selected, the executor answers, and the rows can be read. -/
theorem Executor.exists_of_loadRelation {ex : Executor σ} {store : σ} {n : Nat}
    (h : (ex.loadRelation reg catalog r relation store).result = .ok n) :
    ∃ q l held rows filled, reg.selectRelationTarget r relation = .ok (q, l, held) ∧
      (ex.queryAll q store).1 = .ok rows ∧ held.fill catalog rows = .ok filled ∧ n = rows.length ∧
      (ex.loadRelation reg catalog r relation store).record = r.putHandle l filled := by
  cases target : reg.selectRelationTarget r relation with
  | error err => simp [loadRelation, target] at h
  | ok t =>
    obtain ⟨q, l, held⟩ := t
    obtain ⟨-, ⟨err, -, -, failed⟩ | ⟨rows, answer, ⟨err, -, -, failed⟩ |
      ⟨filled, filling, record, loaded⟩⟩⟩ := ex.loadRelation_cases target catalog store rfl
    · simp [failed] at h
    · simp [failed] at h
    · rw [loaded, Except.ok.injEq] at h
      exact ⟨q, l, held, rows, filled, rfl, answer, filling, h.symm, record⟩

/-! ## The field of a relation -/

/-- A relation of an entity leads to the field of the entry, and to no other. -/
structure Entity.Populates (e : Entity) (rel : Relation) (x : Entry) : Prop where
  /-- The field is the one that is found for the relation. -/
  entry : e.schema.relationEntry rel = .ok x
  /-- The handle of the relation is that of the field. -/
  handle : ∀ r : Record, r.Fits e.schema → ∃ h, e.handle? r rel.name = some h ∧
    r.leaf? x.locator = some (x.field, h.slot) ∧ h.kind = x.field.kind ∧ h.shape = rel.kind.shape
  /-- What is selected are rows of the type that the field holds, unless it lists keys. -/
  selects : ∀ (reg : Registry) (r : Record) (q : Query), r.schema = e.schema →
    reg.ofType? e.type = some e → reg.selectRelation r rel.name = .ok q → rel.kind.shape ≠ .ids →
    ∃ t target, x.field.kind.target? = some t ∧ reg.ofType? t = some target ∧
      q.SelectsRowsOf target
  /-- What is loaded is the content of the field, and every other field is as before. -/
  loads : ∀ {σ : Type} (ex : Executor σ) (reg : Registry) (catalog : Catalog) (r : Record)
    (store : σ) (n : Nat), r.Fits e.schema → reg.ofType? e.type = some e →
    (ex.loadRelation reg catalog r rel.name store).result = .ok n →
    ∃ q rows, reg.selectRelation r rel.name = .ok q ∧ (ex.queryAll q store).1 = .ok rows ∧
      n = rows.length ∧
      r.LoadedAt catalog rows x (ex.loadRelation reg catalog r rel.name store).record

/-- If the field of the entry is found for a relation, everything about the relation is about that
field. -/
theorem Entity.Populates.of_relationEntry (declared : e.schema.Declared) (hx : x ∈ e.schema.walk)
    (found : e.relation? rel.name = some rel) (entry : e.schema.relationEntry rel = .ok x) :
    e.Populates rel x := by
  obtain ⟨looked, shape⟩ := Schema.relationEntry_eq_ok_iff.1 entry
  obtain ⟨accessible, ⟨h₀, kind, -⟩, -⟩ := declared.relation_field hx shape
  have located (r : Record) (same : r.schema = e.schema) :
      e.handle? r rel.name = r.handleAt? x.locator := by
    simp [Entity.handle?, Entity.locateRelation?, found, same, Schema.locateField?, looked]
  refine ⟨entry, fun r fits => ?_, fun reg r q same registered selected listed => ?_,
    fun ex reg catalog r store n fits registered loaded => ?_⟩
  · obtain ⟨slot, leaf⟩ := fits.exists_leaf? hx
    obtain ⟨h, hh, held, rfl⟩ := fits.exists_handleAt? leaf kind accessible
    refine ⟨h, (located r fits.schema_eq).trans hh, leaf, held, ?_⟩
    have shapes := h.shape?_kind
    rw [held, shape, Option.some.injEq] at shapes
    exact shapes.symm
  · obtain ⟨e', rel', registered', found', selects⟩ := Registry.selectRelation_selects selected
    rw [Record.type, same] at registered'
    obtain rfl : e = e' := Option.some.inj (registered.symm.trans registered')
    obtain rfl : rel = rel' := Option.some.inj (found.symm.trans found')
    obtain ⟨target, related, rows⟩ := selects listed
    obtain ⟨y, t, hy, ht, registered''⟩ := Registry.relatedEntity_eq_ok_iff.1 related
    rw [same, entry, Except.ok.injEq] at hy
    subst hy
    exact ⟨t, target, ht, registered'', rows⟩
  · obtain ⟨q, l, held, rows, filled, target, answer, filling, count, record⟩ :=
      Executor.exists_of_loadRelation loaded
    obtain ⟨selected, e', rel', y, registered', found', hy, rfl, handle⟩ :=
      Registry.selectRelationTarget_eq_ok_iff.1 target
    rw [Record.type, fits.schema_eq] at registered'
    obtain rfl : e = e' := Option.some.inj (registered.symm.trans registered')
    obtain rfl : rel = rel' := Option.some.inj (found.symm.trans found')
    rw [fits.schema_eq, entry, Except.ok.injEq] at hy
    subst hy
    obtain ⟨f, leaf, same, -⟩ := Record.handleAt?_eq_some_iff.1 handle
    obtain ⟨slot, leaf'⟩ := fits.exists_leaf? hx
    obtain ⟨rfl, -⟩ : f = x.field ∧ held.slot = slot := by simpa [leaf] using leaf'
    refine ⟨q, rows, selected, answer, count, ?_⟩
    rw [record]
    exact ⟨⟨held, filled, leaf, same.symm, filling, Record.leaf?_putHandle_self leaf filled⟩,
      fun m ne => Record.leaf?_putHandle_of_ne leaf filled ne⟩

/-- Every relation of a parsed entity was read off some entry. It leads to the field of that entry
just if the field is a relation field and no field of its name precedes it. -/
theorem Entity.populates_declaring_field_iff (parsed : e.IsParsed) (declared : e.schema.Declared)
    (found : e.relation? relation = some rel) :
    (∃ x, e.DeclaresAt rel x) ∧ ∀ x, e.DeclaresAt rel x →
      (e.Populates rel x ↔ e.schema.Exposes x ∧ x.field.kind.shape?.isSome = true) := by
  obtain ⟨rfl, exists_declaring⟩ := parsed.exists_declaresAt found
  refine ⟨exists_declaring, fun x declares => ?_⟩
  constructor
  · intro populates
    obtain ⟨looked, shape⟩ := Schema.relationEntry_eq_ok_iff.1 populates.entry
    obtain ⟨-, -, exposed⟩ := Schema.fieldEntry?_eq_some_iff.1 looked
    rw [declares.field_eq] at exposed
    exact ⟨exposed, by simp [shape]⟩
  · rintro ⟨exposed, related⟩
    exact .of_relationEntry declared declares.mem_walk found
      (parsed.relationEntry_eq_ok declared declares exposed related)

private def relatedType : Declaration.TypeExpr → RecordType
  | .path ["Author"] => ⟨2, "Author"⟩
  | _ => ⟨3, "Label"⟩

private def strings (inner : Schema) : Declaration.Scope where
  scalar _ := ⟨.string, false⟩
  embedded _ := inner
  target := relatedType

/-- A list of related records that is declared under a name of its own. -/
private def listField (name target relation : String) : Declaration.DeclaredField where
  name := name
  type := .generic ["Vec"] [.path [target]]
  attributes := [.known .metadata (.given
    [.ident "has_many", .sign ',', .ident "relation_name", .sign '=', .string relation])]

private def listPlan (name target relation : String) : Declaration.PlannedField where
  name := name
  type := .generic ["Vec"] [.path [target]]
  tag := "has_many,relation_name=" ++ relation
  fieldClass := .relation .many (.path [target])

private def extras : Schema :=
  Declaration.Blueprint.schema (strings ⟨⟨9, "None"⟩, []⟩) 1
    ⟨"Extra", false, [listPlan "items" "Author" "authors"]⟩

/-- Volumes embed a record that lists authors as its items, and list labels under the given name. -/
private def volumeStruct (own : String) : Declaration.Struct where
  name := "Volume"
  form := .namedFields
    [⟨"id", .path ["String"], [.known .metadata (.given [.ident "pk"])]⟩,
      ⟨"extra", .path ["Extra"], [.known .storage (.given [.ident "flatten"])]⟩,
      listField own "Label" "labels"]

private def volumeBlueprint (own : String) : Declaration.Blueprint where
  name := "Volume"
  ownHooks := false
  fields := [⟨"id", .path ["String"], "pk", .column "id"⟩,
    ⟨"extra", .path ["Extra"], "", .flatten⟩, listPlan own "Label" "labels"]

private def authorsRelation : Relation := ⟨"authors", "items", .hasMany "volume_id"⟩

private def volumes (own : String) : Entity where
  name := "volume"
  storageName := "volume"
  schema := (volumeBlueprint own).schema (strings extras) 0
  keyColumns := ["id"]
  relations := [authorsRelation, ⟨"labels", own, .hasMany "volume_id"⟩]

private theorem declared_extras : extras.Declared :=
  .intro (d := ⟨"Extra", false, [], .namedFields [listField "items" "Author" "authors"]⟩) _ _ rfl
    (by simp [listPlan])

private theorem declared_volumes (own : String) : (volumes own).schema.Declared :=
  .intro (d := volumeStruct own) _ _ rfl fun _ _ _ => declared_extras

/-- The entry of the authors. -/
private def authorsEntry : Entry :=
  ⟨⟨[1, 0]⟩, (listPlan "items" "Author" "authors").field (strings ⟨⟨9, "None"⟩, []⟩)⟩

private theorem declaresAt_authors (own : String) :
    (volumes own).DeclaresAt authorsRelation authorsEntry := by
  refine ⟨"id", _, _, rfl, rfl, (Annotated.eq_some_iff_of_relation? rfl).1 rfl, ?_⟩
  intro y hy rel' declares
  obtain rfl := List.mem_singleton.1 hy
  have given : (Tag.ofString "has_many,relation_name=labels").get? "relation_name" =
    some "labels" := by decide
  have name : rel'.name = "labels" := by
    rw [declares.name]
    exact congrArg (fun found => found.getD (Text.snakeCase own)) given
  rw [name]
  decide

/-- Authors are loaded into the items of the embedded record if the labels have another name. -/
theorem populates_items_of_volume :
    (volumes "labels").relation? "authors" = some authorsRelation ∧
      (volumes "labels").Populates authorsRelation authorsEntry := by
  have parsed : (volumes "labels").IsParsed := ⟨some "volume", volumes "labels", id, rfl, rfl⟩
  have found : (volumes "labels").relation? "authors" = some authorsRelation := rfl
  refine ⟨found, ?_⟩
  have populates := (Entity.populates_declaring_field_iff parsed (declared_volumes _) found).2
    authorsEntry (declaresAt_authors _)
  exact populates.2 (by decide)

/-- Entities of nothing but a key. -/
private def keyed (type : RecordType) (name : String) : Entity where
  name := name
  storageName := name
  schema := ⟨type, [⟨"id", some "id", "pk", .scalar ⟨.string, false⟩, false⟩]⟩
  keyColumns := ["id"]

private def shelfLabels : Entity := keyed ⟨3, "Label"⟩ "label"

private def volume (items own : List Record) : Record :=
  ⟨(volumes "items").schema, [.scalar (.ofString "v"), .embedded ⟨extras, [.many items]⟩, .many own]⟩

/-- Answers every selection with one row. -/
private def answering : Executor Unit where
  execute _ _ := (.ok {}, ())
  queryAll _ _ := (.ok [⟨[("id", .ofString "x")]⟩], ())

/-- Where the labels are called items too, authors are selected from the labels and loaded in place
of them, and the field that declares them stays empty. -/
theorem authors_fill_labels :
    let reg : Registry := ⟨[volumes "items", keyed ⟨2, "Author"⟩ "author", shelfLabels]⟩
    (volumes "items").IsParsed ∧ (volumes "items").schema.Declared ∧
    (volumes "items").relation? "authors" = some authorsRelation ∧
    (volumes "items").DeclaresAt authorsRelation authorsEntry ∧
    authorsEntry.field.kind.target? = some ⟨2, "Author"⟩ ∧
    (volume [] []).Fits (volumes "items").schema ∧
    (volumes "items").locateRelation? (volume [] []) "authors" = some ⟨[2]⟩ ∧
    ¬ (volumes "items").Populates authorsRelation authorsEntry ∧
    reg.selectRelation (volume [] []) "authors" =
      .ok (.selectFrom "label" ["id"] [.eq "volume_id" (.ofString "v")]) ∧
    answering.loadRelation reg (fun _ => shelfLabels.schema) (volume [] []) "authors" () =
      ⟨volume [] [⟨shelfLabels.schema, [.scalar (.ofString "x")]⟩], (), .ok 1⟩ := by
  have parsed : (volumes "items").IsParsed := ⟨some "volume", volumes "items", id, rfl, rfl⟩
  refine ⟨parsed, declared_volumes _, rfl, declaresAt_authors _, rfl,
    ⟨rfl, rfl, ⟨rfl, trivial, trivial⟩, trivial, trivial⟩, rfl, fun populates => ?_, rfl, rfl⟩
  obtain ⟨looked, -⟩ := Schema.relationEntry_eq_ok_iff.1 populates.entry
  have place : (volumes "items").schema.locateField? "items" = some ⟨[1, 0]⟩ :=
    congrArg (fun looked : Option Entry => looked.map Entry.locator) looked
  exact absurd place (by decide)

end EntityMap
