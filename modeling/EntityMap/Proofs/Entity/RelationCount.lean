import EntityMap.Proofs.Declaration.Declared
import EntityMap.Proofs.Entity.Described
import Mathlib.Data.List.Dedup

/-!
# How many relations an entity has

Each field with the annotation of a relation kind declares a relation, and of the relations that are
declared under one name an entity keeps the last. So it has as many relations as its fields give
names, and one for each field just if no two fields give one name.
-/

namespace EntityMap

/-! ## The fields that declare relations -/

namespace Annotated

/-- The field has the annotation of a relation kind. -/
def isRelation (a : Annotated) : Bool := RelationKind.all.any (a.tag.has ·.token)

/-- The name under which the field declares a relation. -/
def relationName (a : Annotated) : String :=
  (a.tag.get? "relation_name").getD (Text.snakeCase a.field.name)

variable {entity primaryKey : String} {a : Annotated} {r : Relation} {fields : List Annotated}

theorem isRelation_iff : a.isRelation = true ↔ ∃ k : RelationKind, a.tag.has k.token = true := by
  simp [isRelation, RelationKind.mem_all]

theorem Declares.isRelation (h : a.Declares entity primaryKey r) : a.isRelation = true :=
  isRelation_iff.2 ⟨r.kind, h.kind⟩

theorem Declares.name_eq (h : a.Declares entity primaryKey r) : r.name = a.relationName := h.name

/-- A consistent field with the annotation of a kind declares one relation. -/
theorem Consistent.exists_declares (h : a.Consistent entity) (primaryKey : String)
    (related : a.isRelation = true) :
    ∃ r, ∀ r', a.Declares entity primaryKey r' ↔ r' = r := by
  obtain ⟨r, read⟩ : ∃ r, a.relation? entity primaryKey = .ok (some r) :=
    (exists_some_relation?_iff h).2 (isRelation_iff.1 related)
  refine ⟨r, fun r' => ?_⟩
  rw [← eq_some_iff_of_relation? read, Option.some.injEq, eq_comm]

/-- Of the relations of one name one is declared last. -/
theorem exists_declaredLast {name : String}
    (h : ∃ a ∈ fields, ∃ r, a.Declares entity primaryKey r ∧ r.name = name) :
    ∃ r, r.name = name ∧ DeclaredLast entity primaryKey fields r := by
  induction fields with
  | nil => simp at h
  | cons a rest ih =>
    by_cases later : ∃ b ∈ rest, ∃ r, b.Declares entity primaryKey r ∧ r.name = name
    · obtain ⟨r, named, last⟩ := ih later
      exact ⟨r, named, declaredLast_cons.2 (.inl last)⟩
    · obtain ⟨b, hb, r, declares, rfl⟩ := h
      rcases List.mem_cons.1 hb with rfl | hb
      · refine ⟨r, rfl, declaredLast_cons.2 (.inr ⟨declares, fun c hc r' declares' same => ?_⟩)⟩
        exact later ⟨c, hc, r', declares', same⟩
      · exact absurd ⟨b, hb, r, declares, rfl⟩ later

/-- Where no two fields give one name, every relation is declared last. -/
theorem declaredLast_of_nodup
    (nodup : ((fields.filter (·.isRelation)).map (·.relationName)).Nodup) (mem : a ∈ fields)
    (declares : a.Declares entity primaryKey r) : DeclaredLast entity primaryKey fields r := by
  obtain ⟨earlier, later, rfl⟩ := List.append_of_mem mem
  refine ⟨earlier, a, later, rfl, declares, fun b hb r' declares' same => ?_⟩
  rw [List.filter_append, List.filter_cons_of_pos declares.isRelation, List.map_append,
    List.map_cons] at nodup
  have apart := (List.nodup_cons.1 (List.nodup_append.1 nodup).2.1).1
  refine apart (List.mem_map.2 ⟨b, List.mem_filter.2 ⟨hb, declares'.isRelation⟩, ?_⟩)
  rw [← declares'.name_eq, ← declares.name_eq, same]

end Annotated

/-- The fields of a schema, embedded ones included, that have the annotation of a relation kind. -/
def Schema.relationFields (s : Schema) : List Annotated :=
  (Annotated.ofSchema s).filter (·.isRelation)

/-! ## The relations of an entity -/

/-- The relations of an entity are those that are declared last. -/
theorem Entity.IsDescribedBy.mem_relations_iff {e : Entity} {entity primaryKey : String}
    {s : Schema} (h : e.IsDescribedBy entity s) (key : e.keyColumns.head? = some primaryKey)
    {r : Relation} :
    r ∈ e.relations ↔ DeclaredLast entity primaryKey (Annotated.ofSchema s) r := by
  have found := h.relation r.name r
  rw [Entity.relation?_eq_some_iff h.relations] at found
  simpa [key] using found

section

variable {s : Schema} {name : Option String} {e : Entity}

theorem exists_head?_of_ofSchema? (h : Entity.ofSchema? s name = .ok e) :
    ∃ primaryKey, e.keyColumns.head? = some primaryKey := by
  obtain ⟨primaryKey, rest, columns⟩ :=
    List.exists_cons_of_ne_nil (keyColumns_ne_nil_of_ofSchema? h)
  exact ⟨primaryKey, by rw [columns, List.head?_cons]⟩

/-- The names of the relations are those that the fields give. -/
theorem mem_names_of_ofSchema? (h : Entity.ofSchema? s name = .ok e) {n : String} :
    n ∈ e.relations.map (·.name) ↔ n ∈ s.relationFields.map (·.relationName) := by
  obtain ⟨annotated, described⟩ := isDescribedBy_of_ofSchema? h
  obtain ⟨primaryKey, key⟩ := exists_head?_of_ofSchema? h
  simp only [List.mem_map, described.mem_relations_iff key]
  constructor
  · rintro ⟨r, ⟨earlier, a, later, split, declares, -⟩, rfl⟩
    have mem : a ∈ Annotated.ofSchema s := by simp [split]
    exact ⟨a, List.mem_filter.2 ⟨mem, declares.isRelation⟩, declares.name_eq.symm⟩
  · rintro ⟨a, ha, rfl⟩
    obtain ⟨mem, related⟩ := List.mem_filter.1 ha
    obtain ⟨r, declares⟩ := (annotated.relations a mem).exists_declares primaryKey related
    have declared := (declares r).2 rfl
    obtain ⟨last, named, hl⟩ :=
      Annotated.exists_declaredLast ⟨a, mem, r, declared, declared.name_eq⟩
    exact ⟨last, hl, named⟩

/-- There are as many relations as names. -/
theorem length_relations_of_ofSchema? (h : Entity.ofSchema? s name = .ok e) :
    e.relations.length = (s.relationFields.map (·.relationName)).dedup.length := by
  obtain ⟨-, described⟩ := isDescribedBy_of_ofSchema? h
  have same : (e.relations.map (·.name)).Perm (s.relationFields.map (·.relationName)).dedup :=
    (List.perm_ext_iff_of_nodup described.relations (List.nodup_dedup _)).2 fun n => by
      rw [List.mem_dedup, mem_names_of_ofSchema? h]
  rw [← same.length_eq, List.length_map]

end

/-- The entity that a registration answers with is found by its type and by its name. It has as many
relations as its fields, embedded ones included, give names, so one for each field that has the
annotation of a kind just if no two of them give one name. Each of these fields declares a relation,
which is found under its name just if it is the last that is declared under it. -/
theorem Registry.relations_of_parse {reg reg' : Registry} {s : Schema} {name : Option String}
    {e : Entity} (h : reg.parse s name = .ok (reg', e)) :
    reg'.ofType? s.type = some e ∧ reg'.named? (Entity.nameFor s name) = some e ∧
    e.relations.length = (s.relationFields.map (·.relationName)).dedup.length ∧
    (e.relations.length = s.relationFields.length ↔
      (s.relationFields.map (·.relationName)).Nodup) ∧
    ∃ primaryKey, e.keyColumns.head? = some primaryKey ∧ ∀ a ∈ s.relationFields,
      ∃ r, (∀ r', a.Declares e.name primaryKey r' ↔ r' = r) ∧
        (e.relation? a.relationName = some r ↔
          DeclaredLast e.name primaryKey (Annotated.ofSchema s) r) ∧
        ((s.relationFields.map (·.relationName)).Nodup → e.relation? a.relationName = some r) := by
  obtain ⟨e', read, same⟩ := map_eq_ok_iff.1 h
  obtain ⟨rfl, rfl⟩ := Prod.mk.inj same
  obtain ⟨annotated, described⟩ := isDescribedBy_of_ofSchema? read
  obtain ⟨primaryKey, key⟩ := exists_head?_of_ofSchema? read
  have count := length_relations_of_ofSchema? read
  have type : e'.type = s.type := congrArg Schema.type described.schema
  refine ⟨?_, ?_, count, ?_, primaryKey, key, ?_⟩
  · rw [← type, Registry.ofType?_register_self]
  · rw [← described.name, Registry.named?_register_self]
  · have fewer := List.dedup_sublist (s.relationFields.map (·.relationName))
    rw [count, ← List.dedup_eq_self, ← fewer.length_eq, List.length_map]
  · intro a ha
    obtain ⟨mem, related⟩ := List.mem_filter.1 ha
    rw [← described.name] at annotated
    obtain ⟨r, declares⟩ := (annotated.relations a mem).exists_declares primaryKey related
    have declared := (declares r).2 rfl
    have found : e'.relation? a.relationName = some r ↔
        DeclaredLast e'.name primaryKey (Annotated.ofSchema s) r := by
      rw [described.relation, described.name, key]
      simp [declared.name_eq]
    refine ⟨r, declares, found, fun nodup => found.2 ?_⟩
    exact Annotated.declaredLast_of_nodup nodup mem declared

/-! ## Two lists of one record type -/

/-- A list of related records, with the name of its relation given. -/
private def namedList (field target relation : String) : Declaration.DeclaredField where
  name := field
  type := .generic ["Vec"] [.path [target]]
  attributes := [.known .metadata (.given
    [.ident "has_many", .sign ',', .ident "relation_name", .sign '=', .string relation])]

/-- Museums have paintings as their items, and statues under the given name. -/
private def museumStruct (statues : String) : Declaration.Struct where
  name := "Museum"
  form := .namedFields
    [⟨"id", .path ["String"], [.known .metadata (.given [.ident "pk"])]⟩,
      namedList "paintings" "Painting" "items", namedList "statues" "Statue" statues]

private def museumBlueprint (statues : String) : Declaration.Blueprint where
  name := "Museum"
  ownHooks := false
  fields := [⟨"id", .path ["String"], "pk", .column "id"⟩,
    ⟨"paintings", .generic ["Vec"] [.path ["Painting"]], "has_many,relation_name=items",
      .relation .many (.path ["Painting"])⟩,
    ⟨"statues", .generic ["Vec"] [.path ["Statue"]], "has_many,relation_name=" ++ statues,
      .relation .many (.path ["Statue"])⟩]

private def museumScope : Declaration.Scope where
  scalar _ := ⟨.string, false⟩
  embedded _ := ⟨⟨9, "None"⟩, []⟩
  target := fun
    | .path ["Painting"] => ⟨1, "Painting"⟩
    | _ => ⟨2, "Statue"⟩

private def museums (statues : String) : Schema := (museumBlueprint statues).schema museumScope 0

private theorem declared_museums (statues : String) : (museums statues).Declared :=
  .intro (d := museumStruct statues) _ _ rfl (by simp [museumBlueprint])

private def paintingsRelation : Relation := ⟨"items", "paintings", .hasMany "museum_id"⟩

private def statuesRelation (name : String) : Relation := ⟨name, "statues", .hasMany "museum_id"⟩

private def museum (statues : String) (relations : List Relation) : Entity where
  name := "museum"
  storageName := "museum"
  schema := museums statues
  keyColumns := ["id"]
  relations := relations

private theorem nameFor_museums (statues : String) :
    Entity.nameFor (museums statues) none = "museum" := by
  have declared : (museums statues).type.name = "Museum" := rfl
  rw [Entity.nameFor, Option.getD_none, declared]
  decide +kernel

/-- Of two lists with names of their own each gives a relation. -/
theorem relations_of_museum :
    let e := museum "statues" [paintingsRelation, statuesRelation "statues"]
    ({} : Registry).parse (museums "statues") none = .ok (⟨[e]⟩, e) ∧
    (museums "statues").relationFields.length = 2 ∧ e.relations.length = 2 := by
  intro e
  have parsed : ({} : Registry).parse (museums "statues") none = .ok (⟨[e]⟩, e) := by
    rw [Registry.parse, Entity.ofSchema?, nameFor_museums]
    rfl
  have names : (museums "statues").relationFields.map (·.relationName) = ["items", "statues"] := rfl
  have declared : (museums "statues").relationFields.length = 2 := rfl
  obtain ⟨-, -, -, count, -⟩ := Registry.relations_of_parse parsed
  have same := count.2 (by rw [names]; decide)
  exact ⟨parsed, declared, same.trans declared⟩

/-- Of two lists with one name only the second gives a relation; the relation of the first is lost,
and nothing is refused. -/
theorem museum_loses_paintings :
    let e := museum "items" [statuesRelation "items"]
    (museums "items").Declared ∧
    ({} : Registry).parse (museums "items") none = .ok (⟨[e]⟩, e) ∧
    (museums "items").relationFields.length = 2 ∧ e.relations.length = 1 ∧
    (∃ a ∈ (museums "items").relationFields, a.Declares "museum" "id" paintingsRelation) ∧
    ∀ name, e.relation? name ≠ some paintingsRelation := by
  refine ⟨declared_museums _, ?_, rfl, rfl, ?_, ?_⟩
  · rw [Registry.parse, Entity.ofSchema?, nameFor_museums]
    rfl
  · refine ⟨_, List.mem_cons_self, ?_⟩
    exact (Annotated.eq_some_iff_of_relation? rfl).1 rfl
  · intro name found
    have only := List.mem_singleton.1 (List.mem_of_find?_eq_some found)
    exact absurd only (by decide)

end EntityMap
