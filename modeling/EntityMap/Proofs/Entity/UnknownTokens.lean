import EntityMap.Proofs.Declaration.Declared
import EntityMap.Proofs.Entity.Described
import EntityMap.Proofs.Registry.History

/-!
# Tokens that mean nothing

A token that is no relation kind and no option is a mistake, and the first one in the order of the
walk is reported. The walk leaves out the fields that embed records, so what is annotated there is
never looked at: `Registry.parse_refuses_unknown_tokens` says that a schema is refused for a token
just if some other field, embedded to whatever depth, has one.
-/

namespace EntityMap

/-! ## Mistyped annotations -/

/-- The token is a relation kind or an option. -/
def IsToken (key : String) : Prop := (∃ k : RelationKind, k.token = key) ∨ key ∈ optionTokens

theorem isKnownToken_iff {token : String} : isKnownToken token = true ↔ IsToken token := by
  simp only [isKnownToken, Bool.or_eq_true, RelationKind.ofToken?_isSome_iff,
    List.contains_iff_mem, IsToken]

instance (key : String) : Decidable (IsToken key) := decidable_of_iff _ isKnownToken_iff

namespace Field

/-- Some token of the annotations means nothing. -/
def IsMistyped (f : Field) : Prop := ∃ key ∈ (Tag.ofString f.tag).keys, ¬ IsToken key

instance (f : Field) : Decidable f.IsMistyped :=
  inferInstanceAs (Decidable (∃ key ∈ (Tag.ofString f.tag).keys, ¬ IsToken key))

/-- Of the tokens of the annotations this is the first that means nothing. -/
def FirstMistyped (f : Field) (token : String) : Prop :=
  ∃ known rest, (Tag.ofString f.tag).keys = known ++ token :: rest ∧ (∀ key ∈ known, IsToken key) ∧
    ¬ IsToken token

end Field

/-- The first token that means nothing stands in the field, which is the first to have one. -/
def Schema.FirstMistyped (s : Schema) (token field : String) : Prop :=
  ∃ earlier x later, s.walk = earlier ++ x :: later ∧ (∀ y ∈ earlier, ¬ y.field.IsMistyped) ∧
    x.field.FirstMistyped token ∧ x.field.name = field

namespace Entry

variable {x : Entry} {token : String}

theorem unknownToken?_eq_none_iff : x.annotated.unknownToken? = none ↔ ¬ x.field.IsMistyped := by
  simp only [Annotated.unknownToken?_eq_none_iff, Field.IsMistyped, not_exists, not_and, not_not]
  rfl

theorem unknownToken?_eq_some_iff :
    x.annotated.unknownToken? = some token ↔ x.field.FirstMistyped token := by
  simp only [Annotated.unknownToken?, List.find?_eq_some_iff_append, Bool.not_not,
    isKnownToken_iff, Bool.not_eq_true', ← Bool.not_eq_true, Field.FirstMistyped]
  constructor
  · rintro ⟨unknown, known, rest, keys, before⟩
    exact ⟨known, rest, keys, before, unknown⟩
  · rintro ⟨known, rest, keys, before, unknown⟩
    exact ⟨unknown, known, rest, keys, before⟩

end Entry

/-- The first pass over the annotations of a schema, in which tokens are looked up. -/
private def firstUnknown? (fields : List Annotated) : Option (String × String) :=
  fields.findSome? fun a => a.unknownToken?.map fun t => (t, a.field.name)

section

variable {s : Schema} {token field : String}

private theorem firstUnknown?_eq_some_iff :
    firstUnknown? (Annotated.ofSchema s) = some (token, field) ↔ s.FirstMistyped token field := by
  have walk : Annotated.ofSchema s = s.walk.map Entry.annotated := rfl
  rw [firstUnknown?, walk, List.findSome?_map, List.findSome?_eq_some_iff]
  simp only [Function.comp_apply, Option.map_eq_some_iff, Option.map_eq_none_iff,
    Entry.unknownToken?_eq_some_iff, Entry.unknownToken?_eq_none_iff, Prod.mk.injEq]
  constructor
  · rintro ⟨earlier, x, later, split, ⟨t, first, rfl, rfl⟩, before⟩
    exact ⟨earlier, x, later, split, before, first, rfl⟩
  · rintro ⟨earlier, x, later, split, before, first, rfl⟩
    exact ⟨earlier, x, later, split, ⟨token, first, rfl, rfl⟩, before⟩

private theorem exists_firstUnknown?_iff :
    (∃ token field, firstUnknown? (Annotated.ofSchema s) = some (token, field)) ↔
      ∃ x ∈ s.walk, x.field.IsMistyped := by
  have walk : Annotated.ofSchema s = s.walk.map Entry.annotated := rfl
  rw [← Prod.exists', ← Option.isSome_iff_exists, Option.isSome_iff_ne_none, Ne, firstUnknown?,
    List.findSome?_eq_none_iff]
  simp [walk, Entry.unknownToken?_eq_none_iff]

end

/-! ## Later passes -/

section

variable {token field entity primaryKey : String} {fields : List Annotated}

private theorem Keys.add_ne_unknownToken (k : Keys) (a : Annotated) :
    k.add a ≠ .error (.unknownToken token field) := by
  unfold Keys.add
  cases a.field.column with
  | none => simp
  | some column => grind

private theorem RelationSource.link_ne_unknownToken (s : RelationSource) (kind : RelationKind) :
    s.link kind ≠ .error (.unknownToken token field) := by
  have join (k : RelationKind) : s.join k ≠ .error (.unknownToken token field) := by
    unfold RelationSource.join
    grind
  cases kind with
  | belongsTo | hasMany | hasOne => simp [link]
  | belongsToMany | belongsToManyIds => simpa [link, map_eq_error_iff] using join _

private theorem Annotated.relation?_ne_unknownToken (a : Annotated) :
    a.relation? entity primaryKey ≠ .error (.unknownToken token field) := by
  unfold Annotated.relation?
  split
  · simp
  · simpa [map_eq_error_iff] using RelationSource.link_ne_unknownToken _ _
  · simp

/-- Only the first pass finds fault with a token. -/
private theorem ofAnnotations_eq_error_iff {start : Entity} :
    Entity.ofAnnotations start fields = .error (.unknownToken token field) ↔
      firstUnknown? fields = some (token, field) := by
  unfold Entity.ofAnnotations
  rw [← firstUnknown?]
  cases firstUnknown? fields with
  | some unknown => simp [Prod.ext_iff]
  | none =>
    simp only [reduceCtorEq, iff_false]
    cases collected : Keys.collect fields with
    | error fault =>
      obtain ⟨a, -, k, failed⟩ := exists_of_foldlM_eq_error collected
      rintro ⟨⟩
      exact k.add_ne_unknownToken a failed
    | ok keys =>
      simp only
      split
      · simp
      · intro failed
        obtain ⟨a, -, e, failed⟩ := exists_of_foldlM_eq_error failed
        exact a.relation?_ne_unknownToken (map_eq_error_iff.1 failed)

end

/-! ## What is annotated on embedded records -/

mutual

/-- The schema without the annotations of the fields that embed records, at whatever depth. -/
def Schema.unannotateEmbedded : Schema → Schema
  | ⟨type, fields⟩ => ⟨type, unannotateFields fields⟩

/-- The fields without the annotations of those that embed records. -/
def unannotateFields : List Field → List Field
  | [] => []
  | f :: rest => f.unannotateEmbedded :: unannotateFields rest

/-- The field without the annotations of the fields in it, or its own, that embed records. -/
def Field.unannotateEmbedded : Field → Field
  | ⟨name, column, tag, kind, guarded⟩ =>
    match kind with
    | .flatten inner => ⟨name, column, "", .flatten inner.unannotateEmbedded, guarded⟩
    | kind => ⟨name, column, tag, kind, guarded⟩

end

@[simp]
theorem Schema.type_unannotateEmbedded (s : Schema) : s.unannotateEmbedded.type = s.type := by
  cases s
  rfl

mutual

/-- The walk does not see what is annotated on fields that embed records. -/
theorem Schema.walk_unannotateEmbedded : (s : Schema) → s.unannotateEmbedded.walk = s.walk
  | ⟨_, fields⟩ => walkFields_unannotateFields 0 fields

theorem walkFields_unannotateFields (i : Nat) :
    (fields : List Field) → walkFields i (unannotateFields fields) = walkFields i fields
  | [] => rfl
  | f :: rest => by
    rw [unannotateFields, walkFields, walkFields, Field.walkAt_unannotateEmbedded i f,
      walkFields_unannotateFields (i + 1) rest]

theorem Field.walkAt_unannotateEmbedded (i : Nat) :
    (f : Field) → f.unannotateEmbedded.walkAt i = f.walkAt i
  | ⟨name, column, tag, .flatten inner, guarded⟩ => by
    simp only [Field.unannotateEmbedded, Field.walkAt, Schema.walk_unannotateEmbedded inner]
  | ⟨_, _, _, .scalar _, _⟩ | ⟨_, _, _, .one _, _⟩ | ⟨_, _, _, .many _, _⟩
  | ⟨_, _, _, .ids _, _⟩ => rfl

end

namespace Entity

/-- The entity with another schema. -/
def withSchema (t : Schema) (e : Entity) : Entity := { e with schema := t }

private theorem declare_withSchema (t : Schema) (primaryKey : String) (e : Entity) (a : Annotated) :
    declare primaryKey (e.withSchema t) a = (declare primaryKey e a).map (withSchema t) := by
  unfold declare
  change (a.relation? e.name primaryKey).map _ = _
  cases a.relation? e.name primaryKey with
  | error fault => rfl
  | ok found => cases found <;> rfl

private theorem foldlM_declare_withSchema (t : Schema) (primaryKey : String) (e : Entity)
    (fields : List Annotated) : fields.foldlM (declare primaryKey) (e.withSchema t) =
      (fields.foldlM (declare primaryKey) e).map (withSchema t) := by
  induction fields generalizing e with
  | nil => rfl
  | cons a rest ih =>
    rw [List.foldlM_cons, List.foldlM_cons, declare_withSchema, bind_of_map, map_of_bind]
    simp only [ih]

/-- What annotations say does not depend on the schema that the entity is to have. -/
private theorem ofAnnotations_withSchema (t : Schema) (start : Entity) (fields : List Annotated) :
    ofAnnotations (start.withSchema t) fields =
      (ofAnnotations start fields).map (withSchema t) := by
  unfold ofAnnotations
  rw [← firstUnknown?]
  cases firstUnknown? fields with
  | some unknown => rfl
  | none =>
    cases Keys.collect fields with
    | error fault => rfl
    | ok keys =>
      obtain ⟨columns, generated, version⟩ := keys
      cases columns with
      | nil => rfl
      | cons primaryKey rest =>
        let keyed := { start with keyColumns := primaryKey :: rest, keyGenerated := generated }
        exact foldlM_declare_withSchema t primaryKey (keyed.setVersionColumn version) fields

/-- Annotations of fields that embed records make no difference to the entity. -/
theorem ofSchema?_unannotateEmbedded (s : Schema) (name : Option String) :
    ofSchema? s.unannotateEmbedded name =
      (ofSchema? s name).map (withSchema s.unannotateEmbedded) := by
  have same : Annotated.ofSchema s.unannotateEmbedded = Annotated.ofSchema s := by
    rw [Annotated.ofSchema, s.walk_unannotateEmbedded, Annotated.ofSchema]
  have named : nameFor s.unannotateEmbedded name = nameFor s name := by
    rw [nameFor, nameFor, s.type_unannotateEmbedded]
  have start : Entity.ofSchema s.unannotateEmbedded (nameFor s name) =
      (Entity.ofSchema s (nameFor s name)).withSchema s.unannotateEmbedded := rfl
  rw [ofSchema?, ofSchema?, same, named, start, ofAnnotations_withSchema]
  cases ofAnnotations (.ofSchema s (nameFor s name)) (Annotated.ofSchema s) <;> rfl

end Entity

/-! ## Registration -/

/-- A schema is refused with the fault that its annotations have. -/
theorem Registry.parse_eq_error_iff {reg : Registry} {s : Schema} {name : Option String}
    {entity : String} {fault : MetadataFault} : reg.parse s name = .error (.metadata entity fault) ↔
      Entity.nameFor s name = entity ∧
        Entity.ofAnnotations (.ofSchema s entity) (Annotated.ofSchema s) = .error fault := by
  rw [Registry.parse, map_eq_error_iff, Entity.ofSchema?]
  constructor
  · intro failed
    cases read : Entity.ofAnnotations (.ofSchema s (Entity.nameFor s name))
        (Annotated.ofSchema s) with
    | ok e => simp [read, Except.mapError] at failed
    | error found =>
      simp only [read, Except.mapError, Except.error.injEq, Error.metadata.injEq] at failed
      obtain ⟨rfl, rfl⟩ := failed
      exact ⟨rfl, read⟩
  · rintro ⟨rfl, failed⟩
    rw [failed]
    rfl

/-- A schema is refused for a token just if some field of it, or of a record that it embeds to
whatever depth, carries one that means nothing and embeds no record itself. The first such token is
reported, in the order of the walk, and the registry stays as it was. What is annotated on fields
that embed records makes no difference to what is read. -/
theorem Registry.parse_refuses_unknown_tokens (reg : Registry) (s : Schema) (name : Option String) :
    ((∃ token field, reg.parse s name =
        .error (.metadata (Entity.nameFor s name) (.unknownToken token field))) ↔
      ∃ l f, s.fieldAt? l = some f ∧ (∀ inner, f.kind ≠ .flatten inner) ∧ f.IsMistyped) ∧
    (∀ token field, reg.parse s name =
        .error (.metadata (Entity.nameFor s name) (.unknownToken token field)) ↔
      s.FirstMistyped token field) ∧
    (∀ err, reg.parse s name = .error err → (Change.parse s name).apply reg = reg) ∧
    Entity.ofSchema? s.unannotateEmbedded name =
      (Entity.ofSchema? s name).map (Entity.withSchema s.unannotateEmbedded) := by
  have refused (token field : String) : reg.parse s name =
      .error (.metadata (Entity.nameFor s name) (.unknownToken token field)) ↔
        firstUnknown? (Annotated.ofSchema s) = some (token, field) := by
    rw [Registry.parse_eq_error_iff, ofAnnotations_eq_error_iff, and_iff_right rfl]
  refine ⟨?_, fun token field => (refused token field).trans firstUnknown?_eq_some_iff, ?_,
    Entity.ofSchema?_unannotateEmbedded s name⟩
  · simp only [refused, exists_firstUnknown?_iff]
    constructor
    · rintro ⟨x, hx, mistyped⟩
      obtain ⟨found, plain⟩ := Schema.mem_walk_iff_fieldAt?.1 hx
      exact ⟨x.locator, x.field, found, plain, mistyped⟩
    · rintro ⟨l, f, found, plain, mistyped⟩
      exact ⟨⟨l, f⟩, Schema.mem_walk_iff_fieldAt?.2 ⟨found, plain⟩, mistyped⟩
  · intro err failed
    rw [Change.apply, failed]

/-- Stamps have a note. -/
private def stampBlueprint : Declaration.Blueprint :=
  ⟨"Stamp", false, [⟨"note", .path ["String"], "", .column "note"⟩]⟩

private def envelopeScope (inner : Schema) : Declaration.Scope where
  scalar _ := ⟨.string, false⟩
  embedded _ := inner
  target _ := ⟨9, "None"⟩

private def stamps : Schema := stampBlueprint.schema (envelopeScope ⟨⟨9, "None"⟩, []⟩) 1

/-- Envelopes embed a stamp, which is annotated with a token that means nothing. -/
private def envelopeStruct : Declaration.Struct where
  name := "Envelope"
  form := .namedFields
    [⟨"id", .path ["String"], [.known .metadata (.given [.ident "pk"])]⟩,
      ⟨"stamp", .path ["Stamp"], [.known .storage (.given [.ident "flatten"]),
        .known .metadata (.given [.ident "primary"])]⟩]

private def envelopeBlueprint : Declaration.Blueprint where
  name := "Envelope"
  ownHooks := false
  fields := [⟨"id", .path ["String"], "pk", .column "id"⟩,
    ⟨"stamp", .path ["Stamp"], "primary", .flatten⟩]

private def envelopes : Schema := envelopeBlueprint.schema (envelopeScope stamps) 0

private theorem declared_stamps : stamps.Declared :=
  .intro (d := ⟨"Stamp", false, [], .namedFields [⟨"note", .path ["String"], []⟩]⟩) _ _ rfl
    (by simp [stampBlueprint])

private theorem declared_envelopes : envelopes.Declared :=
  .intro (d := envelopeStruct) _ _ rfl fun _ _ _ => declared_stamps

/-- A token that means nothing is not refused on a field that embeds a record. -/
theorem parse_misses_token_of_stamp :
    envelopes.Declared ∧ (∃ f, envelopes.fieldAt? ⟨[1]⟩ = some f ∧ f.IsMistyped) ∧
    ∀ (reg : Registry) (name : Option String), ∃ e,
      reg.parse envelopes name = .ok (reg.register e, e) := by
  refine ⟨declared_envelopes, ⟨_, rfl, ?_⟩, fun reg name => ⟨_, rfl⟩⟩
  decide

end EntityMap
