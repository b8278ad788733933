import EntityMap.Proofs.Declaration.Declared
import EntityMap.Proofs.Declaration.WellFormed

/-!
# The parts of a record type agree on the indexes

What is worked out for a declaration has several parts: the field table, the indexes that each
accessor reaches, and the reading of rows. All of them count the declared fields in order. An
accessor reaches an index just if the entry there has what the accessor is for, and then it gives
access to every record of the type, and to no field else.
-/

namespace EntityMap.Declaration

variable {a : Accessor} {b : Blueprint} {p : PlannedField} {scope : Scope} {r : Record} {row : Row}
  {i : Nat} {arms : List Nat}

/-! ## Accessors -/

namespace Accessor

/-- The entry of a field table has what the accessor is for. -/
def Serves (a : Accessor) (x : Field) : Prop :=
  match a with
  | value | setValue => ∃ c, x.column = some c
  | embedded | setEmbedded => ∃ s, x.kind = .flatten s
  | handle => ∃ shape, x.kind.shape? = some shape
  | keys => x.kind.shape? = some .ids

/-- The accessor has something to answer for the field of the record at an index. -/
def Answers (a : Accessor) (r : Record) (i : Nat) : Prop :=
  match a with
  | value => ∃ v, r.value? i = some v
  | setValue => ∃ v after, r.set i v = .ok after
  | embedded | setEmbedded => ∃ e, r.embedded? i = some e
  | handle => ∃ h, r.handle? i = some h
  | keys => ∃ vs, r.ids? i = some vs

/-- An accessor reaches a field just if its entry has what the accessor is for. -/
theorem reaches_iff (scope : Scope) : a.reaches p.fieldClass = true ↔ a.Serves (p.field scope) := by
  cases a with
  | value | setValue => exact Option.isSome_iff_exists
  | embedded | setEmbedded =>
    simp only [reaches, Serves, PlannedField.field, PlannedField.kind]
    cases p.fieldClass with
    | relation shape t => cases shape <;> simp [FieldClass.isFlatten]
    | column c | skip | flatten => simp [FieldClass.isFlatten]
  | handle =>
    simp only [reaches, Serves, PlannedField.field, PlannedField.shape?_kind]
    cases p.fieldClass <;> simp [FieldClass.isRelation]
  | keys =>
    simp only [reaches, Serves, PlannedField.field, PlannedField.shape?_kind]
    cases p.fieldClass with
    | relation shape t => cases shape <;> simp [FieldClass.isIds]
    | column c | skip | flatten => simp [FieldClass.isIds]

section

variable {s : Schema} {x : Field} {slot : Slot} (fits : r.Fits s)
  (hc : r.cell? i = some (x, slot)) (isOpen : x.IsOpen)
include fits hc

/-- A field is embedded just if it is flattened. -/
private theorem exists_embedded?_iff :
    (∃ e, r.embedded? i = some e) ↔ ∃ t, x.kind = .flatten t := by
  have content := fits.slot hc
  simp only [Record.embedded?_eq_some_iff, hc, Option.some.injEq, Prod.mk.injEq]
  constructor
  · rintro ⟨e, f, t, ⟨rfl, -⟩, kind⟩
    exact ⟨t, kind⟩
  · rintro ⟨t, kind⟩
    rw [kind] at content
    cases slot with
    | embedded e => exact ⟨e, x, t, ⟨rfl, rfl⟩, kind⟩
    | _ => simp [Slot.Fits] at content

include isOpen

/-- An open field has a value just if it is stored. -/
private theorem exists_value?_iff : (∃ v, r.value? i = some v) ↔ ∃ c, x.column = some c := by
  have content := fits.slot hc
  simp only [Record.value?_eq_some_iff, hc, Option.some.injEq, Prod.mk.injEq]
  constructor
  · rintro ⟨v, name, c, tag, t, rfl, -⟩
    exact ⟨c, rfl⟩
  · rintro ⟨c, stored⟩
    obtain ⟨t, stores⟩ := isOpen.stored c stored
    obtain ⟨name, column, tag, kind, guarded⟩ := x
    obtain ⟨rfl, rfl, rfl⟩ := stores
    cases slot with
    | scalar v => exact ⟨v, name, c, tag, t, rfl, rfl⟩
    | _ => simp [Slot.Fits] at content

/-- An open field has a handle of a shape just if it is a relation field of the shape. -/
private theorem exists_handle?_iff {shape : Shape} :
    (∃ h, r.handle? i = some h ∧ h.shape = shape) ↔ x.kind.shape? = some shape := by
  have content := fits.slot hc
  simp only [Record.handle?_eq_some_iff, hc, Option.some.injEq, Prod.mk.injEq]
  constructor
  · rintro ⟨h, ⟨f, ⟨rfl, -⟩, kind, -⟩, rfl⟩
    rw [kind, Handle.shape?_kind]
  · intro related
    obtain ⟨accessible, h, kind, rfl⟩ := isOpen.related shape related
    rw [kind] at content
    obtain ⟨held, same, rfl⟩ := Record.exists_handle_of_fits content
    refine ⟨held, ⟨x, ⟨rfl, rfl⟩, kind.trans same.symm, accessible⟩, ?_⟩
    simpa using congrArg FieldKind.shape? same

end

/-- Some value can be set just where one is read. -/
private theorem exists_set_iff {s : Schema} (fits : r.Fits s) :
    (∃ v after, r.set i v = .ok after) ↔ ∃ v, r.value? i = some v := by
  simp only [Record.set_eq_ok_iff, Record.value?_eq_some_iff]
  constructor
  · rintro ⟨v, after, name, column, tag, t, old, hc, -⟩
    exact ⟨old, name, column, tag, t, hc⟩
  · rintro ⟨v, name, column, tag, t, hc⟩
    exact ⟨v, _, name, column, tag, t, v, hc, fits.slot hc, rfl⟩

/-- What answers at an index is a field there. -/
private theorem Answers.exists_cell? (h : a.Answers r i) : ∃ c, r.cell? i = some c := by
  cases a with
  | value =>
    obtain ⟨v, read⟩ := h
    obtain ⟨name, column, tag, t, hc⟩ := Record.value?_eq_some_iff.1 read
    exact ⟨_, hc⟩
  | setValue =>
    obtain ⟨v, after, done⟩ := h
    obtain ⟨name, column, tag, t, old, hc, -⟩ := Record.set_eq_ok_iff.1 done
    exact ⟨_, hc⟩
  | embedded | setEmbedded =>
    obtain ⟨e, inside⟩ := h
    obtain ⟨f, t, hc, -⟩ := Record.embedded?_eq_some_iff.1 inside
    exact ⟨_, hc⟩
  | handle =>
    obtain ⟨h, held⟩ := h
    obtain ⟨f, hc, -⟩ := Record.handle?_eq_some_iff.1 held
    exact ⟨_, hc⟩
  | keys =>
    obtain ⟨vs, found⟩ := h
    obtain ⟨element, held⟩ := Record.ids?_eq_some_iff.1 found
    obtain ⟨f, hc, -⟩ := Record.handle?_eq_some_iff.1 held
    exact ⟨_, hc⟩

/-- A record answers for an open field just if the field has what the accessor is for. -/
private theorem answers_iff_of_cell? {s : Schema} {x : Field} {slot : Slot} (fits : r.Fits s)
    (hc : r.cell? i = some (x, slot)) (isOpen : x.IsOpen) : a.Answers r i ↔ a.Serves x := by
  cases a with
  | value => exact exists_value?_iff fits hc isOpen
  | setValue => exact (exists_set_iff fits).trans (exists_value?_iff fits hc isOpen)
  | embedded | setEmbedded => exact exists_embedded?_iff fits hc
  | handle =>
    simp only [Answers, Serves, ← exists_handle?_iff fits hc isOpen]
    exact ⟨fun ⟨h, held⟩ => ⟨_, h, held, rfl⟩, fun ⟨_, h, held, _⟩ => ⟨h, held⟩⟩
  | keys =>
    simp only [Answers, Serves, ← exists_handle?_iff fits hc isOpen, Record.ids?_eq_some_iff]
    constructor
    · rintro ⟨vs, element, held⟩
      exact ⟨_, held, rfl⟩
    · rintro ⟨h, held, shape⟩
      cases h with
      | ids element vs => exact ⟨vs, element, held⟩
      | one target related | many target related => simp [Handle.shape] at shape

/-- A record of an open schema answers for the entries that have what the accessor is for. -/
theorem answers_iff {s : Schema} (fits : r.Fits s) (isOpen : ∀ x ∈ s.fields, x.IsOpen) :
    a.Answers r i ↔ ∃ x, s.fields[i]? = some x ∧ a.Serves x := by
  constructor
  · intro answers
    obtain ⟨⟨x, slot⟩, hc⟩ := answers.exists_cell?
    have hx : s.fields[i]? = some x := fits.schema_eq ▸ (Record.cell?_eq_some_iff.1 hc).1
    have entry := isOpen x (List.mem_of_getElem? hx)
    exact ⟨x, hx, (answers_iff_of_cell? fits hc entry).1 answers⟩
  · rintro ⟨x, hx, serves⟩
    obtain ⟨slot, hc, -⟩ := fits.exists_cell? hx
    have entry := isOpen x (List.mem_of_getElem? hx)
    exact (answers_iff_of_cell? fits hc entry).2 serves

end Accessor

namespace Blueprint

/-- An accessor reaches the fields of the classes that it is for. -/
theorem mem_reach_iff :
    i ∈ b.reach a ↔ ∃ p, b.fields[i]? = some p ∧ a.reaches p.fieldClass = true := by
  simp only [reach, List.mem_filterMap, Prod.exists, List.mem_zipIdx_iff_getElem?,
    Option.ite_none_right_eq_some, Option.some.injEq]
  constructor
  · rintro ⟨p, j, hp, reaches, rfl⟩
    exact ⟨p, hp, reaches⟩
  · rintro ⟨p, hp, reaches⟩
    exact ⟨p, i, hp, reaches, rfl⟩

/-- The indexes that an accessor reaches ascend. -/
theorem pairwise_reach (b : Blueprint) (a : Accessor) : (b.reach a).Pairwise (· < ·) := by
  have ascending : (b.fields.zipIdx.map Prod.snd).Pairwise (· < ·) := by
    rw [List.zipIdx_map_snd]
    exact List.pairwise_lt_range'
  rw [reach, List.pairwise_filterMap]
  refine (List.pairwise_map.1 ascending).imp ?_
  rintro ⟨p, i⟩ ⟨p', i'⟩ lt j hj j' hj'
  obtain ⟨-, here⟩ := Option.ite_none_right_eq_some.1 hj
  obtain ⟨-, there⟩ := Option.ite_none_right_eq_some.1 hj'
  obtain rfl := Option.some.inj here
  obtain rfl := Option.some.inj there
  exact lt

theorem accessor?_eq_some_iff :
    b.accessor? a = some arms ↔ b.reach a = arms ∧ (a.isConstant = true ∨ arms ≠ []) := by
  simp only [accessor?, Option.ite_none_right_eq_some, Bool.or_eq_true, Bool.not_eq_true',
    List.isEmpty_eq_false_iff, Option.some.injEq]
  constructor
  · rintro ⟨there, rfl⟩
    exact ⟨rfl, there⟩
  · rintro ⟨rfl, there⟩
    exact ⟨there, rfl⟩

end Blueprint

theorem Accessor.isConstant_iff : a.isConstant = true ↔ a = .value ∨ a = .setValue := by
  cases a <;> simp [isConstant]

/-! ## Reading rows -/

/-- The content that a field gets from a row. -/
inductive Filling.Fills (scope : Scope) (row : Row) (x : Field) : Filling → Slot → Prop
  | empty : Fills scope row x .empty x.initial
  | fromColumn {column : String} {type : TypeExpr} {v : Value} (read : row.value? column = some v)
    (admits : (scope.scalar type).admits v = true) :
    Fills scope row x (.fromColumn column type) (.scalar v)
  | fromRow {type : TypeExpr} {r : Record} (read : (scope.embedded type).fromRow row = .ok r) :
    Fills scope row x (.fromRow type) (.embedded r)

/-- A field that needs nothing of the row has its first content. -/
private theorem fromRow_of_empty {x : Field} {slot : Slot}
    (read : x.fromRow row = .ok x.initial) :
    x.fromRow row = .ok slot ↔ Filling.empty.Fills scope row x slot := by
  rw [read, Except.ok.injEq]
  constructor
  · rintro rfl
    exact .empty
  · intro fills
    cases fills
    rfl

/-- A planned field is read from a row as its filling says. -/
theorem PlannedField.fromRow_eq_ok_iff {slot : Slot} :
    (p.field scope).fromRow row = .ok slot ↔ p.filling.Fills scope row (p.field scope) slot := by
  obtain ⟨name, type, tag, fieldClass⟩ := p
  cases fieldClass with
  | column c =>
    rw [Field.fromRow_of_scalar_iff rfl rfl]
    constructor
    · rintro ⟨v, rfl, value, admits⟩
      exact .fromColumn value admits
    · intro fills
      cases fills with
      | fromColumn value admits => exact ⟨_, rfl, value, admits⟩
  | flatten =>
    rw [Field.fromRow_of_flatten_iff rfl]
    constructor
    · rintro ⟨e, rfl, read⟩
      exact .fromRow read
    · intro fills
      cases fills with
      | fromRow read => exact ⟨_, rfl, read⟩
  | skip => exact fromRow_of_empty rfl
  | relation shape t => cases shape <;> exact fromRow_of_empty rfl

/-! ## Declarations -/

/-- The parts of a record type agree with its field table. -/
structure Blueprint.Aligns (b : Blueprint) (scope : Scope) (s : Schema) : Prop where
  /-- Values can always be read and set; any other accessor is there if an entry needs it. -/
  present : ∀ a, (∃ arms, b.accessor? a = some arms) ↔
    a = .value ∨ a = .setValue ∨ ∃ x ∈ s.fields, a.Serves x
  /-- An accessor has one arm for each entry that has what it is for, in order. -/
  arms : ∀ a arms, b.accessor? a = some arms →
    arms.Pairwise (· < ·) ∧ ∀ i, i ∈ arms ↔ ∃ x, s.fields[i]? = some x ∧ a.Serves x
  /-- Each record answers at the arms of an accessor, and at no other index. -/
  answers : ∀ r : Record, r.Fits s → ∀ a i,
    a.Answers r i ↔ ∃ arms, b.accessor? a = some arms ∧ i ∈ arms
  /-- A record that is read from a row has one content for each field, in order. -/
  fromRow : ∀ row r, s.fromRow row = .ok r ↔ r.schema = s ∧
    List.Forall₂ (fun p slot => p.filling.Fills scope row (p.field scope) slot) b.fields r.slots

namespace Blueprint

/-- The entries that an accessor serves are those of the fields that it reaches. -/
theorem mem_reach_iff_serves {id : Nat} : i ∈ b.reach a ↔
    ∃ x, (b.schema scope id).fields[i]? = some x ∧ a.Serves x := by
  simp only [mem_reach_iff, schema, List.getElem?_map, Option.map_eq_some_iff,
    Accessor.reaches_iff scope]
  constructor
  · rintro ⟨p, hp, serves⟩
    exact ⟨_, ⟨p, hp, rfl⟩, serves⟩
  · rintro ⟨x, ⟨p, hp, rfl⟩, serves⟩
    exact ⟨p, hp, serves⟩

/-- An accessor reaches some field just if it serves some entry. -/
theorem reach_ne_nil_iff {id : Nat} :
    b.reach a ≠ [] ↔ ∃ x ∈ (b.schema scope id).fields, a.Serves x := by
  constructor
  · intro reached
    obtain ⟨i, hi⟩ := List.exists_mem_of_ne_nil _ reached
    obtain ⟨x, hx, serves⟩ := mem_reach_iff_serves.1 hi
    exact ⟨x, List.mem_of_getElem? hx, serves⟩
  · rintro ⟨x, mem, serves⟩
    obtain ⟨i, hx⟩ := List.getElem?_of_mem mem
    exact List.ne_nil_of_mem (mem_reach_iff_serves.2 ⟨x, hx, serves⟩)

/-- The parts of every record type agree with its field table. -/
theorem aligns_schema (b : Blueprint) (scope : Scope) (id : Nat) :
    b.Aligns scope (b.schema scope id) where
  present a := by
    simp only [accessor?_eq_some_iff, exists_eq_left', Accessor.isConstant_iff, or_assoc,
      ← reach_ne_nil_iff]
  arms a arms there := by
    obtain ⟨rfl, -⟩ := accessor?_eq_some_iff.1 there
    exact ⟨b.pairwise_reach a, fun i => mem_reach_iff_serves⟩
  answers r fits a i := by
    have isOpen : ∀ x ∈ (b.schema scope id).fields, x.IsOpen :=
      List.forall_mem_map.2 fun p _ => p.isOpen_field scope
    rw [Accessor.answers_iff fits isOpen, ← mem_reach_iff_serves]
    simp only [accessor?_eq_some_iff]
    constructor
    · intro reached
      exact ⟨_, ⟨rfl, .inr (List.ne_nil_of_mem reached)⟩, reached⟩
    · rintro ⟨_, ⟨rfl, -⟩, reached⟩
      exact reached
  fromRow row r := by
    rw [Schema.fromRow_eq_ok_iff, schema, List.forall₂_map_right_iff]
    simp only [PlannedField.fromRow_eq_ok_iff]
    exact and_congr_right fun _ => ⟨.flip, .flip⟩

end Blueprint

/-- A declaration is accepted just if it is well formed, and refused with a fault otherwise. An
accepted one has a field for each declared field, in order, of the class that its attributes and its
type settle; it has hooks of its own if its annotations hold the flag; and its accessors, and what
it reads from a row, agree with its field table. -/
theorem Struct.blueprint_cases (d : Struct) :
    (d.WellFormed ∧ ∃ b fields items, d.blueprint = .ok b ∧ d.form = .namedFields fields ∧
      List.Forall₂ (fun f p => ∃ a, f.PlannedAs a p) fields b.fields ∧
      ItemsGiven d.attributes items ∧ (b.ownHooks = true ↔ items ≠ []) ∧
      ∀ scope id, (b.schema scope id).type = ⟨id, d.name⟩ ∧
        (b.schema scope id).fields.map (·.name) = fields.map (·.name) ∧
        b.Aligns scope (b.schema scope id)) ∨
    (¬ d.WellFormed ∧ ∃ fault, d.blueprint = .error fault) := by
  by_cases wellFormed : d.WellFormed
  · obtain ⟨b, accepted⟩ := exists_blueprint_iff.2 wellFormed
    obtain ⟨-, fields, form, each, found, name⟩ := blueprint_eq_ok_iff.1 accepted
    obtain ⟨items, given, -, hooks⟩ := hasHooks_eq_ok_iff.1 found
    have planned : List.Forall₂ (fun f p => ∃ a, f.PlannedAs a p) fields b.fields :=
      each.imp fun f p => DeclaredField.plan_eq_ok_iff_plannedAs.1
    have names : fields.map (·.name) = b.fields.map (·.name) := by
      rw [← List.forall₂_eq_eq_eq, List.forall₂_map_left_iff, List.forall₂_map_right_iff]
      exact planned.imp fun f p ⟨a, same⟩ => same.name.symm
    refine .inl ⟨wellFormed, b, fields, items, accepted, form, planned, given, by simp [hooks],
      fun scope id => ⟨by simp [Blueprint.schema, name], ?_, b.aligns_schema scope id⟩⟩
    rw [names, Blueprint.schema, List.map_map]
    rfl
  · refine .inr ⟨wellFormed, ?_⟩
    cases refused : d.blueprint with
    | error fault => exact ⟨fault, rfl⟩
    | ok b => exact absurd (exists_blueprint_iff.1 ⟨b, refused⟩) wellFormed

/-- A shelf has a key, a place in the record of its room, a note that is not stored, and volumes with
the keys of their owners. -/
private def shelfStruct : Struct where
  name := "Shelf"
  form := .namedFields [
    ⟨"id", .path ["String"], [.known .metadata (.given [.ident "pk"])]⟩,
    ⟨"room", .path ["Room"], [.known .storage (.given [.ident "flatten"])]⟩,
    ⟨"note", .path ["String"], [.other, .known .storage (.given [.ident "skip"])]⟩,
    ⟨"volumes", .generic ["Vec"] [.path ["Volume"]],
      [.known .metadata (.given [.ident "has_many", .sign ','])]⟩,
    ⟨"owners", .generic ["std", "Vec"] [.path ["String"]],
      [.known .metadata (.given [.ident "belongs_to_many_ids"]), .known .storage (.given [.ident "skip"])]⟩,
    ⟨"place", .path ["String"], [.known .storage (.given [.string "spot"])]⟩]

example : (shelfStruct.blueprint.toOption.map fun b =>
      [Accessor.value, .setValue, .embedded, .setEmbedded, .handle, .keys].map b.accessor?) =
    some [some [0, 5], some [0, 5], some [1], some [1], some [3, 4], some [4]] :=
  rfl

end EntityMap.Declaration
