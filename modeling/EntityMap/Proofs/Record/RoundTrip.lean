import EntityMap.Proofs.Record.Fields

/-!
# Records that are stored and read again

Of a record only the stored fields survive: `Record.stored` is what is left of it. A row that
carries the columns of the record, whatever else it has and in whatever order, is read as just that.
-/

namespace EntityMap

/-! ## What is stored of a record -/

mutual

/-- The record with every field that is not stored as it is at first. -/
def Record.stored : Record → Record
  | ⟨schema, slots⟩ => ⟨schema, storedSlots slots schema.fields⟩

/-- What is stored of each field. -/
def storedSlots : List Slot → List Field → List Slot
  | slot :: slots, f :: fields => slot.stored f :: storedSlots slots fields
  | _, _ => []

/-- What is stored of a field: the value of a column, or what is stored of an embedded record. -/
def Slot.stored : Slot → Field → Slot
  | .scalar v, f => if f.column.isSome then .scalar v else f.initial
  | .embedded r, _ => .embedded r.stored
  | _, f => f.initial

end

@[simp] theorem Record.schema_stored (r : Record) : r.stored.schema = r.schema := by
  cases r
  rfl

theorem Record.slots_stored (r : Record) :
    r.stored.slots = storedSlots r.slots r.schema.fields := by
  cases r
  rfl

/-! ## Rows that carry columns -/

namespace Row

/-- The first name is the second, or qualifies it. -/
def Names (name column : String) : Prop :=
  name = column ∨ ∃ qualifier, name = qualifier ++ "." ++ column

/-- The second name is the part of the first that stands after its last point. -/
def Qualifies (name column : String) : Prop :=
  '.' ∉ column.toList ∧ ∃ qualifier, name = qualifier ++ "." ++ column

/-- The row has each of the columns, under its own or a qualified name, and whatever it has under
such a name is the value of the column. The order of the row and its other names do not matter. -/
structure Carries (row : Row) (columns : List (String × Value)) : Prop where
  present : ∀ p ∈ columns, ∃ cell ∈ row.cells, Names cell.1 p.1
  value : ∀ p ∈ columns, ∀ cell ∈ row.cells, Names cell.1 p.1 → cell.2 = p.2

variable {row : Row} {name column : String} {v : Value} {columns : List (String × Value)}

theorem lastPart?_eq_some_iff : lastPart? name = some column ↔ Qualifies name column := by
  unfold lastPart? Qualifies
  simp only [Option.map_eq_some_iff, Prod.exists, Text.cutAt_eq_some_iff]
  constructor
  · rintro ⟨last, before, ⟨plain, split⟩, rfl⟩
    refine ⟨by simpa using plain, String.ofList before.reverse, String.toList_injective ?_⟩
    have forward := congrArg List.reverse split
    simpa using forward
  · rintro ⟨plain, qualifier, rfl⟩
    exact ⟨column.toList.reverse, qualifier.toList.reverse, by simpa using plain, by simp⟩

instance : Decidable (Qualifies name column) := decidable_of_iff _ lastPart?_eq_some_iff

/-- A column answers to its own name, and to the name that it qualifies. -/
theorem answersTo_eq_true_iff :
    answersTo name column = true ↔ name = column ∨ Qualifies name column := by
  simp [answersTo, lastPart?_eq_some_iff]

/-- A column without points is the last part of the names that it qualifies, and of no others. -/
theorem answersTo_iff (plain : '.' ∉ column.toList) :
    answersTo name column = true ↔ Names name column := by
  simp [answersTo_eq_true_iff, Qualifies, Names, plain]

/-- That a row carries columns without points can be told from the columns that answer to them. -/
theorem carries_iff (plain : ∀ p ∈ columns, '.' ∉ p.1.toList) : row.Carries columns ↔
    ∀ p ∈ columns, (∃ cell ∈ row.cells, answersTo cell.1 p.1 = true) ∧
      ∀ cell ∈ row.cells, answersTo cell.1 p.1 = true → cell.2 = p.2 := by
  constructor
  · intro h p hp
    simp only [answersTo_iff (plain p hp)]
    exact ⟨h.present p hp, h.value p hp⟩
  · intro h
    refine ⟨fun p hp => ?_, fun p hp => ?_⟩
    · simpa only [answersTo_iff (plain p hp)] using (h p hp).1
    · simpa only [answersTo_iff (plain p hp)] using (h p hp).2

/-- A carried column is read with its value. -/
theorem Carries.value?_eq (h : row.Carries columns) (plain : '.' ∉ column.toList)
    (mem : (column, v) ∈ columns) : row.value? column = some v := by
  obtain ⟨cell, hc, named⟩ := h.present _ mem
  have found : (row.cells.find? fun c => answersTo c.1 column).isSome = true :=
    List.find?_isSome.2 ⟨cell, hc, (answersTo_iff plain).2 named⟩
  obtain ⟨first, hf⟩ := Option.isSome_iff_exists.1 found
  have answers : answersTo first.1 column = true := by simpa using List.find?_some hf
  rw [value?, hf, Option.map_some,
    h.value _ mem first (List.mem_of_find?_eq_some hf) ((answersTo_iff plain).1 answers)]

end Row

/-! ## Reading what was stored -/

section Read

variable {row : Row} {s : Schema} {r : Record} {f : Field} {slot : Slot}

/-- A field that embeds nothing is read as it was stored. -/
private theorem Field.fromRow_eq_stored (plain : ∀ t, f.kind ≠ .flatten t)
    (fits : slot.Fits f.kind)
    (carried : ∀ c, f.column = some c → ∃ t v, f.kind = .scalar t ∧ slot = .scalar v ∧
      row.value? c = some v) :
    f.fromRow row = .ok (slot.stored f) := by
  obtain ⟨name, column, tag, kind, guarded⟩ := f
  cases column with
  | some c =>
    obtain ⟨t, v, rfl, rfl, value⟩ := carried c rfl
    have admits : t.admits v = true := fits
    exact (fromRow_of_scalar_iff rfl rfl).2 ⟨v, rfl, value, admits⟩
  | none =>
    cases kind with
    | flatten t => exact absurd rfl (plain t)
    | _ => cases slot <;> simp_all [Slot.Fits, Field.fromRow, Slot.stored, Field.initial]

private theorem forall₂_storedSlots {slots : List Slot} {fields : List Field}
    (length : slots.length = fields.length)
    (each : ∀ (i : Nat) slot f, slots[i]? = some slot → fields[i]? = some f →
      Field.fromRow row f = .ok (slot.stored f)) :
    List.Forall₂ (fun slot f => Field.fromRow row f = .ok slot) (storedSlots slots fields)
      fields := by
  induction slots generalizing fields with
  | nil =>
    obtain rfl := List.eq_nil_of_length_eq_zero length.symm
    exact .nil
  | cons slot slots ih =>
    cases fields with
    | nil => simp at length
    | cons f fields =>
      refine .cons (each 0 slot f rfl rfl) (ih (Nat.succ.inj length) ?_)
      exact fun i slot f hs hf => each (i + 1) slot f hs hf

/-- A record that fits is read as it was stored, from every row that has the values of its
columns. -/
theorem Schema.fromRow_eq_stored {s : Schema} {r : Record} (derived : s.Derived) (fits : r.Fits s)
    (carried : ∀ x ∈ s.walk, ∀ c, x.field.column = some c → ∀ v, r.read? x.locator = some v →
      row.value? c = some v) :
    s.fromRow row = .ok r.stored := by
  -- by recursion on the schema: the walk of an embedded schema is a part of that of the whole, and
  -- the row is the same at every depth
  have schema := fits.schema_eq
  refine Schema.fromRow_eq_ok_iff.2 ⟨by simpa using schema, ?_⟩
  rw [Record.slots_stored, schema]
  refine forall₂_storedSlots (Record.fits_iff.1 fits).2.length_eq fun i slot f hs hf => ?_
  have hc : r.cell? i = some (f, slot) := Record.cell?_eq_some_iff.2 ⟨schema ▸ hf, hs⟩
  by_cases embeds : ∃ t, f.kind = .flatten t
  · obtain ⟨t, hk⟩ := embeds
    obtain ⟨e, hc', he, inside⟩ := fits.exists_embedded? hf hk
    obtain rfl : slot = .embedded e := by
      rw [hc, Option.some.injEq, Prod.mk.injEq] at hc'
      exact hc'.2
    have read : t.fromRow row = .ok e.stored := by
      refine Schema.fromRow_eq_stored (derived.embedded hf hk) inside fun y hy c stored v hv => ?_
      refine carried (y.within i) (Schema.mem_walk_of_flatten hf hk hy) c stored v ?_
      rw [← hv]
      exact Record.read?_within he (Schema.path_ne_nil_of_mem_walk hy)
    exact (Field.fromRow_of_flatten_iff hk).2 ⟨e.stored, rfl, read⟩
  · have plain (t : Schema) : f.kind ≠ .flatten t := fun hk => embeds ⟨t, hk⟩
    have mem := Schema.mem_walk_of_plain hf plain
    refine Field.fromRow_eq_stored plain (fits.slot hc) fun c stored => ?_
    obtain ⟨t, stores⟩ := derived _ mem c stored
    obtain ⟨v, leaf, -⟩ := fits.exists_leaf?_of_stores mem stores
    have same := Record.leaf?_of_plain hc plain
    rw [leaf, Option.some.injEq, Prod.mk.injEq] at same
    exact ⟨t, v, stores.kind, same.2.symm,
      carried _ mem c stored v (Record.read?_eq_some_iff.2 ⟨_, c, t, leaf, stores⟩)⟩
termination_by sizeOf s
decreasing_by exact Schema.sizeOf_lt_of_flatten hf hk

end Read

end EntityMap
