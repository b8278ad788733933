import EntityMap.Proofs.Record.RoundTrip
import EntityMap.Proofs.Sql.Meaning

/-!
# Columns that are shadowed in a row

A row is searched from left to right, and a column of a qualified name answers to the last part of
it. So a column of exactly the name is read unless one that qualifies the name stands before it:
then that one is read. A record that is read from a row has in each stored field what is read there
in the column of the field.
-/

namespace EntityMap

/-! ## Columns of a row -/

namespace Row

variable {row : Row} {column : String}

/-- The value of the first column whose name qualifies the given one. -/
def qualified? (r : Row) (column : String) : Option Value :=
  (r.cells.find? fun c => Qualifies c.1 column).map (·.2)

/-- A column that qualifies the name stands before the first one of exactly the name. -/
def Shadows (r : Row) (column : String) : Prop :=
  column ∈ r.columns ∧ ∃ c ∈ r.cells.takeWhile (·.1 ≠ column), Qualifies c.1 column

instance : Decidable (row.Shadows column) := inferInstanceAs (Decidable (_ ∧ _))

theorem cell?_eq_none_iff : row.cell? column = none ↔ column ∉ row.columns := by
  simp only [cell?, columns, Option.map_eq_none_iff, List.find?_eq_none, List.mem_map,
    decide_eq_true_eq, not_exists, not_and]

/-- A column in front shadows the name if it qualifies it, or leaves it to the columns behind. -/
private theorem shadows_cons {name : String} {v : Value} {rest : List (String × Value)}
    (other : name ≠ column) : Shadows ⟨(name, v) :: rest⟩ column ↔
      column ∈ columns ⟨rest⟩ ∧ (Qualifies name column ∨ Shadows ⟨rest⟩ column) := by
  have walked : ((name, v) :: rest).takeWhile (·.1 ≠ column) =
      (name, v) :: rest.takeWhile (·.1 ≠ column) := List.takeWhile_cons_of_pos (by simpa using other)
  rw [Shadows, Shadows, walked, List.exists_mem_cons_iff]
  simp only [columns, List.map_cons, List.mem_cons, Ne.symm other, false_or]
  tauto

/-- A column of exactly the name is read unless it is shadowed, and without one the first that
qualifies the name. -/
theorem value?_eq_ite (row : Row) (column : String) : row.value? column =
    if row.Shadows column then row.qualified? column
    else (row.cell? column).or (row.qualified? column) := by
  obtain ⟨cells⟩ := row
  induction cells with
  | nil => simp [value?, cell?, qualified?]
  | cons c rest ih =>
    obtain ⟨name, v⟩ := c
    by_cases same : name = column
    · -- nothing stands before the first column of the name
      simp [value?, cell?, Shadows, answersTo_eq_true_iff, same]
    · have cell : cell? ⟨(name, v) :: rest⟩ column = cell? ⟨rest⟩ column := by
        simp [cell?, same]
      rw [cell]
      simp only [shadows_cons same]
      by_cases first : Qualifies name column
      · have read : value? ⟨(name, v) :: rest⟩ column = some v := by
          simp [value?, answersTo_eq_true_iff, first]
        have qualified : qualified? ⟨(name, v) :: rest⟩ column = some v := by
          simp [qualified?, first]
        rw [read, qualified]
        by_cases mem : column ∈ columns ⟨rest⟩
        · simp [mem, first]
        · simp [mem, cell?_eq_none_iff.2 mem]
      · have read : value? ⟨(name, v) :: rest⟩ column = value? ⟨rest⟩ column := by
          simp [value?, answersTo_eq_true_iff, first, same]
        have qualified : qualified? ⟨(name, v) :: rest⟩ column = qualified? ⟨rest⟩ column := by
          simp [qualified?, first]
        have shadows : column ∈ columns ⟨rest⟩ ∧ Shadows ⟨rest⟩ column ↔
            Shadows ⟨rest⟩ column := and_iff_right_of_imp And.left
        rw [read, qualified, ih]
        simp only [first, false_or, shadows]

end Row

/-! ## Records of a row -/

section Record

variable {row : Row} {s : Schema} {r : Record} {x : Entry} {c : String}

/-- A stored field of a record that was read from a row has what is read in its column. -/
theorem Record.read?_of_fromRow (derived : s.Derived) (h : s.fromRow row = .ok r) (hx : x ∈ s.walk)
    (stored : x.field.column = some c) : ∃ v t, x.field.Stores c t ∧ t.admits v = true ∧
      r.read? x.locator = some v ∧ row.value? c = some v := by
  obtain ⟨t, stores⟩ := derived x hx c stored
  obtain ⟨v, leaf, admits⟩ := (s.fits_of_fromRow h).exists_leaf?_of_stores hx stores
  have read : r.read? x.locator = some v := Record.read?_eq_some_iff.2 ⟨_, c, t, leaf, stores⟩
  obtain ⟨f, c', hf, stored', value⟩ := Record.exists_column_of_fromRow h read
  obtain rfl := Option.some.inj ((s.fieldAt?_of_mem_walk hx).symm.trans hf)
  obtain rfl := Option.some.inj (stored.symm.trans stored')
  exact ⟨v, t, stores, admits, read, value⟩

/-- A field that embeds nothing is read if a value of its type is, where it is stored. -/
private theorem Field.exists_fromRow {f : Field} (plain : ∀ t, f.kind ≠ .flatten t)
    (found : ∀ c t, f.column = some c → f.kind = .scalar t →
      ∃ v, row.value? c = some v ∧ t.admits v = true) : ∃ slot, f.fromRow row = .ok slot := by
  obtain ⟨name, column, tag, kind, guarded⟩ := f
  cases kind with
  | flatten t => exact absurd rfl (plain t)
  | scalar t =>
    cases column with
    | none => exact ⟨_, rfl⟩
    | some c =>
      obtain ⟨v, value, admits⟩ := found c t rfl rfl
      exact ⟨.scalar v, (fromRow_of_scalar_iff rfl rfl).2 ⟨v, rfl, value, admits⟩⟩
  | one | many | ids => exact ⟨_, rfl⟩

/-- A record of a derived type is read from a row if each stored field finds a value of its type. -/
theorem Schema.exists_fromRow {s : Schema} (derived : s.Derived)
    (found : ∀ x ∈ s.walk, ∀ c t, x.field.Stores c t →
      ∃ v, row.value? c = some v ∧ t.admits v = true) : ∃ r, s.fromRow row = .ok r := by
  have each : ∀ f ∈ s.fields, ∃ slot, f.fromRow row = .ok slot := by
    intro f mem
    obtain ⟨i, hf⟩ := List.getElem?_of_mem mem
    by_cases embeds : ∃ t, f.kind = .flatten t
    · obtain ⟨t, hk⟩ := embeds
      obtain ⟨e, read⟩ : ∃ e, t.fromRow row = .ok e :=
        Schema.exists_fromRow (derived.embedded hf hk) fun y hy =>
          found (y.within i) (Schema.mem_walk_of_flatten hf hk hy)
      exact ⟨.embedded e, (Field.fromRow_of_flatten_iff hk).2 ⟨e, rfl, read⟩⟩
    · have plain (t : Schema) : f.kind ≠ .flatten t := fun hk => embeds ⟨t, hk⟩
      have mem := Schema.mem_walk_of_plain hf plain
      refine Field.exists_fromRow plain fun c t stored kind => ?_
      obtain ⟨t', stores⟩ := derived _ mem c stored
      obtain rfl : t = t' := FieldKind.scalar.inj (kind.symm.trans stores.kind)
      exact found _ mem c t stores
  obtain ⟨slots, all⟩ := exists_forall₂ each
  exact ⟨⟨s, slots⟩, Schema.fromRow_eq_ok_iff.2 ⟨rfl, all.flip⟩⟩
termination_by sizeOf s
decreasing_by exact Schema.sizeOf_lt_of_flatten hf hk

end Record

/-- A column of exactly the name is read unless it is shadowed by one that qualifies the name, and
without one the first that qualifies the name. A record of a derived type is read from a row just if
what is read in the column of each stored field is a value of its type; the field has it then. -/
theorem Row.reads_unshadowed (row : Row) :
    (∀ column, (¬ row.Shadows column →
        row.value? column = (row.cell? column).or (row.qualified? column)) ∧
      (row.Shadows column → row.value? column = row.qualified? column)) ∧
    ∀ s : Schema, s.Derived →
      ((∃ r, s.fromRow row = .ok r) ↔ ∀ x ∈ s.walk, ∀ c t, x.field.Stores c t →
        ∃ v, row.value? c = some v ∧ t.admits v = true) ∧
      ∀ r, s.fromRow row = .ok r → ∀ x ∈ s.walk, ∀ c, x.field.column = some c →
        r.read? x.locator = row.value? c := by
  refine ⟨fun column => ?_, fun s derived => ⟨⟨?_, Schema.exists_fromRow derived⟩, ?_⟩⟩
  · rw [Row.value?_eq_ite]
    exact ⟨fun unshadowed => if_neg unshadowed, fun shadowed => if_pos shadowed⟩
  · rintro ⟨r, read⟩ x hx c t stores
    obtain ⟨v, t', stores', admits, -, value⟩ :=
      Record.read?_of_fromRow derived read hx stores.column
    obtain rfl := FieldKind.scalar.inj (stores.kind.symm.trans stores'.kind)
    exact ⟨v, value, admits⟩
  · intro r read x hx c stored
    obtain ⟨v, t, -, -, held, value⟩ := Record.read?_of_fromRow derived read hx stored
    rw [held, value]

private def memos : Schema :=
  ⟨⟨0, "Memo"⟩, [⟨"id", some "id", "pk", .scalar ⟨.string, false⟩, false⟩,
    ⟨"title", some "title", "", .scalar ⟨.string, false⟩, false⟩]⟩

/-- A memo that is read together with a book has the title of the book, which stands before its own.
-/
theorem memo_takes_title_of_book :
    let row : Row := ⟨[("id", .ofString "m"), ("book.title", .ofString "a"),
      ("title", .ofString "b")]⟩
    memos.Derived ∧ row.Shadows "title" ∧ row.cell? "title" = some (.ofString "b") ∧
      row.value? "title" = some (.ofString "a") ∧
      ∃ r, memos.fromRow row = .ok r ∧ r.column? "title" = some (.ofString "a") := by
  intro row
  exact ⟨by decide, by decide, rfl, rfl, _, rfl, rfl⟩

end EntityMap
