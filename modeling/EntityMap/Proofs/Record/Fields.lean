import EntityMap.Declaration.Table
import EntityMap.Proofs.Entity.Parsed
import EntityMap.Proofs.Record.Access

/-!
# Fields and columns of records that fit

In a record that fits its schema every entry of the walk leads to a field with a content. If the
schema is derived from a declaration, a stored field is a scalar open to access, so that every
column has a value; and if the columns are distinct, each leads to its own field. A write is
described by what it leaves alone: all fields but one.
-/

namespace EntityMap

/-- Every stored field is a scalar that is open to access. -/
def Schema.Derived (s : Schema) : Prop :=
  ∀ x ∈ s.walk, ∀ c, x.field.column = some c → ∃ t, x.field.Stores c t

/-- The field is a scalar that is open to access. -/
def Field.isOpenScalar (f : Field) : Bool :=
  match f.kind with
  | .scalar _ => !f.guarded
  | _ => false

theorem Field.exists_stores_iff {f : Field} {c : String} :
    (∃ t, f.Stores c t) ↔ f.column = some c ∧ f.isOpenScalar = true := by
  obtain ⟨name, column, tag, kind, guarded⟩ := f
  constructor
  · rintro ⟨t, rfl, rfl, rfl⟩
    exact ⟨rfl, rfl⟩
  · rintro ⟨rfl, accessible⟩
    cases kind with
    | scalar t => exact ⟨t, rfl, rfl, by simpa [Field.isOpenScalar] using accessible⟩
    | _ => simp [Field.isOpenScalar] at accessible

theorem Schema.derived_iff {s : Schema} : s.Derived ↔
    (s.walk.all fun x => x.field.column.isNone || x.field.isOpenScalar) = true := by
  simp only [Schema.Derived, Field.exists_stores_iff, List.all_eq_true, Bool.or_eq_true,
    Option.isNone_iff_eq_none]
  refine forall₂_congr fun x _ => ?_
  cases x.field.column <;> simp

instance (s : Schema) : Decidable s.Derived := decidable_of_iff _ Schema.derived_iff.symm

/-! ## Entries -/

section Schema

variable {s inner : Schema} {i : Nat} {f : Field} {x : Entry} {c : String}

theorem Schema.mem_walk_iff :
    x ∈ s.walk ↔ ∃ (i : Nat) (f : Field), s.fields[i]? = some f ∧ x ∈ f.walkAt i := by
  simp [Schema.walk_eq, mem_walkFields]

/-- A field that embeds nothing is an entry. -/
theorem Schema.mem_walk_of_plain (hf : s.fields[i]? = some f) (hk : ∀ t, f.kind ≠ .flatten t) :
    ⟨⟨[i]⟩, f⟩ ∈ s.walk := by
  rw [Schema.mem_walk_iff]
  exact ⟨i, f, hf, by rw [Field.walkAt_of_plain hk]; exact List.mem_singleton.2 rfl⟩

/-- The entries of an embedded schema are entries of the one around it. -/
theorem Schema.mem_walk_of_flatten (hf : s.fields[i]? = some f) (hk : f.kind = .flatten inner)
    (hx : x ∈ inner.walk) : x.within i ∈ s.walk := by
  rw [Schema.mem_walk_iff]
  exact ⟨i, f, hf, by rw [Field.walkAt_of_flatten hk]; exact List.mem_map_of_mem hx⟩

/-- A field at the end of a path, unless it embeds a schema, is an entry there. -/
theorem Schema.mem_walk_of_fieldAtPath? {path : List Nat} (hf : s.fieldAtPath? path = some f)
    (plain : ∀ t, f.kind ≠ .flatten t) : ⟨⟨path⟩, f⟩ ∈ s.walk := by
  induction path generalizing s with
  | nil => simp [Schema.fieldAtPath?] at hf
  | cons i rest ih =>
    cases rest with
    | nil => exact Schema.mem_walk_of_plain hf plain
    | cons j rest =>
      simp only [Schema.fieldAtPath?] at hf
      split at hf
      · next g hg =>
        split at hf
        · next inner hk => exact Schema.mem_walk_of_flatten hg hk (ih hf)
        · simp at hf
      · simp at hf

/-- The entries of the walk embed nothing. -/
theorem Schema.plain_of_mem_walk (s : Schema) {x : Entry} (hx : x ∈ s.walk) (t : Schema) :
    x.field.kind ≠ .flatten t := by
  obtain ⟨i, f, hf, hx⟩ := Schema.mem_walk_iff.1 hx
  by_cases embeds : ∃ inner, f.kind = .flatten inner
  · obtain ⟨inner, hk⟩ := embeds
    rw [Field.walkAt_of_flatten hk] at hx
    obtain ⟨y, hy, rfl⟩ := List.mem_map.1 hx
    exact Schema.plain_of_mem_walk inner hy t
  · rw [Field.walkAt_of_plain fun inner hk => embeds ⟨inner, hk⟩, List.mem_singleton] at hx
    subst hx
    exact fun hk => embeds ⟨t, hk⟩
termination_by sizeOf s
decreasing_by exact Schema.sizeOf_lt_of_flatten hf hk

/-- The entries of the walk are the fields at the ends of paths that embed nothing. -/
theorem Schema.mem_walk_iff_fieldAt? :
    x ∈ s.walk ↔ s.fieldAt? x.locator = some x.field ∧ ∀ t, x.field.kind ≠ .flatten t :=
  ⟨fun hx => ⟨s.fieldAt?_of_mem_walk hx, s.plain_of_mem_walk hx⟩,
    fun ⟨found, plain⟩ => Schema.mem_walk_of_fieldAtPath? found plain⟩

theorem Schema.Derived.embedded (h : s.Derived) (hf : s.fields[i]? = some f)
    (hk : f.kind = .flatten inner) : inner.Derived :=
  fun x hx => h (x.within i) (Schema.mem_walk_of_flatten hf hk hx)

/-- A column is one of an entry. -/
theorem Schema.mem_columns_iff : c ∈ s.columns ↔ ∃ x ∈ s.walk, x.field.column = some c := by
  simp [Schema.columns]

/-- The entry of a column is one of the walk, and stored there. -/
theorem Schema.mem_walk_of_columnEntry? (h : s.columnEntry? c = some x) :
    x ∈ s.walk ∧ x.field.column = some c := by
  have mem := Schema.mem_of_shallowest? h
  rwa [List.mem_filter, decide_eq_true_eq] at mem

/-- Each column leads somewhere. -/
theorem Schema.exists_columnEntry? (h : c ∈ s.columns) : ∃ x, s.columnEntry? c = some x := by
  obtain ⟨x, hx, hc⟩ := Schema.mem_columns_iff.1 h
  rw [← Option.isSome_iff_exists, Option.isSome_iff_ne_none]
  intro none
  have empty := Schema.shallowest?_eq_none_iff.1 none
  have mem : x ∈ s.walk.filter (·.field.column = some c) :=
    List.mem_filter.2 ⟨hx, by simpa using hc⟩
  rw [empty] at mem
  exact List.not_mem_nil mem

/-- Distinct columns lead to their own fields. -/
theorem Schema.columnEntry?_of_mem_walk (nodup : s.columns.Nodup) (hx : x ∈ s.walk)
    (hc : x.field.column = some c) : s.columnEntry? c = some x := by
  obtain ⟨y, hy⟩ := Schema.exists_columnEntry? (Schema.mem_columns_iff.2 ⟨x, hx, hc⟩)
  obtain ⟨mem, stored⟩ := Schema.mem_walk_of_columnEntry? hy
  rw [hy, eq_of_nodup_filterMap nodup mem hx stored hc]

/-- Different columns lead to different fields. -/
theorem Schema.locateColumn?_injective {l : Locator} {d : String}
    (hc : s.locateColumn? c = some l) (hd : s.locateColumn? d = some l) : c = d := by
  obtain ⟨-, f, hf, stored⟩ := Schema.fieldAt?_of_locateColumn? hc
  obtain ⟨-, f', hf', stored'⟩ := Schema.fieldAt?_of_locateColumn? hd
  obtain rfl := Option.some.inj (hf.symm.trans hf')
  exact Option.some.inj (stored.symm.trans stored')

end Schema

namespace Record

variable {r r' r₁ r₂ w inner : Record} {s : Schema} {l : Locator} {v : Value} {c : String}
  {x : Entry}

/-! ## Contents -/

/-- A record that fits has a slot for each field. -/
theorem Fits.exists_cell? (h : r.Fits s) {i : Nat} {f : Field} (hf : s.fields[i]? = some f) :
    ∃ slot, r.cell? i = some (f, slot) ∧ slot.Fits f.kind := by
  obtain ⟨rfl, slots⟩ := fits_iff.1 h
  have short : i < r.slots.length := by
    rw [slots.length_eq]
    exact (List.getElem?_eq_some_iff.1 hf).1
  have hc : r.cell? i = some (f, r.slots[i]) :=
    cell?_eq_some_iff.2 ⟨hf, List.getElem?_eq_getElem short⟩
  exact ⟨_, hc, h.slot hc⟩

/-- The slot of a field that embeds a schema holds a record that fits it. -/
theorem Fits.exists_embedded? (h : r.Fits s) {i : Nat} {f : Field} {t : Schema}
    (hf : s.fields[i]? = some f) (hk : f.kind = .flatten t) :
    ∃ e, r.cell? i = some (f, .embedded e) ∧ r.embedded? i = some e ∧ e.Fits t := by
  obtain ⟨slot, hc, fits⟩ := h.exists_cell? hf
  rw [hk] at fits
  cases slot with
  | embedded e => exact ⟨e, hc, embedded?_eq_some_iff.2 ⟨f, t, hc, hk⟩, fits⟩
  | _ => simp [Slot.Fits] at fits

theorem leaf?_within {i : Nat} (he : r.embedded? i = some inner) (ne : l.path ≠ []) :
    r.leaf? (l.within i) = inner.leaf? l := by
  obtain ⟨path, j, rfl⟩ | rfl := l.eq_append_or_eq_nil
  · rw [Locator.within, leaf?_append, ← List.cons_append, leaf?_append]
    simp [within?, he]
  · exact absurd rfl ne

theorem read?_within {i : Nat} (he : r.embedded? i = some inner) (ne : l.path ≠ []) :
    r.read? (l.within i) = inner.read? l := by
  ext v
  rw [read?_eq_some_iff, read?_eq_some_iff, leaf?_within he ne]

/-- A field that embeds nothing is found by its index. -/
theorem leaf?_of_plain {i : Nat} {f : Field} {slot : Slot} (hc : r.cell? i = some (f, slot))
    (plain : ∀ t, f.kind ≠ .flatten t) : r.leaf? ⟨[i]⟩ = some (f, slot) := by
  have nothing : r.embedded? i = none := by
    rw [Option.eq_none_iff_forall_ne_some]
    intro e he
    obtain ⟨f', t, hc', hk⟩ := embedded?_eq_some_iff.1 he
    rw [hc, Option.some.injEq, Prod.mk.injEq] at hc'
    exact plain t (hc'.1 ▸ hk)
  rw [← List.nil_append [i], leaf?_append]
  exact plain?_eq_some_iff.2 ⟨nothing, hc⟩

/-- Every entry of the walk leads to a field with a content. -/
theorem Fits.exists_leaf? {s : Schema} {r : Record} (h : r.Fits s) {x : Entry}
    (hx : x ∈ s.walk) : ∃ slot, r.leaf? x.locator = some (x.field, slot) := by
  obtain ⟨i, f, hf, hx⟩ := Schema.mem_walk_iff.1 hx
  by_cases embeds : ∃ t, f.kind = .flatten t
  · obtain ⟨t, hk⟩ := embeds
    rw [Field.walkAt_of_flatten hk] at hx
    obtain ⟨y, hy, rfl⟩ := List.mem_map.1 hx
    obtain ⟨e, -, he, fits⟩ := h.exists_embedded? hf hk
    obtain ⟨slot, hs⟩ := Fits.exists_leaf? fits hy
    exact ⟨slot, (leaf?_within he (Schema.path_ne_nil_of_mem_walk hy)).trans hs⟩
  · have plain (t : Schema) : f.kind ≠ .flatten t := fun hk => embeds ⟨t, hk⟩
    rw [Field.walkAt_of_plain plain, List.mem_singleton] at hx
    subst hx
    obtain ⟨slot, hc, -⟩ := h.exists_cell? hf
    exact ⟨slot, leaf?_of_plain hc plain⟩
termination_by sizeOf s
decreasing_by exact Schema.sizeOf_lt_of_flatten hf hk

/-- A stored scalar holds a value of its type. -/
theorem Fits.exists_leaf?_of_stores (h : r.Fits s) (hx : x ∈ s.walk) {t : ScalarType}
    (stores : x.field.Stores c t) :
    ∃ v, r.leaf? x.locator = some (x.field, .scalar v) ∧ t.admits v = true := by
  obtain ⟨slot, hl⟩ := h.exists_leaf? hx
  have fits := h.leaf hl
  rw [stores.kind] at fits
  cases slot with
  | scalar v => exact ⟨v, hl, fits⟩
  | _ => simp [Slot.Fits] at fits

/-- In a derived record type every column has a value. -/
theorem Fits.exists_column? (h : r.Fits s) (derived : s.Derived) (hc : c ∈ s.columns) :
    ∃ v, r.column? c = some v := by
  obtain ⟨x, found⟩ := Schema.exists_columnEntry? hc
  obtain ⟨hx, stored⟩ := Schema.mem_walk_of_columnEntry? found
  obtain ⟨t, stores⟩ := derived x hx c stored
  obtain ⟨v, leaf, -⟩ := h.exists_leaf?_of_stores hx stores
  refine ⟨v, ?_⟩
  rw [column?, h.schema_eq, Schema.locateColumn?, found, Option.map_some, Option.bind_some]
  exact read?_eq_some_iff.2 ⟨_, c, t, leaf, stores⟩

/-- Distinct columns are read where their fields are. -/
theorem Fits.column?_of_mem_walk (h : r.Fits s) (nodup : s.columns.Nodup) (hx : x ∈ s.walk)
    (hc : x.field.column = some c) : r.column? c = r.read? x.locator := by
  rw [column?, h.schema_eq, Schema.locateColumn?, Schema.columnEntry?_of_mem_walk nodup hx hc]
  rfl

/-- What is read in a column depends on the field that the column leads to, and on no other. -/
theorem column?_congr (schema : r'.schema = r.schema)
    (same : ∀ l, r.schema.locateColumn? c = some l → r'.leaf? l = r.leaf? l) :
    r'.column? c = r.column? c := by
  rw [column?, column?, schema]
  cases located : r.schema.locateColumn? c with
  | none => rfl
  | some l =>
    ext v
    simp only [Option.bind_some, read?_eq_some_iff, same l located]

/-! ## Changes -/

/-- The second record is the first but for the field at the locator, which holds the value. -/
structure ChangedOnlyAt (r : Record) (l : Locator) (v : Value) (r' : Record) : Prop where
  fits : r'.Fits r.schema
  value : ∃ f old, r.leaf? l = some (f, old) ∧ r'.leaf? l = some (f, .scalar v)
  others : ∀ m, m ≠ l → r'.leaf? m = r.leaf? m

/-- A write changes the field at its locator. -/
theorem ChangedOnlyAt.of_write (h : r.Fits s) (written : r.write l v = .ok w) :
    r.ChangedOnlyAt l v w := by
  obtain ⟨f, old, leaf, leaf'⟩ := leaf?_write_self written
  refine ⟨?_, ⟨f, .scalar old, leaf, leaf'⟩, fun m ne => leaf?_write_of_ne written ne⟩
  rw [h.schema_eq]
  exact h.write written

namespace ChangedOnlyAt

variable (h : r.ChangedOnlyAt l v r')
include h

theorem schema_eq : r'.schema = r.schema := h.fits.schema_eq

/-- A column that leads to the field has the value, if it had one. -/
theorem column?_self (located : r.schema.locateColumn? c = some l) {old : Value}
    (held : r.column? c = some old) : r'.column? c = some v := by
  obtain ⟨f, slot, leaf, leaf'⟩ := h.value
  rw [column?, located, Option.bind_some, read?_eq_some_iff] at held
  obtain ⟨f', column, t, leaf'', stores⟩ := held
  rw [leaf, Option.some.injEq, Prod.mk.injEq] at leaf''
  rw [column?, h.schema_eq, located, Option.bind_some, read?_eq_some_iff]
  exact ⟨f, column, t, leaf', leaf''.1 ▸ stores⟩

/-- The other columns have the values they had. -/
theorem column?_of_ne (located : r.schema.locateColumn? c = some l) {d : String} (ne : d ≠ c) :
    r'.column? d = r.column? d := by
  refine column?_congr h.schema_eq fun m hd => h.others m ?_
  rintro rfl
  exact ne (Schema.locateColumn?_injective hd located)

end ChangedOnlyAt

/-- Records that fit a schema are the same if their fields are. -/
theorem Fits.ext {s : Schema} {r₁ r₂ : Record} (h₁ : r₁.Fits s) (h₂ : r₂.Fits s)
    (same : ∀ l, r₁.leaf? l = r₂.leaf? l) : r₁ = r₂ := by
  have length := (fits_iff.1 h₁).2.length_eq.trans (fits_iff.1 h₂).2.length_eq.symm
  have slots : r₁.slots = r₂.slots := by
    refine List.ext_getElem length fun i hi₁ hi₂ => Option.some.inj ?_
    rw [← List.getElem?_eq_getElem hi₁, ← List.getElem?_eq_getElem hi₂]
    have hi : i < s.fields.length := (fits_iff.1 h₁).2.length_eq ▸ hi₁
    obtain ⟨f, hf⟩ : ∃ f, s.fields[i]? = some f := ⟨_, List.getElem?_eq_getElem hi⟩
    obtain ⟨slot₁, hc₁, -⟩ := h₁.exists_cell? hf
    obtain ⟨slot₂, hc₂, -⟩ := h₂.exists_cell? hf
    rw [(cell?_eq_some_iff.1 hc₁).2, (cell?_eq_some_iff.1 hc₂).2]
    by_cases embeds : ∃ t, f.kind = .flatten t
    · obtain ⟨t, hk⟩ := embeds
      obtain ⟨e₁, hd₁, he₁, fits₁⟩ := h₁.exists_embedded? hf hk
      obtain ⟨e₂, hd₂, he₂, fits₂⟩ := h₂.exists_embedded? hf hk
      have inside : e₁ = e₂ := by
        refine Fits.ext fits₁ fits₂ fun l => ?_
        -- within a record the empty path leads nowhere, and from outside to the record itself
        by_cases steps : l.path = []
        · simp [leaf?, Locator.split?, steps]
        · rw [← leaf?_within he₁ steps, ← leaf?_within he₂ steps, same]
      rw [hc₁, Option.some.injEq, Prod.mk.injEq] at hd₁
      rw [hc₂, Option.some.injEq, Prod.mk.injEq] at hd₂
      rw [hd₁.2, hd₂.2, inside]
    · have plain (t : Schema) : f.kind ≠ .flatten t := fun hk => embeds ⟨t, hk⟩
      have leaf := same ⟨[i]⟩
      rw [leaf?_of_plain hc₁ plain, leaf?_of_plain hc₂ plain, Option.some.injEq] at leaf
      rw [(Prod.mk.inj leaf).2]
  obtain ⟨schema₁, slots₁⟩ := r₁
  obtain ⟨schema₂, slots₂⟩ := r₂
  obtain rfl : schema₁ = s := h₁.schema_eq
  obtain rfl : schema₂ = schema₁ := h₂.schema_eq
  obtain rfl : slots₁ = slots₂ := slots
  rfl
termination_by sizeOf s
decreasing_by exact Schema.sizeOf_lt_of_flatten hf hk

/-- What is changed at one field only is determined by the field and its value. -/
theorem ChangedOnlyAt.unique (h₁ : r.ChangedOnlyAt l v r₁) (h₂ : r.ChangedOnlyAt l v r₂) :
    r₁ = r₂ := by
  apply h₁.fits.ext h₂.fits
  intro m
  by_cases here : m = l
  · subst here
    obtain ⟨f₁, old₁, before₁, after₁⟩ := h₁.value
    obtain ⟨f₂, old₂, before₂, after₂⟩ := h₂.value
    rw [before₁, Option.some.injEq, Prod.mk.injEq] at before₂
    rw [after₁, after₂, before₂.1]
  · rw [h₁.others m here, h₂.others m here]

end Record

end EntityMap
