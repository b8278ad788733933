import EntityMap.Locator.Lemmas
import EntityMap.Proofs.Success
import EntityMap.Record.Lemmas

/-!
# Access to records along locators

A locator that a schema gives for a column leads, in a record that fits the schema, to the field
stored there. A leaf is a field that embeds no record, with its content: what is written at a
locator is the content of that leaf, all other leaves are as before, and the record still fits. A
record read from a row fits as well.
-/

namespace EntityMap

/-! ## Fields at the ends of paths -/

/-- A locator has a last step, or no step at all. -/
theorem Locator.eq_append_or_eq_nil (l : Locator) : (∃ path i, l = ⟨path ++ [i]⟩) ∨ l = ⟨[]⟩ := by
  obtain ⟨steps⟩ := l
  rcases List.eq_nil_or_concat steps with rfl | ⟨path, i, rfl⟩
  · exact .inr rfl
  · exact .inl ⟨path, i, by rw [List.concat_eq_append]⟩

/-- An embedded schema is smaller than the one around it. -/
theorem Schema.sizeOf_lt_of_flatten {s inner : Schema} {i : Nat} {f : Field}
    (hf : s.fields[i]? = some f) (hk : f.kind = .flatten inner) : sizeOf inner < sizeOf s := by
  have mem : sizeOf f < sizeOf s.fields := List.sizeOf_lt_of_mem (List.mem_of_getElem? hf)
  obtain ⟨type, fields⟩ := s
  obtain ⟨name, column, tag, kind, guarded⟩ := f
  cases hk
  simp only [Schema.mk.sizeOf_spec, Field.mk.sizeOf_spec, FieldKind.flatten.sizeOf_spec] at mem ⊢
  omega

/-- A step of a path enters an embedded record. -/
theorem Schema.fieldAtPath?_cons {s inner : Schema} {i : Nat} {f : Field} {path : List Nat}
    (hf : s.fields[i]? = some f) (hk : f.kind = .flatten inner) (ne : path ≠ []) :
    s.fieldAtPath? (i :: path) = inner.fieldAtPath? path := by
  obtain ⟨j, rest, rfl⟩ := List.exists_cons_of_ne_nil ne
  simp [Schema.fieldAtPath?, hf, hk]

/-- No entry of a walk has an empty path. -/
theorem Schema.path_ne_nil_of_mem_walk {s : Schema} {x : Entry} (hx : x ∈ s.walk) :
    x.locator.path ≠ [] := by
  rw [Schema.walk_eq, mem_walkFields] at hx
  obtain ⟨j, f, -, h⟩ := hx
  by_cases embeds : ∃ inner, f.kind = .flatten inner
  · obtain ⟨inner, hk⟩ := embeds
    rw [Field.walkAt_of_flatten hk] at h
    obtain ⟨y, -, rfl⟩ := List.mem_map.1 h
    simp [Entry.within, Locator.within]
  · rw [Field.walkAt_of_plain fun inner hk => embeds ⟨inner, hk⟩, List.mem_singleton] at h
    subst h
    simp

/-- The locator of an entry leads to the field of the entry. -/
theorem Schema.fieldAt?_of_mem_walk (s : Schema) {x : Entry} (hx : x ∈ s.walk) :
    s.fieldAt? x.locator = some x.field := by
  rw [Schema.walk_eq, mem_walkFields] at hx
  obtain ⟨j, f, hf, h⟩ := hx
  rw [Nat.zero_add] at h
  match hk : f.kind with
  | .flatten inner =>
    rw [Field.walkAt_of_flatten hk] at h
    obtain ⟨y, hy, rfl⟩ := List.mem_map.1 h
    have ih : inner.fieldAt? y.locator = some y.field := Schema.fieldAt?_of_mem_walk inner hy
    have ne : y.locator.path ≠ [] := Schema.path_ne_nil_of_mem_walk hy
    exact (Schema.fieldAtPath?_cons hf hk ne).trans ih
  | .scalar t | .one t | .many t | .ids t =>
    rw [Field.walkAt_of_plain (by simp [hk]), List.mem_singleton] at h
    subst h
    exact hf
termination_by sizeOf s
decreasing_by exact Schema.sizeOf_lt_of_flatten hf hk

/-- The field that is stored in a column lies where the column is located. -/
theorem Schema.fieldAt?_of_locateColumn? {s : Schema} {column : String} {l : Locator}
    (h : s.locateColumn? column = some l) :
    l.path ≠ [] ∧ ∃ f, s.fieldAt? l = some f ∧ f.column = some column := by
  obtain ⟨x, hx, rfl⟩ := Option.map_eq_some_iff.1 h
  have mem := Schema.mem_of_shallowest? hx
  rw [List.mem_filter, decide_eq_true_eq] at mem
  exact ⟨Schema.path_ne_nil_of_mem_walk mem.1, x.field, s.fieldAt?_of_mem_walk mem.1, mem.2⟩

/-! ## Records that fit -/

section Forall₂

variable {α β : Type} {R : α → β → Prop} {xs : List α} {ys : List β} {x : α} {y : β} {i : Nat}

/-- What holds of two lists place by place holds at each place. -/
theorem forall₂_getElem? (h : List.Forall₂ R xs ys) (hx : xs[i]? = some x)
    (hy : ys[i]? = some y) : R x y := by
  induction h generalizing i with
  | nil => simp at hx
  | cons first _ ih =>
    cases i with
    | zero =>
      obtain rfl := Option.some.inj hx
      obtain rfl := Option.some.inj hy
      exact first
    | succ i => exact ih hx hy

/-- It still holds after a change that keeps it at one place. -/
theorem forall₂_set (h : List.Forall₂ R xs ys) (hy : ys[i]? = some y) (hx : R x y) :
    List.Forall₂ R (xs.set i x) ys := by
  induction h generalizing i with
  | nil => simp at hy
  | cons first rest ih =>
    cases i with
    | zero =>
      obtain rfl := Option.some.inj hy
      exact .cons hx rest
    | succ i => exact .cons first (ih hy)

end Forall₂

theorem slotsFit_iff {slots : List Slot} {fields : List Field} :
    slotsFit slots fields ↔ List.Forall₂ (fun slot f => slot.Fits f.kind) slots fields := by
  induction slots generalizing fields with
  | nil => cases fields <;> simp [slotsFit]
  | cons slot rest ih => cases fields <;> simp [slotsFit, ih]

/-- A value is accepted for a type if it is of the type. -/
theorem ScalarType.decode_eq_ok_iff {t : ScalarType} {column : String} {v w : Value} :
    t.decode column v = .ok w ↔ t.admits v = true ∧ v = w := by
  cases admits : t.admits v <;> simp [decode, admits]

/-- The field is a scalar that is stored in a column and open to access. -/
structure Field.Stores (f : Field) (column : String) (t : ScalarType) : Prop where
  column : f.column = some column
  kind : f.kind = .scalar t
  accessible : f.guarded = false

namespace Record

variable {r w inner : Record} {s : Schema} {l m : Locator} {v : Value} {path : List Nat} {i : Nat}

/-- A record fits if it has the schema and each slot fits the field at its place. -/
theorem fits_iff : r.Fits s ↔
    r.schema = s ∧ List.Forall₂ (fun slot f => slot.Fits f.kind) r.slots s.fields := by
  cases r
  simp [Record.Fits, slotsFit_iff]

theorem Fits.schema_eq (h : r.Fits s) : r.schema = s := (fits_iff.1 h).1

/-- Each slot of a record that fits fits its field. -/
theorem Fits.slot {f : Field} {slot : Slot} (h : r.Fits s) (hc : r.cell? i = some (f, slot)) :
    slot.Fits f.kind := by
  obtain ⟨rfl, slots⟩ := fits_iff.1 h
  obtain ⟨hf, hs⟩ := cell?_eq_some_iff.1 hc
  exact @forall₂_getElem? _ _ (fun slot f => slot.Fits f.kind) _ _ _ _ _ slots hs hf

/-- A slot that fits may be put in place of another. -/
theorem Fits.put {f : Field} {slot : Slot} (h : r.Fits s) (hf : s.fields[i]? = some f)
    (fits : slot.Fits f.kind) : (r.put i slot).Fits s := by
  obtain ⟨rfl, slots⟩ := fits_iff.1 h
  exact fits_iff.2 ⟨rfl, forall₂_set slots hf fits⟩

/-- An embedded record fits the schema that is embedded. -/
theorem Fits.embedded (h : r.Fits s) (he : r.embedded? i = some inner) :
    ∃ f t, s.fields[i]? = some f ∧ f.kind = .flatten t ∧ inner.Fits t := by
  obtain ⟨f, t, hc, hk⟩ := embedded?_eq_some_iff.1 he
  have fits := h.slot hc
  rw [hk] at fits
  obtain ⟨hf, -⟩ := cell?_eq_some_iff.1 hc
  rw [h.schema_eq] at hf
  exact ⟨f, t, hf, hk, fits⟩

/-- The record at the end of a path fits its own schema, and its fields are those that the schema
of the whole record has there. -/
theorem Fits.within (h : r.Fits s) (hw : r.within? path = some inner) :
    inner.Fits inner.schema ∧ ∀ i, s.fieldAtPath? (path ++ [i]) = inner.schema.fields[i]? := by
  induction path generalizing r s with
  | nil =>
    obtain rfl := Option.some.inj hw
    have same := h.schema_eq
    subst same
    exact ⟨h, fun i => rfl⟩
  | cons k rest ih =>
    obtain ⟨e, he, hr⟩ := Option.bind_eq_some_iff.1 hw
    obtain ⟨f, t, hf, hk, fits⟩ := h.embedded he
    obtain ⟨inside, fields⟩ := ih fits hr
    refine ⟨inside, ?_⟩
    intro i
    rw [List.cons_append, Schema.fieldAtPath?_cons hf hk (by simp)]
    exact fields i

/-- Records that fit may be put in place of others that do. -/
theorem Fits.putWithin {old : Record} (h : r.Fits s) (hw : r.within? path = some old)
    (fits : inner.Fits old.schema) : (r.putWithin inner path).Fits s := by
  induction path generalizing r s with
  | nil =>
    obtain rfl := Option.some.inj hw
    have same := h.schema_eq
    subst same
    exact fits
  | cons k rest ih =>
    obtain ⟨e, he, hr⟩ := Option.bind_eq_some_iff.1 hw
    obtain ⟨f, t, hf, hk, inside⟩ := h.embedded he
    have replaced := ih inside hr
    simp only [Record.putWithin, he]
    apply h.put hf
    rw [hk]
    exact replaced

/-! ## Reading -/

/-- A value is there if it is that of a stored scalar that is open to access. -/
theorem value?_eq_some_iff : r.value? i = some v ↔ ∃ name column tag t,
    r.cell? i = some (⟨name, some column, tag, .scalar t, false⟩, .scalar v) := by
  unfold value?
  split
  · next name column tag t v' hc =>
    rw [hc]
    simp
  · next none =>
    simp only [reduceCtorEq, false_iff]
    rintro ⟨name, column, tag, t, hc⟩
    exact none _ _ _ _ _ hc

/-- The last step of a path is to a field of the record at the end of the others. -/
theorem read?_append (r : Record) (path : List Nat) (i : Nat) :
    r.read? ⟨path ++ [i]⟩ = (r.within? path).bind (·.value? i) := by
  simp [read?, Locator.split?]

theorem write_append (r : Record) (path : List Nat) (i : Nat) (v : Value) :
    r.write ⟨path ++ [i]⟩ v =
      match r.within? path with
      | none => .error (.shape (.nothingEmbedded ⟨path ++ [i]⟩))
      | some inner => (inner.set i v).map (r.putWithin · path) := by
  cases h : r.within? path <;> simp [write, Locator.split?, h]

/-- No value is read and none is written at a locator without steps. -/
theorem exists_path_of_read? (h : r.read? l = some v) : ∃ path i, l = ⟨path ++ [i]⟩ := by
  refine l.eq_append_or_eq_nil.resolve_right ?_
  rintro rfl
  simp [read?, Locator.split?] at h

theorem exists_path_of_write (h : r.write l v = .ok w) : ∃ path i, l = ⟨path ++ [i]⟩ := by
  refine l.eq_append_or_eq_nil.resolve_right ?_
  rintro rfl
  simp [write, Locator.split?] at h

/-- A write succeeds just if the field at its locator can be set. -/
theorem write_eq_ok_iff : r.write ⟨path ++ [i]⟩ v = .ok w ↔
    ∃ inner changed, r.within? path = some inner ∧ inner.set i v = .ok changed ∧
      w = r.putWithin changed path := by
  rw [write_append]
  cases hw : r.within? path with
  | none => simp
  | some inner =>
    simp only [map_eq_ok_iff, Option.some.injEq]
    constructor
    · rintro ⟨changed, hs, rfl⟩
      exact ⟨inner, changed, rfl, hs, rfl⟩
    · rintro ⟨_, changed, rfl, hs, rfl⟩
      exact ⟨changed, hs, rfl⟩

/-- A stored scalar is set just if the value is of its type. -/
theorem set_eq_ok_iff : r.set i v = .ok w ↔ ∃ name column tag t old,
    r.cell? i = some (⟨name, some column, tag, .scalar t, false⟩, .scalar old) ∧
      t.admits v = true ∧ w = r.put i (.scalar v) := by
  unfold set
  split
  · next name column tag t old hc =>
    simp [hc, map_eq_ok_iff, ScalarType.decode_eq_ok_iff, @eq_comm _ w]
  · next none =>
    simp only [reduceCtorEq, false_iff]
    rintro ⟨name, column, tag, t, old, hc, -⟩
    exact none _ _ _ _ _ hc

/-! ## Fields that embed nothing -/

/-- The declaration and the content of a field, unless it embeds a record. -/
def plain? (r : Record) (i : Nat) : Option (Field × Slot) :=
  match r.embedded? i with
  | some _ => none
  | none => r.cell? i

/-- The declaration and the content of the field at a locator, unless it embeds a record. -/
def leaf? (r : Record) (l : Locator) : Option (Field × Slot) :=
  match l.split? with
  | some (path, i) => (r.within? path).bind (·.plain? i)
  | none => none

theorem leaf?_append (r : Record) (path : List Nat) (i : Nat) :
    r.leaf? ⟨path ++ [i]⟩ = (r.within? path).bind (·.plain? i) := by
  simp [leaf?, Locator.split?]

theorem exists_path_of_leaf? {c : Field × Slot} (h : r.leaf? l = some c) :
    ∃ path i, l = ⟨path ++ [i]⟩ := by
  refine l.eq_append_or_eq_nil.resolve_right ?_
  rintro rfl
  simp [leaf?, Locator.split?] at h

theorem plain?_eq_none_of_embedded (h : r.embedded? i = some inner) : r.plain? i = none := by
  simp [plain?, h]

/-- A slot that holds no record embeds none. -/
theorem embedded?_eq_none_of_slot {f : Field} {slot : Slot} (plain : ∀ e, slot ≠ .embedded e)
    (hc : r.cell? i = some (f, slot)) : r.embedded? i = none := by
  rw [Option.eq_none_iff_forall_ne_some]
  intro e he
  obtain ⟨f', t, hc', -⟩ := embedded?_eq_some_iff.1 he
  rw [hc, Option.some.injEq, Prod.mk.injEq] at hc'
  exact plain e hc'.2

theorem plain?_eq_some_iff {c : Field × Slot} :
    r.plain? i = some c ↔ r.embedded? i = none ∧ r.cell? i = some c := by
  unfold plain?
  cases r.embedded? i <;> simp

/-- What holds no record is found as the content of a field that embeds nothing. -/
theorem plain?_eq_slot_iff {f : Field} {slot : Slot} (plain : ∀ e, slot ≠ .embedded e) :
    r.plain? i = some (f, slot) ↔ r.cell? i = some (f, slot) := by
  rw [plain?_eq_some_iff]
  exact and_iff_right_of_imp (embedded?_eq_none_of_slot plain)

theorem plain?_eq_scalar_iff {f : Field} :
    r.plain? i = some (f, .scalar v) ↔ r.cell? i = some (f, .scalar v) :=
  plain?_eq_slot_iff (by simp)

/-- The content of a field of a record that fits fits the field. -/
theorem Fits.leaf {f : Field} {slot : Slot} (h : r.Fits s) (hl : r.leaf? l = some (f, slot)) :
    slot.Fits f.kind := by
  obtain ⟨path, i, rfl⟩ := exists_path_of_leaf? hl
  rw [leaf?_append] at hl
  obtain ⟨inner, hw, hp⟩ := Option.bind_eq_some_iff.1 hl
  exact (h.within hw).1.slot (plain?_eq_some_iff.1 hp).2

/-- A value is read just if it is that of a stored scalar that is open to access. -/
theorem read?_eq_some_iff : r.read? l = some v ↔
    ∃ f column t, r.leaf? l = some (f, .scalar v) ∧ f.Stores column t := by
  obtain ⟨path, i, rfl⟩ | rfl := l.eq_append_or_eq_nil
  · rw [read?_append, leaf?_append]
    simp only [Option.bind_eq_some_iff, value?_eq_some_iff, plain?_eq_scalar_iff]
    constructor
    · rintro ⟨inner, hw, name, column, tag, t, hc⟩
      exact ⟨_, column, t, ⟨inner, hw, hc⟩, rfl, rfl, rfl⟩
    · rintro ⟨⟨name, _, tag, _, _⟩, column, t, ⟨inner, hw, hc⟩, rfl, rfl, rfl⟩
      exact ⟨inner, hw, name, column, tag, t, hc⟩
  · simp [read?, leaf?, Locator.split?]

/-! ## Writing -/

/-- What is written is read back. -/
theorem read?_write_self (h : r.write l v = .ok w) : w.read? l = some v := by
  obtain ⟨path, i, rfl⟩ := exists_path_of_write h
  obtain ⟨inner, changed, hw, hs, rfl⟩ := write_eq_ok_iff.1 h
  rw [read?_append, within?_putWithin hw, Option.bind_some]
  exact value?_of_set hs

/-- A record that fits still fits after a write. -/
theorem Fits.write (fits : r.Fits s) (h : r.write l v = .ok w) : w.Fits s := by
  obtain ⟨path, i, rfl⟩ := exists_path_of_write h
  obtain ⟨inner, changed, hw, hs, rfl⟩ := write_eq_ok_iff.1 h
  obtain ⟨name, column, tag, t, old, hc, admits, rfl⟩ := set_eq_ok_iff.1 hs
  obtain ⟨hf, -⟩ := cell?_eq_some_iff.1 hc
  apply fits.putWithin hw
  apply (fits.within hw).1.put hf
  exact admits

/-- Any value of its type can be written into a stored scalar. -/
theorem exists_write_of_admits {f : Field} {column : String} {t : ScalarType} {old : Value}
    (h : r.leaf? l = some (f, .scalar old)) (stores : f.Stores column t)
    (admits : t.admits v = true) : ∃ w, r.write l v = .ok w := by
  obtain ⟨path, i, rfl⟩ := exists_path_of_leaf? h
  obtain ⟨name, _, tag, _, _⟩ := f
  obtain ⟨rfl, rfl, rfl⟩ := stores
  rw [leaf?_append] at h
  obtain ⟨inner, hw, hp⟩ := Option.bind_eq_some_iff.1 h
  have set := set_eq_ok_iff.2 ⟨_, _, _, _, _, plain?_eq_scalar_iff.1 hp, admits, rfl⟩
  exact ⟨_, write_eq_ok_iff.2 ⟨inner, _, hw, set, rfl⟩⟩

/-- A value of another type is refused. -/
theorem write_of_not_admits {f : Field} {column : String} {t : ScalarType} {old : Value}
    (h : r.leaf? l = some (f, .scalar old)) (stores : f.Stores column t)
    (other : t.admits v = false) : r.write l v = .error (.decode column (.mismatch t)) := by
  obtain ⟨path, i, rfl⟩ := exists_path_of_leaf? h
  obtain ⟨name, _, tag, _, _⟩ := f
  obtain ⟨rfl, rfl, rfl⟩ := stores
  rw [leaf?_append] at h
  obtain ⟨inner, hw, hp⟩ := Option.bind_eq_some_iff.1 h
  have hc := plain?_eq_scalar_iff.1 hp
  simp [write_append, hw, set, hc, ScalarType.decode, other, Except.map]

/-- What is written is the content of the field afterwards. -/
theorem leaf?_write_self (h : r.write l v = .ok w) :
    ∃ f old, r.leaf? l = some (f, .scalar old) ∧ w.leaf? l = some (f, .scalar v) := by
  obtain ⟨path, i, rfl⟩ := exists_path_of_write h
  obtain ⟨inner, changed, hw, hs, rfl⟩ := write_eq_ok_iff.1 h
  obtain ⟨name, column, tag, t, old, hc, -, rfl⟩ := set_eq_ok_iff.1 hs
  refine ⟨⟨name, some column, tag, .scalar t, false⟩, old, ?_, ?_⟩
  · rw [leaf?_append, hw]
    exact plain?_eq_scalar_iff.2 hc
  · rw [leaf?_append, within?_putWithin hw]
    exact plain?_eq_scalar_iff.2 (cell?_put_self hc _)

/-- A value that can be read can be replaced by any other that is of its variant and not null. -/
theorem exists_write_eq_ok (fits : r.Fits s) (h : r.read? l = some v) {next : Value}
    (variant : next.variant = v.variant) (content : next.isNull = false) :
    ∃ w, r.write l next = .ok w := by
  obtain ⟨f, column, t, leaf, stores⟩ := read?_eq_some_iff.1 h
  have old : t.admits v = true := by
    have slot := fits.leaf leaf
    rwa [stores.kind] at slot
  refine exists_write_of_admits leaf stores ?_
  simp only [ScalarType.admits, Bool.and_eq_true, beq_iff_eq] at old ⊢
  exact ⟨variant.trans old.1, by simp [content]⟩

theorem embedded?_put_of_ne {j : Nat} (h : i ≠ j) (slot : Slot) :
    (r.put i slot).embedded? j = r.embedded? j := by
  rw [embedded?, embedded?, cell?_put_of_ne h]

theorem plain?_put_of_ne {j : Nat} (h : i ≠ j) (slot : Slot) :
    (r.put i slot).plain? j = r.plain? j := by
  rw [plain?, plain?, embedded?_put_of_ne h, cell?_put_of_ne h]

/-- Another content of a field that embeds nothing changes none but that field. -/
private theorem bind_plain?_put {c : Field × Slot} {slot : Slot} (hp : r.plain? i = some c)
    (plain : ∀ e, slot ≠ .embedded e) {path : List Nat} {j : Nat} (ne : path ++ [j] ≠ [i]) :
    ((r.put i slot).within? path).bind (·.plain? j) = (r.within? path).bind (·.plain? j) := by
  obtain ⟨f, old⟩ := c
  obtain ⟨nothing, hc⟩ := plain?_eq_some_iff.1 hp
  cases path with
  | nil =>
    have apart : i ≠ j := by
      rintro rfl
      exact ne rfl
    simp only [within?, Option.bind_some, plain?_put_of_ne apart]
  | cons k rest =>
    have same : (r.put i slot).embedded? k = r.embedded? k := by
      by_cases here : i = k
      · subst here
        rw [nothing, embedded?_eq_none_of_slot plain (cell?_put_self hc _)]
      · exact embedded?_put_of_ne here _
    simp only [within?, same]

/-- Another content of a field that embeds nothing, in an embedded record, changes no field but the
one at its locator. -/
theorem leaf?_putWithin_of_ne {c : Field × Slot} {slot : Slot} (hw : r.within? path = some inner)
    (hp : inner.plain? i = some c) (plain : ∀ e, slot ≠ .embedded e) (ne : m ≠ ⟨path ++ [i]⟩) :
    (r.putWithin (inner.put i slot) path).leaf? m = r.leaf? m := by
  obtain ⟨path', j, rfl⟩ | rfl := m.eq_append_or_eq_nil
  · rw [leaf?_append, leaf?_append]
    have apart : path' ++ [j] ≠ path ++ [i] := fun same => ne (by rw [same])
    -- both paths are followed as long as they agree
    clear ne
    induction path generalizing r path' with
    | nil =>
      obtain rfl := Option.some.inj hw
      exact bind_plain?_put hp plain apart
    | cons k rest ih =>
      obtain ⟨e, he, hr⟩ := Option.bind_eq_some_iff.1 hw
      simp only [putWithin, he]
      cases path' with
      | nil =>
        simp only [within?, Option.bind_some]
        by_cases here : k = j
        · subst here
          rw [plain?_eq_none_of_embedded he,
            plain?_eq_none_of_embedded (embedded?_put_self he _)]
        · exact plain?_put_of_ne here _
      | cons k' rest' =>
        by_cases here : k = k'
        · subst here
          have later : rest' ++ [j] ≠ rest ++ [i] := by
            intro same
            exact apart (by rw [List.cons_append, List.cons_append, same])
          simp only [within?, embedded?_put_self he, he, Option.bind_some]
          exact ih hr rest' later
        · simp only [within?, embedded?_put_of_ne here]
  · simp [leaf?, Locator.split?]

/-- A write changes no field but the one at its locator. -/
theorem leaf?_write_of_ne (h : r.write l v = .ok w) (ne : m ≠ l) : w.leaf? m = r.leaf? m := by
  obtain ⟨path, i, rfl⟩ := exists_path_of_write h
  obtain ⟨inner, changed, hw, hs, rfl⟩ := write_eq_ok_iff.1 h
  obtain ⟨name, column, tag, t, old, hc, -, rfl⟩ := set_eq_ok_iff.1 hs
  exact leaf?_putWithin_of_ne hw (plain?_eq_scalar_iff.2 hc) (by simp) ne

end Record

/-! ## Reading a row -/

section Row

variable {row : Row} {s : Schema} {r : Record}

theorem slotsFromRow_eq_ok_iff {fields : List Field} {slots : List Slot} :
    slotsFromRow row fields = .ok slots ↔
      List.Forall₂ (fun slot f => f.fromRow row = .ok slot) slots fields := by
  induction fields generalizing slots with
  | nil => cases slots <;> simp [slotsFromRow]
  | cons f rest ih =>
    rw [slotsFromRow]
    cases hf : f.fromRow row with
    | error err => cases slots <;> simp [hf]
    | ok slot =>
      cases hr : slotsFromRow row rest with
      | error err =>
        have none (tail : List Slot) :
            ¬ List.Forall₂ (fun slot f => Field.fromRow row f = .ok slot) tail rest := by
          rw [← ih, hr]
          simp
        cases slots <;> simp [none]
      | ok tail =>
        have all (tail' : List Slot) : tail = tail' ↔
            List.Forall₂ (fun slot f => Field.fromRow row f = .ok slot) tail' rest := by
          rw [← ih, hr, Except.ok.injEq]
        cases slots <;> simp [hf, all]

/-- A record is read from a row field by field. -/
theorem Schema.fromRow_eq_ok_iff : s.fromRow row = .ok r ↔ r.schema = s ∧
    List.Forall₂ (fun slot f => f.fromRow row = .ok slot) r.slots s.fields := by
  obtain ⟨type, fields⟩ := s
  obtain ⟨schema, slots⟩ := r
  rw [Schema.fromRow, ← slotsFromRow_eq_ok_iff]
  cases slotsFromRow row fields with
  | error err => simp
  | ok slots' => simp [@eq_comm _ schema]

/-- The value of a column is obtained if it is there and of the type. -/
theorem Row.get_eq_ok_iff {t : ScalarType} {column : String} {v : Value} :
    row.get t column = .ok v ↔ row.value? column = some v ∧ t.admits v = true := by
  unfold Row.get
  cases row.value? column with
  | none => simp
  | some w =>
    rw [ScalarType.decode_eq_ok_iff, Option.some.injEq, and_comm]
    exact and_congr_right fun same => by rw [same]

/-- A stored scalar is the value of its column in the row. -/
theorem Field.fromRow_of_scalar_iff {f : Field} {t : ScalarType} {column : String} {slot : Slot}
    (hk : f.kind = .scalar t) (hc : f.column = some column) : f.fromRow row = .ok slot ↔
      ∃ v, slot = .scalar v ∧ row.value? column = some v ∧ t.admits v = true := by
  obtain ⟨name, _, tag, _, guarded⟩ := f
  obtain rfl := hk
  obtain rfl := hc
  simp only [Field.fromRow, map_eq_ok_iff, Row.get_eq_ok_iff, and_comm, @eq_comm _ slot]

/-- An embedded record is read from the same row. -/
theorem Field.fromRow_of_flatten_iff {f : Field} {inner : Schema} {slot : Slot}
    (hk : f.kind = .flatten inner) :
    f.fromRow row = .ok slot ↔ ∃ e, slot = .embedded e ∧ inner.fromRow row = .ok e := by
  obtain ⟨name, column, tag, _, guarded⟩ := f
  obtain rfl := hk
  simp only [Field.fromRow, map_eq_ok_iff, and_comm, @eq_comm _ slot]

private theorem Field.fits_of_fromRow {f : Field} {slot : Slot}
    (hk : ∀ inner, f.kind ≠ .flatten inner) (h : f.fromRow row = .ok slot) : slot.Fits f.kind := by
  cases hc : f.column with
  | some column =>
    match hf : f.kind with
    | .flatten inner => exact absurd hf (hk inner)
    | .scalar t =>
      obtain ⟨v, rfl, -, admits⟩ := (Field.fromRow_of_scalar_iff hf hc).1 h
      exact admits
    | .one t | .many t | .ids t =>
      obtain ⟨name, _, tag, _, guarded⟩ := f
      cases hf
      obtain rfl := Except.ok.inj h
      simp [Slot.Fits]
  | none =>
    obtain ⟨name, _, tag, kind, guarded⟩ := f
    cases hc
    cases kind with
    | flatten inner => exact absurd rfl (hk inner)
    | scalar t =>
      obtain rfl := Except.ok.inj h
      exact t.admits_initial
    | _ =>
      obtain rfl := Except.ok.inj h
      simp [Slot.Fits]

/-- A record that was read from a row fits its schema. -/
theorem Schema.fits_of_fromRow (s : Schema) {r : Record} (h : s.fromRow row = .ok r) :
    r.Fits s := by
  obtain ⟨schema, slots⟩ := Schema.fromRow_eq_ok_iff.1 h
  refine Record.fits_iff.2 ⟨schema, List.forall₂_iff_get.2 ⟨slots.length_eq, ?_⟩⟩
  intro i hi hj
  have hf : s.fields[i]? = some (s.fields.get ⟨i, hj⟩) := List.getElem?_eq_getElem hj
  have read : (s.fields.get ⟨i, hj⟩).fromRow row = .ok (r.slots.get ⟨i, hi⟩) := slots.get hi hj
  by_cases embeds : ∃ inner, (s.fields.get ⟨i, hj⟩).kind = .flatten inner
  · obtain ⟨inner, hk⟩ := embeds
    obtain ⟨e, he, inside⟩ := (Field.fromRow_of_flatten_iff hk).1 read
    rw [he, hk]
    exact Schema.fits_of_fromRow inner inside
  · exact Field.fits_of_fromRow (fun inner hk => embeds ⟨inner, hk⟩) read
termination_by sizeOf s
decreasing_by exact Schema.sizeOf_lt_of_flatten hf hk

/-- The records that a record embeds are read from the same row. -/
theorem Record.fromRow_within {path : List Nat} {inner : Record} (h : s.fromRow row = .ok r)
    (hw : r.within? path = some inner) : inner.schema.fromRow row = .ok inner := by
  induction path generalizing r s with
  | nil =>
    obtain rfl := Option.some.inj hw
    have schema := (Schema.fromRow_eq_ok_iff.1 h).1
    rwa [schema]
  | cons k rest ih =>
    obtain ⟨e, he, hr⟩ := Option.bind_eq_some_iff.1 hw
    obtain ⟨f, t, hc, hk⟩ := Record.embedded?_eq_some_iff.1 he
    obtain ⟨schema, slots⟩ := Schema.fromRow_eq_ok_iff.1 h
    obtain ⟨hf, hs⟩ := Record.cell?_eq_some_iff.1 hc
    rw [schema] at hf
    have read : f.fromRow row = .ok (.embedded e) :=
      @forall₂_getElem? _ _ (fun slot f => Field.fromRow row f = .ok slot) _ _ _ _ _ slots hs hf
    obtain ⟨e', same, inside⟩ := (Field.fromRow_of_flatten_iff hk).1 read
    obtain rfl := Slot.embedded.inj same
    exact ih inside hr

/-- What a record that was read from a row holds at a locator is the value of a column there. -/
theorem Record.exists_column_of_fromRow {l : Locator} {v : Value} (h : s.fromRow row = .ok r)
    (hv : r.read? l = some v) :
    ∃ f column, s.fieldAt? l = some f ∧ f.column = some column ∧ row.value? column = some v := by
  obtain ⟨path, i, rfl⟩ := Record.exists_path_of_read? hv
  rw [Record.read?_append] at hv
  obtain ⟨inner, hw, hi⟩ := Option.bind_eq_some_iff.1 hv
  obtain ⟨name, column, tag, t, hc⟩ := Record.value?_eq_some_iff.1 hi
  obtain ⟨hf, hs⟩ := Record.cell?_eq_some_iff.1 hc
  have field := ((s.fits_of_fromRow h).within hw).2 i
  rw [hf] at field
  have slots := (Schema.fromRow_eq_ok_iff.1 (Record.fromRow_within h hw)).2
  have read : (⟨name, some column, tag, .scalar t, false⟩ : Field).fromRow row = .ok (.scalar v) :=
    @forall₂_getElem? _ _ (fun slot f => Field.fromRow row f = .ok slot) _ _ _ _ _ slots hs hf
  obtain ⟨v', same, value, -⟩ := (Field.fromRow_of_scalar_iff rfl rfl).1 read
  obtain rfl := Slot.scalar.inj same
  exact ⟨_, column, field, rfl, value⟩

/-- What a record that was read from a row holds in a column is the value of the column there. -/
theorem Record.value?_of_fromRow {column : String} {v : Value} (h : s.fromRow row = .ok r)
    (hv : r.column? column = some v) : row.value? column = some v := by
  obtain ⟨l, hl, hr⟩ := Option.bind_eq_some_iff.1 hv
  rw [(s.fits_of_fromRow h).schema_eq] at hl
  obtain ⟨-, f, hf, stored⟩ := Schema.fieldAt?_of_locateColumn? hl
  obtain ⟨f', column', hf', stored', value⟩ := Record.exists_column_of_fromRow h hr
  obtain rfl := Option.some.inj (hf.symm.trans hf')
  obtain rfl := Option.some.inj (stored.symm.trans stored')
  exact value

end Row

end EntityMap
