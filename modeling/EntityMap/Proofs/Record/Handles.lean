import EntityMap.Proofs.Record.Access
import EntityMap.Record.Handle

/-!
# Handles of relation fields

A handle is the content of a relation field that gives access to it. What is put through a handle is
the content of that field, and every other field is as before.
-/

namespace EntityMap

namespace Handle

/-- What a field holds that has such a handle. -/
def kind : Handle → FieldKind
  | one target _ => .one (some target)
  | many target _ => .many (some target)
  | ids element _ => .ids element

@[simp] theorem shape?_kind (h : Handle) : h.kind.shape? = some h.shape := by
  cases h <;> rfl

/-- A relation field holds no embedded record. -/
theorem slot_ne_embedded (h : Handle) (e : Record) : h.slot ≠ .embedded e := by
  cases h <;> simp [slot]

end Handle

/-- A stored field is a scalar open to access, and a relation field gives access to its content. -/
structure Field.IsOpen (f : Field) : Prop where
  stored : ∀ c, f.column = some c → ∃ t, f.Stores c t
  related : ∀ shape, f.kind.shape? = some shape →
    f.guarded = false ∧ ∃ h : Handle, f.kind = h.kind ∧ h.shape = shape

namespace Record

variable {r inner : Record} {s : Schema} {h : Handle} {l m : Locator} {path : List Nat} {i : Nat}
  {f : Field} {slot : Slot} {c : Field × Slot}

/-- A field has a handle just if it is a relation field that gives access to its content. -/
theorem handle?_eq_some_iff : r.handle? i = some h ↔
    ∃ f, r.cell? i = some (f, h.slot) ∧ f.kind = h.kind ∧ f.guarded = false := by
  constructor
  · intro found
    unfold handle? at found
    split at found
    case h_4 => simp at found
    all_goals
      next hc =>
      obtain rfl := Option.some.inj found
      exact ⟨_, hc, rfl, rfl⟩
  · rintro ⟨⟨name, column, tag, kind, guarded⟩, hc, rfl, rfl⟩
    cases h <;> simp [handle?, hc, Handle.kind, Handle.slot]

/-- The content of a relation field is that of its handle. -/
theorem handleAt?_eq_some_iff : r.handleAt? l = some h ↔
    ∃ f, r.leaf? l = some (f, h.slot) ∧ f.kind = h.kind ∧ f.guarded = false := by
  obtain ⟨path, i, rfl⟩ | rfl := l.eq_append_or_eq_nil
  · have split : (⟨path ++ [i]⟩ : Locator).split? = some (path, i) := by simp [Locator.split?]
    simp only [handleAt?, split, leaf?_append, Option.bind_eq_some_iff, handle?_eq_some_iff,
      plain?_eq_slot_iff h.slot_ne_embedded]
    constructor
    · rintro ⟨inner, hw, f, hc, kind, accessible⟩
      exact ⟨f, ⟨inner, hw, hc⟩, kind, accessible⟩
    · rintro ⟨f, ⟨inner, hw, hc⟩, kind, accessible⟩
      exact ⟨inner, hw, f, hc, kind, accessible⟩
  · simp [handleAt?, leaf?, Locator.split?]

/-- A field holds keys just if it has a handle on keys. -/
theorem ids?_eq_some_iff {vs : List Value} :
    r.ids? i = some vs ↔ ∃ element, r.handle? i = some (.ids element vs) := by
  simp only [handle?_eq_some_iff]
  constructor
  · intro found
    unfold ids? at found
    split at found
    · next hc =>
      obtain rfl := Option.some.inj found
      exact ⟨_, _, hc, rfl, rfl⟩
    · simp at found
  · rintro ⟨element, ⟨name, column, tag, kind, guarded⟩, hc, rfl, rfl⟩
    simp [ids?, hc, Handle.slot, Handle.kind]

/-- The keys that a field holds are those of its handle. -/
theorem idsAt?_of_handleAt? {element : ScalarType} {vs : List Value}
    (held : r.handleAt? l = some (.ids element vs)) : r.idsAt? l = some vs := by
  unfold handleAt? at held
  unfold idsAt?
  cases hs : l.split? with
  | none => simp [hs] at held
  | some p =>
    obtain ⟨path, i⟩ := p
    simp only [hs, Option.bind_eq_some_iff, ids?_eq_some_iff] at held ⊢
    obtain ⟨inner, hw, held⟩ := held
    exact ⟨inner, hw, element, held⟩

/-- A slot that fits a field with a handle is the content of such a handle. -/
theorem exists_handle_of_fits (fits : slot.Fits h.kind) :
    ∃ held : Handle, held.kind = h.kind ∧ held.slot = slot := by
  cases h with
  | one target related =>
    cases slot with
    | one r => exact ⟨.one target r, rfl, rfl⟩
    | _ => simp [Handle.kind, Slot.Fits] at fits
  | many target related =>
    cases slot with
    | many rs => exact ⟨.many target rs, rfl, rfl⟩
    | _ => simp [Handle.kind, Slot.Fits] at fits
  | ids element values =>
    cases slot with
    | ids vs => exact ⟨.ids element vs, rfl, rfl⟩
    | _ => simp [Handle.kind, Slot.Fits] at fits

/-- In a record that fits, every relation field that gives access to its content has a handle. -/
theorem Fits.exists_handleAt? (fits : r.Fits s) (hl : r.leaf? l = some (f, slot))
    (kind : f.kind = h.kind) (accessible : f.guarded = false) :
    ∃ held, r.handleAt? l = some held ∧ held.kind = f.kind ∧ held.slot = slot := by
  have content := fits.leaf hl
  rw [kind] at content
  obtain ⟨held, same, rfl⟩ := exists_handle_of_fits content
  exact ⟨held, handleAt?_eq_some_iff.2 ⟨f, hl, kind.trans same.symm, accessible⟩,
    same.trans kind.symm, rfl⟩

theorem putHandle_append (hw : r.within? path = some inner) (h : Handle) :
    r.putHandle ⟨path ++ [i]⟩ h = r.putWithin (inner.put i h.slot) path := by
  simp [putHandle, Locator.split?, hw]

/-- A record with another content is of the same schema. -/
theorem schema_putHandle (hl : r.leaf? l = some c) (h : Handle) :
    (r.putHandle l h).schema = r.schema := by
  obtain ⟨path, i, rfl⟩ := exists_path_of_leaf? hl
  rw [leaf?_append] at hl
  obtain ⟨inner, hw, -⟩ := Option.bind_eq_some_iff.1 hl
  rw [putHandle_append hw]
  cases path with
  | nil =>
    obtain rfl := Option.some.inj hw
    rfl
  | cons j rest =>
    obtain ⟨e, he, -⟩ := Option.bind_eq_some_iff.1 hw
    simp [putWithin, he]

/-- What is put through a handle is the content of the field. -/
theorem leaf?_putHandle_self (hl : r.leaf? l = some (f, slot)) (h : Handle) :
    (r.putHandle l h).leaf? l = some (f, h.slot) := by
  obtain ⟨path, i, rfl⟩ := exists_path_of_leaf? hl
  rw [leaf?_append] at hl
  obtain ⟨inner, hw, hp⟩ := Option.bind_eq_some_iff.1 hl
  rw [putHandle_append hw, leaf?_append, within?_putWithin hw, Option.bind_some]
  exact (plain?_eq_slot_iff h.slot_ne_embedded).2 (cell?_put_self (plain?_eq_some_iff.1 hp).2 _)

/-- No other field is changed. -/
theorem leaf?_putHandle_of_ne (hl : r.leaf? l = some c) (h : Handle) (ne : m ≠ l) :
    (r.putHandle l h).leaf? m = r.leaf? m := by
  obtain ⟨path, i, rfl⟩ := exists_path_of_leaf? hl
  rw [leaf?_append] at hl
  obtain ⟨inner, hw, hp⟩ := Option.bind_eq_some_iff.1 hl
  rw [putHandle_append hw]
  exact leaf?_putWithin_of_ne hw hp h.slot_ne_embedded ne

end Record

end EntityMap
