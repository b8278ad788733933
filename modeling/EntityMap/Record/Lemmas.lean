import EntityMap.Record

/-!
# Laws of access to records

Fields are independent of one another: what is put into one is found there and nowhere else, and
putting back what is there changes nothing. The same holds of the records at the ends of paths.
-/

namespace EntityMap

namespace Record

/-! ## Laws of access by index -/

@[simp] theorem schema_put (r : Record) (i : Nat) (s : Slot) : (r.put i s).schema = r.schema := rfl

@[simp] theorem type_put (r : Record) (i : Nat) (s : Slot) : (r.put i s).type = r.type := rfl

/-- A field is there with its content just if both lists reach so far. -/
theorem cell?_eq_some_iff {r : Record} {i : Nat} {f : Field} {s : Slot} :
    r.cell? i = some (f, s) ↔ r.schema.fields[i]? = some f ∧ r.slots[i]? = some s := by
  unfold cell?
  split <;> simp_all

/-- A slot that was put is there with its field. -/
theorem cell?_put_self {r : Record} {i : Nat} {f : Field} {old : Slot} (h : r.cell? i = some (f, old))
    (s : Slot) : (r.put i s).cell? i = some (f, s) := by
  obtain ⟨hf, hs⟩ := cell?_eq_some_iff.1 h
  exact cell?_eq_some_iff.2 ⟨hf, by grind [put]⟩

/-- Putting a slot leaves the other fields. -/
theorem cell?_put_of_ne {r : Record} {i j : Nat} (h : i ≠ j) (s : Slot) :
    (r.put i s).cell? j = r.cell? j := by
  simp [cell?, put, List.getElem?_set_ne h]

/-- Putting back what is there changes nothing. -/
theorem put_of_cell? {r : Record} {i : Nat} {f : Field} {s : Slot} (h : r.cell? i = some (f, s)) :
    r.put i s = r := by
  obtain ⟨-, hs⟩ := cell?_eq_some_iff.1 h
  obtain ⟨hi, rfl⟩ := List.getElem?_eq_some_iff.1 hs
  cases r
  simp [put]

/-- A value that was set is read back. -/
theorem value?_of_set {r w : Record} {i : Nat} {v : Value} (h : r.set i v = .ok w) :
    w.value? i = some v := by
  unfold set at h
  split at h
  · next column tag t old hc =>
    unfold ScalarType.decode at h
    split at h
    · simp only [Except.map, Except.ok.injEq] at h
      subst h
      rw [value?, cell?_put_self hc]
    · simp [Except.map] at h
  · simp at h

/-! ## Laws of access along a path -/

/-- An embedded record is there just if its field is one that embeds. -/
theorem embedded?_eq_some_iff {r e : Record} {i : Nat} :
    r.embedded? i = some e ↔
      ∃ f s, r.cell? i = some (f, .embedded e) ∧ f.kind = .flatten s := by
  unfold embedded?
  split
  · next name column tag s guarded e' hc =>
    simp only [Option.some.injEq, hc, Prod.mk.injEq, Slot.embedded.injEq]
    grind
  · next hne =>
    simp only [reduceCtorEq, false_iff, not_exists, not_and]
    rintro ⟨name, column, tag, kind, guarded⟩ s hc rfl
    exact hne _ _ _ _ _ _ hc

/-- An embedded record that was put is read back. -/
theorem embedded?_put_self {r e : Record} {i : Nat} (h : r.embedded? i = some e) (e' : Record) :
    (r.put i (.embedded e')).embedded? i = some e' := by
  obtain ⟨f, s, hc, hk⟩ := embedded?_eq_some_iff.1 h
  exact embedded?_eq_some_iff.2 ⟨f, s, cell?_put_self hc _, hk⟩

/-- The record put at the end of a path is there. -/
theorem within?_putWithin {r old : Record} {path : List Nat} (h : r.within? path = some old)
    (inner : Record) : (r.putWithin inner path).within? path = some inner := by
  induction path generalizing r with
  | nil => rfl
  | cons i rest ih =>
    obtain ⟨e, he, hr⟩ := Option.bind_eq_some_iff.1 h
    simp only [putWithin, he, within?, embedded?_put_self he, Option.bind_some]
    exact ih hr

/-- Putting back the record at the end of a path changes nothing. -/
theorem putWithin_of_within? {r inner : Record} {path : List Nat}
    (h : r.within? path = some inner) : r.putWithin inner path = r := by
  induction path generalizing r with
  | nil => exact (Option.some.inj h).symm
  | cons i rest ih =>
    obtain ⟨e, he, hr⟩ := Option.bind_eq_some_iff.1 h
    obtain ⟨f, s, hc, -⟩ := embedded?_eq_some_iff.1 he
    simp only [putWithin, he, ih hr]
    exact put_of_cell? hc

end Record

end EntityMap
