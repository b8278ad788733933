import EntityMap.Locator

/-!
# Laws of the walk

The walk of a schema is the concatenation of what its fields give, and the entry that a lookup
takes is a least deep one of those that match.
-/

namespace EntityMap

/-- The walk of a schema is that of its fields, counted from zero. -/
theorem Schema.walk_eq (s : Schema) : s.walk = walkFields 0 s.fields := by
  cases s
  rfl

/-- A field that embeds no record is an entry by itself. -/
theorem Field.walkAt_of_plain {f : Field} (h : ∀ s, f.kind ≠ .flatten s) (i : Nat) :
    f.walkAt i = [⟨⟨[i]⟩, f⟩] := by
  obtain ⟨name, column, tag, kind, guarded⟩ := f
  cases kind with
  | flatten s => exact absurd rfl (h s)
  | _ => rfl

/-- A field that embeds a record gives the entries of that record. -/
theorem Field.walkAt_of_flatten {f : Field} {s : Schema} (h : f.kind = .flatten s) (i : Nat) :
    f.walkAt i = s.walk.map (·.within i) := by
  obtain ⟨name, column, tag, kind, guarded⟩ := f
  cases h
  rfl

/-- An entry comes from one of the fields. -/
theorem mem_walkFields {e : Entry} {i : Nat} {fields : List Field} :
    e ∈ walkFields i fields ↔
      ∃ (j : Nat) (f : Field), fields[j]? = some f ∧ e ∈ f.walkAt (i + j) := by
  induction fields generalizing i with
  | nil => simp [walkFields]
  | cons f rest ih =>
    simp only [walkFields, List.mem_append, ih]
    constructor
    · rintro (h | ⟨j, g, hg, h⟩)
      · exact ⟨0, f, rfl, h⟩
      · exact ⟨j + 1, g, hg, by rwa [Nat.add_right_comm] at h⟩
    · rintro ⟨_ | j, g, hg, h⟩
      · cases hg
        exact .inl h
      · exact .inr ⟨j, g, hg, by rwa [Nat.add_right_comm]⟩

namespace Schema

/-- Of no entries there is no shallowest. -/
theorem shallowest?_eq_none_iff {es : List Entry} : shallowest? es = none ↔ es = [] := by
  cases es with
  | nil => simp [shallowest?]
  | cons e rest => cases h : shallowest? rest <;> simp [shallowest?, h]; split <;> simp

/-- The shallowest entry is one of them. -/
theorem mem_of_shallowest? {es : List Entry} {e : Entry} (h : shallowest? es = some e) :
    e ∈ es := by
  induction es generalizing e with
  | nil => simp [shallowest?] at h
  | cons x rest ih => cases hr : shallowest? rest <;> grind [shallowest?]

/-- No entry is less deep than the shallowest. -/
theorem depth_le_of_shallowest? {es : List Entry} {e x : Entry} (h : shallowest? es = some e)
    (hx : x ∈ es) : e.locator.depth ≤ x.locator.depth := by
  induction es generalizing e with
  | nil => simp at hx
  | cons y rest ih => cases hr : shallowest? rest <;> grind [shallowest?, shallowest?_eq_none_iff]

end Schema
end EntityMap
