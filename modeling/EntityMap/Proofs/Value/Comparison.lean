import EntityMap.Value
import Mathlib.Data.List.Induction
import Mathlib.Data.List.Pairwise

/-!
# Comparing values

Equality of values is symmetric and transitive, and every value equals itself but for
floating-point numbers that are none. A database compares values by it and does not know the result
where one is null. Of values that compare with themselves, `Value.distinct` keeps one for each that
is listed.
-/

namespace EntityMap

open Number

namespace Number.Binary

variable {f : BinaryFormat} {x y z : Binary f}

theorem sameNumber_comm (x y : Binary f) : x.sameNumber y = y.sameNumber x := by
  simp only [sameNumber, Bool.and_comm, @BEq.comm _ _ _ x.bits]

theorem sameNumber_trans (h : x.sameNumber y = true) (h' : y.sameNumber z = true) :
    x.sameNumber z = true := by
  simp only [sameNumber, Bool.and_eq_true, Bool.or_eq_true, beq_iff_eq] at h h' ⊢
  obtain ⟨⟨nx, -⟩, same⟩ := h
  obtain ⟨⟨-, nz⟩, same'⟩ := h'
  refine ⟨⟨nx, nz⟩, ?_⟩
  rcases same with same | ⟨zx, zy⟩
  · have xy : x = y := by rw [Binary.mk.injEq]; exact same
    rwa [xy]
  · rcases same' with same' | ⟨-, zz⟩
    · have yz : y = z := by rw [Binary.mk.injEq]; exact same'
      exact .inr ⟨zx, yz ▸ zy⟩
    · exact .inr ⟨zx, zz⟩

end Number.Binary

namespace Value

variable {u v w : Value}

/-- Two values are the same as numbers of one format, or otherwise if they are equal. -/
theorem same_eq_true_iff : v.same w = true ↔
    (∃ x y, v = float (some x) ∧ w = float (some y) ∧ x.sameNumber y = true) ∨
    (∃ x y, v = double (some x) ∧ w = double (some y) ∧ x.sameNumber y = true) ∨
    (v = w ∧ (∀ x, v ≠ float (some x)) ∧ ∀ x, v ≠ double (some x)) := by
  unfold same
  split
  · simp
  · simp
  · next notFloat notDouble =>
    rw [beq_iff_eq]
    constructor
    · rintro rfl
      exact .inr (.inr ⟨rfl, fun x hx => notFloat x x hx hx, fun x hx => notDouble x x hx hx⟩)
    · rintro (⟨x, y, hx, hy, -⟩ | ⟨x, y, hx, hy, -⟩ | ⟨rfl, -⟩)
      · exact absurd hy (notFloat x y hx)
      · exact absurd hy (notDouble x y hx)
      · rfl

private theorem same_symm (h : v.same w = true) : w.same v = true := by
  rw [same_eq_true_iff] at h ⊢
  rcases h with ⟨x, y, rfl, rfl, same⟩ | ⟨x, y, rfl, rfl, same⟩ | ⟨rfl, other⟩
  · exact .inl ⟨y, x, rfl, rfl, by rwa [Binary.sameNumber_comm]⟩
  · exact .inr (.inl ⟨y, x, rfl, rfl, by rwa [Binary.sameNumber_comm]⟩)
  · exact .inr (.inr ⟨rfl, other⟩)

theorem same_comm (v w : Value) : v.same w = w.same v :=
  Bool.eq_iff_iff.2 ⟨same_symm, same_symm⟩

theorem same_trans (h : u.same v = true) (h' : v.same w = true) : u.same w = true := by
  rcases same_eq_true_iff.1 h with ⟨x, y, rfl, rfl, same⟩ | ⟨x, y, rfl, rfl, same⟩ | ⟨rfl, -⟩
  · rcases same_eq_true_iff.1 h' with ⟨y', z, hy, rfl, same'⟩ | ⟨y', z, hy, rfl, same'⟩ | ⟨-, ne, -⟩
    · cases hy
      exact Binary.sameNumber_trans same same'
    · simp at hy
    · exact absurd rfl (ne y)
  · rcases same_eq_true_iff.1 h' with ⟨y', z, hy, rfl, same'⟩ | ⟨y', z, hy, rfl, same'⟩ | ⟨-, -, ne⟩
    · simp at hy
    · cases hy
      exact Binary.sameNumber_trans same same'
    · exact absurd rfl (ne y)
  · exact h'

/-- Two values that are the same are of one variant, and both null or neither. -/
theorem isNull_of_same (h : v.same w = true) : v.isNull = w.isNull := by
  rcases same_eq_true_iff.1 h with ⟨x, y, rfl, rfl, -⟩ | ⟨x, y, rfl, rfl, -⟩ | ⟨rfl, -⟩ <;> rfl

/-! ## Comparison by a database -/

/-- The result of comparing two values; it is not known if one of them is null. Values of different
variants are not equal: a column holds values of one. -/
def equals? (v w : Value) : Option Bool := if v.isNull || w.isNull then none else some (v.same w)

/-- The value equals itself: it is neither null nor a floating-point datum that is no number. -/
def IsComparable (v : Value) : Prop := v.equals? v = some true

instance (v : Value) : Decidable v.IsComparable := inferInstanceAs (Decidable (_ = _))

theorem equals?_eq_true_iff :
    v.equals? w = some true ↔ v.isNull = false ∧ w.isNull = false ∧ v.same w = true := by
  cases hv : v.isNull <;> cases hw : w.isNull <;> simp [equals?, hv, hw]

theorem equals?_comm (v w : Value) : v.equals? w = w.equals? v := by
  rw [equals?, equals?, Bool.or_comm, same_comm]

theorem equals?_trans (h : u.equals? v = some true) (h' : v.equals? w = some true) :
    u.equals? w = some true := by
  rw [equals?_eq_true_iff] at h h' ⊢
  exact ⟨h.1, h'.2.1, same_trans h.2.2 h'.2.2⟩

/-- What equals something can be compared. -/
theorem isComparable_of_equals? (h : v.equals? w = some true) : v.IsComparable :=
  equals?_trans h (equals?_comm v w ▸ h)

/-- Equal values compare alike with any other. -/
theorem equals?_congr (h : u.equals? v = some true) (w : Value) : u.equals? w = v.equals? w := by
  have hu := equals?_eq_true_iff.1 h
  have same : u.same w = v.same w := by
    apply Bool.eq_iff_iff.2
    constructor
    · exact same_trans (same_comm u v ▸ hu.2.2)
    · exact same_trans hu.2.2
  rw [equals?, equals?, hu.1, hu.2.1, same]

/-- A value that can be compared is known to equal any other or not to equal it, unless that one is
null. -/
theorem IsComparable.isNull_eq_false (h : v.IsComparable) : v.isNull = false :=
  (equals?_eq_true_iff.1 h).1

/-! ## Distinct values -/

variable {vs : List Value}

private theorem distinct_append_singleton (vs : List Value) (v : Value) :
    distinct (vs ++ [v]) =
      if (distinct vs).any (same v) then distinct vs else distinct vs ++ [v] := by
  simp [distinct]

/-- No distinct value is made up. -/
theorem mem_of_mem_distinct (h : v ∈ distinct vs) : v ∈ vs := by
  induction vs using List.reverseRecOn with
  | nil => simp [distinct] at h
  | append_singleton vs w ih =>
    rw [distinct_append_singleton] at h
    split at h
    · exact List.mem_append_left _ (ih h)
    · rcases List.mem_append.1 h with h | h
      · exact List.mem_append_left _ (ih h)
      · exact List.mem_append_right _ h

/-- No two distinct values are the same. -/
theorem distinct_pairwise (vs : List Value) :
    (distinct vs).Pairwise fun v w => v.same w = false := by
  induction vs using List.reverseRecOn with
  | nil => simp [distinct]
  | append_singleton vs w ih =>
    rw [distinct_append_singleton]
    split
    · exact ih
    · next new =>
      refine List.pairwise_append.2 ⟨ih, List.pairwise_singleton _ _, ?_⟩
      intro v hv u hu
      rw [List.mem_singleton.1 hu, same_comm]
      have other : ∀ v ∈ distinct vs, w.same v = false := by simpa using new
      exact other v hv

/-- A value that equals itself is the same as one of the distinct ones. -/
theorem exists_mem_distinct (h : v ∈ vs) (self : v.same v = true) :
    ∃ w ∈ distinct vs, v.same w = true := by
  induction vs using List.reverseRecOn with
  | nil => simp at h
  | append_singleton vs w ih =>
    have grows {u : Value} (hu : u ∈ distinct vs) : u ∈ distinct (vs ++ [w]) := by
      rw [distinct_append_singleton]
      split
      · exact hu
      · exact List.mem_append_left _ hu
    rcases List.mem_append.1 h with h | h
    · obtain ⟨u, hu, same⟩ := ih h
      exact ⟨u, grows hu, same⟩
    · obtain rfl := List.mem_singleton.1 h
      by_cases kept : (distinct vs).any (same v) = true
      · obtain ⟨u, hu, same⟩ := List.any_eq_true.1 kept
        exact ⟨u, grows hu, same⟩
      · rw [distinct_append_singleton, if_neg kept]
        exact ⟨v, List.mem_append_right _ List.mem_cons_self, self⟩

/-- There is no distinct value just if there is no value. -/
theorem distinct_eq_nil_iff : distinct vs = [] ↔ vs = [] := by
  constructor
  · intro none
    induction vs using List.reverseRecOn with
    | nil => rfl
    | append_singleton vs w ih =>
      rw [distinct_append_singleton] at none
      split at none
      · next kept => simp [none] at kept
      · simp at none
  · rintro rfl
    rfl

end Value

end EntityMap
