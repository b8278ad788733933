import EntityMap.Registry
import Mathlib.Data.List.Forall2

/-!
# Success and failure of computations in steps

When a computation in steps succeeds, each of its steps has succeeded; when it fails, it fails with
the error of one of them. The lemmas here take both apart, so that no proof opens the sequencing
itself.
-/

namespace EntityMap

variable {ε α β γ : Type}

/-! ## Success -/

/-- Two steps succeed just if the first does and the second does with its result. -/
theorem bind_eq_ok_iff {x : Except ε α} {f : α → Except ε β} {b : β} :
    x >>= f = .ok b ↔ ∃ a, x = .ok a ∧ f a = .ok b := by
  cases x with
  | error e => simp [bind, Except.bind]
  | ok a => simp [bind, Except.bind]

/-- A result that is worked on further is there just if the first result is. -/
theorem map_eq_ok_iff {x : Except ε α} {f : α → β} {b : β} :
    x.map f = .ok b ↔ ∃ a, x = .ok a ∧ f a = b := by
  cases x with
  | error e => simp [Except.map]
  | ok a => simp [Except.map]

/-- A traversal succeeds just if every step does, each with the result at its place. -/
theorem mapM_eq_ok_iff {f : α → Except ε β} {xs : List α} {ys : List β} :
    xs.mapM f = .ok ys ↔ List.Forall₂ (fun x y => f x = .ok y) xs ys := by
  induction xs generalizing ys with
  | nil => cases ys <;> simp [pure, Except.pure]
  | cons x xs ih =>
    rw [List.mapM_cons, bind_eq_ok_iff]
    simp only [bind_eq_ok_iff, pure, Except.pure, Except.ok.injEq, ih]
    constructor
    · rintro ⟨y, hy, rest, hrest, rfl⟩
      exact .cons hy hrest
    · intro h
      cases h with
      | cons hy hrest => exact ⟨_, hy, _, hrest, rfl⟩

/-- Where each member of a list has a partner, there is a list of partners. -/
theorem exists_forall₂ {R : α → β → Prop} {xs : List α} (h : ∀ x ∈ xs, ∃ y, R x y) :
    ∃ ys, List.Forall₂ R xs ys := by
  induction xs with
  | nil => exact ⟨[], .nil⟩
  | cons x rest ih =>
    obtain ⟨y, here⟩ := h x List.mem_cons_self
    obtain ⟨ys, later⟩ := ih fun z hz => h z (.tail _ hz)
    exact ⟨y :: ys, .cons here later⟩

/-! ## Failure -/

/-- What does not fail succeeds. -/
theorem exists_eq_ok_iff {x : Except ε α} : (∃ a, x = .ok a) ↔ ∀ err, x ≠ .error err := by
  cases x <;> simp

/-- What is thrown is the error. -/
@[simp]
theorem throw_eq_error (err : ε) : (throw err : Except ε α) = .error err :=
  rfl

/-- Two steps fail just if the first does, or the second does with the result of the first. -/
theorem bind_eq_error_iff {x : Except ε α} {f : α → Except ε β} {err : ε} :
    x >>= f = .error err ↔ x = .error err ∨ ∃ a, x = .ok a ∧ f a = .error err := by
  cases x with
  | error e => simp [bind, Except.bind]
  | ok a => simp [bind, Except.bind]

/-- A result that is worked on further fails to be there just as the first result does. -/
theorem map_eq_error_iff {x : Except ε α} {f : α → β} {err : ε} :
    x.map f = .error err ↔ x = .error err := by
  cases x with
  | error e => simp [Except.map]
  | ok a => simp [Except.map]

/-- A traversal fails with the error of one of its steps. -/
theorem exists_of_mapM_eq_error {f : α → Except ε β} {xs : List α} {err : ε}
    (h : xs.mapM f = .error err) : ∃ x ∈ xs, f x = .error err := by
  induction xs with
  | nil => simp [pure, Except.pure] at h
  | cons x rest ih =>
    simp only [List.mapM_cons, bind_eq_error_iff, pure, Except.pure, reduceCtorEq, and_false,
      exists_false, or_false] at h
    rcases h with here | ⟨-, -, later⟩
    · exact ⟨x, List.mem_cons_self, here⟩
    · obtain ⟨y, hy, failed⟩ := ih later
      exact ⟨y, .tail _ hy, failed⟩

/-- Steps that hand on a state fail with the error of one of them. -/
theorem exists_of_foldlM_eq_error {f : β → α → Except ε β} {xs : List α} {b : β} {err : ε}
    (h : xs.foldlM f b = .error err) : ∃ x ∈ xs, ∃ b', f b' x = .error err := by
  induction xs generalizing b with
  | nil => simp [pure, Except.pure] at h
  | cons x rest ih =>
    rw [List.foldlM_cons, bind_eq_error_iff] at h
    rcases h with here | ⟨next, -, later⟩
    · exact ⟨x, List.mem_cons_self, b, here⟩
    · obtain ⟨y, hy, failed⟩ := ih later
      exact ⟨y, .tail _ hy, failed⟩

/-- A traversal by steps that all fail in one way does not get beyond the first. -/
theorem mapM_of_error {f : α → Except ε β} {err : ε} (fails : ∀ x, f x = .error err)
    (xs : List α) : xs.mapM f = if xs = [] then .ok [] else .error err := by
  cases xs with
  | nil => rfl
  | cons x rest => simp [fails, bind, Except.bind]

/-! ## Results that are worked on further -/

/-- It matters only what the second step does with what the first can hand to it. -/
theorem bind_congr_of_ok {x : Except ε α} {k l : α → Except ε β}
    (h : ∀ a, x = .ok a → k a = l a) : x >>= k = x >>= l := by
  cases x with
  | error err => rfl
  | ok a => exact h a rfl

/-- What is done with the result of two steps is done with that of the second. -/
theorem map_of_bind (x : Except ε α) (k : α → Except ε β) (g : β → γ) :
    (x >>= k).map g = x >>= fun a => (k a).map g := by
  cases x <;> rfl

/-- What is done with the result of the first step is done before the second. -/
theorem bind_of_map (x : Except ε α) (g : α → β) (k : β → Except ε γ) :
    x.map g >>= k = x >>= fun a => k (g a) := by
  cases x <;> rfl

/-- What is done with a result one after the other is done at once. -/
theorem map_of_map (x : Except ε α) (g : α → β) (k : β → γ) :
    (x.map g).map k = x.map fun a => k (g a) := by
  cases x <;> rfl

/-! ## Registered entities -/

/-- An entity is obtained for a type just if it is found there. -/
theorem Registry.entityOf_eq_ok_iff {r : Registry} {t : RecordType} {e : Entity} :
    r.entityOf t = .ok e ↔ r.ofType? t = some e := by
  unfold entityOf
  cases r.ofType? t <;> simp

/-- An entity is obtained for a name just if it is found there. -/
theorem Registry.entityNamed_eq_ok_iff {r : Registry} {name : String} {e : Entity} :
    r.entityNamed name = .ok e ↔ r.named? name = some e := by
  unfold entityNamed
  cases r.named? name <;> simp

/-- A type that is not registered is told by its name. -/
theorem Registry.entityOf_eq_error_iff {r : Registry} {t : RecordType} {err : Error} :
    r.entityOf t = .error err ↔ r.ofType? t = none ∧ err = .notRegistered t.name := by
  unfold entityOf
  cases r.ofType? t <;> simp [eq_comm]

/-- A name that is not registered is told. -/
theorem Registry.entityNamed_eq_error_iff {r : Registry} {name : String} {err : Error} :
    r.entityNamed name = .error err ↔ r.named? name = none ∧ err = .notRegistered name := by
  unfold entityNamed
  cases r.named? name <;> simp [eq_comm]

end EntityMap
