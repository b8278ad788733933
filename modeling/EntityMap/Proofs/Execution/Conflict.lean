import EntityMap.Proofs.Execution.Checked

/-!
# Updates that end in a conflict

An update ends in a conflict for one reason: its statement reached the executor, and the answer was
not one row. Where no statement can be built the shape of the record is at fault, and so is it where
the version cannot be advanced afterwards. The hook has run by then, and nothing takes back what it
did: after a conflict the record is what the hook made of it.
-/

namespace EntityMap

open Sql

variable {σ : Type} {reg : Registry} {hooks : Hooks} {e : Entity} {r : Record} {err : Error}

/-! ## Errors after the statement -/

/-- A value that is refused is not a conflict. -/
private theorem Record.set_ne_conflict (r : Record) (i : Nat) (v : Value) :
    r.set i v ≠ .error .conflict := by
  unfold Record.set
  split
  · rw [Ne, map_eq_error_iff, ScalarType.decode]
    split <;> simp
  · simp

private theorem Record.write_ne_conflict (r : Record) (l : Locator) (v : Value) :
    r.write l v ≠ .error .conflict := by
  unfold Record.write
  split
  · simp
  · split
    · simp
    · rw [Ne, map_eq_error_iff]
      exact Record.set_ne_conflict _ _ v

/-- Nor is a version that cannot be advanced. -/
theorem Entity.advanceVersion_ne_conflict (e : Entity) (r : Record) :
    e.advanceVersion r ≠ .error .conflict := by
  intro h
  unfold Entity.advanceVersion at h
  split at h
  · simp at h
  · rw [bind_eq_error_iff] at h
    rcases h with h | ⟨current, -, h⟩
    · obtain ⟨fault, same⟩ := Entity.exists_shape_of_columnValue h
      simp at same
    rw [bind_eq_error_iff] at h
    rcases h with h | ⟨next, -, h⟩
    · obtain ⟨fault, same⟩ := exists_shape_of_nextVersion h
      simp at same
    · split at h
      · simp at h
      · exact Record.write_ne_conflict r _ next h

/-! ## Conflicts -/

/-- The answer of an executor is a conflict, or of another number of rows than one. -/
def IsConflicting (answer : Except Error Outcome) : Prop :=
  answer = .error .conflict ∨ ∃ outcome, answer = .ok outcome ∧ outcome.affected ≠ 1

theorem bind_expectOneRow_eq_conflict_iff {answer : Except Error Outcome} :
    answer.bind (·.expectOneRow) = .error .conflict ↔ IsConflicting answer := by
  cases answer with
  | error err => simp [IsConflicting, Except.bind]
  | ok outcome =>
    by_cases one : outcome.affected = 1
    · simp [IsConflicting, Except.bind, Outcome.expectOneRow, one]
    · simp [IsConflicting, Except.bind, Outcome.expectOneRow, one]

/-- An update whose statement cannot be built does not reach the executor. -/
theorem Executor.update_of_error (ex : Executor σ) (registered : reg.ofType? r.type = some e)
    (failed : e.update (hooks.beforeUpdate r) = .error err) (store : σ) :
    ex.update reg hooks r store = ⟨hooks.beforeUpdate r, store, .error err⟩ := by
  simp only [update, Registry.entityOf_eq_ok_iff.2 registered,
    Registry.updateById_of_ofType? registered, failed]

/-- Nor does that of a record whose type is not registered. -/
theorem Executor.update_of_unregistered (ex : Executor σ) (none : reg.ofType? r.type = none)
    (store : σ) :
    ex.update reg hooks r store = ⟨r, store, .error (.notRegistered r.type.name)⟩ := by
  simp [update, Registry.entityOf, none]

/-- An update whose statement was built ends in a conflict just if the answer to it is one. -/
private theorem Executor.update_eq_conflict_iff (ex : Executor σ)
    (registered : reg.ofType? r.type = some e) {q : Query}
    (built : e.update (hooks.beforeUpdate r) = .ok q) (store : σ) :
    (ex.update reg hooks r store).result = .error .conflict ↔
      IsConflicting (ex.execute q store).1 := by
  rw [update_eq ex registered built, ← bind_expectOneRow_eq_conflict_iff]
  cases (ex.execute q store).1.bind (·.expectOneRow) with
  | error err => rfl
  | ok outcome =>
    cases advanced : e.advanceVersion (hooks.beforeUpdate r) with
    | error err =>
      have apart : err ≠ .conflict := by
        rintro rfl
        exact e.advanceVersion_ne_conflict _ advanced
      simp [apart]
    | ok r' => simp

/-- An update that fails leaves the record as its hook left it, or alone if its type is not
registered. -/
theorem Executor.record_of_update_error (ex : Executor σ) (store : σ)
    (failed : (ex.update reg hooks r store).result = .error err) :
    (ex.update reg hooks r store).record =
      if (reg.ofType? r.type).isSome then hooks.beforeUpdate r else r := by
  cases registered : reg.ofType? r.type with
  | none => rw [update_of_unregistered ex registered]; rfl
  | some e =>
    cases built : e.update (hooks.beforeUpdate r) with
    | error err => rw [update_of_error ex registered built]; rfl
    | ok q =>
      rw [update_eq ex registered built] at failed ⊢
      cases answered : (ex.execute q store).1.bind (·.expectOneRow) with
      | error err => rfl
      | ok outcome =>
        cases advanced : e.advanceVersion (hooks.beforeUpdate r) with
        | error err => simp
        | ok r' => simp [answered, advanced] at failed

/-- An update ends in a conflict just if its statement was built and reached the executor, once, and
the answer was not one row. The record is then what the hook made of it. -/
theorem Executor.conflict_keeps_hook (ex : Executor σ) (reg : Registry) (hooks : Hooks)
    (r : Record) (store : σ) :
    let run := ex.update reg hooks r store
    let noted := ex.noting.update reg hooks r (store, [])
    noted.forget = run ∧
    (run.result = .error .conflict ↔ ∃ q answer, (reg.updateById hooks r).2 = .ok q ∧
      noted.store.2 = [.write q answer] ∧ IsConflicting answer) ∧
    (run.result = .error .conflict → run.record = hooks.beforeUpdate r) := by
  intro run noted
  refine ⟨ex.forget_noting_update reg hooks r store [], ?_⟩
  cases registered : reg.ofType? r.type with
  | none =>
    have unbuilt : (reg.updateById hooks r).2 = .error (.notRegistered r.type.name) := by
      simp [Registry.updateById, Registry.entityOf, registered]
    simp [run, update_of_unregistered ex registered, unbuilt]
  | some e =>
    have record (conflict : run.result = .error .conflict) :
        run.record = hooks.beforeUpdate r := by
      rw [show run = ex.update reg hooks r store from rfl, record_of_update_error ex store conflict,
        registered]
      rfl
    refine ⟨?_, record⟩
    simp only [Registry.updateById_of_ofType? registered]
    cases built : e.update (hooks.beforeUpdate r) with
    | error err =>
      obtain ⟨fault, rfl⟩ := Entity.exists_shape_of_update built
      simp [run, update_of_error ex registered built]
    | ok q =>
      have handed : noted.store.2 = [.write q (ex.execute q store).1] := by
        simp only [noted, update_eq _ registered built, execute_noting]
        cases (ex.execute q store).1.bind (·.expectOneRow) with
        | error err => rfl
        | ok outcome => cases e.advanceVersion (hooks.beforeUpdate r) <;> rfl
      rw [update_eq_conflict_iff ex registered built, handed]
      constructor
      · intro conflicting
        exact ⟨q, _, rfl, rfl, conflicting⟩
      · rintro ⟨q', answer, -, same, conflicting⟩
        rwa [(Exchange.write.inj (List.head_eq_of_cons_eq same)).2]

/-- Notes count how often they were to be updated. -/
private def counted : Entity where
  name := "note"
  storageName := "note"
  schema := ⟨⟨0, "Note"⟩, [⟨"id", some "id", "pk", .scalar ⟨.string, false⟩, false⟩,
    ⟨"updates", some "updates", "", .scalar ⟨.int .int64, false⟩, false⟩]⟩
  keyColumns := ["id"]

private def countedNote (updates : Int) : Record :=
  ⟨counted.schema, [.scalar (.ofString "k"), .scalar (.int .int64 (Bounded.ofInt? .int64 updates))]⟩

/-- Holds no rows, so that nothing can be updated. -/
private def nothing : Executor Unit where
  execute _ _ := (.ok {}, ())
  queryAll _ _ := (.ok [], ())

/-- The update of a note that is gone ends in a conflict, and the note has been counted up. -/
theorem conflict_counts_up :
    let hooks := Hooks.ofEdits [] [.add "updates" 1]
    counted.IsParsed ∧ counted.schema.Derived ∧ (countedNote 0).Fits counted.schema ∧
      nothing.update ⟨[counted]⟩ hooks (countedNote 0) () =
        ⟨countedNote 1, (), .error .conflict⟩ ∧ countedNote 1 ≠ countedNote 0 := by
  refine ⟨⟨some "note", counted, id, rfl, rfl⟩, by decide, ⟨rfl, rfl, rfl, trivial⟩, rfl, ?_⟩
  intro same
  have value := congrArg (Record.column? · "updates") same
  revert value
  decide

end EntityMap
