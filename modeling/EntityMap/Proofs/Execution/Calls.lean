import EntityMap.Execution

/-!
# Statements that reach an executor

What an operation does to a store is seen from the statements that it hands to the executor and the
answers that it gets. An executor that notes both behaves as the one it is made from.
-/

namespace EntityMap

open Sql

/-- A statement that was handed to an executor, with the answer. -/
inductive Exchange where
  | write (query : Query) (answer : Except Error Outcome)
  | read (query : Query) (answer : Except Error (List Row))

/-- The executor that notes each statement with the answer to it. -/
def Executor.noting {σ : Type} (ex : Executor σ) : Executor (σ × List Exchange) where
  execute q noted :=
    match ex.execute q noted.1 with
    | (answer, store) => (answer, store, noted.2 ++ [.write q answer])
  queryAll q noted :=
    match ex.queryAll q noted.1 with
    | (answer, store) => (answer, store, noted.2 ++ [.read q answer])

/-- The run without the notes. -/
def Run.forget {σ α : Type} (run : Run (σ × List Exchange) α) : Run σ α :=
  ⟨run.record, run.store.1, run.result⟩

namespace Executor

section Sequence

variable {σ : Type} (ex : Executor σ)

/-- Runs statements one after another, until one fails. -/
def executeAll : List Query → σ → Except Error Unit × σ
  | [], store => (.ok (), store)
  | q :: qs, store =>
    match ex.execute q store with
    | (.error err, store) => (.error err, store)
    | (.ok _, store) => executeAll qs store

end Sequence

section Notes

variable {σ : Type} (ex : Executor σ) (reg : Registry) (hooks : Hooks) (r : Record) (store : σ)
  (notes : List Exchange)

theorem execute_noting (q : Query) : ex.noting.execute q (store, notes) =
    ((ex.execute q store).1, (ex.execute q store).2,
      notes ++ [.write q (ex.execute q store).1]) := rfl

theorem queryAll_noting (q : Query) : ex.noting.queryAll q (store, notes) =
    ((ex.queryAll q store).1, (ex.queryAll q store).2,
      notes ++ [.read q (ex.queryAll q store).1]) := rfl

/-- Notes change nothing about an insertion. -/
theorem forget_noting_insert :
    (ex.noting.insert reg hooks r (store, notes)).forget = ex.insert reg hooks r store := by
  unfold insert
  cases reg.entityOf r.type with
  | error err => rfl
  | ok e =>
    rcases reg.insert hooks r with ⟨r, err | query⟩
    · rfl
    · simp only [execute_noting]
      rcases ex.execute query store with ⟨err | outcome, store⟩
      · rfl
      · cases applied : e.applyInsertId r outcome <;> simp [Run.forget, applied]

/-- Notes change nothing about an update. -/
theorem forget_noting_update :
    (ex.noting.update reg hooks r (store, notes)).forget = ex.update reg hooks r store := by
  unfold update
  cases reg.entityOf r.type with
  | error err => rfl
  | ok e =>
    rcases reg.updateById hooks r with ⟨r, err | query⟩
    · rfl
    · simp only [execute_noting]
      rcases ex.execute query store with ⟨err | outcome, store⟩
      · rfl
      · cases one : outcome.expectOneRow with
        | error err => simp [Run.forget, one]
        | ok outcome =>
          cases e.advanceVersion r <;> simp [Run.forget, one]

/-- Notes change nothing about a reconciliation. -/
theorem forget_noting_syncRelation (relation : String) :
    (ex.noting.syncRelation reg r relation (store, notes)).forget =
      ex.syncRelation reg r relation store := by
  unfold syncRelation
  cases reg.reconcile r relation with
  | error err => rfl
  | ok plan =>
    simp only [execute_noting]
    rcases ex.execute plan.delete store with ⟨err | outcome, store⟩
    · rfl
    · cases plan.insert with
      | none => rfl
      | some q =>
        simp only [executeOptional, execute_noting]
        rcases ex.execute q store with ⟨err | outcome, store⟩ <;> rfl

/-- Notes change nothing about the loading of a relation. -/
theorem forget_noting_loadRelation (catalog : Catalog) (relation : String) :
    (ex.noting.loadRelation reg catalog r relation (store, notes)).forget =
      ex.loadRelation reg catalog r relation store := by
  unfold loadRelation
  rcases reg.selectRelationTarget r relation with err | ⟨query, l, held⟩
  · rfl
  · simp only [queryAll_noting]
    rcases ex.queryAll query store with ⟨err | rows, store⟩
    · rfl
    · cases filling : held.fill catalog rows <;> simp [Run.forget, filling]

end Notes

end Executor

/-- What becomes of a load whose selection and handle are found: the executor fails, the rows cannot
be read, or they are put through the handle. -/
theorem Executor.loadRelation_cases {σ : Type} (ex : Executor σ) {reg : Registry} {r : Record}
    {relation : String} {q : Query} {l : Locator} {held : Handle} {run : Run σ Nat}
    (target : reg.selectRelationTarget r relation = .ok (q, l, held)) (catalog : Catalog)
    (store : σ) (h : ex.loadRelation reg catalog r relation store = run) :
    run.store = (ex.queryAll q store).2 ∧
    ((∃ err, (ex.queryAll q store).1 = .error err ∧ run.record = r ∧ run.result = .error err) ∨
      ∃ rows, (ex.queryAll q store).1 = .ok rows ∧
        ((∃ err, held.fill catalog rows = .error err ∧ run.record = r ∧ run.result = .error err) ∨
          ∃ filled, held.fill catalog rows = .ok filled ∧ run.record = r.putHandle l filled ∧
            run.result = .ok rows.length)) := by
  subst h
  unfold loadRelation
  rcases answer : ex.queryAll q store with ⟨err | rows, store'⟩
  · simp [target, answer]
  · cases filling : held.fill catalog rows <;> simp [target, answer, filling]

/-- The statements in the order in which they are run. -/
def Reconciliation.queries (plan : Reconciliation) : List Query :=
  plan.delete :: plan.insert.toList

/-- A reconciliation runs its statements, whatever executor it is given. -/
theorem Executor.syncRelation_eq_executeAll {σ : Type} (ex : Executor σ) {reg : Registry}
    {r : Record} {relation : String} {plan : Reconciliation}
    (ok : reg.reconcile r relation = .ok plan) (store : σ) :
    ex.syncRelation reg r relation store = ⟨r, (ex.executeAll plan.queries store).2,
      (ex.executeAll plan.queries store).1.map fun _ => plan⟩ := by
  obtain ⟨delete, insert⟩ := plan
  simp only [syncRelation, ok, Reconciliation.queries, executeAll]
  rcases ex.execute delete store with ⟨err | outcome, store⟩
  · rfl
  · cases insert with
    | none => rfl
    | some q =>
      simp only [executeOptional, Option.toList, executeAll]
      rcases ex.execute q store with ⟨err | outcome, store⟩ <;> rfl

end EntityMap
