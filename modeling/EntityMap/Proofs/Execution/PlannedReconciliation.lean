import EntityMap.Proofs.Execution.Calls
import EntityMap.Proofs.Statement.Reconciliation

/-!
# A reconciliation is planned before it is run

The deletion and the insertion of a reconciliation are planned together: one can be built just if
the other can, and where they cannot be, both fail with one error and nothing is run. So no links
are deleted whose replacements could not be put into a statement. Of the planned statements the
deletion is run first; the insertion is run only if the deletion did not fail, and if a key is
listed at all.
-/

namespace EntityMap

open Sql

/-- What becomes of a planned reconciliation: the exchanges with the executor, and the run. -/
inductive SyncResult {σ : Type} (ex : Executor σ) (r : Record) (plan : Reconciliation) (store : σ) :
    List Exchange → Run σ Reconciliation → Prop
  /-- The deletion failed, so that nothing was inserted. -/
  | undeleted {err : Error} {after : σ}
    (deletion : ex.execute plan.delete store = (.error err, after)) :
    SyncResult ex r plan store [.write plan.delete (.error err)] ⟨r, after, .error err⟩
  /-- There was nothing to insert. -/
  | emptied {outcome : Outcome} {after : σ}
    (deletion : ex.execute plan.delete store = (.ok outcome, after))
    (nothing : plan.insert = none) :
    SyncResult ex r plan store [.write plan.delete (.ok outcome)] ⟨r, after, .ok plan⟩
  /-- The insertion failed after the deletion. -/
  | uninserted {outcome : Outcome} {err : Error} {q : Query} {between after : σ}
    (deletion : ex.execute plan.delete store = (.ok outcome, between))
    (planned : plan.insert = some q) (insertion : ex.execute q between = (.error err, after)) :
    SyncResult ex r plan store [.write plan.delete (.ok outcome), .write q (.error err)]
      ⟨r, after, .error err⟩
  /-- Both statements were run. -/
  | replaced {outcome outcome' : Outcome} {q : Query} {between after : σ}
    (deletion : ex.execute plan.delete store = (.ok outcome, between))
    (planned : plan.insert = some q) (insertion : ex.execute q between = (.ok outcome', after)) :
    SyncResult ex r plan store [.write plan.delete (.ok outcome), .write q (.ok outcome')]
      ⟨r, after, .ok plan⟩

namespace Executor

variable {σ : Type} (ex : Executor σ) {reg : Registry} {r : Record} {relation : String}

/-- What could not be planned is not run. -/
theorem syncRelation_of_error {err : Error} (unplanned : reg.reconcile r relation = .error err)
    (store : σ) : ex.syncRelation reg r relation store = ⟨r, store, .error err⟩ := by
  simp only [syncRelation, unplanned]

/-- What was planned comes to one of its results. -/
theorem syncResult_of_plan {plan : Reconciliation} (planned : reg.reconcile r relation = .ok plan)
    (store : σ) :
    SyncResult ex r plan store (ex.noting.syncRelation reg r relation (store, [])).store.2
      (ex.syncRelation reg r relation store) := by
  simp only [syncRelation, planned, execute_noting]
  rcases deletion : ex.execute plan.delete store with ⟨err | outcome, between⟩
  · exact .undeleted deletion
  cases insert : plan.insert with
  | none => exact .emptied deletion insert
  | some q =>
    simp only [executeOptional, execute_noting]
    rcases insertion : ex.execute q between with ⟨err | outcome', after⟩
    · exact .uninserted deletion insert insertion
    · exact .replaced deletion insert insertion

/-- A reconciliation runs nothing unless all of it could be planned. The deletion and the insertion
fail to be built with one error, which is then that of the call, and nothing reaches the executor;
or both are built from the keys that the relation lists, each of them once, with an insertion just
if there are any. The deletion is then run first, and the insertion after it if it did not fail. -/
theorem syncRelation_runs_plan (reg : Registry) (r : Record) (relation : String) (store : σ) :
    let run := ex.syncRelation reg r relation store
    let noted := ex.noting.syncRelation reg r relation (store, [])
    noted.forget = run ∧
    ((∃ err, reg.reconcileDelete r relation = .error err ∧
        reg.reconcileInsert r relation = .error err ∧ run = ⟨r, store, .error err⟩ ∧
        noted.store.2 = []) ∨
      ∃ table join own ids plan, reg.Lists r relation table join own ids ∧
        plan = (⟨table, join, own, Value.distinct ids⟩ : JoinPlan).statements ∧
        reg.reconcileDelete r relation = .ok plan.delete ∧
        reg.reconcileInsert r relation = .ok plan.insert ∧
        (plan.insert.isSome = true ↔ Value.distinct ids ≠ []) ∧
        SyncResult ex r plan store noted.store.2 run) := by
  intro run noted
  refine ⟨ex.forget_noting_syncRelation reg r store [] relation, ?_⟩
  rw [Registry.reconcileDelete_eq, Registry.reconcileInsert_eq]
  cases planned : reg.joinPlan r relation with
  | error err =>
    have unplanned : reg.reconcile r relation = .error err := by
      rw [Registry.reconcile_eq, planned]
      rfl
    have silent : noted.store.2 = [] := by
      simp only [noted, syncRelation_of_error _ unplanned]
    exact .inl ⟨err, rfl, rfl, syncRelation_of_error ex unplanned store, silent⟩
  | ok p =>
    obtain ⟨table, join, own, ids, lists, rfl⟩ := Registry.joinPlan_eq_ok_iff.1 planned
    have reconciled := Registry.reconcile_eq_ok_iff.2 ⟨_, planned, rfl⟩
    refine .inr ⟨table, join, own, ids, _, lists, rfl, rfl, rfl, ?_,
      ex.syncResult_of_plan reconciled store⟩
    by_cases none : Value.distinct ids = [] <;> simp [JoinPlan.statements, none]

end Executor

end EntityMap
