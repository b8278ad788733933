import EntityMap.Proofs.Success
import EntityMap.Statement.Reconciliation

/-!
# The statements of a reconciliation

A reconciliation has its statements just where the relation of a record lists keys through a join
table; the insertion is there just if a key is listed.
-/

namespace EntityMap

open Sql

namespace Registry

variable {reg : Registry} {r : Record} {relation : String}

/-- A relation of a record lists keys that a join table is to pair with the key of the record. -/
def Lists (reg : Registry) (r : Record) (relation : String) (table : String) (join : JoinLink)
    (own : Value) (ids : List Value) : Prop :=
  ∃ e rel entry target, reg.ofType? r.type = some e ∧ e.relation? relation = some rel ∧
    rel.link = .belongsToManyIds join ∧ r.schema.relationEntry rel = .ok entry ∧
    r.idsAt? entry.locator = some ids ∧ reg.named? join.joinName = some target ∧
    table = target.storageName ∧ e.ownKey r = .ok own

theorem resolve_eq_ok_iff {p : Entity × Relation} :
    reg.resolve r relation = .ok p ↔
      reg.ofType? r.type = some p.1 ∧ p.1.relation? relation = some p.2 := by
  obtain ⟨e, rel⟩ := p
  simp only [resolve, bind_eq_ok_iff, entityOf_eq_ok_iff]
  constructor
  · rintro ⟨e', he, h⟩
    cases hr : e'.relation? relation with
    | none => simp [hr] at h
    | some rel' =>
      simp only [hr, pure, Except.pure, Except.ok.injEq, Prod.mk.injEq] at h
      obtain ⟨rfl, rfl⟩ := h
      exact ⟨he, hr⟩
  · rintro ⟨he, hr⟩
    exact ⟨e, he, by simp [hr, pure, Except.pure]⟩

/-- The plan of a relation is for the keys that it lists, each of them once. -/
theorem joinPlan_eq_ok_iff {p : JoinPlan} :
    reg.joinPlan r relation = .ok p ↔ ∃ table join own ids,
      reg.Lists r relation table join own ids ∧ p = ⟨table, join, own, Value.distinct ids⟩ := by
  simp only [joinPlan, bind_eq_ok_iff, resolve_eq_ok_iff]
  constructor
  · rintro ⟨⟨e, rel⟩, ⟨he, hrel⟩, h⟩
    cases hlink : rel.link with
    | belongsToManyIds join =>
      simp only [hlink, bind_eq_ok_iff] at h
      obtain ⟨entry, hentry, h⟩ := h
      cases hids : r.idsAt? entry.locator with
      | none => simp [hids] at h
      | some ids =>
        simp only [hids, bind_eq_ok_iff, entityNamed_eq_ok_iff, pure, Except.pure,
          Except.ok.injEq] at h
        obtain ⟨target, htarget, own, hown, rfl⟩ := h
        exact ⟨target.storageName, join, own, ids,
          ⟨e, rel, entry, target, he, hrel, hlink, hentry, hids, htarget, rfl, hown⟩, rfl⟩
    | _ => simp [hlink] at h
  · rintro ⟨table, join, own, ids,
      ⟨e, rel, entry, target, he, hrel, hlink, hentry, hids, htarget, rfl, hown⟩, rfl⟩
    refine ⟨⟨e, rel⟩, ⟨he, hrel⟩, ?_⟩
    simp only [hlink, bind_eq_ok_iff]
    refine ⟨entry, hentry, ?_⟩
    simp only [hids, bind_eq_ok_iff, entityNamed_eq_ok_iff]
    exact ⟨target, htarget, own, hown, rfl⟩

end Registry

namespace JoinPlan

variable (p : JoinPlan)

/-- The insertion of the desired pairs, which skips those that are there already. -/
def insertion : Query :=
  .insert p.table [p.join.ownColumn, p.join.otherColumn] (p.desired.map fun id => [p.own, id]) .skip

/-- The statements of the plan; it has an insertion just if something is desired. -/
def statements : Reconciliation :=
  ⟨p.delete, if p.desired = [] then none else some p.insertion⟩

/-- There is no other reason to have no insertion. -/
theorem insert_eq : p.insert = .ok p.statements.insert := by
  have width : (p.desired.map fun id => [p.own, id]).find?
      (·.length ≠ [p.join.ownColumn, p.join.otherColumn].length) = none := by
    simp
  unfold JoinPlan.insert insertMissing statements insertion
  rw [width]
  cases p.desired <;> rfl

end JoinPlan

namespace Registry

variable {reg : Registry} {r : Record} {relation : String}

/-- The deletion and the insertion are planned or fail together. -/
theorem reconcileDelete_eq (reg : Registry) (r : Record) (relation : String) :
    reg.reconcileDelete r relation = (reg.joinPlan r relation).map (·.statements.delete) :=
  rfl

theorem reconcileInsert_eq (reg : Registry) (r : Record) (relation : String) :
    reg.reconcileInsert r relation = (reg.joinPlan r relation).map (·.statements.insert) := by
  unfold reconcileInsert
  cases reg.joinPlan r relation with
  | error err => rfl
  | ok p => exact p.insert_eq

/-- A reconciliation fails just as its plan does. -/
theorem reconcile_eq (reg : Registry) (r : Record) (relation : String) :
    reg.reconcile r relation = (reg.joinPlan r relation).map (·.statements) := by
  rw [reconcile, reconcileDelete_eq, reconcileInsert_eq]
  cases reg.joinPlan r relation <;> rfl

theorem reconcile_eq_ok_iff {plan : Reconciliation} : reg.reconcile r relation = .ok plan ↔
    ∃ p, reg.joinPlan r relation = .ok p ∧ p.statements = plan := by
  rw [reconcile_eq, map_eq_ok_iff]

end Registry

end EntityMap
