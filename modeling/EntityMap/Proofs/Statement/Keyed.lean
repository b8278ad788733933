import EntityMap.Proofs.Entity.Parsed
import EntityMap.Proofs.Registry.History
import EntityMap.Statement.Keyed

/-!
# Statements that address a row by its key

Each builder of a statement for a single row gets one law that says when it succeeds and with which
statement, so that nothing else opens a builder.
-/

namespace EntityMap

open Sql

/-- What a row must satisfy for a statement to select, update or delete it. -/
def Sql.Query.filter : Query → List Predicate
  | .select _ _ _ filter | .update _ _ filter | .delete _ filter => filter
  | .insert .. => []

/-- The values that an update assigns to a column. -/
def Sql.Query.assigned (column : String) : Query → List Value
  | .update _ assignments _ => (assignments.filter (·.1 = column)).map (·.2)
  | _ => []

/-! ## The builders -/

/-- Key values are accepted just if there are as many as key columns. -/
theorem Entity.checkArity_eq_ok_iff {e : Entity} {keys : List Value} {u : Unit} :
    e.checkArity keys = .ok u ↔ keys.length = e.keyColumns.length := by
  unfold Entity.checkArity
  split <;> simp_all

/-- A record has as many key values as its entity has key columns. -/
theorem Entity.length_keyValues {e : Entity} {r : Record} {keys : List Value}
    (h : e.keyValues r = .ok keys) : keys.length = e.keyColumns.length :=
  (mapM_eq_ok_iff.1 h).length_eq.symm

theorem Entity.rowFilter_eq_ok_iff {e : Entity} {r : Record} {filter : List Predicate} :
    e.rowFilter r = .ok filter ↔ ∃ keys, e.keyValues r = .ok keys ∧ filter = e.keyFilter keys := by
  simp only [Entity.rowFilter, map_eq_ok_iff, @eq_comm _ filter]

theorem Entity.versionFilter_eq_ok_iff {e : Entity} {r : Record} {filter : List Predicate} :
    e.versionFilter r = .ok filter ↔
      (e.versionColumn = none ∧ filter = []) ∨
      ∃ column current, e.versionColumn = some column ∧ e.columnValue r column = .ok current ∧
        filter = [.eq column current] := by
  unfold Entity.versionFilter
  cases e.versionColumn with
  | none =>
    constructor
    · intro h
      exact .inl ⟨rfl, (Except.ok.inj h).symm⟩
    · rintro (⟨-, rfl⟩ | ⟨column, current, hc, -⟩)
      · rfl
      · simp at hc
  | some column =>
    constructor
    · intro h
      obtain ⟨current, hc, rfl⟩ := map_eq_ok_iff.1 h
      exact .inr ⟨column, current, rfl, hc, rfl⟩
    · rintro (⟨hn, -⟩ | ⟨column, current, hc, hv, rfl⟩)
      · simp at hn
      · obtain rfl := Option.some.inj hc
        exact map_eq_ok_iff.2 ⟨current, hv, rfl⟩

/-- An update assigns every column that is no key column the value of the record, and there must be
one. -/
theorem Entity.assignments_eq_ok_iff {e : Entity} {r : Record}
    {assignments : List (String × Value)} :
    e.assignments r = .ok assignments ↔ assignments ≠ [] ∧
      List.Forall₂ (fun c a => ∃ v, e.columnValue r c = .ok v ∧ (c, v) = a) e.plainColumns
        assignments := by
  simp only [Entity.assignments, Entity.valuesOf, bind_eq_ok_iff, mapM_eq_ok_iff, map_eq_ok_iff]
  constructor
  · rintro ⟨values, hv, h⟩
    cases values with
    | nil => simp [bind, Except.bind] at h
    | cons a rest =>
      obtain rfl := Except.ok.inj h
      exact ⟨List.cons_ne_nil a rest, hv⟩
  · rintro ⟨ne, hv⟩
    refine ⟨assignments, hv, ?_⟩
    cases assignments with
    | nil => exact absurd rfl ne
    | cons a rest => rfl

/-- The columns assigned are those that are no key columns. -/
theorem Entity.columns_of_assignments {e : Entity} {r : Record}
    {assignments : List (String × Value)} (h : e.assignments r = .ok assignments) :
    assignments.map (·.1) = e.plainColumns := by
  have all := (Entity.assignments_eq_ok_iff.1 h).2
  clear h
  generalize e.plainColumns = columns at all
  induction all with
  | nil => rfl
  | cons first _ ih =>
    obtain ⟨v, -, rfl⟩ := first
    rw [List.map_cons, ih]

/-- So are those of an update that gives one column another value. -/
theorem Entity.columns_of_advanced {e : Entity} {r : Record} {assignments : List (String × Value)}
    (h : e.assignments r = .ok assignments) (column : String) (next : Value) :
    (assignments.map fun a => if a.1 = column then (a.1, next) else a).map (·.1) =
      e.plainColumns := by
  rw [← Entity.columns_of_assignments h, List.map_map]
  apply List.map_congr_left
  intro a _
  simp only [Function.comp_apply]
  split <;> rfl

/-- It assigns that column the other value, and no more. -/
theorem Entity.assigned_of_advanced {e : Entity} {r : Record} {assignments : List (String × Value)}
    (h : e.assignments r = .ok assignments) (distinct : e.columns.Nodup) {column : String}
    (mem : column ∈ e.columns) (plain : column ∉ e.keyColumns) (next : Value) (table : String)
    (filter : List Predicate) :
    (Query.update table (assignments.map fun a => if a.1 = column then (a.1, next) else a)
      filter).assigned column = [next] := by
  have columns := Entity.columns_of_advanced h column next
  have values : ∀ a ∈ assignments.map fun a => if a.1 = column then (a.1, next) else a,
      a.1 = column → a.2 = next := by
    intro a ha name
    obtain ⟨b, -, rfl⟩ := List.mem_map.1 ha
    by_cases hb : b.1 = column
    · simp [hb]
    · simp [hb] at name
  generalize assignments.map _ = assignments at columns values
  have once : (assignments.filter (·.1 = column)).map (·.1) = [column] := by
    have nodup : e.plainColumns.Nodup := distinct.filter _
    have mem : column ∈ e.plainColumns := by
      rw [Entity.plainColumns, List.mem_filter]
      exact ⟨mem, by simpa [Entity.isKey] using plain⟩
    have filtered : (assignments.filter (·.1 = column)).map (·.1) =
        (assignments.map (·.1)).filter (· = column) := by
      rw [List.filter_map]
      rfl
    rw [filtered, columns, List.filter_eq, List.count_eq_one_of_mem nodup mem]
    rfl
  obtain ⟨a, single, -⟩ := List.map_eq_singleton_iff.1 once
  have ha : a ∈ assignments.filter (·.1 = column) := by simp [single]
  rw [List.mem_filter, decide_eq_true_eq] at ha
  simp [Query.assigned, single, values a ha.1 ha.2]

/-- The filter of an update pins the version, and its assignments advance it. -/
theorem Entity.update_eq_ok_iff {e : Entity} {r : Record} {q : Query} :
    e.update r = .ok q ↔ ∃ assignments keys,
      e.assignments r = .ok assignments ∧ e.keyValues r = .ok keys ∧
      ((e.versionColumn = none ∧ q = .update e.storageName assignments (e.keyFilter keys)) ∨
       ∃ column current next, e.versionColumn = some column ∧
        e.columnValue r column = .ok current ∧ nextVersion current = .ok next ∧
        q = .update e.storageName
          (assignments.map fun a => if a.1 = column then (a.1, next) else a)
          (e.keyFilter keys ++ [.eq column current])) := by
  simp only [Entity.update, bind_eq_ok_iff, Entity.rowFilter_eq_ok_iff]
  constructor
  · rintro ⟨assignments, ha, _, ⟨keys, hk, rfl⟩, h⟩
    refine ⟨assignments, keys, ha, hk, ?_⟩
    cases hv : e.versionColumn with
    | none =>
      simp only [hv, pure, Except.pure, Except.ok.injEq] at h
      exact .inl ⟨rfl, h.symm⟩
    | some column =>
      simp only [hv, bind_eq_ok_iff, pure, Except.pure, Except.ok.injEq] at h
      obtain ⟨current, hc, next, hn, rfl⟩ := h
      exact .inr ⟨column, current, next, rfl, hc, hn, rfl⟩
  · rintro ⟨assignments, keys, ha, hk, ⟨hv, rfl⟩ | ⟨column, current, next, hv, hc, hn, rfl⟩⟩
    · exact ⟨assignments, ha, _, ⟨keys, hk, rfl⟩, by simp [hv, pure, Except.pure]⟩
    · refine ⟨assignments, ha, _, ⟨keys, hk, rfl⟩, ?_⟩
      simp only [hv, bind_eq_ok_iff]
      exact ⟨current, hc, next, hn, rfl⟩

theorem Entity.delete_eq_ok_iff {e : Entity} {r : Record} {q : Query} :
    e.delete r = .ok q ↔ ∃ keys version, e.keyValues r = .ok keys ∧
      e.versionFilter r = .ok version ∧
      q = .delete e.storageName (e.keyFilter keys ++ version) := by
  simp only [Entity.delete, bind_eq_ok_iff, Entity.rowFilter_eq_ok_iff, pure, Except.pure,
    Except.ok.injEq]
  constructor
  · rintro ⟨_, ⟨keys, hk, rfl⟩, version, hv, rfl⟩
    exact ⟨keys, version, hk, hv, rfl⟩
  · rintro ⟨keys, version, hk, hv, rfl⟩
    exact ⟨_, ⟨keys, hk, rfl⟩, version, hv, rfl⟩

/-! ## What stops an update from being built -/

section Failure

variable {e : Entity} {r : Record} {err : Error}

/-- A column has no value only if the record lacks it or is of another type. -/
theorem Entity.exists_shape_of_columnValue {column : String}
    (h : e.columnValue r column = .error err) : ∃ fault, err = .shape fault := by
  unfold Entity.columnValue at h
  split at h
  · exact ⟨_, (Except.error.inj h).symm⟩
  · split at h
    · simp at h
    · exact ⟨_, (Except.error.inj h).symm⟩

/-- A version has no successor only if it is no integer or the last of its type. -/
theorem exists_shape_of_nextVersion {v : Value} (h : nextVersion v = .error err) :
    ∃ fault, err = .shape fault := by
  unfold nextVersion at h
  split at h
  · split at h
    · simp at h
    · exact ⟨_, (Except.error.inj h).symm⟩
  · exact ⟨_, (Except.error.inj h).symm⟩

private theorem Entity.exists_shape_of_assignments (h : e.assignments r = .error err) :
    ∃ fault, err = .shape fault := by
  rw [Entity.assignments, bind_eq_error_iff] at h
  rcases h with h | ⟨values, -, h⟩
  · obtain ⟨column, -, h⟩ := exists_of_mapM_eq_error h
    exact Entity.exists_shape_of_columnValue (map_eq_error_iff.1 h)
  · cases values with
    | nil => exact ⟨_, (Except.error.inj h).symm⟩
    | cons a rest => simp [pure, Except.pure] at h

private theorem Entity.exists_shape_of_rowFilter (h : e.rowFilter r = .error err) :
    ∃ fault, err = .shape fault := by
  obtain ⟨column, -, h⟩ := exists_of_mapM_eq_error (map_eq_error_iff.1 h)
  exact Entity.exists_shape_of_columnValue h

/-- An update is not built only if the shape of the record is at fault. -/
theorem Entity.exists_shape_of_update (h : e.update r = .error err) :
    ∃ fault, err = .shape fault := by
  rw [Entity.update, bind_eq_error_iff] at h
  rcases h with h | ⟨assignments, -, h⟩
  · exact Entity.exists_shape_of_assignments h
  rw [bind_eq_error_iff] at h
  rcases h with h | ⟨keys, -, h⟩
  · exact Entity.exists_shape_of_rowFilter h
  cases version : e.versionColumn with
  | none => simp [version, pure, Except.pure] at h
  | some column =>
    simp only [version, bind_eq_error_iff, pure, Except.pure, reduceCtorEq, and_false,
      exists_false, or_false] at h
    rcases h with h | ⟨current, -, h⟩
    · exact Entity.exists_shape_of_columnValue h
    · exact exists_shape_of_nextVersion h

end Failure

/-! ## Registered records -/

namespace Registry

variable {reg : Registry} {q : Query}

theorem selectByKey_eq_ok_iff {t : RecordType} {keys : List Value} :
    reg.selectByKey t keys = .ok q ↔ ∃ e, reg.ofType? t = some e ∧
      keys.length = e.keyColumns.length ∧ q = e.select (e.keyFilter keys) := by
  simp only [selectByKey, bind_eq_ok_iff, entityOf_eq_ok_iff, Entity.checkArity_eq_ok_iff, pure,
    Except.pure, Except.ok.injEq]
  constructor
  · rintro ⟨e, he, _, hk, rfl⟩
    exact ⟨e, he, hk, rfl⟩
  · rintro ⟨e, he, hk, rfl⟩
    exact ⟨e, he, (), hk, rfl⟩

theorem selectById_eq_ok_iff {r : Record} :
    reg.selectById r = .ok q ↔ ∃ e keys, reg.ofType? r.type = some e ∧ e.keyValues r = .ok keys ∧
      q = e.select (e.keyFilter keys) := by
  simp only [selectById, bind_eq_ok_iff, entityOf_eq_ok_iff, selectByKey_eq_ok_iff]
  constructor
  · rintro ⟨e, he, keys, hk, e', he', -, rfl⟩
    obtain rfl : e = e' := Option.some.inj (he.symm.trans he')
    exact ⟨e, keys, he, hk, rfl⟩
  · rintro ⟨e, keys, he, hk, rfl⟩
    exact ⟨e, he, keys, hk, e, he, Entity.length_keyValues hk, rfl⟩

theorem deleteByKey_eq_ok_iff {t : RecordType} {keys : List Value} :
    reg.deleteByKey t keys = .ok q ↔ ∃ e, reg.ofType? t = some e ∧
      keys.length = e.keyColumns.length ∧ q = .delete e.storageName (e.keyFilter keys) := by
  simp only [deleteByKey, bind_eq_ok_iff, entityOf_eq_ok_iff, Entity.checkArity_eq_ok_iff, pure,
    Except.pure, Except.ok.injEq]
  constructor
  · rintro ⟨e, he, _, hk, rfl⟩
    exact ⟨e, he, hk, rfl⟩
  · rintro ⟨e, he, hk, rfl⟩
    exact ⟨e, he, (), hk, rfl⟩

theorem deleteById_eq_ok_iff {r : Record} :
    reg.deleteById r = .ok q ↔ ∃ e, reg.ofType? r.type = some e ∧ e.delete r = .ok q := by
  simp only [deleteById, bind_eq_ok_iff, entityOf_eq_ok_iff]

/-- The update of a registered record is that of the record after its hook. -/
theorem updateById_of_ofType? {hooks : Hooks} {r : Record} {e : Entity}
    (h : reg.ofType? r.type = some e) :
    reg.updateById hooks r = (hooks.beforeUpdate r, e.update (hooks.beforeUpdate r)) := by
  simp [updateById, entityOf_eq_ok_iff.2 h]

theorem updateById_eq_ok_iff {hooks : Hooks} {r : Record} :
    (reg.updateById hooks r).2 = .ok q ↔ ∃ e, reg.ofType? r.type = some e ∧
      e.update (hooks.beforeUpdate r) = .ok q := by
  cases h : reg.ofType? r.type with
  | none => simp [updateById, entityOf, h]
  | some e => simp [updateById_of_ofType? h]

end Registry

end EntityMap
