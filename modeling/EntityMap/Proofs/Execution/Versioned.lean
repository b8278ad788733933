import EntityMap.Proofs.Entity.Table
import EntityMap.Proofs.Entity.Values

/-!
# Updates, deletions and reloads of a versioned row

Each operation on a row of an entity with versions gets one law that says all that it can do to a
database and to the record it is given. An update that succeeds found the row of the record with
the version of the record, and both have the next version afterwards; one that fails left the
database as it was. The law of a reload needs that the key and the version of a row are read from
their own columns, and not from others that answer to the names.
-/

namespace EntityMap

open Sql

namespace Entity

variable (e : Entity)

/-- The columns that tell the row of a record and its version. -/
def lockColumns : List String := e.keyColumns ++ e.versionColumn.toList

/-- Of the columns that answer to the name of a key column or of the version, the first is that
column itself. -/
def Unshadowed : Prop :=
  ∀ c ∈ e.lockColumns, e.columns.find? (Row.answersTo · c) = some c

/-- The second record is of the entity, with the key and the version of the first. -/
def Retains (r r' : Record) : Prop :=
  r'.Fits e.schema ∧ ∀ c ∈ e.lockColumns, r'.column? c = r.column? c

end Entity

/-- A parsed entity with versions, whose hook leaves key and version alone. -/
structure Versioned (reg : Registry) (hooks : Hooks) (e : Entity) (version : String) : Prop where
  parsed : ∃ s name e₀ f, Entity.ofSchema? s name = .ok e₀ ∧ e = e₀.renameStorage f
  registered : reg.ofType? e.type = some e
  version : e.versionColumn = some version
  distinct : e.columns.Nodup
  hook : ∀ r, r.Fits e.schema → e.Retains r (hooks.beforeUpdate r)

namespace Versioned

variable {reg : Registry} {hooks : Hooks} {e : Entity} {version : String}
  (lock : Versioned reg hooks e version)
include lock

theorem isParsed : e.IsParsed := by
  obtain ⟨s, name, e₀, f, parsed, rfl⟩ := lock.parsed
  obtain ⟨keys, -, -, schema, -⟩ := ofSchema?_eq_ok parsed
  exact ⟨name, e₀, f, schema ▸ parsed, rfl⟩

theorem version_mem : version ∈ e.columns ∧ version ∉ e.keyColumns :=
  lock.isParsed.version_mem lock.distinct lock.version

theorem mem_lockColumns {c : String} : c ∈ e.lockColumns ↔ c ∈ e.keyColumns ∨ c = version := by
  simp [Entity.lockColumns, lock.version]

theorem lockColumns_subset : ∀ c ∈ e.lockColumns, c ∈ e.columns := by
  intro c hc
  rcases lock.mem_lockColumns.1 hc with key | rfl
  · exact lock.isParsed.keyColumns_subset c key
  · exact lock.version_mem.1

end Versioned

/-! ## What is retained -/

namespace Entity

variable {e : Entity} {r r' : Record} {keys : List Value}

theorem Retains.refl (fits : r.Fits e.schema) : e.Retains r r := ⟨fits, fun _ _ => rfl⟩

theorem Retains.keyValues_eq_ok_iff (h : e.Retains r r') (fits : r.Fits e.schema) :
    e.keyValues r' = .ok keys ↔ e.keyValues r = .ok keys :=
  keyValues_congr fits h.1 fun c hc => h.2 c (List.mem_append_left _ hc)

end Entity

/-! ## What the operations come to on a database -/

namespace Sql.Dialect

variable (d : Dialect) {reg : Registry} {hooks : Hooks} {r : Record} {q : Query}

theorem update_eq {e : Entity} {r' : Record} (he : reg.ofType? r.type = some e)
    (hq : reg.updateById hooks r = (r', .ok q)) (full : q.IsFull) (db : Database) :
    d.database.update reg hooks r db =
      match (q.write db).1.expectOneRow with
      | .error err => ⟨r', (q.write db).2, .error err⟩
      | .ok outcome =>
        match e.advanceVersion r' with
        | .error err => ⟨r', (q.write db).2, .error err⟩
        | .ok r => ⟨r, (q.write db).2, .ok outcome⟩ := by
  have entity := Registry.entityOf_eq_ok_iff.2 he
  cases one : (q.write db).1.expectOneRow with
  | error err => simp [Executor.update, entity, hq, d.execute_eq full, one]
  | ok outcome =>
    cases advanced : e.advanceVersion r' <;>
      simp [Executor.update, entity, hq, d.execute_eq full, one, advanced]

theorem delete_eq (hq : reg.deleteById r = .ok q) (full : q.IsFull) (db : Database) :
    d.database.delete reg r db = ⟨r, (q.write db).2, (q.write db).1.expectOneRow⟩ := by
  rw [Executor.delete, hq]
  simp only [d.execute_eq full]

theorem reload_eq (hq : reg.selectById r = .ok q) (full : q.IsFull) (db : Database) :
    d.database.reload reg r db = ⟨r, db, match q.answer db with
      | [] => .ok none
      | row :: _ => (r.schema.fromRow row).map some⟩ := by
  cases rows : q.answer db <;> simp [Executor.reload, hq, d.queryAll_eq full, rows]

end Sql.Dialect

/-! ## Updates -/

/-- What an update that succeeds does to the record and to the row of its key. -/
structure Entity.Updated (e : Entity) (version : String) (keys : List Value) (current next : Value)
    (r r' : Record) (db db' : Database) : Prop where
  step : nextVersion current = .ok next
  key : e.keyValues r = .ok keys
  held : r.column? version = some current
  /-- The record has the same key and the next version. -/
  fits : r'.Fits e.schema
  key_eq : e.keyValues r' = .ok keys
  advanced : r'.column? version = some next
  /-- So has the row, which had the version of the record; no other row is touched. -/
  row : ∃ before row row' after, db e.storageName = before ++ row :: after ∧
    db' = db.set e.storageName (before ++ row' :: after) ∧
    e.hasKey keys row = true ∧ row.has version current = true ∧
    row'.cell? version = some next ∧ (∀ c ∈ e.keyColumns, row'.cell? c = row.cell? c) ∧
    ∀ c, (row'.cell? c).isSome = (row.cell? c).isSome

/-- What a deletion that succeeds does to the row of the key of a record. -/
structure Entity.Deleted (e : Entity) (version : String) (keys : List Value) (current : Value)
    (r : Record) (db db' : Database) : Prop where
  key : e.keyValues r = .ok keys
  held : r.column? version = some current
  /-- The row, which had the version of the record, is gone; no other row is touched. -/
  row : ∃ before row after, db e.storageName = before ++ row :: after ∧
    db' = db.set e.storageName (before ++ after) ∧
    e.hasKey keys row = true ∧ row.has version current = true

/-- The row as a selection of the columns of the entity answers with it. -/
def Entity.project (e : Entity) (row : Row) : Row :=
  ⟨e.columns.filterMap fun c => (row.cell? c).map fun v => (c, v)⟩

/-- A selection of the columns of an entity answers with the rows that the filter selects. -/
theorem Entity.answer_selectFrom (e : Entity) (filter : List Predicate) (db : Database) :
    (Query.selectFrom e.storageName e.columns filter).answer db =
      ((db e.storageName).filter (selects e.storageName filter)).map e.project := by
  have projected (row : Row) : (⟨(e.columns.map ColumnRef.bare).filterMap fun c =>
      (Scope.cell? [(e.storageName, row)] c).map fun v => (c.column, v)⟩ : Row) =
      e.project row := by
    rw [List.filterMap_map]
    simp [Entity.project, ColumnRef.bare, Scope.cell?]
  simp only [Query.selectFrom, Query.answer, Database.scopes, List.filter_map, List.map_map,
    Function.comp_def, projected]
  rfl

/-- A selection by the key answers with the rows that have the key. -/
theorem Entity.answer_select (e : Entity) (keys : List Value) (db : Database) :
    (e.select (e.keyFilter keys)).answer db =
      ((db e.storageName).filter (e.hasKey keys)).map e.project := by
  have selected : selects e.storageName (e.keyFilter keys) = e.hasKey keys := by
    funext row
    exact Entity.selects_keyFilter e.storageName keys row
  rw [Entity.select, Entity.answer_selectFrom, selected]

private theorem find?_project (columns : List String) (row : Row) (column : String) :
    (columns.filterMap fun c => (row.cell? c).map fun v => (c, v)).find? (·.1 = column) =
      if column ∈ columns then (row.cell? column).map fun v => (column, v) else none := by
  induction columns with
  | nil => simp
  | cons c rest ih =>
    by_cases same : c = column
    · subst same
      cases held : row.cell? c with
      | some v => simp [held]
      | none =>
        rw [held] at ih
        simpa [held] using ih
    · cases held : row.cell? c with
      | some v => simp [held, same, Ne.symm same, ih]
      | none => simp [held, Ne.symm same, ih]

/-- What is selected of a column is what the row holds there. -/
theorem Entity.cell?_project {e : Entity} {column : String} (hc : column ∈ e.columns) (row : Row) :
    (e.project row).cell? column = row.cell? column := by
  rw [Row.cell?, Entity.project, find?_project, if_pos hc, Option.map_map]
  exact Option.map_id'

/-- A column is read from its own place just if it is the first that answers to its name. -/
theorem Entity.value?_project {e : Entity} {column : String} {row : Row}
    (complete : ∀ c ∈ e.columns, (row.cell? c).isSome = true) :
    (e.project row).value? column =
      (e.columns.find? (Row.answersTo · column)).bind row.cell? := by
  have first : e.columns.find? (fun c => ((row.cell? c).map fun v => (c, v)).any
      fun p => Row.answersTo p.1 column) = e.columns.find? (Row.answersTo · column) := by
    rw [← List.head?_filter, ← List.head?_filter]
    congr 1
    apply List.filter_congr
    intro c hc
    obtain ⟨v, hv⟩ := Option.isSome_iff_exists.1 (complete c hc)
    simp [hv]
  rw [Row.value?, Entity.project, List.find?_filterMap, first]
  cases e.columns.find? (Row.answersTo · column) with
  | none => rfl
  | some c => cases h : row.cell? c <;> simp [h]

/-- Nothing shadows key and version just if they are read from their own places in every row. -/
theorem Entity.unshadowed_iff {e : Entity} (lock : ∀ c ∈ e.lockColumns, c ∈ e.columns) :
    e.Unshadowed ↔ ∀ row : Row, (∀ c ∈ e.columns, (row.cell? c).isSome = true) →
      ∀ c ∈ e.lockColumns, (e.project row).value? c = row.cell? c := by
  constructor
  · intro unshadowed row complete c hc
    rw [value?_project complete, unshadowed c hc, Option.bind_some]
  · intro own c hc
    -- a row in which each column holds its own name tells where a value was read
    let row : Row := ⟨e.columns.map fun c => (c, .ofString c)⟩
    have cell {c : String} (hc : c ∈ e.columns) : row.cell? c = some (.ofString c) := by
      have found : e.columns.find? (fun a => decide (a = c)) = some c := by
        have some : (e.columns.find? fun a => decide (a = c)).isSome = true :=
          List.find?_isSome.2 ⟨c, hc, decide_eq_true rfl⟩
        obtain ⟨a, ha⟩ := Option.isSome_iff_exists.1 some
        have same : a = c := by simpa using List.find?_some ha
        rw [ha, same]
      rw [Row.cell?, List.find?_map]
      simp only [Function.comp_def, found, Option.map_some]
    have read := own row (fun c hc => by rw [cell hc]; rfl) c hc
    rw [value?_project fun c hc => by rw [cell hc]; rfl, cell (lock c hc)] at read
    obtain ⟨a, first, ha⟩ := Option.bind_eq_some_iff.1 read
    rw [cell (List.mem_of_find?_eq_some first)] at ha
    have same : a = c := by simpa [Value.ofString] using ha
    rw [first, same]

namespace Versioned

variable {reg : Registry} {hooks : Hooks} {e : Entity} {version : String}
  (lock : Versioned reg hooks e version)
include lock

/-- The row after the assignments of an update. -/
private theorem cells_of_assignments {r : Record} {assignments : List (String × Value)}
    (ha : e.assignments r = .ok assignments) (next : Value) {row : Row}
    (complete : ∀ c ∈ e.columns, (row.cell? c).isSome = true) :
    let row' := (assignments.map fun a => if a.1 = version then (a.1, next) else a).foldl
      Row.assign row
    row'.cell? version = some next ∧ (∀ c ∈ e.keyColumns, row'.cell? c = row.cell? c) ∧
      ∀ c, (row'.cell? c).isSome = (row.cell? c).isSome := by
  intro row'
  have names := Entity.columns_of_advanced ha version next
  obtain ⟨mem, notKey⟩ := lock.version_mem
  refine ⟨?_, ?_, ?_⟩
  · apply Row.cell?_foldl_assign
    · rw [names, Entity.plainColumns, List.mem_filter]
      exact ⟨mem, by simpa [Entity.isKey] using notKey⟩
    · intro a hmem hname
      obtain ⟨b, -, rfl⟩ := List.mem_map.1 hmem
      by_cases h : b.1 = version
      · simp [h]
      · simp [h] at hname
    · exact complete version mem
  · intro c hc
    apply Row.cell?_foldl_assign_of_not_mem
    rw [names, Entity.plainColumns, List.mem_filter]
    simp [Entity.isKey, hc]
  · intro c
    exact Row.isSome_cell?_foldl_assign _ row c

/-- All that an update can do. It fails, with a conflict if there was a statement to run, and leaves
the database as it was, and the record with its key and version; or it updates the row. -/
theorem update_cases (d : Dialect) {r : Record} (fits : r.Fits e.schema) {db : Database}
    (table : e.IsTable (db e.storageName)) :
    (∃ err record, d.database.update reg hooks r db = ⟨record, db, .error err⟩ ∧
      e.Retains r record ∧ (err = .conflict ∨ (reg.updateById hooks r).2 = .error err)) ∨
    ∃ outcome record db' keys current next,
      d.database.update reg hooks r db = ⟨record, db', .ok outcome⟩ ∧
      e.Updated version keys current next r record db db' := by
  have registered := Entity.ofType?_of_fits lock.registered fits
  have hook := lock.hook r fits
  have built : reg.updateById hooks r = (hooks.beforeUpdate r, e.update (hooks.beforeUpdate r)) :=
    Registry.updateById_of_ofType? registered
  cases hq : e.update (hooks.beforeUpdate r) with
  | error err =>
    rw [hq] at built
    refine .inl ⟨err, hooks.beforeUpdate r, ?_, hook, .inr (by rw [built])⟩
    rw [Executor.update, Registry.entityOf_eq_ok_iff.2 registered, built]
  | ok q =>
    obtain ⟨assignments, keys, ha, hk, ⟨none, -⟩ | ⟨column, current, next, hc, hv, step, rfl⟩⟩ :=
      Entity.update_eq_ok_iff.1 hq
    · rw [lock.version] at none
      simp at none
    · rw [lock.version, Option.some.injEq] at hc
      subst hc
      have held := (Entity.columnValue_eq_ok_iff hook.1).1 hv
      have length : keys.length = e.keyColumns.length := Entity.length_keyValues hk
      have full : (Query.update e.storageName
          (assignments.map fun a => if a.1 = version then (a.1, next) else a)
          (e.keyFilter keys ++ [.eq version current])).IsFull := by
        refine ⟨by simpa using (Entity.assignments_eq_ok_iff.1 ha).1, ?_⟩
        exact Entity.isFull_rowFilter keys [(version, current)]
      have key : e.keyValues r = .ok keys := (hook.keyValues_eq_ok_iff fits).1 hk
      rw [hq] at built
      rw [d.update_eq registered built full]
      rcases table.write_update length _ version current with
        nothing | ⟨before, row, after, rows, hasKey, has, written⟩
      · rw [nothing]
        exact .inl ⟨.conflict, hooks.beforeUpdate r, rfl, hook, .inl rfl⟩
      · obtain ⟨l, record, located, advanced, changed⟩ :=
          Entity.advanceVersion_eq_ok hook.1 lock.version held step
        rw [← hook.1.schema_eq] at located
        have fits' : record.Fits e.schema := hook.1.schema_eq ▸ changed.fits
        have held' := changed.column?_self located held
        have mem : row ∈ db e.storageName := by simp [rows]
        obtain ⟨cell, keyCells, present⟩ :=
          lock.cells_of_assignments ha next (table.complete row mem)
        have apart {c : String} (hc : c ∈ e.keyColumns) : c ≠ version := by
          rintro rfl
          exact lock.version_mem.2 hc
        have sameKey : e.keyValues record = .ok keys :=
          (Entity.keyValues_congr hook.1 fits' fun c hc =>
            changed.column?_of_ne located (apart hc)).2 hk
        have same : r.column? version = some current := by
          rw [← hook.2 version (lock.mem_lockColumns.2 (.inr rfl)), held]
        rw [written]
        refine .inr ⟨{ affected := 1 }, record, _, keys, current, next, ?_,
          ⟨step, key, same, fits', sameKey, held', before, row, _, after, rows, rfl, hasKey, has,
            cell, keyCells, present⟩⟩
        simp [Outcome.expectOneRow, advanced]

/-- All that a deletion can do. It fails, with a conflict if there was a statement to run, and
leaves the database as it was; or it deletes the row. -/
theorem delete_cases (d : Dialect) {r : Record} (fits : r.Fits e.schema) {db : Database}
    (table : e.IsTable (db e.storageName)) :
    (∃ err, d.database.delete reg r db = ⟨r, db, .error err⟩ ∧
      (err = .conflict ∨ reg.deleteById r = .error err)) ∨
    ∃ outcome db' keys current, d.database.delete reg r db = ⟨r, db', .ok outcome⟩ ∧
      e.Deleted version keys current r db db' := by
  have registered := Entity.ofType?_of_fits lock.registered fits
  cases hq : reg.deleteById r with
  | error err => exact .inl ⟨err, by rw [Executor.delete, hq], .inr rfl⟩
  | ok q =>
    obtain ⟨e', he, hd⟩ := Registry.deleteById_eq_ok_iff.1 hq
    obtain rfl : e = e' := Option.some.inj (registered.symm.trans he)
    obtain ⟨keys, filter, hk, hv, rfl⟩ := Entity.delete_eq_ok_iff.1 hd
    obtain ⟨none, -⟩ | ⟨column, current, hc, hcurrent, rfl⟩ :=
      Entity.versionFilter_eq_ok_iff.1 hv
    · rw [lock.version] at none
      simp at none
    · rw [lock.version, Option.some.injEq] at hc
      subst hc
      have held := (Entity.columnValue_eq_ok_iff fits).1 hcurrent
      have length : keys.length = e.keyColumns.length := Entity.length_keyValues hk
      have full : (Query.delete e.storageName
          (e.keyFilter keys ++ [.eq version current])).IsFull :=
        Entity.isFull_rowFilter keys [(version, current)]
      rw [d.delete_eq hq full]
      rcases table.write_delete length version current with
        nothing | ⟨before, row, after, rows, hasKey, has, written⟩
      · rw [nothing]
        exact .inl ⟨.conflict, rfl, .inl rfl⟩
      · rw [written]
        exact .inr ⟨{ affected := 1 }, _, keys, current, rfl,
          ⟨hk, held, before, row, after, rows, rfl, hasKey, has⟩⟩

/-- All that a reload can do. It leaves the database as it was, and a record that it answers with
has the key and the version of a row of the table. -/
theorem reload_cases (d : Dialect) (unshadowed : e.Unshadowed) {probe : Record}
    (schema : probe.schema = e.schema) {db : Database} (table : e.IsTable (db e.storageName)) :
    ∃ result, d.database.reload reg probe db = ⟨probe, db, result⟩ ∧
      ∀ record, result = .ok (some record) → record.Fits e.schema ∧
        ∃ row ∈ db e.storageName, ∀ c ∈ e.lockColumns, ∀ v, record.column? c = some v →
          row.cell? c = some v := by
  have registered : reg.ofType? probe.type = some e := by
    rw [Record.type, schema]
    exact lock.registered
  cases hq : reg.selectById probe with
  | error err => exact ⟨.error err, by rw [Executor.reload, hq], by simp⟩
  | ok q =>
    obtain ⟨e', keys, he, hk, rfl⟩ := Registry.selectById_eq_ok_iff.1 hq
    obtain rfl : e = e' := Option.some.inj (registered.symm.trans he)
    have full := Entity.isFull_select (List.ne_nil_of_mem lock.version_mem.1) keys
    rw [d.reload_eq hq full, Entity.answer_select]
    cases rows : (db e.storageName).filter (e.hasKey keys) with
    | nil => exact ⟨.ok none, rfl, by simp⟩
    | cons row rest =>
      refine ⟨(probe.schema.fromRow (e.project row)).map some, rfl, ?_⟩
      intro record h
      obtain ⟨record, read, same⟩ := map_eq_ok_iff.1 h
      obtain rfl := Option.some.inj same
      rw [schema] at read
      have mem : row ∈ db e.storageName := by
        have filtered : row ∈ (db e.storageName).filter (e.hasKey keys) := by simp [rows]
        exact (List.mem_filter.1 filtered).1
      refine ⟨e.schema.fits_of_fromRow read, row, mem, ?_⟩
      intro c hc v hv
      have value := Record.value?_of_fromRow read hv
      rwa [(Entity.unshadowed_iff lock.lockColumns_subset).1 unshadowed row
        (table.complete row mem) c hc] at value

end Versioned

end EntityMap
