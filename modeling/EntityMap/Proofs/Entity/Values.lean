import EntityMap.Execution
import EntityMap.Proofs.Record.Fields

/-!
# Values of a record in the columns of its entity

A record that fits the schema of an entity has a value in each column where one can be read, and
its version can always be advanced: the next version is of the type of the field that holds the
current one.
-/

namespace EntityMap

/-! ## Columns -/

namespace Entity

variable {e : Entity} {r r' : Record} {column : String} {v : Value} {keys : List Value}

/-- The entity of a record that fits is found by the type of the record. -/
theorem ofType?_of_fits {reg : Registry} (registered : reg.ofType? e.type = some e)
    (fits : r.Fits e.schema) : reg.ofType? r.type = some e := by
  rw [Record.type, fits.schema_eq]
  exact registered

/-- The value of a column in a record of the entity is what is stored there. -/
theorem columnValue_of_fits (fits : r.Fits e.schema) (column : String) :
    e.columnValue r column =
      match r.column? column with
      | some v => .ok v
      | none => .error (.shape (.noColumn column e.type.name)) := by
  have type : r.type = e.type := by rw [Record.type, fits.schema_eq, Entity.type]
  have stored : (e.schema.locateColumn? column).bind r.read? = r.column? column := by
    rw [Record.column?, fits.schema_eq]
  cases h : r.column? column <;> simp [columnValue, type, stored, h]

theorem columnValue_eq_ok_iff (fits : r.Fits e.schema) :
    e.columnValue r column = .ok v ↔ r.column? column = some v := by
  rw [columnValue_of_fits fits]
  cases r.column? column <;> simp

/-- The key values of a record of the entity are what is stored in the key columns. -/
theorem keyValues_eq_ok_iff (fits : r.Fits e.schema) : e.keyValues r = .ok keys ↔
    List.Forall₂ (fun c v => r.column? c = some v) e.keyColumns keys := by
  simp only [keyValues, mapM_eq_ok_iff, columnValue_eq_ok_iff fits]

/-- What has the same values in the key columns has the same key. -/
theorem keyValues_congr (fits : r.Fits e.schema) (fits' : r'.Fits e.schema)
    (same : ∀ c ∈ e.keyColumns, r'.column? c = r.column? c) :
    e.keyValues r' = .ok keys ↔ e.keyValues r = .ok keys := by
  rw [keyValues_eq_ok_iff fits, keyValues_eq_ok_iff fits']
  constructor
  · intro all
    exact List.forall₂_iff_get.2 ⟨all.length_eq, fun i hi hj =>
      (same _ (List.get_mem ..)).symm.trans (all.get hi hj)⟩
  · intro all
    exact List.forall₂_iff_get.2 ⟨all.length_eq, fun i hi hj =>
      (same _ (List.get_mem ..)).trans (all.get hi hj)⟩

/-- Some columns have their values if each of them has one. -/
theorem exists_mapM_columnValue (fits : r.Fits e.schema) {columns : List String}
    (all : ∀ c ∈ columns, ∃ v, r.column? c = some v) :
    ∃ values, columns.mapM (e.columnValue r) = .ok values := by
  simp only [mapM_eq_ok_iff, columnValue_eq_ok_iff fits]
  exact exists_forall₂ all

end Entity

/-! ## Versions -/

/-- The next version is the next integer of the type. -/
theorem nextVersion_eq_ok_iff {v w : Value} : nextVersion v = .ok w ↔
    ∃ k m n, v = .int k (some m) ∧ w = .int k (some n) ∧ n.val = m.val + 1 := by
  unfold nextVersion
  split
  · next k m =>
    cases hn : m.next? with
    | none =>
      simp only [reduceCtorEq, false_iff]
      rintro ⟨k', m', n, hv, rfl, step⟩
      cases hv
      have some := Bounded.next?_eq_some_iff.2 step
      simp [hn] at some
    | some n =>
      have step : n.val = m.val + 1 := Bounded.next?_eq_some_iff.1 hn
      constructor
      · intro h
        exact ⟨k, m, n, rfl, (Except.ok.inj h).symm, step⟩
      · rintro ⟨k', m', n', hv, rfl, step'⟩
        cases hv
        have same := Bounded.next?_eq_some_iff.2 step'
        rw [hn, Option.some.injEq] at same
        rw [same]
  · next none =>
    simp only [reduceCtorEq, false_iff]
    rintro ⟨k, m, n, rfl, -⟩
    exact none k m rfl

theorem Entity.advanceVersion_of_none {e : Entity} (none : e.versionColumn = none) (r : Record) :
    e.advanceVersion r = .ok r := by
  simp [Entity.advanceVersion, none]

/-- A version that a record holds can be advanced in it, and nothing else changes. -/
theorem Entity.advanceVersion_eq_ok {e : Entity} {r : Record} {version : String}
    {current next : Value} (fits : r.Fits e.schema) (marked : e.versionColumn = some version)
    (held : r.column? version = some current) (step : nextVersion current = .ok next) :
    ∃ l r', e.schema.locateColumn? version = some l ∧ e.advanceVersion r = .ok r' ∧
      r.ChangedOnlyAt l next r' := by
  have value := (Entity.columnValue_eq_ok_iff fits).2 held
  obtain ⟨l, hl, hr⟩ := Option.bind_eq_some_iff.1 held
  rw [fits.schema_eq] at hl
  have content : next.isNull = false := by
    obtain ⟨k, m, n, rfl, rfl, -⟩ := nextVersion_eq_ok_iff.1 step
    rfl
  obtain ⟨r', written⟩ := Record.exists_write_eq_ok fits hr (variant_of_nextVersion step) content
  refine ⟨l, r', hl, ?_, .of_write fits written⟩
  simp only [Entity.advanceVersion, marked, value, step, hl, written, bind, Except.bind]

end EntityMap
