import EntityMap.Proofs.Sql.Meaning
import EntityMap.Proofs.Statement.Keyed

/-!
# Tables of an entity

A row has a key if its key columns are known to hold the values. In a table of an entity no two rows
are known to have one key, so a filter by the key selects one row at most.
-/

namespace EntityMap

open Sql

/-- The values of two keys are known to be equal, place by place. -/
def sameKeys (keys keys' : List Value) : Bool :=
  (keys.zip keys').all fun p => p.1.equals? p.2 = some true

namespace Entity

section Definitions

variable (e : Entity)

/-- The row is known to have the key. -/
def hasKey (keys : List Value) (row : Row) : Bool :=
  (e.keyColumns.zip keys).all fun p => row.has p.1 p.2

/-- The rows have all columns of the entity, and no two of them are known to have one key. -/
structure IsTable (rows : List Row) : Prop where
  complete : ∀ row ∈ rows, ∀ c ∈ e.columns, (row.cell? c).isSome = true
  unique : rows.Pairwise fun r s => r.agrees e.keyColumns s = false

end Definitions

variable {e : Entity} {keys keys' : List Value} {rows : List Row} {row row' : Row}

theorem selects_keyFilter (table : String) (keys : List Value) (row : Row) :
    selects table (e.keyFilter keys) row = e.hasKey keys row := by
  simp [selects, keyFilter, hasKey, List.all_map, Function.comp_def]

/-- A filter by key and version selects the rows that have both. -/
theorem selects_keyFilter_append (table : String) (keys : List Value) (column : String) (v : Value)
    (row : Row) : selects table (e.keyFilter keys ++ [.eq column v]) row =
      (e.hasKey keys row && row.has column v) := by
  rw [← selects_keyFilter table]
  simp [selects]

/-- A filter by columns lists no values that could be missing. -/
theorem isFull_rowFilter (keys : List Value) (rest : List (String × Value)) :
    ∀ p ∈ e.keyFilter keys ++ rest.map (fun a => .eq a.1 a.2), p.IsFull := by
  intro p hp
  rcases List.mem_append.1 hp with h | h
  · obtain ⟨a, -, rfl⟩ := List.mem_map.1 h
    trivial
  · obtain ⟨a, -, rfl⟩ := List.mem_map.1 h
    trivial

/-- A selection by the key is whole if there are columns to select. -/
theorem isFull_select (columns : e.columns ≠ []) (keys : List Value) :
    (e.select (e.keyFilter keys)).IsFull := by
  refine ⟨by simpa using columns, ?_⟩
  simpa using @isFull_rowFilter e keys []

theorem hasKey_eq_true_iff (length : keys.length = e.keyColumns.length) :
    e.hasKey keys row = true ↔
      List.Forall₂ (fun c v => row.has c v = true) e.keyColumns keys := by
  rw [hasKey, List.all_eq_true, List.forall₂_iff_zip]
  constructor
  · intro all
    exact ⟨length.symm, fun hp => all _ hp⟩
  · rintro ⟨-, all⟩ p hp
    exact all hp

/-- Two rows with one key agree on the key columns. -/
theorem agrees_of_hasKey (length : keys.length = e.keyColumns.length)
    (h : e.hasKey keys row = true) (h' : e.hasKey keys row' = true) :
    row.agrees e.keyColumns row' = true := by
  rw [hasKey_eq_true_iff length] at h h'
  refine Row.agrees_eq_true_iff.2 ?_
  intro c hc
  obtain ⟨i, hi, rfl⟩ := List.mem_iff_getElem.1 hc
  have hj : i < keys.length := by omega
  exact ⟨keys[i], h.get hi hj, h'.get hi hj⟩

/-- In a table a key has one row at most. -/
theorem IsTable.eq_of_hasKey (table : e.IsTable rows)
    (length : keys.length = e.keyColumns.length) (mem : row ∈ rows) (mem' : row' ∈ rows)
    (h : e.hasKey keys row = true) (h' : e.hasKey keys row' = true) : row = row' := by
  by_contra ne
  have symm : Std.Symm fun r s : Row => r.agrees e.keyColumns s = false :=
    ⟨fun r s h => Row.agrees_comm e.keyColumns r s ▸ h⟩
  have differ := table.unique.forall mem mem' ne
  rw [agrees_of_hasKey length h h'] at differ
  exact Bool.false_ne_true differ.symm

/-- In a table a filter by the key selects one row at most. -/
theorem IsTable.countP_le_one (table : e.IsTable rows)
    (length : keys.length = e.keyColumns.length) {q : Row → Bool}
    (key : ∀ row, q row = true → e.hasKey keys row = true) : rows.countP q ≤ 1 := by
  rw [List.countP_eq_length_filter]
  apply length_filter_le_one table.unique
  intro r s hr hs differ
  rw [agrees_of_hasKey length (key r hr) (key s hs)] at differ
  exact Bool.false_ne_true differ.symm

/-- A filter by key and version selects no row of a table, or one. -/
theorem IsTable.selects_cases (table : e.IsTable rows)
    (length : keys.length = e.keyColumns.length) (name column : String) (v : Value) :
    let q := selects name (e.keyFilter keys ++ [.eq column v])
    (rows.countP q = 0 ∧ ∀ row ∈ rows, q row = false) ∨
      rows.countP q = 1 ∧ ∃ before row after, rows = before ++ row :: after ∧
        (e.hasKey keys row = true ∧ row.has column v = true) ∧ q row = true ∧
        (∀ y ∈ before, q y = false) ∧ ∀ y ∈ after, q y = false := by
  intro q
  have both (row : Row) : q row = (e.hasKey keys row && row.has column v) :=
    selects_keyFilter_append name keys column v row
  have most : rows.countP q ≤ 1 := by
    apply table.countP_le_one length
    intro row h
    rw [both, Bool.and_eq_true] at h
    exact h.1
  by_cases one : rows.countP q = 1
  · obtain ⟨before, row, after, split, here, noneBefore, noneAfter⟩ :=
      exists_append_of_countP_eq_one one
    have values := here
    rw [both, Bool.and_eq_true] at values
    exact .inr ⟨one, before, row, after, split, values, here, noneBefore, noneAfter⟩
  · have zero : rows.countP q = 0 := by omega
    exact .inl ⟨zero, by simpa using List.countP_eq_zero.1 zero⟩

/-- An update by key and version writes no row of a table, or the one that has both. -/
theorem IsTable.write_update {db : Database} (table : e.IsTable (db e.storageName))
    (length : keys.length = e.keyColumns.length) (assignments : List (String × Value))
    (column : String) (v : Value) :
    let q : Query := .update e.storageName assignments (e.keyFilter keys ++ [.eq column v])
    q.write db = ({ affected := 0 }, db) ∨
      ∃ before row after, db e.storageName = before ++ row :: after ∧
        e.hasKey keys row = true ∧ row.has column v = true ∧
        q.write db = ({ affected := 1 }, db.set e.storageName
          (before ++ assignments.foldl Row.assign row :: after)) := by
  intro q
  rcases table.selects_cases length e.storageName column v with
    ⟨zero, none⟩ | ⟨one, before, row, after, rows, values, here, noneBefore, noneAfter⟩
  · left
    rw [Query.write, zero, map_ite_eq_self none, Database.set_eq_self]
  · refine .inr ⟨before, row, after, rows, values.1, values.2, ?_⟩
    rw [Query.write, one, rows, List.map_append, List.map_cons, map_ite_eq_self noneBefore,
      map_ite_eq_self noneAfter, if_pos here]

/-- A deletion by key and version deletes no row of a table, or the one that has both. -/
theorem IsTable.write_delete {db : Database} (table : e.IsTable (db e.storageName))
    (length : keys.length = e.keyColumns.length) (column : String) (v : Value) :
    let q : Query := .delete e.storageName (e.keyFilter keys ++ [.eq column v])
    q.write db = ({ affected := 0 }, db) ∨
      ∃ before row after, db e.storageName = before ++ row :: after ∧
        e.hasKey keys row = true ∧ row.has column v = true ∧
        q.write db = ({ affected := 1 }, db.set e.storageName (before ++ after)) := by
  intro q
  rcases table.selects_cases length e.storageName column v with
    ⟨zero, none⟩ | ⟨one, before, row, after, rows, values, here, noneBefore, noneAfter⟩
  · left
    rw [Query.write, zero, filter_not_eq_self none, Database.set_eq_self]
  · refine .inr ⟨before, row, after, rows, values.1, values.2, ?_⟩
    rw [Query.write, one, rows, List.filter_append, List.filter_cons_of_neg (by simp [here]),
      filter_not_eq_self noneBefore, filter_not_eq_self noneAfter]

/-! ## Keys of one row -/

/-- Two keys of one row are the same. -/
theorem sameKeys_of_hasKey (length : keys.length = e.keyColumns.length)
    (length' : keys'.length = e.keyColumns.length) (h : e.hasKey keys row = true)
    (h' : e.hasKey keys' row = true) : sameKeys keys keys' = true := by
  rw [hasKey_eq_true_iff length] at h
  rw [hasKey_eq_true_iff length'] at h'
  have all : List.Forall₂ (fun v w => v.equals? w = some true) keys keys' := by
    refine List.forall₂_iff_get.2 ⟨by omega, ?_⟩
    intro i hi hj
    have hc : i < e.keyColumns.length := by omega
    exact Row.equals?_of_has (h.get hc hi) (h'.get hc hj)
  refine List.all_eq_true.2 ?_
  intro p hp
  exact decide_eq_true ((List.forall₂_iff_zip.1 all).2 hp)

/-- A row that has a key has also one that is the same. -/
theorem hasKey_of_sameKeys (length : keys.length = e.keyColumns.length)
    (length' : keys'.length = e.keyColumns.length) (same : sameKeys keys keys' = true)
    (h : e.hasKey keys row = true) : e.hasKey keys' row = true := by
  rw [hasKey_eq_true_iff length] at h
  rw [hasKey_eq_true_iff length']
  have all : List.Forall₂ (fun v w => v.equals? w = some true) keys keys' := by
    refine List.forall₂_iff_zip.2 ⟨by omega, ?_⟩
    intro v w hp
    exact of_decide_eq_true (List.all_eq_true.1 same (v, w) hp)
  refine List.forall₂_iff_get.2 ⟨length'.symm, ?_⟩
  intro i hi hj
  have hk : i < keys.length := by omega
  exact (Row.has_congr (all.get hk hj)).symm.trans (h.get hi hk)

/-- A row with the same values in the key columns has the same keys. -/
theorem hasKey_congr (same : ∀ c ∈ e.keyColumns, row'.cell? c = row.cell? c)
    (keys : List Value) : e.hasKey keys row' = e.hasKey keys row := by
  rw [hasKey, hasKey, Bool.eq_iff_iff, List.all_eq_true, List.all_eq_true]
  apply forall₂_congr
  intro p hp
  rw [Row.has, Row.has, same p.1 (List.of_mem_zip hp).1]

/-- It agrees with the same rows. -/
theorem agrees_congr (same : ∀ c ∈ e.keyColumns, row'.cell? c = row.cell? c) (other : Row) :
    row'.agrees e.keyColumns other = row.agrees e.keyColumns other := by
  rw [Row.agrees, Row.agrees, Bool.eq_iff_iff, List.all_eq_true, List.all_eq_true]
  apply forall₂_congr
  intro c hc
  have cells : (row'.has c ·) = (row.has c ·) := by
    funext v
    rw [Row.has, Row.has, same c hc]
  rw [cells]

/-- Some of the rows of a table are a table. -/
theorem IsTable.sublist {part : List Row} (table : e.IsTable rows) (h : part.Sublist rows) :
    e.IsTable part :=
  ⟨fun row hrow => table.complete row (h.subset hrow), table.unique.sublist h⟩

variable {before after : List Row}

/-- A table stays one if a row is given other values, but for the key. -/
theorem IsTable.replace (table : e.IsTable (before ++ row :: after))
    (same : ∀ c ∈ e.keyColumns, row'.cell? c = row.cell? c)
    (present : ∀ c, (row'.cell? c).isSome = (row.cell? c).isSome) :
    e.IsTable (before ++ row' :: after) := by
  constructor
  · intro y hy c hc
    rcases List.mem_append.1 hy with h | h
    · exact table.complete y (List.mem_append_left _ h) c hc
    rcases List.mem_cons.1 h with rfl | h
    · rw [present]
      exact table.complete row (by simp) c hc
    · exact table.complete y (by simp [h]) c hc
  · obtain ⟨first, rest, apart⟩ := List.pairwise_append.1 table.unique
    obtain ⟨here, last⟩ := List.pairwise_cons.1 rest
    refine List.pairwise_append.2 ⟨first, List.pairwise_cons.2 ⟨?_, last⟩, ?_⟩
    · intro y hy
      rw [agrees_congr same]
      exact here y hy
    · intro x hx y hy
      rcases List.mem_cons.1 hy with rfl | hy
      · rw [Row.agrees_comm, agrees_congr same, Row.agrees_comm]
        exact apart x hx row (by simp)
      · exact apart x hx y (by simp [hy])

/-- The other rows of a table do not have the key of a row. -/
theorem IsTable.hasKey_eq_false (table : e.IsTable (before ++ row :: after))
    (length : keys.length = e.keyColumns.length) (key : e.hasKey keys row = true) :
    ∀ y ∈ before ++ after, e.hasKey keys y = false := by
  intro y hy
  by_contra some
  rw [Bool.not_eq_false] at some
  obtain ⟨-, rest, apart⟩ := List.pairwise_append.1 table.unique
  have agrees := agrees_of_hasKey length key some
  rcases List.mem_append.1 hy with h | h
  · rw [Row.agrees_comm, apart y h row (by simp)] at agrees
    exact Bool.false_ne_true agrees
  · rw [(List.pairwise_cons.1 rest).1 y h] at agrees
    exact Bool.false_ne_true agrees

end Entity

end EntityMap
