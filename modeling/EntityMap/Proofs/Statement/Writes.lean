import EntityMap.Proofs.Schema.Walk
import EntityMap.Proofs.Statement.Insertion

/-!
# The columns that a statement writes

An insertion names the columns of the walk, without generated keys, and an update those that are no
key columns. Every row has a value for each of them. Two things are not looked after: an insertion
of nothing but a generated key names no column at all, where an update of nothing but a key is
refused; and a column that several fields share is named once for each of them. `wellFormed_iff`
says that there is no other way for such a statement to be ill-formed.
-/

namespace EntityMap

open Sql

namespace Sql.Query

/-- The columns that a statement writes, in the order in which it names them. -/
def written : Query → List String
  | insert _ columns _ _ => columns
  | update _ assignments _ => assignments.map (·.1)
  | select .. | delete .. => []

/-- The rows of values that a statement gives for its columns. -/
def rows : Query → List (List Value)
  | insert _ _ rows _ => rows
  | select .. | update .. | delete .. => []

/-- A statement names a column that it writes, names none twice, and each of its rows has one value
for each of them. -/
structure WellFormed (q : Query) : Prop where
  named : q.written ≠ []
  distinct : q.written.Nodup
  width : ∀ row ∈ q.rows, row.length = q.written.length

end Sql.Query

/-! ## Columns and the entries they belong to -/

/-- Some of the columns are distinct just if no two entries share one of them. -/
theorem Schema.nodup_filter_columns_iff {s : Schema} {p : String → Bool} :
    (s.columns.filter p).Nodup ↔ ∀ x ∈ s.walk, ∀ y ∈ s.walk, ∀ c ∈ s.columns.filter p,
      x.field.column = some c → y.field.column = some c → x.locator = y.locator := by
  have picked : s.columns.filter p = s.walk.filterMap fun x => x.field.column.filter p := by
    rw [Schema.columns, List.filter_filterMap]
  have kept {x : Entry} {c : String} :
      x.field.column.filter p = some c ↔ x.field.column = some c ∧ p c = true :=
    Option.filter_eq_some_iff
  constructor
  · intro nodup x hx y hy c hc columnx columny
    have pc := (List.mem_filter.1 hc).2
    rw [picked] at nodup
    rw [eq_of_nodup_filterMap nodup hx hy (kept.2 ⟨columnx, pc⟩) (kept.2 ⟨columny, pc⟩)]
  · intro alone
    rw [picked, List.Nodup, List.pairwise_filterMap]
    refine s.pairwise_walk.imp_of_mem fun {x y} hx hy before c hc d hd same => ?_
    subst same
    have shared : c ∈ s.columns.filter p := by
      rw [picked]
      exact List.mem_filterMap.2 ⟨x, hx, hc⟩
    have place := alone x hx y hy c shared (kept.1 hc).1 (kept.1 hd).1
    rw [place] at before
    exact lt_irrefl _ before

namespace Entity

variable {e : Entity}

/-- An insertion names the columns that pass a test, as an update does. -/
theorem exists_insertColumns_eq_filter (e : Entity) : ∃ p, e.insertColumns = e.columns.filter p := by
  unfold insertColumns
  split
  · exact ⟨_, rfl⟩
  · exact ⟨fun _ => true, (List.filter_true _).symm⟩

theorem plainColumns_eq_nil_iff : e.plainColumns = [] ↔ ∀ c ∈ e.columns, c ∈ e.keyColumns := by
  simp [plainColumns, isKey]

/-- An insertion of a parsed entity names no column just if all that is stored is a generated key. -/
theorem IsParsed.insertColumns_eq_nil_iff (h : e.IsParsed) : e.insertColumns = [] ↔
    e.keyGenerated = true ∧ ∀ c ∈ e.columns, c ∈ e.keyColumns := by
  unfold insertColumns
  cases e.keyGenerated with
  | true => simp [plainColumns_eq_nil_iff]
  | false =>
    obtain ⟨key, rest, keys⟩ := List.exists_cons_of_ne_nil h.keyColumns_ne_nil
    have stored : key ∈ e.columns := h.keyColumns_subset key (by simp [keys])
    simp [List.ne_nil_of_mem stored]

end Entity

/-- A row of an insertion has a value for each of its columns. -/
theorem Entity.length_rowOf {e : Entity} {r : Record} {row : List Value}
    (h : e.rowOf r = .ok row) : row.length = e.insertColumns.length :=
  (mapM_eq_ok_iff.1 h).length_eq.symm

/-! ## Calls that write -/

/-- A call that is answered with a statement that writes columns. -/
inductive WriteCall where
  | insert (hooks : Hooks) (r : Record)
  | insertMany (hooks : Hooks) (t : RecordType) (records : List Record)
  | updateById (hooks : Hooks) (r : Record)

namespace WriteCall

/-- What a registry answers. -/
def statement (reg : Registry) : WriteCall → Except Error Query
  | insert hooks r => (reg.insert hooks r).2
  | insertMany hooks t records => (reg.insertMany hooks t records).2
  | updateById hooks r => (reg.updateById hooks r).2

/-- The type whose entity the statement is for. -/
def type : WriteCall → RecordType
  | insert _ r | updateById _ r => r.type
  | insertMany _ t _ => t

/-- The call inserts rows. -/
def inserts : WriteCall → Bool
  | insert .. | insertMany .. => true
  | updateById .. => false

/-- The columns that the statement is to write. -/
def columns (e : Entity) : WriteCall → List String
  | insert .. | insertMany .. => e.insertColumns
  | updateById .. => e.plainColumns

variable {reg : Registry} {call : WriteCall} {e : Entity} {q : Query}

theorem exists_columns_eq_filter (call : WriteCall) (e : Entity) :
    ∃ p, call.columns e = e.columns.filter p := by
  cases call with
  | insert hooks r => exact e.exists_insertColumns_eq_filter
  | insertMany hooks t records => exact e.exists_insertColumns_eq_filter
  | updateById hooks r => exact ⟨_, rfl⟩

/-- A statement names the columns that it is to write, and every row has a value for each. An update
names at least one. -/
theorem written_of_statement (registered : reg.ofType? call.type = some e)
    (built : call.statement reg = .ok q) :
    q.written = call.columns e ∧ (∀ row ∈ q.rows, row.length = q.written.length) ∧
      (call.inserts = false → q.written ≠ []) := by
  cases call with
  | insert hooks r =>
    obtain ⟨-, e', row, he, hr, rfl⟩ := Registry.insert_eq_ok_iff.1 (Prod.ext rfl built)
    obtain rfl := Option.some.inj (he.symm.trans registered)
    refine ⟨rfl, List.forall_mem_singleton.2 (Entity.length_rowOf hr), ?_⟩
    simp [inserts]
  | insertMany hooks t records =>
    obtain ⟨e', rows, he, -, hr, rfl⟩ := Registry.insertMany_eq_ok_iff.1 (Prod.ext rfl built)
    obtain rfl := Option.some.inj (he.symm.trans registered)
    obtain ⟨-, all⟩ := Entity.rowsOf_eq_ok_iff.1 hr
    refine ⟨rfl, fun row mem => ?_, by simp [inserts]⟩
    obtain ⟨i, hi, rfl⟩ := List.getElem_of_mem mem
    exact Entity.length_rowOf (all.get (all.length_eq ▸ hi) hi)
  | updateById hooks r =>
    obtain ⟨e', he, hu⟩ := Registry.updateById_eq_ok_iff.1 built
    obtain rfl := Option.some.inj (he.symm.trans registered)
    obtain ⟨assignments, keys, ha, -, h⟩ := Entity.update_eq_ok_iff.1 hu
    have columns : q.written = e'.plainColumns := by
      rcases h with ⟨-, rfl⟩ | ⟨column, current, next, -, -, -, rfl⟩
      · exact Entity.columns_of_assignments ha
      · exact Entity.columns_of_advanced ha column next
    have rows : q.rows = [] := by
      rcases h with ⟨-, rfl⟩ | ⟨column, current, next, -, -, -, rfl⟩ <;> rfl
    refine ⟨columns, by simp [rows], fun _ => ?_⟩
    rw [columns, ← Entity.columns_of_assignments ha, Ne, List.map_eq_nil_iff]
    exact (Entity.assignments_eq_ok_iff.1 ha).1

/-- A statement for a parsed entity is well formed unless it inserts nothing but a generated key, or
two fields share a column that it writes. -/
theorem wellFormed_iff (parsed : e.IsParsed) (registered : reg.ofType? call.type = some e)
    (built : call.statement reg = .ok q) :
    q.written = call.columns e ∧ (∀ row ∈ q.rows, row.length = q.written.length) ∧
    (q.WellFormed ↔
      (call.inserts = true → e.keyGenerated = true → ∃ c ∈ e.columns, c ∉ e.keyColumns) ∧
      ∀ x ∈ e.schema.walk, ∀ y ∈ e.schema.walk, ∀ c ∈ call.columns e,
        x.field.column = some c → y.field.column = some c → x.locator = y.locator) := by
  obtain ⟨columns, width, updates⟩ := written_of_statement registered built
  obtain ⟨p, picked⟩ := call.exists_columns_eq_filter e
  have distinct : q.written.Nodup ↔ ∀ x ∈ e.schema.walk, ∀ y ∈ e.schema.walk,
      ∀ c ∈ call.columns e, x.field.column = some c → y.field.column = some c →
        x.locator = y.locator := by
    rw [columns, picked]
    exact Schema.nodup_filter_columns_iff
  have named : q.written ≠ [] ↔
      (call.inserts = true → e.keyGenerated = true → ∃ c ∈ e.columns, c ∉ e.keyColumns) := by
    cases insertion : call.inserts with
    | false => simp [updates insertion]
    | true =>
      have inserted : call.columns e = e.insertColumns := by
        cases call with
        | updateById hooks r => simp [inserts] at insertion
        | insert hooks r | insertMany hooks t records => rfl
      rw [columns, inserted, Ne, parsed.insertColumns_eq_nil_iff]
      simp
  refine ⟨columns, width, ?_⟩
  rw [← named, ← distinct]
  exact ⟨fun h => ⟨h.named, h.distinct⟩, fun ⟨named, distinct⟩ => ⟨named, distinct, width⟩⟩

end WriteCall

/-- Pages embed a stamp, whose note is stored in a column of the given name. -/
private def pages (column : String) : Entity where
  name := "page"
  storageName := "page"
  schema := ⟨⟨0, "Page"⟩, [⟨"id", some "id", "pk", .scalar ⟨.string, false⟩, false⟩,
    ⟨"stamp", none, "", .flatten ⟨⟨1, "Stamp"⟩,
      [⟨"note", some column, "", .scalar ⟨.string, true⟩, false⟩]⟩, false⟩,
    ⟨"note", some "note", "", .scalar ⟨.string, false⟩, false⟩]⟩
  keyColumns := ["id"]

private def page (column id : String) : Record :=
  ⟨(pages column).schema, [.scalar (.ofString id),
    .embedded ⟨⟨⟨1, "Stamp"⟩, [⟨"note", some column, "", .scalar ⟨.string, true⟩, false⟩]⟩,
      [.scalar (.ofString "m")]⟩, .scalar (.ofString "n")]⟩

/-- Of a slip nothing is stored but its number, which the store assigns. -/
private def slips : Entity where
  name := "slip"
  storageName := "slip"
  schema := ⟨⟨0, "Slip"⟩,
    [⟨"id", some "id", "pk,auto_incr", .scalar ⟨.int .int64, false⟩, false⟩]⟩
  keyColumns := ["id"]
  keyGenerated := true

private def slip : Record :=
  ⟨slips.schema, [.scalar (.int .int64 (Bounded.ofInt? .int64 0))]⟩

/-- Two pages are inserted, and one is updated, by well-formed statements. -/
theorem wellFormed_statements_of_pages :
    let reg : Registry := ⟨[pages "stamp_note"]⟩
    let insertion : WriteCall :=
      .insertMany {} ⟨0, "Page"⟩ [page "stamp_note" "a", page "stamp_note" "b"]
    let update : WriteCall := .updateById {} (page "stamp_note" "a")
    (∃ q, insertion.statement reg = .ok q ∧ q.WellFormed ∧
      q.written = ["id", "stamp_note", "note"]) ∧
    ∃ q, update.statement reg = .ok q ∧ q.WellFormed ∧ q.written = ["stamp_note", "note"] := by
  intro reg insertion update
  have parsed : (pages "stamp_note").IsParsed := ⟨some "page", pages "stamp_note", id, rfl, rfl⟩
  have inserted := WriteCall.wellFormed_iff parsed
    (rfl : reg.ofType? insertion.type = some _) (rfl : insertion.statement reg = .ok _)
  have updated := WriteCall.wellFormed_iff parsed
    (rfl : reg.ofType? update.type = some _) (rfl : update.statement reg = .ok _)
  exact ⟨⟨_, rfl, inserted.2.2.2 (by decide), rfl⟩, ⟨_, rfl, updated.2.2.2 (by decide), rfl⟩⟩

/-- The insertion of a slip names no column, and where a stamp shares the column of the note of its
page, the insertion and the update of the page name that column twice. -/
theorem illFormed_statements :
    slips.IsParsed ∧ slips.schema.Derived ∧ slip.Fits slips.schema ∧
    (∃ q, (WriteCall.insert {} slip).statement ⟨[slips]⟩ = .ok q ∧ q.written = [] ∧
      ¬ q.WellFormed) ∧
    (pages "note").IsParsed ∧ (pages "note").schema.Derived ∧
    (page "note" "a").Fits (pages "note").schema ∧
    (∃ q, (WriteCall.insert {} (page "note" "a")).statement ⟨[pages "note"]⟩ = .ok q ∧
      q.written = ["id", "note", "note"] ∧ ¬ q.WellFormed) ∧
    ∃ q, (WriteCall.updateById {} (page "note" "a")).statement ⟨[pages "note"]⟩ = .ok q ∧
      q.written = ["note", "note"] ∧ ¬ q.WellFormed := by
  refine ⟨⟨some "slip", slips, id, rfl, rfl⟩, by decide, ⟨rfl, rfl, trivial⟩,
    ⟨_, rfl, rfl, fun wellFormed => wellFormed.named rfl⟩,
    ⟨some "page", pages "note", id, rfl, rfl⟩, by decide,
    ⟨rfl, rfl, ⟨rfl, rfl, trivial⟩, rfl, trivial⟩, ⟨_, rfl, rfl, ?_⟩, ⟨_, rfl, rfl, ?_⟩⟩
  · intro wellFormed
    exact absurd wellFormed.distinct (by decide)
  · intro wellFormed
    exact absurd wellFormed.distinct (by decide)

end EntityMap
