import EntityMap.Proofs.Entity.Values
import EntityMap.Proofs.Record.RoundTrip
import EntityMap.Proofs.Statement.Keyed

/-!
# Insertions

An insertion runs the hook of each record once and binds the values of its columns, row by row. For
records of a derived type it can always be built, and the rows hold all that is stored of the
records: a row that is read back is the record after its hook, but for the fields that are not
stored. A hook may change what a record holds, and not its type.
-/

namespace EntityMap

open Sql

variable {reg : Registry} {hooks : Hooks} {e : Entity} {r : Record} {records after : List Record}
  {rows : List (List Value)}

/-! ## The builders -/

/-- The rows are those of the records after their hooks, in order. -/
theorem Entity.rowsOf_eq_ok_iff : e.rowsOf hooks records = (after, .ok rows) ↔
    after = records.map hooks.beforeInsert ∧
      List.Forall₂ (fun r row => e.rowOf (hooks.beforeInsert r) = .ok row) records rows := by
  induction records generalizing after rows with
  | nil =>
    constructor
    · rintro ⟨⟩
      exact ⟨rfl, .nil⟩
    · rintro ⟨rfl, ⟨⟩⟩
      rfl
  | cons r rest ih =>
    constructor
    · intro h
      rw [Entity.rowsOf] at h
      cases hr : e.rowOf (hooks.beforeInsert r) with
      | error err => simp [hr] at h
      | ok row =>
        rcases hrest : e.rowsOf hooks rest with ⟨after', err | rows'⟩
        · simp [hr, hrest, Except.map] at h
        · simp only [hr, hrest, Except.map, Prod.mk.injEq, Except.ok.injEq] at h
          obtain ⟨rfl, rfl⟩ := h
          obtain ⟨rfl, all⟩ := ih.1 hrest
          exact ⟨rfl, .cons hr all⟩
    · rintro ⟨rfl, all⟩
      cases all with
      | cons first later =>
        rw [Entity.rowsOf]
        simp only [first, ih.2 ⟨rfl, later⟩, Except.map, List.map_cons]

/-- Rows are inserted for the records of a registered type, if there are any. -/
theorem Registry.insertMany_eq_ok_iff {t : RecordType} {q : Query} :
    reg.insertMany hooks t records = (after, .ok q) ↔
      ∃ e rows, reg.ofType? t = some e ∧ records ≠ [] ∧
        e.rowsOf hooks records = (after, .ok rows) ∧
        q = .insert e.storageName e.insertColumns rows .fail := by
  unfold insertMany
  rw [entityOf]
  cases reg.ofType? t with
  | none => simp
  | some e =>
    by_cases ne : records = []
    · simp [ne]
    · rcases h : e.rowsOf hooks records with ⟨after', err | rows⟩
      · simp [ne, h, Except.map]
      · simp [ne, h, Except.map, @eq_comm _ q]

/-- The insertion of one record is that of a list of one. -/
theorem Registry.insert_eq_ok_iff {q : Query} {r' : Record} :
    reg.insert hooks r = (r', .ok q) ↔ r' = hooks.beforeInsert r ∧
      ∃ e row, reg.ofType? r.type = some e ∧ e.rowOf r' = .ok row ∧
        q = .insert e.storageName e.insertColumns [row] .fail := by
  unfold insert
  constructor
  · intro h
    rcases built : reg.insertMany hooks r.type [r] with ⟨after, result⟩
    simp only [built, Prod.mk.injEq] at h
    obtain ⟨rfl, rfl⟩ := h
    obtain ⟨e, rows, he, -, hr, rfl⟩ := insertMany_eq_ok_iff.1 built
    obtain ⟨rfl, all⟩ := Entity.rowsOf_eq_ok_iff.1 hr
    cases all with
    | cons first none =>
      cases none
      exact ⟨rfl, e, _, he, first, rfl⟩
  · rintro ⟨rfl, e, row, he, hr, rfl⟩
    have rows : e.rowsOf hooks [r] = ([hooks.beforeInsert r], .ok [row]) :=
      Entity.rowsOf_eq_ok_iff.2 ⟨rfl, .cons hr .nil⟩
    rw [insertMany_eq_ok_iff.2 ⟨e, [row], he, List.cons_ne_nil r [], rows, rfl⟩]
    rfl

/-! ## Rows of records that fit -/

/-- A row can be built for every record of a derived type. -/
theorem Entity.exists_rowOf (derived : e.schema.Derived) (fits : r.Fits e.schema) :
    ∃ row, e.rowOf r = .ok row := by
  refine Entity.exists_mapM_columnValue fits fun c hc => fits.exists_column? derived ?_
  unfold Entity.insertColumns at hc
  split at hc
  · exact (List.mem_filter.1 hc).1
  · exact hc

/-- The values of a row are those of the columns. -/
theorem Entity.rowOf_eq_ok_iff (fits : r.Fits e.schema) {row : List Value} : e.rowOf r = .ok row ↔
    List.Forall₂ (fun c v => r.column? c = some v) e.insertColumns row := by
  simp only [Entity.rowOf, mapM_eq_ok_iff, Entity.columnValue_eq_ok_iff fits]

private theorem exists_mem_zip {α β : Type} {R : α → β → Prop} {xs : List α} {ys : List β}
    (h : List.Forall₂ R xs ys) {x : α} (hx : x ∈ xs) : ∃ y, (x, y) ∈ xs.zip ys ∧ R x y := by
  induction h with
  | nil => simp at hx
  | cons first _ ih =>
    rcases List.mem_cons.1 hx with rfl | later
    · exact ⟨_, List.mem_cons_self, first⟩
    · obtain ⟨y, hy, hr⟩ := ih later
      exact ⟨y, .tail _ hy, hr⟩

/-- A row that carries the values of all columns of a record is read as what is stored of it. -/
theorem Entity.fromRow_of_carries (derived : e.schema.Derived) (distinct : e.columns.Nodup)
    (plain : ∀ c ∈ e.columns, '.' ∉ c.toList) (fits : r.Fits e.schema) {values : List Value}
    (bound : List.Forall₂ (fun c v => r.column? c = some v) e.columns values) {row : Row}
    (carries : row.Carries (e.columns.zip values)) : e.schema.fromRow row = .ok r.stored := by
  refine Schema.fromRow_eq_stored derived fits fun x hx c stored v hv => ?_
  have mem : c ∈ e.columns := Schema.mem_columns_iff.2 ⟨x, hx, stored⟩
  obtain ⟨w, hw, held⟩ := exists_mem_zip bound mem
  rw [fits.column?_of_mem_walk distinct hx stored, hv] at held
  obtain rfl := Option.some.inj held
  exact carries.value?_eq (plain c mem) hw

/-- Records of a derived type whose keys are given can be inserted. The hook of each runs once, and
from every row that carries the columns by which the record is selected with the values that were
bound for it, the record is read as its hook left it, but for what is not stored. -/
theorem Registry.insertMany_reads_back (parsed : e.IsParsed)
    (registered : reg.ofType? e.type = some e) (derived : e.schema.Derived)
    (distinct : e.columns.Nodup) (plain : ∀ c ∈ e.columns, '.' ∉ c.toList)
    (given : e.keyGenerated = false)
    (hook : ∀ r, r.Fits e.schema → (hooks.beforeInsert r).Fits e.schema)
    (fits : ∀ r ∈ records, r.Fits e.schema) (ne : records ≠ []) :
    ∃ rows, reg.insertMany hooks e.type records =
        (records.map hooks.beforeInsert, .ok (.insert e.storageName e.columns rows .fail)) ∧
      List.Forall₂ (fun r values => ∃ filter,
        reg.selectById (hooks.beforeInsert r) =
          .ok (.selectFrom e.storageName e.columns filter) ∧
        ∀ row : Row, row.Carries (e.columns.zip values) →
          e.schema.fromRow row = .ok (hooks.beforeInsert r).stored) records rows := by
  have columns : e.insertColumns = e.columns := by simp [Entity.insertColumns, given]
  -- that the records fit after their hooks is kept with the rows, as the selections need it too
  obtain ⟨rows, all⟩ : ∃ rows, List.Forall₂ (fun r row => (hooks.beforeInsert r).Fits e.schema ∧
      e.rowOf (hooks.beforeInsert r) = .ok row) records rows := by
    refine exists_forall₂ fun r hr => ?_
    have after := hook r (fits r hr)
    obtain ⟨row, built⟩ := Entity.exists_rowOf derived after
    exact ⟨row, after, built⟩
  refine ⟨rows, ?_, all.imp ?_⟩
  · rw [← columns]
    exact insertMany_eq_ok_iff.2 ⟨e, rows, registered, ne,
      Entity.rowsOf_eq_ok_iff.2 ⟨rfl, all.imp fun r row h => h.2⟩, rfl⟩
  · rintro r values ⟨after, built⟩
    have ofType := Entity.ofType?_of_fits registered after
    obtain ⟨keys, hk⟩ : ∃ keys, e.keyValues (hooks.beforeInsert r) = .ok keys :=
      Entity.exists_mapM_columnValue after fun c hc =>
        after.exists_column? derived (parsed.keyColumns_subset c hc)
    have bound := (Entity.rowOf_eq_ok_iff after).1 built
    rw [columns] at bound
    exact ⟨_, selectById_eq_ok_iff.2 ⟨e, keys, ofType, hk, rfl⟩,
      fun row carries => Entity.fromRow_of_carries derived distinct plain after bound carries⟩

private def places : Schema :=
  ⟨⟨1, "Place"⟩, [⟨"room", some "room", "", .scalar ⟨.string, true⟩, false⟩,
    ⟨"visits", none, "", .scalar ⟨.int .int32, false⟩, false⟩]⟩

/-- Albums have a place, and the keys of their tags in another table. -/
private def albums : Entity where
  name := "album"
  storageName := "album"
  schema := ⟨⟨0, "Album"⟩, [⟨"id", some "id", "pk", .scalar ⟨.string, false⟩, false⟩,
    ⟨"place", none, "", .flatten places, false⟩,
    ⟨"title", some "title", "", .scalar ⟨.string, false⟩, false⟩,
    ⟨"tags", none, "", .ids ⟨.string, false⟩, false⟩]⟩
  keyColumns := ["id"]

private def shelves : Registry := ⟨[albums]⟩

private def album (id title : String) (visits : Int) (tags : List Value) : Record :=
  ⟨albums.schema, [.scalar (.ofString id),
    .embedded ⟨places, [.scalar (.ofString "x"),
      .scalar (.int .int32 (Bounded.ofInt? .int32 visits))]⟩,
    .scalar (.ofString title), .ids tags]⟩

/-- Two albums are inserted, of which one is read back, without its visits and its tags, from a row
of other columns too. -/
theorem insertMany_reads_back_albums :
    let hooks : Hooks := { beforeInsert := fun r => r.put 2 (.scalar (.ofString "t")) }
    let given := [album "a" "" 3 [], album "b" "" 4 [.ofString "k"]]
    ∃ rows, shelves.insertMany hooks albums.type given =
        ([album "a" "t" 3 [], album "b" "t" 4 [.ofString "k"]],
          .ok (.insert "album" ["id", "room", "title"] rows .fail)) ∧
      albums.schema.fromRow ⟨[("k.title", .ofString "t"), ("album.pages", .ofString ""),
        ("id", .ofString "b"), ("k.room", .ofString "x")]⟩ = .ok (album "b" "t" 0 []) := by
  intro hooks given
  have parsed : albums.IsParsed := ⟨some "album", albums, id, rfl, rfl⟩
  have registered : shelves.ofType? albums.type = some albums := rfl
  have hook (r : Record) (fits : r.Fits albums.schema) :
      (hooks.beforeInsert r).Fits albums.schema :=
    fits.put (f := ⟨"title", some "title", "", .scalar ⟨.string, false⟩, false⟩) rfl rfl
  have fits : ∀ r ∈ given, r.Fits albums.schema := by
    refine List.forall_mem_cons.2 ⟨?_, List.forall_mem_singleton.2 ?_⟩
    · exact ⟨rfl, rfl, ⟨rfl, rfl, rfl, trivial⟩, rfl, List.forall_mem_nil _, trivial⟩
    · exact ⟨rfl, rfl, ⟨rfl, rfl, rfl, trivial⟩, rfl, List.forall_mem_singleton.2 rfl, trivial⟩
  obtain ⟨rows, built, read⟩ := Registry.insertMany_reads_back parsed registered (by decide)
    (by decide) (by decide) rfl hook fits (List.cons_ne_nil _ _)
  refine ⟨rows, built, ?_⟩
  obtain rfl : [[.ofString "a", .ofString "x", .ofString "t"],
      [.ofString "b", .ofString "x", .ofString "t"]] = rows := by
    have bound : (shelves.insertMany hooks albums.type given).2 = .ok (.insert "album"
      ["id", "room", "title"] [[.ofString "a", .ofString "x", .ofString "t"],
        [.ofString "b", .ofString "x", .ofString "t"]] .fail) := rfl
    rw [built] at bound
    exact (Query.insert.inj (Except.ok.inj bound)).2.2.1.symm
  obtain ⟨-, later⟩ := List.forall₂_cons.1 read
  obtain ⟨⟨filter, -, read⟩, -⟩ := List.forall₂_cons.1 later
  exact read _ ((Row.carries_iff (by decide)).2 (by decide))

end EntityMap
