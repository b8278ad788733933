import EntityMap.Proofs.Execution.Calls
import EntityMap.Proofs.Statement.Related

/-!
# Loading a relation all at once or not at all

To load a relation, its selection and the place of its rows are found first, then the selection is
run, then the rows are read, and only when all of them are read is the field written. So a load that
fails leaves the record as it was, and one that succeeds changes the one field.
-/

namespace EntityMap

open Sql

variable {catalog : Catalog} {rows : List Row} {content : Slot} {held filled : Handle}

/-! ## What rows are for a field -/

/-- The content that rows are for a relation field of a kind. -/
inductive FieldKind.Filled (catalog : Catalog) : FieldKind → List Row → Slot → Prop
  /-- No row is no record. -/
  | nothing (target : RecordType) : Filled catalog (.one (some target)) [] (.one none)
  /-- The first row is the record, whatever rows follow. -/
  | first {target : RecordType} {row : Row} {record : Record} (rest : List Row)
    (read : (catalog target).fromRow row = .ok record) :
    Filled catalog (.one (some target)) (row :: rest) (.one (some record))
  /-- Every row is a record. -/
  | every {target : RecordType} {rows : List Row} {records : List Record}
    (read : List.Forall₂ (fun row record => (catalog target).fromRow row = .ok record)
      rows records) :
    Filled catalog (.many (some target)) rows (.many records)
  /-- The first value of every row is a key. -/
  | keys {element : ScalarType} {rows : List Row} {values : List Value}
    (read : List.Forall₂ (fun (row : Row) value =>
      row.valueAt? 0 = some value ∧ element.admits value = true) rows values) :
    Filled catalog (.ids element) rows (.ids values)

theorem Row.identifier_eq_ok_iff {row : Row} {t : ScalarType} {v : Value} :
    row.identifier t = .ok v ↔ row.valueAt? 0 = some v ∧ t.admits v = true := by
  unfold Row.identifier
  cases row.valueAt? 0 with
  | none => simp
  | some w =>
    rw [ScalarType.decode_eq_ok_iff, Option.some.injEq, and_comm]
    exact and_congr_right fun same => by rw [same]

namespace Handle

/-- What a handle is filled with is what the rows are for its field. -/
theorem filled_of_fill (h : held.fill catalog rows = .ok filled) :
    held.kind.Filled catalog rows filled.slot := by
  cases held with
  | one target related =>
    cases rows with
    | nil =>
      obtain rfl := Except.ok.inj h
      exact .nothing target
    | cons row rest =>
      obtain ⟨record, read, rfl⟩ := map_eq_ok_iff.1 h
      exact .first rest read
  | many target related =>
    obtain ⟨records, read, rfl⟩ := map_eq_ok_iff.1 h
    exact .every (mapM_eq_ok_iff.1 read)
  | ids element values =>
    obtain ⟨keys, read, rfl⟩ := map_eq_ok_iff.1 h
    exact .keys ((mapM_eq_ok_iff.1 read).imp fun row value => Row.identifier_eq_ok_iff.1)

/-- A handle can be filled with what rows are for its field. -/
theorem exists_fill_of_filled (h : held.kind.Filled catalog rows content) :
    ∃ filled : Handle, held.fill catalog rows = .ok filled ∧ filled.slot = content := by
  generalize hk : held.kind = kind at h
  cases held with
  | one target related =>
    cases h with
    | nothing target' =>
      exact ⟨.one target none, rfl, rfl⟩
    | @first target' row record rest read =>
      obtain rfl : target = target' := by simpa [Handle.kind] using hk
      exact ⟨.one target (some record), map_eq_ok_iff.2 ⟨record, read, rfl⟩, rfl⟩
    | every => cases hk
    | keys => cases hk
  | many target related =>
    cases h with
    | @every target' rows records read =>
      obtain rfl : target = target' := by simpa [Handle.kind] using hk
      exact ⟨.many target records, map_eq_ok_iff.2 ⟨records, mapM_eq_ok_iff.2 read, rfl⟩, rfl⟩
    | _ => cases hk
  | ids element values =>
    cases h with
    | @keys element' rows values read =>
      obtain rfl : element = element' := by simpa [Handle.kind] using hk
      have keys := read.imp fun row value => Row.identifier_eq_ok_iff.2
      exact ⟨.ids element values, map_eq_ok_iff.2 ⟨values, mapM_eq_ok_iff.2 keys, rfl⟩, rfl⟩
    | _ => cases hk

end Handle

/-! ## Loading -/

/-- The record after is the record before but for the field at a locator, which has the content. -/
structure Record.ReplacedAt (l : Locator) (content : Slot) (r r' : Record) : Prop where
  schema : r'.schema = r.schema
  content : ∃ f old, r.leaf? l = some (f, old) ∧ r'.leaf? l = some (f, content)
  others : ∀ m, m ≠ l → r'.leaf? m = r.leaf? m

/-- What is put through a handle replaces the content of one field. -/
theorem Record.replacedAt_putHandle {r : Record} {l : Locator} {c : Field × Slot}
    (leaf : r.leaf? l = some c) (h : Handle) : r.ReplacedAt l h.slot (r.putHandle l h) :=
  ⟨schema_putHandle leaf h, ⟨c.1, c.2, leaf, leaf?_putHandle_self leaf h⟩,
    fun _ ne => leaf?_putHandle_of_ne leaf h ne⟩

/-- What a load comes to, by the answer of the executor. -/
inductive LoadResult {σ : Type} (catalog : Catalog) (r : Record) (l : Locator) (kind : FieldKind) :
    Except Error (List Row) → Run σ Nat → Prop
  /-- The executor failed. -/
  | unanswered (err : Error) (store : σ) :
    LoadResult catalog r l kind (.error err) ⟨r, store, .error err⟩
  /-- The rows are no content of the field. -/
  | unreadable {rows : List Row} (unfit : ∀ content, ¬ kind.Filled catalog rows content)
    (err : Error) (store : σ) : LoadResult catalog r l kind (.ok rows) ⟨r, store, .error err⟩
  /-- The rows are the content of the field in the record after. -/
  | loaded {rows : List Row} {content : Slot} {r' : Record}
    (filled : kind.Filled catalog rows content) (replaced : r.ReplacedAt l content r') (store : σ) :
    LoadResult catalog r l kind (.ok rows) ⟨r', store, .ok rows.length⟩

namespace Executor

section

variable {σ : Type} (ex : Executor σ) {reg : Registry} {r : Record} {relation : String} {q : Query}
  {l : Locator}

/-- A load comes to one of its results once its selection and handle are found. -/
theorem loadResult_of_target (target : reg.selectRelationTarget r relation = .ok (q, l, held))
    {f : Field} (leaf : r.leaf? l = some (f, held.slot)) (catalog : Catalog) (store : σ) :
    LoadResult catalog r l held.kind (ex.queryAll q store).1
      (ex.loadRelation reg catalog r relation store) := by
  rcases run : ex.loadRelation reg catalog r relation store with ⟨record, after, result⟩
  obtain ⟨-, ⟨err, answer, rfl, rfl⟩ | ⟨rows, answer, ⟨err, unfilled, rfl, rfl⟩ |
    ⟨filled, filling, rfl, rfl⟩⟩⟩ := ex.loadRelation_cases target catalog store run
  · rw [answer]
    exact .unanswered err after
  · rw [answer]
    refine .unreadable (fun content fits => ?_) err after
    obtain ⟨filled, filling, -⟩ := Handle.exists_fill_of_filled fits
    simp [unfilled] at filling
  · rw [answer]
    exact .loaded (Handle.filled_of_fill filling) (Record.replacedAt_putHandle leaf filled) after

/-- A load that fails leaves the record as it was, whatever step fails. -/
theorem record_of_loadRelation_error {store : σ} {err : Error}
    (h : (ex.loadRelation reg catalog r relation store).result = .error err) :
    (ex.loadRelation reg catalog r relation store).record = r := by
  cases target : reg.selectRelationTarget r relation with
  | error err => simp [loadRelation, target]
  | ok found =>
    obtain ⟨q, l, held⟩ := found
    obtain ⟨-, ⟨err, -, record, -⟩ | ⟨rows, -, ⟨err, -, record, -⟩ | ⟨filled, -, -, loaded⟩⟩⟩ :=
      ex.loadRelation_cases target catalog store rfl
    · exact record
    · exact record
    · simp [loaded] at h

end

/-- A relation is loaded all at once or not at all. Where its selection or the handle of its field
cannot be found, nothing reaches the executor, and otherwise the selection alone does. The load
fails if the executor fails or the rows are not the content of the field, and then the record is as
it was; or else that content replaces what the field held, and all other fields are as before. -/
theorem loadRelation_atomic {σ : Type} (ex : Executor σ) (reg : Registry) (catalog : Catalog)
    (r : Record) (relation : String) (store : σ) :
    let run := ex.loadRelation reg catalog r relation store
    let noted := ex.noting.loadRelation reg catalog r relation (store, [])
    noted.forget = run ∧ (∀ err, run.result = .error err → run.record = r) ∧
    ((∃ err, reg.selectRelationTarget r relation = .error err ∧ run = ⟨r, store, .error err⟩ ∧
        noted.store.2 = []) ∨
      ∃ q e rel x held f, reg.selectRelationTarget r relation = .ok (q, x.locator, held) ∧
        reg.selectRelation r relation = .ok q ∧ reg.ofType? r.type = some e ∧
        e.relation? relation = some rel ∧ r.schema.relationEntry rel = .ok x ∧
        r.leaf? x.locator = some (f, held.slot) ∧ (r.Fits r.schema → f = x.field) ∧
        noted.store.2 = [.read q (ex.queryAll q store).1] ∧ run.store = (ex.queryAll q store).2 ∧
        LoadResult catalog r x.locator f.kind (ex.queryAll q store).1 run) := by
  intro run noted
  have same : noted.forget = run := ex.forget_noting_loadRelation reg r store [] catalog relation
  refine ⟨same, fun err => ex.record_of_loadRelation_error, ?_⟩
  cases target : reg.selectRelationTarget r relation with
  | error err =>
    refine .inl ⟨err, rfl, ?_, ?_⟩
    · simp [run, loadRelation, target]
    · simp [noted, loadRelation, target]
  | ok found =>
    obtain ⟨q, l, held⟩ := found
    obtain ⟨selected, e, rel, x, registered, hrel, entry, rfl, handle⟩ :=
      Registry.selectRelationTarget_eq_ok_iff.1 target
    obtain ⟨f, leaf, kind, -⟩ := Record.handleAt?_eq_some_iff.1 handle
    refine .inr ⟨q, e, rel, x, held, f, rfl, selected, registered, hrel, entry, leaf,
      ?_, ?_, ?_, ?_⟩
    · intro fits
      obtain ⟨hx, -, -⟩ :=
        Schema.fieldEntry?_eq_some_iff.1 (Schema.relationEntry_eq_ok_iff.1 entry).1
      obtain ⟨slot, leaf'⟩ := fits.exists_leaf? hx
      rw [leaf, Option.some.injEq, Prod.mk.injEq] at leaf'
      exact leaf'.1
    · exact congrArg Prod.snd (ex.noting.loadRelation_cases target catalog (store, []) rfl).1
    · exact (ex.loadRelation_cases target catalog store rfl).1
    · rw [kind]
      exact ex.loadResult_of_target target leaf catalog store

end Executor

end EntityMap
