import EntityMap.Proofs.Statement.Dialects

/-!
# Statements after tables are renamed

To rename the tables of a registry is to rename the tables in the statements that it builds. Each
builder takes the name of a table from an entity, and nothing else that it reads of a registry
changes: which entity has a type or a name, the columns, the keys, the relations. So a builder fails
as before or answers with the statement that it built before, with each table renamed where it
stands.
-/

namespace EntityMap

namespace Sql

variable (f g : String → String)

/-! ## Tables in statements -/

/-- The column of the renamed table. -/
def ColumnRef.renameTable (c : ColumnRef) : ColumnRef := { c with table := c.table.map f }

/-- The predicate on the column of the renamed table. -/
def Predicate.renameTable : Predicate → Predicate
  | .equal c v => .equal (c.renameTable f) v
  | .notIn c vs => .notIn (c.renameTable f) vs

/-- The join of the renamed table, where columns of renamed tables are equal. -/
def Join.renameTables (j : Join) : Join := ⟨f j.table, j.left.renameTable f, j.right.renameTable f⟩

/-- The statement with each of its tables renamed; columns and values stay. -/
def Query.renameTables : Query → Query
  | .select columns table join filter =>
    .select (columns.map (·.renameTable f)) (f table) (join.map (·.renameTables f))
      (filter.map (·.renameTable f))
  | .insert table columns rows onDuplicate => .insert (f table) columns rows onDuplicate
  | .update table assignments filter =>
    .update (f table) assignments (filter.map (·.renameTable f))
  | .delete table filter => .delete (f table) (filter.map (·.renameTable f))

/-! ### Composition -/

@[simp]
theorem ColumnRef.renameTable_renameTable (c : ColumnRef) :
    (c.renameTable f).renameTable g = c.renameTable (g ∘ f) := by
  simp [renameTable]

@[simp]
theorem Predicate.renameTable_renameTable (p : Predicate) :
    (p.renameTable f).renameTable g = p.renameTable (g ∘ f) := by
  cases p <;> simp [renameTable]

@[simp]
theorem Join.renameTables_renameTables (j : Join) :
    (j.renameTables f).renameTables g = j.renameTables (g ∘ f) := by
  simp [renameTables]

/-- Renaming twice is renaming once by the composition. -/
theorem Query.renameTables_renameTables (q : Query) :
    (q.renameTables f).renameTables g = q.renameTables (g ∘ f) := by
  cases q <;> simp [renameTables, Function.comp_def]

/-! ### What has no table -/

@[simp]
theorem ColumnRef.renameTable_bare (column : String) : (bare column).renameTable f = bare column :=
  rfl

@[simp]
theorem ColumnRef.renameTable_of (table column : String) :
    (of table column).renameTable f = of (f table) column :=
  rfl

@[simp]
theorem Predicate.renameTable_eq (column : String) (v : Value) :
    (eq column v).renameTable f = eq column v :=
  rfl

@[simp]
theorem Query.renameTables_selectFrom (table : String) (columns : List String)
    (filter : List Predicate) : (selectFrom table columns filter).renameTables f =
      selectFrom (f table) columns (filter.map (·.renameTable f)) := by
  simp [selectFrom, renameTables, Function.comp_def]

/-! ### Parameters -/

/-- A column binds no value. -/
@[simp]
theorem ColumnRef.values_pieces (c : ColumnRef) : values c.pieces = [] := by
  unfold pieces
  split <;> rfl

/-- A join binds no value. -/
@[simp]
theorem Join.values_pieces (j : Join) : values j.pieces = [] := by
  have parts : j.pieces = [.word " INNER JOIN ", .name j.table, .word " ON "] ++ j.left.pieces ++
      ([.word " = "] ++ j.right.pieces) := rfl
  rw [parts]
  simp only [values_append, ColumnRef.values_pieces]
  rfl

@[simp]
theorem Predicate.values_pieces_renameTable (p : Predicate) :
    values (p.renameTable f).pieces = values p.pieces := by
  cases p <;> simp [renameTable, pieces]

theorem values_filterPieces (ps : List Predicate) :
    values (filterPieces ps) = ps.flatMap fun p => values p.pieces := by
  cases ps with
  | nil => rfl
  | cons p rest =>
    show values (separated " AND " _) = _
    rw [values_separated, List.flatMap_map]

/-- A selection binds the values of its filter. -/
theorem Query.values_pieces_select (d : Dialect) (columns : List ColumnRef) (table : String)
    (join : Option Join) (filter : List Predicate) :
    values ((select columns table join filter).pieces d) =
      filter.flatMap fun p => values p.pieces := by
  have listed : values (.word "SELECT " :: separated ", " (columns.map (·.pieces))) = [] := by
    show values (separated ", " _) = []
    simp [values_separated]
  simp only [pieces, values_append, values_filterPieces, listed]
  cases join with
  | none => rfl
  | some j =>
    rw [j.values_pieces]
    rfl

/-- The parameters stay. -/
theorem Query.params_render_renameTables (q : Query) (d : Dialect) :
    (d.render (q.renameTables f)).params = (d.render q).params := by
  show values ((q.renameTables f).pieces d) = values (q.pieces d)
  cases q with
  | select columns table join filter =>
    simp only [renameTables, values_pieces_select, List.flatMap_map,
      Predicate.values_pieces_renameTable]
  | insert table columns rows onDuplicate =>
    simp only [renameTables, pieces, values_append]
    rfl
  | update | delete =>
    simp only [renameTables, pieces, values_append, values_filterPieces, List.flatMap_map,
      Predicate.values_pieces_renameTable]
    rfl

end Sql

open Sql

/-! ## Entities -/

namespace Entity

variable (e : Entity) (f : String → String)

/-- The filter of a row names no table. -/
@[simp]
theorem map_renameTable_keyFilter (keys : List Value) :
    (e.keyFilter keys).map (·.renameTable f) = e.keyFilter keys := by
  simp [keyFilter]

theorem map_renameTable_of_rowFilter {r : Record} {filter : List Predicate}
    (h : e.rowFilter r = .ok filter) : filter.map (·.renameTable f) = filter := by
  obtain ⟨keys, -, rfl⟩ := rowFilter_eq_ok_iff.1 h
  exact e.map_renameTable_keyFilter f keys

theorem map_renameTable_of_versionFilter {r : Record} {filter : List Predicate}
    (h : e.versionFilter r = .ok filter) : filter.map (·.renameTable f) = filter := by
  obtain ⟨-, rfl⟩ | ⟨column, current, -, -, rfl⟩ := versionFilter_eq_ok_iff.1 h
  · rfl
  · rfl

/-- The selection by predicates that name no table. -/
theorem select_renameStorage {filter : List Predicate}
    (bare : filter.map (·.renameTable f) = filter) :
    (e.renameStorage f).select filter = (e.select filter).renameTables f := by
  rw [select, select, Query.renameTables_selectFrom, bare]
  rfl

theorem rowsOf_renameStorage (hooks : Hooks) (records : List Record) :
    (e.renameStorage f).rowsOf hooks records = e.rowsOf hooks records := by
  induction records with
  | nil => rfl
  | cons r rest ih =>
    rw [rowsOf, rowsOf, ih]
    rfl

/-- The update of the row in the renamed table. -/
theorem update_renameStorage (r : Record) :
    (e.renameStorage f).update r = (e.update r).map (·.renameTables f) := by
  simp only [update, map_of_bind]
  refine bind_congr_of_ok fun assignments _ => bind_congr_of_ok fun keys found => ?_
  have bare := e.map_renameTable_of_rowFilter f found
  have version : (e.renameStorage f).versionColumn = e.versionColumn := rfl
  rw [version]
  cases e.versionColumn with
  | none => simp [Except.map, pure, Except.pure, Query.renameTables, bare, renameStorage]
  | some column =>
    simp only [map_of_bind]
    refine bind_congr_of_ok fun current _ => bind_congr_of_ok fun next _ => ?_
    simp [Except.map, pure, Except.pure, Query.renameTables, bare, renameStorage]

/-- The deletion of the row in the renamed table. -/
theorem delete_renameStorage (r : Record) :
    (e.renameStorage f).delete r = (e.delete r).map (·.renameTables f) := by
  simp only [delete, map_of_bind]
  refine bind_congr_of_ok fun keys found => bind_congr_of_ok fun version held => ?_
  have bare := e.map_renameTable_of_rowFilter f found
  have bare' := e.map_renameTable_of_versionFilter f held
  simp [Except.map, pure, Except.pure, Query.renameTables, bare, bare', renameStorage]

end Entity

/-! ## Registries -/

namespace Registry

variable (reg : Registry) (f : String → String)

/-- The renamed entity is obtained for a type. -/
theorem entityOf_renameStorage (t : RecordType) :
    (reg.renameStorage f).entityOf t = (reg.entityOf t).map (·.renameStorage f) := by
  rw [entityOf, entityOf, ofType?_renameStorage]
  cases reg.ofType? t <;> rfl

/-- The renamed entity is obtained for a name. -/
theorem entityNamed_renameStorage (name : String) :
    (reg.renameStorage f).entityNamed name = (reg.entityNamed name).map (·.renameStorage f) := by
  rw [entityNamed, entityNamed, named?_renameStorage]
  cases reg.named? name <;> rfl

/-- A relation stays what it is, of a renamed entity. -/
theorem resolve_renameStorage (r : Record) (relation : String) :
    (reg.renameStorage f).resolve r relation =
      (reg.resolve r relation).map fun p => (p.1.renameStorage f, p.2) := by
  rw [resolve, resolve, entityOf_renameStorage, bind_of_map, map_of_bind]
  congr 1
  funext e
  have kept : (e.renameStorage f).relation? relation = e.relation? relation := rfl
  rw [kept]
  cases e.relation? relation <;> rfl

/-- A relation leads to the renamed entity. -/
theorem relatedEntity_renameStorage (s : Schema) (rel : Relation) :
    (reg.renameStorage f).relatedEntity s rel =
      (reg.relatedEntity s rel).map (·.renameStorage f) := by
  rw [relatedEntity, relatedEntity, map_of_bind]
  congr 1
  funext entry
  cases entry.field.kind.target? with
  | none => rfl
  | some t => exact reg.entityOf_renameStorage f t

/-! ### Whole records -/

theorem select_renameStorage (t : RecordType) :
    (reg.renameStorage f).select t = (reg.select t).map (·.renameTables f) := by
  simp only [select, entityOf_renameStorage, map_of_map]
  congr 1
  funext e
  exact e.select_renameStorage f rfl

theorem selectByKey_renameStorage (t : RecordType) (keys : List Value) :
    (reg.renameStorage f).selectByKey t keys = (reg.selectByKey t keys).map (·.renameTables f) := by
  simp only [selectByKey, entityOf_renameStorage, bind_of_map, map_of_bind]
  congr 1
  funext e
  congr 1
  funext _
  exact congrArg Except.ok (e.select_renameStorage f (e.map_renameTable_keyFilter f keys))

theorem selectById_renameStorage (r : Record) :
    (reg.renameStorage f).selectById r = (reg.selectById r).map (·.renameTables f) := by
  simp only [selectById, entityOf_renameStorage, bind_of_map, map_of_bind,
    selectByKey_renameStorage]
  rfl

theorem deleteByKey_renameStorage (t : RecordType) (keys : List Value) :
    (reg.renameStorage f).deleteByKey t keys = (reg.deleteByKey t keys).map (·.renameTables f) := by
  simp only [deleteByKey, entityOf_renameStorage, bind_of_map, map_of_bind]
  congr 1
  funext e
  congr 1
  funext _
  show Except.ok (Query.delete (f e.storageName) (e.keyFilter keys)) =
    .ok (.delete (f e.storageName) ((e.keyFilter keys).map _))
  rw [e.map_renameTable_keyFilter]

theorem deleteById_renameStorage (r : Record) :
    (reg.renameStorage f).deleteById r = (reg.deleteById r).map (·.renameTables f) := by
  simp only [deleteById, entityOf_renameStorage, bind_of_map, map_of_bind,
    Entity.delete_renameStorage]

theorem insertMany_renameStorage (hooks : Hooks) (t : RecordType) (records : List Record) :
    (reg.renameStorage f).insertMany hooks t records =
      (reg.insertMany hooks t records).map id (·.map (·.renameTables f)) := by
  simp only [insertMany, entityOf_renameStorage]
  cases reg.entityOf t with
  | error err => rfl
  | ok e =>
    show (if records.isEmpty then _ else (_, _)) = _
    rw [e.rowsOf_renameStorage]
    cases records with
    | nil => rfl
    | cons r rest =>
      show (_, Except.map _ _) = (_, Except.map _ (Except.map _ _))
      rw [map_of_map]
      rfl

theorem insert_renameStorage (hooks : Hooks) (r : Record) :
    (reg.renameStorage f).insert hooks r =
      (reg.insert hooks r).map id (·.map (·.renameTables f)) := by
  simp only [insert, insertMany_renameStorage]
  rfl

theorem updateById_renameStorage (hooks : Hooks) (r : Record) :
    (reg.renameStorage f).updateById hooks r =
      (reg.updateById hooks r).map id (·.map (·.renameTables f)) := by
  simp only [updateById, entityOf_renameStorage]
  cases reg.entityOf r.type with
  | error err => rfl
  | ok e =>
    show (_, (e.renameStorage f).update _) = _
    rw [e.update_renameStorage]
    rfl

/-! ### Relations -/

theorem selectRelation_renameStorage (r : Record) (relation : String) :
    (reg.renameStorage f).selectRelation r relation =
      (reg.selectRelation r relation).map (·.renameTables f) := by
  simp only [selectRelation, resolve_renameStorage, bind_of_map, map_of_bind]
  refine bind_congr_of_ok fun p _ => ?_
  obtain ⟨e, rel⟩ := p
  dsimp only
  cases rel.link with
  | belongsTo own =>
    simp only [relatedEntity_renameStorage, bind_of_map, map_of_bind]
    refine bind_congr_of_ok fun target _ => bind_congr_of_ok fun key _ =>
      bind_congr_of_ok fun value _ => congrArg Except.ok ?_
    exact (Query.renameTables_selectFrom f target.storageName target.columns [.eq key value]).symm
  | hasMany other | hasOne other =>
    simp only [relatedEntity_renameStorage, bind_of_map, map_of_bind]
    refine bind_congr_of_ok fun target _ => bind_congr_of_ok fun value _ => congrArg Except.ok ?_
    exact (Query.renameTables_selectFrom f target.storageName target.columns [.eq other value]).symm
  | belongsToMany join =>
    simp only [relatedEntity_renameStorage, entityNamed_renameStorage, bind_of_map, map_of_bind]
    refine bind_congr_of_ok fun target _ => bind_congr_of_ok fun through _ =>
      bind_congr_of_ok fun key _ => bind_congr_of_ok fun value _ => congrArg Except.ok ?_
    simp only [Query.renameTables, List.map_map, Function.comp_def, ColumnRef.renameTable_of]
    rfl
  | belongsToManyIds join =>
    simp only [entityNamed_renameStorage, bind_of_map, map_of_bind]
    refine bind_congr_of_ok fun entry _ => bind_congr_of_ok fun through _ =>
      bind_congr_of_ok fun value _ => congrArg Except.ok ?_
    exact (Query.renameTables_selectFrom f through.storageName [join.otherColumn]
      [.eq join.ownColumn value]).symm

/-- The plan is for the renamed join table. -/
theorem joinPlan_renameStorage (r : Record) (relation : String) :
    (reg.renameStorage f).joinPlan r relation =
      (reg.joinPlan r relation).map fun p => { p with table := f p.table } := by
  simp only [joinPlan, resolve_renameStorage, bind_of_map, map_of_bind]
  refine bind_congr_of_ok fun p _ => ?_
  obtain ⟨e, rel⟩ := p
  dsimp only
  cases rel.link with
  | belongsToManyIds join =>
    simp only [map_of_bind]
    refine bind_congr_of_ok fun entry _ => ?_
    cases r.idsAt? entry.locator with
    | none => rfl
    | some ids =>
      simp only [entityNamed_renameStorage, bind_of_map, map_of_bind]
      rfl
  | _ => rfl

theorem reconcileDelete_renameStorage (r : Record) (relation : String) :
    (reg.renameStorage f).reconcileDelete r relation =
      (reg.reconcileDelete r relation).map (·.renameTables f) := by
  simp only [reconcileDelete, joinPlan_renameStorage, map_of_map]
  congr 1
  funext p
  unfold JoinPlan.delete
  split
  · rfl
  · rfl

theorem reconcileInsert_renameStorage (r : Record) (relation : String) :
    (reg.renameStorage f).reconcileInsert r relation =
      (reg.reconcileInsert r relation).map (·.map (·.renameTables f)) := by
  simp only [reconcileInsert, joinPlan_renameStorage, bind_of_map, map_of_bind]
  congr 1
  funext p
  -- An insertion that could fail would name the table in its error, but that of a plan cannot.
  simp only [JoinPlan.insert_eq, JoinPlan.statements]
  split
  · rfl
  · rfl

theorem reconcile_renameStorage (r : Record) (relation : String) :
    (reg.renameStorage f).reconcile r relation = (reg.reconcile r relation).map fun p =>
      ⟨p.delete.renameTables f, p.insert.map (·.renameTables f)⟩ := by
  simp only [reconcile, reconcileDelete_renameStorage, reconcileInsert_renameStorage, bind_of_map,
    map_of_bind]
  rfl

end Registry

/-! ## Calls -/

namespace BuilderCall

/-- What becomes of the statements of a call when tables are renamed. An insertion of missing rows
is told its table and asks no registry for it. -/
def afterRenaming (f : String → String) : BuilderCall → Query → Query
  | insertMissing .. => id
  | _ => Query.renameTables f

/-- A call fails as before, or is answered with the statements as renamed. -/
theorem answer_renameStorage (reg : Registry) (f : String → String) (call : BuilderCall) :
    call.answer (reg.renameStorage f) = (call.answer reg).map (·.map (call.afterRenaming f)) := by
  cases call with
  | insertMissing table columns rows =>
    simp only [answer, map_of_map]
    congr 1
    funext q
    simp [afterRenaming, Answer.map]
  | _ =>
    simp only [answer, Registry.select_renameStorage, Registry.selectByKey_renameStorage,
      Registry.selectById_renameStorage, Registry.selectRelation_renameStorage,
      Registry.insert_renameStorage, Registry.insertMany_renameStorage,
      Registry.updateById_renameStorage, Registry.deleteByKey_renameStorage,
      Registry.deleteById_renameStorage, Registry.reconcile_renameStorage, Prod.map, map_of_map]
    rfl

end BuilderCall

/-- When the tables of a registry are renamed, each call fails with the error with which it failed
before, or is answered with the statements of before, each table in them renamed, wherever it
stands; the parameters are the same, and so are the records after their hooks. To rename by `f` and
then by `g` is to rename by their composition. -/
theorem Registry.statements_renameStorage (reg : Registry) (f g : String → String) :
    (∀ call : BuilderCall,
      call.answer (reg.renameStorage f) = (call.answer reg).map (·.map (call.afterRenaming f)) ∧
      ∀ d, call.statements (reg.renameStorage f) d =
        (call.answer reg).map (·.map fun q => d.render (call.afterRenaming f q))) ∧
    (∀ r relation,
      (reg.renameStorage f).reconcileDelete r relation =
        (reg.reconcileDelete r relation).map (·.renameTables f) ∧
      (reg.renameStorage f).reconcileInsert r relation =
        (reg.reconcileInsert r relation).map (·.map (·.renameTables f))) ∧
    (∀ hooks r, ((reg.renameStorage f).insert hooks r).1 = (reg.insert hooks r).1 ∧
      ((reg.renameStorage f).updateById hooks r).1 = (reg.updateById hooks r).1) ∧
    (∀ hooks t records, ((reg.renameStorage f).insertMany hooks t records).1 =
      (reg.insertMany hooks t records).1) ∧
    (∀ (q : Query) (d : Dialect),
      (d.render (q.renameTables f)).params = (d.render q).params) ∧
    (reg.renameStorage f).renameStorage g = reg.renameStorage (g ∘ f) ∧
    ∀ q : Query, (q.renameTables f).renameTables g = q.renameTables (g ∘ f) := by
  refine ⟨fun call => ⟨call.answer_renameStorage reg f, fun d => ?_⟩, fun r relation => ⟨?_, ?_⟩,
    fun hooks r => ⟨?_, ?_⟩, fun hooks t records => ?_, fun q d => ?_, ?_, fun q => ?_⟩
  · rw [BuilderCall.statements, call.answer_renameStorage, map_of_map]
    congr 1
    funext a
    simp [Answer.map, Function.comp_def]
  · exact reg.reconcileDelete_renameStorage f r relation
  · exact reg.reconcileInsert_renameStorage f r relation
  · rw [reg.insert_renameStorage]
    rfl
  · rw [reg.updateById_renameStorage]
    rfl
  · rw [reg.insertMany_renameStorage]
    rfl
  · exact q.params_render_renameTables f d
  · exact reg.renameStorage_renameStorage f g
  · exact q.renameTables_renameTables f g

end EntityMap
