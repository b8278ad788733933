import EntityMap.Proofs.Execution.Versioned
import EntityMap.Proofs.Statement.Lookups

/-!
# Relations followed from both sides

Two entities that are related to each other each have a relation that leads to the other. A foreign
key and a reference back by the same column mirror each other, and so do two relations through one
join table whose columns are crossed. Then the relation of a record leads to the row of another just
if the relation of that one leads back, for either record was read from its row and has the value
that is compared. A record has it unless another column answers to the name of the column.
-/

namespace EntityMap

open Sql

/-- The second link leads back where the first leads: by the same foreign key, or through the same
join table with the columns crossed. -/
def Link.Mirrors : Link → Link → Prop
  | .belongsTo own, .hasMany other | .belongsTo own, .hasOne other => own = other
  | .belongsToMany join, .belongsToMany back =>
    join.joinName = back.joinName ∧ join.ownColumn = back.otherColumn ∧
      join.otherColumn = back.ownColumn
  | _, _ => False

namespace Entity

variable (e : Entity) (rel : Relation) (column : String)

/-- The column of this side whose value the selection for a relation compares: the foreign key, or
else the first key column. -/
def sourceColumn? : Option String :=
  match rel.link with
  | .belongsTo own => some own
  | _ => e.keyColumns.head?

/-- Of the columns that answer to the name of the column, the first is that column itself. -/
def Reads : Prop := e.columns.find? (Row.answersTo · column) = some column

instance : Decidable (e.Reads column) := inferInstanceAs (Decidable (_ = _))

variable {e rel column}

/-- A record has the value that its row holds in a column that is read from its own place. -/
theorem exists_columnValue_of_fromRow {row : Row} {r : Record} (derived : e.schema.Derived)
    (complete : ∀ c ∈ e.columns, (row.cell? c).isSome = true)
    (read : e.schema.fromRow (e.project row) = .ok r) (reads : e.Reads column) :
    ∃ v, e.columnValue r column = .ok v ∧ row.cell? column = some v := by
  have fits : r.Fits e.schema := e.schema.fits_of_fromRow read
  obtain ⟨v, hv⟩ := fits.exists_column? derived (List.mem_of_find?_eq_some reads)
  refine ⟨v, (columnValue_eq_ok_iff fits).2 hv, ?_⟩
  have value := Record.value?_of_fromRow read hv
  rwa [value?_project complete, reads, Option.bind_some] at value

/-! ## Rows that a selection answers with -/

variable {db : Database} {row : Row} {v : Value}

/-- A selection by one column answers with a row just if the row has the value there. -/
theorem project_mem_answer_iff (mem : row ∈ db e.storageName) (hc : column ∈ e.columns) :
    e.project row ∈ (Query.selectFrom e.storageName e.columns [.eq column v]).answer db ↔
      row.has column v = true := by
  have selected (row : Row) : selects e.storageName [.eq column v] row = row.has column v := by
    simp [selects]
  rw [answer_selectFrom, List.mem_map]
  constructor
  · rintro ⟨other, hother, same⟩
    have has : other.has column v = true := by
      rw [← selected]
      exact (List.mem_filter.1 hother).2
    rwa [Row.has, ← cell?_project hc other, same, cell?_project hc, ← Row.has] at has
  · intro has
    exact ⟨row, List.mem_filter.2 ⟨mem, by rw [selected, has]⟩, rfl⟩

/-- A selection through a join table answers with a row just if the table pairs its key with the
value. -/
theorem project_mem_joined_iff {joinTable own other : String} {w : Value}
    (apart : joinTable ≠ e.storageName) (mem : row ∈ db e.storageName) (hc : column ∈ e.columns)
    (key : row.cell? column = some w) :
    e.project row ∈ (Query.select (e.columns.map (.of e.storageName)) joinTable
        (some ⟨e.storageName, .of joinTable other, .of e.storageName column⟩)
        [.equal (.of joinTable own) v]).answer db ↔
      ∃ pair ∈ db joinTable, pair.has own v = true ∧ pair.has other w = true := by
  have ofJoin (pair row : Row) (c : String) :
      Scope.cell? [(joinTable, pair), (e.storageName, row)] (.of joinTable c) = pair.cell? c := by
    cases h : pair.cell? c <;> simp [Scope.cell?, ColumnRef.of, h, apart]
  have ofTarget (pair row : Row) (c : String) :
      Scope.cell? [(joinTable, pair), (e.storageName, row)] (.of e.storageName c) = row.cell? c := by
    simp [Scope.cell?, ColumnRef.of, Ne.symm apart]
  have projected (pair row : Row) : (⟨(e.columns.map (ColumnRef.of e.storageName)).filterMap
      fun c => (Scope.cell? [(joinTable, pair), (e.storageName, row)] c).map
        fun v => (c.column, v)⟩ : Row) = e.project row := by
    rw [List.filterMap_map]
    simp only [project, Function.comp_def, ofTarget]
    rfl
  have holds (pair row : Row) : ([Predicate.equal (.of joinTable own) v].all
      (·.holds [(joinTable, pair), (e.storageName, row)])) = pair.has own v := by
    simp [Predicate.holds, ofJoin, Row.has]
  have joined {pair row : Row} (key : row.cell? column = some w) :
      ((pair.cell? other).bind fun u => (row.cell? column).bind fun w => u.equals? w) =
        some true ↔ pair.has other w = true := by
    rw [key, Row.has_eq_true_iff, Option.bind_eq_some_iff]
    rfl
  simp only [Query.answer, Database.scopes, List.mem_map, List.mem_filter, List.mem_flatMap,
    decide_eq_true_eq]
  constructor
  · rintro ⟨_, ⟨⟨pair, hpair, ⟨row', hrow', rfl⟩, paired⟩, owned⟩, same⟩
    rw [projected] at same
    rw [holds] at owned
    rw [ofJoin, ofTarget] at paired
    have key' : row'.cell? column = some w := by
      rw [← cell?_project hc row', same, cell?_project hc, key]
    exact ⟨pair, hpair, owned, (joined key').1 paired⟩
  · rintro ⟨pair, hpair, owned, paired⟩
    refine ⟨_, ⟨⟨pair, hpair, ⟨row, mem, rfl⟩, ?_⟩, ?_⟩, projected pair row⟩
    · rw [ofJoin, ofTarget]
      exact (joined key).2 paired
    · rw [holds, owned]

end Entity

/-! ## Relations between entities of a registry -/

/-- A relation of a registered entity leads to another: the field found for it holds records of the
type of the other. -/
structure Registry.Leads (reg : Registry) (e : Entity) (rel : Relation) (target : Entity) :
    Prop where
  registered : reg.ofType? e.type = some e
  found : e.relation? rel.name = some rel
  holds : ∃ x, e.schema.relationEntry rel = .ok x ∧ x.field.kind.target? = some target.type
  target : reg.ofType? target.type = some target

/-- A record that was read from a row of a parsed entity, with a relation that leads to another
entity. The column that the selection compares is read from its own place. -/
structure Registry.Source (reg : Registry) (e : Entity) (rel : Relation) (target : Entity)
    (db : Database) (row : Row) (r : Record) : Prop where
  parsed : e.IsParsed
  derived : e.schema.Derived
  leads : reg.Leads e rel target
  mem : row ∈ db e.storageName
  complete : ∀ c ∈ e.columns, (row.cell? c).isSome = true
  read : e.schema.fromRow (e.project row) = .ok r
  reads : ∀ c, e.sourceColumn? rel = some c → e.Reads c

/-- The selection for a relation of a record is built, and a database answers it with the rows. -/
def Sql.Dialect.Follows (d : Dialect) (reg : Registry) (r : Record) (relation : String)
    (db : Database) (rows : List Row) : Prop :=
  ∃ q, reg.selectRelation r relation = .ok q ∧ d.database.queryAll q db = (.ok rows, db)

/-- The rows that a whole statement is answered with. -/
theorem Sql.Dialect.follows_answer (d : Dialect) {reg : Registry} {r : Record} {relation : String}
    {q : Query} (built : reg.selectRelation r relation = .ok q) (full : q.IsFull) (db : Database) :
    d.Follows reg r relation db (q.answer db) :=
  ⟨q, built, d.queryAll_eq full db⟩

theorem Sql.Dialect.Follows.unique {d : Dialect} {reg : Registry} {r : Record} {relation : String}
    {db : Database} {rows rows' : List Row} (h : d.Follows reg r relation db rows)
    (h' : d.Follows reg r relation db rows') : rows = rows' := by
  obtain ⟨q, built, answered⟩ := h
  obtain ⟨q', built', answered'⟩ := h'
  obtain rfl := Except.ok.inj (built.symm.trans built')
  rw [answered, Prod.mk.injEq, Except.ok.injEq] at answered'
  exact answered'.1

/-- The first relation is a foreign key and the second a reference back, neither with a column of
its own, and the field of the foreign key is named for the entity that it leads to. -/
def Entity.MirrorsByDefault (e : Entity) (rel : Relation) (target : Entity) (back : Relation) :
    Prop :=
  rel.kind = .belongsTo ∧ (back.kind = .hasMany ∨ back.kind = .hasOne) ∧
    ∃ x y, e.DeclaresAt rel x ∧ target.DeclaresAt back y ∧
      x.annotated.tag.get? "sql_id_field" = none ∧
      y.annotated.tag.get? "sql_other_id_field" = none ∧
      Text.snakeCase x.field.name = target.name

variable {d : Dialect} {reg : Registry} {e target : Entity} {rel back : Relation} {r : Record}
  {db : Database} {row : Row} {key column : String} {v : Value}

/-- Columns that are named by default are the same on both sides. -/
theorem Entity.MirrorsByDefault.mirrors (h : e.MirrorsByDefault rel target back) :
    rel.link.Mirrors back.link := by
  obtain ⟨kind, kind', x, y, hx, hy, own, other, name⟩ := h
  obtain ⟨primaryKey, -, -, -, -, declares, -⟩ := hx
  obtain ⟨primaryKey', -, -, -, -, declares', -⟩ := hy
  have link := declares.link
  have link' := declares'.link
  unfold Relation.kind at kind kind'
  cases hl : rel.link <;> simp [hl, Link.kind] at kind
  cases hl' : back.link <;> simp [hl', Link.kind] at kind'
  all_goals
    rw [hl] at link
    rw [hl'] at link'
    simp only [Annotated.Links, own, other, Option.getD_none] at link link'
    show _ = _
    rw [link, link']
    exact congrArg (· ++ "_id") name

namespace Registry.Leads

variable (leads : reg.Leads e rel target) (fits : r.Fits e.schema)
include leads fits

theorem resolves : reg.Resolves r rel.name e rel :=
  ⟨Entity.ofType?_of_fits leads.registered fits, leads.found⟩

theorem relatedEntity_eq_ok : reg.relatedEntity r.schema rel = .ok target := by
  obtain ⟨x, entry, holds⟩ := leads.holds
  rw [fits.schema_eq]
  exact relatedEntity_eq_ok_iff.2 ⟨x, target.type, entry, holds, leads.target⟩

/-- A foreign key leads to the rows whose key it is. -/
theorem selectRelation_of_belongsTo (link : rel.link = .belongsTo column)
    (primary : target.primaryKey = .ok key) (value : e.columnValue r column = .ok v) :
    reg.selectRelation r rel.name =
      .ok (.selectFrom target.storageName target.columns [.eq key v]) := by
  rw [selectRelation, (leads.resolves fits).resolve_eq_ok]
  simp [bind, Except.bind, link, leads.relatedEntity_eq_ok fits, primary, value, pure, Except.pure]

/-- A reference back leads to the rows that hold the key of the record. -/
theorem selectRelation_of_hasMany (link : rel.link = .hasMany column ∨ rel.link = .hasOne column)
    (value : e.ownKey r = .ok v) :
    reg.selectRelation r rel.name =
      .ok (.selectFrom target.storageName target.columns [.eq column v]) := by
  rw [selectRelation, (leads.resolves fits).resolve_eq_ok]
  rcases link with link | link <;>
    simp [bind, Except.bind, link, leads.relatedEntity_eq_ok fits, value, pure, Except.pure]

/-- A join table leads to the rows whose keys it pairs with that of the record. -/
theorem selectRelation_of_belongsToMany {join : JoinLink} {table : Entity}
    (link : rel.link = .belongsToMany join) (named : reg.named? join.joinName = some table)
    (primary : target.primaryKey = .ok key) (value : e.ownKey r = .ok v) :
    reg.selectRelation r rel.name = .ok (.select (target.columns.map (.of target.storageName))
      table.storageName (some ⟨target.storageName, .of table.storageName join.otherColumn,
        .of target.storageName key⟩) [.equal (.of table.storageName join.ownColumn) v]) := by
  rw [selectRelation, (leads.resolves fits).resolve_eq_ok]
  simp [bind, Except.bind, link, leads.relatedEntity_eq_ok fits, primary, value, pure, Except.pure,
    entityNamed_eq_ok_iff.2 named]

end Registry.Leads

/-- A selection of the columns of a parsed entity is whole. -/
private theorem isFull_selectFrom (parsed : e.IsParsed) (column : String) (v : Value) :
    (Query.selectFrom e.storageName e.columns [.eq column v]).IsFull := by
  obtain ⟨key, mem, -⟩ := parsed.exists_primaryKey
  refine ⟨by simpa using List.ne_nil_of_mem mem, ?_⟩
  simp [Predicate.eq, Predicate.IsFull]

private theorem isFull_selectJoined (parsed : e.IsParsed) (table : String) (join : Join)
    (column : ColumnRef) (v : Value) :
    (Query.select (e.columns.map (.of e.storageName)) table (some join) [.equal column v]).IsFull := by
  obtain ⟨key, mem, -⟩ := parsed.exists_primaryKey
  refine ⟨by simpa using List.ne_nil_of_mem mem, ?_⟩
  simp [Predicate.IsFull]

namespace Registry.Source

theorem fits (h : reg.Source e rel target db row r) : r.Fits e.schema :=
  e.schema.fits_of_fromRow h.read

/-- The record has the value that is compared, as its row has it. -/
theorem exists_value (h : reg.Source e rel target db row r)
    (source : e.sourceColumn? rel = some column) : column ∈ e.columns ∧
      ∃ v, e.columnValue r column = .ok v ∧ row.cell? column = some v :=
  ⟨List.mem_of_find?_eq_some (h.reads column source),
    Entity.exists_columnValue_of_fromRow h.derived h.complete h.read (h.reads column source)⟩

/-- Unless the relation is a foreign key, the value that is compared is that of the first key
column. -/
theorem exists_key (h : reg.Source e rel target db row r) (kind : rel.kind ≠ .belongsTo) :
    ∃ key v, e.primaryKey = .ok key ∧ key ∈ e.columns ∧ e.ownKey r = .ok v ∧
      row.cell? key = some v := by
  obtain ⟨key, mem, primary, first⟩ := h.parsed.exists_primaryKey
  have source : e.sourceColumn? rel = some key := by
    unfold Entity.sourceColumn?
    cases link : rel.link with
    | belongsTo c => simp [Relation.kind, link, Link.kind] at kind
    | _ => exact first
  obtain ⟨-, v, value, cell⟩ := h.exists_value source
  exact ⟨key, v, primary, mem, bind_eq_ok_iff.2 ⟨key, primary, value⟩, cell⟩

variable {left right : Entity} {there : Relation} {row' : Row} {r' : Record}
  (source : reg.Source left there right db row r) (source' : reg.Source right back left db row' r')
include source source'

/-- A foreign key and a reference back by one column lead to each other's rows. -/
private theorem agree_by_column (d : Dialect) (link : there.link = .belongsTo column)
    (link' : back.link = .hasMany column ∨ back.link = .hasOne column) :
    ∃ rows rows', d.Follows reg r there.name db rows' ∧ d.Follows reg r' back.name db rows ∧
      (right.project row' ∈ rows' ↔ left.project row ∈ rows) := by
  obtain ⟨mem, v, value, cell⟩ := source.exists_value (by rw [Entity.sourceColumn?, link])
  have kind' : back.kind ≠ .belongsTo := by
    rcases link' with link' | link' <;> simp [Relation.kind, link', Link.kind]
  obtain ⟨key, w, primary, mem', own, cell'⟩ := source'.exists_key kind'
  have built := source.leads.selectRelation_of_belongsTo source.fits link primary value
  have built' := source'.leads.selectRelation_of_hasMany source'.fits link' own
  refine ⟨_, _, d.follows_answer built (isFull_selectFrom source'.parsed key v) db,
    d.follows_answer built' (isFull_selectFrom source.parsed column w) db, ?_⟩
  rw [Entity.project_mem_answer_iff source'.mem mem', Entity.project_mem_answer_iff source.mem mem,
    Row.has_of_cell? cell', Row.has_of_cell? cell, Value.equals?_comm]

/-- Two relations through one join table with the columns crossed lead to each other's rows. -/
private theorem agree_through_join (d : Dialect) {join join' : JoinLink} {table : Entity}
    (link : there.link = .belongsToMany join) (link' : back.link = .belongsToMany join')
    (name : join.joinName = join'.joinName) (own : join.ownColumn = join'.otherColumn)
    (other : join.otherColumn = join'.ownColumn) (named : reg.named? join.joinName = some table)
    (apart : table.storageName ≠ left.storageName)
    (apart' : table.storageName ≠ right.storageName) :
    ∃ rows rows', d.Follows reg r there.name db rows' ∧ d.Follows reg r' back.name db rows ∧
      (right.project row' ∈ rows' ↔ left.project row ∈ rows) := by
  obtain ⟨key, v, primary, mem, value, cell⟩ :=
    source.exists_key (by simp [Relation.kind, link, Link.kind])
  obtain ⟨key', w, primary', mem', value', cell'⟩ :=
    source'.exists_key (by simp [Relation.kind, link', Link.kind])
  have built := source.leads.selectRelation_of_belongsToMany source.fits link named primary' value
  have built' := source'.leads.selectRelation_of_belongsToMany source'.fits link' (name ▸ named)
    primary value'
  refine ⟨_, _, d.follows_answer built (isFull_selectJoined source'.parsed _ _ _ v) db,
    d.follows_answer built' (isFull_selectJoined source.parsed _ _ _ w) db, ?_⟩
  rw [Entity.project_mem_joined_iff apart' source'.mem mem' cell',
    Entity.project_mem_joined_iff apart source.mem mem cell, own, other]
  simp only [and_comm]

end Registry.Source

/-- Two entities have relations that mirror each other, and a record of each was read from its row.
Then both relations can be followed, and one leads to the row of the other record just if the other
leads back. -/
theorem mirrored_relations_agree (d : Dialect) {reg : Registry} {left right : Entity}
    {there back : Relation} {db : Database} {row row' : Row} {r r' : Record}
    (source : reg.Source left there right db row r)
    (source' : reg.Source right back left db row' r')
    (mirrors : there.link.Mirrors back.link ∨ left.MirrorsByDefault there right back)
    (joined : ∀ join, there.link = .belongsToMany join → ∃ table,
      reg.named? join.joinName = some table ∧ table.storageName ≠ left.storageName ∧
        table.storageName ≠ right.storageName) :
    ∃ rows rows', d.Follows reg r there.name db rows' ∧ d.Follows reg r' back.name db rows ∧
      (right.project row' ∈ rows' ↔ left.project row ∈ rows) := by
  have mirrors : there.link.Mirrors back.link := mirrors.elim id (·.mirrors)
  cases link : there.link with
  | belongsTo column =>
    apply source.agree_by_column source' d link
    cases link' : back.link <;> simp_all [Link.Mirrors]
  | belongsToMany join =>
    obtain ⟨table, named, apart, apart'⟩ := joined join link
    cases link' : back.link with
    | belongsToMany join' =>
      rw [link, link'] at mirrors
      obtain ⟨name, own, other⟩ := mirrors
      exact source.agree_through_join source' d link link' name own other named apart apart'
    | _ => simp [link, link', Link.Mirrors] at mirrors
  | hasMany c | hasOne c | belongsToManyIds join => simp [link, Link.Mirrors] at mirrors

private def stored (name : String) : Field := ⟨name, some name, "", .scalar ⟨.string, false⟩, false⟩

private def keyOf (name : String) : Field := ⟨name, some name, "pk", .scalar ⟨.string, false⟩, false⟩

/-- Racks have a room, which is stored in the given column. -/
private def racks (column : String) : Entity where
  name := "rack"
  storageName := "rack"
  schema := ⟨⟨0, "Rack"⟩, [⟨"room", some column, "", .scalar ⟨.string, false⟩, false⟩, keyOf "id",
    ⟨"discs", none, "has_many", .many (some ⟨1, "Disc"⟩), false⟩]⟩
  keyColumns := ["id"]
  relations := [⟨"discs", "discs", .hasMany "rack_id"⟩]

/-- Discs stand in a rack and are of several genres. -/
private def discs : Entity where
  name := "disc"
  storageName := "disc"
  schema := ⟨⟨1, "Disc"⟩, [keyOf "disc_id", stored "rack_id",
    ⟨"rack", none, "belongs_to", .one (some ⟨0, "Rack"⟩), false⟩,
    ⟨"genres", none, "belongs_to_many,join_name=disc_genre", .many (some ⟨2, "Genre"⟩), false⟩]⟩
  keyColumns := ["disc_id"]
  relations := [⟨"rack", "rack", .belongsTo "rack_id"⟩,
    ⟨"genres", "genres", .belongsToMany ⟨"disc_genre", "disc_id", "genre_id"⟩⟩]

private def genres : Entity where
  name := "genre"
  storageName := "genre"
  schema := ⟨⟨2, "Genre"⟩, [keyOf "genre_id",
    ⟨"discs", none, "belongs_to_many,join_name=disc_genre", .many (some ⟨1, "Disc"⟩), false⟩]⟩
  keyColumns := ["genre_id"]
  relations := [⟨"discs", "discs", .belongsToMany ⟨"disc_genre", "genre_id", "disc_id"⟩⟩]

private def archive (column : String) : Registry where
  entries := [racks column, discs, genres,
    { name := "disc_genre", storageName := "disc_genres", schema := ⟨⟨3, "DiscGenre"⟩, []⟩ }]

private def rackRow (column : String) : Row := ⟨[(column, .ofString "r"), ("id", .ofString "s")]⟩

private def discRow : Row := ⟨[("disc_id", .ofString "b"), ("rack_id", .ofString "s")]⟩

/-- The disc `b` stands in the rack `s` of the room `r`, and is of one of two genres. -/
private def holdings (column : String) : Database
  | "rack" => [rackRow column]
  | "disc" => [discRow]
  | "genre" => [⟨[("genre_id", .ofString "x")]⟩, ⟨[("genre_id", .ofString "y")]⟩]
  | "disc_genres" => [⟨[("disc_id", .ofString "b"), ("genre_id", .ofString "x")]⟩]
  | _ => []

private def rack (column id : String) : Record :=
  ⟨(racks column).schema, [.scalar (.ofString "r"), .scalar (.ofString id), .many []]⟩

private def disc : Record :=
  ⟨discs.schema, [.scalar (.ofString "b"), .scalar (.ofString "s"), .one none, .many []]⟩

private def genre (id : String) : Record := ⟨genres.schema, [.scalar (.ofString id), .many []]⟩

set_option maxRecDepth 1024 in
private theorem parsed_discs : discs.IsParsed := ⟨none, discs, id, rfl, rfl⟩

set_option maxRecDepth 1024 in
private theorem parsed_genres : genres.IsParsed := ⟨none, genres, id, rfl, rfl⟩

set_option maxRecDepth 1024 in
private theorem parsed_racks : ∀ column ∈ ["room", "room.id"], (racks column).IsParsed := by
  refine List.forall_mem_cons.2 ⟨?_, List.forall_mem_singleton.2 ?_⟩
  · exact ⟨none, racks "room", id, rfl, rfl⟩
  · exact ⟨none, racks "room.id", id, rfl, rfl⟩

private theorem source_disc {rel : Relation} {target : Entity}
    (leads : (archive column).Leads discs rel target)
    (reads : ∀ c, discs.sourceColumn? rel = some c → discs.Reads c) :
    (archive column).Source discs rel target (holdings column) discRow disc where
  parsed := parsed_discs
  derived := by decide
  leads := leads
  mem := List.mem_singleton_self _
  complete := by decide
  read := rfl
  reads := reads

private theorem source_rack : (archive "room").Source (racks "room")
    ⟨"discs", "discs", .hasMany "rack_id"⟩ discs (holdings "room") (rackRow "room")
    (rack "room" "s") where
  parsed := parsed_racks _ (by decide)
  derived := by decide
  leads := ⟨rfl, rfl, ⟨_, rfl, rfl⟩, rfl⟩
  mem := List.mem_singleton_self _
  complete := by decide
  read := rfl
  reads := by
    rintro c ⟨⟩
    decide

private theorem source_genre {id : String} (mem : id = "x" ∨ id = "y") :
    (archive "room").Source genres
      ⟨"discs", "discs", .belongsToMany ⟨"disc_genre", "genre_id", "disc_id"⟩⟩ discs
      (holdings "room") ⟨[("genre_id", .ofString id)]⟩ (genre id) where
  parsed := parsed_genres
  derived := by decide
  leads := ⟨rfl, rfl, ⟨_, rfl, rfl⟩, rfl⟩
  mem := by
    rcases mem with rfl | rfl
    · exact List.mem_cons_self
    · exact List.mem_cons_of_mem _ (List.mem_singleton_self _)
  complete := by
    intro c hc
    obtain rfl := List.mem_singleton.1 hc
    rfl
  read := rfl
  reads := by
    rintro c ⟨⟩
    decide

/-- The disc is found from its rack, and from its genre but not from the other. -/
theorem finds_disc_of_archive :
    let reg := archive "room"
    let db := holdings "room"
    (∃ rows, Dialect.sqlite.Follows reg (rack "room" "s") "discs" db rows ∧
      discs.project discRow ∈ rows) ∧
    (∃ rows, Dialect.sqlite.Follows reg (genre "x") "discs" db rows ∧
      discs.project discRow ∈ rows) ∧
    ∃ rows, Dialect.sqlite.Follows reg (genre "y") "discs" db rows ∧
      discs.project discRow ∉ rows := by
  intro reg db
  have toRack : reg.Leads discs ⟨"rack", "rack", .belongsTo "rack_id"⟩ (racks "room") :=
    ⟨rfl, rfl, ⟨_, rfl, rfl⟩, rfl⟩
  have toGenres : reg.Leads discs
      ⟨"genres", "genres", .belongsToMany ⟨"disc_genre", "disc_id", "genre_id"⟩⟩ genres :=
    ⟨rfl, rfl, ⟨_, rfl, rfl⟩, rfl⟩
  have inRack : Dialect.sqlite.Follows reg disc "rack" db [rackRow "room"] :=
    Dialect.sqlite.follows_answer rfl
      (isFull_selectFrom (parsed_racks "room" (by decide)) "id" (.ofString "s")) db
  have ofGenre : Dialect.sqlite.Follows reg disc "genres" db [⟨[("genre_id", .ofString "x")]⟩] :=
    Dialect.sqlite.follows_answer rfl (isFull_selectJoined parsed_genres "disc_genres"
      ⟨"genre", .of "disc_genres" "genre_id", .of "genre" "genre_id"⟩
      (.of "disc_genres" "disc_id") (.ofString "b")) db
  have joined : ∀ join, Link.belongsToMany ⟨"disc_genre", "disc_id", "genre_id"⟩ =
      .belongsToMany join → ∃ table, reg.named? join.joinName = some table ∧
        table.storageName ≠ "disc" ∧ table.storageName ≠ "genre" := by
    rintro join ⟨⟩
    exact ⟨_, rfl, by decide, by decide⟩
  refine ⟨?_, ?_, ?_⟩
  · obtain ⟨rows, rows', found, back, agree⟩ := mirrored_relations_agree .sqlite
      (source_disc toRack (by rintro c ⟨⟩; decide)) source_rack (.inl rfl)
      (fun join h => nomatch h)
    obtain rfl := found.unique inRack
    exact ⟨rows, back, agree.1 (by decide)⟩
  · obtain ⟨rows, rows', found, back, agree⟩ := mirrored_relations_agree .sqlite
      (source_disc toGenres (by rintro c ⟨⟩; decide)) (source_genre (.inl rfl))
      (.inl ⟨rfl, rfl, rfl⟩) joined
    obtain rfl := found.unique ofGenre
    exact ⟨rows, back, agree.1 (by decide)⟩
  · obtain ⟨rows, rows', found, back, agree⟩ := mirrored_relations_agree .sqlite
      (source_disc toGenres (by rintro c ⟨⟩; decide)) (source_genre (.inr rfl))
      (.inl ⟨rfl, rfl, rfl⟩) joined
    obtain rfl := found.unique ofGenre
    exact ⟨rows, back, fun mem => absurd (agree.2 mem) (by decide)⟩

/-- The room is in a column that answers to the name of the key and precedes it, so a rack has the
room for its key: the disc leads to the rack and the rack not to the disc. -/
theorem loses_disc_of_shadowed_rack :
    let e := racks "room.id"
    let reg := archive "room.id"
    let db := holdings "room.id"
    let there : Relation := ⟨"rack", "rack", .belongsTo "rack_id"⟩
    let back : Relation := ⟨"discs", "discs", .hasMany "rack_id"⟩
    (e.IsParsed ∧ discs.IsParsed ∧ e.schema.Derived ∧ discs.schema.Derived) ∧
    (reg.Leads discs there e ∧ reg.Leads e back discs ∧ there.link.Mirrors back.link) ∧
    (rackRow "room.id" ∈ db e.storageName ∧ discRow ∈ db discs.storageName) ∧
    discs.schema.fromRow (discs.project discRow) = .ok disc ∧
    e.schema.fromRow (e.project (rackRow "room.id")) = .ok (rack "room.id" "r") ∧
    Dialect.sqlite.Follows reg disc "rack" db [e.project (rackRow "room.id")] ∧
    Dialect.sqlite.Follows reg (rack "room.id" "r") "discs" db [] := by
  intro e reg db there back
  have parsed : e.IsParsed := parsed_racks _ (by decide)
  refine ⟨⟨parsed, parsed_discs, by decide, by decide⟩, ⟨?_, ?_, rfl⟩,
    ⟨List.mem_singleton_self _, List.mem_singleton_self _⟩, rfl, rfl, ?_, ?_⟩
  · exact ⟨rfl, rfl, ⟨_, rfl, rfl⟩, rfl⟩
  · exact ⟨rfl, rfl, ⟨_, rfl, rfl⟩, rfl⟩
  · exact Dialect.sqlite.follows_answer rfl (isFull_selectFrom parsed "id" (.ofString "s")) db
  · exact Dialect.sqlite.follows_answer rfl
      (isFull_selectFrom parsed_discs "rack_id" (.ofString "r")) db

end EntityMap
