import EntityMap.Proofs.Sql.Symbols
import EntityMap.Proofs.Statement.Insertion
import EntityMap.Proofs.Statement.Reconciliation
import EntityMap.Proofs.Statement.Related

/-!
# One statement in three dialects

The dialects quote names and mark parameters each in their own way, and a text of one is otherwise
that of another. Only for an insertion that skips rows does each have words of its own: two of them
add a word after the first, the third a clause at the end. The clause names the columns of the
insertion between parentheses, and leaves the parentheses out where there are no columns.
-/

namespace EntityMap

open Sql

namespace Sql

/-! ## Texts of one statement -/

namespace Dialect

variable (d : Dialect)

/-- What a text consists of, but for the numbers of its placeholders. -/
def outline? (s : Statement) : Option (List Symbol) :=
  (d.symbols? s.sql.toList).map (·.map Symbol.unnumbered)

/-- The text has a placeholder for each parameter and no other, in the order of the parameters. -/
def LinesUp (s : Statement) : Prop :=
  ∃ symbols, d.symbols? s.sql.toList = some symbols ∧
    Symbol.placeholders symbols = (List.range' 1 s.params.length).map d.number?

theorem symbols?_render (q : Query) :
    d.symbols? (d.render q).sql.toList = some (d.symbolsOf 1 (q.pieces d)) := by
  rw [render, String.toList_ofList, symbols?_write (q.spaced_pieces d)]

theorem outline?_render (q : Query) :
    d.outline? (d.render q) = some ((q.pieces d).flatMap Piece.symbols) := by
  rw [outline?, symbols?_render, Option.map_some, map_unnumbered_symbolsOf]

/-- Names that look like placeholders do not disturb the count. -/
theorem linesUp_render (q : Query) : d.LinesUp (d.render q) :=
  ⟨_, d.symbols?_render q, placeholders_symbolsOf 1 (q.pieces d)⟩

end Dialect

/-- The clause by which an insertion into some columns skips rows. -/
def Symbol.conflict (columns : List String) : List Symbol :=
  ofWord " ON CONFLICT " ++
    (if columns = [] then []
      else ofWord "(" ++ (ofWord ", ").intercalate (columns.map fun c => [.name c]) ++ ofWord ")")
    ++ ofWord " DO NOTHING"

/-- Parts with a separator between them are taken for what the parts are. -/
theorem flatMap_separated (w : String) (parts : List (List Piece)) :
    (separated w parts).flatMap Piece.symbols =
      (Symbol.ofWord w).intercalate (parts.map (·.flatMap Piece.symbols)) := by
  induction parts with
  | nil => rfl
  | cons ps rest ih =>
    cases rest with
    | nil => simp [separated, List.intercalate]
    | cons qs rest =>
      simp only [separated, List.intercalate] at ih
      simp [separated, List.intercalate, List.intersperse, ih, Piece.symbols]

theorem flatMap_conflictPieces (columns : List String) :
    (Dialect.postgres.conflictPieces columns .skip).flatMap Piece.symbols =
      Symbol.conflict columns := by
  cases columns with
  | nil => rfl
  | cons c rest =>
    simp [Dialect.conflictPieces, Symbol.conflict, nameList, inParens, flatMap_separated,
      Piece.symbols, Function.comp_def]

/-- Separators bind no values. -/
theorem values_separated (w : String) (parts : List (List Piece)) :
    values (separated w parts) = parts.flatMap values := by
  induction parts with
  | nil => rfl
  | cons ps rest ih =>
    cases rest with
    | nil => simp [separated]
    | cons qs rest =>
      have more : separated w (ps :: qs :: rest) = ps ++ (.word w :: separated w (qs :: rest)) := by
        simp [separated]
      rw [more, values_append, List.flatMap_cons, ← ih]
      rfl

theorem values_nameList (names : List String) : values (nameList names) = [] := by
  rw [nameList, inParens, values_append, List.append_eq_nil_iff]
  refine ⟨?_, rfl⟩
  show values (separated ", " _) = []
  rw [values_separated]
  simp [values]

theorem values_conflictPieces (d : Dialect) (columns : List String) (onDuplicate : OnDuplicate) :
    values (d.conflictPieces columns onDuplicate) = [] := by
  cases onDuplicate with
  | fail => rfl
  | skip =>
    cases d with
    | sqlite | mysql => rfl
    | postgres =>
      cases columns with
      | nil => rfl
      | cons c rest =>
        show values (nameList (c :: rest) ++ [.word " DO NOTHING"]) = []
        rw [values_append, values_nameList]
        rfl

/-- The text of a statement is the same in each dialect, but for quotes and numbers. -/
def Query.SameText (q : Query) : Prop :=
  ∃ symbols, ∀ d : Dialect, d.outline? (d.render q) = some symbols

/-- Each dialect has words of its own for skipping rows, and all else is the same as where no row is
skipped. -/
def Query.SameButSkipping (table : String) (columns : List String) (rows : List (List Value)) :
    Prop :=
  ∃ rest,
    (∀ d : Dialect, d.outline? (d.render (.insert table columns rows .fail)) =
      some (Symbol.ofWord "INSERT " ++ rest)) ∧
    Dialect.sqlite.outline? (Dialect.sqlite.render (.insert table columns rows .skip)) =
      some (Symbol.ofWord "INSERT OR IGNORE " ++ rest) ∧
    Dialect.mysql.outline? (Dialect.mysql.render (.insert table columns rows .skip)) =
      some (Symbol.ofWord "INSERT IGNORE " ++ rest) ∧
    Dialect.postgres.outline? (Dialect.postgres.render (.insert table columns rows .skip)) =
      some (Symbol.ofWord "INSERT " ++ rest ++ Symbol.conflict columns)

namespace Query

variable {q : Query} {table : String} {columns : List String} {rows : List (List Value)}

/-- The insertion skips rows. -/
def skips : Query → Bool
  | .insert _ _ _ .skip => true
  | _ => false

/-- The dialects lay out a statement in the same pieces, unless it skips rows. -/
theorem pieces_eq_of_not_skips (h : q.skips = false) (d d' : Dialect) :
    q.pieces d = q.pieces d' := by
  cases q with
  | insert table columns rows onDuplicate =>
    cases onDuplicate with
    | fail => rfl
    | skip => simp [skips] at h
  | select | update | delete => rfl

theorem sameText (h : q.skips = false) : q.SameText := by
  refine ⟨(q.pieces .sqlite).flatMap Piece.symbols, ?_⟩
  intro d
  rw [d.outline?_render, pieces_eq_of_not_skips h d .sqlite]

/-- The parameters do not depend on the dialect: its own words bind none. -/
theorem params_render (q : Query) (d d' : Dialect) : (d.render q).params = (d'.render q).params := by
  show values (q.pieces d) = values (q.pieces d')
  cases q with
  | insert table columns rows onDuplicate =>
    simp only [pieces, values_append, values_conflictPieces]
    rfl
  | select | update | delete => rfl

/-- What stands between the first word and the clause at the end does not depend on the dialect. -/
theorem sameButSkipping (table : String) (columns : List String) (rows : List (List Value)) :
    SameButSkipping table columns rows := by
  let body : List Symbol :=
    ([Piece.name table, .word " "] ++ nameList columns ++ rowPieces rows).flatMap Piece.symbols
  have outline (d : Dialect) (onDuplicate : OnDuplicate) :
      d.outline? (d.render (.insert table columns rows onDuplicate)) =
        some (Symbol.ofWord (d.insertWords onDuplicate) ++ body ++
          (d.conflictPieces columns onDuplicate).flatMap Piece.symbols) := by
    rw [d.outline?_render]
    simp [body, pieces, Piece.symbols]
  refine ⟨Symbol.ofWord "INTO " ++ body, ?_, ?_, ?_, ?_⟩
  · intro d
    rw [outline]
    simp [Dialect.insertWords, Dialect.conflictPieces, Symbol.ofWord]
  · rw [outline]
    simp [Dialect.insertWords, Dialect.conflictPieces, Symbol.ofWord]
  · rw [outline]
    simp [Dialect.insertWords, Dialect.conflictPieces, Symbol.ofWord]
  · rw [outline, flatMap_conflictPieces]
    simp [Dialect.insertWords, Symbol.ofWord]

end Query

end Sql

/-! ## Calls -/

/-- The calls that are answered with statements. -/
inductive BuilderCall where
  | select (t : RecordType)
  | selectByKey (t : RecordType) (keys : List Value)
  | selectById (r : Record)
  | selectRelation (r : Record) (relation : String)
  | insert (hooks : Hooks) (r : Record)
  | insertMany (hooks : Hooks) (t : RecordType) (records : List Record)
  | updateById (hooks : Hooks) (r : Record)
  | deleteByKey (t : RecordType) (keys : List Value)
  | deleteById (r : Record)
  | reconcile (r : Record) (relation : String)
  | insertMissing (table : String) (columns : List String) (rows : List (List Value))

/-- The statements that a call is answered with: at most one that skips no row, and at most one
insertion that skips rows. -/
structure Answer (α : Type) where
  plain : Option α
  skipping : Option α

namespace Answer

variable {α β : Type}

def ofPlain (x : α) : Answer α := ⟨some x, none⟩

def map (f : α → β) (a : Answer α) : Answer β := ⟨a.plain.map f, a.skipping.map f⟩

def all (a : Answer α) : List α := a.plain.toList ++ a.skipping.toList

end Answer

/-- A selection for a relation skips no row. -/
theorem Registry.not_skips_of_selectRelation {reg : Registry} {r : Record} {relation : String}
    {q : Query} (h : reg.selectRelation r relation = .ok q) : q.skips = false := by
  obtain ⟨⟨e, rel⟩, -, built⟩ := bind_eq_ok_iff.1 h
  cases link : rel.link with
  | belongsTo own =>
    simp only [link, bind_eq_ok_iff] at built
    obtain ⟨target, -, key, -, value, -, built⟩ := built
    obtain rfl := Except.ok.inj built
    rfl
  | hasMany other | hasOne other =>
    simp only [link, bind_eq_ok_iff] at built
    obtain ⟨target, -, value, -, built⟩ := built
    obtain rfl := Except.ok.inj built
    rfl
  | belongsToMany join =>
    simp only [link, bind_eq_ok_iff] at built
    obtain ⟨target, -, table, -, key, -, value, -, built⟩ := built
    obtain rfl := Except.ok.inj built
    rfl
  | belongsToManyIds join =>
    simp only [link, bind_eq_ok_iff] at built
    obtain ⟨entry, -, table, -, value, -, built⟩ := built
    obtain rfl := Except.ok.inj built
    rfl

/-- Missing rows are inserted as they are given, or there is nothing to insert. -/
theorem insertMissing_eq_some {table : String} {columns : List String} {rows : List (List Value)}
    {q : Query} (h : insertMissing table columns rows = .ok (some q)) :
    q = .insert table columns rows .skip := by
  unfold insertMissing at h
  split at h
  · simp at h
  · split at h
    · simp at h
    · simpa using h.symm

namespace BuilderCall

/-- What a registry answers. -/
def answer (reg : Registry) : BuilderCall → Except Error (Answer Query)
  | select t => (reg.select t).map .ofPlain
  | selectByKey t keys => (reg.selectByKey t keys).map .ofPlain
  | selectById r => (reg.selectById r).map .ofPlain
  | selectRelation r relation => (reg.selectRelation r relation).map .ofPlain
  | insert hooks r => (reg.insert hooks r).2.map .ofPlain
  | insertMany hooks t records => (reg.insertMany hooks t records).2.map .ofPlain
  | updateById hooks r => (reg.updateById hooks r).2.map .ofPlain
  | deleteByKey t keys => (reg.deleteByKey t keys).map .ofPlain
  | deleteById r => (reg.deleteById r).map .ofPlain
  | reconcile r relation =>
    (reg.reconcile r relation).map fun p => ⟨p.delete, p.insert⟩
  | insertMissing table columns rows =>
    (EntityMap.insertMissing table columns rows).map fun q => ⟨none, q⟩

/-- The statements in a dialect. -/
def statements (reg : Registry) (d : Dialect) (call : BuilderCall) :
    Except Error (Answer Statement) :=
  (call.answer reg).map (·.map d.render)

variable {reg : Registry} {call : BuilderCall} {a : Answer Query}

private theorem not_skips_of_map {x : Except Error Query}
    (built : ∀ q, x = .ok q → q.skips = false)
    (h : x.map Answer.ofPlain = .ok a) :
    ∀ q ∈ a.plain, q.skips = false := by
  obtain ⟨q, hq, rfl⟩ := map_eq_ok_iff.1 h
  intro q' same
  obtain rfl := Option.some.inj same
  exact built q hq

/-- The plain statement skips no row. -/
theorem not_skips_of_mem_plain (h : call.answer reg = .ok a) : ∀ q ∈ a.plain, q.skips = false := by
  cases call with
  | select t =>
    refine not_skips_of_map (fun q built => ?_) h
    obtain ⟨e, -, rfl⟩ := map_eq_ok_iff.1 built
    rfl
  | selectByKey t keys =>
    refine not_skips_of_map (fun q built => ?_) h
    obtain ⟨e, -, -, rfl⟩ := Registry.selectByKey_eq_ok_iff.1 built
    rfl
  | selectById r =>
    refine not_skips_of_map (fun q built => ?_) h
    obtain ⟨e, keys, -, -, rfl⟩ := Registry.selectById_eq_ok_iff.1 built
    rfl
  | selectRelation r relation =>
    refine not_skips_of_map (fun q built => ?_) h
    exact Registry.not_skips_of_selectRelation built
  | insert hooks r =>
    refine not_skips_of_map (fun q built => ?_) h
    obtain ⟨-, e, row, -, -, rfl⟩ := Registry.insert_eq_ok_iff.1 (Prod.ext rfl built)
    rfl
  | insertMany hooks t records =>
    refine not_skips_of_map (fun q built => ?_) h
    obtain ⟨e, rows, -, -, -, rfl⟩ := Registry.insertMany_eq_ok_iff.1 (Prod.ext rfl built)
    rfl
  | updateById hooks r =>
    refine not_skips_of_map (fun q built => ?_) h
    obtain ⟨e, -, hu⟩ := Registry.updateById_eq_ok_iff.1 built
    obtain ⟨assignments, keys, -, -, ⟨-, rfl⟩ | ⟨column, current, next, -, -, -, rfl⟩⟩ :=
      Entity.update_eq_ok_iff.1 hu
    · rfl
    · rfl
  | deleteByKey t keys =>
    refine not_skips_of_map (fun q built => ?_) h
    obtain ⟨e, -, -, rfl⟩ := Registry.deleteByKey_eq_ok_iff.1 built
    rfl
  | deleteById r =>
    refine not_skips_of_map (fun q built => ?_) h
    obtain ⟨e, -, hd⟩ := Registry.deleteById_eq_ok_iff.1 built
    obtain ⟨keys, version, -, -, rfl⟩ := Entity.delete_eq_ok_iff.1 hd
    rfl
  | reconcile r relation =>
    obtain ⟨plan, built, rfl⟩ := map_eq_ok_iff.1 h
    obtain ⟨p, -, rfl⟩ := Registry.reconcile_eq_ok_iff.1 built
    rintro - ⟨⟩
    rfl
  | insertMissing table columns rows =>
    obtain ⟨q, -, rfl⟩ := map_eq_ok_iff.1 h
    rintro - ⟨⟩

/-- The other statement is an insertion that skips rows. -/
theorem insertion_of_mem_skipping (h : call.answer reg = .ok a) :
    ∀ q ∈ a.skipping, ∃ table columns rows, q = .insert table columns rows .skip := by
  cases call with
  | reconcile r relation =>
    obtain ⟨plan, built, rfl⟩ := map_eq_ok_iff.1 h
    obtain ⟨p, -, rfl⟩ := Registry.reconcile_eq_ok_iff.1 built
    intro q hq
    obtain ⟨-, same⟩ := Option.ite_none_left_eq_some.1 hq
    exact ⟨_, _, _, (Option.some.inj same).symm⟩
  | insertMissing table columns rows =>
    obtain ⟨found, built, rfl⟩ := map_eq_ok_iff.1 h
    rintro q rfl
    obtain rfl := insertMissing_eq_some built
    exact ⟨_, _, _, rfl⟩
  | _ =>
    obtain ⟨q, -, rfl⟩ := map_eq_ok_iff.1 h
    rintro - ⟨⟩

/-- The dialects fail with one error or answer with statements of the same parameters. Each text has
its placeholders in the order of the parameters, and the texts are the same but for quotes and
numbers, and for the words of each dialect for skipping rows. -/
theorem statements_agree (reg : Registry) (call : BuilderCall) :
    (∃ err, ∀ d, call.statements reg d = .error err) ∨
    ∃ a : Answer Query, (∀ d, call.statements reg d = .ok (a.map d.render)) ∧
      (∀ q ∈ a.all, (∃ params, ∀ d : Dialect, (d.render q).params = params) ∧
        ∀ d : Dialect, d.LinesUp (d.render q)) ∧
      (∀ q ∈ a.plain, q.SameText) ∧
      ∀ q ∈ a.skipping, ∃ table columns rows, q = .insert table columns rows .skip ∧
        Query.SameButSkipping table columns rows := by
  cases found : call.answer reg with
  | error err =>
    refine .inl ⟨err, ?_⟩
    intro d
    rw [statements, found]
    rfl
  | ok a =>
    refine .inr ⟨a, ?_, ?_, ?_, ?_⟩
    · intro d
      rw [statements, found]
      rfl
    · intro q _
      exact ⟨⟨_, fun d => q.params_render d .sqlite⟩, fun d => d.linesUp_render q⟩
    · intro q hq
      exact Query.sameText (not_skips_of_mem_plain found q hq)
    · intro q hq
      obtain ⟨table, columns, rows, rfl⟩ := insertion_of_mem_skipping found q hq
      exact ⟨table, columns, rows, rfl, Query.sameButSkipping table columns rows⟩

/-- With no columns the clause has no parentheses, whatever blanks stand in it. -/
theorem skips_rows_of_no_columns :
    let q : Query := .insert "t" [] [[]] .skip
    let solid : List Symbol → List Symbol := fun symbols => symbols.filter (· ≠ .char ' ')
    (∀ d, (insertMissing "t" [] [[]]).statements ⟨[]⟩ d = .ok ⟨none, some (d.render q)⟩) ∧
    (Dialect.postgres.render q).sql = "INSERT INTO \"t\" () ON CONFLICT  DO NOTHING" ∧
    ∃ rest, Dialect.sqlite.outline? (Dialect.sqlite.render q) =
        some (Symbol.ofWord "INSERT OR IGNORE " ++ rest) ∧
      Dialect.mysql.outline? (Dialect.mysql.render q) =
        some (Symbol.ofWord "INSERT IGNORE " ++ rest) ∧
      (Dialect.postgres.outline? (Dialect.postgres.render q)).map solid ≠ some (solid
        (Symbol.ofWord "INSERT " ++ rest ++ Symbol.ofWord " ON CONFLICT () DO NOTHING")) := by
  intro q solid
  refine ⟨fun d => rfl, by decide, Symbol.ofWord "INTO " ++ .name "t" :: Symbol.ofWord " ()",
    ?_, ?_, ?_⟩
  · rw [Dialect.outline?_render]
    decide
  · rw [Dialect.outline?_render]
    decide
  · rw [Dialect.outline?_render]
    decide

end BuilderCall

end EntityMap
