import EntityMap.Proofs.Execution.Calls
import EntityMap.Proofs.Sql.Meaning
import EntityMap.Proofs.Statement.Reconciliation

/-!
# What a reconciliation makes of a join table

The deletion keeps the rows of other records, those that hold a listed key, and those whose key is
not known. The insertion then adds a row for each listed key that has none. So `result` of the
table is what both leave; by it each listed key has exactly one row, and no row is written anew.
`syncRelation_converges` says this of the statements that a database is given as texts.
-/

namespace EntityMap

open Sql

namespace JoinLink

variable (join : JoinLink) (own : Value)

/-- The row is known to be one of the record with the key `own`. -/
def owns (row : Row) : Bool := row.has join.ownColumn own

/-- The row is known to pair the record with another key. -/
def pairs (id : Value) (row : Row) : Bool := join.owns own row && row.has join.otherColumn id

/-- The row that is inserted for a key. -/
def row (id : Value) : Row := ⟨[(join.ownColumn, own), (join.otherColumn, id)]⟩

/-- The other key of the row is null or missing. -/
def lacksKey (row : Row) : Bool := (row.cell? join.otherColumn).all (·.isNull)

/-- No two rows are known to hold the same pair of keys. -/
def Unique (rows : List Row) : Prop :=
  rows.Pairwise fun r s => r.agrees [join.ownColumn, join.otherColumn] s = false

instance (rows : List Row) : Decidable (join.Unique rows) :=
  inferInstanceAs (Decidable (rows.Pairwise _))

/-- The other key of every row of the record is known. -/
def HasKeys (rows : List Row) : Prop :=
  ∀ row ∈ rows, join.owns own row = true → join.lacksKey row = false

instance (rows : List Row) : Decidable (join.HasKeys own rows) :=
  inferInstanceAs (Decidable (∀ row ∈ rows, _))

/-- The record has no rows but those of the listed keys. -/
def HoldsOnly (ids : List Value) (rows : List Row) : Prop :=
  ∀ row ∈ rows, join.owns own row = true → ∃ id ∈ ids, join.pairs own id row = true

instance (ids : List Value) (rows : List Row) : Decidable (join.HoldsOnly own ids rows) :=
  inferInstanceAs (Decidable (∀ row ∈ rows, _))

end JoinLink

namespace JoinPlan

variable (p : JoinPlan)

/-- The deletion leaves the row. -/
def keeps (row : Row) : Bool :=
  !p.join.owns p.own row ||
    p.desired ≠ [] && (p.join.lacksKey row || p.desired.any (p.join.pairs p.own · row))

/-- The desired keys that no row pairs with the record. -/
def missing (rows : List Row) : List Value :=
  p.desired.filter fun id => !rows.any (p.join.pairs p.own id)

/-- What both statements make of the rows of the join table. -/
def result (rows : List Row) : List Row :=
  rows.filter p.keeps ++ (p.missing rows).map (p.join.row p.own)

/-- What the insertion makes of the rows of the join table. -/
def filled (rows : List Row) : List Row := rows ++ (p.missing rows).map (p.join.row p.own)

/-- The plan can be carried out: the columns are two, and the keys can be compared. -/
structure IsSound : Prop where
  columns : p.join.ownColumn ≠ p.join.otherColumn
  own : p.own.IsComparable
  desired : ∀ id ∈ p.desired, id.IsComparable
  apart : p.desired.Pairwise fun v w => v.same w = false

/-! ## The two statements -/

variable {p}

/-- Of keys that can be compared a value is known to be none just if it is known and equals none. -/
private theorem all_equals?_eq_false {ids : List Value} (ne : ids ≠ [])
    (comparable : ∀ id ∈ ids, id.IsComparable) (w : Value) :
    (ids.all fun id => w.equals? id = some false) =
      !(w.isNull || ids.any fun id => w.equals? id = some true) := by
  cases null : w.isNull with
  | true =>
    obtain ⟨id, hid⟩ := List.exists_mem_of_ne_nil ids ne
    have unknown : w.equals? id = none := by simp [Value.equals?, null]
    have not : (ids.all fun id => w.equals? id = some false) ≠ true := by
      intro all
      have here := List.all_eq_true.1 all id hid
      simp [unknown] at here
    simpa using not
  | false =>
    rw [Bool.false_or, List.not_any_eq_all_not, Bool.eq_iff_iff, List.all_eq_true, List.all_eq_true]
    apply forall₂_congr
    intro id hid
    have known : w.equals? id = some (w.same id) := by
      simp [Value.equals?, null, (comparable id hid).isNull_eq_false]
    simp [known]

/-- The deletion selects the rows that are not to be kept. -/
private theorem selects_delete (sound : p.IsSound) (row : Row) :
    selects p.table (.eq p.join.ownColumn p.own ::
      if p.desired.isEmpty then [] else [.notIn (.bare p.join.otherColumn) p.desired]) row =
        !p.keeps row := by
  cases owned : row.has p.join.ownColumn p.own with
  | false => simp [selects, keeps, JoinLink.owns, owned]
  | true =>
    by_cases none : p.desired = []
    · simp [selects, keeps, JoinLink.owns, owned, none]
    · have listed : p.desired.isEmpty = false := by simpa using none
      cases hc : row.cell? p.join.otherColumn with
      | none =>
        simp [selects, keeps, JoinLink.owns, JoinLink.lacksKey, owned, none, listed, hc]
      | some w =>
        have all := all_equals?_eq_false none sound.desired w
        have left : selects p.table (.eq p.join.ownColumn p.own ::
            if p.desired.isEmpty then [] else [.notIn (.bare p.join.otherColumn) p.desired]) row =
            p.desired.all fun id => w.equals? id = some false := by
          simp [selects, owned, listed, hc]
        have right : p.keeps row =
            (w.isNull || p.desired.any fun id => w.equals? id = some true) := by
          simp [keeps, JoinLink.owns, JoinLink.lacksKey, JoinLink.pairs, owned, none, hc,
            Row.has_of_cell?]
        rw [left, right, all]

/-- A row that pairs the record with a key has the values of the row inserted for it. -/
private theorem agrees_row (sound : p.IsSound) (id : Value) (s : Row) :
    (p.join.row p.own id).agrees [p.join.ownColumn, p.join.otherColumn] s =
      p.join.pairs p.own id s := by
  have own : (p.join.row p.own id).cell? p.join.ownColumn = some p.own := by
    simp [Row.cell?, JoinLink.row]
  have other : (p.join.row p.own id).cell? p.join.otherColumn = some id := by
    simp [Row.cell?, JoinLink.row, sound.columns]
  have flip (column : String) (v : Value)
      (h : (p.join.row p.own id).cell? column = some v) :
      ((s.cell? column).any fun w => (p.join.row p.own id).has column w) = s.has column v := by
    unfold Row.has
    rw [h]
    simp only [Option.any_some, Value.equals?_comm v]
  simp [Row.agrees, flip _ _ own, flip _ _ other, JoinLink.pairs, JoinLink.owns]

/-- The row inserted for a key pairs the record with the keys that equal it. -/
private theorem pairs_row (sound : p.IsSound) (id other : Value) :
    p.join.pairs p.own id (p.join.row p.own other) = decide (other.equals? id = some true) := by
  have own : (p.join.row p.own other).cell? p.join.ownColumn = some p.own := by
    simp [Row.cell?, JoinLink.row]
  have cell : (p.join.row p.own other).cell? p.join.otherColumn = some other := by
    simp [Row.cell?, JoinLink.row, sound.columns]
  have self : p.own.equals? p.own = some true := sound.own
  simp [JoinLink.pairs, JoinLink.owns, Row.has_of_cell? own, Row.has_of_cell? cell, self]

/-- An insertion that skips pairs adds a row for each key that has none yet. -/
private theorem foldl_insertRow (sound : p.IsSound) {ids : List Value}
    (apart : ids.Pairwise fun v w => v.same w = false) (rows : List Row) :
    (ids.map fun id => [p.own, id]).foldl
        (insertRow [p.join.ownColumn, p.join.otherColumn] .skip) rows =
      rows ++ (ids.filter fun id => !rows.any (p.join.pairs p.own id)).map (p.join.row p.own) := by
  induction ids generalizing rows with
  | nil => simp
  | cons id rest ih =>
    obtain ⟨first, later⟩ := List.pairwise_cons.1 apart
    have one : insertRow [p.join.ownColumn, p.join.otherColumn] .skip rows [p.own, id] =
        if rows.any (p.join.pairs p.own id) then rows else rows ++ [p.join.row p.own id] := by
      have agrees : (fun s => (p.join.row p.own id).agrees
          [p.join.ownColumn, p.join.otherColumn] s) = p.join.pairs p.own id := by
        funext s
        exact agrees_row sound id s
      simp only [insertRow, List.zip_cons_cons, List.zip_nil_left, true_and]
      rw [show (⟨[(p.join.ownColumn, p.own), (p.join.otherColumn, id)]⟩ : Row) =
        p.join.row p.own id from rfl, agrees]
    rw [List.map_cons, List.foldl_cons, one]
    by_cases there : rows.any (p.join.pairs p.own id) = true
    · rw [if_pos there, ih later, List.filter_cons_of_neg (by simpa using there)]
    · -- the new row pairs the record with no key that is still to come
      have same : rest.filter (fun other =>
            !(rows ++ [p.join.row p.own id]).any (p.join.pairs p.own other)) =
          rest.filter fun other => !rows.any (p.join.pairs p.own other) := by
        apply List.filter_congr
        intro other hother
        have differ : id.equals? other ≠ some true := by
          intro h
          have same := (Value.equals?_eq_true_iff.1 h).2.2
          rw [first other hother] at same
          exact Bool.false_ne_true same
        rw [List.any_append, List.any_cons, List.any_nil, pairs_row sound]
        simp [differ]
      rw [if_neg there, ih later, same, List.filter_cons_of_pos (by simpa using there),
        List.map_cons, List.append_assoc, List.singleton_append]

/-! ## What both statements leave -/

/-- A row that holds a desired key is kept. -/
private theorem keeps_of_pairs {id : Value} (hid : id ∈ p.desired) {row : Row}
    (h : p.join.pairs p.own id row = true) : p.keeps row = true := by
  have some : p.desired ≠ [] := List.ne_nil_of_mem hid
  have paired : p.desired.any (p.join.pairs p.own · row) = true := List.any_eq_true.2 ⟨id, hid, h⟩
  simp [keeps, some, paired]

/-- Rows that hold no desired key are not missed. -/
private theorem missing_filter {q : Row → Bool} (rows : List Row)
    (h : ∀ id ∈ p.desired, ∀ row, p.join.pairs p.own id row = true → q row = true) :
    p.missing (rows.filter q) = p.missing rows := by
  apply List.filter_congr
  intro id hid
  rw [List.any_filter]
  congr 2
  funext row
  cases paired : p.join.pairs p.own id row with
  | false => rw [Bool.and_false]
  | true => rw [h id hid row paired, Bool.and_true]

/-- Nothing that is desired goes missing by the deletion. -/
theorem filled_filter_keeps (rows : List Row) : p.filled (rows.filter p.keeps) = p.result rows := by
  rw [filled, missing_filter rows fun id hid row => keeps_of_pairs hid, result]

/-- A desired key is missing just if no row holds it. -/
private theorem mem_missing_iff {rows : List Row} {id : Value} :
    id ∈ p.missing rows ↔ id ∈ p.desired ∧ ∀ row ∈ rows, p.join.pairs p.own id row = false := by
  simp [missing, List.mem_filter]

private theorem pairs_row_self (sound : p.IsSound) {id : Value} (hid : id ∈ p.desired) :
    p.join.pairs p.own id (p.join.row p.own id) = true := by
  rw [pairs_row sound]
  exact decide_eq_true (sound.desired id hid)

/-- Each desired key has a row. -/
private theorem exists_mem_result (sound : p.IsSound) {rows : List Row} {id : Value}
    (hid : id ∈ p.desired) : ∃ row ∈ p.result rows, p.join.pairs p.own id row = true := by
  by_cases there : ∃ row ∈ rows, p.join.pairs p.own id row = true
  · obtain ⟨row, hrow, h⟩ := there
    exact ⟨row, List.mem_append_left _ (List.mem_filter.2 ⟨hrow, keeps_of_pairs hid h⟩), h⟩
  · have missing : id ∈ p.missing rows := by
      refine mem_missing_iff.2 ⟨hid, ?_⟩
      intro row hrow
      simpa using fun h => there ⟨row, hrow, h⟩
    exact ⟨_, List.mem_append_right _ (List.mem_map_of_mem missing), pairs_row_self sound hid⟩

/-- What both statements leave they leave as it is when they are run again. -/
theorem result_result (sound : p.IsSound) (rows : List Row) :
    p.result (p.result rows) = p.result rows := by
  have kept : (p.result rows).filter p.keeps = p.result rows := by
    rw [List.filter_eq_self]
    intro row hrow
    rcases List.mem_append.1 hrow with h | h
    · exact (List.mem_filter.1 h).2
    · obtain ⟨id, hid, rfl⟩ := List.mem_map.1 h
      have desired : id ∈ p.desired := (mem_missing_iff.1 hid).1
      exact keeps_of_pairs desired (pairs_row_self sound desired)
  have none : p.missing (p.result rows) = [] := by
    rw [List.eq_nil_iff_forall_not_mem]
    intro id hid
    obtain ⟨desired, lacks⟩ := mem_missing_iff.1 hid
    obtain ⟨row, hrow, h⟩ := @exists_mem_result p sound rows id desired
    rw [lacks row hrow] at h
    exact Bool.false_ne_true h
  rw [result, kept, none, List.map_nil, List.append_nil]

/-- The insertion keeps pairs unique. -/
theorem unique_filled (sound : p.IsSound) {rows : List Row} (unique : p.join.Unique rows) :
    p.join.Unique (p.filled rows) := by
  refine List.pairwise_append.2 ⟨unique, ?_, ?_⟩
  · refine List.pairwise_map.2 ((sound.apart.filter _).imp ?_)
    intro v w differ
    rw [agrees_row sound, pairs_row sound, decide_eq_false_iff_not]
    intro equal
    have same := (Value.equals?_eq_true_iff.1 equal).2.2
    rw [Value.same_comm, differ] at same
    exact Bool.false_ne_true same
  · intro row hrow new hnew
    obtain ⟨id, hid, rfl⟩ := List.mem_map.1 hnew
    rw [Row.agrees_comm, agrees_row sound]
    exact (mem_missing_iff.1 hid).2 row hrow

/-- Pairs stay unique. -/
theorem unique_result (sound : p.IsSound) {rows : List Row} (unique : p.join.Unique rows) :
    p.join.Unique (p.result rows) := by
  rw [← filled_filter_keeps]
  exact unique_filled sound (unique.filter _)

/-! ## The rows of one record -/

/-- The inserted rows are rows of the record. -/
private theorem owns_of_mem_missing (sound : p.IsSound) {rows : List Row} {row : Row}
    (h : row ∈ (p.missing rows).map (p.join.row p.own)) : p.join.owns p.own row = true := by
  obtain ⟨id, hid, rfl⟩ := List.mem_map.1 h
  exact (Bool.and_eq_true_iff.1 (pairs_row_self sound (mem_missing_iff.1 hid).1)).1

variable {q : Row → Bool}

/-- The deletion leaves a row that is not one of the record. -/
theorem filter_filter_keeps (h : ∀ row, p.join.owns p.own row = true → q row = false)
    (rows : List Row) : (rows.filter p.keeps).filter q = rows.filter q := by
  rw [List.filter_filter]
  apply List.filter_congr
  intro row _
  cases own : p.join.owns p.own row with
  | true => rw [h row own, Bool.false_and]
  | false => simp [JoinPlan.keeps, own]

/-- The insertion adds no row but of the record. -/
theorem filter_filled (sound : p.IsSound)
    (h : ∀ row, p.join.owns p.own row = true → q row = false) (rows : List Row) :
    (p.filled rows).filter q = rows.filter q := by
  have none : ((p.missing rows).map (p.join.row p.own)).filter q = [] := by
    rw [List.filter_eq_nil_iff]
    intro row hrow
    rw [h row (owns_of_mem_missing sound hrow)]
    exact Bool.false_ne_true
  rw [filled, List.filter_append, none, List.append_nil]

/-- What the insertion adds depends on the rows of the record only. -/
theorem filter_owns_filled (sound : p.IsSound) (rows : List Row) :
    (p.filled rows).filter (p.join.owns p.own) = p.filled (rows.filter (p.join.owns p.own)) := by
  have all : ((p.missing rows).map (p.join.row p.own)).filter (p.join.owns p.own) =
      (p.missing rows).map (p.join.row p.own) :=
    List.filter_eq_self.2 fun row hrow => owns_of_mem_missing sound hrow
  have same : p.missing (rows.filter (p.join.owns p.own)) = p.missing rows := by
    apply missing_filter
    intro id _ row paired
    exact (Bool.and_eq_true_iff.1 paired).1
  rw [filled, List.filter_append, all, filled, same]

end JoinPlan

/-! ## Agreement with a list -/

/-- What a reconciliation owes to a record with the key `own` that lists some keys. -/
structure JoinLink.Reconciled (join : JoinLink) (own : Value) (ids : List Value)
    (before after : List Row) : Prop where
  /-- Each listed key has exactly one row. -/
  each : ∀ id ∈ ids, (after.filter (join.pairs own id)).length = 1
  /-- Where no key is listed, no row of the record is left. -/
  gone : ids = [] → ∀ row ∈ after, join.owns own row = false
  /-- The rows that held a listed key already are there as they were, and after them the rows of
  the listed keys that had none. -/
  linked : ∃ added : List Value,
    after.filter (fun row => ids.any (join.pairs own · row)) =
      before.filter (fun row => ids.any (join.pairs own · row)) ++ added.map (join.row own) ∧
    ∀ id ∈ added, id ∈ ids ∧ ∀ row ∈ before, join.pairs own id row = false
  /-- Where keys are listed, what is left of the other rows of the record are those without a known
  key, as they were. -/
  unlinked : ids ≠ [] →
    after.filter (fun row => join.owns own row && !ids.any (join.pairs own · row)) =
      before.filter fun row => join.owns own row && join.lacksKey row
  /-- The rows of other records are there as they were. -/
  others : after.filter (fun row => !join.owns own row) =
    before.filter fun row => !join.owns own row
  unique : join.Unique after

namespace JoinLink

variable {join : JoinLink} {own v w : Value}

/-- Two rows that hold one pair agree. -/
private theorem agrees_of_pairs {r s : Row} (hr : join.pairs own v r = true)
    (hs : join.pairs own v s = true) :
    r.agrees [join.ownColumn, join.otherColumn] s = true := by
  simp only [pairs, owns, Bool.and_eq_true] at hr hs
  refine Row.agrees_eq_true_iff.2 ?_
  intro c hc
  rcases List.mem_cons.1 hc with rfl | hc
  · exact ⟨own, hr.1, hs.1⟩
  · obtain rfl := List.mem_singleton.1 hc
    exact ⟨v, hr.2, hs.2⟩

/-- Equal keys have the same rows. -/
theorem pairs_congr (h : v.equals? w = some true) : join.pairs own v = join.pairs own w := by
  funext row
  rw [pairs, pairs, Row.has_congr h]

/-- A row whose key is not known pairs the record with no key. -/
private theorem pairs_of_lacksKey {row : Row} (lacks : join.lacksKey row = true) (id : Value) :
    join.pairs own id row = false := by
  rw [pairs, Bool.and_eq_false_iff]
  right
  cases cell : row.cell? join.otherColumn with
  | none => simp [Row.has, cell]
  | some w =>
    have null : w.isNull = true := by simpa [lacksKey, cell] using lacks
    simp [Row.has_of_cell? cell, Value.equals?, null]

/-- The record has the rows of the listed keys only just if the other keys of its rows were known
before, or none is listed. -/
theorem Reconciled.holdsOnly_iff {ids : List Value} {before after : List Row}
    (h : join.Reconciled own ids before after) :
    join.HoldsOnly own ids after ↔ ids = [] ∨ join.HasKeys own before := by
  by_cases none : ids = []
  · refine iff_of_true (fun row hrow owned => ?_) (.inl none)
    rw [h.gone none row hrow] at owned
    exact absurd owned Bool.false_ne_true
  · have only : join.HoldsOnly own ids after ↔
        after.filter (fun row => join.owns own row && !ids.any (join.pairs own · row)) = [] := by
      simp [HoldsOnly, List.filter_eq_nil_iff]
    have keys : join.HasKeys own before ↔
        (before.filter fun row => join.owns own row && join.lacksKey row) = [] := by
      simp [HasKeys, List.filter_eq_nil_iff]
    rw [only, h.unlinked none, ← keys, or_iff_right none]

end JoinLink

namespace JoinPlan

variable {p : JoinPlan} {rows : List Row}

/-- Each desired key has exactly one row. -/
private theorem length_pairs_result (sound : p.IsSound) (unique : p.join.Unique rows) {id : Value}
    (hid : id ∈ p.desired) : ((p.result rows).filter (p.join.pairs p.own id)).length = 1 := by
  have most : ((p.result rows).filter (p.join.pairs p.own id)).length ≤ 1 := by
    apply length_filter_le_one (unique_result sound unique)
    intro r s hr hs differ
    rw [JoinLink.agrees_of_pairs hr hs] at differ
    exact Bool.false_ne_true differ.symm
  obtain ⟨row, hrow, h⟩ := @exists_mem_result p sound rows id hid
  have least : 0 < ((p.result rows).filter (p.join.pairs p.own id)).length :=
    List.length_pos_of_mem (List.mem_filter.2 ⟨hrow, h⟩)
  omega

section Listed

variable {ids : List Value} (desired : p.desired = Value.distinct ids)
include desired

private theorem listed_of_desired {id : Value} (hid : id ∈ p.desired) : id ∈ ids :=
  Value.mem_of_mem_distinct (desired ▸ hid)

/-- Each listed key equals a desired one. -/
private theorem exists_desired (comparable : ∀ id ∈ ids, id.IsComparable) {id : Value}
    (hid : id ∈ ids) : ∃ v ∈ p.desired, id.equals? v = some true := by
  have self := Value.equals?_eq_true_iff.1 (comparable id hid)
  obtain ⟨v, hv, same⟩ := Value.exists_mem_distinct hid self.2.2
  have null : v.isNull = false := by rw [← Value.isNull_of_same same, self.1]
  exact ⟨v, desired ▸ hv, Value.equals?_eq_true_iff.2 ⟨self.1, null, same⟩⟩

/-- The deletion leaves the rows that hold a listed key. -/
private theorem keeps_of_listed (comparable : ∀ id ∈ ids, id.IsComparable) {row : Row}
    (h : ids.any (p.join.pairs p.own · row) = true) : p.keeps row = true := by
  obtain ⟨id, hid, paired⟩ := List.any_eq_true.1 h
  obtain ⟨v, hv, equal⟩ := exists_desired desired comparable hid
  rw [JoinLink.pairs_congr equal] at paired
  exact keeps_of_pairs hv paired

/-- The inserted rows hold listed keys. -/
private theorem listed_of_missing (sound : p.IsSound) {row : Row}
    (h : row ∈ (p.missing rows).map (p.join.row p.own)) :
    ids.any (p.join.pairs p.own · row) = true := by
  obtain ⟨id, hid, rfl⟩ := List.mem_map.1 h
  have mem : id ∈ p.desired := (mem_missing_iff.1 hid).1
  exact List.any_eq_true.2 ⟨id, listed_of_desired desired mem, pairs_row_self sound mem⟩

/-- Where keys are listed, a row of the record that holds none of them is left just if its key is not
known. -/
private theorem filter_unlinked_result (sound : p.IsSound) (ne : ids ≠ []) :
    (p.result rows).filter (fun row => p.join.owns p.own row &&
        !ids.any (p.join.pairs p.own · row)) =
      rows.filter fun row => p.join.owns p.own row && p.join.lacksKey row := by
  have none : ((p.missing rows).map (p.join.row p.own)).filter (fun row =>
      p.join.owns p.own row && !ids.any (p.join.pairs p.own · row)) = [] := by
    rw [List.filter_eq_nil_iff]
    intro row hrow
    simp [listed_of_missing desired sound hrow]
  have some : p.desired ≠ [] := by rwa [desired, Ne, Value.distinct_eq_nil_iff]
  rw [result, List.filter_append, none, List.append_nil, List.filter_filter]
  apply List.filter_congr
  intro row _
  cases lacks : p.join.lacksKey row with
  | true =>
    have unlisted : ids.any (p.join.pairs p.own · row) = false := by
      simp [JoinLink.pairs_of_lacksKey lacks]
    simp [keeps, some, lacks, unlisted]
  | false =>
    cases listed : ids.any (p.join.pairs p.own · row) with
    | true => simp
    | false =>
      -- a desired key that the row held would be a listed one
      have undesired : p.desired.any (p.join.pairs p.own · row) = false := by
        rw [List.any_eq_false] at listed ⊢
        exact fun id hid => listed id (listed_of_desired desired hid)
      cases owned : p.join.owns p.own row <;> simp [keeps, owned, lacks, undesired]

/-- The rows that hold listed keys are those that did and the inserted ones. -/
private theorem filter_listed_result (sound : p.IsSound)
    (comparable : ∀ id ∈ ids, id.IsComparable) :
    (p.result rows).filter (fun row => ids.any (p.join.pairs p.own · row)) =
      rows.filter (fun row => ids.any (p.join.pairs p.own · row)) ++
        (p.missing rows).map (p.join.row p.own) := by
  rw [result, List.filter_append, List.filter_filter]
  congr 1
  · apply List.filter_congr
    intro row _
    cases h : ids.any (p.join.pairs p.own · row) with
    | false => rw [Bool.false_and]
    | true => rw [keeps_of_listed desired comparable h, Bool.and_true]
  · exact List.filter_eq_self.2 fun row hrow => listed_of_missing desired sound hrow

end Listed

/-- The rows of other records are left alone. -/
private theorem filter_others_result (sound : p.IsSound) :
    (p.result rows).filter (fun row => !p.join.owns p.own row) =
      rows.filter fun row => !p.join.owns p.own row := by
  have other : ∀ row, p.join.owns p.own row = true → (!p.join.owns p.own row) = false := by
    intro row own
    rw [own, Bool.not_true]
  rw [← filled_filter_keeps, filter_filled sound other, filter_filter_keeps other]

/-- What both statements leave agrees with the list that the plan is for. -/
theorem reconciled_result {ids : List Value} (sound : p.IsSound)
    (desired : p.desired = Value.distinct ids) (comparable : ∀ id ∈ ids, id.IsComparable)
    (unique : p.join.Unique rows) : p.join.Reconciled p.own ids rows (p.result rows) := by
  constructor
  case each =>
    intro id hid
    obtain ⟨v, hv, equal⟩ := exists_desired desired comparable hid
    rw [JoinLink.pairs_congr equal]
    exact length_pairs_result sound unique hv
  case gone =>
    rintro rfl row hrow
    have none : p.desired = [] := desired
    simp only [result, missing, none, List.filter_nil, List.map_nil, List.append_nil] at hrow
    simpa [keeps, none] using (List.mem_filter.1 hrow).2
  case linked =>
    refine ⟨p.missing rows, filter_listed_result desired sound comparable, ?_⟩
    intro id hid
    obtain ⟨mem, none⟩ := mem_missing_iff.1 hid
    exact ⟨listed_of_desired desired mem, none⟩
  case unlinked => exact fun ne => filter_unlinked_result desired sound ne
  case others => exact filter_others_result sound
  case unique => exact unique_result sound unique

/-! ## Running both statements -/

/-- The deletion leaves the rows that are kept. -/
theorem effect_delete (sound : p.IsSound) (rows : List Row) :
    p.delete.effect rows = rows.filter p.keeps := by
  have keeps : (fun row => !selects p.table (.eq p.join.ownColumn p.own ::
      if p.desired.isEmpty then [] else [.notIn (.bare p.join.otherColumn) p.desired]) row) =
      p.keeps := by
    funext row
    rw [selects_delete sound, Bool.not_not]
  simp only [Query.effect, delete, Query.write, keeps]
  exact Database.set_self _ _ _

/-- The insertion adds the rows that are missing. -/
theorem effect_insertion (sound : p.IsSound) (rows : List Row) :
    p.insertion.effect rows = p.filled rows := by
  simp only [Query.effect, insertion, Query.write, foldl_insertRow sound sound.apart]
  exact Database.set_self _ _ _

theorem mem_queries_iff {q : Query} :
    q ∈ p.statements.queries ↔ q = p.delete ∨ (p.desired ≠ [] ∧ q = p.insertion) := by
  by_cases none : p.desired = [] <;> simp [Reconciliation.queries, statements, none]

/-- The statements leave together what the reconciliation is to leave. -/
theorem effects_queries (sound : p.IsSound) (rows : List Row) :
    Query.effects p.statements.queries rows = p.result rows := by
  by_cases none : p.desired = []
  · have added : p.missing rows = [] := by rw [missing, none, List.filter_nil]
    simp [Reconciliation.queries, statements, none, effect_delete sound, result, added]
  · simp only [Reconciliation.queries, statements, none, if_false, Option.toList,
      Query.effects_cons, Query.effects_nil, effect_delete sound, effect_insertion sound,
      filled_filter_keeps]

theorem isFull_delete (p : JoinPlan) : p.delete.IsFull := by
  intro q hq
  rcases List.mem_cons.1 hq with rfl | hq
  · trivial
  · split at hq
    · simp at hq
    · next some =>
      rw [List.mem_singleton] at hq
      subst hq
      simpa [Predicate.IsFull] using some

theorem isFull_insertion (p : JoinPlan) (ne : p.desired ≠ []) : p.insertion.IsFull := by
  refine ⟨by simp, by simpa using ne, ?_⟩
  intro row hrow
  obtain ⟨id, -, rfl⟩ := List.mem_map.1 hrow
  simp

end JoinPlan

/-- A database runs statements for one table without failing. -/
theorem Sql.Dialect.executeAll_eq (d : Dialect) {table : String} {qs : List Query}
    (full : ∀ q ∈ qs, q.IsFull) (only : ∀ q ∈ qs, q.table = table) (db : Database) :
    d.database.executeAll qs db = (.ok (), db.set table (Query.effects qs (db table))) := by
  induction qs generalizing db with
  | nil => rw [Query.effects_nil, Database.set_eq_self]; rfl
  | cons q qs ih =>
    have here : q.table = table := only q List.mem_cons_self
    have later := ih (fun q' hq' => full q' (List.mem_cons_of_mem q hq'))
      (fun q' hq' => only q' (List.mem_cons_of_mem q hq')) (q.write db).2
    rw [q.write_eq, here, Database.set_self, Database.set_set] at later
    simp only [Executor.executeAll, d.execute_eq (full q List.mem_cons_self), q.write_eq, here,
      later, Query.effects_cons]

/-- A database that is given both statements of a plan leaves the result of the join table. -/
private theorem syncRelation_eq (d : Dialect) {reg : Registry} {r : Record} {relation : String}
    {p : JoinPlan} (ok : reg.reconcile r relation = .ok p.statements) (sound : p.IsSound)
    (db : Database) : d.database.syncRelation reg r relation db =
      ⟨r, db.set p.table (p.result (db p.table)), .ok p.statements⟩ := by
  have full : ∀ q ∈ p.statements.queries, q.IsFull ∧ q.table = p.table := by
    intro q hq
    rcases JoinPlan.mem_queries_iff.1 hq with rfl | ⟨some, rfl⟩
    · exact ⟨p.isFull_delete, rfl⟩
    · exact ⟨p.isFull_insertion some, rfl⟩
  rw [Executor.syncRelation_eq_executeAll _ ok,
    d.executeAll_eq (fun q hq => (full q hq).1) (fun q hq => (full q hq).2),
    JoinPlan.effects_queries sound]
  rfl

/-- A reconciliation makes a join table agree with the list of a record and leaves all else as it
is, also when it is run once more. The record then has no rows but those of the listed keys, if the
other keys of all its rows were known before, or if none is listed; a row without a known key is
left otherwise. -/
theorem syncRelation_converges (d : Dialect) (reg : Registry) (r : Record) (relation : String)
    (db : Database) {plan : Reconciliation} (ok : reg.reconcile r relation = .ok plan) :
    ∃ table join own ids, reg.Lists r relation table join own ids ∧
      (plan.insert = none ↔ ids = []) ∧
      (join.ownColumn ≠ join.otherColumn → own.IsComparable → (∀ id ∈ ids, id.IsComparable) →
        join.Unique (db table) →
        ∃ after : Database,
          d.database.syncRelation reg r relation db = ⟨r, after, .ok plan⟩ ∧
          join.Reconciled own ids (db table) (after table) ∧
          (join.HoldsOnly own ids (after table) ↔ ids = [] ∨ join.HasKeys own (db table)) ∧
          (∀ t, t ≠ table → after t = db t) ∧
          d.database.syncRelation reg r relation after = ⟨r, after, .ok plan⟩) := by
  obtain ⟨p, hp, rfl⟩ := Registry.reconcile_eq_ok_iff.1 ok
  obtain ⟨table, join, own, ids, lists, rfl⟩ := Registry.joinPlan_eq_ok_iff.1 hp
  refine ⟨table, join, own, ids, lists, ?_, ?_⟩
  · rw [← @Value.distinct_eq_nil_iff ids]
    simp [JoinPlan.statements]
  · intro columns comparable listed unique
    have sound : JoinPlan.IsSound ⟨table, join, own, Value.distinct ids⟩ :=
      ⟨columns, comparable, fun id hid => listed id (Value.mem_of_mem_distinct hid),
        Value.distinct_pairwise ids⟩
    have reconciled := JoinPlan.reconciled_result sound rfl listed unique
    refine ⟨_, syncRelation_eq d ok sound db, ?_, ?_, ?_, ?_⟩
    · rw [Database.set_self]
      exact reconciled
    · rw [Database.set_self]
      exact reconciled.holdsOnly_iff
    · intro t ht
      exact Database.set_of_ne db ht _
    · rw [syncRelation_eq d ok sound, Database.set_self, JoinPlan.result_result sound,
        Database.set_set]

/-- Books list the keys of their categories. -/
private def books : Schema :=
  ⟨⟨0, "Book"⟩, [⟨"book_id", some "book_id", "pk", .scalar ⟨.string, false⟩, false⟩,
    ⟨"categories", none, "belongs_to_many_ids,join_name=book_category", .ids ⟨.string, false⟩,
      false⟩]⟩

private def bookCategory : JoinLink := ⟨"book_category", "book_id", "category_id"⟩

private def library : Registry where
  entries := [
    { name := "book", storageName := "book", schema := books, keyColumns := ["book_id"],
      relations := [⟨"categories", "categories", .belongsToManyIds bookCategory⟩] },
    { name := "book_category", storageName := "app_book_category", schema := ⟨⟨1, "Pair"⟩, []⟩ }]

/-- A book that lists two categories, one of them twice. -/
private def book : Record :=
  ⟨books, [.scalar (.ofString "b"), .ids [.ofString "y", .ofString "z", .ofString "y"]]⟩

/-- The book has lost the category `x`, kept `y` and gained `z`; the other book has kept `x`. -/
theorem syncRelation_of_a_book :
    let plan : Reconciliation :=
      { delete := .delete "app_book_category" [.eq "book_id" (.ofString "b"),
          .notIn (.bare "category_id") [.ofString "y", .ofString "z"]]
        insert := some (.insert "app_book_category" ["book_id", "category_id"]
          [[.ofString "b", .ofString "y"], [.ofString "b", .ofString "z"]] .skip) }
    let before : List Row := [bookCategory.row (.ofString "b") (.ofString "x"),
      bookCategory.row (.ofString "b") (.ofString "y"),
      bookCategory.row (.ofString "c") (.ofString "x")]
    library.reconcile book "categories" = .ok plan ∧
      ∃ after : Database,
        Dialect.postgres.database.syncRelation library book "categories" (fun _ => before) =
          ⟨book, after, .ok plan⟩ ∧
        bookCategory.Reconciled (.ofString "b") [.ofString "y", .ofString "z", .ofString "y"] before
          (after "app_book_category") ∧
        bookCategory.HoldsOnly (.ofString "b") [.ofString "y", .ofString "z", .ofString "y"]
          (after "app_book_category") ∧
        (∀ t, t ≠ "app_book_category" → after t = before) ∧
        Dialect.postgres.database.syncRelation library book "categories" after =
          ⟨book, after, .ok plan⟩ := by
  intro plan before
  have ok : library.reconcile book "categories" = .ok plan := by rfl
  refine ⟨ok, ?_⟩
  obtain ⟨table, join, own, ids, lists, -, converges⟩ :=
    syncRelation_converges .postgres library book "categories" (fun _ => before) ok
  obtain ⟨e, rel, entry, target, he, hrel, hlink, hentry, hids, htarget, rfl, hown⟩ := lists
  obtain rfl := Option.some.inj he
  obtain rfl := Option.some.inj hrel
  obtain rfl : bookCategory = join := Link.belongsToManyIds.inj hlink
  obtain rfl := Except.ok.inj hentry
  obtain rfl := Option.some.inj hids
  obtain rfl := Option.some.inj htarget
  obtain rfl := Except.ok.inj hown
  obtain ⟨after, run, reconciled, only, rest⟩ :=
    converges (by decide) (by decide) (by decide) (by decide)
  exact ⟨after, run, reconciled, only.2 (.inr (by decide)), rest⟩

/-- A row that pairs the book with no category is left, beside one for each category that the book
lists. -/
theorem syncRelation_keeps_row_without_category :
    let ids : List Value := [.ofString "y", .ofString "z", .ofString "y"]
    let unpaired : Row := bookCategory.row (.ofString "b") (.string none)
    let before : List Row := [unpaired, bookCategory.row (.ofString "b") (.ofString "y")]
    bookCategory.ownColumn ≠ bookCategory.otherColumn ∧ (Value.ofString "b").IsComparable ∧
      (∀ id ∈ ids, id.IsComparable) ∧ bookCategory.Unique before ∧
      ∃ plan, library.reconcile book "categories" = .ok plan ∧
        ∃ after : Database,
          Dialect.sqlite.database.syncRelation library book "categories" (fun _ => before) =
            ⟨book, after, .ok plan⟩ ∧
          after "app_book_category" = [unpaired, bookCategory.row (.ofString "b") (.ofString "y"),
            bookCategory.row (.ofString "b") (.ofString "z")] ∧
          ¬ bookCategory.HoldsOnly (.ofString "b") ids (after "app_book_category") := by
  intro ids unpaired before
  let p : JoinPlan :=
    ⟨"app_book_category", bookCategory, .ofString "b", [.ofString "y", .ofString "z"]⟩
  have sound : p.IsSound := ⟨by decide, by decide, by decide, by decide⟩
  have ok : library.reconcile book "categories" = .ok p.statements := rfl
  have left : p.result before = [unpaired, bookCategory.row (.ofString "b") (.ofString "y"),
      bookCategory.row (.ofString "b") (.ofString "z")] := by decide
  refine ⟨by decide, by decide, by decide, by decide, _, ok, _,
    syncRelation_eq .sqlite ok sound _, ?_, ?_⟩
  · rw [Database.set_self, left]
  · rw [Database.set_self, left]
    decide

end EntityMap
