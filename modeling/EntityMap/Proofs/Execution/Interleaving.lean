import EntityMap.Proofs.Execution.Reconciliation
import Mathlib.Logic.Function.Basic
import Mathlib.Logic.IsEmpty.Basic

/-!
# Reconciliations at the same time

Clients that reconcile records of one type write to one join table, which sees their statements in
some order. A statement of a reconciliation is confined to the rows of its record: what it makes of
these depends on no other row, and it leaves all others as they are. So the rows of a record become
what its own statements make of them, however those of other records come between
(`Interleaves.filter_effects`), and the table does not depend on the order.
-/

namespace EntityMap

open Sql

/-- The list takes what is pending for each client, one at a time and in turn, until nothing is. -/
inductive Interleaves {ι α : Type} [DecidableEq ι] : (ι → List α) → List α → Prop where
  | done {pending} (none : ∀ i, pending i = []) : Interleaves pending []
  | step {pending x xs rest} (i : ι) (next : pending i = x :: xs)
      (later : Interleaves (Function.update pending i xs) rest) : Interleaves pending (x :: rest)

/-- All that is taken was pending for a client. -/
theorem Interleaves.exists_pending {ι α : Type} [DecidableEq ι] {pending : ι → List α}
    {schedule : List α} (h : Interleaves pending schedule) {x : α} (hx : x ∈ schedule) :
    ∃ i, x ∈ pending i := by
  induction h with
  | done => simp at hx
  | @step pending y xs rest i next _ ih =>
    rcases List.mem_cons.1 hx with rfl | later
    · exact ⟨i, by rw [next]; exact List.mem_cons_self⟩
    · obtain ⟨j, hj⟩ := ih later
      by_cases same : j = i
      · subst same
        rw [Function.update_self] at hj
        exact ⟨j, by rw [next]; exact List.mem_cons_of_mem y hj⟩
      · rw [Function.update_of_ne same] at hj
        exact ⟨j, hj⟩

/-! ## Statements that are confined to some rows -/

namespace Sql.Query

/-- What the statement makes of the rows of one part of a table depends on these, and it changes no
others. -/
structure Confined (q : Query) (table : String) (part : Row → Bool) : Prop where
  full : q.IsFull
  table : q.table = table
  within : ∀ rows, (q.effect rows).filter part = q.effect (rows.filter part)
  outside : ∀ (rows : List Row) (other : Row → Bool),
    (∀ row, part row = true → other row = false) → (q.effect rows).filter other = rows.filter other

end Sql.Query

namespace Interleaves

open Query

variable {ι : Type} [DecidableEq ι] {pending : ι → List Query} {schedule : List Query}
  {table : String} {part : ι → Row → Bool}

/-- What is pending stays confined when a statement is taken. -/
private theorem confined_update (confined : ∀ i, ∀ q ∈ pending i, q.Confined table (part i))
    {i : ι} {q : Query} {qs : List Query} (next : pending i = q :: qs) (j : ι) :
    ∀ q' ∈ Function.update pending i qs j, q'.Confined table (part j) := by
  intro q' hq'
  by_cases same : j = i
  · subst same
    rw [Function.update_self] at hq'
    exact confined j q' (by rw [next]; exact List.mem_cons_of_mem q hq')
  · rw [Function.update_of_ne same] at hq'
    exact confined j q' hq'

/-- The rows of a client become what its own statements make of them. -/
theorem filter_effects (h : Interleaves pending schedule)
    (confined : ∀ i, ∀ q ∈ pending i, q.Confined table (part i))
    (apart : ∀ i j, i ≠ j → ∀ row, part i row = true → part j row = false)
    (rows : List Row) (j : ι) :
    (effects schedule rows).filter (part j) = effects (pending j) (rows.filter (part j)) := by
  induction h generalizing rows with
  | done none => rw [none j, effects_nil, effects_nil]
  | @step pending q qs rest i next _ ih =>
    have mine : q.Confined table (part i) := confined i q (by rw [next]; exact List.mem_cons_self)
    rw [effects_cons, ih (confined_update confined next)]
    by_cases same : j = i
    · subst same
      rw [Function.update_self, mine.within, next, effects_cons]
    · rw [Function.update_of_ne same, mine.outside rows _ (apart i j (Ne.symm same))]

/-- The rows of no client stay as they are. -/
theorem filter_effects_of_disjoint (h : Interleaves pending schedule)
    (confined : ∀ i, ∀ q ∈ pending i, q.Confined table (part i)) {other : Row → Bool}
    (apart : ∀ i row, part i row = true → other row = false) (rows : List Row) :
    (effects schedule rows).filter other = rows.filter other := by
  induction h generalizing rows with
  | done => rw [effects_nil]
  | @step pending q qs rest i next _ ih =>
    have mine : q.Confined table (part i) := confined i q (by rw [next]; exact List.mem_cons_self)
    rw [effects_cons, ih (confined_update confined next), mine.outside rows other (apart i)]

/-- The order in which statements are taken makes no difference to which rows there are. -/
theorem perm_effects {schedule' : List Query} (h : Interleaves pending schedule)
    (h' : Interleaves pending schedule')
    (confined : ∀ i, ∀ q ∈ pending i, q.Confined table (part i))
    (apart : ∀ i j, i ≠ j → ∀ row, part i row = true → part j row = false) (rows : List Row) :
    (effects schedule rows).Perm (effects schedule' rows) := by
  rw [List.perm_iff_count]
  intro row
  by_cases owned : ∃ i, part i row = true
  · obtain ⟨i, hi⟩ := owned
    rw [← List.count_filter hi, ← List.count_filter (l := effects schedule' rows) hi,
      h.filter_effects confined apart, h'.filter_effects confined apart]
  · have others : ∀ i row', part i row' = true → (row == row') = false := by
      intro i row' hi
      rw [beq_eq_false_iff_ne]
      rintro rfl
      exact owned ⟨i, hi⟩
    have self : (row == row) = true := beq_self_eq_true row
    rw [← List.count_filter self, ← List.count_filter (l := effects schedule' rows) self,
      h.filter_effects_of_disjoint confined others, h'.filter_effects_of_disjoint confined others]

end Interleaves

/-! ## The statements of a plan -/

namespace JoinPlan

variable {p : JoinPlan}

/-- Both statements are confined to the rows of the record. -/
theorem confined_of_mem_queries (sound : p.IsSound) :
    ∀ q ∈ p.statements.queries, q.Confined p.table (p.join.owns p.own) := by
  intro q hq
  rcases mem_queries_iff.1 hq with rfl | ⟨some, rfl⟩
  · constructor
    case full => exact p.isFull_delete
    case table => rfl
    case within =>
      intro rows
      rw [effect_delete sound, effect_delete sound]
      exact List.filter_comm _ _ _
    case outside =>
      intro rows other apart
      rw [effect_delete sound, filter_filter_keeps apart]
  · constructor
    case full => exact p.isFull_insertion some
    case table => rfl
    case within =>
      intro rows
      rw [effect_insertion sound, effect_insertion sound, filter_owns_filled sound]
    case outside =>
      intro rows other apart
      rw [effect_insertion sound, filter_filled sound apart]

/-- Both statements keep pairs unique, whatever was run before them. -/
theorem unique_effect (sound : p.IsSound) {q : Query} (hq : q ∈ p.statements.queries)
    {rows : List Row} (unique : p.join.Unique rows) : p.join.Unique (q.effect rows) := by
  rcases mem_queries_iff.1 hq with rfl | ⟨-, rfl⟩
  · rw [effect_delete sound]
    exact unique.filter _
  · rw [effect_insertion sound]
    exact unique_filled sound unique

end JoinPlan

/-! ## Reconciliations of several records -/

namespace JoinLink

variable {ι : Type} (join : JoinLink) (own : ι → Value) (ids : ι → List Value)

/-- Records with these keys can list these keys through the join table, and no two of them have
the same key. -/
structure Separate : Prop where
  columns : join.ownColumn ≠ join.otherColumn
  comparable : ∀ i, (own i).IsComparable
  listed : ∀ i, ∀ id ∈ ids i, id.IsComparable
  apart : ∀ i j, i ≠ j → (own i).equals? (own j) = some false

/-- What reconciliations owe to each of several records and to the other rows of the join table. -/
structure Settled (before after : List Row) : Prop where
  /-- The rows of each record agree with its list. -/
  each : ∀ i, join.Reconciled (own i) (ids i) (before.filter (join.owns (own i)))
    (after.filter (join.owns (own i)))
  /-- Of the rows of other keys, and of none, those of any kind are there as they were. -/
  others : ∀ kind : Row → Bool, (∀ i row, join.owns (own i) row = true → kind row = false) →
    after.filter kind = before.filter kind
  unique : join.Unique after

variable {join own ids}

/-- Each record has the rows of its listed keys only just if the other keys of its rows were known
before, or it lists none. -/
theorem Settled.holdsOnly_iff {before after : List Row} (h : join.Settled own ids before after)
    (i : ι) : join.HoldsOnly (own i) (ids i) after ↔
      ids i = [] ∨ join.HasKeys (own i) before := by
  have only : join.HoldsOnly (own i) (ids i) (after.filter (join.owns (own i))) ↔
      join.HoldsOnly (own i) (ids i) after := by
    simp [HoldsOnly, List.mem_filter]
  have keys : join.HasKeys (own i) (before.filter (join.owns (own i))) ↔
      join.HasKeys (own i) before := by
    simp [HasKeys, List.mem_filter]
  rw [← only, (h.each i).holdsOnly_iff, keys]

namespace Separate

/-- The plan for the list of each record can be carried out. -/
theorem isSound (separate : join.Separate own ids) (table : String) (i : ι) :
    JoinPlan.IsSound ⟨table, join, own i, Value.distinct (ids i)⟩ where
  columns := separate.columns
  own := separate.comparable i
  desired id hid := separate.listed i id (Value.mem_of_mem_distinct hid)
  apart := Value.distinct_pairwise (ids i)

/-- No row is one of two records. -/
theorem owns_eq_false (separate : join.Separate own ids) {i j : ι} (ne : i ≠ j) (row : Row)
    (h : join.owns (own i) row = true) : join.owns (own j) row = false := by
  rw [← Bool.not_eq_true]
  intro h'
  have equal := Row.equals?_of_has h h'
  rw [separate.apart i j ne, Option.some.injEq] at equal
  exact Bool.false_ne_true equal

variable [DecidableEq ι] {table : String} {schedule : List Query} {rows : List Row}

/-- A database runs the statements for the records in whatever order they are taken. -/
theorem executeAll_eq (separate : join.Separate own ids) (d : Dialect) (table : String)
    (h : Interleaves (fun i => (JoinPlan.mk table join (own i)
      (Value.distinct (ids i))).statements.queries) schedule) (db : Database) :
    d.database.executeAll schedule db =
      (.ok (), db.set table (Query.effects schedule (db table))) := by
  have all : ∀ q ∈ schedule, q.IsFull ∧ q.table = table := by
    intro q hq
    obtain ⟨i, hi⟩ := h.exists_pending hq
    have confined := JoinPlan.confined_of_mem_queries (separate.isSound table i) q hi
    exact ⟨confined.full, confined.table⟩
  exact d.executeAll_eq (fun q hq => (all q hq).1) (fun q hq => (all q hq).2) db

/-- The statements for the records settle the table, in whatever order they are taken. -/
theorem settled_effects (separate : join.Separate own ids) (unique : join.Unique rows)
    (h : Interleaves (fun i => (JoinPlan.mk table join (own i)
      (Value.distinct (ids i))).statements.queries) schedule) :
    join.Settled own ids rows (Query.effects schedule rows) := by
  have confined := fun i => JoinPlan.confined_of_mem_queries (separate.isSound table i)
  constructor
  case each =>
    intro i
    have sound := separate.isSound table i
    have alone := h.filter_effects confined (fun i j ne => separate.owns_eq_false ne) rows i
    rw [JoinPlan.effects_queries sound] at alone
    rw [alone]
    exact JoinPlan.reconciled_result sound rfl (separate.listed i) (unique.filter _)
  case others =>
    intro kind none
    exact h.filter_effects_of_disjoint confined none rows
  case unique =>
    refine List.foldlRecOn schedule _ unique ?_
    intro rows unique q hq
    obtain ⟨i, hi⟩ := h.exists_pending hq
    exact JoinPlan.unique_effect (separate.isSound table i) hi unique

end Separate

end JoinLink

namespace Registry

variable {reg : Registry} {relation : String}

/-- Records of one type list keys through one join table. -/
theorem Lists.congr {r s : Record} {table table' : String} {join join' : JoinLink}
    {own own' : Value} {ids ids' : List Value} (same : r.type = s.type)
    (h : reg.Lists r relation table join own ids)
    (h' : reg.Lists s relation table' join' own' ids') : table = table' ∧ join = join' := by
  obtain ⟨e, rel, -, target, he, hrel, hlink, -, -, htarget, rfl, -⟩ := h
  obtain ⟨e', rel', -, target', he', hrel', hlink', -, -, htarget', rfl, -⟩ := h'
  obtain rfl : e = e' := Option.some.inj (he.symm.trans (same ▸ he'))
  obtain rfl : rel = rel' := Option.some.inj (hrel.symm.trans hrel')
  obtain rfl : join = join' := Link.belongsToManyIds.inj (hlink.symm.trans hlink')
  obtain rfl : target = target' := Option.some.inj (htarget.symm.trans htarget')
  exact ⟨rfl, rfl⟩

/-- The reconciliations of several records of one type are plans for one join table. -/
private theorem exists_lists {ι : Type} {rs : ι → Record} {plans : ι → Reconciliation}
    (same : ∀ i j, (rs i).type = (rs j).type)
    (ok : ∀ i, reg.reconcile (rs i) relation = .ok (plans i)) :
    ∃ (table : String) (join : JoinLink) (own : ι → Value) (ids : ι → List Value),
      (∀ i, reg.Lists (rs i) relation table join (own i) (ids i)) ∧
      ∀ i, plans i = (JoinPlan.mk table join (own i) (Value.distinct (ids i))).statements := by
  have one (i : ι) : ∃ table join own ids, reg.Lists (rs i) relation table join own ids ∧
      plans i = (JoinPlan.mk table join own (Value.distinct ids)).statements := by
    obtain ⟨p, hp, hplan⟩ := reconcile_eq_ok_iff.1 (ok i)
    obtain ⟨table, join, own, ids, lists, rfl⟩ := joinPlan_eq_ok_iff.1 hp
    exact ⟨table, join, own, ids, lists, hplan.symm⟩
  choose tables joins own ids lists hplans using one
  rcases isEmpty_or_nonempty ι with none | ⟨⟨i⟩⟩
  · exact ⟨"", ⟨"", "", ""⟩, own, ids, fun i => none.elim i, fun i => none.elim i⟩
  · refine ⟨tables i, joins i, own, ids, ?_, ?_⟩
    · intro j
      obtain ⟨table, join⟩ := (lists j).congr (same j i) (lists i)
      rw [← table, ← join]
      exact lists j
    · intro j
      obtain ⟨table, join⟩ := (lists j).congr (same j i) (lists i)
      rw [← table, ← join]
      exact hplans j

end Registry

/-- Reconciliations of records with different keys do not interfere. In whatever order a database
is given their statements, each record gets the rows that it lists, all other rows stay as they
are, and in the end there are the same rows. A record then has no rows but those that it lists, if
the other keys of all its rows were known before, or if it lists none. -/
theorem interleaved_reconciliations_settle (d : Dialect) (reg : Registry) {ι : Type}
    [DecidableEq ι] (rs : ι → Record) (relation : String) {plans : ι → Reconciliation}
    (same : ∀ i j, (rs i).type = (rs j).type)
    (ok : ∀ i, reg.reconcile (rs i) relation = .ok (plans i)) :
    ∃ (table : String) (join : JoinLink) (own : ι → Value) (ids : ι → List Value),
      (∀ i, reg.Lists (rs i) relation table join (own i) (ids i)) ∧
      (join.Separate own ids → ∀ db : Database, join.Unique (db table) →
        ∃ rows : List Row, ∀ schedule, Interleaves (fun i => (plans i).queries) schedule →
          ∃ after : Database, d.database.executeAll schedule db = (.ok (), after) ∧
            (after table).Perm rows ∧ join.Settled own ids (db table) (after table) ∧
            (∀ i, join.HoldsOnly (own i) (ids i) (after table) ↔
              ids i = [] ∨ join.HasKeys (own i) (db table)) ∧
            ∀ t, t ≠ table → after t = db t) := by
  obtain ⟨table, join, own, ids, lists, hplans⟩ := Registry.exists_lists same ok
  refine ⟨table, join, own, ids, lists, ?_⟩
  intro separate db unique
  obtain rfl := funext hplans
  have confined := fun i => JoinPlan.confined_of_mem_queries (separate.isSound table i)
  have apart := fun i j ne => separate.owns_eq_false (i := i) (j := j) ne
  -- each order leaves what any other leaves
  obtain ⟨rows, common⟩ : ∃ rows, ∀ schedule, Interleaves (fun i => (JoinPlan.mk table join (own i)
      (Value.distinct (ids i))).statements.queries) schedule →
      (Query.effects schedule (db table)).Perm rows := by
    by_cases some : ∃ first, Interleaves (fun i => (JoinPlan.mk table join (own i)
        (Value.distinct (ids i))).statements.queries) first
    · obtain ⟨first, hfirst⟩ := some
      exact ⟨Query.effects first (db table),
        fun schedule h => h.perm_effects hfirst confined apart (db table)⟩
    · exact ⟨[], fun schedule h => absurd ⟨schedule, h⟩ some⟩
  refine ⟨rows, ?_⟩
  intro schedule h
  have settled := separate.settled_effects unique h
  refine ⟨_, separate.executeAll_eq d table h db, ?_, ?_, ?_, ?_⟩
  · rw [Database.set_self]
    exact common schedule h
  · rw [Database.set_self]
    exact settled
  · rw [Database.set_self]
    exact settled.holdsOnly_iff
  · intro t ht
    exact Database.set_of_ne db ht _

/-- Students list the keys of their courses. -/
private def students : Schema :=
  ⟨⟨0, "Student"⟩, [⟨"id", some "id", "pk", .scalar ⟨.string, false⟩, false⟩,
    ⟨"courses", none, "belongs_to_many_ids,join_name=enrolment", .ids ⟨.string, false⟩, false⟩]⟩

private def enrolment : JoinLink := ⟨"enrolment", "student_id", "course_id"⟩

private def school : Registry where
  entries := [
    { name := "student", storageName := "student", schema := students, keyColumns := ["id"],
      relations := [⟨"courses", "courses", .belongsToManyIds enrolment⟩] },
    { name := "enrolment", storageName := "enrolments", schema := ⟨⟨1, "Enrolment"⟩, []⟩ }]

/-- One student takes up a course, the other gives up all. -/
private def student (leaves : Bool) : Record :=
  ⟨students, if leaves then [.scalar (.ofString "b"), .ids []] else
    [.scalar (.ofString "a"), .ids [.ofString "x", .ofString "y"]]⟩

/-- The deletion of the second student comes between the statements of the first, who has `x`
already; a third keeps `x`. -/
theorem interleaved_enrolments_settle :
    let delete : Query := .delete "enrolments" [.eq "student_id" (.ofString "a"),
      .notIn (.bare "course_id") [.ofString "x", .ofString "y"]]
    let insert : Query := .insert "enrolments" ["student_id", "course_id"]
      [[.ofString "a", .ofString "x"], [.ofString "a", .ofString "y"]] .skip
    let leave : Query := .delete "enrolments" [.eq "student_id" (.ofString "b")]
    let plans : Bool → Reconciliation := fun leaves =>
      if leaves then ⟨leave, none⟩ else ⟨delete, some insert⟩
    let own : Bool → Value := fun leaves => .ofString (if leaves then "b" else "a")
    let ids : Bool → List Value := fun leaves =>
      if leaves then [] else [.ofString "x", .ofString "y"]
    let before : List Row := [enrolment.row (.ofString "a") (.ofString "x"),
      enrolment.row (.ofString "b") (.ofString "x"), enrolment.row (.ofString "c") (.ofString "x")]
    (∀ leaves, school.reconcile (student leaves) "courses" = .ok (plans leaves)) ∧
      Interleaves (fun leaves => (plans leaves).queries) [delete, leave, insert] ∧
      ∃ after : Database,
        Dialect.sqlite.database.executeAll [delete, leave, insert] (fun _ => before) =
          (.ok (), after) ∧
        enrolment.Settled own ids before (after "enrolments") ∧
        (∀ leaves, enrolment.HoldsOnly (own leaves) (ids leaves) (after "enrolments")) ∧
        ∀ t, t ≠ "enrolments" → after t = before := by
  intro delete insert leave plans own ids before
  have ok : ∀ leaves, school.reconcile (student leaves) "courses" = .ok (plans leaves) := by
    intro leaves
    cases leaves <;> rfl
  have order : Interleaves (fun leaves => (plans leaves).queries) [delete, leave, insert] := by
    refine .step false rfl (.step true rfl (.step false rfl (.done ?_)))
    intro leaves
    cases leaves <;> rfl
  refine ⟨ok, order, ?_⟩
  obtain ⟨table, join, own', ids', lists, settles⟩ :=
    interleaved_reconciliations_settle .sqlite school student "courses" (fun _ _ => rfl) ok
  have found : ∀ leaves, table = "enrolments" ∧ join = enrolment ∧ own' leaves = own leaves ∧
      ids' leaves = ids leaves := by
    intro leaves
    obtain ⟨e, rel, entry, target, he, hrel, hlink, hentry, hids, htarget, rfl, hown⟩ :=
      lists leaves
    obtain rfl := Option.some.inj he
    obtain rfl := Option.some.inj hrel
    obtain rfl : enrolment = join := Link.belongsToManyIds.inj hlink
    obtain rfl := Except.ok.inj hentry
    obtain rfl := Option.some.inj htarget
    refine ⟨rfl, rfl, ?_, ?_⟩
    · cases leaves <;> exact (Except.ok.inj hown).symm
    · cases leaves <;> exact (Option.some.inj hids).symm
  obtain ⟨rfl, rfl, -⟩ := found true
  obtain rfl : own' = own := funext fun leaves => (found leaves).2.2.1
  obtain rfl : ids' = ids := funext fun leaves => (found leaves).2.2.2
  have separate : enrolment.Separate own ids := ⟨by decide, by decide, by decide, by decide⟩
  obtain ⟨rows, each⟩ := settles separate (fun _ => before) (by decide)
  obtain ⟨after, run, -, settled, only, rest⟩ := each _ order
  exact ⟨after, run, settled, fun leaves => (only leaves).2 (by revert leaves; decide), rest⟩

/-- A row that pairs the first student with no course is left, beside one for each course that the
student takes up. -/
theorem interleaved_reconciliations_keep_row_without_course :
    let own : Bool → Value := fun leaves => .ofString (if leaves then "b" else "a")
    let ids : Bool → List Value := fun leaves =>
      if leaves then [] else [.ofString "x", .ofString "y"]
    let plans : Bool → Reconciliation := fun leaves =>
      (JoinPlan.mk "enrolments" enrolment (own leaves) (Value.distinct (ids leaves))).statements
    let unpaired : Row := enrolment.row (.ofString "a") (.string none)
    enrolment.Separate own ids ∧ enrolment.Unique [unpaired] ∧
      (∀ leaves, school.reconcile (student leaves) "courses" = .ok (plans leaves)) ∧
      ∃ schedule, Interleaves (fun leaves => (plans leaves).queries) schedule ∧
        ∃ after : Database,
          Dialect.sqlite.database.executeAll schedule (fun _ => [unpaired]) = (.ok (), after) ∧
          after "enrolments" = [unpaired, enrolment.row (.ofString "a") (.ofString "x"),
            enrolment.row (.ofString "a") (.ofString "y")] ∧
          ¬ enrolment.HoldsOnly (own false) (ids false) (after "enrolments") := by
  intro own ids plans unpaired
  have separate : enrolment.Separate own ids := ⟨by decide, by decide, by decide, by decide⟩
  have ok : ∀ leaves, school.reconcile (student leaves) "courses" = .ok (plans leaves) := by
    intro leaves
    cases leaves <;> rfl
  have order : Interleaves (fun leaves => (plans leaves).queries)
      [(plans false).delete, (plans true).delete,
        (JoinPlan.mk "enrolments" enrolment (own false) (ids false)).insertion] := by
    refine .step false rfl (.step true rfl (.step false rfl (.done ?_)))
    intro leaves
    cases leaves <;> rfl
  have left : Query.effects [(plans false).delete, (plans true).delete,
      (JoinPlan.mk "enrolments" enrolment (own false) (ids false)).insertion] [unpaired] =
      [unpaired, enrolment.row (.ofString "a") (.ofString "x"),
        enrolment.row (.ofString "a") (.ofString "y")] := by
    decide
  refine ⟨separate, by decide, ok, _, order, _,
    separate.executeAll_eq .sqlite "enrolments" order _, ?_, ?_⟩
  · rw [Database.set_self, left]
  · rw [Database.set_self, left]
    decide

end EntityMap
