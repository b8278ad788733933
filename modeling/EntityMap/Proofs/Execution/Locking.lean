import EntityMap.Proofs.Execution.Versioned
import Mathlib.Logic.Function.Basic

/-!
# Optimistic locking

Clients share a table of an entity with versions. Each holds at most one record, which it reloads,
edits, and gives to updates and deletions. Along every run the version of a held record is behind
that of its row by the number of updates of the row since the client last reloaded or updated. So
an update or deletion, which looks for the version of the record, overwrites no update that the
client has not seen.
-/

namespace EntityMap

open Sql

/-- What is stored, and the record that each client holds. -/
structure World (ι : Type) where
  store : Database
  held : ι → Option Record

/-- A call of a client and whether it succeeded, with the record that it was given. -/
inductive Event (ι : Type) where
  | reload (client : ι) (found : Bool)
  | edit (client : ι)
  | update (client : ι) (r : Record) (done : Bool)
  | delete (client : ι) (r : Record) (done : Bool)

namespace World

variable {ι : Type} [DecidableEq ι]

/-- The world after a call that left a client with a record, or with none. -/
def after (w : World ι) (c : ι) (db : Database) (r : Option Record) : World ι :=
  ⟨db, Function.update w.held c r⟩

@[simp] theorem held_after_self (w : World ι) (c : ι) (db : Database) (r : Option Record) :
    (w.after c db r).held c = r := by
  simp [after]

@[simp] theorem held_after_of_ne (w : World ι) {c c' : ι} (h : c' ≠ c) (db : Database)
    (r : Option Record) : (w.after c db r).held c' = w.held c' := by
  simp [after, h]

end World

/-- One step of one client. A reload is by any record of the type; if it finds no row, the client
keeps what it had. -/
inductive Step {ι : Type} [DecidableEq ι] (d : Dialect) (reg : Registry) (hooks : Hooks)
    (e : Entity) : World ι → Event ι → World ι → Prop where
  | reload {w c probe db result} (schema : probe.schema = e.schema)
      (run : d.database.reload reg probe w.store = ⟨probe, db, result⟩) :
      Step d reg hooks e w (.reload c result.toOption.join.isSome)
        (w.after c db (result.toOption.join <|> w.held c))
  | edit {w c r r'} (held : w.held c = some r) (retains : e.Retains r r') :
      Step d reg hooks e w (.edit c) (w.after c w.store (some r'))
  | update {w c r r' db result} (held : w.held c = some r)
      (run : d.database.update reg hooks r w.store = ⟨r', db, result⟩) :
      Step d reg hooks e w (.update c r result.isOk) (w.after c db (some r'))
  | delete {w c r r' db result} (held : w.held c = some r)
      (run : d.database.delete reg r w.store = ⟨r', db, result⟩) :
      Step d reg hooks e w (.delete c r result.isOk) (w.after c db (some r'))

/-- A run of steps from a world, with its events, the newest first. -/
inductive Runs {ι : Type} [DecidableEq ι] (d : Dialect) (reg : Registry) (hooks : Hooks)
    (e : Entity) (start : World ι) : List (Event ι) → World ι → Prop where
  | nil : Runs d reg hooks e start [] start
  | step {trace w ev w'} (runs : Runs d reg hooks e start trace w)
      (step : Step d reg hooks e w ev w') : Runs d reg hooks e start (ev :: trace) w'

/-! ## Updates that a client has not seen -/

namespace Event

variable {ι : Type} [DecidableEq ι]

/-- The client has just reloaded its record or updated the row from it. -/
def refreshes (c : ι) : Event ι → Bool
  | .reload c' found => found && c' = c
  | .update c' _ done => done && c' = c
  | _ => false

/-- An update of the row of the key has succeeded. -/
def updates (e : Entity) (keys : List Value) : Event ι → Bool
  | .update _ r done => done && (e.keyValues r).toOption.any (sameKeys keys)
  | _ => false

/-- What has happened since a client last reloaded its record or updated the row from it. -/
def since (c : ι) (trace : List (Event ι)) : List (Event ι) :=
  trace.takeWhile fun ev => !ev.refreshes c

/-- The number of updates of a row that a client has not seen. -/
def unseen (e : Entity) (c : ι) (trace : List (Event ι)) (keys : List Value) : Nat :=
  (since c trace).countP (updates e keys)

variable {e : Entity} {c : ι} {ev : Event ι} {trace : List (Event ι)} {keys : List Value}

/-- A client that has just read or written its row has seen all. -/
theorem unseen_of_refreshes (h : ev.refreshes c = true) (trace : List (Event ι))
    (keys : List Value) : unseen e c (ev :: trace) keys = 0 := by
  simp [unseen, since, h]

/-- Otherwise a client has not seen the event. -/
theorem unseen_of_not_refreshes (h : ev.refreshes c = false) (trace : List (Event ι))
    (keys : List Value) : unseen e c (ev :: trace) keys =
      unseen e c trace keys + if ev.updates e keys then 1 else 0 := by
  simp [unseen, since, h, List.countP_cons]

/-- An event that is neither is of no account. -/
theorem unseen_eq (h : ev.refreshes c = false) (none : ∀ keys, ev.updates e keys = false) :
    unseen e c (ev :: trace) = unseen e c trace := by
  funext keys
  rw [unseen_of_not_refreshes h, none, if_neg Bool.false_ne_true, Nat.add_zero]

end Event

/-- The second value is the version that comes a number of times after the first. -/
def Advanced : Nat → Value → Value → Prop
  | 0, v, w => v = w
  | n + 1, v, w => ∃ u, Advanced n v u ∧ nextVersion u = .ok w

namespace Advanced

variable {n : Nat} {v w : Value}

/-- Versions that have advanced are integers, and have grown by that number. -/
theorem exists_int (h : Advanced (n + 1) v w) :
    ∃ k m m', v = .int k (some m) ∧ w = .int k (some m') ∧ m'.val = m.val + (n + 1) := by
  induction n generalizing w with
  | zero =>
    obtain ⟨u, rfl, step⟩ := h
    obtain ⟨k, m, m', hv, hw, next⟩ := nextVersion_eq_ok_iff.1 step
    exact ⟨k, m, m', hv, hw, by simpa using next⟩
  | succ n ih =>
    obtain ⟨u, before, step⟩ := h
    obtain ⟨k, m, m', rfl, rfl, grown⟩ := ih before
    obtain ⟨k', m₁, m₂, hu, rfl, next⟩ := nextVersion_eq_ok_iff.1 step
    cases hu
    exact ⟨k, m, m₂, rfl, rfl, by omega⟩

/-- A version that has advanced is another one. -/
theorem eq_zero_of_equals? (h : Advanced n v w) (same : w.equals? v = some true) : n = 0 := by
  cases n with
  | zero => rfl
  | succ n =>
    obtain ⟨k, m, m', rfl, rfl, grown⟩ := h.exists_int
    have eq : m' = m := by
      rcases Value.same_eq_true_iff.1 (Value.equals?_eq_true_iff.1 same).2.2 with
        ⟨_, _, h, -⟩ | ⟨_, _, h, -⟩ | ⟨h, -⟩
      · simp at h
      · simp at h
      · simpa using h
    rw [eq] at grown
    omega

end Advanced

/-! ## Records that follow their rows -/

namespace Entity

variable {e : Entity} {version : String} {rows : List Row} {keys : List Value}

/-- Whatever row has the key of a record has a version that has advanced, since that of the record,
by a number that may depend on the key. -/
def Follows (e : Entity) (version : String) (rows : List Row) (r : Record) (n : List Value → Nat) :
    Prop :=
  ∀ keys current, e.keyValues r = .ok keys → r.column? version = some current →
    ∀ row ∈ rows, e.hasKey keys row = true →
      ∃ v, row.cell? version = some v ∧ Advanced (n keys) current v

variable {r r' : Record} {n : List Value → Nat} {current next : Value} {db db' : Database}

theorem Follows.retains (h : e.Follows version rows r n) (fits : r.Fits e.schema)
    (lock : version ∈ e.lockColumns) (retains : e.Retains r r') :
    e.Follows version rows r' n := by
  intro keys current hk hv
  rw [retains.2 version lock] at hv
  exact h keys current ((retains.keyValues_eq_ok_iff fits).1 hk) hv

theorem Follows.subset {part : List Row} (h : e.Follows version rows r n) (sub : part ⊆ rows) :
    e.Follows version part r n :=
  fun keys current hk hv row hrow => h keys current hk hv row (sub hrow)

/-- A record that has the key and the version of a row has seen all updates of it. -/
theorem Follows.of_row (table : e.IsTable rows) (fits : r.Fits e.schema) (mem : row ∈ rows)
    (lock : version ∈ e.lockColumns)
    (cells : ∀ c ∈ e.lockColumns, ∀ v, r.column? c = some v → row.cell? c = some v) :
    e.Follows version rows r fun _ => 0 := by
  intro keys current hk hv y hy hasKey
  have length := length_keyValues hk
  have stored := (keyValues_eq_ok_iff fits).1 hk
  have all := (hasKey_eq_true_iff length).1 hasKey
  have here : e.hasKey keys row = true := by
    refine (hasKey_eq_true_iff length).2 (List.forall₂_iff_get.2 ⟨length.symm, ?_⟩)
    intro i hi hj
    have column : e.keyColumns.get ⟨i, hi⟩ ∈ e.lockColumns :=
      List.mem_append_left _ (List.get_mem ..)
    -- the value can be compared, as it is compared with that of the other row
    have comparable := Row.equals?_of_has (all.get hi hj) (all.get hi hj)
    exact Row.has_eq_true_iff.2 ⟨_, cells _ column _ (stored.get hi hj), comparable⟩
  obtain rfl := table.eq_of_hasKey length hy mem hasKey here
  exact ⟨current, cells version lock current hv, rfl⟩

/-- A record whose version is in its row has seen all updates of it. -/
theorem Follows.eq_zero (h : e.Follows version rows r n) (key : e.keyValues r = .ok keys)
    (held : r.column? version = some current) (mem : row ∈ rows)
    (hasKey : e.hasKey keys row = true) (has : row.has version current = true) :
    n keys = 0 ∧ row.cell? version = some current := by
  obtain ⟨v, hv, advanced⟩ := h keys current key held row mem hasKey
  have same : v.equals? current = some true := by
    rw [Row.has_of_cell? hv] at has
    exact of_decide_eq_true has
  have zero := advanced.eq_zero_of_equals? same
  refine ⟨zero, ?_⟩
  rw [zero] at advanced
  rw [hv, advanced]

namespace Updated

variable (h : e.Updated version keys current next r r' db db')
  (table : e.IsTable (db e.storageName))
include h table

/-- The rows after an update are still a table. -/
theorem isTable : e.IsTable (db' e.storageName) := by
  obtain ⟨before, row, row', after, rows, rfl, -, -, -, same, present⟩ := h.row
  rw [Database.set_self]
  rw [rows] at table
  exact table.replace same present

/-- A row after an update was there before and has another key, or is the one that was updated. -/
theorem mem_cases {y : Row} (hy : y ∈ db' e.storageName) :
    (y ∈ db e.storageName ∧ e.hasKey keys y = false) ∨
      y.cell? version = some next ∧ ∃ row ∈ db e.storageName, e.hasKey keys row = true ∧
        row.has version current = true ∧ ∀ keys', e.hasKey keys' y = e.hasKey keys' row := by
  obtain ⟨before, row, row', after, rows, rfl, key, has, cell, same, -⟩ := h.row
  rw [Database.set_self] at hy
  rw [rows] at table ⊢
  have others := table.hasKey_eq_false (length_keyValues h.key) key
  rcases List.mem_append.1 hy with hy | hy
  · exact .inl ⟨by simp [hy], others y (by simp [hy])⟩
  rcases List.mem_cons.1 hy with rfl | hy
  · exact .inr ⟨cell, row, by simp, key, has, hasKey_congr same⟩
  · exact .inl ⟨by simp [hy], others y (by simp [hy])⟩

/-- The record has the version of its row after an update. -/
theorem follows : e.Follows version (db' e.storageName) r' fun _ => 0 := by
  intro keys' current' hk hv y hy hasKey
  obtain rfl := Except.ok.inj (h.key_eq.symm.trans hk)
  rw [h.advanced] at hv
  rcases h.mem_cases table hy with ⟨-, other⟩ | ⟨cell, -⟩
  · rw [other] at hasKey
    exact absurd hasKey Bool.false_ne_true
  · exact ⟨next, cell, (Option.some.inj hv).symm⟩

/-- Another record is one update further behind if it has the key of the row. -/
theorem follows_of_follows (follows : e.Follows version (db e.storageName) r n) {r₂ : Record}
    {n₂ : List Value → Nat} (h₂ : e.Follows version (db e.storageName) r₂ n₂) :
    e.Follows version (db' e.storageName) r₂ fun keys' =>
      n₂ keys' + if sameKeys keys' keys then 1 else 0 := by
  intro keys' v hk hv y hy hasKey
  have length := length_keyValues h.key
  have length' := length_keyValues hk
  rcases h.mem_cases table hy with ⟨mem, other⟩ | ⟨cell, row, mem, key, has, same⟩
  · have apart : sameKeys keys' keys = false := by
      by_contra eq
      rw [Bool.not_eq_false] at eq
      rw [hasKey_of_sameKeys length' length eq hasKey] at other
      exact Bool.false_ne_true other.symm
    simp only [apart, Bool.false_eq_true, if_false, Nat.add_zero]
    exact h₂ keys' v hk hv y mem hasKey
  · rw [same] at hasKey
    obtain ⟨-, before⟩ := follows.eq_zero h.key h.held mem key has
    obtain ⟨u, hu, advanced⟩ := h₂ keys' v hk hv row mem hasKey
    obtain rfl := Option.some.inj (before.symm.trans hu)
    simp only [sameKeys_of_hasKey length' length hasKey key, if_true]
    exact ⟨next, cell, current, advanced, h.step⟩

end Updated

/-- The rows after a deletion are some of those before. -/
theorem Deleted.sublist (h : e.Deleted version keys current r db db') :
    (db' e.storageName).Sublist (db e.storageName) := by
  obtain ⟨before, row, after, rows, rfl, -, -⟩ := h.row
  rw [Database.set_self, rows]
  exact List.Sublist.append_left (List.sublist_cons_self row after) before

end Entity

/-! ## Runs -/

/-- The rows are a table, and the record of each client is behind its row by the updates that the
client has not seen. -/
structure World.Tracked {ι : Type} [DecidableEq ι] (e : Entity) (version : String)
    (trace : List (Event ι)) (w : World ι) : Prop where
  table : e.IsTable (w.store e.storageName)
  fits : ∀ c r, w.held c = some r → r.Fits e.schema
  follows : ∀ c r, w.held c = some r →
    e.Follows version (w.store e.storageName) r (Event.unseen e c trace)

section Runs

variable {ι : Type} [DecidableEq ι] {d : Dialect} {reg : Registry} {hooks : Hooks} {e : Entity}
  {version : String} {start w w' : World ι} {ev : Event ι} {trace : List (Event ι)}

/-- The client of a call and the others are looked at one after the other. -/
theorem World.tracked_after {c : ι} {db : Database} {r : Option Record}
    (table : e.IsTable (db e.storageName))
    (own : ∀ r', r = some r' → r'.Fits e.schema ∧
      e.Follows version (db e.storageName) r' (Event.unseen e c trace))
    (others : ∀ c', c' ≠ c → ∀ r', w.held c' = some r' → r'.Fits e.schema ∧
      e.Follows version (db e.storageName) r' (Event.unseen e c' trace)) :
    (w.after c db r).Tracked e version trace := by
  have each : ∀ c' r', (w.after c db r).held c' = some r' → r'.Fits e.schema ∧
      e.Follows version (db e.storageName) r' (Event.unseen e c' trace) := by
    intro c' r' held
    by_cases same : c' = c
    · subst same
      rw [held_after_self] at held
      exact own r' held
    · rw [held_after_of_ne w same] at held
      exact others c' same r' held
  exact ⟨table, fun c' r' held => (each c' r' held).1, fun c' r' held => (each c' r' held).2⟩

/-- After a call that is no update by which others fall behind, only its client has to be looked
at. -/
theorem World.Tracked.after (h : w.Tracked e version trace) {c : ι} {db : Database}
    {r : Option Record} (rows : (db e.storageName).Sublist (w.store e.storageName))
    (others : ∀ c', c' ≠ c → ev.refreshes c' = false) (none : ∀ keys, ev.updates e keys = false)
    (own : ∀ r', r = some r' → r'.Fits e.schema ∧
      e.Follows version (db e.storageName) r' (Event.unseen e c (ev :: trace))) :
    (w.after c db r).Tracked e version (ev :: trace) := by
  apply tracked_after (h.table.sublist rows) own
  intro c' ne r' held
  rw [Event.unseen_eq (others c' ne) none]
  exact ⟨h.fits c' r' held, (h.follows c' r' held).subset rows.subset⟩

variable (lock : Versioned reg hooks e version)
include lock

private theorem tracked_of_reload (unshadowed : e.Unshadowed) (h : w.Tracked e version trace)
    {c : ι} {probe : Record} {db : Database} {result : Except Error (Option Record)}
    (schema : probe.schema = e.schema)
    (run : d.database.reload reg probe w.store = ⟨probe, db, result⟩) :
    (w.after c db (result.toOption.join <|> w.held c)).Tracked e version
      (.reload c result.toOption.join.isSome :: trace) := by
  obtain ⟨result', eq, back⟩ := lock.reload_cases d unshadowed schema h.table
  rw [eq, Run.mk.injEq] at run
  obtain ⟨-, rfl, rfl⟩ := run
  apply h.after (List.Sublist.refl _)
  · intro c' ne
    simp [Event.refreshes, ne.symm]
  · exact fun keys => rfl
  · intro r held
    cases found : result'.toOption.join with
    | none =>
      have kept : w.held c = some r := by simpa [found] using held
      refine ⟨h.fits c r kept, ?_⟩
      rw [Event.unseen_eq rfl fun _ => rfl]
      exact h.follows c r kept
    | some record =>
      obtain rfl : record = r := by simpa [found] using held
      have ok : result' = .ok (some record) := by
        cases result' with
        | error err => simp [Except.toOption] at found
        | ok answer => simpa [Except.toOption] using found
      obtain ⟨fits, row, mem, cells⟩ := back record ok
      have seen : Event.unseen e c (.reload c (some record).isSome :: trace) = fun _ => 0 := by
        funext keys
        exact Event.unseen_of_refreshes (by simp [Event.refreshes]) trace keys
      rw [seen]
      exact ⟨fits, .of_row h.table fits mem (lock.mem_lockColumns.2 (.inr rfl)) cells⟩

private theorem tracked_of_edit (h : w.Tracked e version trace) {c : ι} {r r' : Record}
    (held : w.held c = some r) (retains : e.Retains r r') :
    (w.after c w.store (some r')).Tracked e version (.edit c :: trace) := by
  apply h.after (List.Sublist.refl _)
  · exact fun _ _ => rfl
  · exact fun _ => rfl
  · rintro r'' ⟨⟩
    rw [Event.unseen_eq rfl fun _ => rfl]
    exact ⟨retains.1, (h.follows c r held).retains (h.fits c r held)
      (lock.mem_lockColumns.2 (.inr rfl)) retains⟩

private theorem tracked_of_update (h : w.Tracked e version trace) {c : ι} {r r' : Record}
    {db : Database} {result : Except Error Outcome} (held : w.held c = some r)
    (run : d.database.update reg hooks r w.store = ⟨r', db, result⟩) :
    (w.after c db (some r')).Tracked e version (.update c r result.isOk :: trace) := by
  have fits := h.fits c r held
  rcases lock.update_cases d fits h.table with
    ⟨err, record, eq, retains, -⟩ | ⟨outcome, record, db', keys, current, next, eq, updated⟩
  · rw [eq, Run.mk.injEq] at run
    obtain ⟨rfl, rfl, rfl⟩ := run
    apply h.after (List.Sublist.refl _)
    · exact fun _ _ => rfl
    · exact fun _ => rfl
    · rintro r'' ⟨⟩
      rw [Event.unseen_eq rfl fun _ => rfl]
      exact ⟨retains.1, (h.follows c r held).retains fits
        (lock.mem_lockColumns.2 (.inr rfl)) retains⟩
  · rw [eq, Run.mk.injEq] at run
    obtain ⟨rfl, rfl, rfl⟩ := run
    apply World.tracked_after (updated.isTable h.table)
    · rintro r'' ⟨⟩
      have seen : Event.unseen e c (.update c r true :: trace) = fun _ => 0 := by
        funext keys
        exact Event.unseen_of_refreshes (by simp [Event.refreshes]) trace keys
      exact ⟨updated.fits, seen ▸ updated.follows h.table⟩
    · intro c' ne r'' held'
      have behind := updated.follows_of_follows h.table (h.follows c r held)
        (h.follows c' r'' held')
      have count : Event.unseen e c' (.update c r true :: trace) = fun keys' =>
          Event.unseen e c' trace keys' + if sameKeys keys' keys then 1 else 0 := by
        funext keys'
        rw [Event.unseen_of_not_refreshes (by simp [Event.refreshes, ne.symm])]
        simp [Event.updates, updated.key, Except.toOption]
      exact ⟨h.fits c' r'' held', count ▸ behind⟩

private theorem tracked_of_delete (h : w.Tracked e version trace) {c : ι} {r r' : Record}
    {db : Database} {result : Except Error Outcome} (held : w.held c = some r)
    (run : d.database.delete reg r w.store = ⟨r', db, result⟩) :
    (w.after c db (some r')).Tracked e version (.delete c r result.isOk :: trace) := by
  have fits := h.fits c r held
  have rows : (db e.storageName).Sublist (w.store e.storageName) ∧ r' = r := by
    rcases lock.delete_cases d fits h.table with
      ⟨err, eq, -⟩ | ⟨outcome, db', keys, current, eq, deleted⟩
    · rw [eq, Run.mk.injEq] at run
      obtain ⟨rfl, rfl, -⟩ := run
      exact ⟨List.Sublist.refl _, rfl⟩
    · rw [eq, Run.mk.injEq] at run
      obtain ⟨rfl, rfl, -⟩ := run
      exact ⟨deleted.sublist, rfl⟩
  obtain ⟨rows, rfl⟩ := rows
  apply h.after rows
  · exact fun _ _ => rfl
  · exact fun _ => rfl
  · rintro r'' ⟨⟩
    rw [Event.unseen_eq rfl fun _ => rfl]
    exact ⟨fits, (h.follows c r' held).subset rows.subset⟩

/-- One step keeps the records behind their rows by the updates that are unseen. -/
theorem Step.tracked (unshadowed : e.Unshadowed) (h : w.Tracked e version trace)
    (step : Step d reg hooks e w ev w') : w'.Tracked e version (ev :: trace) := by
  cases step with
  | reload schema run => exact tracked_of_reload lock unshadowed h schema run
  | edit held retains => exact tracked_of_edit lock h held retains
  | update held run => exact tracked_of_update lock h held run
  | delete held run => exact tracked_of_delete lock h held run

/-- So does a run from a table of which no client has a record yet. -/
theorem Runs.tracked (unshadowed : e.Unshadowed) (table : e.IsTable (start.store e.storageName))
    (fresh : ∀ c, start.held c = none) (runs : Runs d reg hooks e start trace w) :
    w.Tracked e version trace := by
  induction runs with
  | nil => exact ⟨table, by simp [fresh], by simp [fresh]⟩
  | step _ step ih => exact step.tracked lock unshadowed ih

end Runs

/-- The row of a key has the version, and no update of it has succeeded since the client last
reloaded its record or updated the row from it. -/
structure World.UpToDate {ι : Type} [DecidableEq ι] (e : Entity) (version : String)
    (trace : List (Event ι)) (w : World ι) (c : ι) (keys : List Value) (current : Value) :
    Prop where
  version : ∀ row ∈ w.store e.storageName, e.hasKey keys row = true →
    row.cell? version = some current
  seen : ∀ ev ∈ Event.since c trace, ev.updates e keys = false

section Runs

variable {ι : Type} [DecidableEq ι] {reg : Registry} {hooks : Hooks} {e : Entity}
  {version : String} {start w : World ι} {trace : List (Event ι)}

/-- A client whose version is in the row of its record is up to date. -/
theorem World.Tracked.upToDate (h : w.Tracked e version trace) {c : ι} {r : Record}
    (holds : w.held c = some r) {keys : List Value} {current : Value}
    (key : e.keyValues r = .ok keys) (held : r.column? version = some current) {row : Row}
    (mem : row ∈ w.store e.storageName) (hasKey : e.hasKey keys row = true)
    (has : row.has version current = true) : w.UpToDate e version trace c keys current := by
  obtain ⟨unseen, cell⟩ := (h.follows c r holds).eq_zero key held mem hasKey has
  refine ⟨?_, ?_⟩
  · intro y hy hasKey'
    obtain rfl := h.table.eq_of_hasKey (Entity.length_keyValues key) hy mem hasKey' hasKey
    exact cell
  · intro ev hev
    simpa using List.countP_eq_zero.1 unseen ev hev

/-- Along every run, an update or deletion that succeeds is of a client that is up to date: it acts
on the row that has the version of the record, and an update advances both by one. One that fails
leaves everything stored as it was. -/
theorem Runs.overwrites_nothing_unseen (d : Dialect) (lock : Versioned reg hooks e version)
    (unshadowed : e.Unshadowed) (table : e.IsTable (start.store e.storageName))
    (fresh : ∀ c, start.held c = none) (runs : Runs d reg hooks e start trace w) {c : ι}
    {r : Record} (held : w.held c = some r) :
    (∀ run, d.database.update reg hooks r w.store = run →
      (∃ err, run.result = .error err ∧
        (err = .conflict ∨ (reg.updateById hooks r).2 = .error err) ∧
        e.Retains r run.record ∧ run.store = w.store) ∨
      ∃ outcome keys current next, run.result = .ok outcome ∧
        e.Updated version keys current next r run.record w.store run.store ∧
        w.UpToDate e version trace c keys current) ∧
    (∀ run, d.database.delete reg r w.store = run →
      (∃ err, run.result = .error err ∧ (err = .conflict ∨ reg.deleteById r = .error err) ∧
        run.record = r ∧ run.store = w.store) ∨
      ∃ outcome keys current, run.result = .ok outcome ∧ run.record = r ∧
        e.Deleted version keys current r w.store run.store ∧
        w.UpToDate e version trace c keys current) := by
  have tracked := runs.tracked lock unshadowed table fresh
  have fits := tracked.fits c r held
  constructor
  · rintro run rfl
    rcases lock.update_cases d fits tracked.table with
      ⟨err, record, eq, retains, report⟩ | ⟨outcome, record, db, keys, current, next, eq, updated⟩
    · rw [eq]
      exact .inl ⟨err, rfl, report, retains, rfl⟩
    · obtain ⟨before, row, row', after, rows, -, key, has, -⟩ := updated.row
      have mem : row ∈ w.store e.storageName := by simp [rows]
      rw [eq]
      exact .inr ⟨outcome, keys, current, next, rfl, updated,
        tracked.upToDate held updated.key updated.held mem key has⟩
  · rintro run rfl
    rcases lock.delete_cases d fits tracked.table with
      ⟨err, eq, report⟩ | ⟨outcome, db, keys, current, eq, deleted⟩
    · rw [eq]
      exact .inl ⟨err, rfl, report, rfl, rfl⟩
    · obtain ⟨before, row, after, rows, -, key, has⟩ := deleted.row
      have mem : row ∈ w.store e.storageName := by simp [rows]
      rw [eq]
      exact .inr ⟨outcome, keys, current, rfl, rfl, deleted,
        tracked.upToDate held deleted.key deleted.held mem key has⟩

end Runs

/-! ## A column that shadows the version -/

/-- Accounts have a version and one other number, in a column of the given name. -/
private def accounts (column : String) : Entity where
  name := "account"
  storageName := "account"
  schema := ⟨⟨0, "Account"⟩, [⟨"id", some "id", "pk", .scalar ⟨.string, false⟩, false⟩,
    ⟨"x", some column, "", .scalar ⟨.int .int64, false⟩, false⟩,
    ⟨"version", some "version", "version", .scalar ⟨.int .int64, false⟩, false⟩]⟩
  keyColumns := ["id"]
  versionColumn := some "version"

private def bank (column : String) : Registry := ⟨[accounts column]⟩

private def integer (n : Int) : Value := .int .int64 (Bounded.ofInt? .int64 n)

/-- The record of the only account. -/
private def account (column : String) (x version : Int) : Record :=
  ⟨(accounts column).schema,
    [.scalar (.ofString "k"), .scalar (integer x), .scalar (integer version)]⟩

private def accountRow (column : String) (x version : Int) : Row :=
  ⟨[("id", .ofString "k"), (column, integer x), ("version", integer version)]⟩

private def find (column : String) : Query :=
  (accounts column).select ((accounts column).keyFilter [.ofString "k"])

private def write (column : String) (x version next : Int) : Query :=
  .update "account" [(column, integer x), ("version", integer next)]
    ((accounts column).keyFilter [.ofString "k"] ++ [.eq "version" (integer version)])

private theorem versioned_accounts {column : String} (distinct : (accounts column).columns.Nodup) :
    Versioned (bank column) {} (accounts column) "version" where
  parsed := ⟨(accounts column).schema, some "account", accounts column, id, rfl, rfl⟩
  registered := rfl
  version := rfl
  distinct := distinct
  hook := fun _ fits => .refl fits

private theorem reload_account {column : String} {db : Database} {r : Record}
    (distinct : (accounts column).columns.Nodup)
    (built : (bank column).selectById (account column 0 0) = .ok (find column))
    (read : ((find column).answer db).map ((accounts column).schema.fromRow ·) = [.ok r]) :
    Dialect.sqlite.database.reload (bank column) (account column 0 0) db =
      ⟨account column 0 0, db, .ok (some r)⟩ := by
  have mem := (versioned_accounts distinct).version_mem.1
  have schema : (account column 0 0).schema = (accounts column).schema := rfl
  obtain ⟨row, rest, answer, first, -⟩ := List.map_eq_cons_iff.1 read
  rw [Dialect.reload_eq _ built (Entity.isFull_select (List.ne_nil_of_mem mem) _), answer, schema]
  simp only [first, Except.map]

private theorem update_account {column : String} {db db' : Database} {x version next : Int}
    (built : (bank column).updateById {} (account column x version) =
      (account column x version, .ok (write column x version next)))
    (written : (write column x version next).write db = ({ affected := 1 }, db'))
    (advanced : (accounts column).advanceVersion (account column x version) =
      .ok (account column x next)) :
    Dialect.sqlite.database.update (bank column) {} (account column x version) db =
      ⟨account column x next, db', .ok { affected := 1 }⟩ := by
  have full : (write column x version next).IsFull := by
    refine ⟨by simp, ?_⟩
    exact Entity.isFull_rowFilter [.ofString "k"] [("version", integer version)]
  have registered : (bank column).ofType? (account column x version).type =
    some (accounts column) := rfl
  rw [Dialect.update_eq _ registered built full, written]
  simp [Outcome.expectOneRow, advanced]

/-- The number is in no column that answers to the name of another: a client reloads the account
and updates it. -/
theorem overwrites_nothing_unseen_in_a_bank :
    let before : Database := fun _ => [accountRow "x" 5 7]
    let after := before.set "account" [accountRow "x" 5 8]
    ∃ w : World Bool, Runs .sqlite (bank "x") {} (accounts "x") ⟨before, fun _ => none⟩
        [.reload true true] w ∧
      w.held true = some (account "x" 5 7) ∧
      ∃ keys current next, (accounts "x").Updated "version" keys current next (account "x" 5 7)
          (account "x" 5 8) w.store after ∧
        w.UpToDate (accounts "x") "version" [.reload true true] true keys current := by
  intro before after
  have distinct : (accounts "x").columns.Nodup := by decide
  have unshadowed : (accounts "x").Unshadowed := by
    unfold Entity.Unshadowed
    decide
  have reloaded : Dialect.sqlite.database.reload (bank "x") (account "x" 0 0) before =
      ⟨account "x" 0 0, before, .ok (some (account "x" 5 7))⟩ :=
    reload_account distinct rfl rfl
  have updated : Dialect.sqlite.database.update (bank "x") {} (account "x" 5 7) before =
      ⟨account "x" 5 8, after, .ok { affected := 1 }⟩ :=
    update_account rfl rfl rfl
  have run₀ : Runs .sqlite (bank "x") {} (accounts "x")
      (⟨before, fun _ => none⟩ : World Bool) [] ⟨before, fun _ => none⟩ := .nil
  have run₁ := run₀.step (.reload (c := true) rfl reloaded)
  refine ⟨_, run₁, rfl, ?_⟩
  obtain ⟨err, failed, -⟩ | ⟨outcome, keys, current, next, -, row, upToDate⟩ :=
    (Runs.overwrites_nothing_unseen (c := true) (r := account "x" 5 7) .sqlite
      (versioned_accounts distinct) unshadowed ⟨by decide, by decide⟩ (fun _ => rfl) run₁
      rfl).1 _ updated
  · simp at failed
  · exact ⟨keys, current, next, row, upToDate⟩

private theorem distinct_shadowed : (accounts "a.version").columns.Nodup := by decide

/-- A column that answers to the name of the version and precedes it is read in its place. The first
client updates an account twice, so that the column holds the version after the first update. The
second client reloads in between, and still overwrites the second update. -/
theorem overwrites_unseen_of_shadowed :
    let e := accounts "a.version"
    let rows := [accountRow "a.version" 7 7]
    Versioned (bank "a.version") {} e "version" ∧ e.IsTable rows ∧
      ∃ (trace : List (Event Bool)) (w : World Bool) (r : Record) (keys : List Value),
        Runs .sqlite (bank "a.version") {} e ⟨fun _ => rows, fun _ => none⟩ trace w ∧
        w.held true = some r ∧ e.keyValues r = .ok keys ∧
        (Dialect.sqlite.database.update (bank "a.version") {} r w.store).result.isOk = true ∧
        ∃ ev ∈ Event.since true trace, ev.updates e keys = true := by
  intro e rows
  let stored₀ : Database := fun _ => rows
  let stored₁ := stored₀.set "account" [accountRow "a.version" 9 8]
  let stored₂ := stored₁.set "account" [accountRow "a.version" 9 9]
  have reload₁ : Dialect.sqlite.database.reload (bank "a.version") (account "a.version" 0 0)
      stored₀ = ⟨account "a.version" 0 0, stored₀, .ok (some (account "a.version" 7 7))⟩ :=
    reload_account distinct_shadowed rfl rfl
  have edit : e.Retains (account "a.version" 7 7) (account "a.version" 9 7) := by
    refine ⟨⟨rfl, rfl, rfl, rfl, trivial⟩, ?_⟩
    intro c hc
    rcases List.mem_pair.1 hc with rfl | rfl <;> rfl
  have update₁ : Dialect.sqlite.database.update (bank "a.version") {} (account "a.version" 9 7)
      stored₀ = ⟨account "a.version" 9 8, stored₁, .ok { affected := 1 }⟩ :=
    update_account rfl rfl rfl
  have reload₂ : Dialect.sqlite.database.reload (bank "a.version") (account "a.version" 0 0)
      stored₁ = ⟨account "a.version" 0 0, stored₁, .ok (some (account "a.version" 9 9))⟩ :=
    reload_account distinct_shadowed rfl rfl
  have update₂ : Dialect.sqlite.database.update (bank "a.version") {} (account "a.version" 9 8)
      stored₁ = ⟨account "a.version" 9 9, stored₂, .ok { affected := 1 }⟩ :=
    update_account rfl rfl rfl
  have update₃ : Dialect.sqlite.database.update (bank "a.version") {} (account "a.version" 9 9)
      stored₂ = ⟨account "a.version" 9 10, stored₂.set "account" [accountRow "a.version" 9 10],
        .ok { affected := 1 }⟩ :=
    update_account rfl rfl rfl
  have run₀ : Runs .sqlite (bank "a.version") {} e (⟨stored₀, fun _ => none⟩ : World Bool) []
      ⟨stored₀, fun _ => none⟩ := .nil
  have run₁ := run₀.step (.reload (c := false) rfl reload₁)
  have run₂ := run₁.step (.edit (c := false) rfl edit)
  have run₃ := run₂.step (.update (c := false) rfl update₁)
  have run₄ := run₃.step (.reload (c := true) rfl reload₂)
  have run₅ := run₄.step (.update (c := false) rfl update₂)
  refine ⟨versioned_accounts distinct_shadowed, ⟨by decide, by decide⟩, _, _,
    account "a.version" 9 9, [.ofString "k"], run₅, rfl, rfl, ?_, ?_⟩
  · exact congrArg (·.result.isOk) update₃
  · exact ⟨.update false (account "a.version" 9 8) true, List.mem_cons_self, by decide⟩

end EntityMap
