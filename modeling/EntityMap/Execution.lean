import EntityMap.Statement.Keyed
import EntityMap.Statement.Reconciliation

/-!
# Running statements

An executor runs statements against a store; what the store is, is left open. The operations
below build a statement, run it, and apply the outcome to the record. They answer with the record
and the store as they are afterwards, also when they fail.
-/

namespace EntityMap

open Sql

/-- What a store reports about a write. -/
structure Outcome where
  /-- How many rows it affected. -/
  affected : Nat := 0
  /-- The key that the store assigned to the last new row. -/
  insertId : Option (Bounded .int64) := none
  deriving DecidableEq, Repr

/-- Exactly one row was affected; otherwise the row is gone or has another version. -/
def Outcome.expectOneRow (o : Outcome) : Except Error Outcome :=
  if o.affected = 1 then .ok o else .error .conflict

/-- The outcome is handed on just if it is of one row. -/
theorem Outcome.expectOneRow_eq_ok_iff {o p : Outcome} :
    o.expectOneRow = .ok p ↔ o.affected = 1 ∧ p = o := by
  unfold expectOneRow
  split <;> simp_all [eq_comm]

/-- Runs statements against a store of type `σ`. -/
structure Executor (σ : Type) where
  /-- Runs a statement that writes. -/
  execute : Query → σ → Except Error Outcome × σ
  /-- Runs a selection. -/
  queryAll : Query → σ → Except Error (List Row) × σ

/-- What an operation leaves behind: the record, the store, and a result or an error. -/
structure Run (σ α : Type) where
  record : Record
  store : σ
  result : Except Error α

/-- Runs a statement if there is one; otherwise nothing is affected. -/
def executeOptional {σ α : Type} (execute : α → σ → Except Error Outcome × σ)
    (statement : Option α) (store : σ) : Except Error Outcome × σ :=
  match statement with
  | some q => execute q store
  | none => (.ok {}, store)

namespace Entity

/--
The record with the key that the store assigned, in a field of 64 or else of 32 bits. Keys that
the store does not generate are left alone, and so is the record if the store reports no key.
-/
def applyInsertId (e : Entity) (r : Record) (o : Outcome) : Except Error Record :=
  if !e.keyGenerated then .ok r
  else
    match e.keyColumns with
    | [key] =>
      match o.insertId with
      | none => .ok r
      | some id =>
        match e.schema.locateColumn? key with
        | none => .error (.shape (.noKeyColumn key e.name))
        | some l =>
          match r.write l (.int .int64 (some id)) with
          | .error (.decode _ _) =>
            match Bounded.ofInt? .int32 id.val with
            | some narrow => r.write l (.int .int32 (some narrow))
            | none => .error (.shape (.insertIdRange id.val key))
          | written => written
    | keys => .error (.shape (.severalGeneratedKeys e.name keys.length))

/--
Fills the empty texts among some key columns, `filled` having been filled so far. The new texts
come from a supply, by the number of those taken before.
-/
def fillKeys (supply : Nat → String) (e : Entity) :
    List String → Nat → Record → Record × Except Error Nat
  | [], filled, r => (r, .ok filled)
  | key :: rest, filled, r =>
    match e.columnValue r key with
    | .error err => (r, .error err)
    | .ok current =>
      if !current.isEmptyText then fillKeys supply e rest filled r
      else
        match e.schema.locateColumn? key with
        | none => (r, .error (.shape (.noColumn key e.type.name)))
        | some l =>
          match r.write l (.ofString (supply filled)) with
          | .error err => (r, .error err)
          | .ok r => fillKeys supply e rest (filled + 1) r

/-- Fills the empty texts of the key, unless the store generates keys; tells how many. -/
def generateKeys (supply : Nat → String) (e : Entity) (r : Record) : Record × Except Error Nat :=
  if e.keyGenerated then (r, .ok 0) else e.fillKeys supply e.keyColumns 0 r

/-- The record with the version after its current one, if the entity has versions. -/
def advanceVersion (e : Entity) (r : Record) : Except Error Record :=
  match e.versionColumn with
  | none => .ok r
  | some column => do
    let current ← e.columnValue r column
    let next ← nextVersion current
    match e.schema.locateColumn? column with
    | none => throw (.shape (.noColumn column e.type.name))
    | some l => r.write l next

end Entity

namespace Executor

variable {σ : Type} (ex : Executor σ) (reg : Registry) (hooks : Hooks)

/-- Inserts a record and gives it the key that the store assigned. -/
def insert (r : Record) (store : σ) : Run σ Outcome :=
  match reg.entityOf r.type with
  | .error err => ⟨r, store, .error err⟩
  | .ok e =>
    match reg.insert hooks r with
    | (r, .error err) => ⟨r, store, .error err⟩
    | (r, .ok query) =>
      match ex.execute query store with
      | (.error err, store) => ⟨r, store, .error err⟩
      | (.ok outcome, store) =>
        match e.applyInsertId r outcome with
        | .error err => ⟨r, store, .error err⟩
        | .ok r => ⟨r, store, .ok outcome⟩

/-- Updates the row of a record, which must still have its version, and advances the version. -/
def update (r : Record) (store : σ) : Run σ Outcome :=
  match reg.entityOf r.type with
  | .error err => ⟨r, store, .error err⟩
  | .ok e =>
    match reg.updateById hooks r with
    | (r, .error err) => ⟨r, store, .error err⟩
    | (r, .ok query) =>
      match ex.execute query store with
      | (.error err, store) => ⟨r, store, .error err⟩
      | (.ok outcome, store) =>
        match outcome.expectOneRow with
        | .error err => ⟨r, store, .error err⟩
        | .ok outcome =>
          match e.advanceVersion r with
          | .error err => ⟨r, store, .error err⟩
          | .ok r => ⟨r, store, .ok outcome⟩

/-- Deletes the row of a record, which must still have its version. -/
def delete (r : Record) (store : σ) : Run σ Outcome :=
  match reg.deleteById r with
  | .error err => ⟨r, store, .error err⟩
  | .ok query =>
    match ex.execute query store with
    | (.error err, store) => ⟨r, store, .error err⟩
    | (.ok outcome, store) => ⟨r, store, outcome.expectOneRow⟩

/-- Reads the row of a record again, as a new record; none if the row is gone. -/
def reload (r : Record) (store : σ) : Run σ (Option Record) :=
  match reg.selectById r with
  | .error err => ⟨r, store, .error err⟩
  | .ok query =>
    match ex.queryAll query store with
    | (.error err, store) => ⟨r, store, .error err⟩
    | (.ok [], store) => ⟨r, store, .ok none⟩
    | (.ok (row :: _), store) => ⟨r, store, (r.schema.fromRow row).map some⟩

/-- Loads a relation into its field, and tells how many rows there were. -/
def loadRelation (catalog : Catalog) (r : Record) (relation : String) (store : σ) : Run σ Nat :=
  match reg.selectRelationTarget r relation with
  | .error err => ⟨r, store, .error err⟩
  | .ok (query, locator, handle) =>
    match ex.queryAll query store with
    | (.error err, store) => ⟨r, store, .error err⟩
    | (.ok rows, store) =>
      match handle.fill catalog rows with
      | .error err => ⟨r, store, .error err⟩
      | .ok handle => ⟨r.putHandle locator handle, store, .ok rows.length⟩

/-- Makes a join table agree with the keys that a record lists: the deletion, then the insertion. -/
def syncRelation (r : Record) (relation : String) (store : σ) : Run σ Reconciliation :=
  match reg.reconcile r relation with
  | .error err => ⟨r, store, .error err⟩
  | .ok plan =>
    match ex.execute plan.delete store with
    | (.error err, store) => ⟨r, store, .error err⟩
    | (.ok _, store) =>
      match executeOptional ex.execute plan.insert store with
      | (.error err, store) => ⟨r, store, .error err⟩
      | (.ok _, store) => ⟨r, store, .ok plan⟩

end Executor

end EntityMap
