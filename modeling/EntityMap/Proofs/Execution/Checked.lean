import EntityMap.Proofs.Entity.Values
import EntityMap.Proofs.Execution.Calls
import EntityMap.Proofs.Statement.Keyed

/-!
# Updates of a record and of its row

After an update the record in memory is what the store was told. If the executor reported one row,
the update succeeds, and the record has the version that the statement set; in every other case it
fails, and the record is as its hook left it. Nothing that happens after the statement has run can
fail, since the version was read and advanced once before, when the statement was built. A hook may
change what a record holds, and not its type.
-/

namespace EntityMap

open Sql

variable {σ : Type} {reg : Registry} {hooks : Hooks} {e : Entity} {r : Record}

/-- What an update does, once its statement is built. -/
theorem Executor.update_eq (ex : Executor σ) (registered : reg.ofType? r.type = some e) {q : Query}
    (built : e.update (hooks.beforeUpdate r) = .ok q) (store : σ) :
    ex.update reg hooks r store =
      match (ex.execute q store).1.bind (·.expectOneRow) with
      | .error err => ⟨hooks.beforeUpdate r, (ex.execute q store).2, .error err⟩
      | .ok outcome =>
        match e.advanceVersion (hooks.beforeUpdate r) with
        | .error err => ⟨hooks.beforeUpdate r, (ex.execute q store).2, .error err⟩
        | .ok r => ⟨r, (ex.execute q store).2, .ok outcome⟩ := by
  simp only [update, Registry.entityOf_eq_ok_iff.2 registered,
    Registry.updateById_of_ofType? registered, built]
  rcases ex.execute q store with ⟨err | outcome, store⟩
  · rfl
  · cases one : outcome.expectOneRow with
    | error err => simp [Except.bind, one]
    | ok outcome =>
      cases e.advanceVersion (hooks.beforeUpdate r) <;> simp [Except.bind, one]

/-- A record from which the statement of an update was built takes the version that the statement
sets. -/
theorem Entity.advanceVersion_of_update (parsed : e.IsParsed) (distinct : e.columns.Nodup)
    (fits : r.Fits e.schema) {q : Query} (built : e.update r = .ok q) :
    ∃ r', e.advanceVersion r = .ok r' ∧
      (e.versionColumn = none → r' = r) ∧
      ∀ c, e.versionColumn = some c → ∃ l next, e.schema.locateColumn? c = some l ∧
        q.assigned c = [next] ∧ r.ChangedOnlyAt l next r' := by
  obtain ⟨assignments, keys, ha, -, ⟨none, -⟩ | ⟨c, current, next, marked, hv, step, rfl⟩⟩ :=
    Entity.update_eq_ok_iff.1 built
  · exact ⟨r, Entity.advanceVersion_of_none none r, fun _ => rfl, by simp [none]⟩
  · have held := (Entity.columnValue_eq_ok_iff fits).1 hv
    obtain ⟨mem, plain⟩ := parsed.version_mem distinct marked
    obtain ⟨l, r', located, advanced, changed⟩ :=
      Entity.advanceVersion_eq_ok fits marked held step
    refine ⟨r', advanced, by simp [marked], fun d hd => ?_⟩
    obtain rfl := Option.some.inj (marked.symm.trans hd)
    exact ⟨l, next, located, Entity.assigned_of_advanced ha distinct mem plain next _ _, changed⟩

/-- An update succeeds just if the executor was asked and reported one row. The record then has the
version that the statement set, and is otherwise as its hook left it; an update that fails leaves
all of it so. -/
theorem Executor.update_reflects_statement (ex : Executor σ) (parsed : e.IsParsed)
    (registered : reg.ofType? e.type = some e) (distinct : e.columns.Nodup)
    (hook : ∀ r, r.Fits e.schema → (hooks.beforeUpdate r).Fits e.schema)
    (fits : r.Fits e.schema) (store : σ) :
    let after := hooks.beforeUpdate r
    let run := ex.update reg hooks r store
    let noted := ex.noting.update reg hooks r (store, [])
    let notes := noted.store.2
    noted.forget = run ∧
    ((∃ q outcome, notes = [.write q (.ok outcome)] ∧ outcome.affected = 1 ∧
        run.result = .ok outcome ∧ (e.versionColumn = none → run.record = after) ∧
        ∀ c, e.versionColumn = some c → ∃ l next, e.schema.locateColumn? c = some l ∧
          q.assigned c = [next] ∧ after.ChangedOnlyAt l next run.record) ∨
      ((notes = [] ∨ ∃ q answer, notes = [.write q answer] ∧
          ∀ outcome, answer = .ok outcome → outcome.affected ≠ 1) ∧
        (∃ err, run.result = .error err) ∧ run.record = after)) := by
  intro after run noted notes
  refine ⟨ex.forget_noting_update reg hooks r store [], ?_⟩
  have ofType := Entity.ofType?_of_fits registered fits
  cases built : e.update after with
  | error err =>
    -- for every executor, as the one that takes notes has a store of another type
    have failed (σ : Type) (ex : Executor σ) (store : σ) :
        ex.update reg hooks r store = ⟨after, store, .error err⟩ := by
      simp only [update, Registry.entityOf_eq_ok_iff.2 ofType,
        Registry.updateById_of_ofType? ofType, built, after]
    exact .inr ⟨.inl (by simp only [notes, noted, failed]), ⟨err, by simp only [run, failed]⟩,
      by simp only [run, failed]⟩
  | ok q =>
    obtain ⟨r', advanced, unversioned, versioned⟩ :=
      Entity.advanceVersion_of_update parsed distinct (hook r fits) built
    simp only [run, notes, noted, update_eq _ ofType built, execute_noting]
    cases (ex.execute q store).1 with
    | error err =>
      simp only [Except.bind]
      exact .inr ⟨.inr ⟨q, .error err, rfl, by simp⟩, ⟨err, rfl⟩, rfl⟩
    | ok outcome =>
      -- one row is the only answer after which the version is advanced again
      by_cases one : outcome.affected = 1
      · have expected := Outcome.expectOneRow_eq_ok_iff.2 ⟨one, rfl⟩
        simp only [Except.bind, expected, advanced]
        exact .inl ⟨q, outcome, rfl, one, rfl, unversioned, versioned⟩
      · simp only [Except.bind, Outcome.expectOneRow, one, if_false]
        exact .inr ⟨.inr ⟨q, .ok outcome, rfl, by rintro _ ⟨⟩; exact one⟩, ⟨_, rfl⟩, rfl⟩

private def revisions : Schema :=
  ⟨⟨1, "Revision"⟩,
    [⟨"version", some "version", "version", .scalar ⟨.int .uint8, false⟩, false⟩]⟩

/-- Notes have a text, and a version in the record of their revision. -/
private def notes : Entity where
  name := "note"
  storageName := "note"
  schema := ⟨⟨0, "Note"⟩, [⟨"id", some "id", "pk", .scalar ⟨.string, false⟩, false⟩,
    ⟨"text", some "text", "", .scalar ⟨.string, false⟩, false⟩,
    ⟨"revision", none, "", .flatten revisions, false⟩]⟩
  keyColumns := ["id"]
  versionColumn := some "version"

private def shelf : Registry := ⟨[notes]⟩

private def revision (n : Int) : Value := .int .uint8 (Bounded.ofInt? .uint8 n)

private def note (text : String) (n : Int) : Record :=
  ⟨notes.schema, [.scalar (.ofString "k"), .scalar (.ofString text),
    .embedded ⟨revisions, [.scalar (revision n)]⟩]⟩

/-- Counts the statements, and reports one row for each. -/
private def counter : Executor Nat where
  execute _ n := (.ok { affected := 1 }, n + 1)
  queryAll _ n := (.ok [], n)

/-- The hook gives a note another text, and the update brings its version to the greatest one. -/
theorem update_of_a_note :
    let hooks : Hooks := { beforeUpdate := fun r => r.put 1 (.scalar (.ofString "b")) }
    let run := counter.update shelf hooks (note "a" 254) 0
    run.result = .ok { affected := 1 } ∧
      (note "b" 254).ChangedOnlyAt ⟨[2, 0]⟩ (revision 255) run.record := by
  intro hooks run
  have parsed : notes.IsParsed := ⟨some "note", notes, id, rfl, rfl⟩
  have registered : shelf.ofType? notes.type = some notes := rfl
  have hook (r : Record) (fits : r.Fits notes.schema) :
      (hooks.beforeUpdate r).Fits notes.schema :=
    fits.put (f := ⟨"text", some "text", "", .scalar ⟨.string, false⟩, false⟩) rfl rfl
  have fits : (note "a" 254).Fits notes.schema :=
    ⟨rfl, rfl, rfl, ⟨rfl, rfl, trivial⟩, trivial⟩
  have sent : (counter.noting.update shelf hooks (note "a" 254) (0, [])).store.2 =
      [.write (.update "note" [("text", .ofString "b"), ("version", revision 255)]
        [.eq "id" (.ofString "k"), .eq "version" (revision 254)]) (.ok { affected := 1 })] := rfl
  obtain ⟨-, ⟨q, outcome, noted, -, -, -, changed⟩ | ⟨-, ⟨err, failed⟩, -⟩⟩ :=
    counter.update_reflects_statement parsed registered (by decide) hook fits 0
  · obtain ⟨l, next, located, assigned, changed⟩ := changed "version" rfl
    obtain rfl : ⟨[2, 0]⟩ = l := Option.some.inj located
    rw [sent] at noted
    obtain rfl := (Exchange.write.inj (List.head_eq_of_cons_eq noted)).1
    obtain rfl : revision 255 = next := List.head_eq_of_cons_eq assigned
    exact ⟨rfl, changed⟩
  · have done : run.result = .ok { affected := 1 } := rfl
    rw [done] at failed
    simp at failed

end EntityMap
