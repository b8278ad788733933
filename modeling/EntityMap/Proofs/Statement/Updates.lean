import EntityMap.Proofs.Entity.Values
import EntityMap.Proofs.Statement.Addressing
import EntityMap.Proofs.Statement.Renaming

/-!
# What an update sets and what it is restricted to

An update sets every column that is no key column, and the key columns say which row is meant; so
each column is there once. Only the version is there twice: the row must have the version of the
record, and gets the one after it. The lists of columns and of values are put together apart, and
come out in step. An update is refused where there is nothing to set, or no version after the one
of the record, and nowhere else.
-/

namespace EntityMap

open Sql

/-! ## Versions that no version follows -/

/-- The value has no version after it. -/
inductive Value.EndsVersions : Value → Prop
  | null {v : Value} (null : v.isNull = true) : EndsVersions v
  | other {v : Value} (other : ∀ k, v.variant ≠ .int k) : EndsVersions v
  | greatest {k : IntKind} {n : Bounded k} (last : n.val = k.greatest) :
    EndsVersions (.int k (some n))

/-- The version after a value can be told just if the value does not end the versions. -/
theorem exists_nextVersion_iff {v : Value} : (∃ w, nextVersion v = .ok w) ↔ ¬ v.EndsVersions := by
  constructor
  · rintro ⟨w, step⟩ ends
    obtain ⟨k, m, n, rfl, rfl, after⟩ := nextVersion_eq_ok_iff.1 step
    cases ends with
    | null null => simp [Value.isNull] at null
    | other other => exact other k rfl
    | greatest last =>
      have bound := n.le_greatest
      omega
  · intro goesOn
    cases v with
    | int k content =>
      cases content with
      | none => exact absurd (.null rfl) goesOn
      | some m =>
        cases next : m.next? with
        | none => exact absurd (.greatest (Bounded.next?_eq_none_iff.1 next)) goesOn
        | some n =>
          exact ⟨_, nextVersion_eq_ok_iff.2 ⟨k, m, n, rfl, rfl, Bounded.next?_eq_some_iff.1 next⟩⟩
    | _ => exact absurd (.other (by simp [Value.variant])) goesOn

/-! ## Columns with their values -/

section Lists

variable {α β : Type} {R S : α → β → Prop} {xs : List α} {pairs : List (α × β)}

/-- A list of pairs is the list of the first parts with that of the second parts. -/
theorem exists_zip_of_forall₂ (h : List.Forall₂ (fun x p => ∃ y, R x y ∧ (x, y) = p) xs pairs) :
    ∃ ys, pairs = xs.zip ys ∧ List.Forall₂ R xs ys := by
  induction h with
  | nil => exact ⟨[], rfl, .nil⟩
  | cons here _ ih =>
    obtain ⟨y, hy, rfl⟩ := here
    obtain ⟨ys, rfl, later⟩ := ih
    exact ⟨y :: ys, rfl, .cons hy later⟩

/-- Where the second part of some pairs is another one, the first parts stay. -/
theorem exists_zip_map_of_forall₂ {ys : List β} {f : α × β → α × β} (h : List.Forall₂ R xs ys)
    (step : ∀ x y, R x y → ∃ z, f (x, y) = (x, z) ∧ S x z) :
    ∃ zs, (xs.zip ys).map f = xs.zip zs ∧ List.Forall₂ S xs zs := by
  induction h with
  | nil => exact ⟨[], rfl, .nil⟩
  | cons here _ ih =>
    obtain ⟨z, same, hz⟩ := step _ _ here
    obtain ⟨zs, rest, later⟩ := ih
    exact ⟨z :: zs, by simp only [List.zip_cons_cons, List.map_cons, same, rest], .cons hz later⟩

end Lists

/-- Equalities bind the values that columns must have, one after the other. -/
theorem values_zipWith_eq {columns : List String} {pins : List Value}
    (length : columns.length = pins.length) :
    (List.zipWith Predicate.eq columns pins).flatMap (fun p => values p.pieces) = pins := by
  induction pins generalizing columns with
  | nil => simp
  | cons v rest ih =>
    cases columns with
    | nil => simp at length
    | cons c columns =>
      rw [List.zipWith_cons_cons, List.flatMap_cons, ih (Nat.succ.inj length)]
      rfl

/-! ## Updates -/

/-- The value that an update sets a column to: what the record holds there, and for the version the
integer after it, of the same type. -/
inductive Entity.Sets (e : Entity) (r : Record) : String → Value → Prop
  | held {c : String} {v : Value} (plain : e.versionColumn ≠ some c)
    (held : r.column? c = some v) : Sets e r c v
  | advanced {c : String} {k : IntKind} {m n : Bounded k} (version : e.versionColumn = some c)
    (held : r.column? c = some (.int k (some m))) (next : n.val = m.val + 1) :
    Sets e r c (.int k (some n))

namespace Entity

variable {e : Entity} {r : Record} {q : Query}

/-- An update is built just if there is something to set, and a version after that of the record. -/
theorem exists_update_iff (parsed : e.IsParsed) (derived : e.schema.Derived)
    (distinct : e.columns.Nodup) (fits : r.Fits e.schema) :
    (∃ q, e.update r = .ok q) ↔ e.plainColumns ≠ [] ∧
      ∀ c v, e.versionColumn = some c → r.column? c = some v → ¬ v.EndsVersions := by
  constructor
  · rintro ⟨q, built⟩
    obtain ⟨assignments, keys, ha, -, version⟩ := update_eq_ok_iff.1 built
    have nonempty := (assignments_eq_ok_iff.1 ha).1
    rw [← columns_of_assignments ha, Ne, List.map_eq_nil_iff]
    refine ⟨nonempty, fun c v marked held => ?_⟩
    rcases version with ⟨none, -⟩ | ⟨c', current, next, marked', value, step, -⟩
    · simp [none] at marked
    · obtain rfl := Option.some.inj (marked.symm.trans marked')
      obtain rfl := Option.some.inj (held.symm.trans ((columnValue_eq_ok_iff fits).1 value))
      exact exists_nextVersion_iff.1 ⟨next, step⟩
  · rintro ⟨some, goesOn⟩
    have stored {c : String} (hc : c ∈ e.columns) : ∃ v, r.column? c = .some v :=
      fits.exists_column? derived hc
    have assigned : ∀ c ∈ e.plainColumns, ∃ a, ∃ v, e.columnValue r c = .ok v ∧ (c, v) = a := by
      intro c hc
      obtain ⟨v, held⟩ := stored (List.mem_filter.1 hc).1
      exact ⟨_, v, (columnValue_eq_ok_iff fits).2 held, rfl⟩
    obtain ⟨assignments, all⟩ := exists_forall₂ assigned
    have nonempty : assignments ≠ [] := by
      rintro rfl
      exact some (List.forall₂_nil_right_iff.1 all)
    have ha := assignments_eq_ok_iff.2 ⟨nonempty, all⟩
    obtain ⟨keys, hk⟩ := exists_mapM_columnValue fits fun c hc =>
      stored (parsed.keyColumns_subset c hc)
    cases marked : e.versionColumn with
    | none => exact ⟨_, update_eq_ok_iff.2 ⟨assignments, keys, ha, hk, .inl ⟨marked, rfl⟩⟩⟩
    | some c =>
      obtain ⟨v, held⟩ := stored (parsed.version_mem distinct marked).1
      obtain ⟨next, step⟩ := exists_nextVersion_iff.2 (goesOn c v marked held)
      exact ⟨_, update_eq_ok_iff.2 ⟨assignments, keys, ha, hk,
        .inr ⟨c, v, next, marked, (columnValue_eq_ok_iff fits).2 held, step, rfl⟩⟩⟩

/-- An update that is built sets the columns that are no key columns, in their order, in the row
that has the key and the version of the record. -/
theorem update_eq_zip (fits : r.Fits e.schema) (built : e.update r = .ok q) :
    ∃ sets pins, q = .update e.storageName (e.plainColumns.zip sets)
        (List.zipWith Predicate.eq (e.keyColumns ++ e.versionColumn.toList) pins) ∧
      List.Forall₂ (e.Sets r) e.plainColumns sets ∧
      List.Forall₂ (fun c v => r.column? c = some v) (e.keyColumns ++ e.versionColumn.toList)
        pins := by
  obtain ⟨assignments, keys, ha, hk, version⟩ := update_eq_ok_iff.1 built
  obtain ⟨held, rfl, all⟩ := exists_zip_of_forall₂ (assignments_eq_ok_iff.1 ha).2
  have pinned := (keyValues_eq_ok_iff fits).1 hk
  rcases version with ⟨none, rfl⟩ | ⟨c, current, next, marked, value, step, rfl⟩
  · refine ⟨held, keys, ?_, ?_, ?_⟩
    · rw [keyFilter_eq_zipWith, none, Option.toList_none, List.append_nil]
    · exact all.imp fun c v h => .held (by simp [none]) ((columnValue_eq_ok_iff fits).1 h)
    · rwa [none, Option.toList_none, List.append_nil]
  · have version := (columnValue_eq_ok_iff fits).1 value
    obtain ⟨k, m, n, rfl, rfl, after⟩ := nextVersion_eq_ok_iff.1 step
    have advance : ∀ d v, e.columnValue r d = .ok v →
        ∃ w, (if d = c then (d, Value.int k (some n)) else (d, v)) = (d, w) ∧ e.Sets r d w := by
      intro d v h
      by_cases here : d = c
      · subst here
        exact ⟨_, if_pos rfl, .advanced marked version after⟩
      · exact ⟨v, if_neg here,
          .held (by simp [marked, Ne.symm here]) ((columnValue_eq_ok_iff fits).1 h)⟩
    obtain ⟨sets, advanced, each⟩ := exists_zip_map_of_forall₂
      (f := fun a => if a.1 = c then (a.1, .int k (some n)) else a) all advance
    refine ⟨sets, keys ++ [.int k (some m)], ?_, each, ?_⟩
    · rw [advanced, keyFilter_eq_zipWith, marked, Option.toList_some,
        List.zipWith_append pinned.length_eq]
      rfl
    · rw [marked, Option.toList_some]
      exact List.rel_append pinned (.cons version .nil)

end Entity

/-- An update binds what it sets before what it is restricted to. -/
theorem Sql.Query.params_render_update (d : Dialect) (table : String) {columns names : List String}
    {sets pins : List Value} (assigned : columns.length = sets.length)
    (pinned : names.length = pins.length) :
    (d.render (.update table (columns.zip sets) (List.zipWith Predicate.eq names pins))).params =
      sets ++ pins := by
  show values (Query.pieces d _) = _
  have bound (a : String × Value) : values [.name a.1, .word " = ", .value a.2] = [a.2] := rfl
  have begins : values [.word "UPDATE ", .name table, .word " SET "] = [] := rfl
  simp only [pieces, values_append, begins, values_separated, values_filterPieces,
    values_zipWith_eq pinned, List.flatMap_map, bound, List.nil_append]
  rw [← List.map_eq_flatMap, List.map_snd_zip assigned.ge]

/-- An update writes each column once, or is restricted to it: the columns that it sets are those
that are no key columns, in the order of declaration, and with the key columns they are all columns;
the row is told by the key, in the order of the key, and by the version. Each column gets the value
that the record has after its hook, but for the version, which gets its successor; the parameters
are these values, then those of the key, then the version of the record. The update is refused just
if there is nothing to set or the version of the record is the last, and that is a fault of shape. -/
theorem Registry.updateById_sets_or_pins {reg : Registry} {hooks : Hooks} {e : Entity} {r : Record}
    (parsed : e.IsParsed) (derived : e.schema.Derived) (distinct : e.columns.Nodup)
    (registered : reg.ofType? e.type = some e)
    (hook : ∀ r, r.Fits e.schema → (hooks.beforeUpdate r).Fits e.schema)
    (fits : r.Fits e.schema) :
    let after := hooks.beforeUpdate r
    let answer := reg.updateById hooks r
    answer.1 = after ∧
    (e.plainColumns ++ e.keyColumns).Perm e.columns ∧
    ((∃ err, answer.2 = .error err) ↔ e.plainColumns = [] ∨
      ∃ c v, e.versionColumn = some c ∧ after.column? c = some v ∧ v.EndsVersions) ∧
    (∀ err, answer.2 = .error err → ∃ fault, err = .shape fault) ∧
    ∀ q, answer.2 = .ok q → ∃ sets pins,
      q = .update e.storageName (e.plainColumns.zip sets)
        (List.zipWith Predicate.eq (e.keyColumns ++ e.versionColumn.toList) pins) ∧
      List.Forall₂ (e.Sets after) e.plainColumns sets ∧
      List.Forall₂ (fun c v => after.column? c = some v)
        (e.keyColumns ++ e.versionColumn.toList) pins ∧
      ∀ d : Dialect, (d.render q).params = sets ++ pins := by
  intro after answer
  have fits' : after.Fits e.schema := hook r fits
  have ofType := Entity.ofType?_of_fits registered fits
  have answered : answer = (after, e.update after) := Registry.updateById_of_ofType? ofType
  rw [answered]
  refine ⟨rfl, parsed.perm_columns distinct, ?_, fun err => Entity.exists_shape_of_update, ?_⟩
  · have failed : (∃ err, e.update after = .error err) ↔ ¬ ∃ q, e.update after = .ok q := by
      cases e.update after <;> simp
    rw [failed, Entity.exists_update_iff parsed derived distinct fits']
    grind
  · intro q built
    obtain ⟨sets, pins, rfl, assigned, pinned⟩ := Entity.update_eq_zip fits' built
    exact ⟨sets, pins, rfl, assigned, pinned, fun d =>
      Query.params_render_update d _ assigned.length_eq pinned.length_eq⟩

private def printings : Schema :=
  ⟨⟨1, "Printing"⟩, [⟨"place", some "place", "pk", .scalar ⟨.string, false⟩, false⟩,
    ⟨"run", some "run", "version", .scalar ⟨.int .int8, false⟩, false⟩]⟩

/-- Sheets have half of their key, and their version, in the record of their printing. -/
private def sheets : Entity where
  name := "sheet"
  storageName := "sheet"
  schema := ⟨⟨0, "Sheet"⟩, [⟨"title", some "title", "", .scalar ⟨.string, true⟩, false⟩,
    ⟨"printing", none, "", .flatten printings, false⟩,
    ⟨"number", some "number", "pk", .scalar ⟨.string, false⟩, false⟩]⟩
  keyColumns := ["place", "number"]
  versionColumn := some "run"

private def atlas : Registry := ⟨[sheets]⟩

private def run (n : Int) : Value := .int .int8 (Bounded.ofInt? .int8 n)

private def sheet (n : Int) : Record :=
  ⟨sheets.schema, [.scalar (.string none),
    .embedded ⟨printings, [.scalar (.ofString "x"), .scalar (run n)]⟩,
    .scalar (.ofString "1")]⟩

/-- A sheet gets the title of its hook and the next run, and its parameters come in that order; the
greatest run has no next. -/
theorem updateById_of_a_sheet :
    let hooks : Hooks := { beforeUpdate := fun r => r.put 0 (.scalar (.ofString "t")) }
    (∃ q, (atlas.updateById hooks (sheet 126)).2 = .ok q ∧
      q = .update "sheet" [("title", .ofString "t"), ("run", run 127)]
        [.eq "place" (.ofString "x"), .eq "number" (.ofString "1"), .eq "run" (run 126)] ∧
      (Dialect.sqlite.render q).params =
        [.ofString "t", run 127, .ofString "x", .ofString "1", run 126]) ∧
      ∃ fault, (atlas.updateById hooks (sheet 127)).2 = .error (.shape fault) := by
  intro hooks
  have parsed : sheets.IsParsed := ⟨some "sheet", sheets, id, rfl, rfl⟩
  have registered : atlas.ofType? sheets.type = some sheets := rfl
  have hook (r : Record) (fits : r.Fits sheets.schema) :
      (hooks.beforeUpdate r).Fits sheets.schema :=
    fits.put (f := ⟨"title", some "title", "", .scalar ⟨.string, true⟩, false⟩) rfl rfl
  have fits : (sheet 126).Fits sheets.schema := ⟨rfl, rfl, ⟨rfl, rfl, rfl, trivial⟩, rfl, trivial⟩
  have fits' : (sheet 127).Fits sheets.schema := ⟨rfl, rfl, ⟨rfl, rfl, rfl, trivial⟩, rfl, trivial⟩
  constructor
  · obtain ⟨-, -, -, -, built⟩ := Registry.updateById_sets_or_pins parsed (by decide) (by decide)
      registered hook fits
    have answered : (atlas.updateById hooks (sheet 126)).2 = .ok (.update "sheet"
      [("title", .ofString "t"), ("run", run 127)] [.eq "place" (.ofString "x"),
        .eq "number" (.ofString "1"), .eq "run" (run 126)]) := rfl
    obtain ⟨sets, pins, same, assigned, pinned, params⟩ := built _ answered
    obtain ⟨-, assignments, filter⟩ := Query.update.inj same
    obtain rfl : [.ofString "t", run 127] = sets := by
      rw [← List.map_snd_zip assigned.length_eq.ge, ← assignments]
      rfl
    obtain rfl : [.ofString "x", .ofString "1", run 126] = pins := by
      rw [← values_zipWith_eq pinned.length_eq, ← filter]
      rfl
    exact ⟨_, answered, rfl, params .sqlite⟩
  · obtain ⟨-, -, fails, shape, -⟩ := Registry.updateById_sets_or_pins parsed (by decide)
      (by decide) registered hook fits'
    obtain ⟨err, failed⟩ := fails.2 (.inr ⟨"run", run 127, rfl, rfl, .greatest rfl⟩)
    obtain ⟨fault, rfl⟩ := shape err failed
    exact ⟨fault, failed⟩

end EntityMap
