import EntityMap.Proofs.Entity.Parsed
import EntityMap.Proofs.Statement.Keyed
import EntityMap.Sql.Dialect

/-!
# What restricts a statement for a single row

The filter of such a statement is one equality for each key column, in the order of the key, and
after them at most the version. Parsing refuses an entity without a key, registration does not: an
entity registered without a key, and it alone, has statements that no key restricts.
-/

namespace EntityMap

open Sql

/-- A call that is answered with a statement for a single row. -/
inductive KeyedCall where
  | updateById (hooks : Hooks) (r : Record)
  | deleteById (r : Record)
  | deleteByKey (t : RecordType) (keys : List Value)
  | selectById (r : Record)
  | selectByKey (t : RecordType) (keys : List Value)

namespace KeyedCall

/-- What a registry answers. -/
def statement (reg : Registry) : KeyedCall → Except Error Query
  | updateById hooks r => (reg.updateById hooks r).2
  | deleteById r => reg.deleteById r
  | deleteByKey t keys => reg.deleteByKey t keys
  | selectById r => reg.selectById r
  | selectByKey t keys => reg.selectByKey t keys

/-- The type whose entity the statement is for. -/
def type : KeyedCall → RecordType
  | updateById _ r | deleteById r | selectById r => r.type
  | deleteByKey t _ | selectByKey t _ => t

/-- The key values that the row is to have. An update reads them after its hook. -/
def keys (e : Entity) : KeyedCall → Except Error (List Value)
  | updateById hooks r => e.keyValues (hooks.beforeUpdate r)
  | deleteById r | selectById r => e.keyValues r
  | deleteByKey _ keys | selectByKey _ keys => .ok keys

/-- The version that the row is to have, where the call asks for one. -/
def version (e : Entity) : KeyedCall → Except Error (List Predicate)
  | updateById hooks r => e.versionFilter (hooks.beforeUpdate r)
  | deleteById r => e.versionFilter r
  | deleteByKey .. | selectById _ | selectByKey .. => .ok []

end KeyedCall

/-- The filter on a key is an equality of each key column with the value at its place. -/
theorem Entity.keyFilter_eq_zipWith (e : Entity) (keys : List Value) :
    e.keyFilter keys = List.zipWith Predicate.eq e.keyColumns keys := by
  rw [Entity.keyFilter, List.zip, List.map_zipWith]

/-- A call that succeeds filters by the key and by the version, and by nothing else. -/
private theorem KeyedCall.filter_of_statement {reg : Registry} {call : KeyedCall} {q : Query}
    (ok : call.statement reg = .ok q) :
    ∃ e keys version, reg.ofType? call.type = some e ∧ call.keys e = .ok keys ∧
      call.version e = .ok version ∧ keys.length = e.keyColumns.length ∧
      q.filter = e.keyFilter keys ++ version := by
  cases call with
  | updateById hooks r =>
    obtain ⟨e, he, hu⟩ := Registry.updateById_eq_ok_iff.1 ok
    obtain ⟨assignments, keys, -, hk, ⟨hv, rfl⟩ | ⟨column, current, next, hv, hc, -, rfl⟩⟩ :=
      Entity.update_eq_ok_iff.1 hu
    · have none : e.versionFilter (hooks.beforeUpdate r) = .ok [] :=
        Entity.versionFilter_eq_ok_iff.2 (.inl ⟨hv, rfl⟩)
      exact ⟨e, keys, [], he, hk, none, Entity.length_keyValues hk, (List.append_nil _).symm⟩
    · have one : e.versionFilter (hooks.beforeUpdate r) = .ok [.eq column current] :=
        Entity.versionFilter_eq_ok_iff.2 (.inr ⟨column, current, hv, hc, rfl⟩)
      exact ⟨e, keys, _, he, hk, one, Entity.length_keyValues hk, rfl⟩
  | deleteById r =>
    obtain ⟨e, he, hd⟩ := Registry.deleteById_eq_ok_iff.1 ok
    obtain ⟨keys, version, hk, hv, rfl⟩ := Entity.delete_eq_ok_iff.1 hd
    exact ⟨e, keys, version, he, hk, hv, Entity.length_keyValues hk, rfl⟩
  | deleteByKey t keys =>
    obtain ⟨e, he, hk, rfl⟩ := Registry.deleteByKey_eq_ok_iff.1 ok
    exact ⟨e, keys, [], he, rfl, rfl, hk, (List.append_nil _).symm⟩
  | selectById r =>
    obtain ⟨e, keys, he, hk, rfl⟩ := Registry.selectById_eq_ok_iff.1 ok
    exact ⟨e, keys, [], he, hk, rfl, Entity.length_keyValues hk, (List.append_nil _).symm⟩
  | selectByKey t keys =>
    obtain ⟨e, he, hk, rfl⟩ := Registry.selectByKey_eq_ok_iff.1 ok
    exact ⟨e, keys, [], he, rfl, rfl, hk, (List.append_nil _).symm⟩

/-- There is an entity without a key just where one was registered as it stands. -/
private theorem keyless_iff_registered {h : List Change} {t : RecordType} {e : Entity}
    (he : (Registry.after h).ofType? t = some e) :
    e.keyColumns = [] ↔ ∃ earlier later e₀, h = earlier ++ .register e₀ :: later ∧ e₀.type = t ∧
      e₀.keyColumns = [] ∧ Undisplaced later e₀ := by
  constructor
  · intro keyless
    obtain ⟨mem, rfl⟩ := (distinct_after h).ofType?_eq_some_iff.1 he
    rw [entries_after, mem_standing_iff] at mem
    obtain ⟨earlier, c, later, e₀, rfl, hc, hu, rfl⟩ := mem
    have none : e₀.keyColumns = [] := keyless
    cases c with
    | register e =>
      obtain rfl := Option.some.inj hc
      exact ⟨earlier, later, e, rfl, rfl, none, hu⟩
    | parse s name =>
      cases hp : Entity.ofSchema? s name with
      | error fault => simp [Change.registered?, hp, Except.toOption] at hc
      | ok e =>
        have same : e = e₀ := by simpa [Change.registered?, hp, Except.toOption] using hc
        subst same
        exact absurd none (keyColumns_ne_nil_of_ofSchema? hp)
    | renameStorage f => simp [Change.registered?] at hc
    | configure settings => simp [Change.registered?] at hc
  · rintro ⟨earlier, later, e₀, rfl, rfl, none, hu⟩
    have found := @ofType?_after earlier later (.register e₀) e₀ rfl hu
    obtain rfl := Option.some.inj (he.symm.trans found)
    exact none

/-- A statement for a single row restricts every key column of its entity to the value at its
place, and besides at most the version. It restricts none just if the entity was registered
without a key and stands. -/
theorem filter_of_keyed_call (h : List Change) (call : KeyedCall) (q : Query)
    (ok : call.statement (Registry.after h) = .ok q) :
    ∃ e keys version, (Registry.after h).ofType? call.type = some e ∧ call.keys e = .ok keys ∧
      call.version e = .ok version ∧ keys.length = e.keyColumns.length ∧
      q.filter = List.zipWith Predicate.eq e.keyColumns keys ++ version ∧
      (List.zipWith Predicate.eq e.keyColumns keys = [] ↔
        ∃ earlier later e₀, h = earlier ++ .register e₀ :: later ∧ e₀.type = call.type ∧
          e₀.keyColumns = [] ∧ Undisplaced later e₀) := by
  obtain ⟨e, keys, version, he, hk, hv, length, filter⟩ := KeyedCall.filter_of_statement ok
  refine ⟨e, keys, version, he, hk, hv, length, ?_, ?_⟩
  · rw [filter, e.keyFilter_eq_zipWith]
  · rw [← keyless_iff_registered he, List.zipWith_eq_nil_iff]
    constructor
    · rintro (none | none)
      · exact none
      · rw [none, List.length_nil] at length
        exact List.eq_nil_of_length_eq_zero length.symm
    · exact .inl

/-- A record type whose rows have two columns. -/
private def pairs : Schema :=
  ⟨⟨0, "Pair"⟩, [⟨"a", some "a", "pk", .scalar ⟨.string, false⟩, false⟩,
    ⟨"b", some "b", "pk", .scalar ⟨.string, false⟩, false⟩]⟩

/-- Both columns of a key are restricted. -/
theorem filter_of_deletion_of_a_pair :
    let h : List Change := [.parse pairs (some "pair")]
    let call : KeyedCall := .deleteByKey pairs.type [.ofString "x", .ofString "y"]
    ∃ q, call.statement (Registry.after h) = .ok q ∧
      q.filter = [.eq "a" (.ofString "x"), .eq "b" (.ofString "y")] ∧
      ∃ e keys version, (Registry.after h).ofType? call.type = some e ∧ call.keys e = .ok keys ∧
        call.version e = .ok version ∧ keys.length = e.keyColumns.length ∧
        q.filter = List.zipWith Predicate.eq e.keyColumns keys ++ version ∧
        (List.zipWith Predicate.eq e.keyColumns keys = [] ↔
          ∃ earlier later e₀, h = earlier ++ .register e₀ :: later ∧ e₀.type = call.type ∧
            e₀.keyColumns = [] ∧ Undisplaced later e₀) := by
  intro h call
  have ok : call.statement (Registry.after h) =
      .ok (.delete "pair" [.eq "a" (.ofString "x"), .eq "b" (.ofString "y")]) := by decide
  exact ⟨_, ok, rfl, filter_of_keyed_call h call _ ok⟩

/-- An entity that was registered without a key has a deletion by its key that deletes every row. -/
theorem deletion_without_key :
    let log := Entity.ofSchema ⟨⟨0, "Log"⟩,
      [⟨"line", some "line", "", .scalar ⟨.string, false⟩, false⟩]⟩ "log"
    let call : KeyedCall := .deleteByKey log.type []
    (call.statement (Registry.after [.register log])).map (Dialect.sqlite.render ·) =
      .ok ⟨"DELETE FROM \"log\"", []⟩ := by
  decide

end EntityMap
