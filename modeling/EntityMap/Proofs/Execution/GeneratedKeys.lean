import EntityMap.Proofs.Entity.Described
import EntityMap.Proofs.Execution.Calls
import EntityMap.Proofs.Record.Writing
import EntityMap.Proofs.Statement.Insertion

/-!
# Keys that the store assigns

An insertion hands one statement to the executor, and then the key that the store reports to the
record. A single key column of 64 or 32 bits takes it, and nothing else of the record changes. Where
the key has several columns the row is stored all the same, and the insertion fails after that; the
record is then as its hook left it. A hook may change what a record holds, and not its type.
-/

namespace EntityMap

open Sql

variable {σ : Type} {reg : Registry} {hooks : Hooks} {e : Entity} {r : Record}

/-! ## Handing a key to a record -/

namespace Entity

variable {o : Outcome} {id : Bounded .int64}

/-- A key of several columns, or of none, takes no assigned value. -/
theorem applyInsertId_of_several (generated : e.keyGenerated = true)
    (several : e.keyColumns.length ≠ 1) (r : Record) (o : Outcome) :
    e.applyInsertId r o =
      .error (.shape (.severalGeneratedKeys e.name e.keyColumns.length)) := by
  match hk : e.keyColumns with
  | [key] => simp [hk] at several
  | [] | _ :: _ :: _ => simp [applyInsertId, generated, hk]

/-- What is tried when the store reports a key: a field of 64 bits, and then one of 32. -/
theorem applyInsertId_of_key (generated : e.keyGenerated = true) {key : String}
    (single : e.keyColumns = [key]) {l : Locator} (located : e.schema.locateColumn? key = some l)
    (reported : o.insertId = some id) (r : Record) :
    e.applyInsertId r o =
      match r.write l (.int .int64 (some id)) with
      | .error (.decode _ _) =>
        match Bounded.ofInt? .int32 id.val with
        | some narrow => r.write l (.int .int32 (some narrow))
        | none => .error (.shape (.insertIdRange id.val key))
      | written => written := by
  simp only [applyInsertId, generated, single, reported, located]
  rfl

/-- A field of 64 or 32 bits takes every assigned key within its range, if it stands in the record
where the entity has its key, and no other field changes. -/
theorem exists_applyInsertId_of_stores {s : Schema} (fits : r.Fits s)
    (generated : e.keyGenerated = true) {key : String} (single : e.keyColumns = [key]) {l : Locator}
    (located : e.schema.locateColumn? key = some l) {f : Field} {c : String} {k : IntKind}
    {nullable : Bool} (hf : s.fieldAt? l = some f) (stores : f.Stores c ⟨.int k, nullable⟩)
    (signed : k = .int64 ∨ k = .int32) (reported : o.insertId = some id) {n : Bounded k}
    (same : n.val = id.val) :
    ∃ r', e.applyInsertId r o = .ok r' ∧ r.ChangedOnlyAt l (.int k (some n)) r' := by
  have admits : (⟨.int k, nullable⟩ : ScalarType).admits (.int k (some n)) = true := by
    simp [ScalarType.admits, Value.variant, Value.isNull]
  obtain ⟨r', written, changed⟩ := (Record.write_of_stores fits hf stores _).1 admits
  refine ⟨r', ?_, changed⟩
  rw [applyInsertId_of_key generated single located reported]
  rcases signed with rfl | rfl
  · obtain rfl : n = id := by
      cases n
      cases id
      simpa using same
    rw [written]
  · -- a field of 32 bits refuses the value of 64 bits that is tried first
    have refused := (Record.write_of_stores fits hf stores (.int .int64 (some id))).2 rfl
    rw [refused]
    simp only [Bounded.ofInt?_eq_some_iff.2 same, written]

/-- A key field of 64 or 32 bits takes every assigned key within its range, and no other field
changes. -/
theorem exists_applyInsertId (derived : e.schema.Derived) (fits : r.Fits e.schema)
    (generated : e.keyGenerated = true) {key : String} (single : e.keyColumns = [key]) {x : Entry}
    (located : e.schema.columnEntry? key = some x) {k : IntKind} {nullable : Bool}
    (kind : x.field.kind = .scalar ⟨.int k, nullable⟩) (signed : k = .int64 ∨ k = .int32)
    (reported : o.insertId = some id) {n : Bounded k} (same : n.val = id.val) :
    ∃ r', e.applyInsertId r o = .ok r' ∧ r.ChangedOnlyAt x.locator (.int k (some n)) r' := by
  obtain ⟨hx, stored⟩ := Schema.mem_walk_of_columnEntry? located
  obtain ⟨t, stores⟩ := derived x hx key stored
  obtain rfl : t = ⟨.int k, nullable⟩ := FieldKind.scalar.inj (stores.kind.symm.trans kind)
  exact exists_applyInsertId_of_stores fits generated single (by simp [Schema.locateColumn?, located])
    (Schema.fieldAt?_of_mem_walk _ hx) stores signed reported same

end Entity

/-! ## Insertions -/

/-- What an insertion does, once its statement is built. -/
theorem Executor.insert_eq (ex : Executor σ) (registered : reg.ofType? r.type = some e) {q : Query}
    (built : reg.insert hooks r = (hooks.beforeInsert r, .ok q)) (store : σ) :
    ex.insert reg hooks r store =
      match (ex.execute q store).1 with
      | .error err => ⟨hooks.beforeInsert r, (ex.execute q store).2, .error err⟩
      | .ok outcome =>
        match e.applyInsertId (hooks.beforeInsert r) outcome with
        | .error err => ⟨hooks.beforeInsert r, (ex.execute q store).2, .error err⟩
        | .ok r => ⟨r, (ex.execute q store).2, .ok outcome⟩ := by
  simp only [insert, Registry.entityOf_eq_ok_iff.2 registered, built]
  rcases ex.execute q store with ⟨err | outcome, store⟩
  · rfl
  · cases applied : e.applyInsertId (hooks.beforeInsert r) outcome <;> simp [applied]

/-- The field has the only column of the key, is marked as assigned by the store, and holds integers
of the kind, of 64 or 32 bits. -/
structure Entity.AssignsTo (e : Entity) (x : Entry) (k : IntKind) : Prop where
  single : e.keyColumns.length = 1
  marked : (Tag.ofString x.field.tag).has "auto_incr" = true
  /-- No other field of the column is less deep or as deep and earlier. -/
  located : ∃ c, x.field.column = some c ∧ e.schema.columnEntry? c = some x
  kind : ∃ nullable, x.field.kind = .scalar ⟨.int k, nullable⟩
  wide : k = .int64 ∨ k = .int32

/-- The column of such a field is the key. -/
theorem Entity.AssignsTo.exists_key {x : Entry} {k : IntKind} (h : e.AssignsTo x k)
    (parsed : e.IsParsed) : ∃ c, e.keyColumns = [c] ∧ e.schema.columnEntry? c = some x := by
  obtain ⟨name, e₀, f, read, rfl⟩ := parsed
  obtain ⟨annotated, described⟩ := isDescribedBy_of_ofSchema? read
  obtain ⟨c, stored, located⟩ := h.located
  have mem : (⟨x.field, .ofString x.field.tag⟩ : Annotated) ∈ Annotated.ofSchema e₀.schema :=
    List.mem_map_of_mem (Schema.mem_walk_of_columnEntry? located).1
  have key := annotated.generated _ mem (by simp [Annotated.isGenerated, stored, h.marked])
  have column : c ∈ e₀.keyColumns := by
    rw [described.keyColumns]
    exact List.mem_filterMap.2 ⟨_, List.mem_filter.2 ⟨mem, key⟩, stored⟩
  obtain ⟨d, only⟩ : ∃ d, e₀.keyColumns = [d] := List.length_eq_one_iff.1 h.single
  rw [only, List.mem_singleton] at column
  exact ⟨c, by rw [column]; exact only, located⟩

/-- The statement of an insertion reaches the executor, once. If the store then reports a key, a key
of one column, of 64 or 32 bits, takes it: the insertion succeeds, and all other fields are as the
hook left them. A key of several columns is refused only now. Whatever fails, the record is as its
hook left it. -/
theorem Executor.insert_hands_back_key (ex : Executor σ) (parsed : e.IsParsed)
    (registered : reg.ofType? e.type = some e) (derived : e.schema.Derived)
    (generated : e.keyGenerated = true)
    (hook : ∀ r, r.Fits e.schema → (hooks.beforeInsert r).Fits e.schema)
    (fits : r.Fits e.schema) (store : σ) :
    let after := hooks.beforeInsert r
    let run := ex.insert reg hooks r store
    let noted := ex.noting.insert reg hooks r (store, [])
    noted.forget = run ∧
    ∃ q answer, reg.insert hooks r = (after, .ok q) ∧ noted.store.2 = [.write q answer] ∧
      (∀ err, run.result = .error err → run.record = after) ∧
      ∀ outcome id, answer = .ok outcome → outcome.insertId = some id →
        (∀ x k, e.AssignsTo x k → ∀ n : Bounded k, n.val = id.val →
          run.result = .ok outcome ∧ after.ChangedOnlyAt x.locator (.int k (some n)) run.record) ∧
        (e.keyColumns.length ≠ 1 → run.result =
          .error (.shape (.severalGeneratedKeys e.name e.keyColumns.length))) := by
  intro after run noted
  have ofType := Entity.ofType?_of_fits registered fits
  have fits' : after.Fits e.schema := hook r fits
  obtain ⟨q, built⟩ : ∃ q, reg.insert hooks r = (after, .ok q) := by
    obtain ⟨row, hr⟩ := Entity.exists_rowOf derived fits'
    exact ⟨_, Registry.insert_eq_ok_iff.2 ⟨rfl, e, row, ofType, hr, rfl⟩⟩
  have ran := ex.insert_eq ofType built store
  refine ⟨ex.forget_noting_insert reg hooks r store [], q, (ex.execute q store).1, built,
    ?_, ?_, ?_⟩
  · have ran' := ex.noting.insert_eq ofType built (store, [])
    rw [execute_noting] at ran'
    simp only [noted, ran']
    cases (ex.execute q store).1 with
    | error err => rfl
    | ok outcome =>
      simp only
      cases e.applyInsertId (hooks.beforeInsert r) outcome <;> rfl
  · intro err failed
    cases answered : (ex.execute q store).1 with
    | error err' => simp only [run, ran, answered, after]
    | ok outcome =>
      cases applied : e.applyInsertId after outcome with
      | error err' => simp only [run, ran, answered, applied, after]
      | ok r' => simp [run, ran, answered, applied, after] at failed
  · intro outcome id answered reported
    constructor
    · intro x k assigns n same
      obtain ⟨c, single, located⟩ := assigns.exists_key parsed
      obtain ⟨nullable, kind⟩ := assigns.kind
      obtain ⟨r', applied, changed⟩ := Entity.exists_applyInsertId derived fits' generated single
        located kind assigns.wide reported same
      have done : run = ⟨r', (ex.execute q store).2, .ok outcome⟩ := by
        simp only [run, ran, answered, applied, after]
      rw [done]
      exact ⟨rfl, changed⟩
    · intro several
      simp only [run, ran, answered, Entity.applyInsertId_of_several generated several]

/-- The key that a store reports. -/
private def assigned (n : Int) : Option (Bounded .int64) := Bounded.ofInt? .int64 n

/-- Stores nothing, and assigns the keys from one on. -/
private def serial : Executor Nat where
  execute _ n := (.ok { affected := 1, insertId := assigned (n + 1) }, n + 1)
  queryAll _ n := (.ok [], n)

private def keyField (k : IntKind) : Field :=
  ⟨"id", some "id", "pk,auto_incr", .scalar ⟨.int k, false⟩, false⟩

private def heads (k : IntKind) : Schema :=
  ⟨⟨1, "Head"⟩, [keyField k]⟩

/-- Tickets have a title, and their key in the record of their head. -/
private def tickets : Entity where
  name := "ticket"
  storageName := "ticket"
  schema := ⟨⟨0, "Ticket"⟩, [⟨"title", some "title", "", .scalar ⟨.string, false⟩, false⟩,
    ⟨"head", none, "", .flatten (heads .int32), false⟩]⟩
  keyColumns := ["id"]
  keyGenerated := true

private def desk : Registry := ⟨[tickets]⟩

private def ticket (title : String) : Record :=
  ⟨tickets.schema, [.scalar (.ofString title),
    .embedded ⟨heads .int32, [.scalar (.int .int32 (Bounded.ofInt? .int32 0))]⟩]⟩

/-- The seventh ticket takes its key into a field of 32 bits. -/
theorem insert_of_a_ticket :
    let hooks : Hooks := { beforeInsert := fun r => r.put 0 (.scalar (.ofString "t")) }
    let run := serial.insert desk hooks (ticket "") 6
    run.result = .ok { affected := 1, insertId := assigned 7 } ∧
      (ticket "t").ChangedOnlyAt ⟨[1, 0]⟩ (.int .int32 (Bounded.ofInt? .int32 7)) run.record := by
  intro hooks run
  have parsed : tickets.IsParsed := ⟨some "ticket", tickets, id, rfl, rfl⟩
  have registered : desk.ofType? tickets.type = some tickets := rfl
  have hook (r : Record) (fits : r.Fits tickets.schema) :
      (hooks.beforeInsert r).Fits tickets.schema :=
    fits.put (f := ⟨"title", some "title", "", .scalar ⟨.string, false⟩, false⟩) rfl rfl
  have fits : (ticket "").Fits tickets.schema := ⟨rfl, rfl, ⟨rfl, rfl, trivial⟩, trivial⟩
  obtain ⟨-, q, answer, -, noted, -, handed⟩ :=
    serial.insert_hands_back_key parsed registered (by decide) rfl hook fits 6
  have sent : (serial.noting.insert desk hooks (ticket "") (6, [])).store.2 =
      [.write (.insert "ticket" ["title"] [[.ofString "t"]] .fail)
        (.ok { affected := 1, insertId := assigned 7 })] := rfl
  rw [sent] at noted
  obtain rfl := (Exchange.write.inj (List.head_eq_of_cons_eq noted)).2
  have assigns : tickets.AssignsTo ⟨⟨[1, 0]⟩, keyField .int32⟩ .int32 :=
    ⟨rfl, rfl, ⟨"id", rfl, rfl⟩, ⟨false, rfl⟩, .inr rfl⟩
  exact (handed _ ⟨7, by decide, by decide⟩ rfl rfl).1 _ _ assigns ⟨7, by decide, by decide⟩ rfl

private def wide (n : Int) : Slot := .scalar (.int .int64 (assigned n))

private def nameField : Field := ⟨"name", some "name", "", .scalar ⟨.string, false⟩, false⟩

private def named : Slot := .scalar (.ofString "a")

/-- Seats have a key of two columns, of which the store assigns one. -/
private def seats : Entity where
  name := "seat"
  storageName := "seat"
  schema := ⟨⟨0, "Seat"⟩,
    [keyField .int64, ⟨"row", some "row", "pk", .scalar ⟨.int .int64, false⟩, false⟩, nameField]⟩
  keyColumns := ["id", "row"]
  keyGenerated := true

private def seat : Record := ⟨seats.schema, [wide 0, wide 3, named]⟩

/-- Badges have a key without sign. -/
private def badges : Entity where
  name := "badge"
  storageName := "badge"
  schema := ⟨⟨0, "Badge"⟩, [keyField .uint64, nameField]⟩
  keyColumns := ["id"]
  keyGenerated := true

private def badge : Record :=
  ⟨badges.schema, [.scalar (.int .uint64 (Bounded.ofInt? .uint64 0)), named]⟩

/-- Labels have their key in an embedded record, and another field of its column around it. -/
private def labels : Entity where
  name := "label"
  storageName := "label"
  schema := ⟨⟨0, "Label"⟩, [⟨"head", none, "", .flatten (heads .int64), false⟩,
    ⟨"copy", some "id", "", .scalar ⟨.int .int64, false⟩, false⟩, nameField]⟩
  keyColumns := ["id"]
  keyGenerated := true

private def label (id copy : Int) : Record :=
  ⟨labels.schema, [.embedded ⟨heads .int64, [wide id]⟩, wide copy, named]⟩

/-- A key is assigned, but a key of several columns and one of another integer type are refused
after the row is stored, and a field of the column that is less deep takes the key in place of its
own. -/
theorem insert_loses_key :
    (∀ e ∈ [seats, badges, labels], e.IsParsed ∧ e.schema.Derived ∧ e.keyGenerated = true) ∧
      seat.Fits seats.schema ∧ badge.Fits badges.schema ∧ (label 0 0).Fits labels.schema ∧
      serial.insert ⟨[seats]⟩ {} seat 6 =
        ⟨seat, 7, .error (.shape (.severalGeneratedKeys "seat" 2))⟩ ∧
      serial.insert ⟨[badges]⟩ {} badge 6 =
        ⟨badge, 7, .error (.decode "id" (.mismatch ⟨.int .uint64, false⟩))⟩ ∧
      serial.insert ⟨[labels]⟩ {} (label 0 0) 6 =
        ⟨label 0 7, 7, .ok { affected := 1, insertId := assigned 7 }⟩ := by
  refine ⟨?_, ⟨rfl, rfl, rfl, rfl, trivial⟩, ⟨rfl, rfl, rfl, trivial⟩,
    ⟨rfl, ⟨rfl, rfl, trivial⟩, rfl, rfl, trivial⟩, rfl, rfl, rfl⟩
  refine List.forall_mem_cons.2 ⟨⟨?_, by decide, rfl⟩, List.forall_mem_cons.2
    ⟨⟨?_, by decide, rfl⟩, List.forall_mem_singleton.2 ⟨?_, by decide, rfl⟩⟩⟩
  · exact ⟨some "seat", seats, id, rfl, rfl⟩
  · exact ⟨some "badge", badges, id, rfl, rfl⟩
  · exact ⟨some "label", labels, id, rfl, rfl⟩

end EntityMap
