import EntityMap.Proofs.Execution.GeneratedKeys
import EntityMap.Proofs.Record.Writing

/-!
# Records of another type

An entity refuses the records of other types: it reads no value of theirs, and fills no key. Only a
key that the store has assigned is handed over without a look at the type. It goes to the place that
the entity has for its key, whatever field the record has there: if that field is stored and of 64
or 32 bits it is overwritten.
-/

namespace EntityMap

namespace Entity

variable {e : Entity} {r : Record} {o : Outcome} {l : Locator} {t : ScalarType}
  {id : Bounded .int64}

/-! ## Reading -/

/-- The error with which an entity refuses a record of another type. -/
def refusal (e : Entity) (r : Record) : Error :=
  .shape (.foreignRecord r.type.name e.name e.type.name)

theorem columnValue_of_foreign (foreign : r.type ≠ e.type) (column : String) :
    e.columnValue r column = .error (e.refusal r) :=
  if_pos foreign

/-! ## Keys -/

/-- No key of a record of another type is filled. -/
theorem generateKeys_of_foreign (foreign : r.type ≠ e.type) (supply : Nat → String) :
    e.generateKeys supply r =
      (r, if e.keyGenerated = true ∨ e.keyColumns = [] then .ok 0 else .error (e.refusal r)) := by
  cases generated : e.keyGenerated with
  | true => simp [generateKeys, generated]
  | false =>
    cases keys : e.keyColumns with
    | nil => simp [generateKeys, generated, keys, fillKeys]
    | cons key rest =>
      simp [generateKeys, generated, keys, fillKeys, columnValue_of_foreign foreign]

/-- The store has assigned the only key of the entity, and the place that the entity has for it is
that of a stored field of the record, of the given type. -/
structure Hits (e : Entity) (r : Record) (o : Outcome) (l : Locator) (t : ScalarType)
    (id : Bounded .int64) : Prop where
  generated : e.keyGenerated = true
  reported : o.insertId = some id
  located : ∃ key, e.keyColumns = [key] ∧ e.schema.locateColumn? key = some l
  stored : ∃ f c, r.schema.fieldAt? l = some f ∧ f.Stores c t

/-- Unless it hits a stored field, an assigned key is not written: there is none, or it is refused
for the shape of the key or of the record. -/
theorem applyInsertId_of_not_hits (fits : r.Fits r.schema) (misses : ∀ l t id, ¬ e.Hits r o l t id) :
    (e.applyInsertId r o = .ok r ∧ (e.keyGenerated = true → o.insertId = none)) ∨
      ∃ fault, e.applyInsertId r o = .error (.shape fault) := by
  cases generated : e.keyGenerated with
  | false => exact .inl ⟨by simp [applyInsertId, generated], nofun⟩
  | true =>
    by_cases several : e.keyColumns.length ≠ 1
    · exact .inr ⟨_, applyInsertId_of_several generated several r o⟩
    obtain ⟨key, single⟩ := List.length_eq_one_iff.1 (not_not.1 several)
    cases reported : o.insertId with
    | none => exact .inl ⟨by simp [applyInsertId, generated, single, reported], fun _ => rfl⟩
    | some id =>
      refine .inr ?_
      cases located : e.schema.locateColumn? key with
      | none =>
        exact ⟨.noKeyColumn key e.name,
          by simp [applyInsertId, generated, single, reported, located]⟩
      | some l =>
        have nowhere (f : Field) (c : String) (t : ScalarType)
            (hf : r.schema.fieldAt? l = some f) : ¬ f.Stores c t := fun stores =>
          misses l t id ⟨generated, reported, ⟨key, single, located⟩, f, c, hf, stores⟩
        obtain ⟨fault, refused⟩ :=
          Record.exists_shape_of_write fits nowhere (.int .int64 (some id))
        exact ⟨fault, by rw [applyInsertId_of_key generated single located reported, refused]⟩

/-- A stored field that an assigned key hits, and that is not of 64 bits, is tried with 32: a key
beyond that range is refused for it, and a field of any other type for its type. -/
theorem Hits.applyInsertId_of_ne (fits : r.Fits r.schema) (hits : e.Hits r o l t id)
    (other : t.variant ≠ .int .int64) :
    (Bounded.ofInt? .int32 id.val = none → ∃ fault, e.applyInsertId r o = .error (.shape fault)) ∧
      (t.variant ≠ .int .int32 → Bounded.ofInt? .int32 id.val ≠ none →
        ∃ c, e.applyInsertId r o = .error (.decode c (.mismatch t))) := by
  obtain ⟨key, single, located⟩ := hits.located
  obtain ⟨f, c, hf, stores⟩ := hits.stored
  have refuses {k : IntKind} (n : Bounded k) (ne : t.variant ≠ .int k) :
      r.write l (.int k (some n)) = .error (.decode c (.mismatch t)) := by
    refine (Record.write_of_stores fits hf stores _).2 (Bool.eq_false_iff.2 fun admits => ?_)
    exact ne (ScalarType.admits_iff.1 admits).1.symm
  rw [applyInsertId_of_key hits.generated single located hits.reported, refuses id other]
  cases narrow : Bounded.ofInt? .int32 id.val with
  | none => simp
  | some n => simpa using fun ne => ⟨c, refuses n ne⟩

/-- The entity reads no value of a record of another type, and fills no key of it. A key that the
store has assigned is refused for the shape of the record as well, unless it hits a stored field: a
field of 64 bits, or of 32 if the key is within their range, is overwritten, and any other is
refused for its type. -/
theorem foreign_record_kept_unless_hit (foreign : r.type ≠ e.type) (fits : r.Fits r.schema)
    (supply : Nat → String) (o : Outcome) :
    (∀ column, e.columnValue r column = .error (e.refusal r)) ∧
    e.keyValues r = (if e.keyColumns = [] then .ok [] else .error (e.refusal r)) ∧
    (∀ columns, e.valuesOf r columns = if columns = [] then .ok [] else .error (e.refusal r)) ∧
    e.generateKeys supply r =
      (r, if e.keyGenerated = true ∨ e.keyColumns = [] then .ok 0 else .error (e.refusal r)) ∧
    ((∀ l t id, ¬ e.Hits r o l t id) →
      (e.applyInsertId r o = .ok r ∧ (e.keyGenerated = true → o.insertId = none)) ∨
        ∃ fault, e.applyInsertId r o = .error (.shape fault)) ∧
    ∀ l t id, e.Hits r o l t id →
      (∀ k, t.variant = .int k → k = .int64 ∨ k = .int32 → ∀ n : Bounded k, n.val = id.val →
        ∃ after, e.applyInsertId r o = .ok after ∧ r.ChangedOnlyAt l (.int k (some n)) after) ∧
      (t.variant ≠ .int .int64 → Bounded.ofInt? .int32 id.val = none →
        ∃ fault, e.applyInsertId r o = .error (.shape fault)) ∧
      (t.variant ≠ .int .int64 → t.variant ≠ .int .int32 → Bounded.ofInt? .int32 id.val ≠ none →
        ∃ c, e.applyInsertId r o = .error (.decode c (.mismatch t))) := by
  refine ⟨columnValue_of_foreign foreign, mapM_of_error (columnValue_of_foreign foreign) _,
    fun columns => ?_, generateKeys_of_foreign foreign supply, applyInsertId_of_not_hits fits, ?_⟩
  · exact mapM_of_error (fun c => by rw [columnValue_of_foreign foreign, Except.map]) columns
  · intro l t id hits
    refine ⟨?_, fun other => (hits.applyInsertId_of_ne fits other).1,
      fun other => (hits.applyInsertId_of_ne fits other).2⟩
    intro k variant signed n same
    obtain ⟨key, single, located⟩ := hits.located
    obtain ⟨f, c, hf, stores⟩ := hits.stored
    obtain ⟨_, nullable⟩ := t
    obtain rfl := variant
    exact exists_applyInsertId_of_stores fits hits.generated single located hf stores signed
      hits.reported same

end Entity

/-- Tickets have a key that the store assigns. -/
private def pass : Entity where
  name := "ticket"
  storageName := "ticket"
  schema := ⟨⟨0, "Ticket"⟩, [⟨"id", some "id", "pk,auto_incr", .scalar ⟨.int .int64, false⟩, false⟩]⟩
  keyColumns := ["id"]
  keyGenerated := true

private def codeField : Field := ⟨"code", some "code", "pk", .scalar ⟨.string, false⟩, false⟩

/-- Chairs have their row where tickets have their key. -/
private def chairs : Schema :=
  ⟨⟨1, "Chair"⟩, [⟨"row", some "row", "", .scalar ⟨.int .int64, false⟩, false⟩, codeField]⟩

private def chair (row : Int) : Record :=
  ⟨chairs, [.scalar (.int .int64 (Bounded.ofInt? .int64 row)), .scalar (.ofString "c")]⟩

/-- Crates have their code there. -/
private def crate : Record := ⟨⟨⟨2, "Crate"⟩, [codeField]⟩, [.scalar (.ofString "c")]⟩

private def seventh : Outcome := { affected := 1, insertId := Bounded.ofInt? .int64 7 }

/-- The chair in the third row is refused by all but the key that is assigned, which takes it to the
seventh. -/
theorem ticket_hits_a_chair :
    pass.columnValue (chair 3) "id" = .error (.shape (.foreignRecord "Chair" "ticket" "Ticket")) ∧
      ∃ after, pass.applyInsertId (chair 3) seventh = .ok after ∧
        (chair 3).ChangedOnlyAt ⟨[0]⟩ (.int .int64 (Bounded.ofInt? .int64 7)) after := by
  have fits : (chair 3).Fits (chair 3).schema := ⟨rfl, rfl, rfl, trivial⟩
  have foreign : (chair 3).type ≠ pass.type := by decide
  obtain ⟨refused, -, -, -, -, hit⟩ :=
    Entity.foreign_record_kept_unless_hit foreign fits (fun _ => "") seventh
  have hits : pass.Hits (chair 3) seventh ⟨[0]⟩ ⟨.int .int64, false⟩ ⟨7, by decide, by decide⟩ :=
    ⟨rfl, rfl, ⟨"id", rfl, rfl⟩, _, "row", rfl, rfl, rfl, rfl⟩
  exact ⟨refused "id", (hit _ _ _ hits).1 .int64 rfl (.inl rfl) _ rfl⟩

/-- A chair and a crate are taken for tickets: the row of the chair is overwritten, and the crate is
refused for the type of its code. -/
theorem ticket_moves_a_chair :
    pass.IsParsed ∧ (chair 3).Fits chairs ∧ (chair 3).type ≠ pass.type ∧ crate.Fits crate.schema ∧
      crate.type ≠ pass.type ∧
      pass.applyInsertId (chair 3) seventh = .ok (chair 7) ∧ chair 7 ≠ chair 3 ∧
      pass.applyInsertId crate seventh = .error (.decode "code" (.mismatch ⟨.string, false⟩)) := by
  have moved : chair 7 ≠ chair 3 := by
    intro same
    have rows := congrArg (·.read? ⟨[0]⟩) same
    revert rows
    decide
  exact ⟨⟨some "ticket", pass, id, rfl, rfl⟩, ⟨rfl, rfl, rfl, trivial⟩, by decide,
    ⟨rfl, rfl, trivial⟩, by decide, rfl, moved, rfl⟩

end EntityMap
