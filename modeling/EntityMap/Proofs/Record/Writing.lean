import EntityMap.Proofs.Record.Fields

/-!
# Writing into a record

A write goes down the path of its locator from one embedded record to the next, and changes the last
of them where it stands. `Record.overwrite` says so step by step; it comes to the record that
`Record.write` answers with, or leaves the record as it was. A write succeeds just where the schema
has a stored field of the variant of the value; it is read back, and no other field changes.
-/

namespace EntityMap

/-! ## Writing in place -/

namespace Record

/-- The record after a change, or as it was if the change failed. -/
def settle (r : Record) : Except Error Record → Record × Except Error Unit
  | .ok changed => (changed, .ok ())
  | .error err => (r, .error err)

/-- The record after a value is written at the end of a path, and whether it was. Every record on
the way is put back, whatever became of the one that it embeds. -/
def overwriteAt (r : Record) (l : Locator) (v : Value) : List Nat → Record × Except Error Unit
  | [] => (r, .error (.shape .emptyLocator))
  | [i] => r.settle (r.set i v)
  | i :: rest =>
    match r.embedded? i with
    | none => (r, .error (.shape (.nothingEmbedded l)))
    | some inner =>
      match inner.overwriteAt l v rest with
      | (inner, result) => (r.put i (.embedded inner), result)

/-- The record after a value is written at a locator, and whether it was. -/
def overwrite (r : Record) (l : Locator) (v : Value) : Record × Except Error Unit :=
  r.overwriteAt l v l.path

variable {r inner : Record} {s : Schema} {l : Locator} {v : Value}

/-- A step of a path that is not the last changes the record embedded there. -/
private theorem overwriteAt_cons {i : Nat} {rest : List Nat} (he : r.embedded? i = some inner)
    (ne : rest ≠ []) : r.overwriteAt l v (i :: rest) =
      (r.put i (.embedded (inner.overwriteAt l v rest).1), (inner.overwriteAt l v rest).2) := by
  obtain ⟨j, rest, rfl⟩ := List.exists_cons_of_ne_nil ne
  simp [overwriteAt, he]

private theorem overwriteAt_append (path : List Nat) (i : Nat) :
    r.overwriteAt l v (path ++ [i]) =
      match r.within? path with
      | none => (r, .error (.shape (.nothingEmbedded l)))
      | some inner => r.settle ((inner.set i v).map (r.putWithin · path)) := by
  induction path generalizing r with
  | nil => cases h : r.set i v <;> simp [overwriteAt, within?, putWithin, h, Except.map]
  | cons k rest ih =>
    cases he : r.embedded? k with
    | none => cases rest <;> simp [overwriteAt, within?, he]
    | some e =>
      obtain ⟨f, t, hc, -⟩ := embedded?_eq_some_iff.1 he
      -- what failed within leaves the embedded record, which is put back where it was
      have same : r.put k (.embedded e) = r := put_of_cell? hc
      rw [List.cons_append, overwriteAt_cons he (by simp), ih, within?, he, Option.bind_some]
      cases e.within? rest with
      | none => simp only [same]
      | some inner =>
        cases hs : inner.set i v <;> simp [settle, Except.map, putWithin, he, same, hs]

/-- A record that is written in place becomes what a write answers with, or stays as it is. -/
theorem overwrite_eq (r : Record) (l : Locator) (v : Value) :
    r.overwrite l v = r.settle (r.write l v) := by
  obtain ⟨path, i, rfl⟩ | rfl := l.eq_append_or_eq_nil
  · rw [overwrite, overwriteAt_append, write_append]
    cases r.within? path <;> rfl
  · rfl

end Record

/-! ## Where a value can be written -/

/-- A type admits a value of its variant, and null only if it is nullable. -/
theorem ScalarType.admits_iff {t : ScalarType} {v : Value} :
    t.admits v = true ↔ v.variant = t.variant ∧ (v.isNull = true → t.nullable = true) := by
  cases null : v.isNull <;> simp [ScalarType.admits, null]

namespace Record

variable {r : Record} {s : Schema} {l : Locator} {v : Value}

/-- A stored scalar takes a value of its type, and refuses any other. -/
theorem write_of_stores (fits : r.Fits s) {f : Field} {c : String} {t : ScalarType}
    (hf : s.fieldAt? l = some f) (stores : f.Stores c t) (v : Value) :
    (t.admits v = true → ∃ after, r.write l v = .ok after ∧ r.ChangedOnlyAt l v after) ∧
      (t.admits v = false → r.write l v = .error (.decode c (.mismatch t))) := by
  have mem : ⟨l, f⟩ ∈ s.walk := Schema.mem_walk_of_fieldAtPath? hf (by simp [stores.kind])
  obtain ⟨old, leaf, -⟩ := fits.exists_leaf?_of_stores mem stores
  refine ⟨fun admits => ?_, write_of_not_admits leaf stores⟩
  obtain ⟨after, written⟩ := exists_write_of_admits leaf stores admits
  exact ⟨after, written, .of_write fits written⟩

/-- Elsewhere nothing is written, as the record has another shape. -/
theorem exists_shape_of_write (fits : r.Fits s)
    (nowhere : ∀ f c t, s.fieldAt? l = some f → ¬ f.Stores c t) (v : Value) :
    ∃ fault, r.write l v = .error (.shape fault) := by
  obtain ⟨path, i, rfl⟩ | rfl := l.eq_append_or_eq_nil
  · rw [write_append]
    cases hw : r.within? path with
    | none => exact ⟨_, rfl⟩
    | some inner =>
      simp only [set]
      split
      · next name column tag t old hc =>
        have field : s.fieldAt? ⟨path ++ [i]⟩ = _ :=
          ((fits.within hw).2 i).trans (cell?_eq_some_iff.1 hc).1
        exact absurd ⟨rfl, rfl, rfl⟩ (nowhere _ column t field)
      · exact ⟨_, rfl⟩
  · exact ⟨_, rfl⟩

/-- A write succeeds just if its locator leads through embedded schemas to a stored scalar, and the
value is of the type of that. -/
theorem exists_write_iff (derived : s.Derived) (fits : r.Fits s) :
    (∃ after, r.write l v = .ok after) ↔ ∃ f c t, s.fieldAt? l = some f ∧ f.column = some c ∧
      f.kind = .scalar t ∧ t.admits v = true := by
  constructor
  · rintro ⟨after, written⟩
    obtain ⟨path, i, rfl⟩ := exists_path_of_write written
    obtain ⟨inner, changed, hw, hs, -⟩ := write_eq_ok_iff.1 written
    obtain ⟨name, column, tag, t, old, hc, admits, -⟩ := set_eq_ok_iff.1 hs
    obtain ⟨hf, -⟩ := cell?_eq_some_iff.1 hc
    exact ⟨_, column, t, ((fits.within hw).2 i).trans hf, rfl, rfl, admits⟩
  · rintro ⟨f, c, t, hf, stored, kind, admits⟩
    have mem : ⟨l, f⟩ ∈ s.walk := Schema.mem_walk_of_fieldAtPath? hf (by simp [kind])
    obtain ⟨t', stores⟩ := derived _ mem c stored
    obtain rfl : t = t' := FieldKind.scalar.inj (kind.symm.trans stores.kind)
    obtain ⟨after, written, -⟩ := (write_of_stores fits hf stores v).1 admits
    exact ⟨after, written⟩

/-- What is read can be written back, and that changes nothing. -/
theorem write_of_read? (fits : r.Fits s) (read : r.read? l = some v) : r.write l v = .ok r := by
  obtain ⟨path, i, rfl⟩ := exists_path_of_read? read
  obtain ⟨f, column, t, leaf, stores⟩ := read?_eq_some_iff.1 read
  have admits : t.admits v = true := by
    have slot := fits.leaf leaf
    rwa [stores.kind] at slot
  rw [leaf?_append] at leaf
  obtain ⟨inner, hw, hp⟩ := Option.bind_eq_some_iff.1 leaf
  have hc := plain?_eq_scalar_iff.1 hp
  obtain ⟨name, _, tag, _, _⟩ := f
  obtain ⟨rfl, rfl, rfl⟩ := stores
  refine write_eq_ok_iff.2 ⟨inner, inner, hw, ?_, (putWithin_of_within? hw).symm⟩
  exact set_eq_ok_iff.2 ⟨_, _, _, _, _, hc, admits, (put_of_cell? hc).symm⟩

/-- A write is all or nothing. It succeeds just if the locator leads through embedded records to a
stored field, and the value has the variant of that field, and is null only if the field may be.
Then the value is read at the locator, and every other field, in the record and in those that it
embeds, has the content that it had. Otherwise the record is as it was. A value that was read can be
written back, and that changes nothing. -/
theorem overwrite_lawful (derived : s.Derived) (fits : r.Fits s) (l : Locator) (v : Value) :
    let run := r.overwrite l v
    (run.2 = .ok () ↔ ∃ f c t, s.fieldAt? l = some f ∧ f.column = some c ∧ f.kind = .scalar t ∧
      v.variant = t.variant ∧ (v.isNull = true → t.nullable = true)) ∧
    (run.2 = .ok () → r.write l v = .ok run.1 ∧ run.1.Fits s ∧ run.1.read? l = some v ∧
      ∀ m, m ≠ l → run.1.leaf? m = r.leaf? m) ∧
    (∀ err, run.2 = .error err → r.write l v = .error err ∧ run.1 = r) ∧
    ∀ u, r.read? l = some u → r.overwrite l u = (r, .ok ()) := by
  intro run
  have writable := exists_write_iff (l := l) (v := v) derived fits
  simp only [ScalarType.admits_iff] at writable
  have back : ∀ u, r.read? l = some u → r.overwrite l u = (r, .ok ()) := by
    intro u read
    rw [overwrite_eq, write_of_read? fits read, settle]
  rw [← writable]
  simp only [run, overwrite_eq r l v]
  cases written : r.write l v with
  | error err => simpa [settle] using back
  | ok after =>
    refine ⟨by simp [settle], fun _ => ?_, by simp [settle], back⟩
    exact ⟨rfl, fits.write written, read?_write_self written,
      fun m ne => leaf?_write_of_ne written ne⟩

end Record

private def imprints : Schema :=
  ⟨⟨2, "Imprint"⟩, [⟨"year", some "year", "", .scalar ⟨.int .int16, true⟩, false⟩,
    ⟨"remark", none, "", .scalar ⟨.string, false⟩, false⟩]⟩

private def editions : Schema :=
  ⟨⟨1, "Edition"⟩, [⟨"imprint", none, "", .flatten imprints, false⟩]⟩

/-- Prints have the year of their imprint two records down, and it may be unknown. -/
private def prints : Schema :=
  ⟨⟨0, "Print"⟩, [⟨"title", some "title", "", .scalar ⟨.string, false⟩, false⟩,
    ⟨"edition", none, "", .flatten editions, false⟩,
    ⟨"owners", none, "", .ids ⟨.string, false⟩, false⟩]⟩

private def print (year : Option Int) : Record :=
  ⟨prints, [.scalar (.ofString "a"),
    .embedded ⟨editions, [.embedded ⟨imprints,
      [.scalar (.int .int16 (year.bind (Bounded.ofInt? .int16))), .scalar (.ofString "b")]⟩]⟩,
    .ids [.ofString "k"]]⟩

/-- The year is made unknown, and the title cannot be: what else a print has, mapped or not, stays
in both cases. -/
theorem overwrite_of_a_print :
    let year := (print (some 1521)).overwrite ⟨[1, 0, 0]⟩ (.int .int16 none)
    let title := (print (some 1521)).overwrite ⟨[0]⟩ (.string none)
    year.2 = .ok () ∧ year.1.read? ⟨[1, 0, 0]⟩ = some (.int .int16 none) ∧
      (∀ m, m ≠ ⟨[1, 0, 0]⟩ → year.1.leaf? m = (print (some 1521)).leaf? m) ∧
      title.2 ≠ .ok () ∧ title.1 = print (some 1521) := by
  intro year title
  have derived : prints.Derived := by decide
  have fits : (print (some 1521)).Fits prints :=
    ⟨rfl, rfl, ⟨rfl, ⟨rfl, rfl, rfl, trivial⟩, trivial⟩, List.forall_mem_singleton.2 rfl, trivial⟩
  obtain ⟨accepted, written, -⟩ :=
    Record.overwrite_lawful derived fits ⟨[1, 0, 0]⟩ (.int .int16 none)
  obtain ⟨refused, -, unchanged, -⟩ := Record.overwrite_lawful derived fits ⟨[0]⟩ (.string none)
  have done : year.2 = .ok () := accepted.2 ⟨_, "year", _, rfl, rfl, rfl, rfl, fun _ => rfl⟩
  obtain ⟨-, -, read, others⟩ := written done
  have stopped : title.2 ≠ .ok () := by
    rw [Ne, refused]
    rintro ⟨f, c, t, found, -, kind, -, nullable⟩
    obtain rfl := Option.some.inj found
    obtain rfl := FieldKind.scalar.inj kind
    exact absurd (nullable rfl) (by decide)
  refine ⟨done, read, others, stopped, ?_⟩
  cases failed : title.2 with
  | ok u => exact absurd failed stopped
  | error err => exact (unchanged err failed).2

end EntityMap
