import EntityMap.Proofs.Entity.Values
import EntityMap.Uuid
import Mathlib.Data.Finset.Card

/-!
# Filling the empty texts of a key

Keys that the store does not assign are filled before an insertion, from a supply of texts. Only a
key column that holds an empty text, or the null in place of one, is filled, and each of them once,
even if the key names it twice: a column has a text when the traversal comes to it again. A text can
be written wherever one was read, so nothing fails on the way.
-/

namespace EntityMap

variable {e : Entity} {r w after : Record} {keys : List String} {c : String} {l : Locator}
  {supply : Nat → String}

/-! ## Columns without a text -/

/-- The column holds the empty text, or the null in place of a text. -/
def Record.LacksText (r : Record) (c : String) : Prop :=
  r.column? c = some (.string none) ∨ r.column? c = some (.ofString "")

instance (r : Record) : DecidablePred r.LacksText :=
  fun _ => inferInstanceAs (Decidable (_ ∨ _))

theorem Value.isEmptyText_iff {v : Value} :
    v.isEmptyText = true ↔ v = .string none ∨ v = .ofString "" := by
  cases v with
  | string s => cases s <;> simp [isEmptyText, ofString, String.isEmpty_iff]
  | _ => simp [isEmptyText, ofString]

/-- A column that holds a value lacks a text just if the value is an empty one. -/
theorem Record.lacksText_iff {v : Value} (held : r.column? c = some v) :
    r.LacksText c ↔ v.isEmptyText = true := by
  rw [Value.isEmptyText_iff, LacksText, held, Option.some.injEq, Option.some.injEq]

/-- The columns among some that lack a text. -/
def Record.lacking (r : Record) (keys : List String) : Finset String :=
  keys.toFinset.filter r.LacksText

theorem Record.mem_lacking_iff : c ∈ r.lacking keys ↔ c ∈ keys ∧ r.LacksText c := by
  simp [lacking]

/-- A column that lacks a text is one of those that do, whether it comes again or not. -/
theorem Record.lacking_cons_of_lacksText (lacks : r.LacksText c) :
    r.lacking (c :: keys) = insert c ((r.lacking keys).erase c) := by
  ext d
  simp only [mem_lacking_iff, Finset.mem_insert, Finset.mem_erase, List.mem_cons]
  grind

theorem Record.lacking_cons_of_not_lacksText (full : ¬ r.LacksText c) :
    r.lacking (c :: keys) = r.lacking keys := by
  rw [lacking, List.toFinset_cons, Finset.filter_insert, if_neg full, lacking]

/-! ## Filling them -/

/-- The second record is the first, but that the columns among some that lacked a text have one. -/
structure Record.TextsFilled (r : Record) (keys : List String) (after : Record) : Prop where
  fits : after.Fits r.schema
  filled : ∀ c ∈ r.lacking keys, ∃ text, text ≠ "" ∧ after.column? c = some (.ofString text)
  others : ∀ l, (∀ c ∈ r.lacking keys, r.schema.locateColumn? c ≠ some l) →
    after.leaf? l = r.leaf? l

namespace Record

/-- The columns that lacked nothing, and all that are not among those looked at, are as before. -/
theorem TextsFilled.column?_of_notMem (h : r.TextsFilled keys after) (hc : c ∉ r.lacking keys) :
    after.column? c = r.column? c := by
  refine column?_congr h.fits.schema_eq fun l located => h.others l fun d hd there => ?_
  obtain rfl := Schema.locateColumn?_injective located there
  exact hc hd

/-- Nothing is lacking when the columns are filled. -/
theorem TextsFilled.lacking_eq_empty (h : r.TextsFilled keys after) : after.lacking keys = ∅ := by
  refine Finset.eq_empty_of_forall_notMem fun c hc => ?_
  obtain ⟨mem, lacks⟩ := mem_lacking_iff.1 hc
  by_cases before : c ∈ r.lacking keys
  · obtain ⟨text, ne, held⟩ := h.filled c before
    rw [lacksText_iff held, Value.isEmptyText_iff] at lacks
    simp [Value.ofString, ne] at lacks
  · rw [LacksText, h.column?_of_notMem before] at lacks
    exact before (mem_lacking_iff.2 ⟨mem, lacks⟩)

section Step

variable {key text : String} {rest : List String} {old : Value}
  (located : r.schema.locateColumn? key = some l) (held : r.column? key = some old)
  (changed : r.ChangedOnlyAt l (.ofString text) w) (ne : text ≠ "")
include located held changed ne

/-- A column that gets a text lacks one no more, and the other columns lack what they lacked. -/
theorem lacking_of_changedOnlyAt : w.lacking rest = (r.lacking rest).erase key := by
  ext c
  rw [Finset.mem_erase, mem_lacking_iff, mem_lacking_iff]
  by_cases self : c = key
  · subst self
    rw [lacksText_iff (changed.column?_self located held), Value.isEmptyText_iff]
    simp [Value.ofString, ne]
  · simp only [LacksText, changed.column?_of_ne located self, ne_eq, self, not_false_eq_true,
      true_and]

/-- Where the first of some columns gets its text, and then the others, all have one. -/
theorem TextsFilled.cons (lacks : r.LacksText key) (h : w.TextsFilled rest after) :
    r.TextsFilled (key :: rest) after := by
  have schema : w.schema = r.schema := changed.schema_eq
  have left : w.lacking rest = (r.lacking rest).erase key :=
    lacking_of_changedOnlyAt located held changed ne
  refine ⟨schema ▸ h.fits, fun c hc => ?_, fun m apart => ?_⟩
  · obtain ⟨mem, lacks⟩ := mem_lacking_iff.1 hc
    by_cases self : c = key
    · subst self
      -- the column may come again, and then it has the text already
      have full : c ∉ w.lacking rest := left ▸ Finset.notMem_erase c _
      exact ⟨text, ne, (h.column?_of_notMem full).trans (changed.column?_self located held)⟩
    · refine h.filled c ?_
      rw [left, Finset.mem_erase, mem_lacking_iff]
      exact ⟨self, (List.mem_cons.1 mem).resolve_left self, lacks⟩
  · have ne : m ≠ l := by
      rintro rfl
      exact apart key (mem_lacking_iff.2 ⟨List.mem_cons_self, lacks⟩) located
    rw [h.others m fun c hc => ?_, changed.others m ne]
    rw [left, Finset.mem_erase, mem_lacking_iff] at hc
    rw [schema]
    exact apart c (mem_lacking_iff.2 ⟨.tail _ hc.2.1, hc.2.2⟩)

end Step

/-- A text can be written where one is lacking. -/
theorem LacksText.exists_write (fits : r.Fits e.schema) (lacks : r.LacksText c) (text : String) :
    ∃ l w, e.schema.locateColumn? c = some l ∧ r.write l (.ofString text) = .ok w ∧
      r.ChangedOnlyAt l (.ofString text) w := by
  obtain ⟨old, held, variant⟩ : ∃ old, r.column? c = some old ∧ old.variant = .string :=
    lacks.elim (fun held => ⟨_, held, rfl⟩) fun held => ⟨_, held, rfl⟩
  obtain ⟨l, located, read⟩ := Option.bind_eq_some_iff.1 held
  rw [fits.schema_eq] at located
  obtain ⟨w, written⟩ : ∃ w, r.write l (.ofString text) = .ok w :=
    exists_write_eq_ok fits read variant.symm rfl
  exact ⟨l, w, located, written, .of_write fits written⟩

end Record

namespace Entity

open Record

/-- A key column that does not lack a text is passed over. -/
theorem fillKeys_of_not_lacksText (fits : r.Fits e.schema) {key : String} {v : Value}
    (held : r.column? key = some v) (full : ¬ r.LacksText key) (rest : List String) (n : Nat) :
    e.fillKeys supply (key :: rest) n r = e.fillKeys supply rest n r := by
  rw [lacksText_iff held, Bool.not_eq_true] at full
  simp [fillKeys, (columnValue_eq_ok_iff fits).2 held, full]

/-- A key column that lacks a text gets the next one. -/
theorem fillKeys_of_lacksText (fits : r.Fits e.schema) {key : String} (lacks : r.LacksText key)
    {n : Nat} (located : e.schema.locateColumn? key = some l)
    (written : r.write l (.ofString (supply n)) = .ok w) (rest : List String) :
    e.fillKeys supply (key :: rest) n r = e.fillKeys supply rest (n + 1) w := by
  obtain ⟨v, held⟩ : ∃ v, r.column? key = some v := lacks.elim (⟨_, ·⟩) (⟨_, ·⟩)
  have empty := (lacksText_iff held).1 lacks
  simp [fillKeys, (columnValue_eq_ok_iff fits).2 held, empty, located, written]

/-- Columns that lack nothing are left alone. -/
theorem fillKeys_of_lacking_eq_empty (fits : r.Fits e.schema)
    (held : ∀ c ∈ keys, ∃ v, r.column? c = some v) (full : r.lacking keys = ∅)
    (supply : Nat → String) (n : Nat) : e.fillKeys supply keys n r = (r, .ok n) := by
  have each : ∀ c ∈ keys, ¬ r.LacksText c := fun c hc lacks =>
    Finset.notMem_empty c (full ▸ mem_lacking_iff.2 ⟨hc, lacks⟩)
  clear full
  induction keys with
  | nil => rfl
  | cons key rest ih =>
    obtain ⟨v, value⟩ := held key List.mem_cons_self
    rw [fillKeys_of_not_lacksText fits value (each key List.mem_cons_self)]
    exact ih (fun c hc => held c (.tail _ hc)) fun c hc => each c (.tail _ hc)

/-- Of columns that all hold some value, those that lack a text get one, and are counted. -/
theorem exists_fillKeys (fits : r.Fits e.schema)
    (held : ∀ c ∈ keys, ∃ v, r.column? c = some v) (texts : ∀ n, supply n ≠ "") (n : Nat) :
    ∃ after, e.fillKeys supply keys n r = (after, .ok (n + (r.lacking keys).card)) ∧
      r.TextsFilled keys after := by
  -- a column that got its text still holds a value, should it come again
  induction keys generalizing r n with
  | nil =>
    exact ⟨r, by simp [fillKeys, lacking], fits.schema_eq ▸ fits, by simp [lacking], fun _ _ => rfl⟩
  | cons key rest ih =>
    have held' : ∀ c ∈ rest, ∃ v, r.column? c = some v := fun c hc => held c (.tail _ hc)
    obtain ⟨old, value⟩ := held key List.mem_cons_self
    by_cases lacks : r.LacksText key
    · obtain ⟨l, w, located, written, changed⟩ := lacks.exists_write fits (supply n)
      have located' : r.schema.locateColumn? key = some l := by rw [fits.schema_eq]; exact located
      have fits' : w.Fits e.schema := fits.schema_eq ▸ changed.fits
      have still : ∀ c ∈ rest, ∃ v, w.column? c = some v := by
        intro c hc
        by_cases self : c = key
        · exact ⟨_, self ▸ changed.column?_self located' value⟩
        · rw [changed.column?_of_ne located' self]
          exact held' c hc
      obtain ⟨after, run, filled⟩ := ih fits' still (n + 1)
      refine ⟨after, ?_, filled.cons located' value changed (texts n) lacks⟩
      have left : w.lacking rest = (r.lacking rest).erase key :=
        lacking_of_changedOnlyAt located' value changed (texts n)
      rw [fillKeys_of_lacksText fits lacks located written, run, left,
        lacking_cons_of_lacksText lacks, Finset.card_insert_of_notMem (Finset.notMem_erase key _),
        Nat.add_assoc, Nat.add_comm 1]
    · obtain ⟨after, run, filled⟩ := ih fits held' n
      have same : r.lacking (key :: rest) = r.lacking rest := lacking_cons_of_not_lacksText lacks
      refine ⟨after, ?_, ⟨filled.fits, same ▸ filled.filled, same ▸ filled.others⟩⟩
      rw [fillKeys_of_not_lacksText fits value lacks, run, same]

/-- Filling the keys of a record never fails. Keys that the store assigns are left alone. Else each
key column that lacks a text has one afterwards, all other fields are as they were, and the columns
are counted. Filling the keys again changes nothing. -/
theorem generateKeys_fills_lacking (parsed : e.IsParsed) (derived : e.schema.Derived)
    (fits : r.Fits e.schema) (texts : ∀ n, supply n ≠ "") :
    let run := e.generateKeys supply r
    (e.keyGenerated = true → run = (r, .ok 0)) ∧
      (e.keyGenerated = false → run.2 = .ok (r.lacking e.keyColumns).card ∧
        r.TextsFilled e.keyColumns run.1) ∧
      ∀ supply', e.generateKeys supply' run.1 = (run.1, .ok 0) := by
  intro run
  cases generated : e.keyGenerated with
  | true => simp [run, generateKeys, generated]
  | false =>
    have held {r : Record} (fits : r.Fits e.schema) : ∀ c ∈ e.keyColumns, ∃ v, r.column? c = some v :=
      fun c hc => fits.exists_column? derived (parsed.keyColumns_subset c hc)
    obtain ⟨after, ran, filled⟩ := exists_fillKeys fits (held fits) texts 0
    have fits' : after.Fits e.schema := fits.schema_eq ▸ filled.fits
    have done : run = (after, .ok (r.lacking e.keyColumns).card) := by
      simp [run, generateKeys, generated, ran]
    rw [done]
    refine ⟨nofun, fun _ => ⟨rfl, filled⟩, fun supply' => ?_⟩
    simpa [generateKeys, generated] using
      fillKeys_of_lacking_eq_empty fits' (held fits') filled.lacking_eq_empty supply' 0

end Entity

private def textField (name tag : String) (nullable : Bool) : Field :=
  ⟨name, some name, tag, .scalar ⟨.string, nullable⟩, false⟩

private def batch : Schema :=
  ⟨⟨1, "Batch"⟩, [textField "serial" "pk" true,
    ⟨"number", some "number", "pk", .scalar ⟨.int .int64, false⟩, false⟩, textField "code" "pk" false]⟩

/-- Parcels have a key of three columns, of which two are those of their batch. The code that a
batch has as well is never read. -/
private def parcels : Entity where
  name := "parcel"
  storageName := "parcel"
  schema := ⟨⟨0, "Parcel"⟩, [textField "code" "pk" false, ⟨"batch", none, "", .flatten batch, false⟩,
    textField "note" "" false]⟩
  keyColumns := ["code", "serial", "number", "code"]

private def parcel (code : String) (serial : Option String) : Record :=
  ⟨parcels.schema, [.scalar (.ofString code),
    .embedded ⟨batch, [.scalar (.string serial), .scalar (.int .int64 (Bounded.ofInt? .int64 0)),
      .scalar (.ofString "")]⟩,
    .scalar (.ofString "")]⟩

/-- A parcel without a code, and without the serial of its batch, gets both. The code comes twice in
the key and is filled once; the number, the inner code and the note stay. -/
theorem fills_two_keys_of_a_parcel :
    let run := parcels.generateKeys Uuid.v4 (parcel "" none)
    run.2 = .ok 2 ∧ parcels.generateKeys Uuid.v4 run.1 = (run.1, .ok 0) ∧
      (∃ text, text ≠ "" ∧ run.1.column? "serial" = some (.ofString text)) ∧
      ∀ l ∈ [(⟨[1, 1]⟩ : Locator), ⟨[1, 2]⟩, ⟨[2]⟩], run.1.leaf? l = (parcel "" none).leaf? l := by
  intro run
  have parsed : parcels.IsParsed := ⟨some "parcel", parcels, id, rfl, rfl⟩
  have fits : (parcel "" none).Fits parcels.schema :=
    ⟨rfl, rfl, ⟨rfl, rfl, rfl, rfl, trivial⟩, rfl, trivial⟩
  obtain ⟨-, counted, again⟩ :=
    Entity.generateKeys_fills_lacking parsed (by decide) fits Uuid.v4_ne_empty
  obtain ⟨count, filled⟩ := counted rfl
  have lacking : (parcel "" none).lacking parcels.keyColumns = {"code", "serial"} := by decide
  refine ⟨?_, again Uuid.v4, filled.filled "serial" (by decide), fun l hl => filled.others l ?_⟩
  · rw [count, lacking]
    rfl
  · rw [lacking]
    decide +revert

end EntityMap
