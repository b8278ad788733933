import EntityMap.Locator.Memo
import Mathlib.Data.List.Basic

/-!
# What remembered lookups answer

A lookup is answered from the memo, or by a walk whose result the memo then keeps. After calls one
after the other a memo that was empty at first holds the results of their walks, each under the type,
the kind and the name of its call, and nothing else: `run_eq_map_found` says that every call was
answered as by a walk, and that no answer is ever changed or dropped.
-/

namespace EntityMap

/-- A lookup of a name in a schema. -/
structure LookupCall where
  schema : Schema
  kind : NameKind
  name : String

namespace LookupCall

/-- The lookup that the answer is remembered for. -/
def lookup (c : LookupCall) : Lookup := ⟨c.schema.type.id, c.kind, c.name⟩

/-- The answer of a walk. -/
def found (c : LookupCall) : Option Locator := c.schema.locate? c.kind c.name

end LookupCall

/-- Every call for a record type is made with the schema of the type. -/
def OwnSchemas (calls : List LookupCall) : Prop :=
  ∀ c ∈ calls, ∀ d ∈ calls, c.schema.type.id = d.schema.type.id → c.schema = d.schema

section

variable {calls part : List LookupCall} {c d : LookupCall} (own : OwnSchemas calls)
include own

theorem OwnSchemas.mono (subset : part ⊆ calls) : OwnSchemas part :=
  fun c hc d hd => own c (subset hc) d (subset hd)

/-- What is remembered for one call answers another only if the two are the same. -/
theorem OwnSchemas.eq_of_lookup_eq (hc : c ∈ calls) (hd : d ∈ calls)
    (same : c.lookup = d.lookup) : c = d := by
  obtain ⟨schema, kind, name⟩ := c
  obtain ⟨schema', kind', name'⟩ := d
  obtain ⟨type, rfl, rfl⟩ := Lookup.mk.inj same
  obtain rfl : schema = schema' := own _ hc _ hd type
  rfl

end

namespace LookupMemo

/-- The answers to calls that are made one after the other, and the memo after the last. -/
def run (m : LookupMemo) : List LookupCall → List (Option Locator) × LookupMemo
  | [] => ([], m)
  | c :: rest =>
    let (found, next) := m.locate? c.schema c.kind c.name
    let (answers, last) := next.run rest
    (found :: answers, last)

/-- The memo holds the answers of the calls, and no others. -/
def Remembers (m : LookupMemo) (calls : List LookupCall) : Prop :=
  ∀ q a, m.answer? q = some a ↔ ∃ c ∈ calls, c.lookup = q ∧ c.found = a

variable {m : LookupMemo} {c : LookupCall} {calls earlier : List LookupCall} {q : Lookup}
  {a : Option Locator}

/-! ## One call -/

private theorem exists_mem_append_singleton {p : LookupCall → Prop} :
    (∃ d ∈ earlier ++ [c], p d) ↔ (∃ d ∈ earlier, p d) ∨ p c := by
  simp [or_and_right, exists_or]

/-- What is remembered already stays, and the new answer is found where there was none. -/
theorem answer?_remember (m : LookupMemo) (q p : Lookup) (found : Option Locator) :
    (m.remember q found).answer? p = (m.answer? p).or (if p = q then some found else none) := by
  rw [answer?, remember, List.lookup_append, answer?]
  by_cases same : p = q
  · simp [same]
  · simp [List.lookup_cons, same, beq_false_of_ne same]

theorem locate?_of_answer? (h : m.answer? c.lookup = some a) :
    m.locate? c.schema c.kind c.name = (a, m) := by
  rw [LookupCall.lookup] at h
  simp [locate?, h]

theorem locate?_of_forgotten (h : m.answer? c.lookup = none) :
    m.locate? c.schema c.kind c.name = (c.found, m.remember c.lookup c.found) := by
  rw [LookupCall.lookup] at h
  simp [locate?, h, LookupCall.found, LookupCall.lookup]

/-- A call changes no answer and drops none. -/
theorem answer?_of_locate? (c : LookupCall) (h : m.answer? q = some a) :
    (m.locate? c.schema c.kind c.name).2.answer? q = some a := by
  cases held : m.answer? c.lookup with
  | some b => rwa [locate?_of_answer? held]
  | none => rw [locate?_of_forgotten held, answer?_remember, h, Option.some_or]

/-- A memo of the calls made so far answers the next one as a walk does, and is then a memo of that
one, too. -/
theorem Remembers.locate? (h : m.Remembers earlier) (own : OwnSchemas (earlier ++ [c])) :
    (m.locate? c.schema c.kind c.name).1 = c.found ∧
      (m.locate? c.schema c.kind c.name).2.Remembers (earlier ++ [c]) := by
  have last : c ∈ earlier ++ [c] := List.mem_append_right _ List.mem_cons_self
  cases held : m.answer? c.lookup with
  | some b =>
    -- the answer was given to the same call before
    obtain ⟨d, hd, same, found⟩ := (h _ _).1 held
    obtain rfl := own.eq_of_lookup_eq (List.mem_append_left _ hd) last same
    rw [locate?_of_answer? held]
    refine ⟨found.symm, fun q a => ?_⟩
    rw [h q a, exists_mem_append_singleton]
    exact (or_iff_left_of_imp fun given => ⟨d, hd, given⟩).symm
  | none =>
    have new : ∀ d ∈ earlier, d.lookup ≠ c.lookup := by
      intro d hd same
      rw [(h _ d.found).2 ⟨d, hd, same, rfl⟩] at held
      exact absurd held (by simp)
    rw [locate?_of_forgotten held]
    refine ⟨rfl, fun q a => ?_⟩
    rw [answer?_remember, exists_mem_append_singleton, ← h q a]
    by_cases same : q = c.lookup
    · subst same
      simp [held]
    · simp [same, Ne.symm same]

/-! ## Many calls -/

/-- Calls change no answers and drop none. -/
theorem answer?_of_run (calls : List LookupCall) (h : m.answer? q = some a) :
    (m.run calls).2.answer? q = some a := by
  induction calls generalizing m with
  | nil => exact h
  | cons c rest ih => exact ih (answer?_of_locate? c h)

theorem run_append (m : LookupMemo) (before after : List LookupCall) :
    (m.run (before ++ after)).2 = ((m.run before).2.run after).2 := by
  induction before generalizing m with
  | nil => rfl
  | cons c rest ih => exact ih _

/-- A memo of the calls made so far answers further ones as walks do, and is then a memo of all. -/
theorem Remembers.run (h : m.Remembers earlier) (own : OwnSchemas (earlier ++ calls)) :
    (m.run calls).1 = calls.map (·.found) ∧ (m.run calls).2.Remembers (earlier ++ calls) := by
  induction calls generalizing m earlier with
  | nil => exact ⟨rfl, by rwa [List.append_nil]⟩
  | cons c rest ih =>
    rw [List.append_cons] at own ⊢
    obtain ⟨answer, next⟩ := h.locate? (own.mono (List.subset_append_left _ rest))
    obtain ⟨answers, last⟩ := ih next own
    exact ⟨congrArg₂ List.cons answer answers, last⟩

/-- Calls that begin with nothing remembered, each made with the schema of its record type, are all
answered as by walks. A call finds an answer in the memo just if the same call was made before. What
is remembered in the end are the results of the walks, each under the type, the kind and the name of
its call and under no other, and with them all that was remembered at any time in between. -/
theorem run_eq_map_found (own : OwnSchemas calls) :
    (run {} calls).1 = calls.map (·.found) ∧
    (∀ q a, (run {} calls).2.answer? q = some a ↔ ∃ c ∈ calls, c.lookup = q ∧ c.found = a) ∧
    (∀ before c after, calls = before ++ c :: after →
      ((∃ a, (run {} before).2.answer? c.lookup = some a) ↔ c ∈ before)) ∧
    ∀ before after, calls = before ++ after → ∀ q a, (run {} before).2.answer? q = some a →
      (run {} calls).2.answer? q = some a := by
  have nothing : Remembers {} [] := by simp [Remembers, answer?]
  obtain ⟨answers, last⟩ := nothing.run own
  refine ⟨answers, last, ?_, ?_⟩
  · rintro before c after rfl
    have remembered := (nothing.run (own.mono (List.subset_append_left before _))).2
    simp only [remembered _ _, List.nil_append]
    constructor
    · rintro ⟨a, d, hd, same, -⟩
      rwa [← own.eq_of_lookup_eq (List.mem_append_left _ hd) (by simp) same]
    · exact fun hc => ⟨c.found, c, hc, rfl, rfl⟩
  · rintro before after rfl q a held
    rw [run_append]
    exact answer?_of_run after held

end LookupMemo

private def crossedShelves : Schema :=
  ⟨⟨0, "Shelf"⟩, [⟨"label", some "title", "", .scalar ⟨.string, false⟩, false⟩,
    ⟨"title", some "label", "", .scalar ⟨.string, false⟩, false⟩]⟩

private def shelvedBooks : Schema :=
  ⟨⟨1, "Book"⟩, [⟨"id", some "id", "pk", .scalar ⟨.string, false⟩, false⟩,
    ⟨"shelf", none, "", .flatten crossedShelves, false⟩]⟩

private def titleCalls : List LookupCall :=
  [⟨crossedShelves, .column, "title"⟩, ⟨crossedShelves, .field, "title"⟩,
    ⟨shelvedBooks, .column, "title"⟩, ⟨shelvedBooks, .field, "shelf"⟩,
    ⟨crossedShelves, .column, "title"⟩, ⟨shelvedBooks, .field, "shelf"⟩]

/-- The column and the field of one name, and those of two record types, are told apart; of the
last two calls both are answered from the memo, one of them that nothing was found. -/
theorem run_eq_map_found_of_titles :
    OwnSchemas titleCalls ∧
    (LookupMemo.run {} titleCalls).1 =
      [some ⟨[0]⟩, some ⟨[1]⟩, some ⟨[1, 0]⟩, none, some ⟨[0]⟩, none] ∧
    (LookupMemo.run {} titleCalls).2.answers.length = 4 ∧
    (LookupMemo.run {} titleCalls).2.answer? ⟨1, .field, "shelf"⟩ = some none := by
  have own : OwnSchemas titleCalls := by
    simp [OwnSchemas, titleCalls, crossedShelves, shelvedBooks]
  obtain ⟨answers, remembered, -, -⟩ := LookupMemo.run_eq_map_found own
  refine ⟨own, answers.trans rfl, rfl, (remembered _ _).2 ?_⟩
  exact ⟨⟨shelvedBooks, .field, "shelf"⟩, by simp [titleCalls], rfl, rfl⟩

end EntityMap
