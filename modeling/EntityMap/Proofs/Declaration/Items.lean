import EntityMap.Declaration.Attribute
import EntityMap.Proofs.Success

/-!
# The items that attributes write

The arguments of an annotation are items with commas between them, and perhaps one at the end; an
item is a key, or a key with a text behind an equals sign. `ItemsWritten` says so without a reader,
and the reader accepts just what it describes. The items of a field are those of its annotations,
one attribute after the other.
-/

namespace EntityMap.Declaration

/-- How an item is written. -/
inductive Item.Written : Item → List Lexeme → Prop
  | bare (key : String) : Written ⟨key, none⟩ [.ident key]
  | valued (key value : String) (joint : Bool) :
    Written ⟨key, some value⟩ [.ident key, .sign '=' joint, .string value]

/-- How items are written. -/
inductive ItemsWritten : List Item → List Lexeme → Prop
  | nil : ItemsWritten [] []
  | last {item : Item} {ls : List Lexeme} (first : item.Written ls) : ItemsWritten [item] ls
  | cons {item : Item} {items : List Item} {ls rest : List Lexeme} (joint : Bool)
    (first : item.Written ls) (later : ItemsWritten items rest) :
    ItemsWritten (item :: items) (ls ++ .sign ',' joint :: rest)

/-! ## One item -/

section

variable {key : Key} {name : String} {item : Item} {items : List Item} {ls rest : List Lexeme}

private theorem Key.name?_eq_some_iff : key.name? = some name ↔ key = ⟨false, [name]⟩ := by
  unfold name?
  split <;> simp_all

/-- Where no further part of a key is read, nothing is taken. -/
private theorem eq_of_readKeyParts (h : readKeyParts ls = .ok ([], rest)) : rest = ls := by
  unfold readKeyParts at h
  split at h
  · obtain ⟨⟨parts, rest'⟩, -, h⟩ := bind_eq_ok_iff.1 h
    cases h
  · cases h
  · exact (Prod.mk.inj (Except.ok.inj h)).2.symm

/-- A key that is a single name is the first element, and takes no other. -/
private theorem eq_cons_of_readKey (h : readKey ls = .ok (⟨false, [name]⟩, rest)) :
    ls = .ident name :: rest := by
  unfold readKey at h
  split at h
  next leading arguments hm =>
  split at h
  · next first tail =>
    obtain ⟨⟨parts, rest'⟩, found, h⟩ := bind_eq_ok_iff.1 h
    obtain ⟨key, rfl⟩ := Prod.mk.inj (Except.ok.inj h)
    simp only [Key.mk.injEq, List.cons.injEq] at key
    obtain ⟨rfl, rfl, rfl⟩ := key
    obtain rfl := eq_of_readKeyParts found
    split at hm
    · exact absurd (Prod.mk.inj hm).1 (by simp)
    · exact (Prod.mk.inj hm).2
  all_goals cases h

/-- What is read as a key and an item is written as the item. -/
private theorem exists_written {tail : List Lexeme} (hk : readKey ls = .ok (key, tail))
    (hi : readItem key tail = .ok (item, rest)) : ∃ w, item.Written w ∧ ls = w ++ rest := by
  unfold readItem at hi
  cases named : key.name? with
  | none =>
    rw [named] at hi
    cases hi
  | some name =>
    rw [Key.name?_eq_some_iff.1 named] at hk
    obtain rfl := eq_cons_of_readKey hk
    simp only [named] at hi
    split at hi
    · next joint value rest' =>
      obtain ⟨rfl, rfl⟩ := Prod.mk.inj (Except.ok.inj hi)
      exact ⟨_, .valued name value joint, rfl⟩
    · cases hi
    · obtain ⟨rfl, rfl⟩ := Prod.mk.inj (Except.ok.inj hi)
      exact ⟨_, .bare name, rfl⟩

/-- What is written as an item is read as it, at the end or in front of a comma. -/
private theorem read_of_written (h : item.Written ls)
    (ends : rest = [] ∨ ∃ joint more, rest = .sign ',' joint :: more) :
    ∃ key tail, readKey (ls ++ rest) = .ok (key, tail) ∧ readItem key tail = .ok (item, rest) := by
  obtain rfl | ⟨joint, more, rfl⟩ := ends
  · cases h with
    | bare name => exact ⟨⟨false, [name]⟩, _, rfl, rfl⟩
    | valued name value joint => exact ⟨⟨false, [name]⟩, _, rfl, rfl⟩
  · cases h with
    | bare name => exact ⟨⟨false, [name]⟩, _, rfl, rfl⟩
    | valued name value joint => exact ⟨⟨false, [name]⟩, _, rfl, rfl⟩

/-! ## Items and attributes -/

private theorem itemsWritten_of_readEntries {bound : Nat} (enough : ls.length ≤ bound)
    (h : readEntries readItem bound ls = .ok items) : ItemsWritten items ls := by
  induction bound generalizing ls items with
  | zero =>
    obtain rfl := List.eq_nil_of_length_eq_zero (Nat.le_zero.1 enough)
    obtain rfl := Except.ok.inj h
    exact .nil
  | succ bound ih =>
    unfold readEntries at h
    split at h
    · next empty =>
      obtain rfl := List.isEmpty_iff.1 empty
      obtain rfl := Except.ok.inj h
      exact .nil
    · simp only [bind_eq_ok_iff] at h
      obtain ⟨⟨key, tail⟩, hk, ⟨item, rest⟩, hi, h⟩ := h
      obtain ⟨w, written, rfl⟩ := exists_written hk hi
      dsimp only at h
      split at h
      · obtain rfl := Except.ok.inj h
        rw [List.append_nil]
        exact .last written
      · obtain ⟨later, hl, h⟩ := bind_eq_ok_iff.1 h
        obtain rfl := Except.ok.inj h
        rw [List.length_append, List.length_cons] at enough
        exact .cons _ written (ih (by omega) hl)
      · cases h

private theorem Item.Written.exists_cons (h : item.Written ls) : ∃ l more, ls = l :: more := by
  cases h <;> exact ⟨_, _, rfl⟩

private theorem readEntries_of_itemsWritten {bound : Nat} (h : ItemsWritten items ls)
    (enough : ls.length ≤ bound) : readEntries readItem bound ls = .ok items := by
  induction h generalizing bound with
  | nil => cases bound <;> rfl
  | last first =>
    obtain ⟨l, more, rfl⟩ := first.exists_cons
    obtain ⟨bound, rfl⟩ := Nat.exists_eq_add_one_of_ne_zero (Nat.ne_zero_of_lt enough)
    obtain ⟨key, tail, hk, hi⟩ := read_of_written first (.inl rfl)
    rw [List.append_nil] at hk
    simp only [readEntries, List.isEmpty_cons, Bool.false_eq_true, if_false, bind_eq_ok_iff]
    exact ⟨_, hk, _, hi, rfl⟩
  | @cons item items _ rest joint first later ih =>
    obtain ⟨l, more, rfl⟩ := first.exists_cons
    obtain ⟨bound, rfl⟩ := Nat.exists_eq_add_one_of_ne_zero (Nat.ne_zero_of_lt enough)
    obtain ⟨key, tail, hk, hi⟩ := read_of_written first (.inr ⟨joint, rest, rfl⟩)
    have fits : rest.length ≤ bound := by
      simp only [List.length_append, List.length_cons] at enough
      omega
    rw [List.cons_append] at hk ⊢
    simp only [readEntries, List.isEmpty_cons, Bool.false_eq_true, if_false, bind_eq_ok_iff]
    exact ⟨_, hk, _, hi, bind_eq_ok_iff.2 ⟨items, ih fits, rfl⟩⟩

/-- The reader accepts what is written as items. -/
theorem readItems_eq_ok_iff : readItems ls = .ok items ↔ ItemsWritten items ls :=
  ⟨itemsWritten_of_readEntries (Nat.le_refl _),
    fun h => readEntries_of_itemsWritten h (Nat.le_refl _)⟩

/-- The key of an item that is written is one of the elements. -/
theorem ItemsWritten.ident_mem (h : ItemsWritten items ls) : ∀ i ∈ items, .ident i.key ∈ ls := by
  have named {item : Item} {w : List Lexeme} (first : item.Written w) : .ident item.key ∈ w := by
    cases first <;> exact List.mem_cons_self
  induction h with
  | nil => simp
  | last first => exact List.forall_mem_singleton.2 (named first)
  | cons joint first later ih =>
    refine List.forall_mem_cons.2 ⟨List.mem_append_left _ (named first), fun i hi => ?_⟩
    exact List.mem_append_right _ (.tail _ (ih i hi))

end

/-! ## Attributes -/

/-- The items that an attribute gives: an annotation those that it writes, and no other attribute
any. -/
inductive Attribute.Gives : Attribute → List Item → Prop
  | metadata {items : List Item} {ls : List Lexeme} (written : ItemsWritten items ls) :
    Gives (.known .metadata (.given ls)) items
  | storage (arguments : Arguments) : Gives (.known .storage arguments) []
  | other : Gives .other []

/-- The items that attributes give, one attribute after the other. -/
inductive ItemsGiven : List Attribute → List Item → Prop
  | nil : ItemsGiven [] []
  | cons {x : Attribute} {attributes : List Attribute} {items more : List Item}
    (first : x.Gives items) (later : ItemsGiven attributes more) :
    ItemsGiven (x :: attributes) (items ++ more)

section

variable {attributes : List Attribute} {items items' : List Item} {x : Attribute}

theorem Attribute.Gives.unique (h : x.Gives items) (h' : x.Gives items') : items = items' := by
  cases h with
  | metadata written =>
    cases h' with
    | metadata written' =>
      have same := (readItems_eq_ok_iff.2 written).symm.trans (readItems_eq_ok_iff.2 written')
      exact Except.ok.inj same
  | storage | other =>
    cases h'
    rfl

/-- Attributes give one list of items only. -/
theorem ItemsGiven.unique (h : ItemsGiven attributes items) (h' : ItemsGiven attributes items') :
    items = items' := by
  induction h generalizing items' with
  | nil =>
    cases h'
    rfl
  | cons first later ih =>
    cases h' with
    | cons first' later' => rw [first.unique first', ih later']

end

end EntityMap.Declaration
