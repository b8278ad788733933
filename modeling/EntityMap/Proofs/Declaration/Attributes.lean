import EntityMap.Proofs.Declaration.Items

/-!
# What attributes say

A storage attribute holds a column name or one of two words, and an annotation holds items.
`AttributesSay` collects both from a list of attributes, without a reader; a field has at most one
storage attribute, and its attributes are read as what they say. Of the annotations of a struct
every item is the flag `hooks`.
-/

namespace EntityMap.Declaration

/-! ## Storage attributes -/

/-- How a storage attribute is written. -/
inductive Storage.Written : Storage → List Lexeme → Prop
  | column {name : String} (ne : name ≠ "") : Written (.column name) [.string name]
  | skip : Written .skip [.ident "skip"]
  | flatten : Written .flatten [.ident "flatten"]

/-- What attributes say: how the field is stored, once for each storage attribute, and the items of
all annotations. -/
inductive AttributesSay : List Attribute → List Storage → List Item → Prop
  | nil : AttributesSay [] [] []
  | storage {ls : List Lexeme} {s : Storage} {attributes : List Attribute} {more : List Storage}
    {items : List Item} (written : s.Written ls) (later : AttributesSay attributes more items) :
    AttributesSay (.known .storage (.given ls) :: attributes) (s :: more) items
  | metadata {ls : List Lexeme} {items : List Item} {attributes : List Attribute}
    {storages : List Storage} {more : List Item} (written : ItemsWritten items ls)
    (later : AttributesSay attributes storages more) :
    AttributesSay (.known .metadata (.given ls) :: attributes) storages (items ++ more)
  | other {attributes : List Attribute} {storages : List Storage} {items : List Item}
    (later : AttributesSay attributes storages items) :
    AttributesSay (.other :: attributes) storages items

section

variable {attributes : List Attribute} {storages : List Storage} {items : List Item}
  {ls : List Lexeme} {s : Storage} {arguments : Arguments} {name : AttributeName}

/-- Arguments are read if they stand between brackets. -/
theorem Arguments.between_eq_ok_iff : arguments.between name = .ok ls ↔ arguments = .given ls := by
  cases arguments <;> simp [between, pure, Except.pure]

/-- A storage attribute is read if it is written in one of its forms. -/
theorem readStorage_eq_ok_iff : readStorage ls = .ok s ↔ s.Written ls := by
  constructor
  · intro h
    unfold readStorage at h
    split at h
    · next name rest =>
      split_ifs at h with empty
      · cases h
      · cases rest with
        | cons l more => cases h
        | nil =>
          obtain rfl := Except.ok.inj h
          exact .column fun none => empty (String.isEmpty_iff.2 none)
    · next word rest =>
      split_ifs at h with keyword skip flatten
      · cases h
      · cases rest with
        | cons l more => cases h
        | nil =>
          obtain rfl := Except.ok.inj h
          exact skip ▸ .skip
      · cases rest with
        | cons l more => cases h
        | nil =>
          obtain rfl := Except.ok.inj h
          exact flatten ▸ .flatten
      · cases h
    · cases h
  · intro written
    cases written with
    | @column name ne =>
      have nonempty : name.isEmpty = false :=
        Bool.eq_false_iff.2 fun empty => ne (String.isEmpty_iff.1 empty)
      simp [readStorage, nonempty, bind, Except.bind, pure, Except.pure]
    | skip | flatten => rfl

/-- The items that attributes say are those that they give. -/
theorem AttributesSay.itemsGiven (h : AttributesSay attributes storages items) :
    ItemsGiven attributes items := by
  induction h with
  | nil => exact .nil
  | storage written later ih => exact .cons (.storage _) ih
  | metadata written later ih => exact .cons (.metadata written) ih
  | other later ih => exact .cons .other ih

end

/-! ## The attributes of a field -/

namespace FieldAttributes

variable {attributes : List Attribute} {arguments : Arguments} {a b : FieldAttributes}

/-- A storage attribute is read if there was none before it. -/
theorem add_storage_eq_ok_iff : a.add (.known .storage arguments) = .ok b ↔ a.storage = none ∧
    ∃ ls s, arguments = .given ls ∧ Storage.Written s ls ∧ b = { a with storage := some s } := by
  unfold add
  cases a.storage with
  | some s => simp [bind, Except.bind]
  | none =>
    simp only [Option.isSome_none, Bool.false_eq_true, if_false, bind_eq_ok_iff,
      Arguments.between_eq_ok_iff, readStorage_eq_ok_iff, pure, Except.pure, Except.ok.injEq,
      true_and, @eq_comm _ b, exists_and_left]

/-- An annotation is read if its arguments are items. -/
theorem add_metadata_eq_ok_iff : a.add (.known .metadata arguments) = .ok b ↔
    ∃ ls items, arguments = .given ls ∧ ItemsWritten items ls ∧
      b = { a with items := a.items ++ items } := by
  simp only [add, bind_eq_ok_iff, Arguments.between_eq_ok_iff, readItems_eq_ok_iff, pure,
    Except.pure, Except.ok.injEq, @eq_comm _ b, exists_and_left]

/-- Attributes are read one after the other. -/
private theorem foldlM_add_eq_ok_iff : attributes.foldlM add a = .ok b ↔ ∃ storages items,
    AttributesSay attributes storages items ∧ b.storage.toList = a.storage.toList ++ storages ∧
      b.items = a.items ++ items := by
  induction attributes generalizing a with
  | nil =>
    simp only [List.foldlM_nil, pure, Except.pure, Except.ok.injEq]
    constructor
    · rintro rfl
      exact ⟨[], [], .nil, (List.append_nil _).symm, (List.append_nil _).symm⟩
    · rintro ⟨storages, items, say, storage, all⟩
      cases say
      obtain ⟨_ | s, _⟩ := a <;> obtain ⟨_ | s', _⟩ := b <;> simp_all
  | cons x rest ih =>
    rw [List.foldlM_cons, bind_eq_ok_iff]
    simp only [ih]
    match x with
    | .other =>
      constructor
      · rintro ⟨next, first, storages, items, say, same⟩
        obtain rfl := Except.ok.inj first
        exact ⟨storages, items, .other say, same⟩
      · rintro ⟨storages, items, say, same⟩
        cases say with
        | other later => exact ⟨a, rfl, _, _, later, same⟩
    | .known .metadata arguments =>
      simp only [add_metadata_eq_ok_iff]
      constructor
      · rintro ⟨_, ⟨ls, found, rfl, written, rfl⟩, storages, items, say, storage, all⟩
        exact ⟨storages, found ++ items, .metadata written say, storage,
          by rw [all, List.append_assoc]⟩
      · rintro ⟨storages, items, say, storage, all⟩
        cases say with
        | metadata written later =>
          exact ⟨_, ⟨_, _, rfl, written, rfl⟩, _, _, later, storage, by rw [all, List.append_assoc]⟩
    | .known .storage arguments =>
      simp only [add_storage_eq_ok_iff]
      constructor
      · rintro ⟨_, ⟨first, ls, s, rfl, written, rfl⟩, storages, items, say, storage, all⟩
        exact ⟨s :: storages, items, .storage written say, by simpa [first] using storage, all⟩
      · rintro ⟨storages, items, say, storage, all⟩
        cases say with
        | storage written later =>
          -- `b` has at most one storage, so none was read before this one
          have first : a.storage = none := by
            cases before : a.storage with
            | none => rfl
            | some s => cases after : b.storage <;> simp [before, after] at storage
          exact ⟨_, ⟨first, _, _, rfl, written, rfl⟩, _, _, later, by simpa [first] using storage, all⟩

/-- Attributes are read as what they say, if they say at most once how the field is stored. -/
theorem ofList_eq_ok_iff :
    ofList attributes = .ok a ↔ AttributesSay attributes a.storage.toList a.items := by
  rw [ofList, foldlM_add_eq_ok_iff]
  constructor
  · rintro ⟨storages, items, say, storage, all⟩
    simpa [storage, all] using say
  · intro say
    exact ⟨_, _, say, rfl, rfl⟩

/-- What is read off the attributes of a field are the items that they give. -/
theorem itemsGiven_of_ofList (h : ofList attributes = .ok a) : ItemsGiven attributes a.items :=
  (ofList_eq_ok_iff.1 h).itemsGiven

end FieldAttributes

/-! ## The attributes of a struct -/

/-- The flag of a struct, as an item. -/
def Item.hooks : Item := ⟨"hooks", none⟩

section

variable {attributes : List Attribute} {items : List Item} {ls tail rest : List Lexeme} {key : Key}

/-- In front of a comma or at the end, the flag is read where the item is. -/
private theorem readFlag_iff (ends : rest = [] ∨ ∃ joint more, rest = .sign ',' joint :: more) :
    readFlag key tail = .ok ((), rest) ↔ readItem key tail = .ok (.hooks, rest) := by
  unfold readFlag readItem
  cases named : key.name? with
  | none => simp
  | some name =>
    constructor
    · intro h
      split at h
      · next same =>
        obtain rfl := Option.some.inj same
        obtain ⟨-, rfl⟩ := Prod.mk.inj (Except.ok.inj h)
        obtain rfl | ⟨joint, more, rfl⟩ := ends <;> rfl
      · cases h
    · intro h
      dsimp only at h
      split at h
      · next joint value rest' =>
        obtain ⟨item, -⟩ := Prod.mk.inj (Except.ok.inj h)
        cases item
      · cases h
      · obtain ⟨item, rfl⟩ := Prod.mk.inj (Except.ok.inj h)
        obtain rfl := (Item.mk.inj item).1
        rfl

/-- Flags are read from just those elements from which items are read that are all the flag. -/
private theorem readEntries_readFlag {bound : Nat} {flags : List Unit} :
    readEntries readFlag bound ls = .ok flags ↔ ∃ items, readEntries readItem bound ls = .ok items ∧
      (∀ i ∈ items, i = .hooks) ∧ items.length = flags.length := by
  induction bound generalizing ls flags with
  | zero => cases flags <;> simp [readEntries, pure, Except.pure]
  | succ bound ih =>
    by_cases empty : ls.isEmpty = true
    · cases flags <;> simp [readEntries, empty, pure, Except.pure]
    · simp only [readEntries, empty, Bool.false_eq_true, if_false, bind_eq_ok_iff]
      constructor
      · rintro ⟨⟨key, tail⟩, hk, ⟨⟨⟩, rest⟩, hf, h⟩
        dsimp only at h
        split at h
        · obtain rfl := Except.ok.inj h
          exact ⟨[.hooks], ⟨_, hk, _, (readFlag_iff (.inl rfl)).1 hf, rfl⟩, by simp, rfl⟩
        · next joint rest =>
          obtain ⟨later, hl, h⟩ := bind_eq_ok_iff.1 h
          obtain rfl := Except.ok.inj h
          obtain ⟨items, hi, all, length⟩ := ih.1 hl
          have first := (readFlag_iff (.inr ⟨joint, rest, rfl⟩)).1 hf
          exact ⟨.hooks :: items, ⟨_, hk, _, first, bind_eq_ok_iff.2 ⟨items, hi, rfl⟩⟩,
            List.forall_mem_cons.2 ⟨rfl, all⟩, by simp [length]⟩
        · cases h
      · rintro ⟨items, ⟨⟨key, tail⟩, hk, ⟨item, rest⟩, hi, h⟩, all, length⟩
        dsimp only at h
        split at h
        · obtain rfl := Except.ok.inj h
          obtain rfl := all item List.mem_cons_self
          obtain ⟨⟨⟩, rfl⟩ := List.length_eq_one_iff.1 length.symm
          exact ⟨_, hk, _, (readFlag_iff (.inl rfl)).2 hi, rfl⟩
        · next joint rest =>
          obtain ⟨later, hl, h⟩ := bind_eq_ok_iff.1 h
          obtain rfl := Except.ok.inj h
          obtain ⟨rfl, others⟩ := List.forall_mem_cons.1 all
          obtain ⟨⟨⟩, flags, rfl⟩ := List.exists_cons_of_length_eq_add_one length.symm
          have more := ih.2 ⟨later, hl, others, by simpa using length⟩
          have first := (readFlag_iff (.inr ⟨joint, rest, rfl⟩)).2 hi
          exact ⟨_, hk, _, first, bind_eq_ok_iff.2 ⟨flags, more, rfl⟩⟩
        · cases h

/-- An annotation is read as one of a struct if all its items are the flag. -/
private theorem exists_flags_iff {arguments : Arguments} {empty : Bool} :
    (∃ ls, arguments.between .metadata = .ok ls ∧
      ∃ flags, readEntries readFlag ls.length ls = .ok flags ∧ flags.isEmpty = empty) ↔
      ∃ items, Attribute.Gives (.known .metadata arguments) items ∧ (∀ i ∈ items, i = .hooks) ∧
        items.isEmpty = empty := by
  simp only [Arguments.between_eq_ok_iff, readEntries_readFlag]
  constructor
  · rintro ⟨ls, rfl, flags, ⟨items, read, all, length⟩, rfl⟩
    refine ⟨items, .metadata (readItems_eq_ok_iff.1 read), all, ?_⟩
    cases items <;> cases flags <;> simp_all
  · rintro ⟨items, gives, all, rfl⟩
    cases gives with
    | metadata written =>
      have read := readItems_eq_ok_iff.2 written
      refine ⟨_, rfl, items.map fun _ => (), ⟨items, read, all, by simp⟩, ?_⟩
      cases items <;> rfl

private theorem itemsGiven_cons_iff {x : Attribute} (none : x.Gives []) :
    ItemsGiven (x :: attributes) items ↔ ItemsGiven attributes items := by
  constructor
  · intro given
    cases given with
    | cons first later =>
      obtain rfl := first.unique none
      exact later
  · exact .cons none

/-- The attributes of a struct are read if all their items are the flag, and they have it if there
is an item. -/
theorem hasHooks_eq_ok_iff {found : Bool} : hasHooks attributes = .ok found ↔
    ∃ items, ItemsGiven attributes items ∧ (∀ i ∈ items, i = .hooks) ∧ found = !items.isEmpty := by
  unfold hasHooks
  change _ ↔ ∃ items, ItemsGiven attributes items ∧ (∀ i ∈ items, i = .hooks) ∧
    found = (false || !items.isEmpty)
  -- what was found before is kept
  generalize false = before
  induction attributes generalizing before with
  | nil =>
    constructor
    · intro h
      exact ⟨[], .nil, by simp, by simpa [pure, Except.pure, eq_comm] using h⟩
    · rintro ⟨items, given, -, rfl⟩
      cases given
      simp [pure, Except.pure]
  | cons x rest ih =>
    rw [List.foldlM_cons, bind_eq_ok_iff]
    simp only [ih]
    match x with
    | .other => simp [itemsGiven_cons_iff .other, pure, Except.pure]
    | .known .storage arguments =>
      simp [itemsGiven_cons_iff (.storage arguments), pure, Except.pure]
    | .known .metadata arguments =>
      simp only [bind_eq_ok_iff, pure, Except.pure, Except.ok.injEq]
      constructor
      · rintro ⟨_, ⟨ls, between, flags, read, rfl⟩, more, given, all, rfl⟩
        obtain ⟨items, gives, flag, empty⟩ := exists_flags_iff.1 ⟨ls, between, flags, read, rfl⟩
        refine ⟨items ++ more, .cons gives given, List.forall_mem_append.2 ⟨flag, all⟩, ?_⟩
        rw [← empty]
        cases items <;> simp
      · rintro ⟨_, given, all, rfl⟩
        cases given with
        | @cons _ _ items more gives given =>
          obtain ⟨flag, all⟩ := List.forall_mem_append.1 all
          obtain ⟨ls, between, flags, read, empty⟩ := exists_flags_iff.2 ⟨items, gives, flag, rfl⟩
          refine ⟨_, ⟨ls, between, flags, read, rfl⟩, more, given, all, ?_⟩
          rw [empty]
          cases items <;> simp

end

end EntityMap.Declaration
