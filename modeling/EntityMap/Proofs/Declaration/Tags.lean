import EntityMap.Proofs.Declaration.Kinds

/-!
# Annotations written down and read back

The items of a field are written into one text, which a registry reads as tokens. Each item is read
back as one token, of its key and its trimmed value, unless there is a comma in the value: the comma
ends the token, and what stands behind it is read as further tokens.
-/

namespace EntityMap.Declaration

namespace Item

/-- The token that says what the item says. -/
def token (i : Item) : Token := ⟨i.key, .ofList (Text.trim (i.value.getD "").toList)⟩

/-- There is no comma in the value. -/
def IsUncut (i : Item) : Prop := ',' ∉ (i.value.getD "").toList

instance (i : Item) : Decidable i.IsUncut := inferInstanceAs (Decidable (¬ _ ∈ _))

/-- The tokens as which the item is read back. -/
def readBack (i : Item) : List Token :=
  match i.value with
  | none => [⟨i.key, ""⟩]
  | some v =>
    match Text.cutAt ',' v.toList with
    | none => [⟨i.key, .ofList (Text.trim v.toList)⟩]
    | some (first, rest) =>
      ⟨i.key, .ofList (Text.trim first)⟩ :: (Tag.ofString (.ofList rest)).tokens

variable {i : Item}

/-- The text of an item is read as its tokens. -/
theorem tokens_text (word : IsWord i.key) : (Tag.ofString i.text).tokens = i.readBack := by
  obtain ⟨key, value⟩ := i
  obtain ⟨ne, plain⟩ := word.plain
  cases value with
  | none => exact Tag.tokens_of_word ne plain
  | some v =>
    simp only [readBack, text]
    cases cut : Text.cutAt ',' v.toList with
    | none => exact Tag.tokens_of_assignment plain (Text.cutAt_eq_none_iff.1 cut)
    | some parts =>
      obtain ⟨first, rest⟩ := parts
      obtain ⟨comma, split⟩ := Text.cutAt_eq_some_iff.1 cut
      have value : v = .ofList first ++ "," ++ .ofList rest := by
        rw [← String.toList_inj, split]
        simp
      rw [value, Tag.tokens_of_cut_assignment plain (by simpa using comma)]
      simp

/-- Without a comma in its value an item is read back as one token. -/
theorem readBack_of_isUncut (h : i.IsUncut) : i.readBack = [i.token] := by
  obtain ⟨key, value⟩ := i
  cases value with
  | none => rfl
  | some v =>
    have cut : Text.cutAt ',' v.toList = none := Text.cutAt_eq_none_iff.2 h
    simp [readBack, token, cut]

/-- The token of an item with a comma in its value has the comma, too. -/
theorem comma_mem_of_not_isUncut (h : ¬ i.IsUncut) : ',' ∈ i.token.value.toList := by
  rw [token, String.toList_ofList]
  exact Text.mem_trim (not_not.1 h) rfl

end Item

/-- The text of a field is read as the tokens of its items. -/
theorem FieldAttributes.tokens_tag {a : FieldAttributes}
    (words : ∀ item ∈ a.items, IsWord item.key) :
    (Tag.ofString a.tag).tokens = a.items.flatMap Item.readBack := by
  rw [tag, Tag.tokens_join, List.flatMap_map]
  exact List.flatMap_congr fun item mem => Item.tokens_text (words item mem)

/-- Each item is read back as one token just if there is no comma in a value. -/
theorem FieldAttributes.tokens_tag_eq_map_iff {a : FieldAttributes}
    (words : ∀ item ∈ a.items, IsWord item.key) :
    (Tag.ofString a.tag).tokens = a.items.map Item.token ↔ ∀ item ∈ a.items, item.IsUncut := by
  constructor
  · intro same item mem
    by_contra cut
    have token : item.token ∈ (Tag.ofString a.tag).tokens := by
      rw [same]
      exact List.mem_map_of_mem mem
    exact (Tag.isNormal_of_mem_tokens token).value_comma (Item.comma_mem_of_not_isUncut cut)
  · intro uncut
    rw [tokens_tag words, List.map_eq_flatMap]
    exact List.flatMap_congr fun item mem => Item.readBack_of_isUncut (uncut item mem)

/-- The text that is written for a field of an accepted declaration is read as the tokens of the
items that the attributes of the field give, in their order: a token of the key and the trimmed
value for each, just if there is no comma in a value. -/
theorem Struct.tags_read_back {d : Struct} {b : Blueprint} {fields : List DeclaredField}
    (accepted : d.blueprint = .ok b) (form : d.form = .namedFields fields)
    (words : ∀ f ∈ fields, ∀ x ∈ f.attributes, x.NamesAreWords) :
    List.Forall₂ (fun f p => ∃ items,
      (∀ given, ItemsGiven f.attributes given ↔ given = items) ∧
      (Tag.ofString p.tag).tokens = items.flatMap Item.readBack ∧
      ((Tag.ofString p.tag).tokens = items.map Item.token ↔ ∀ item ∈ items, item.IsUncut))
      fields b.fields := by
  refine List.forall₂_iff_get.2 ⟨(forall₂_plan accepted form).length_eq, fun i hi hj => ?_⟩
  obtain ⟨a, c, listed, -, planned⟩ :=
    DeclaredField.plan_eq_ok_iff.1 ((forall₂_plan accepted form).get hi hj)
  have keys := FieldAttributes.isWord_of_ofList (words _ (List.get_mem ..)) listed
  have given := FieldAttributes.itemsGiven_of_ofList listed
  rw [planned]
  refine ⟨a.items, fun items => ⟨fun h => h.unique given, ?_⟩, FieldAttributes.tokens_tag keys,
    FieldAttributes.tokens_tag_eq_map_iff keys⟩
  rintro rfl
  exact given

/-! ## The subject of a letter -/

private def letterStruct (attributes : List Attribute) : Struct where
  name := "Letter"
  form := .namedFields [⟨"subject", .path ["String"], attributes⟩]

private def letterBlueprint (tag column : String) : Blueprint where
  name := "Letter"
  ownHooks := false
  fields := [⟨"subject", .path ["String"], tag, .column column⟩]

private def letterScope : Scope where
  scalar _ := ⟨.string, false⟩
  embedded _ := ⟨⟨1, "None"⟩, []⟩
  target _ := ⟨1, "None"⟩

private def spacedItems : List Item :=
  [⟨"version", none⟩, ⟨"relation_name", some " x=y "⟩, ⟨"sql_id_field", some "n"⟩]

private def spacedAttributes : List Attribute :=
  [.known .metadata (.given
      [.ident "version", .sign ',', .ident "relation_name", .sign '=', .string " x=y "]),
    .known .storage (.given [.string "topic"]),
    .known .metadata (.given [.ident "sql_id_field", .sign '=', .string "n"])]

private theorem itemsGiven_spaced : ItemsGiven spacedAttributes spacedItems :=
  .cons (.metadata (.cons false (.bare "version") (.last (.valued "relation_name" " x=y " false))))
    (.cons (.storage _) (.cons (.metadata (.last (.valued "sql_id_field" "n" false))) .nil))

/-- The items of two annotations are read back in order, without the blanks around values. -/
theorem tags_read_back_of_letter :
    let tag := "version,relation_name= x=y ,sql_id_field=n"
    (letterStruct spacedAttributes).blueprint = .ok (letterBlueprint tag "topic") ∧
    (Tag.ofString tag).tokens =
      [⟨"version", ""⟩, ⟨"relation_name", "x=y"⟩, ⟨"sql_id_field", "n"⟩] := by
  intro tag
  have accepted : (letterStruct spacedAttributes).blueprint = .ok (letterBlueprint tag "topic") :=
    rfl
  have read : (Lexeme.ofString? "#[relmeta(version, relation_name = \" x=y \")] #[db(\"topic\")]
    #[relmeta(sql_id_field = \"n\")]").bind Attribute.listOf? = some spacedAttributes := rfl
  have tags := Struct.tags_read_back accepted rfl
    (List.forall_mem_singleton.2 (Attribute.namesAreWords_of_text read))
  obtain ⟨items, given, -, whole⟩ := (List.forall₂_cons.1 tags).1
  obtain rfl := (given _).1 itemsGiven_spaced
  have uncut : ∀ item ∈ spacedItems, item.IsUncut := by decide
  exact ⟨accepted, (whole.2 uncut).trans (by decide)⟩

/-- A comma in the name of a relation makes a key of the field. -/
theorem letter_gains_key :
    let items : List Item := [⟨"relation_name", some "subject,pk"⟩]
    let attributes : List Attribute := [.known .metadata (.given
      [.ident "relation_name", .sign '=', .string "subject,pk"])]
    let b := letterBlueprint "relation_name=subject,pk" "subject"
    ItemsGiven attributes items ∧ (letterStruct attributes).blueprint = .ok b ∧
    (Tag.ofString "relation_name=subject,pk").tokens =
      [⟨"relation_name", "subject"⟩, ⟨"pk", ""⟩] ∧
    (Tag.ofString "relation_name=subject,pk").tokens ≠ items.map Item.token ∧
    ∃ e, Entity.ofSchema? (b.schema letterScope 0) (some "letter") = .ok e ∧
      e.keyColumns = ["subject"] :=
  ⟨.cons (.metadata (.last (.valued _ _ false))) .nil, rfl, by decide, by decide, _, rfl, rfl⟩

end EntityMap.Declaration
