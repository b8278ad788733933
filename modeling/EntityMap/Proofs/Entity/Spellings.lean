import EntityMap.Proofs.Entity.Tokens

/-!
# Spellings of annotations

A list of tokens may be spelled in many ways: with white space around keys and values, and with blank
items between the tokens. A token that was read off a text has trimmed parts without commas, and no
equals sign in its key, so each of its spellings is read as the token itself:
`Tag.tokens_of_parts_and_spellings`.
-/

namespace EntityMap

/-- The text is nothing but white space. -/
def Text.IsBlank (s : String) : Prop := ∀ c ∈ s.toList, Text.isBlank c = true

instance (s : String) : Decidable (Text.IsBlank s) :=
  decidable_of_iff (s.toList.all Text.isBlank = true) List.all_eq_true

namespace Token

/-- The item has the key of the token, an equals sign and the value, and white space around them. -/
def IsSpelled (t : Token) (item : String) : Prop :=
  ∃ before beforeSign afterSign after, Text.IsBlank before ∧ Text.IsBlank beforeSign ∧
    Text.IsBlank afterSign ∧ Text.IsBlank after ∧
    item = (before ++ t.key ++ beforeSign) ++ "=" ++ (afterSign ++ t.value ++ after)

end Token

/-- The items spell the tokens one after the other, with blank items between them. -/
inductive Tag.Spells : List Token → List String → Prop
  | nil : Spells [] []
  | blank {tokens : List Token} {items : List String} {item : String} (blank : Text.IsBlank item)
      (rest : Spells tokens items) : Spells tokens (item :: items)
  | token {t : Token} {tokens : List Token} {items : List String} {item : String}
      (spelled : t.IsSpelled item) (rest : Spells tokens items) :
      Spells (t :: tokens) (item :: items)

/-! ## One item -/

theorem Text.IsBlank.not_mem {s : String} {c : Char} (h : Text.IsBlank s)
    (sign : Text.isBlank c = false) : c ∉ s.toList := by
  intro mem
  rw [h c mem] at sign
  exact absurd sign (by decide)

/-- Nothing is left of a blank text. -/
theorem Text.IsBlank.trim_eq_nil {s : String} (h : Text.IsBlank s) : Text.trim s.toList = [] := by
  have trimmed := Text.trim_append_blanks (s := []) h (List.forall_mem_nil _)
  rwa [List.append_nil, List.append_nil] at trimmed

namespace Tag

variable {t : Token} {tokens : List Token} {item text : String} {items : List String}

/-- A blank item has no tokens. -/
theorem tokens_of_isBlank (h : Text.IsBlank item) : (ofString item).tokens = [] := by
  have nothing : Tag.items item.toList = [] := by
    rw [Tag.items, Text.pieces_of_not_mem (h.not_mem rfl), List.map_singleton, h.trim_eq_nil]
    rfl
  rw [ofString, nothing, List.map_nil]

/-- An item that spells a token is read as the token. -/
theorem tokens_of_isSpelled (normal : t.IsNormal) (h : t.IsSpelled item) :
    (ofString item).tokens = [t] := by
  obtain ⟨before, beforeSign, afterSign, after, hb, hbs, has, ha, rfl⟩ := h
  have key : Text.trim (before ++ t.key ++ beforeSign).toList = t.key.toList := by
    rw [String.toList_append, String.toList_append, Text.trim_append_blanks hb hbs,
      normal.key_trimmed]
  have value : Text.trim (afterSign ++ t.value ++ after).toList = t.value.toList := by
    rw [String.toList_append, String.toList_append, Text.trim_append_blanks has ha,
      normal.value_trimmed]
  rw [tokens_of_equation, key, value, String.ofList_toList, String.ofList_toList]
  · simp [hb.not_mem, hbs.not_mem, normal.key_comma, Text.isBlank]
  · simp [has.not_mem, ha.not_mem, normal.value_comma, Text.isBlank]
  · simp [hb.not_mem, hbs.not_mem, normal.key_sign, Text.isBlank]

/-! ## Many items -/

/-- Items that spell tokens are read as these, each item for itself. -/
theorem Spells.flatMap_tokens (h : Spells tokens items) (normal : ∀ t ∈ tokens, t.IsNormal) :
    items.flatMap (fun item => (ofString item).tokens) = tokens := by
  induction h with
  | nil => rfl
  | blank blank _ ih => rw [List.flatMap_cons, tokens_of_isBlank blank, List.nil_append, ih normal]
  | token spelled _ ih =>
    obtain ⟨first, rest⟩ := List.forall_mem_cons.1 normal
    rw [List.flatMap_cons, tokens_of_isSpelled first spelled, ih rest, List.singleton_append]

/-- The tokens of two texts with a comma between them are those of the one and then those of the
other. Tokens that were read off a text are read again from each of their spellings. -/
theorem tokens_of_parts_and_spellings :
    (∀ s t : String, (ofString (s ++ "," ++ t)).tokens =
      (ofString s).tokens ++ (ofString t).tokens) ∧
    ∀ (s : String) (items : List String), Spells (ofString s).tokens items →
      ofString (Text.join "," items) = ofString s := by
  refine ⟨fun s t => ?_, fun s items spelled => ?_⟩
  · have split : (s ++ "," ++ t).toList = s.toList ++ ',' :: t.toList := by simp
    simp only [ofString, split, items_append_cons, List.map_append]
  · have tokens := spelled.flatMap_tokens fun t => isNormal_of_mem_tokens
    rw [← tokens_join] at tokens
    exact congrArg Tag.mk tokens

end Tag

/-- A key without a value, a value without a key and a value with an equals sign are read back from
items with blanks and between empty ones. -/
theorem tokens_of_spaced_flags :
    let s := "flag ,, =x,a = b=c "
    let items := [" ", "\tflag= ", "", "=\u2003x", "\na =b=c", ""]
    Tag.Spells (Tag.ofString s).tokens items ∧
    Text.join "," items = " ,\tflag= ,,=\u2003x,\na =b=c," ∧
    (Tag.ofString s).tokens = [⟨"flag", ""⟩, ⟨"", "x"⟩, ⟨"a", "b=c"⟩] ∧
    Tag.ofString (Text.join "," items) = Tag.ofString s := by
  intro s items
  have read : (Tag.ofString s).tokens = [⟨"flag", ""⟩, ⟨"", "x"⟩, ⟨"a", "b=c"⟩] := by decide
  have spelled : Tag.Spells (Tag.ofString s).tokens items := by
    rw [read]
    refine .blank (by decide) (.token ⟨"\t", "", " ", "", ?_⟩ (.blank (by decide) ?_))
    · decide
    refine .token ⟨"", "", "\u2003", "", ?_⟩ (.token ⟨"\n", " ", "", "", ?_⟩ ?_)
    · decide
    · decide
    exact .blank (by decide) .nil
  exact ⟨spelled, by decide, read, Tag.tokens_of_parts_and_spellings.2 s items spelled⟩

end EntityMap
