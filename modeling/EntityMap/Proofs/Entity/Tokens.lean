import EntityMap.Tag
import Mathlib.Data.List.Basic
import Mathlib.Data.List.DropRight
import Mathlib.Data.List.Induction

/-!
# Annotation texts in parts

A comma ends a token wherever it stands, so the tokens of several texts with commas between them are
those of the texts, one text after the other. A text without commas, equals signs and blanks is one
flag, and with an equals sign and a value behind it one token of its key.
-/

namespace EntityMap

/-! ## Trimming -/

section Trimming

variable {p : Char → Bool} {c : Char} {s : List Char}

/-- Nothing is dropped in front of a character that is kept. -/
private theorem Text.dropWhile_eq_self (first : ∀ c, s.head? = some c → p c = false) :
    s.dropWhile p = s := by
  cases s with
  | nil => rfl
  | cons c rest => rw [List.dropWhile_cons, first c rfl, if_neg Bool.false_ne_true]

theorem Text.dropEnd_append_singleton (h : p c = true) (s : List Char) :
    Text.dropEnd p (s ++ [c]) = Text.dropEnd p s := by
  simp [Text.dropEnd, h]

/-- A text whose last character is kept has nothing dropped at its end. -/
theorem Text.dropEnd_eq_self (last : ∀ c, s.getLast? = some c → p c = false) :
    Text.dropEnd p s = s := by
  rw [Text.dropEnd, Text.dropWhile_eq_self fun c hc => last c (by rwa [← List.head?_reverse]),
    List.reverse_reverse]

/-- Only the end is trimmed behind a character that is kept. -/
theorem Text.trimOf_eq_dropEnd (first : ∀ c, s.head? = some c → p c = false) :
    Text.trimOf p s = Text.dropEnd p s := by
  rw [Text.trimOf, Text.dropWhile_eq_self first]

/-- What stands first is trimmed. -/
theorem Text.trimOf_cons (h : p c = true) (s : List Char) :
    Text.trimOf p (c :: s) = Text.trimOf p s := by
  rw [Text.trimOf, Text.trimOf, List.dropWhile_cons_of_pos h]

/-- A text without blanks has none to be trimmed of. -/
theorem Text.trim_eq_self (h : ∀ c ∈ s, Text.isBlank c = false) : Text.trim s = s := by
  rw [Text.trim, Text.trimOf_eq_dropEnd fun c hc => h c (List.mem_of_head? hc),
    Text.dropEnd_eq_self fun c hc => h c (List.mem_of_getLast? hc)]

/-- What stands in front of a character that is kept is kept. -/
theorem Text.dropEnd_append_cons (h : p c = false) (s t : List Char) :
    Text.dropEnd p (s ++ c :: t) = s ++ c :: Text.dropEnd p t := by
  rw [Text.dropEnd, Text.dropEnd, List.reverse_append, List.reverse_cons, List.append_assoc,
    List.dropWhile_append]
  cases t.reverse.dropWhile p with
  | nil => simp [h]
  | cons last before => simp

/-- A text that has its end trimmed already is trimmed as before. -/
theorem Text.trim_dropEnd (s : List Char) :
    Text.trim (Text.dropEnd Text.isBlank s) = Text.trim s := by
  induction s using List.reverseRecOn with
  | nil => rfl
  | append_singleton s c ih =>
    cases blank : Text.isBlank c with
    | false => rw [Text.dropEnd_append_cons blank, Text.dropEnd, List.reverse_nil]; rfl
    | true =>
      rw [Text.dropEnd_append_singleton blank, ih, Text.trim, Text.trim, Text.trimOf, Text.trimOf,
        List.dropWhile_append]
      split
      · next empty => simp [List.isEmpty_iff.1 empty, Text.dropEnd, blank]
      · simp [Text.dropEnd, blank]

/-- What stands behind a character that is kept is kept. -/
theorem Text.dropWhile_append_cons (h : p c = false) (s t : List Char) :
    (s ++ c :: t).dropWhile p = s.dropWhile p ++ c :: t := by
  rw [List.dropWhile_append]
  split
  · next empty => simp [List.isEmpty_iff.1 empty, h]
  · rfl

/-- On either side of a character that is no blank only the outer end is trimmed. -/
theorem Text.trim_append_cons (sign : Text.isBlank c = false) (s t : List Char) :
    Text.trim (s ++ c :: t) =
      s.dropWhile Text.isBlank ++ c :: Text.dropEnd Text.isBlank t := by
  rw [Text.trim, Text.trimOf, Text.dropWhile_append_cons sign, Text.dropEnd_append_cons sign]

/-- A text that has its start trimmed already is trimmed as before. -/
theorem Text.trim_dropWhile (s : List Char) :
    Text.trim (s.dropWhile Text.isBlank) = Text.trim s := by
  rw [Text.trim, Text.trim, Text.trimOf, Text.trimOf, List.dropWhile_idempotent]

/-- A trimmed text has nothing left to be trimmed. -/
theorem Text.trim_trim (s : List Char) : Text.trim (Text.trim s) = Text.trim s := by
  have parts : Text.trim s = Text.dropEnd Text.isBlank (s.dropWhile Text.isBlank) := rfl
  rw [parts, Text.trim_dropEnd, Text.trim_dropWhile, parts]

/-- Blanks around a text are trimmed. -/
theorem Text.trim_append_blanks {front back : List Char}
    (hf : ∀ c ∈ front, Text.isBlank c = true) (hb : ∀ c ∈ back, Text.isBlank c = true) :
    Text.trim (front ++ s ++ back) = Text.trim s := by
  have ends : Text.dropEnd Text.isBlank (s ++ back) = Text.dropEnd Text.isBlank s := by
    rw [Text.dropEnd, List.reverse_append, List.dropWhile_append_of_pos
      fun c hc => hb c (List.mem_reverse.1 hc), Text.dropEnd]
  rw [List.append_assoc, ← Text.trim_dropWhile, List.dropWhile_append_of_pos hf,
    Text.trim_dropWhile, ← Text.trim_dropEnd, ends, Text.trim_dropEnd]

/-- Trimming adds nothing. -/
theorem Text.mem_of_mem_trim (h : c ∈ Text.trim s) : c ∈ s := by
  rw [Text.trim, Text.trimOf, Text.dropEnd, List.mem_reverse] at h
  have kept := (List.dropWhile_sublist _).subset h
  exact (List.dropWhile_sublist _).subset (List.mem_reverse.1 kept)

/-- What is no white space is not trimmed. -/
theorem Text.mem_trim (mem : c ∈ s) (sign : Text.isBlank c = false) : c ∈ Text.trim s := by
  have kept {t : List Char} (h : c ∈ t) : c ∈ t.dropWhile Text.isBlank := by
    rw [← List.takeWhile_append_dropWhile (p := Text.isBlank) (l := t), List.mem_append] at h
    refine h.resolve_left fun dropped => ?_
    rw [List.all_eq_true.1 List.all_takeWhile c dropped] at sign
    exact absurd sign (by decide)
  rw [Text.trim, Text.trimOf, Text.dropEnd, List.mem_reverse]
  exact kept (List.mem_reverse.2 (kept mem))

end Trimming

/-! ## Texts in parts -/

/-- Nothing is left to be trimmed or cut in the token. -/
structure Token.IsNormal (t : Token) : Prop where
  key_comma : ',' ∉ t.key.toList
  value_comma : ',' ∉ t.value.toList
  key_sign : '=' ∉ t.key.toList
  key_trimmed : Text.trim t.key.toList = t.key.toList
  value_trimmed : Text.trim t.value.toList = t.value.toList

namespace Tag

/-- Of two texts with a comma between them, each gives its own items. -/
theorem items_append_cons (s t : List Char) : items (s ++ ',' :: t) = items s ++ items t := by
  simp only [items, Text.pieces_append_cons, List.map_append, List.filter_append]

/-- The tokens of texts with commas between them are those of the texts, one after the other. -/
theorem tokens_join (texts : List String) :
    (ofString (Text.join "," texts)).tokens = texts.flatMap fun t => (ofString t).tokens := by
  induction texts with
  | nil => rfl
  | cons t rest ih =>
    cases rest with
    | nil => simp [Text.join]
    | cons u rest =>
      have split : (Text.join "," (t :: u :: rest)).toList =
          t.toList ++ ',' :: (Text.join "," (u :: rest)).toList := by
        simp [Text.join]
      rw [List.flatMap_cons, ← ih]
      simp only [ofString, split, items_append_cons, List.map_append]

/-- A key stands in one of the texts. -/
theorem has_join_iff {texts : List String} {key : String} :
    (ofString (Text.join "," texts)).has key = true ↔
      ∃ t ∈ texts, (ofString t).has key = true := by
  simp only [has, tokens_join, List.any_flatMap, List.any_eq_true]

/-- A word has nothing in it that could be cut or trimmed, so it is read as a flag. -/
theorem tokens_of_word {s : String} (ne : s ≠ "")
    (plain : ∀ c ∈ s.toList, c ≠ ',' ∧ c ≠ '=' ∧ Text.isBlank c = false) :
    (ofString s).tokens = [⟨s, ""⟩] := by
  have comma : ',' ∉ s.toList := fun mem => (plain _ mem).1 rfl
  have equals : '=' ∉ s.toList := fun mem => (plain _ mem).2.1 rfl
  have filled : s.toList ≠ [] := by simpa using ne
  have items : items s.toList = [s.toList] := by
    rw [Tag.items, Text.pieces_of_not_mem comma, List.map_singleton,
      Text.trim_eq_self fun c hc => (plain c hc).2.2]
    simp [filled]
  rw [ofString, items, List.map_singleton, Token.ofItem, Text.cutAt_eq_none_iff.2 equals]
  simp

/-- Two texts with an equals sign between them are one token, of which the first is the key, unless
it has an equals sign, or either a comma. -/
theorem tokens_of_equation {front back : String} (comma : ',' ∉ front.toList)
    (comma' : ',' ∉ back.toList) (sign : '=' ∉ front.toList) :
    (ofString (front ++ "=" ++ back)).tokens =
      [⟨.ofList (Text.trim front.toList), .ofList (Text.trim back.toList)⟩] := by
  have text : (front ++ "=" ++ back).toList = front.toList ++ '=' :: back.toList := by simp
  have uncut : ',' ∉ front.toList ++ '=' :: back.toList := by simp [comma, comma']
  have start : '=' ∉ front.toList.dropWhile Text.isBlank :=
    fun mem => sign ((List.dropWhile_sublist _).subset mem)
  have items : items (front ++ "=" ++ back).toList =
      [front.toList.dropWhile Text.isBlank ++
        '=' :: Text.dropEnd Text.isBlank back.toList] := by
    rw [Tag.items, text, Text.pieces_of_not_mem uncut, List.map_singleton,
      Text.trim_append_cons rfl]
    simp
  rw [ofString, items, List.map_singleton, Token.ofItem, Text.cutAt_eq_some_iff.2 ⟨start, rfl⟩]
  simp [Text.trim_dropWhile, Text.trim_dropEnd]

/-- A word with a value behind an equals sign is one token, unless a comma cuts the value. -/
theorem tokens_of_assignment {key value : String}
    (plain : ∀ c ∈ key.toList, c ≠ ',' ∧ c ≠ '=' ∧ Text.isBlank c = false)
    (comma : ',' ∉ value.toList) :
    (ofString (key ++ "=" ++ value)).tokens = [⟨key, .ofList (Text.trim value.toList)⟩] := by
  rw [tokens_of_equation (fun mem => (plain _ mem).1 rfl) comma fun mem => (plain _ mem).2.1 rfl,
    Text.trim_eq_self fun c hc => (plain c hc).2.2, String.ofList_toList]

/-- A comma cuts the value off, and what stands behind it are further tokens. -/
theorem tokens_of_cut_assignment {key first rest : String}
    (plain : ∀ c ∈ key.toList, c ≠ ',' ∧ c ≠ '=' ∧ Text.isBlank c = false)
    (comma : ',' ∉ first.toList) :
    (ofString (key ++ "=" ++ (first ++ "," ++ rest))).tokens =
      ⟨key, .ofList (Text.trim first.toList)⟩ :: (ofString rest).tokens := by
  have split : (key ++ "=" ++ (first ++ "," ++ rest)).toList =
      (key ++ "=" ++ first).toList ++ ',' :: rest.toList := by simp
  have front := tokens_of_assignment plain comma
  simp only [ofString] at front ⊢
  rw [split, items_append_cons, List.map_append, front, List.singleton_append]

/-- A token that was read has trimmed parts and nothing in it at which it would be cut. -/
theorem isNormal_of_mem_tokens {s : String} {t : Token} (h : t ∈ (ofString s).tokens) :
    t.IsNormal := by
  obtain ⟨item, hi, rfl⟩ := List.mem_map.1 h
  obtain ⟨piece, hp, rfl⟩ := List.mem_map.1 (List.mem_filter.1 hi).1
  have comma : ',' ∉ Text.trim piece := fun mem =>
    Text.not_mem_of_mem_pieces hp (Text.mem_of_mem_trim mem)
  unfold Token.ofItem
  split
  · next key value cut =>
    obtain ⟨sign, parts⟩ := Text.cutAt_eq_some_iff.1 cut
    rw [parts] at comma
    constructor <;> simp only [String.toList_ofList, Text.trim_trim]
    · exact fun mem => comma (List.mem_append_left _ (Text.mem_of_mem_trim mem))
    · exact fun mem => comma (List.mem_append_right _ (.tail _ (Text.mem_of_mem_trim mem)))
    · exact fun mem => sign (Text.mem_of_mem_trim mem)
  · next flag =>
    constructor <;> simp only [String.toList_ofList, Text.trim_trim]
    · exact comma
    · exact List.not_mem_nil
    · exact Text.cutAt_eq_none_iff.1 flag
    · rfl

end Tag

end EntityMap
