import EntityMap.Declaration.Blueprint
import EntityMap.Proofs.Declaration.Attributes

/-!
# Words in declarations

What a text gives for a name is a word: of the characters that words are made of, perhaps behind the
mark that makes a name of a keyword. Readers of attributes and annotations take elements over as
they are, so the keys of all annotations of a written declaration are words.
-/

namespace EntityMap.Declaration

/-- The text is a word. A mark may stand in front of its first character. -/
def IsWord (name : String) : Prop :=
  ∃ mark c rest, name.toList = mark ++ c :: rest ∧ (mark = [] ∨ mark = ['r', '#']) ∧
    startsWord c = true ∧ ∀ d ∈ rest, continuesWord d = true

/-- Every name among the elements is a word. -/
def NamesAreWords (lexemes : List Lexeme) : Prop := ∀ name, .ident name ∈ lexemes → IsWord name

/-- Every name among the arguments of the attribute is a word. -/
def Attribute.NamesAreWords : Attribute → Prop
  | known _ (.given lexemes) => Declaration.NamesAreWords lexemes
  | known _ .absent | known _ .assigned | other => True

/-! ## The characters of words -/

private theorem isBlank_of_continuesWord {c : Char} (h : continuesWord c = true) :
    Text.isBlank c = false := by
  have ascii (low : 48 ≤ c.toNat) (high : c.toNat ≤ 122) : Text.isBlank c = false := by
    simp only [Text.isBlank, Bool.or_eq_false_iff, Bool.and_eq_false_iff, decide_eq_false_iff_not,
      beq_eq_false_iff_ne]
    omega
  simp only [continuesWord, startsWord, isBlank, Bool.or_eq_true, Bool.and_eq_true,
    Bool.not_eq_true', Bool.or_eq_false_iff, beq_iff_eq, decide_eq_true_eq] at h
  rcases h with ((alpha | rfl) | ⟨-, ⟨blank, -⟩, -⟩) | digit
  · change (decide ('A'.val ≤ c.val ∧ c.val ≤ 'Z'.val) ||
      decide ('a'.val ≤ c.val) && decide (c.val ≤ 'z'.val)) = true at alpha
    simp only [Bool.or_eq_true, Bool.and_eq_true, decide_eq_true_eq,
      UInt32.le_iff_toNat_le] at alpha
    change 65 ≤ c.toNat ∧ c.toNat ≤ 90 ∨ 97 ≤ c.toNat ∧ c.toNat ≤ 122 at alpha
    exact ascii (by omega) (by omega)
  · decide
  · exact blank
  · change (decide ('0'.val ≤ c.val) && decide (c.val ≤ '9'.val)) = true at digit
    simp only [Bool.and_eq_true, decide_eq_true_eq, UInt32.le_iff_toNat_le] at digit
    change 48 ≤ c.toNat ∧ c.toNat ≤ 57 at digit
    exact ascii (by omega) (by omega)

/-- No character of a word cuts an annotation text, and none is white space. -/
theorem IsWord.plain {name : String} (h : IsWord name) :
    name ≠ "" ∧ ∀ c ∈ name.toList, c ≠ ',' ∧ c ≠ '=' ∧ Text.isBlank c = false := by
  have plain {c : Char} (hc : continuesWord c = true) :
      c ≠ ',' ∧ c ≠ '=' ∧ Text.isBlank c = false := by
    refine ⟨?_, ?_, isBlank_of_continuesWord hc⟩
    · rintro rfl
      exact absurd hc (by decide)
    · rintro rfl
      exact absurd hc (by decide)
  obtain ⟨mark, first, rest, text, marked, starts, continues⟩ := h
  constructor
  · rintro rfl
    simp at text
  · intro c hc
    rw [text, List.mem_append, List.mem_cons] at hc
    rcases hc with inMark | rfl | later
    · rcases marked with rfl | rfl
      · exact absurd inMark List.not_mem_nil
      · rcases List.mem_pair.1 inMark with rfl | rfl <;> decide
    · exact plain (by simp [continuesWord, starts])
    · exact plain (continues c later)

/-! ## Elements of a text -/

section Lexemes

variable {s rest : List Char} {l : Lexeme} {ls : List Lexeme} {name : String}

private theorem isWord_of_word? (h : word? s = some (.ident name, rest)) : IsWord name := by
  unfold word? at h
  split at h
  next mark s' hm =>
  have marked : mark = [] ∨ mark = ['r', '#'] := by
    split at hm <;> simp_all
  split at h
  · simp at h
  · next c tail =>
    split at h
    · next starts =>
      simp only [Option.some.injEq, Prod.mk.injEq, Lexeme.ident.injEq] at h
      refine ⟨mark, c, tail.takeWhile continuesWord, by simp [← h.1], marked, starts, ?_⟩
      exact List.all_eq_true.1 List.all_takeWhile
    · simp at h

private theorem not_literal?_ident : literal? s ≠ some (.ident name, rest) := by
  unfold literal?
  split
  · simp
  · split
    · simp
    · split <;> simp

private theorem not_sign?_ident : sign? s ≠ some (.ident name, rest) := by
  unfold sign?
  split
  · simp
  · split
    · simp
    · split <;> simp

private theorem namesAreWords_comment (kind : CommentKind) (text : List Char) :
    NamesAreWords (kind.lexemes text) := by
  have continues : ['o', 'c'].all continuesWord = true := by decide
  have doc : IsWord "doc" :=
    ⟨[], 'd', ['o', 'c'], by decide, .inl rfl, by decide, List.all_eq_true.1 continues⟩
  intro name hn
  cases kind <;> simp [CommentKind.lexemes] at hn
  · subst hn
    exact doc
  · subst hn
    exact doc

private theorem NamesAreWords.append {ls' : List Lexeme} (h : NamesAreWords ls)
    (h' : NamesAreWords ls') : NamesAreWords (ls ++ ls') := by
  intro name hn
  rcases List.mem_append.1 hn with before | after
  · exact h name before
  · exact h' name after

private theorem namesAreWords_of_lexemes? {steps : Nat} (h : lexemes? steps s = some ls) :
    NamesAreWords ls := by
  fun_induction lexemes? steps s generalizing ls with
  | case1 => simp at h
  | case2 =>
    obtain rfl := Option.some.inj h
    exact fun name hn => absurd hn List.not_mem_nil
  | case3 steps rest text =>
    -- a comment to the end of the line
    rename_i ih
    obtain ⟨later, hl, rfl⟩ := Option.map_eq_some_iff.1 h
    exact (namesAreWords_comment _ _).append (ih hl)
  | case4 steps rest ih =>
    -- a comment between marks
    simp only [Option.bind_eq_bind, Option.bind_eq_some_iff, Option.pure_def,
      Option.some.injEq] at h
    obtain ⟨after, -, later, hl, rfl⟩ := h
    exact (namesAreWords_comment _ _).append (ih after hl)
  | case5 steps c rest _ _ _ ih => exact ih h
  | case6 steps c rest _ _ _ ih =>
    simp only [Option.bind_eq_bind, Option.bind_eq_some_iff, Option.pure_def,
      Option.some.injEq] at h
    obtain ⟨⟨l, rest'⟩, first, later, hl, rfl⟩ := h
    intro name hn
    rcases List.mem_cons.1 hn with rfl | hn
    · rw [Option.or_eq_some_iff, Option.or_eq_some_iff] at first
      rcases first with (literal | ⟨-, sign⟩) | ⟨-, word⟩
      · exact absurd literal not_literal?_ident
      · exact absurd sign not_sign?_ident
      · exact isWord_of_word? word
    · exact ih _ hl name hn

/-- The names in a text are words. -/
theorem namesAreWords_of_ofString? {text : String} (h : Lexeme.ofString? text = some ls) :
    NamesAreWords ls :=
  namesAreWords_of_lexemes? h

end Lexemes

/-! ## Attributes of a text -/

section Attributes

variable {ls inside rest : List Lexeme} {xs : List Attribute}

/-- Fewer elements have fewer names. -/
theorem NamesAreWords.mono (h : NamesAreWords ls) (sub : rest ⊆ ls) : NamesAreWords rest :=
  fun name hn => h name (sub hn)

private theorem subset_of_map_cons {l : Lexeme} {tail : List Lexeme}
    {result : Option (List Lexeme × List Lexeme)}
    (later : ∀ inside rest, result = some (inside, rest) → inside ⊆ tail ∧ rest ⊆ tail)
    (h : result.map (fun (inside, rest) => (l :: inside, rest)) = some (inside, rest)) :
    inside ⊆ l :: tail ∧ rest ⊆ l :: tail := by
  obtain ⟨⟨inside', rest'⟩, found, same⟩ := Option.map_eq_some_iff.1 h
  obtain ⟨rfl, rfl⟩ := Prod.mk.inj same
  obtain ⟨hi, hr⟩ := later _ _ found
  exact ⟨List.cons_subset_cons l hi, List.subset_cons_of_subset l hr⟩

/-- What stands before and after a closing bracket are elements of the same text. -/
private theorem closing?_subset {depth : Nat} (h : closing? depth ls = some (inside, rest)) :
    inside ⊆ ls ∧ rest ⊆ ls := by
  induction ls generalizing depth inside rest with
  | nil => simp [closing?] at h
  | cons l tail ih =>
    unfold closing? at h
    split at h
    · exact subset_of_map_cons (fun _ _ found => ih found) h
    · split at h
      · split at h
        · obtain ⟨rfl, rfl⟩ := Prod.mk.inj (Option.some.inj h)
          exact ⟨List.nil_subset _, List.subset_cons_self _ _⟩
        · exact subset_of_map_cons (fun _ _ found => ih found) h
      · exact subset_of_map_cons (fun _ _ found => ih found) h

private theorem Attribute.namesAreWords_ofContent (h : Declaration.NamesAreWords ls) :
    (ofContent ls).NamesAreWords := by
  unfold ofContent
  split
  · next word rest =>
    have later : Declaration.NamesAreWords rest := h.mono (List.subset_cons_self _ _)
    split
    · trivial
    · trivial
    · trivial
    · next name l rest _ _ =>
      split
      · exact later.mono (List.Subset.trans (List.dropLast_subset _) (List.subset_cons_self _ _))
      · trivial
  · trivial

private theorem Attribute.namesAreWords_of_read? {steps : Nat} (h : read? steps ls = some xs)
    (words : Declaration.NamesAreWords ls) : ∀ x ∈ xs, x.NamesAreWords := by
  fun_induction read? steps ls generalizing xs with
  | case1 =>
    obtain rfl := Option.some.inj h
    simp
  | case2 steps joint joint' rest ih =>
    simp only [Option.bind_eq_bind, Option.bind_eq_some_iff, Option.pure_def,
      Option.some.injEq] at h
    obtain ⟨⟨content, rest'⟩, found, later, hl, rfl⟩ := h
    obtain ⟨hc, hr⟩ := closing?_subset found
    have tail : Declaration.NamesAreWords rest := words.mono (by simp)
    exact List.forall_mem_cons.2 ⟨namesAreWords_ofContent (tail.mono hc),
      ih rest' hl (tail.mono hr)⟩
  | case3 => simp at h

/-- The names in attributes of a text are words. -/
theorem Attribute.namesAreWords_of_text {text : String}
    (h : (Lexeme.ofString? text).bind listOf? = some xs) : ∀ x ∈ xs, x.NamesAreWords := by
  obtain ⟨lexemes, read, listed⟩ := Option.bind_eq_some_iff.1 h
  exact namesAreWords_of_read? listed (namesAreWords_of_ofString? read)

end Attributes

/-! ## Keys of annotations -/

/-- The keys of items are words, if the names in the attributes that give them are. -/
theorem ItemsGiven.isWord {attributes : List Attribute} {items : List Item}
    (h : ItemsGiven attributes items) (words : ∀ x ∈ attributes, x.NamesAreWords) :
    ∀ item ∈ items, IsWord item.key := by
  induction h with
  | nil => exact List.forall_mem_nil _
  | cons first later ih =>
    obtain ⟨here, after⟩ := List.forall_mem_cons.1 words
    refine List.forall_mem_append.2 ⟨?_, ih after⟩
    cases first with
    | metadata written => exact fun item mem => here _ (written.ident_mem item mem)
    | storage | other => exact List.forall_mem_nil _

/-- The keys of the annotations of a field are words, if the names in its attributes are. -/
theorem FieldAttributes.isWord_of_ofList {attributes : List Attribute} {a : FieldAttributes}
    (words : ∀ x ∈ attributes, x.NamesAreWords) (h : ofList attributes = .ok a) :
    ∀ item ∈ a.items, IsWord item.key :=
  (itemsGiven_of_ofList h).isWord words

end EntityMap.Declaration
