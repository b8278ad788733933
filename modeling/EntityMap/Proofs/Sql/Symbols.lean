import EntityMap.Proofs.Sql.Scan
import Mathlib.Data.List.Chain

/-!
# Names and placeholders in the text of a statement

Whoever knows no more of a dialect than how it quotes names and how it marks parameters takes a
text for a sequence of characters, names and placeholders. A quote within a name does not end it if
it is written twice, and what looks like a placeholder within a name is none. `symbols?_write` says
that a list of pieces is taken for what the pieces are, if words stand between its names and values;
`Query.spaced_pieces` says that this is so in every statement, also in one that lists nothing.
-/

namespace EntityMap.Sql

/-- What stands in a text. -/
inductive Symbol where
  | char (c : Char)
  | name (text : String)
  /-- A placeholder, with its number where the dialect numbers them. -/
  | placeholder (number : Option Nat)
  deriving DecidableEq, Repr

namespace Symbol

/-- The characters of a word. -/
def ofWord (w : String) : List Symbol := w.toList.map .char

/-- The numbers of the placeholders, in their order. -/
def placeholders (symbols : List Symbol) : List (Option Nat) :=
  symbols.filterMap fun
    | placeholder n => some n
    | _ => none

theorem placeholders_append (xs ys : List Symbol) :
    placeholders (xs ++ ys) = placeholders xs ++ placeholders ys :=
  List.filterMap_append

/-- The symbol without the number of a placeholder. -/
def unnumbered : Symbol → Symbol
  | placeholder _ => placeholder none
  | s => s

end Symbol

/-! ## Taking a text apart -/

namespace Dialect

variable (d : Dialect)

/-- The rest of a name whose first quote has been read, and what follows its last. -/
def closeName? : List Char → Option (List Char × List Char)
  | [] => none
  | [c] => if c = d.quote then some ([], []) else none
  | c :: c' :: rest =>
    if c = d.quote then
      if c' = d.quote then (closeName? rest).map fun p => (c :: p.1, p.2)
      else some ([], c' :: rest)
    else (closeName? (c' :: rest)).map fun p => (c :: p.1, p.2)

/-- The number of a placeholder at the front of a text, and what follows it. -/
def placeholder? : List Char → Option (Option Nat × List Char)
  | [] => none
  | c :: rest =>
    match d with
    | .sqlite | .mysql => if c = '?' then some (none, rest) else none
    | .postgres =>
      if c = '$' ∧ rest.takeWhile Char.isDigit ≠ [] then
        some (some (Nat.ofDigitChars 10 (rest.takeWhile Char.isDigit) 0),
          rest.dropWhile Char.isDigit)
      else none

/-- What stands at the front of a text, and what follows it; none at the end, and for a name without
an end. -/
def symbol? : List Char → Option (Symbol × List Char)
  | [] => none
  | c :: rest =>
    if c = d.quote then (d.closeName? rest).map fun p => (.name (.ofList p.1), p.2)
    else
      match d.placeholder? (c :: rest) with
      | some (n, rest) => some (.placeholder n, rest)
      | none => some (.char c, rest)

variable {d} in
theorem length_of_closeName? {text name rest : List Char}
    (h : d.closeName? text = some (name, rest)) : rest.length < text.length := by
  induction text using closeName?.induct d generalizing name with
  | case1 => simp [closeName?] at h
  | case2 => simp_all [closeName?]
  | case3 c other => simp [closeName?, other] at h
  | case4 text ih =>
    simp only [closeName?, if_true, Option.map_eq_some_iff, Prod.mk.injEq] at h
    obtain ⟨p, hp, -, rfl⟩ := h
    have shorter := ih hp
    simp only [List.length_cons]
    omega
  | case5 c' text other =>
    simp [closeName?, other] at h
    simp [← h.2]
  | case6 c c' text other ih =>
    simp only [closeName?, other, if_false, Option.map_eq_some_iff, Prod.mk.injEq] at h
    obtain ⟨p, hp, -, rfl⟩ := h
    have shorter := ih hp
    simp only [List.length_cons] at *
    omega

variable {d} in
theorem length_of_placeholder? {text rest : List Char} {n : Option Nat}
    (h : d.placeholder? text = some (n, rest)) : rest.length < text.length := by
  cases text with
  | nil => simp [placeholder?] at h
  | cons c text =>
    have dropped : (text.dropWhile Char.isDigit).length ≤ text.length :=
      (List.dropWhile_sublist _).length_le
    cases d <;> simp only [placeholder?, Option.ite_none_right_eq_some, Option.some.injEq,
      Prod.mk.injEq] at h
    all_goals
      obtain ⟨-, -, rfl⟩ := h
      simp only [List.length_cons]
      omega

variable {d} in
/-- Something is read from a text. -/
theorem length_of_symbol? {text rest : List Char} {s : Symbol}
    (h : d.symbol? text = some (s, rest)) : rest.length < text.length := by
  cases text with
  | nil => simp [symbol?] at h
  | cons c text =>
    rw [symbol?] at h
    split at h
    · simp only [Option.map_eq_some_iff, Prod.mk.injEq] at h
      obtain ⟨p, closed, -, rfl⟩ := h
      exact (length_of_closeName? closed).trans (by simp)
    · split at h
      · next n rest' marked =>
        obtain ⟨-, rfl⟩ := h
        exact length_of_placeholder? marked
      · obtain ⟨-, rfl⟩ := h
        simp

/-- What a text consists of; none if a name in it has no end. -/
def symbols? (text : List Char) : Option (List Symbol) :=
  if text = [] then some []
  else
    match _ : d.symbol? text with
    | none => none
    | some (s, rest) => (symbols? rest).map (s :: ·)
termination_by text.length
decreasing_by exact length_of_symbol? ‹_›

/-! ## Single pieces -/

variable {d} {rest : List Char}

@[simp] theorem symbols?_nil : d.symbols? [] = some [] := by
  rw [symbols?, if_pos rfl]

/-- A text is taken apart from its front. -/
theorem symbols?_of_symbol? {text : List Char} {s : Symbol} (h : d.symbol? text = some (s, rest)) :
    d.symbols? text = (d.symbols? rest).map (s :: ·) := by
  have ne : text ≠ [] := by
    rintro rfl
    simp [symbol?] at h
  rw [symbols?, if_neg ne]
  split
  · next none => simp [h] at none
  · next some =>
    rw [h] at some
    cases some
    rfl

private theorem closeName?_cons {c : Char} (ne : c ≠ d.quote) (text : List Char) :
    d.closeName? (c :: text) = (d.closeName? text).map fun p => (c :: p.1, p.2) := by
  cases text with
  | nil => simp [closeName?, ne]
  | cons c' text => simp [closeName?, ne]

/-- A name ends at the first quote that is not written twice. -/
private theorem closeName?_quoted (name : List Char) (ends : rest.head? ≠ some d.quote) :
    d.closeName? (name.flatMap (fun c => if c = d.quote then [c, c] else [c]) ++ d.quote :: rest) =
      some (name, rest) := by
  induction name with
  | nil =>
    cases rest with
    | nil => simp [closeName?]
    | cons c rest =>
      have other : c ≠ d.quote := by simpa using ends
      simp [closeName?, other]
  | cons c name ih =>
    rw [List.flatMap_cons]
    by_cases hc : c = d.quote
    · rw [if_pos hc, hc, List.append_assoc, List.cons_append, List.singleton_append, closeName?,
        if_pos rfl, if_pos rfl, ih]
      rfl
    · rw [if_neg hc, List.append_assoc, List.singleton_append, closeName?_cons hc, ih]
      rfl

/-- A quoted name is taken for the name. -/
theorem symbols?_quoteName (n : String) (ends : rest.head? ≠ some d.quote) :
    d.symbols? (d.quoteName n ++ rest) = (d.symbols? rest).map (.name n :: ·) := by
  apply symbols?_of_symbol?
  have text : d.quoteName n ++ rest =
      d.quote :: (n.toList.flatMap (fun c => if c = d.quote then [c, c] else [c]) ++
        d.quote :: rest) := by
    simp [quoteName]
  rw [text, symbol?, if_pos rfl, closeName?_quoted _ ends, Option.map_some, String.ofList_toList]

/-- The number of a placeholder, where the dialect numbers them. -/
def number? : Dialect → Nat → Option Nat
  | .postgres, n => some n
  | .sqlite, _ | .mysql, _ => none

/-- A placeholder is taken for a placeholder with its number. -/
theorem symbols?_placeholder (n : Nat) (ends : ∀ c ∈ rest.head?, c.isDigit = false) :
    d.symbols? (d.placeholder n ++ rest) =
      (d.symbols? rest).map (.placeholder (d.number? n) :: ·) := by
  apply symbols?_of_symbol?
  cases d with
  | sqlite | mysql => rfl
  | postgres =>
    have digits : ∀ c ∈ Nat.toDigits 10 n, c.isDigit = true :=
      fun c hc => Nat.isDigit_of_mem_toDigits (by decide) (by decide) hc
    have none : rest.takeWhile Char.isDigit = [] ∧ rest.dropWhile Char.isDigit = rest := by
      cases rest with
      | nil => exact ⟨rfl, rfl⟩
      | cons c rest => simp [ends c rfl]
    have read : (Nat.toDigits 10 n ++ rest).takeWhile Char.isDigit = Nat.toDigits 10 n ∧
        (Nat.toDigits 10 n ++ rest).dropWhile Char.isDigit = rest := by
      rw [List.takeWhile_append_of_pos digits, List.dropWhile_append_of_pos digits, none.1, none.2,
        List.append_nil]
      exact ⟨rfl, rfl⟩
    have mark : ('$' : Char) ≠ Dialect.postgres.quote := by decide
    rw [placeholder, List.cons_append, symbol?, if_neg mark, placeholder?, read.1, read.2,
      if_pos ⟨rfl, Nat.toDigits_ne_nil⟩, Nat.ofDigitChars_ten_toDigits]
    rfl

/-- Letters stand above digits. -/
private theorem not_isDigit_of_isAlpha {c : Char} (h : c.isAlpha = true) : c.isDigit = false := by
  have letter : 'A'.toNat ≤ c.toNat := by
    rcases Bool.or_eq_true_iff.1 h with upper | lower
    · have first : 'A'.val ≤ c.val := (of_decide_eq_true upper).1
      exact UInt32.le_iff_toNat_le.1 first
    · have first : 'a'.val ≤ c.val := of_decide_eq_true (Bool.and_eq_true_iff.1 lower).1
      exact (show 'A'.toNat ≤ 'a'.toNat by decide).trans (UInt32.le_iff_toNat_le.1 first)
  rw [Bool.eq_false_iff, Ne, Char.isDigit_iff_toNat]
  have apart : '9'.toNat < 'A'.toNat := by decide
  omega

theorem not_isDigit_of_isPlain {c : Char} (h : IsPlain c) : c.isDigit = false :=
  h.elim not_isDigit_of_isBreak not_isDigit_of_isAlpha

/-- Letters, and what stands between words, are taken for themselves. -/
theorem symbols?_plain {cs : List Char} (plain : ∀ c ∈ cs, IsPlain c) :
    d.symbols? (cs ++ rest) = (d.symbols? rest).map (cs.map .char ++ ·) := by
  induction cs with
  | nil => simp
  | cons c cs ih =>
    have here : IsPlain c := plain c List.mem_cons_self
    have unmarked : d.placeholder? (c :: (cs ++ rest)) = none := by
      have question : c ≠ '?' := by
        rintro rfl
        exact absurd here (by decide)
      have dollar : c ≠ '$' := by
        rintro rfl
        exact absurd here (by decide)
      cases d <;> simp [placeholder?, question, dollar]
    have first : d.symbol? (c :: (cs ++ rest)) = some (.char c, cs ++ rest) := by
      rw [symbol?, if_neg (ne_quote_of_isPlain here), unmarked]
    rw [List.cons_append, symbols?_of_symbol? first,
      ih fun x hx => plain x (List.mem_cons_of_mem c hx), Option.map_map]
    rfl

end Dialect

/-! ## Pieces one after another -/

/-- A word that says something, in letters and in what stands between them. -/
def IsProper (w : String) : Prop := w.toList ≠ [] ∧ ∀ c ∈ w.toList, Dialect.IsPlain c

instance (w : String) : Decidable (IsProper w) :=
  decidable_of_iff (w.toList.isEmpty = false ∧ w.toList.all (decide <| Dialect.IsPlain ·) = true) <| by
    simp [IsProper]

def Piece.isWord : Piece → Bool
  | .word _ => true
  | .name _ | .value _ => false

/-- No two names or values stand side by side, without a word between them. -/
structure Spaced (ps : List Piece) : Prop where
  proper : ∀ w, .word w ∈ ps → IsProper w
  apart : ps.IsChain fun p q => p.isWord = true ∨ q.isWord = true

namespace Dialect

variable (d : Dialect)

/-- What pieces are taken for, the next parameter having the given number. -/
def symbolsOf (next : Nat) : List Piece → List Symbol
  | [] => []
  | .word w :: rest => Symbol.ofWord w ++ symbolsOf next rest
  | .name n :: rest => .name n :: symbolsOf next rest
  | .value _ :: rest => .placeholder (d.number? next) :: symbolsOf (next + 1) rest

variable {d} {p : Piece} {ps : List Piece}

/-- What follows a name or a value is a word. -/
private theorem isPlain_head_write (spaced : Spaced (p :: ps)) (name : p.isWord = false)
    (next : Nat) : ∀ c ∈ (d.write next ps).head?, IsPlain c := by
  cases ps with
  | nil => simp [write]
  | cons q ps =>
    have word : q.isWord = true := by
      simpa [name] using (List.isChain_cons_cons.1 spaced.apart).1
    cases q with
    | word w =>
      obtain ⟨ne, plain⟩ := spaced.proper w (by simp)
      obtain ⟨c, cs, hw⟩ := List.exists_cons_of_ne_nil ne
      intro c' hc
      rw [write, hw, List.cons_append, List.head?_cons] at hc
      obtain rfl := Option.some.inj hc
      exact plain c (by simp [hw])
    | name n | value v => simp [Piece.isWord] at word

/-- A text is taken for the pieces that it was written from. -/
theorem symbols?_write (spaced : Spaced ps) (next : Nat) :
    d.symbols? (d.write next ps) = some (d.symbolsOf next ps) := by
  induction ps generalizing next with
  | nil => simp [write, symbolsOf]
  | cons p ps ih =>
    have later := ih ⟨fun w hw => spaced.proper w (List.mem_cons_of_mem p hw),
      (List.isChain_cons.1 spaced.apart).2⟩
    cases p with
    | word w =>
      have plain := (spaced.proper w List.mem_cons_self).2
      rw [write, symbols?_plain plain, later, Option.map_some, symbolsOf, Symbol.ofWord]
    | name n =>
      have ends : (d.write next ps).head? ≠ some d.quote := by
        intro quote
        exact ne_quote_of_isPlain (isPlain_head_write spaced rfl next d.quote quote) rfl
      rw [write, symbols?_quoteName n ends, later, Option.map_some, symbolsOf]
    | value v =>
      have ends : ∀ c ∈ (d.write (next + 1) ps).head?, c.isDigit = false :=
        fun c hc => not_isDigit_of_isPlain (isPlain_head_write spaced rfl _ c hc)
      rw [write, symbols?_placeholder next ends, later, Option.map_some, symbolsOf]

/-- There is one placeholder for each value, and they are numbered in order. -/
theorem placeholders_symbolsOf (next : Nat) (ps : List Piece) :
    Symbol.placeholders (d.symbolsOf next ps) =
      (List.range' next (values ps).length).map d.number? := by
  induction ps generalizing next with
  | nil => rfl
  | cons p ps ih =>
    have letters (w : String) : Symbol.placeholders (Symbol.ofWord w) = [] := by
      simp [Symbol.placeholders, Symbol.ofWord, List.filterMap_map]
    cases p with
    | word w =>
      have same : values (.word w :: ps) = values ps := rfl
      rw [symbolsOf, Symbol.placeholders_append, letters, List.nil_append, ih, same]
    | name n => exact ih next
    | value v =>
      have more : (values (.value v :: ps)).length = (values ps).length + 1 := rfl
      rw [more, List.range'_succ, List.map_cons, ← ih]
      rfl

end Dialect

/-- What a piece is taken for in each dialect, but for the number of a placeholder. -/
def Piece.symbols : Piece → List Symbol
  | .word w => Symbol.ofWord w
  | .name n => [.name n]
  | .value _ => [.placeholder none]

/-- Without their numbers placeholders are the same in each dialect. -/
theorem Dialect.map_unnumbered_symbolsOf (d : Dialect) (next : Nat) (ps : List Piece) :
    (d.symbolsOf next ps).map Symbol.unnumbered = ps.flatMap Piece.symbols := by
  induction ps generalizing next with
  | nil => rfl
  | cons p ps ih =>
    have letters (w : String) : (Symbol.ofWord w).map Symbol.unnumbered = Symbol.ofWord w := by
      simp [Symbol.ofWord, Symbol.unnumbered]
    cases p with
    | word w => rw [symbolsOf, List.map_append, letters, ih, List.flatMap_cons, Piece.symbols]
    | name n => rw [symbolsOf, List.map_cons, ih, List.flatMap_cons]; rfl
    | value v => rw [symbolsOf, List.map_cons, ih, List.flatMap_cons]; rfl

/-! ## Pieces of statements -/

namespace Spaced

variable {ps qs : List Piece}

theorem nil : Spaced [] := ⟨by simp, .nil⟩

theorem name (n : String) : Spaced [.name n] := ⟨by simp, .singleton _⟩

theorem value (v : Value) : Spaced [.value v] := ⟨by simp, .singleton _⟩

theorem cons_word (h : Spaced ps) (w : String) (hw : IsProper w) :
    Spaced (.word w :: ps) where
  proper := by
    intro w' hw'
    rcases List.mem_cons.1 hw' with same | hw'
    · obtain rfl := Piece.word.inj same
      exact hw
    · exact h.proper w' hw'
  apart := List.isChain_cons.2 ⟨fun _ _ => .inl rfl, h.apart⟩

/-- Anything may stand before a word. -/
theorem append_word (h : Spaced ps) (w : String) (hw : IsProper w) (h' : Spaced qs) :
    Spaced (ps ++ .word w :: qs) where
  proper w' hw' := (List.mem_append.1 hw').elim (h.proper w') ((h'.cons_word w hw).proper w')
  apart := by
    refine List.isChain_append.2 ⟨h.apart, (h'.cons_word w hw).apart, ?_⟩
    rintro p - q ⟨⟩
    exact .inr rfl

theorem separated {α : Type} {f : α → List Piece} (w : String) (hw : IsProper w) (xs : List α)
    (h : ∀ x, Spaced (f x)) : Spaced (separated w (xs.map f)) := by
  induction xs with
  | nil => exact .nil
  | cons x rest ih =>
    cases rest with
    | nil => simpa [Sql.separated] using h x
    | cons y rest =>
      have all := (h x).append_word w hw ih
      simpa [Sql.separated, List.intersperse] using all

theorem inParens (h : Spaced ps) : Spaced (inParens ps) :=
  (h.append_word ")" (by decide) .nil).cons_word "(" (by decide)

end Spaced

theorem ColumnRef.spaced_pieces (c : ColumnRef) : Spaced c.pieces := by
  obtain ⟨table, column⟩ := c
  cases table with
  | none => exact .name column
  | some t => exact (Spaced.name t).append_word "." (by decide) (.name column)

theorem spaced_nameList (names : List String) : Spaced (nameList names) :=
  (Spaced.separated ", " (by decide) names .name).inParens

theorem spaced_valueList (vs : List Value) :
    Spaced (inParens (separated ", " (vs.map fun v => [.value v]))) :=
  (Spaced.separated ", " (by decide) vs .value).inParens

theorem Predicate.spaced_pieces (p : Predicate) : Spaced p.pieces := by
  cases p with
  | equal c v => exact c.spaced_pieces.append_word " = " (by decide) (.value v)
  | notIn c vs => exact c.spaced_pieces.append_word " NOT IN " (by decide) (spaced_valueList vs)

namespace Spaced

variable {ps : List Piece} (h : Spaced ps)
include h

theorem filter (filter : List Predicate) : Spaced (ps ++ filterPieces filter) := by
  cases filter with
  | nil => simpa [filterPieces] using h
  | cons p rest =>
    have listed := Spaced.separated " AND " (by decide) (p :: rest) Predicate.spaced_pieces
    exact h.append_word " WHERE " (by decide) listed

theorem join (j : Join) : Spaced (ps ++ j.pieces) := by
  have columns := j.left.spaced_pieces.append_word " = " (by decide) j.right.spaced_pieces
  have table := (Spaced.name j.table).append_word " ON " (by decide) columns
  have all := h.append_word " INNER JOIN " (by decide) table
  simpa [Join.pieces] using all

theorem rows (rows : List (List Value)) : Spaced (ps ++ rowPieces rows) := by
  unfold rowPieces
  split
  · simpa using h
  · exact h.append_word " VALUES " (by decide) (.separated ", " (by decide) _ spaced_valueList)

theorem conflict (d : Dialect) (columns : List String) (onDuplicate : OnDuplicate) :
    Spaced (ps ++ d.conflictPieces columns onDuplicate) := by
  have silent : Spaced (ps ++ []) := by simpa using h
  cases onDuplicate with
  | fail => exact silent
  | skip =>
    cases d with
    | sqlite | mysql => exact silent
    | postgres =>
      have names : Spaced (if columns.isEmpty then [] else nameList columns) := by
        split
        · exact .nil
        · exact spaced_nameList columns
      have last := names.append_word " DO NOTHING" (by decide) .nil
      exact h.append_word " ON CONFLICT " (by decide) last

end Spaced

/-- Words stand between the names and values of every statement. -/
theorem Query.spaced_pieces (d : Dialect) (q : Query) : Spaced (q.pieces d) := by
  cases q with
  | select columns table j filter =>
    have listed := Spaced.separated ", " (by decide) columns ColumnRef.spaced_pieces
    have source := listed.append_word " FROM " (by decide) (.name table)
    have head := source.cons_word "SELECT " (by decide)
    cases j with
    | none => simpa [Query.pieces] using head.filter filter
    | some j => simpa [Query.pieces] using (head.join j).filter filter
  | insert table columns rows onDuplicate =>
    have start : IsProper (d.insertWords onDuplicate) := by
      cases d <;> cases onDuplicate <;> decide
    have target := (Spaced.name table).append_word " " (by decide) (spaced_nameList columns)
    have head := target.cons_word _ start
    have all := (head.rows rows).conflict d columns onDuplicate
    simpa [Query.pieces] using all
  | update table assignments filter =>
    have assigned (a : String × Value) : Spaced [.name a.1, .word " = ", .value a.2] :=
      (Spaced.name a.1).append_word " = " (by decide) (.value a.2)
    have listed := Spaced.separated ", " (by decide) assignments assigned
    have target := (Spaced.name table).append_word " SET " (by decide) listed
    have head := target.cons_word "UPDATE " (by decide)
    simpa [Query.pieces] using head.filter filter
  | delete table filter =>
    have head := (Spaced.name table).cons_word "DELETE FROM " (by decide)
    exact head.filter filter

end EntityMap.Sql
