import EntityMap.Sql.Dialect
import Mathlib.Data.List.Infix

/-!
# Scanning the text of a statement

A database reads a text character by character and takes it for a sequence of words, marks, names
and values; the values are the parameters that stand at the placeholders. What a list of pieces is
written as is taken for what the pieces mean: `reads_name`, `reads_value` and `closes_word` say so
for one piece, and the laws after them for pieces one after another.
-/

namespace EntityMap.Sql

/-- What a text consists of. -/
inductive Lexeme where
  | word (text : String)
  | mark (c : Char)
  | name (text : String)
  | value (v : Value)
  deriving DecidableEq, Repr

/-- The part that is being read. -/
inductive Pending where
  | nothing
  | word (letters : List Char)
  /-- The number of a placeholder. -/
  | number (digits : List Char)
  /-- A name after its first quote. -/
  | opened (chars : List Char)
  /-- A name after a quote that ends it, unless another quote follows. -/
  | closed (chars : List Char)
  deriving DecidableEq, Repr

/-- How far a text has been read. -/
structure Scan where
  pending : Pending
  /-- How many parameters have been taken. -/
  taken : Nat
  lexemes : List Lexeme
  deriving DecidableEq, Repr

namespace Scan

/-- The scan with one more part read to its end. -/
def emit (s : Scan) (l : Lexeme) : Scan :=
  { s with pending := .nothing, lexemes := s.lexemes ++ [l] }

/-- The scan with a parameter taken. -/
def take (s : Scan) (v : Value) : Scan := { s.emit (.value v) with taken := s.taken + 1 }

/-- The scan with the part that is being read ended here. -/
def settle? (params : List Value) (s : Scan) : Option Scan :=
  match s.pending with
  | .nothing => some s
  | .word letters => some (s.emit (.word (.ofList letters)))
  | .number digits =>
    match Nat.ofDigitChars 10 digits 0 with
    | 0 => none
    | n + 1 => params[n]?.map s.take
  | .opened _ => none
  | .closed chars => some (s.emit (.name (.ofList chars)))

end Scan

/-- The marks between words, names and values. -/
def marks : List Char := ['(', ')', ',', '.', '=']

namespace Dialect

/-- The part that is being read with one more character, if the character belongs to it. -/
def extend? (d : Dialect) (p : Pending) (c : Char) : Option Pending :=
  match p with
  | .nothing => none
  | .word letters => if c.isAlpha then some (.word (letters ++ [c])) else none
  | .number digits => if c.isDigit then some (.number (digits ++ [c])) else none
  | .opened chars => some (if c = d.quote then .closed chars else .opened (chars ++ [c]))
  | .closed chars => if c = d.quote then some (.opened (chars ++ [c])) else none

/-- The scan after the first character of a part, or after a blank. -/
def begin? (d : Dialect) (params : List Value) (s : Scan) (c : Char) : Option Scan :=
  if c = ' ' then some s
  else if c ∈ marks then some (s.emit (.mark c))
  else if c = d.quote then some { s with pending := .opened [] }
  else if c.isAlpha then some { s with pending := .word [c] }
  else
    match d with
    | .sqlite | .mysql =>
      if c = '?' then params[s.taken]?.map s.take else none
    | .postgres => if c = '$' then some { s with pending := .number [] } else none

/-- The scan after one more character. -/
def scanStep? (d : Dialect) (params : List Value) (s : Scan) (c : Char) : Option Scan :=
  match d.extend? s.pending c with
  | some p => some { s with pending := p }
  | none => (s.settle? params).bind (d.begin? params · c)

/-- The scan after more characters. -/
def scanFrom? (d : Dialect) (params : List Value) (s : Scan) (text : List Char) : Option Scan :=
  text.foldlM (d.scanStep? params) s

/-- What a database takes a statement for. -/
def lexemes? (d : Dialect) (s : Statement) : Option (List Lexeme) :=
  (d.scanFrom? s.params ⟨.nothing, 0, []⟩ s.sql.toList).bind fun scan =>
    (scan.settle? s.params).map (·.lexemes)

/-! ## Reading on -/

variable {d : Dialect} {params : List Value} {s t : Scan}

/-- A text is scanned part by part. -/
theorem scanFrom?_append (s : Scan) (text rest : List Char) :
    d.scanFrom? params s (text ++ rest) =
      (d.scanFrom? params s text).bind (d.scanFrom? params · rest) :=
  List.foldlM_append

/-- The character ends whatever is not a name between its quotes. -/
def IsBreak (c : Char) : Prop := c = ' ' ∨ c ∈ marks

instance (c : Char) : Decidable (IsBreak c) := inferInstanceAs (Decidable (_ ∨ _))

/-- Words are made of letters and of what stands between them. -/
def IsPlain (c : Char) : Prop := IsBreak c ∨ c.isAlpha = true

instance (c : Char) : Decidable (IsPlain c) := inferInstanceAs (Decidable (_ ∨ _))

private theorem not_isAlpha_of_isBreak {c : Char} (h : IsBreak c) : c.isAlpha = false := by
  rcases h with rfl | h
  · decide
  · simp only [marks, List.mem_cons, List.not_mem_nil, or_false] at h
    rcases h with rfl | rfl | rfl | rfl | rfl <;> decide

theorem not_isDigit_of_isBreak {c : Char} (h : IsBreak c) : c.isDigit = false := by
  rcases h with rfl | h
  · decide
  · simp only [marks, List.mem_cons, List.not_mem_nil, or_false] at h
    rcases h with rfl | rfl | rfl | rfl | rfl <;> decide

private theorem not_isPlain_quote (d : Dialect) : ¬ IsPlain d.quote := by
  cases d <;> decide

theorem ne_quote_of_isPlain {c : Char} (h : IsPlain c) : c ≠ d.quote := by
  rintro rfl
  exact not_isPlain_quote d h

/-- A scan that was settled has nothing pending. -/
theorem pending_of_settle? (h : s.settle? params = some t) : t.pending = .nothing := by
  unfold Scan.settle? at h
  split at h
  · next hp =>
    obtain rfl := Option.some.inj h
    exact hp
  · obtain rfl := Option.some.inj h
    rfl
  · split at h
    · simp at h
    · obtain ⟨v, -, rfl⟩ := Option.map_eq_some_iff.1 h
      rfl
  · simp at h
  · obtain rfl := Option.some.inj h
    rfl

/-- A break ends what is pending. -/
private theorem scanStep?_of_settle? {c : Char} (hc : IsBreak c) (h : s.settle? params = some t) :
    d.scanStep? params s c = d.scanStep? params t c := by
  have ends {u : Scan} (hu : ∀ chars, u.pending ≠ .opened chars) :
      d.extend? u.pending c = none := by
    have ne : c ≠ d.quote := ne_quote_of_isPlain (.inl hc)
    cases hp : u.pending with
    | nothing => rfl
    | word letters => simp [extend?, not_isAlpha_of_isBreak hc]
    | number digits => simp [extend?, not_isDigit_of_isBreak hc]
    | opened chars => exact absurd hp (hu chars)
    | closed chars => simp [extend?, ne]
  have settled : t.pending = .nothing := pending_of_settle? h
  have hs : d.extend? s.pending c = none := by
    apply ends
    intro chars hp
    simp [Scan.settle?, hp] at h
  have ht : d.extend? t.pending c = none := by rw [settled]; rfl
  have again : t.settle? params = some t := by rw [Scan.settle?, settled]
  rw [scanStep?, scanStep?, hs, ht, h, again]

/-- The word begins with a break. -/
def Opens (w : String) : Prop := ∃ c ∈ w.toList.head?, IsBreak c

instance (w : String) : Decidable (Opens w) :=
  decidable_of_iff (w.toList.head?.any (decide <| IsBreak ·) = true) <| by
    simp [Opens, Option.any_eq_true]

/-- A text that begins with a break goes on where what was pending is settled. -/
private theorem scanFrom?_of_settle? {w : String} (o : Opens w) (rest : List Char)
    (h : s.settle? params = some t) :
    d.scanFrom? params s (w.toList ++ rest) = d.scanFrom? params t (w.toList ++ rest) := by
  obtain ⟨c, hc, isBreak⟩ := o
  obtain ⟨tail, ht⟩ := List.head?_eq_some_iff.1 hc
  rw [ht, List.cons_append]
  simp only [scanFrom?, List.foldlM_cons]
  rw [scanStep?_of_settle? isBreak h]

/-! ## Single pieces -/

variable {ps qs : List Piece} {ls ms : List Lexeme}

/-- Pieces, written out where nothing is pending, are taken for the lexemes. The parameters that
have not been taken yet begin with the values of the pieces. -/
def Reads (d : Dialect) (ps : List Piece) (ls : List Lexeme) : Prop :=
  ∀ params taken before, values ps <+: params.drop taken →
    ∃ s, d.scanFrom? params ⟨.nothing, taken, before⟩ (d.write (taken + 1) ps) = some s ∧
      s.settle? params = some ⟨.nothing, taken + (values ps).length, before ++ ls⟩

theorem reads_nil (d : Dialect) : Reads d [] [] := by
  intro params taken before _
  refine ⟨⟨.nothing, taken, before⟩, rfl, ?_⟩
  simp [Scan.settle?, values]

private theorem scanFrom?_opened (name : List Char) (chars : List Char) (taken : Nat)
    (before : List Lexeme) :
    d.scanFrom? params ⟨.opened chars, taken, before⟩
        (name.flatMap fun c => if c = d.quote then [c, c] else [c]) =
      some ⟨.opened (chars ++ name), taken, before⟩ := by
  induction name generalizing chars with
  | nil => simp [scanFrom?]
  | cons c rest ih =>
    have one : d.scanFrom? params ⟨.opened chars, taken, before⟩
        (if c = d.quote then [c, c] else [c]) = some ⟨.opened (chars ++ [c]), taken, before⟩ := by
      by_cases hc : c = d.quote
      · simp [hc, scanFrom?, scanStep?, extend?]
      · simp [hc, scanFrom?, scanStep?, extend?]
    rw [List.flatMap_cons, scanFrom?_append, one, Option.bind_some, ih, List.append_assoc,
      List.singleton_append]

/-- A quoted name is taken for the name. -/
theorem reads_name (d : Dialect) (n : String) : Reads d [.name n] [.name n] := by
  intro params taken before _
  have begins : d.scanStep? params ⟨.nothing, taken, before⟩ d.quote =
      some ⟨.opened [], taken, before⟩ := by
    cases d <;> rfl
  have text : d.write (taken + 1) [.name n] =
      d.quote :: (n.toList.flatMap fun c => if c = d.quote then [c, c] else [c]) ++ [d.quote] := by
    simp [write, quoteName]
  refine ⟨⟨.closed n.toList, taken, before⟩, ?_, ?_⟩
  · rw [text, List.cons_append, scanFrom?, List.foldlM_cons, begins]
    have inner := @scanFrom?_opened d params n.toList [] taken before
    change d.scanFrom? params ⟨.opened [], taken, before⟩ (_ ++ [d.quote]) = _
    rw [scanFrom?_append, inner]
    simp [scanFrom?, scanStep?, extend?]
  · simp [Scan.settle?, Scan.emit, values]

private theorem scanFrom?_digits {cs : List Char} (h : ∀ c ∈ cs, c.isDigit = true)
    (digits : List Char) (taken : Nat) (before : List Lexeme) :
    d.scanFrom? params ⟨.number digits, taken, before⟩ cs =
      some ⟨.number (digits ++ cs), taken, before⟩ := by
  induction cs generalizing digits with
  | nil => simp [scanFrom?]
  | cons c rest ih =>
    have hc : c.isDigit = true := h c List.mem_cons_self
    have one : d.scanStep? params ⟨.number digits, taken, before⟩ c =
        some ⟨.number (digits ++ [c]), taken, before⟩ := by
      simp [scanStep?, extend?, hc]
    rw [scanFrom?, List.foldlM_cons, one]
    change d.scanFrom? params ⟨.number (digits ++ [c]), taken, before⟩ rest = _
    rw [ih fun x hx => h x (List.mem_cons_of_mem c hx), List.append_assoc, List.singleton_append]

/-- A placeholder is taken for its parameter. -/
theorem reads_value (d : Dialect) (v : Value) : Reads d [.value v] [.value v] := by
  intro params taken before hv
  have here : params[taken]? = some v := by
    obtain ⟨rest, hr⟩ := hv
    have first : (params.drop taken)[0]? = some v := by rw [← hr]; rfl
    simpa using first
  have counted : d.write (taken + 1) [.value v] = d.placeholder (taken + 1) := by simp [write]
  rw [counted]
  cases d with
  | sqlite | mysql =>
    refine ⟨⟨.nothing, taken + 1, before ++ [.value v]⟩, ?_, by simp [Scan.settle?, values]⟩
    simp [placeholder, scanFrom?, scanStep?, extend?, begin?, Scan.settle?, Scan.take, Scan.emit,
      here, marks, quote]
  | postgres =>
    have digits := @scanFrom?_digits .postgres params (Nat.toDigits 10 (taken + 1))
      (fun c hc => Nat.isDigit_of_mem_toDigits (by decide) (by decide) hc) [] taken before
    refine ⟨⟨.number (Nat.toDigits 10 (taken + 1)), taken, before⟩, digits, ?_⟩
    simp only [Scan.settle?, Nat.ofDigitChars_ten_toDigits, here]
    rfl

/-- What is pending within or between words. -/
private def IsWord (p : Pending) : Prop := p = .nothing ∨ ∃ letters, p = .word letters

private theorem begin?_plain {c : Char} (hc : IsPlain c) :
    ∃ p ms, IsWord p ∧ ∀ params taken before,
      d.begin? params ⟨.nothing, taken, before⟩ c = some ⟨p, taken, before ++ ms⟩ := by
  have ne : c ≠ d.quote := ne_quote_of_isPlain hc
  by_cases blank : c = ' '
  · exact ⟨.nothing, [], .inl rfl, by simp [begin?, blank]⟩
  · by_cases mark : c ∈ marks
    · exact ⟨.nothing, [.mark c], .inl rfl, by simp [begin?, blank, mark, Scan.emit]⟩
    · have letter : c.isAlpha = true := by
        rcases hc with (h | h) | h
        · exact absurd h blank
        · exact absurd h mark
        · exact h
      exact ⟨.word [c], [], .inr ⟨[c], rfl⟩, by simp [begin?, blank, mark, ne, letter]⟩

private theorem scanStep?_plain {c : Char} (hc : IsPlain c) {p : Pending} (hp : IsWord p) :
    ∃ p' ms, IsWord p' ∧ ∀ params taken before,
      d.scanStep? params ⟨p, taken, before⟩ c = some ⟨p', taken, before ++ ms⟩ := by
  obtain ⟨p', ms, hp', begins⟩ := @begin?_plain d c hc
  rcases hp with rfl | ⟨letters, rfl⟩
  · exact ⟨p', ms, hp', begins⟩
  · by_cases letter : c.isAlpha = true
    · exact ⟨.word (letters ++ [c]), [], .inr ⟨_, rfl⟩, by simp [scanStep?, extend?, letter]⟩
    · refine ⟨p', .word (.ofList letters) :: ms, hp', ?_⟩
      intro params taken before
      have settled : (⟨.word letters, taken, before⟩ : Scan).settle? params =
          some ⟨.nothing, taken, before ++ [.word (.ofList letters)]⟩ := rfl
      simp [scanStep?, extend?, letter, settled, begins]

/-- Words are scanned in one way wherever they stand. -/
private theorem scanFrom?_plain {cs : List Char} (hcs : ∀ c ∈ cs, IsPlain c) {p : Pending}
    (hp : IsWord p) :
    ∃ p' ms, IsWord p' ∧ ∀ params taken before,
      d.scanFrom? params ⟨p, taken, before⟩ cs = some ⟨p', taken, before ++ ms⟩ := by
  induction cs generalizing p with
  | nil => exact ⟨p, [], hp, by simp [scanFrom?]⟩
  | cons c rest ih =>
    obtain ⟨p₁, ms₁, hp₁, first⟩ := @scanStep?_plain d c (hcs c List.mem_cons_self) p hp
    obtain ⟨p₂, ms₂, hp₂, later⟩ := ih (fun x hx => hcs x (List.mem_cons_of_mem c hx)) hp₁
    refine ⟨p₂, ms₁ ++ ms₂, hp₂, ?_⟩
    intro params taken before
    have tail := later params taken (before ++ ms₁)
    rw [List.append_assoc] at tail
    rw [scanFrom?, List.foldlM_cons, first]
    exact tail

/-- The words between names and values, and what they are taken for. -/
def vocabulary : List (String × List Lexeme) :=
  [("SELECT ", [.word "SELECT"]), (" FROM ", [.word "FROM"]),
    (" INNER JOIN ", [.word "INNER", .word "JOIN"]), (" ON ", [.word "ON"]),
    (" WHERE ", [.word "WHERE"]), (" AND ", [.word "AND"]),
    (" NOT IN ", [.word "NOT", .word "IN"]), ("INSERT INTO ", [.word "INSERT", .word "INTO"]),
    ("INSERT OR IGNORE INTO ", [.word "INSERT", .word "OR", .word "IGNORE", .word "INTO"]),
    ("INSERT IGNORE INTO ", [.word "INSERT", .word "IGNORE", .word "INTO"]),
    (" VALUES ", [.word "VALUES"]), (" ON CONFLICT ", [.word "ON", .word "CONFLICT"]),
    ("UPDATE ", [.word "UPDATE"]), (" SET ", [.word "SET"]),
    ("DELETE FROM ", [.word "DELETE", .word "FROM"]), ("(", [.mark '(']), (")", [.mark ')']),
    (", ", [.mark ',']), (".", [.mark '.']), (" = ", [.mark '=']), (" ", [])]

private theorem vocabulary_spelled (d : Dialect) : ∀ p ∈ vocabulary,
    p.1.toList.all (decide <| IsPlain ·) = true ∧
      d.scanFrom? [] ⟨.nothing, 0, []⟩ p.1.toList = some ⟨.nothing, 0, p.2⟩ := by
  cases d <;> decide

/-- A word is taken for its part of the vocabulary, and nothing is pending after it. -/
private theorem scanFrom?_word {w : String} (h : (w, ls) ∈ vocabulary) (taken : Nat)
    (before : List Lexeme) :
    d.scanFrom? params ⟨.nothing, taken, before⟩ w.toList =
      some ⟨.nothing, taken, before ++ ls⟩ := by
  obtain ⟨plain, spelled⟩ := vocabulary_spelled d _ h
  have letters : ∀ c ∈ w.toList, IsPlain c := by simpa using plain
  obtain ⟨p, ms, -, anywhere⟩ := @scanFrom?_plain d _ letters .nothing (.inl rfl)
  have here := spelled.symm.trans (anywhere [] 0 [])
  simp only [Option.some.injEq, Scan.mk.injEq, true_and, List.nil_append] at here
  obtain ⟨rfl, rfl⟩ := here
  exact anywhere params taken before

/-- The last words of an insertion that skips rows are read at the end of the text. -/
theorem reads_doNothing (d : Dialect) :
    Reads d [.word " DO NOTHING"] [.word "DO", .word "NOTHING"] := by
  intro params taken before _
  have spelled : d.scanFrom? params ⟨.nothing, taken, before⟩ " DO NOTHING".toList =
      some ⟨.word "NOTHING".toList, taken, before ++ [.word "DO"]⟩ := by
    cases d <;> rfl
  refine ⟨_, by simpa [write] using spelled, ?_⟩
  simp [Scan.settle?, Scan.emit, values]

/-! ## Pieces one after another -/

/-- After a word anything may stand. -/
theorem reads_cons_word {w : String} (h : (w, ls) ∈ vocabulary) (rest : Reads d qs ms) :
    Reads d (.word w :: qs) (ls ++ ms) := by
  intro params taken before hv
  have same : values (.word w :: qs) = values qs := rfl
  obtain ⟨s, hs, settled⟩ := rest params taken (before ++ ls) (by rwa [same] at hv)
  refine ⟨s, ?_, ?_⟩
  · rw [write, scanFrom?_append, scanFrom?_word h, Option.bind_some, hs]
  · rw [settled, same, List.append_assoc]

/-- After anything a word may stand that begins with a break. -/
theorem Reads.append {w : String} (h : Reads d ps ls) (o : Opens w)
    (rest : Reads d (.word w :: qs) ms) : Reads d (ps ++ .word w :: qs) (ls ++ ms) := by
  intro params taken before hv
  rw [values_append] at hv
  obtain ⟨tail, ht⟩ := hv
  obtain ⟨s, hs, settled⟩ := h params taken before ⟨values (.word w :: qs) ++ tail, by
    rw [← List.append_assoc, ht]⟩
  obtain ⟨t, ht', settled'⟩ := rest params (taken + (values ps).length) (before ++ ls) ⟨tail, by
    rw [← List.drop_drop, ← ht, List.append_assoc, List.drop_left]⟩
  refine ⟨t, ?_, ?_⟩
  · rw [write_append, scanFrom?_append, hs, Option.bind_some, write,
      scanFrom?_of_settle? o _ settled, ← write, Nat.add_right_comm, ht']
  · rw [settled', values_append, List.length_append, List.append_assoc, Nat.add_assoc]

/-- A word at the end. -/
theorem reads_word {w : String} (h : (w, ls) ∈ vocabulary) : Reads d [.word w] ls := by
  have alone := reads_cons_word h (reads_nil d)
  rwa [List.append_nil] at alone

/-- Parts with a separator between them are taken for the parts with what that is taken for. -/
theorem reads_separated {α : Type} {sep : String} {between : List Lexeme} {f : α → List Piece}
    {g : α → List Lexeme} (h : (sep, between) ∈ vocabulary) (o : Opens sep) (xs : List α)
    (parts : ∀ x ∈ xs, Reads d (f x) (g x)) :
    Reads d (separated sep (xs.map f)) (between.intercalate (xs.map g)) := by
  induction xs with
  | nil => exact reads_nil d
  | cons x rest ih =>
    have first : Reads d (f x) (g x) := parts x List.mem_cons_self
    have later := ih fun y hy => parts y (List.mem_cons_of_mem x hy)
    cases rest with
    | nil => simpa [separated, List.intercalate] using first
    | cons y tail =>
      have all := first.append o (reads_cons_word h later)
      simpa [separated, List.intercalate, List.intersperse] using all

/-- Pieces between parentheses. -/
theorem Reads.inParens (h : Reads d ps ls) :
    Reads d (inParens ps) (.mark '(' :: ls ++ [.mark ')']) := by
  have closed : Reads d (ps ++ [.word ")"]) (ls ++ [.mark ')']) :=
    h.append (by decide) (reads_word (by decide +kernel))
  have opened : ("(", [.mark '(']) ∈ vocabulary := by decide
  have all := reads_cons_word opened closed
  rwa [List.singleton_append, ← List.cons_append] at all

/-- A statement is taken for what its pieces are. -/
theorem lexemes?_of_reads (h : Reads d ps ls) :
    d.lexemes? ⟨.ofList (d.write 1 ps), values ps⟩ = some ls := by
  obtain ⟨s, hs, settled⟩ := h (values ps) 0 [] (List.prefix_refl _)
  rw [lexemes?, String.toList_ofList, hs, Option.bind_some, settled]
  simp

end Dialect

end EntityMap.Sql
