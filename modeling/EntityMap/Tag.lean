import EntityMap.Text.Blank

/-!
# Annotation texts

An annotation text is a list of tokens with commas between. A token is a key, or a key and a value
with an equals sign between; white space around either has no meaning, and neither have empty
items. A key may be repeated: its value is then the first that is not empty.
-/

namespace EntityMap

/-- A key with its value, which is empty for a bare flag. -/
structure Token where
  key : String
  value : String
  deriving DecidableEq, Repr

namespace Token

/-- The token of an item: cut at the first equals sign, both parts trimmed. -/
def ofItem (item : List Char) : Token :=
  match Text.cutAt '=' item with
  | some (key, value) => ⟨.ofList (Text.trim key), .ofList (Text.trim value)⟩
  | none => ⟨.ofList item, ""⟩

end Token

/-- The tokens of an annotation text, in order. -/
structure Tag where
  tokens : List Token
  deriving DecidableEq, Repr

namespace Tag

/-- The trimmed items of a text that are not empty. -/
def items (text : List Char) : List (List Char) :=
  ((Text.pieces ',' text).map Text.trim).filter (!·.isEmpty)

/-- The tokens of a text. -/
def ofString (text : String) : Tag := ⟨(items text.toList).map Token.ofItem⟩

def keys (t : Tag) : List String := t.tokens.map (·.key)

/-- Some token has the key. -/
def has (t : Tag) (key : String) : Bool := t.tokens.any (·.key == key)

/-- The first value of the key that is not empty. -/
def get? (t : Tag) (key : String) : Option String :=
  (t.tokens.find? fun x => x.key == key && !x.value.isEmpty).map (·.value)

end Tag

end EntityMap
