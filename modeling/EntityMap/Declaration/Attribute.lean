import EntityMap.Declaration.Fault
import EntityMap.Declaration.Lexeme

/-!
# Attributes

An attribute is read off the elements between its brackets. The storage attribute of a field gives
its column, or one of the words `skip` and `flatten`. The annotation attribute gives items: keys,
and keys with a text. Of a struct it gives flags only.
-/

namespace EntityMap.Declaration

/-- What follows the name of an attribute. -/
inductive Arguments where
  | absent
  /-- A value behind an equals sign. -/
  | assigned
  /-- What stands between brackets. -/
  | given (lexemes : List Lexeme)
  deriving DecidableEq, Repr

/-- An attribute that means something here, with its arguments, or any other. -/
inductive Attribute where
  | known (name : AttributeName) (arguments : Arguments)
  | other
  deriving DecidableEq, Repr

namespace Attribute

/-- The attribute with the given elements between its brackets. -/
def ofContent : List Lexeme → Attribute
  | .ident word :: rest =>
    match AttributeName.ofText? word, rest with
    | none, _ => other
    | some name, [] => known name .absent
    | some name, .sign '=' _ :: _ => known name .assigned
    | some name, l :: rest => if l.isOpening then known name (.given rest.dropLast) else other
  | _ => other

/-- The attributes that stand one after the other. The bound is on the number of steps. -/
def read? : Nat → List Lexeme → Option (List Attribute)
  | _, [] => some []
  | steps + 1, .sign '#' _ :: .sign '[' _ :: rest => do
    let (content, rest) ← closing? 0 rest
    return ofContent content :: (← read? steps rest)
  | _, _ => none

/-- The attributes that stand one after the other, if nothing else does. -/
def listOf? (lexemes : List Lexeme) : Option (List Attribute) := read? lexemes.length lexemes

end Attribute

/-- The elements between the brackets of an attribute of the given name. -/
def Arguments.between (name : AttributeName) : Arguments → Except Fault (List Lexeme)
  | absent => throw (.noArguments name)
  | assigned => throw (.noBrackets name)
  | given lexemes => return lexemes

/-- How a field is stored. -/
inductive Storage where
  | column (name : String)
  | skip
  | flatten
  deriving DecidableEq, Repr

/-- An item of an annotation. -/
structure Item where
  key : String
  value : Option String := none
  deriving DecidableEq, Repr

/-- The item as an annotation text writes it. -/
def Item.text (i : Item) : String :=
  match i.value with
  | some v => i.key ++ "=" ++ v
  | none => i.key

/-- The arguments of a storage attribute. -/
def readStorage (arguments : List Lexeme) : Except Fault Storage := do
  let (storage, rest) ← match arguments with
    | .string column :: rest =>
      if column.isEmpty then throw .emptyColumn else pure (Storage.column column, rest)
    | .ident word :: rest =>
      if keywords.contains word then throw (.keyword word)
      else if word = "skip" then pure (.skip, rest)
      else if word = "flatten" then pure (.flatten, rest)
      else throw .storageForm
    | rest => throw (.missing .identifier rest.isEmpty)
  if rest.isEmpty then return storage else throw .leftOver

/-! ## Keys -/

/-- A key: names with double colons between them, and perhaps in front. -/
structure Key where
  leadingColons : Bool := false
  parts : List String
  deriving DecidableEq, Repr

/-- The key, if it is a single name. -/
def Key.name? (k : Key) : Option String :=
  match k with
  | ⟨false, [name]⟩ => some name
  | _ => none

/-- The parts of a key after its first, and what follows the key. -/
def readKeyParts : List Lexeme → Except Fault (List String × List Lexeme)
  | .sign ':' true :: .sign ':' _ :: .ident part :: rest => do
    let (parts, rest) ← readKeyParts rest
    return (part :: parts, rest)
  | .sign ':' true :: .sign ':' _ :: rest => throw (.missing .keyPart rest.isEmpty)
  | rest => return ([], rest)

/-- A key, and what follows it. -/
def readKey (arguments : List Lexeme) : Except Fault (Key × List Lexeme) := do
  let (leadingColons, arguments) := match arguments with
    | .sign ':' true :: .sign ':' _ :: rest => (true, rest)
    | rest => (false, rest)
  match arguments with
  | .ident first :: rest =>
    let (parts, rest) ← readKeyParts rest
    return (⟨leadingColons, first :: parts⟩, rest)
  | [] => throw (.missing .key true)
  | .sign '-' _ :: .number _ :: _ => throw .literalKey
  | .sign _ _ :: _ => throw .signKey
  | _ => throw .literalKey

/--
Reads keys with commas between them. What may follow a key is for `entry` to read; it gives its
result and the rest. The bound on the number of keys is never reached: each takes an element.
-/
def readEntries {α : Type} (entry : Key → List Lexeme → Except Fault (α × List Lexeme)) :
    Nat → List Lexeme → Except Fault (List α)
  | 0, _ => return []
  | bound + 1, arguments => do
    if arguments.isEmpty then return []
    let (key, rest) ← readKey arguments
    let (x, rest) ← entry key rest
    match rest with
    | [] => return [x]
    | .sign ',' _ :: rest => return x :: (← readEntries entry bound rest)
    | _ => throw (.missing .comma false)

/-- An item after its key: an equals sign and a text may follow. -/
def readItem (key : Key) (rest : List Lexeme) : Except Fault (Item × List Lexeme) :=
  match key.name? with
  | none => throw .keyForm
  | some name =>
    match rest with
    | .sign '=' _ :: .string value :: rest => return (⟨name, some value⟩, rest)
    | .sign '=' _ :: rest => throw (.missing .stringLiteral rest.isEmpty)
    | rest => return (⟨name, none⟩, rest)

/-- The items of an annotation. -/
def readItems (arguments : List Lexeme) : Except Fault (List Item) :=
  readEntries readItem arguments.length arguments

/-- The only flag of a struct. -/
def readFlag (key : Key) (rest : List Lexeme) : Except Fault (Unit × List Lexeme) :=
  if key.name? = some "hooks" then return ((), rest) else throw .structAttribute

/-! ## The attributes of a field and of a struct -/

/-- What the attributes of a field say. -/
structure FieldAttributes where
  storage : Option Storage := none
  items : List Item := []
  deriving DecidableEq, Repr

namespace FieldAttributes

/-- What one more attribute says. -/
def add (a : FieldAttributes) : Attribute → Except Fault FieldAttributes
  | .other => return a
  | .known .storage arguments => do
    if a.storage.isSome then throw .storageTwice
    return { a with storage := some (← readStorage (← arguments.between .storage)) }
  | .known .metadata arguments =>
    return { a with items := a.items ++ (← readItems (← arguments.between .metadata)) }

/-- What a list of attributes says. -/
def ofList (attributes : List Attribute) : Except Fault FieldAttributes :=
  attributes.foldlM add {}

/-- The annotations in their written form. -/
def tag (a : FieldAttributes) : String := Text.join "," (a.items.map (·.text))

/-- The relation kinds among the items. -/
def kinds (a : FieldAttributes) : List RelationKind :=
  RelationKind.all.filter fun k => a.items.any (·.text == k.token)

/-- The one relation kind among the items, if there is any. -/
def kind? (a : FieldAttributes) : Except Fault (Option RelationKind) :=
  match a.kinds with
  | [] => return none
  | [k] => return some k
  | _ => throw .severalKinds

end FieldAttributes

/-- The attributes of a struct ask for hooks of its own. -/
def hasHooks (attributes : List Attribute) : Except Fault Bool :=
  attributes.foldlM (fun found a =>
    match a with
    | .known .metadata arguments => do
      let lexemes ← arguments.between .metadata
      let flags ← readEntries readFlag lexemes.length lexemes
      return found || !flags.isEmpty
    | _ => return found) false

end EntityMap.Declaration
