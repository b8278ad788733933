import EntityMap.Settings.Setting
import EntityMap.Settings.Toml
import EntityMap.Text.SnakeCase

/-!
# Paths into settings

The name of a setting may be a path: a key, then keys with points in front and places of lists in
brackets. Setting a value makes the tables and lists on the way, in place of what is none. Keys
are compared without regard to case, and a table set over a table is merged into it.
-/

namespace EntityMap

/-- A key in the form in which keys are compared. -/
def foldKey (key : String) : String := .ofList (Text.lower key.toList)

/-- The entries of a table of settings. -/
abbrev SettingTable := List (String × Setting)

namespace SettingTable

def find? (t : SettingTable) (key : String) : Option Setting := t.lookup key

/-- The table with another value of a key, in place of an earlier one. -/
def put (t : SettingTable) (key : String) (value : Setting) : SettingTable :=
  t.filter (·.1 ≠ key) ++ [(key, value)]

/-- A value is found under its key. -/
@[simp] theorem find?_put_self (t : SettingTable) (key : String) (value : Setting) :
    (t.put key value).find? key = some value := by
  unfold find? put
  rw [List.lookup_append, List.lookup_eq_none_iff.2 (by grind)]
  simp

/-- Other keys keep their values. -/
theorem find?_put_of_ne (t : SettingTable) {key other : String} (h : other ≠ key)
    (value : Setting) : (t.put key value).find? other = t.find? other := by
  have single : List.lookup other [(key, value)] = none := by
    simp [List.lookup_cons, beq_false_of_ne h]
  unfold find? put
  rw [List.lookup_append, single, Option.or_none]
  induction t with
  | nil => rfl
  | cons e rest ih =>
    obtain ⟨k, v⟩ := e
    by_cases hk : k = key
    · rw [List.filter_cons_of_neg (by simp [hk]), ih, List.lookup_cons, hk, beq_false_of_ne h]
    · rw [List.filter_cons_of_pos (by simp [hk]), List.lookup_cons, List.lookup_cons, ih]

mutual

/-- Sets a key; a table is merged into the table that stands there. -/
def merge (t : SettingTable) (key : String) : Setting → SettingTable
  | .table es =>
    match t.find? (foldKey key) with
    | some (.table old) => t.put (foldKey key) (.table (mergeAll old es))
    | some _ =>
      if es.isEmpty then t else t.put (foldKey key) (.table (mergeAll [] es))
    | none => t.put (foldKey key) (.table (mergeAll [] es))
  | v => t.put (foldKey key) v

/-- Sets the keys of a table one after the other. -/
def mergeAll (t : SettingTable) : List (String × Setting) → SettingTable
  | [] => t
  | e :: rest => mergeAll (mergeEntry t e) rest

/-- Sets the key of an entry. -/
def mergeEntry (t : SettingTable) : String × Setting → SettingTable
  | (key, v) => merge t key v

end

end SettingTable

/-! ## Reading paths -/

/-- A step from a setting into what it holds. -/
inductive PathStep where
  | key (key : String)
  /-- A place of a list, counted from its end if negative. -/
  | place (index : Int)
  deriving DecidableEq, Repr

/-- A path into a table of settings. -/
structure SettingPath where
  key : String
  steps : List PathStep := []
  deriving DecidableEq, Repr

namespace SettingPath

/-- A character of a key in a path; unlike elsewhere a space may stand in it. -/
def isPathChar (c : Char) : Bool := Toml.isKeyChar c || c == ' '

/-- A place in brackets, in which blanks may stand around the number. -/
def place? (s : List Char) : Option (Int × List Char) :=
  let (negative, digits) := match Toml.skipBlanks s with
    | '-' :: rest => (true, rest)
    | rest => (false, rest)
  let number := digits.takeWhile Char.isDigit
  let value : Int := Number.digitsValue number
  let index := if negative then -value else value
  if number.isEmpty || (Bounded.ofInt? .int64 index).isNone then none
  else
    match Toml.skipBlanks (digits.dropWhile Char.isDigit) with
    | ']' :: rest => some (index, rest)
    | _ => none

/-- The steps that a text writes. The bound is on their number. -/
def steps? : Nat → List Char → Option (List PathStep)
  | _, [] => some []
  | bound + 1, '.' :: rest =>
    match rest.takeWhile isPathChar with
    | [] => none
    | key => (steps? bound (rest.dropWhile isPathChar)).map (.key (.ofList key) :: ·)
  | bound + 1, '[' :: rest =>
    (place? rest).bind fun (index, rest) => (steps? bound rest).map (.place index :: ·)
  | _, _ => none

/-- The path that a name writes; a name that writes none is a single key. -/
def ofName (name : String) : SettingPath :=
  let s := name.toList
  match s.takeWhile isPathChar, steps? s.length (s.dropWhile isPathChar) with
  | c :: key, some steps => ⟨.ofList (c :: key), steps⟩
  | _, _ => ⟨name, []⟩

end SettingPath

/-! ## Setting values -/

namespace Setting

/-- The entries of a setting that is a table; none of any other. -/
def entries : Setting → SettingTable
  | .table es => es
  | _ => []

/-- The items of a setting that is a list; none of any other. -/
def items : Setting → List Setting
  | .list vs => vs
  | _ => []

/-- The list with another item at a place; what is missing before it holds nothing. -/
def putItem (items : List Setting) (index : Nat) (v : Setting) : List Setting :=
  (items.rightpad (index + 1) .nothing).set index v

/-- The position of a place in a list; there is none before the first. -/
def position? (items : List Setting) (index : Int) : Option Nat :=
  (if index < 0 then items.length + index else index).toNat?

/-- The setting with a value set at the end of some steps. -/
def setAt (value : Setting) : List PathStep → Setting → Setting
  | [], _ => value
  | [.key key], v => .table (SettingTable.merge v.entries key value)
  | .key key :: steps, v =>
    let inner := (v.entries.find? (foldKey key)).getD .nothing
    .table (v.entries.put (foldKey key) (setAt value steps inner))
  | .place index :: steps, v =>
    match position? v.items index with
    | none => v
    | some i => .list (putItem v.items i (setAt value steps (v.items[i]?.getD .nothing)))

end Setting

namespace SettingTable

/-- The table with a value set at the end of a path. -/
def set (t : SettingTable) (p : SettingPath) (value : Setting) : SettingTable :=
  (Setting.setAt value (.key p.key :: p.steps) (.table t)).entries

/-- The table with the settings of a layer, under names that may be paths. -/
def addLayer (t : SettingTable) (layer : SettingTable) : SettingTable :=
  layer.foldl (fun t e => t.set (.ofName e.1) e.2) t

end SettingTable

end EntityMap
