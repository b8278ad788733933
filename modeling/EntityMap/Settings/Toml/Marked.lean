import EntityMap.Settings.Setting
import EntityMap.Settings.Toml.DateTime

/-!
# TOML: tables that stand for dates

A table whose first key is a certain mark stands for the date that the text behind it writes; what
else it holds is passed over. If no date stands there, the document is malformed.
-/

namespace EntityMap

/-- The key that marks a date. -/
def Toml.dateMark : String := "$__toml_private_datetime"

/-- The date that the value of a mark writes. -/
def Toml.markedDate? : Setting → Option Setting
  | .text s => (Toml.DateTime.ofChars? true s.toList).map (.date ·.text)
  | _ => none

mutual

/-- The setting with dates for the tables that stand for them. -/
def Setting.dated? : Setting → Option Setting
  | .table es =>
    match es with
    | [] => some (.table [])
    | (key, v) :: rest =>
      if key = Toml.dateMark then Toml.markedDate? v
      else
        match v.dated?, Setting.datedEntries? rest with
        | some v, some rest => some (.table ((key, v) :: rest))
        | _, _ => none
  | .list items => (Setting.datedItems? items).map .list
  | v => some v

/-- The entries with dates for the tables that stand for them. -/
def Setting.datedEntries? : List (String × Setting) → Option (List (String × Setting))
  | [] => some []
  | (key, v) :: rest =>
    match v.dated?, Setting.datedEntries? rest with
    | some v, some rest => some ((key, v) :: rest)
    | _, _ => none

/-- The items with dates for the tables that stand for them. -/
def Setting.datedItems? : List Setting → Option (List Setting)
  | [] => some []
  | v :: rest =>
    match v.dated?, Setting.datedItems? rest with
    | some v, some rest => some (v :: rest)
    | _, _ => none

end

end EntityMap
