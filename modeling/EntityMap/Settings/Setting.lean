import EntityMap.Number.Binary

/-!
# Settings as data

The content of a configuration source: texts, numbers, truth values, dates, lists and tables of
them. A place of a list that nothing was put into holds nothing.
-/

namespace EntityMap

/-- A value in a configuration. -/
inductive Setting where
  | nothing
  | text (s : String)
  | integer (n : Int)
  | number (x : Number.Binary .double)
  | boolean (b : Bool)
  /-- A date or a time, as it is written. -/
  | date (written : String)
  | list (items : List Setting)
  | table (entries : List (String × Setting))

end EntityMap
