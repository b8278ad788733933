import EntityMap.Settings.Path
import EntityMap.Sql.Dialect

/-!
# Configuration

The settings of an application come from two layers: a file, and above it the variables of the
environment. Each layer sets keys and paths of one table. A file that is no document is left out.
-/

namespace EntityMap

/-- What can be configured. -/
structure Settings where
  dialect : Sql.Dialect := .sqlite
  /-- What stands before the name of every table. -/
  tablePrefix : Option String := none
  deriving DecidableEq, Repr

/-! ## The environment -/

/-- What the names of the variables begin with. -/
def variablePrefix : List Char := "relmeta__".toList

/-- The text with a point for every pair of underscores, taken from the left. -/
def pointsForPairs : List Char → List Char
  | '_' :: '_' :: rest => '.' :: pointsForPairs rest
  | c :: rest => c :: pointsForPairs rest
  | [] => []

/-- The name of the setting that a variable gives, if its name begins as it must. -/
def settingName? (varName : String) : Option String :=
  let name := varName.toList
  if variablePrefix.isPrefixOf (Text.lower name) then
    some (.ofList (Text.lower (pointsForPairs (name.drop variablePrefix.length))))
  else none

/-- The settings that the variables of an environment give. -/
def environmentLayer (environment : List (String × String)) : SettingTable :=
  environment.filterMap fun (name, value) => (settingName? name).map fun n => (n, .text value)

/-! ## Reading -/

namespace Setting

/-- The setting as a text, if it is a text, a number, a truth value or a date. -/
def asText? : Setting → Option String
  | text s | date s => some s
  | integer n => some (toString n)
  | number x => some (x.text .plain)
  | boolean b => some (toString b)
  | nothing | list _ | table _ => none

end Setting

namespace Sql.Dialect

/-- The dialect of a name, in any case. -/
def ofName? (name : String) : Option Dialect :=
  match foldKey name with
  | "sqlite" => some sqlite
  | "mysql" => some mysql
  | "postgres" | "postgresql" => some postgres
  | _ => none

/-- The dialect that a setting names, as a text or as the only key of a table. -/
def ofSetting? : Setting → Option Dialect
  | .text name => ofName? name
  | .table [(name, _)] => ofName? name
  | _ => none

end Sql.Dialect

namespace Settings

/-- The settings that a table holds; other keys mean nothing. None if a value is of no use. -/
def ofTable? (t : SettingTable) : Option Settings := do
  let dialect ← match t.find? "dialect" with
    | none => some .sqlite
    | some v => Sql.Dialect.ofSetting? v
  let tablePrefix ← match t.find? "table_prefix" with
    | none => some none
    | some v => v.asText?.map some
  return { dialect, tablePrefix }

/-- The settings of a document; none if it is malformed or a value is of no use. -/
def ofToml? (text : String) : Option Settings := do
  ofTable? (SettingTable.addLayer [] (← Toml.document? text))

/-- The document in a file; a mark of byte order at the start of the file is no part of it. -/
def fileDocument? (file : String) : Option SettingTable :=
  match file.toList with
  | '\ufeff' :: text => Toml.document? (.ofList text)
  | _ => Toml.document? file

/-- The settings of a file, if there is one, and of the environment above it. -/
def load? (file : Option String) (environment : List (String × String)) : Option Settings :=
  let base := SettingTable.addLayer [] ((file.bind fileDocument?).getD [])
  ofTable? (base.addLayer (environmentLayer environment))

end Settings

end EntityMap
