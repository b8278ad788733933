import EntityMap.Settings.Setting

/-!
# TOML: the tree of tables

Keys are set and tables are opened one after the other. A table may be opened by a header once,
and a table that dotted keys made is not opened by a header at all. A value is never set twice.
-/

namespace EntityMap.Toml

/-- What made a table: a header above it, its own header, or dotted keys. -/
inductive Origin where
  | implied
  | header
  | dotted
  deriving DecidableEq, Repr

/-- What stands under a key. -/
inductive Node where
  | leaf (value : Setting)
  | table (origin : Origin) (entries : List (String × Node))
  /-- The tables of a list, of which the last is open. -/
  | tables (closed : List (List (String × Node))) (last : List (String × Node))

/-- The keys of a table with what stands under them. -/
abbrev Entries := List (String × Node)

namespace Entries

def find? (es : Entries) (key : String) : Option Node := es.lookup key

/-- The entries with another node under a key that is there. -/
def replace (es : Entries) (key : String) (n : Node) : Entries :=
  es.map fun e => if e.1 = key then (key, n) else e

/--
Changes the table at the end of a path. Tables that are missing on the way are made. The change
is told what made the table; dotted keys do not lead into a table that has a header.
-/
def modify (byDots : Bool) (change : Option Origin → Entries → Option Entries)
    (origin : Option Origin) (es : Entries) : List String → Option Entries
  | [] => change origin es
  | key :: path =>
    match es.find? key with
    | none =>
      let made := if byDots then Origin.dotted else .implied
      (modify byDots change (some made) [] path).map fun sub => es ++ [(key, .table made sub)]
    | some (.leaf _) => none
    | some (.table made sub) =>
      if byDots && made = .header then none
      else (modify byDots change (some made) sub path).map fun sub =>
        es.replace key (.table made sub)
    | some (.tables closed last) =>
      (modify byDots change (some .header) last path).map fun last =>
        es.replace key (.tables closed last)

/-- Sets a key, given with the dotted keys before it. -/
def set (path : List String) (key : String) (value : Setting) (es : Entries) : Option Entries :=
  es.modify true (fun origin es =>
    if (!path.isEmpty && origin ≠ some .dotted) || (es.find? key).isSome then none
    else some (es ++ [(key, .leaf value)])) none path

/-- Opens the table of a header; it comes last among its neighbours, also if it was implied. -/
def openTable (path : List String) (key : String) (es : Entries) : Option Entries :=
  es.modify false (fun _ es =>
    match es.find? key with
    | none => some (es ++ [(key, .table .header [])])
    | some (.table .implied sub) => some (es.filter (·.1 ≠ key) ++ [(key, .table .header sub)])
    | some _ => none) none path

/-- Opens one more table of a list. -/
def openListTable (path : List String) (key : String) (es : Entries) : Option Entries :=
  es.modify false (fun _ es =>
    match es.find? key with
    | none => some (es ++ [(key, .tables [] [])])
    | some (.tables closed last) => some (es.replace key (.tables (closed ++ [last]) []))
    | some _ => none) none path

end Entries

mutual

/-- The settings that a node holds. -/
def Node.setting : Node → Setting
  | .leaf v => v
  | .table _ es => .table (settings es)
  | .tables closed last => .list (settingsOfAll closed ++ [.table (settings last)])

/-- The settings of a table. -/
def settings : List (String × Node) → List (String × Setting)
  | [] => []
  | e :: rest => entrySetting e :: settings rest

/-- The setting of one entry. -/
def entrySetting : String × Node → String × Setting
  | (k, n) => (k, n.setting)

/-- The settings of several tables. -/
def settingsOfAll : List (List (String × Node)) → List Setting
  | [] => []
  | es :: rest => .table (settings es) :: settingsOfAll rest

end

end EntityMap.Toml
