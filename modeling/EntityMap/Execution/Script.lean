import EntityMap.Execution
import EntityMap.Sql.Dialect

/-!
# A scripted store

A store that answers from a list of prepared replies, one for each statement, and notes the
statements that it was given in the text of a dialect.
-/

namespace EntityMap

open Sql

/-- A prepared reply: a report of failure, or what to answer to a write and to a selection. -/
inductive Reply where
  | failure (report : String)
  | answer (outcome : Outcome) (rows : List Row)
  deriving DecidableEq, Repr

/-- The two ways to run a statement. -/
inductive CallKind where
  | execute
  | queryAll
  deriving DecidableEq, Repr

/-- A statement that was run, and how. -/
structure Call where
  kind : CallKind
  statement : Statement
  deriving DecidableEq, Repr

/-- The replies that are left, and the statements run so far. -/
structure Script where
  replies : List Reply
  calls : List Call := []
  deriving DecidableEq, Repr

namespace Script

/-- Notes a statement and takes the next reply, reading the answer off it. -/
def take {α : Type} (read : Outcome → List Row → α) (kind : CallKind) (statement : Statement)
    (s : Script) : Except Error α × Script :=
  let calls := s.calls ++ [⟨kind, statement⟩]
  match s.replies with
  | [] => (.error (.execution "script exhausted"), ⟨[], calls⟩)
  | .failure report :: rest => (.error (.execution report), ⟨rest, calls⟩)
  | .answer outcome rows :: rest => (.ok (read outcome rows), ⟨rest, calls⟩)

/-- Runs a statement that writes. -/
def execute (statement : Statement) (s : Script) : Except Error Outcome × Script :=
  s.take (fun outcome _ => outcome) .execute statement

/-- Runs a selection. -/
def queryAll (statement : Statement) (s : Script) : Except Error (List Row) × Script :=
  s.take (fun _ rows => rows) .queryAll statement

/-- The executor that writes statements in a dialect and runs them against a script. -/
def executor (d : Dialect) : Executor Script where
  execute q s := s.execute (d.render q)
  queryAll q s := s.queryAll (d.render q)

end Script

end EntityMap
