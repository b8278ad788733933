/-!
# Tables of code points

A character property is a table of ranges or, where capital and small letters alternate, of runs
with a step of two.
-/

namespace EntityMap.Text

/-- The character lies in one of the ranges, both ends included. -/
def inRanges (table : List (Nat × Nat)) (c : Char) : Bool :=
  table.any fun r => r.1 ≤ c.toNat && c.toNat ≤ r.2

/-- The code points `first`, `first + step`, … up to `last`. -/
structure Run where
  first : Nat
  last : Nat
  step : Nat
  deriving DecidableEq, Repr

/-- The run holds the character. -/
def Run.contains (r : Run) (c : Char) : Bool :=
  r.first ≤ c.toNat && c.toNat ≤ r.last && (c.toNat - r.first) % r.step == 0

/-- One of the runs holds the character. -/
def Run.covers (table : List Run) (c : Char) : Bool := table.any (·.contains c)

/-- A run whose code points all map to the ones `shift` further on. -/
structure ShiftedRun where
  run : Run
  shift : Int
  deriving DecidableEq, Repr

end EntityMap.Text
