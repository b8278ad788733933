import EntityMap.Number.Binary

/-!
# The shortest decimal of a binary number

Among the decimals that read back as a given binary number, `shortest` picks one with the fewest
digits, and among those the nearest to the number.
-/

namespace EntityMap.Number

/-- The number `digits · 10 ^ exponent`. -/
structure Decimal where
  digits : Nat
  exponent : Int
  deriving DecidableEq, Repr

/-- A positive quotient lies below ten to this power, and not below the power before. -/
def decimalPlace (num den : Nat) : Int :=
  if den ≤ num then (Nat.toDigits 10 (num / den)).length
  else 1 - ((Nat.toDigits 10 ((den - 1) / num)).length : Int)

/--
The reals that a number `4 · m` quarters stands for, in quarters of its last place: down to two
quarters below it, or to one where the next number below is only half as far away, and up to two
quarters above it.
-/
structure Interval where
  /-- The quarter, as numerator and denominator. -/
  quarter : Nat × Nat
  low : Nat
  value : Nat
  high : Nat
  /-- The two ends belong to the interval. -/
  closed : Bool
  deriving DecidableEq, Repr

namespace Interval

/-- The interval of an integer times a power of two in a format. -/
def ofMagnitude (f : BinaryFormat) (m : Nat) (power : Int) : Interval where
  quarter := powerRatio 2 (power - 2)
  low := if m = f.fractions && f.leastPower < power then 4 * m - 1 else 4 * m - 2
  value := 4 * m
  high := 4 * m + 2
  closed := m % 2 = 0

/-- The decimal lies in the interval. -/
def contains (i : Interval) (x : Decimal) : Bool :=
  let (n, d) := powerRatio 10 x.exponent
  let point := x.digits * n * i.quarter.2
  let low := i.low * i.quarter.1 * d
  let high := i.high * i.quarter.1 * d
  if i.closed then low ≤ point && point ≤ high else low < point && point < high

/--
Of the two decimals with this exponent that enclose the value, the one in the interval; if both
are, the nearer, and the upper one of two that are equally near.
-/
def neighbour? (i : Interval) (exponent : Int) : Option Decimal :=
  let (n, d) := powerRatio 10 exponent
  let num := i.value * i.quarter.1 * d
  let den := i.quarter.2 * n
  let below : Decimal := ⟨num / den, exponent⟩
  let above : Decimal := ⟨num / den + 1, exponent⟩
  match i.contains below, i.contains above with
  | true, true => some (if den ≤ 2 * (num % den) then above else below)
  | true, false => some below
  | false, true => some above
  | false, false => none

/-- The first neighbour found while the exponent goes down, in at most so many steps. -/
def search (i : Interval) (exponent : Int) : Nat → Decimal
  | 0 => ⟨0, 0⟩
  | steps + 1 =>
    match i.neighbour? exponent with
    | some x => x
    | none => search i (exponent - 1) steps

end Interval

/-- The shortest decimal for a positive integer times a power of two. -/
def shortest (f : BinaryFormat) (m : Nat) (power : Int) : Decimal :=
  let i := Interval.ofMagnitude f m power
  let place := decimalPlace (i.value * i.quarter.1) i.quarter.2
  i.search (place - 1) (f.fractionBits + 2)

end EntityMap.Number
