/-!
# Binary floating-point numbers

A number is the pattern of bits it is stored as. Reading the pattern gives a sign and an integer
times a power of two, an infinity, or no number at all. Equality is that of numbers, not of
patterns: the two zeros are equal, and what is not a number equals nothing.
-/

namespace EntityMap.Number

/-- How the bits below the sign are shared out. -/
structure BinaryFormat where
  fractionBits : Nat
  exponentBits : Nat
  deriving DecidableEq, Repr

namespace BinaryFormat

/-- The format of 32 bits. -/
def single : BinaryFormat := ⟨23, 8⟩

/-- The format of 64 bits. -/
def double : BinaryFormat := ⟨52, 11⟩

/-- The number of bits of a pattern. -/
def width (f : BinaryFormat) : Nat := 1 + f.exponentBits + f.fractionBits

/-- How many fraction fields there are. -/
def fractions (f : BinaryFormat) : Nat := Nat.pow 2 f.fractionBits

/-- How many exponent fields there are. -/
def exponents (f : BinaryFormat) : Nat := Nat.pow 2 f.exponentBits

/-- The greatest exponent field, kept for infinities and what is not a number. -/
def lastExponent (f : BinaryFormat) : Nat := f.exponents - 1

/-- The power of two that the smallest positive number is. -/
def leastPower (f : BinaryFormat) : Int :=
  2 - (f.exponents / 2 : Nat) - f.fractionBits

end BinaryFormat

/-- A number of a format, as its bits: sign, exponent field, fraction field. -/
structure Binary (f : BinaryFormat) where
  bits : BitVec f.width
  deriving DecidableEq, Repr

/-- What a pattern of bits stands for. -/
inductive Magnitude where
  | notANumber
  | infinite
  /-- The integer times the power of two with this exponent. -/
  | finite (integer : Nat) (power : Int)
  deriving DecidableEq, Repr

namespace Binary

variable {f : BinaryFormat}

/-- The sign bit is set. -/
def isNegative (x : Binary f) : Bool := x.bits.msb

def exponentField (x : Binary f) : Nat := x.bits.toNat / f.fractions % f.exponents

def fractionField (x : Binary f) : Nat := x.bits.toNat % f.fractions

/-- The number without its sign. -/
def magnitude (x : Binary f) : Magnitude :=
  if x.exponentField = f.lastExponent then
    if x.fractionField = 0 then .infinite else .notANumber
  else if x.exponentField = 0 then .finite x.fractionField f.leastPower
  else .finite (f.fractions + x.fractionField) (f.leastPower + (x.exponentField - 1 : Nat))

def isNaN (x : Binary f) : Bool := x.magnitude == .notANumber

def isZero (x : Binary f) : Bool := x.exponentField == 0 && x.fractionField == 0

/-- Equality of numbers: zeros are equal whatever their sign, and a non-number equals nothing. -/
def sameNumber (x y : Binary f) : Bool :=
  !x.isNaN && !y.isNaN && (x.bits == y.bits || (x.isZero && y.isZero))

/-- The number with a sign and the bits below it. -/
def ofParts (negative : Bool) (rest : Nat) : Binary f :=
  ⟨BitVec.ofNat _ ((if negative then f.exponents * f.fractions else 0) + rest)⟩

/-- The positive zero. -/
def zero : Binary f := ofParts false 0

/-- The infinity of a sign. -/
def infinity (negative : Bool) : Binary f :=
  ofParts negative (f.lastExponent * f.fractions)

/-- The non-number with the highest fraction bit alone set. -/
def nan : Binary f :=
  ofParts false (f.lastExponent * f.fractions + f.fractions / 2)

end Binary

/-- The quotient rounded to the nearest integer, a tie to the even one. -/
def roundHalfEven (num den : Nat) : Nat :=
  let q := num / den
  let r := num % den
  if 2 * r < den then q
  else if den < 2 * r then q + 1
  else if q % 2 = 0 then q else q + 1

/-- A power with an integer exponent, as numerator and denominator. -/
def powerRatio (base : Nat) : Int → Nat × Nat
  | .ofNat n => (base.pow n, 1)
  | .negSucc n => (1, base.pow (n + 1))

/-- The exponent of the greatest power of two that does not exceed a positive quotient. -/
def floorLog2 (num den : Nat) : Int :=
  let e : Int := (Nat.log2 num : Int) - Nat.log2 den
  let (n, d) := powerRatio 2 e
  if den * n ≤ num * d then e else e - 1

/--
The number nearest to a quotient, a tie going to the even integer. An exponent field lies next to
the fraction field, so that a carry out of the fraction raises the exponent.
-/
def Binary.ofQuotient (f : BinaryFormat) (negative : Bool) (num den : Nat) : Binary f :=
  if num = 0 then .ofParts negative 0
  else
    let power := max (floorLog2 num den - f.fractionBits) f.leastPower
    let (n, d) := powerRatio 2 power
    let rest := roundHalfEven (num * d) (den * n)
      + (power - f.leastPower).toNat * f.fractions
    if f.lastExponent * f.fractions ≤ rest then .infinity negative
    else .ofParts negative rest

end EntityMap.Number
