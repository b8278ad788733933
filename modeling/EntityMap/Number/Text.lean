import EntityMap.Number.Shortest

/-!
# The text of a binary number

A number is written with its shortest decimal, in one of two styles: `exact`, which tells a whole
number from an integer and turns to powers of ten at the ends of the scale, and `plain`, which is
positional throughout. Reading accepts both, and rounds to the nearest number.
-/

namespace EntityMap.Number

/-- How a finite number is laid out. -/
structure NumberStyle where
  /-- A whole number is followed by `.0`. -/
  pointZero : Bool
  /-- The exponents of the first digit for which the layout is positional; without bounds: all. -/
  positional : Option (Int × Int)
  deriving DecidableEq, Repr

/-- Whole numbers end in `.0`, and only the decades from `1e-4` to `1e15` are positional. -/
def NumberStyle.exact : NumberStyle := ⟨true, some (-4, 15)⟩

/-- Whole numbers look like integers, and every number is positional. -/
def NumberStyle.plain : NumberStyle := ⟨false, none⟩

private def zeros (n : Nat) : List Char := List.replicate n '0'

/-- The digits with the point so many places to the right of the first one's left side. -/
def positionalText (pointZero : Bool) (digits : List Char) (place : Int) : List Char :=
  if place ≤ 0 then ['0', '.'] ++ zeros (-place).toNat ++ digits
  else if digits.length ≤ place.toNat then
    digits ++ zeros (place.toNat - digits.length) ++ (if pointZero then ['.', '0'] else [])
  else digits.take place.toNat ++ ['.'] ++ digits.drop place.toNat

/-- One digit, the others behind a point, and the power of ten. -/
def scientificText (digits : List Char) (place : Int) : List Char :=
  digits.take 1 ++ (if digits.length ≤ 1 then [] else '.' :: digits.drop 1)
    ++ 'e' :: (toString (place - 1)).toList

/-- A finite number without its sign. -/
def NumberStyle.magnitudeText (s : NumberStyle) (x : Decimal) : List Char :=
  let all := Nat.toDigits 10 x.digits
  let place := (all.length : Int) + x.exponent
  let digits := (all.reverse.dropWhile (· == '0')).reverse
  match s.positional with
  | some (least, most) =>
    if least ≤ place - 1 ∧ place - 1 ≤ most then positionalText s.pointZero digits place
    else scientificText digits place
  | none => positionalText s.pointZero digits place

/-- The text of a number. A non-number has no sign. -/
def Binary.text {f : BinaryFormat} (s : NumberStyle) (x : Binary f) : String :=
  let sign := if x.isNegative then ['-'] else []
  match x.magnitude with
  | .notANumber => "NaN"
  | .infinite => String.ofList (sign ++ ['i', 'n', 'f'])
  | .finite 0 _ => String.ofList (sign ++ '0' :: (if s.pointZero then ['.', '0'] else []))
  | .finite m power => String.ofList (sign ++ s.magnitudeText (shortest f m power))

/-- The value of a list of decimal digits. -/
def digitsValue (digits : List Char) : Nat :=
  digits.foldl (fun n c => 10 * n + (c.toNat - '0'.toNat)) 0

/-- An exponent: an optional sign and at least one digit, and nothing after them. -/
def exponent? (s : List Char) : Option Int :=
  let (negative, digits) := match s with
    | '-' :: r => (true, r)
    | '+' :: r => (false, r)
    | r => (false, r)
  if digits.isEmpty || !digits.all Char.isDigit then none
  else some (if negative then -(digitsValue digits : Int) else digitsValue digits)

/--
A decimal text: digits with at most one point among them, at least one digit, and an optional
power of ten.
-/
def decimal? (s : List Char) : Option Decimal :=
  let whole := s.takeWhile Char.isDigit
  let (fraction, rest) := match s.dropWhile Char.isDigit with
    | '.' :: r => (r.takeWhile Char.isDigit, r.dropWhile Char.isDigit)
    | r => ([], r)
  if whole.isEmpty && fraction.isEmpty then none
  else
    let digits := digitsValue (whole ++ fraction)
    match rest with
    | [] => some ⟨digits, -(fraction.length : Int)⟩
    | c :: e =>
      if c = 'e' ∨ c = 'E' then (exponent? e).map fun e => ⟨digits, e - fraction.length⟩
      else none

/--
The number of a format nearest to a decimal. A decimal whose first digit is beyond the four
hundredth place is past the ends of either format.
-/
def Binary.ofDecimal (f : BinaryFormat) (negative : Bool) (x : Decimal) : Binary f :=
  let place := ((Nat.toDigits 10 x.digits).length : Int) + x.exponent
  if x.digits = 0 ∨ place < -400 then .ofParts negative 0
  else if 400 < place then .infinity negative
  else
    let (n, d) := powerRatio 10 x.exponent
    .ofQuotient f negative (x.digits * n) d

/-- Reads a number: a decimal, `inf`, `infinity` or `nan`, the words in any case. -/
def Binary.ofText? (f : BinaryFormat) (s : String) : Option (Binary f) :=
  let (negative, body) := match s.toList with
    | '-' :: r => (true, r)
    | '+' :: r => (false, r)
    | r => (false, r)
  let word := String.ofList (body.map Char.toLower)
  if word = "inf" ∨ word = "infinity" then some (.infinity negative)
  else if word = "nan" then some .nan
  else (decimal? body).map (.ofDecimal f negative)

end EntityMap.Number
