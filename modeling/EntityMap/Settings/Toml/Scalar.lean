import EntityMap.Number.Text
import EntityMap.Settings.Setting
import EntityMap.Settings.Toml.DateTime
import EntityMap.Text.Blank
import EntityMap.Value

/-!
# TOML: numbers, truth values and dates

These values are written without quotes, as one run of letters, digits and a few signs. Which kind
of value it is follows from the whole run.
-/

namespace EntityMap.Toml

/-- The digits of a run in which an underscore may stand between two of them. -/
def plainDigits? (isDigit : Char → Bool) (s : List Char) : Option (List Char) :=
  let groups := Text.pieces '_' s
  if groups.all fun g => !g.isEmpty && g.all isDigit then some groups.flatten else none

/-- A sign and what follows it; no sign is a plus. -/
def cutSign : List Char → Bool × List Char
  | '-' :: r => (true, r)
  | '+' :: r => (false, r)
  | r => (false, r)

/-- A decimal integer without sign and without needless zeros in front. -/
def wholeDigits? (s : List Char) : Option (List Char) :=
  match plainDigits? Char.isDigit s with
  | some ['0'] => some ['0']
  | some ('0' :: _) => none
  | r => r

/-- The value of a digit. -/
def digitValue (c : Char) : Nat :=
  if c.isDigit then c.toNat - '0'.toNat else c.toLower.toNat - 'a'.toNat + 10

/-- An integer written in a base. -/
def inBase? (base : Nat) (isDigit : Char → Bool) (s : List Char) : Option Int :=
  (plainDigits? isDigit s).map fun ds =>
    ((ds.foldl (fun n c => base * n + digitValue c) 0 : Nat) : Int)

/-- A hexadecimal digit. -/
def isHexDigit (c : Char) : Bool :=
  c.isDigit || ('a' ≤ c && c ≤ 'f') || ('A' ≤ c && c ≤ 'F')

/-- An integer of 64 bits: decimal with a sign, or hexadecimal, octal or binary without one. -/
def integer? (s : List Char) : Option Int :=
  let n? := match s with
    | '0' :: 'x' :: r => inBase? 16 isHexDigit r
    | '0' :: 'o' :: r => inBase? 8 (fun c => '0' ≤ c && c ≤ '7') r
    | '0' :: 'b' :: r => inBase? 2 (fun c => c == '0' || c == '1') r
    | s =>
      let (negative, r) := cutSign s
      (wholeDigits? r).map fun ds =>
        if negative then -(Number.digitsValue ds : Int) else Number.digitsValue ds
  n?.filter fun n => (Bounded.ofInt? .int64 n).isSome

/-- The power of ten behind the digits of a number: none, or a sign and digits. -/
def exponentPart? : List Char → Option (List Char)
  | [] => some []
  | e :: r =>
    if e ≠ 'e' ∧ e ≠ 'E' then none
    else
      let (negative, r) := cutSign r
      (plainDigits? Char.isDigit r).map fun ds => 'e' :: (if negative then '-' :: ds else ds)

/--
A number with a fraction or a power of ten, or one of the words for infinity and no number. Digits
never write the positive infinity: such a number is too great.
-/
def number? (s : List Char) : Option (Number.Binary .double) :=
  let (negative, r) := cutSign s
  if r = "inf".toList then some (.infinity negative)
  else if r = "nan".toList then some .nan
  else do
    let isPartOfDigits := fun c : Char => c.isDigit || c == '_'
    let whole ← wholeDigits? (r.takeWhile isPartOfDigits)
    let (fraction, rest) ← match r.dropWhile isPartOfDigits with
      | '.' :: f => (plainDigits? Char.isDigit (f.takeWhile isPartOfDigits)).map fun ds =>
          ('.' :: ds, f.dropWhile isPartOfDigits)
      | rest => some ([], rest)
    let power ← exponentPart? rest
    if fraction.isEmpty && power.isEmpty then none
    else
      (Number.Binary.ofText? .double
        (.ofList ((if negative then ['-'] else []) ++ whole ++ fraction ++ power))).filter
          (· ≠ .infinity false)

/-- The value of a run without quotes. -/
def scalar? (s : List Char) : Option Setting :=
  if s = "true".toList then some (.boolean true)
  else if s = "false".toList then some (.boolean false)
  else
    match integer? s with
    | some n => some (.integer n)
    | none =>
      match number? s with
      | some x => some (.number x)
      | none => (DateTime.ofChars? false s).map (.date ·.text)

end EntityMap.Toml
