import EntityMap.Number.Text
import EntityMap.Text.Blank

/-!
# TOML: dates and times

A date, a time of day, or a date with a time and perhaps its distance from universal time. The
written form has fractions of a second down to nanoseconds, without zeros at the end, and counts a
distance of nothing as positive.
-/

namespace EntityMap.Toml

structure Date where
  year : Nat
  month : Nat
  day : Nat
  deriving DecidableEq, Repr

structure Time where
  hour : Nat
  minute : Nat
  second : Nat
  nanosecond : Nat
  deriving DecidableEq, Repr

/-- A distance from universal time. -/
inductive Offset where
  | universal
  | minutes (distance : Int)
  deriving DecidableEq, Repr

inductive DateTime where
  | date (d : Date)
  | time (t : Time)
  | both (d : Date) (t : Time) (offset : Option Offset)
  deriving DecidableEq, Repr

/-! ## The written form -/

/-- A number with at least so many digits. -/
def padded (width n : Nat) : List Char := (Nat.toDigits 10 n).leftpad width '0'

def Date.text (d : Date) : List Char :=
  padded 4 d.year ++ '-' :: padded 2 d.month ++ '-' :: padded 2 d.day

def Time.text (t : Time) : List Char :=
  padded 2 t.hour ++ ':' :: padded 2 t.minute ++ ':' :: padded 2 t.second
    ++ if t.nanosecond = 0 then [] else '.' :: Text.dropEnd (· == '0') (padded 9 t.nanosecond)

def Offset.text : Offset → List Char
  | universal => ['Z']
  | minutes m =>
    (if m < 0 then '-' else '+') :: padded 2 (m.natAbs / 60) ++ ':' :: padded 2 (m.natAbs % 60)

def DateTime.text : DateTime → String
  | date d => .ofList d.text
  | time t => .ofList t.text
  | both d t offset => .ofList (d.text ++ 'T' :: t.text ++ (offset.map Offset.text).getD [])

/-! ## Reading -/

/-- The number of days of a month. -/
def daysOfMonth (year month : Nat) : Nat :=
  if month = 2 then
    if year % 4 = 0 ∧ (year % 100 ≠ 0 ∨ year % 400 = 0) then 29 else 28
  else if [4, 6, 9, 11].contains month then 30 else 31

/-- A number of exactly so many digits, and what follows it. -/
def digits? (width : Nat) (s : List Char) : Option (Nat × List Char) :=
  let ds := s.take width
  if ds.length = width ∧ ds.all Char.isDigit then some (Number.digitsValue ds, s.drop width)
  else none

/-- What follows the given sign. -/
def after? (sign : Char) : List Char → Option (List Char)
  | c :: rest => if c = sign then some rest else none
  | [] => none

/-- Year, month and day with hyphens between, and what follows them. -/
def date? (s : List Char) : Option (Date × List Char) := do
  let (year, s) ← digits? 4 s
  let (month, s) ← digits? 2 (← after? '-' s)
  let (day, s) ← digits? 2 (← after? '-' s)
  if 1 ≤ month ∧ month ≤ 12 ∧ 1 ≤ day ∧ day ≤ daysOfMonth year month then
    some (⟨year, month, day⟩, s)
  else none

/-- The fraction of a second, in nanoseconds; digits after the ninth do not count. -/
def fraction? : List Char → Option (Nat × List Char)
  | '.' :: s =>
    let ds := s.takeWhile Char.isDigit
    if ds.isEmpty then none
    else some (Number.digitsValue ((ds.take 9).rightpad 9 '0'), s.dropWhile Char.isDigit)
  | s => some (0, s)

/--
Hour, minute and second with colons between, and what follows them. A lenient reader takes the
twenty-fourth hour.
-/
def time? (lenient : Bool) (s : List Char) : Option (Time × List Char) := do
  let (hour, s) ← digits? 2 s
  let (minute, s) ← digits? 2 (← after? ':' s)
  let (second, s) ← digits? 2 (← after? ':' s)
  let (nanosecond, s) ← fraction? s
  if hour ≤ (if lenient then 24 else 23) ∧ minute ≤ 59 ∧ second ≤ 60 then
    some (⟨hour, minute, second, nanosecond⟩, s)
  else none

/--
The distance from universal time: nothing, `Z`, or a sign with hours and minutes, and nothing
after it. A lenient reader takes any distance up to a day.
-/
def offset? (lenient : Bool) : List Char → Option (Option Offset)
  | [] => some none
  | ['Z'] => some (some .universal)
  | ['z'] => some (some .universal)
  | sign :: s => do
    let (hour, s) ← digits? 2 s
    let (minute, s) ← digits? 2 (← after? ':' s)
    let distance := 60 * hour + minute
    if !s.isEmpty then none
    else if !(if lenient then distance ≤ 1440 else hour ≤ 23 ∧ minute ≤ 59) then none
    else if sign = '+' then some (some (.minutes distance))
    else if sign = '-' then some (some (.minutes (-distance)))
    else none

/-- A date, a time, or a date with a time, from the whole of a text. -/
def DateTime.ofChars? (lenient : Bool) (s : List Char) : Option DateTime :=
  match date? s with
  | none => (time? lenient s).bind fun (t, rest) => if rest.isEmpty then some (.time t) else none
  | some (d, []) => some (.date d)
  | some (d, c :: rest) =>
    if c = 'T' ∨ c = 't' ∨ c = ' ' then do
      let (t, rest) ← time? lenient rest
      return .both d t (← offset? lenient rest)
    else none

end EntityMap.Toml
