/-!
# Random identifiers

The text form of identifiers of 128 bits: groups of 8, 4, 4, 4 and 12 hexadecimal digits. In an
identifier of version 4 all bits are random except the version, which is the first digit of the
third group, and the two leading bits of the fourth group.
-/

namespace EntityMap.Uuid

/-- The last `width` hexadecimal digits of a number. -/
def hexDigits (width n : Nat) : List Char :=
  (List.range width).reverse.map fun i => Nat.digitChar (n / Nat.pow 16 i % 16)

/-- The version 4 identifier with the given 122 random bits. -/
def v4 (random : Nat) : String :=
  let low := random % 0x4000000000000000
  let high := random / 0x4000000000000000
  String.ofList (hexDigits 8 (high / 0x10000000) ++ '-' :: hexDigits 4 (high / 0x1000)
    ++ '-' :: '4' :: hexDigits 3 high ++ '-' :: hexDigits 4 (0x8000 + low / 0x1000000000000)
    ++ '-' :: hexDigits 12 low)

theorem v4_ne_empty (random : Nat) : v4 random ≠ "" := by
  intro empty
  have digits := congrArg String.toList empty
  simp [v4] at digits

/-- A hexadecimal digit in lower case. -/
def isHexDigit (c : Char) : Bool := c.isDigit || ('a' ≤ c && c ≤ 'f')

/-- The text has the form of a version 4 identifier. -/
def isV4 (s : String) : Bool :=
  s.length == 36 && s.toList.zipIdx.all fun (c, i) =>
    if i = 8 ∨ i = 13 ∨ i = 18 ∨ i = 23 then c == '-'
    else if i = 14 then c == '4'
    else if i = 19 then ['8', '9', 'a', 'b'].contains c
    else isHexDigit c

end EntityMap.Uuid
