import EntityMap.Text.Property.Extending
import EntityMap.Text.Property.Lowering
import EntityMap.Text.Property.Pictographic
import EntityMap.Text.Property.Raising

/-!
# User-perceived characters

A letter and the marks that follow it are one character to a reader. The case of such a cluster
is that of the whole: a capital letter with an accent is a capital.
-/

namespace EntityMap.Text

/-- The code points that end a cluster and start a new one. -/
def controlRanges : List (Nat × Nat) :=
  [(0x0000, 0x001f), (0x007f, 0x009f), (0x00ad, 0x00ad), (0x061c, 0x061c), (0x180e, 0x180e),
   (0x200b, 0x200b), (0x200e, 0x200f), (0x2028, 0x202e), (0x2060, 0x206f), (0xfeff, 0xfeff),
   (0xfff0, 0xfffb), (0x13430, 0x1343f), (0x1bca0, 0x1bca3), (0x1d173, 0x1d17a),
   (0xe0000, 0xe001f), (0xe0080, 0xe00ff), (0xe01f0, 0xe0fff)]

/-- The signs that belong to the character after them. -/
def prependedRanges : List (Nat × Nat) :=
  [(0x0600, 0x0605), (0x06dd, 0x06dd), (0x070f, 0x070f), (0x0890, 0x0891), (0x08e2, 0x08e2),
   (0x0d4e, 0x0d4e), (0x110bd, 0x110bd), (0x110cd, 0x110cd), (0x111c2, 0x111c3),
   (0x113d1, 0x113d1), (0x1193f, 0x1193f), (0x11941, 0x11941), (0x11a84, 0x11a89),
   (0x11d46, 0x11d46), (0x11f02, 0x11f02)]

/-- The text ends in a picture, perhaps with marks; it is given from its end. -/
def endsInPicture (before : List Char) : Bool := (before.dropWhile isMark).head?.any isPictographic

/--
Two neighbours belong to one cluster, `before` being what precedes them, nearest first. The rules
for syllable blocks, conjuncts and flags are left out: they concern characters without case, which
no word break looks at.
-/
def joins (before : List Char) (c d : Char) : Bool :=
  if inRanges controlRanges c || inRanges controlRanges d then c == '\r' && d == '\n'
  else isAttached d || inRanges prependedRanges c
    || (c == '\u200d' && isPictographic d && endsInPicture before)

/-- A user-perceived character: one or more code points. -/
abbrev Cluster := List Char

/-- The clusters of a text that follows the characters `before`. -/
def clustersAfter (before : List Char) : List Char → List Cluster
  | [] => []
  | c :: rest =>
    match clustersAfter (c :: before) rest with
    | (d :: g) :: gs => if joins before c d then (c :: d :: g) :: gs else [c] :: (d :: g) :: gs
    | gs => [c] :: gs

/-- The clusters of a text, in order. -/
def clusters (s : List Char) : List Cluster := clustersAfter [] s

/-- Upper-casing leaves the cluster as it is and lower-casing does not. -/
def Cluster.isUpper (g : Cluster) : Bool :=
  g.all (!changesWhenRaised ·) && g.any changesWhenLowered

/-- Lower-casing leaves the cluster as it is and upper-casing does not. -/
def Cluster.isLower (g : Cluster) : Bool :=
  g.all (!changesWhenLowered ·) && g.any changesWhenRaised

/-- The cluster is one of the ten digits. -/
def Cluster.isDigit (g : Cluster) : Bool := g.all Char.isDigit

end EntityMap.Text
