import EntityMap.Text.Blank
import EntityMap.Text.Cluster
import EntityMap.Text.Property.Cased
import EntityMap.Text.Property.Uppercase

/-!
# Snake case

`snakeCase` breaks a name into words and writes them in lower case with underscores between.
A name without any capital letter is taken to be in its final form and stays as it is.
-/

namespace EntityMap.Text

/-- A cluster that separates words and belongs to none: underscore, hyphen or space. -/
def isWordSeparator (g : Cluster) : Bool := g == ['_'] || g == ['-'] || g == [' ']

/--
A word ends after `g` when the text goes on with `rest`: where a small letter meets a capital,
where letters and digits meet, and before the last capital of a run that a small letter follows.
-/
def wordEndsAfter (g : Cluster) (rest : List Cluster) : Bool :=
  match rest with
  | [] => false
  | h :: tail =>
    (g.isLower && (h.isUpper || h.isDigit))
      || (g.isUpper && h.isDigit)
      || (g.isDigit && (h.isUpper || h.isLower))
      || (g.isUpper && h.isUpper && (tail.head?.any Cluster.isLower))

/-- The words of a text, empty ones between two separators included. -/
def words : List Cluster → List (List Cluster)
  | [] => [[]]
  | g :: rest =>
    match words rest with
    | [] => [[g]]
    | w :: ws =>
      if isWordSeparator g then [] :: w :: ws
      else if wordEndsAfter g rest then [g] :: w :: ws
      else (g :: w) :: ws

/-- Looking past the characters that case rules ignore, the next one has case. -/
def meetsCased (s : List Char) : Bool := (s.dropWhile isCaseIgnorable).head?.any isCased

/--
The lower-case form of a text, `before` being what precedes it, nearest first. Capital sigma has
a form of its own at the end of a word.
-/
def lowerAfter (before : List Char) : List Char → List Char
  | [] => []
  | c :: rest =>
    let form :=
      if c = 'Σ' then [if meetsCased before && !meetsCased rest then 'ς' else 'σ']
      else lowerForm c
    form ++ lowerAfter (c :: before) rest

/-- The lower-case form of a text. -/
def lower (s : List Char) : List Char := lowerAfter [] s

/-- The name in snake case; a name without a capital letter is unchanged. -/
def snakeCase (name : String) : String :=
  if name.toList.any isUppercase then
    join "_" ((words (clusters name.toList)).map fun w => String.ofList (lower w.flatten))
  else name

end EntityMap.Text
