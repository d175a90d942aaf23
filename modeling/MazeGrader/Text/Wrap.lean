import MazeGrader.Text.Measure
import MazeGrader.Text.Split

/-! Breaking a text into lines of limited width at its spaces, and inside words that are too
long for a line. -/
namespace MazeGrader.Text

/-- The width of the longest line. -/
def blockWidth (text : List Char) : Nat := ((splitOn '\n' text).map lineWidth).foldl max 0

/-- The columns that breaking a word allots to a character. A mark that takes none by itself is
allotted one, so a mark can begin a line. -/
def allotted (c : Char) : Nat := max 1 (charWidth c)

/-- Appends a word that is too long for a line character by character; `w` columns are taken. -/
def breakWord (limit : Nat) : Nat → List Char → List Char × Nat
  | w, [] => ([], w)
  | w, c :: rest =>
    let (line, w) := if limit < w + allotted c then (['\n'], 0) else ([], w)
    let (rest, w) := breakWord limit (w + allotted c) rest
    (line ++ c :: rest, w)

/-- Appends a word. A line feed inside it counts as one column, like any control. -/
def placeWord (limit w : Nat) (word : List Char) : List Char × Nat :=
  let k := lineWidth word
  if w + k ≤ limit then (word, w + k)
  else if k ≤ limit then ('\n' :: word, k)
  else breakWord limit w word

/-- Puts the words behind the first, each with its space in front. -/
def wrapWords (limit : Nat) : Nat → List (List Char) → List Char
  | _, [] => []
  | w, word :: rest =>
    let (space, w) := if w < limit then ([' '], w + 1) else (['\n', ' '], 1)
    let (placed, w) := placeWord limit w word
    space ++ placed ++ wrapWords limit w rest

/-- Breaks a text into lines of at most `limit` columns without losing a character. -/
def wrap (limit : Nat) (text : List Char) : List Char :=
  if blockWidth text ≤ limit then text
  else match splitOn ' ' text with
    | [] => []
    | word :: rest =>
      let (placed, w) := placeWord limit 0 word
      placed ++ wrapWords limit w rest

/-- An acute accent behind a letter that ends a line begins the next one. -/
example : wrap 2 ['a', 'b', '\u0301', 'c'] = ['a', 'b', '\n', '\u0301', 'c'] := by decide +kernel

end MazeGrader.Text
