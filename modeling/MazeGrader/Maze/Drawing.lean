import MazeGrader.Maze.Grid
import MazeGrader.Rules.Fault
import MazeGrader.Text.Lines

/-! Drawings of maps. In a map file a space is a clear cell and any other character a wall. -/
namespace MazeGrader

/-- The number of rows that a map has to have, and of columns in every row. -/
structure MapShape where
  rows : Nat
  cols : Nat
  deriving DecidableEq, Repr

def MapShape.standard : MapShape := ⟨25, 25⟩

namespace Grid

def cellOf (c : Char) : Cell := if c = ' ' then .clear else .wall

def ofLines (lines : List (List Char)) : Grid := ⟨lines.map (List.map cellOf)⟩

/-- The width of the row of a map with one row is not looked at. -/
def checkShape (shape : MapShape) (grid : Grid) : Except Fault Grid :=
  if grid.height ≠ shape.rows then
    .error (.misshapenMap ("map has " ++ toString grid.height ++ " rows, but should have " ++
      toString shape.rows))
  else if 1 < grid.height ∧ ∃ cells ∈ grid.rows, cells.length ≠ shape.cols then
    .error (.misshapenMap ("map has at least one row not " ++ toString shape.cols ++
      " columns wide"))
  else .ok grid

theorem checkShape_eq_ok_iff {shape : MapShape} {grid shaped : Grid} :
    checkShape shape grid = .ok shaped ↔ grid = shaped ∧ grid.height = shape.rows ∧
      (1 < grid.height → ∀ cells ∈ grid.rows, cells.length = shape.cols) := by
  unfold checkShape
  split
  · next height => simp [height]
  · next height =>
    split
    · next widths =>
      obtain ⟨several, cells, member, width⟩ := widths
      simp only [reduceCtorEq, false_iff]
      exact fun shaped => width (shaped.2.2 several cells member)
    · next widths =>
      have even : 1 < grid.height → ∀ cells ∈ grid.rows, cells.length = shape.cols :=
        fun several cells member => Decidable.byContradiction fun width =>
          widths ⟨several, cells, member, width⟩
      simp only [Except.ok.injEq]
      exact ⟨fun same => ⟨same, Decidable.not_not.1 height, even⟩, fun shaped => shaped.1⟩

def parse (shape : MapShape) (source : String) : Except Fault Grid :=
  checkShape shape (ofLines (Text.lines source.toList))

/-- A wall is `#`, a visited cell `~`, and the agent `P`, or `!` on a wall. -/
def symbol (occupied : Bool) : Cell → Char
  | .wall => if occupied then '!' else '#'
  | .clear => if occupied then 'P' else ' '
  | .visited => if occupied then 'P' else '~'

/-- Draws each row with a line feed behind it. -/
def draw (agent : Option (Nat × Nat)) (grid : Grid) : List Char :=
  (grid.rows.mapIdx fun r cells =>
    (cells.mapIdx fun c cell => symbol (agent == some (r, c)) cell) ++ ['\n']).flatten

def drawing (agent : Option (Nat × Nat)) (grid : Grid) : String :=
  String.ofList (grid.draw agent)

end Grid

end MazeGrader
