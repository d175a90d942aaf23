import MazeGrader.Rules.Surroundings

/-! Maps of cells, row by row from the top and column by column from the left. A visited
cell is perceived as clear. -/
namespace MazeGrader

inductive Cell where
  | clear
  | visited
  | wall
  deriving DecidableEq, Repr

def Cell.perceived : Cell → Neighbour
  | .clear | .visited => .clear
  | .wall => .wall

structure Grid where
  rows : List (List Cell)
  deriving DecidableEq, Repr

namespace Grid

def at? (grid : Grid) (row col : Nat) : Option Cell := grid.rows[row]?.bind (·[col]?)

/-- The cell at signed coordinates; there is none to the north or west of the map. -/
def get? (grid : Grid) (row col : Int) : Option Cell :=
  if 0 ≤ row ∧ 0 ≤ col then grid.at? row.toNat col.toNat else none

def height (grid : Grid) : Nat := grid.rows.length

def numCells (grid : Grid) : Nat := grid.rows.flatten.length

/-- The number of clear cells that were not visited. -/
def numClear (grid : Grid) : Nat := grid.rows.flatten.count .clear

/-- A clear cell becomes visited; any other is as before. -/
def visitCell (cell : Cell) : Cell := if cell = .clear then .visited else cell

def mark (grid : Grid) (row col : Nat) : Grid :=
  ⟨grid.rows.modify row fun cells => cells.modify col visitCell⟩

/-- Visits a cell, and says whether that was its first visit. -/
def visit (grid : Grid) (row col : Nat) : Grid × Bool :=
  if grid.at? row col = some .clear then (grid.mark row col, true) else (grid, false)

/-- What an agent at a cell perceives; beyond the map there are walls. -/
def perceived (grid : Grid) (row col : Int) : Neighbour :=
  ((grid.get? row col).map Cell.perceived).getD .wall

def surroundings (grid : Grid) (row col : Int) : Surroundings :=
  ⟨grid.perceived (row - 1) col, grid.perceived row (col + 1),
    grid.perceived row (col - 1), grid.perceived (row + 1) col⟩

@[simp] theorem get?_ofNat (grid : Grid) (row col : Nat) :
    grid.get? (row : Int) (col : Int) = grid.at? row col := by
  simp [get?]

theorem at?_mark (grid : Grid) (row col r c : Nat) :
    (grid.mark row col).at? r c =
      if r = row ∧ c = col then (grid.at? r c).map visitCell else grid.at? r c := by
  by_cases sameRow : row = r
  · subst sameRow
    cases h : grid.rows[row]? with
    | none => simp [mark, at?, h]
    | some cells =>
      by_cases sameCol : col = c
      · subst sameCol
        simp [mark, at?, h]
      · simp [mark, at?, h, sameCol, Ne.symm sameCol]
  · simp [mark, at?, sameRow, Ne.symm sameRow]

theorem height_mark (grid : Grid) (row col : Nat) : (grid.mark row col).height = grid.height := by
  simp [mark, height]

end Grid

end MazeGrader
