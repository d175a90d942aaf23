import MazeGrader.Assignment.Report
import MazeGrader.Text.Wrap

/-! The overview of a report: a framed table of five columns, between a title and a footer
that span them. Cells are one column away from their frame. -/
namespace MazeGrader.Overview

/-- Cells other than the title have lines of at most this width. -/
def wrapLimit : Nat := 32

/-- A cell by its lines. -/
abbrev Block := List (List Char)

def block (text : String) : Block := Text.splitOn '\n' (Text.wrap wrapLimit text.toList)

def Block.width (b : Block) : Nat := (b.map Text.lineWidth).foldl max 0

def title (report : GradeReport) : Block :=
  Text.splitOn '\n' <| String.toList <|
    if report.assignmentName.isEmpty then "Grading Overview"
    else "Grading Overview: " ++ report.assignmentName

def footer (report : GradeReport) : Block :=
  block ("Total: " ++ gradeText report.total report.outOf)

def header : List Block := ["File", "Criterion", "Deduction", "Notes", "Grade"].map block

def cells (row : ReportRow) : List Block :=
  [row.file, row.criterion, row.deduction, row.notes, row.grade].map block

/-- The width of each column, with the space on its two sides. -/
def columnWidths (rows : List (List Block)) : List Nat :=
  (List.range 5).map fun i =>
    (rows.map fun row => (row[i]?.map Block.width).getD 0).foldl max 0 + 2

/-- The width inside the frame of a cell that spans all columns. -/
def spanWidth (widths : List Nat) : Nat := widths.foldr (· + ·) 0 + (widths.length - 1)

/-- Shares out among the columns what a spanning cell lacks; the first takes the rest. -/
def widen (spanning : Block) (widths : List Nat) : List Nat :=
  let lack := spanning.width + 2 - spanWidth widths
  let share := lack / widths.length
  match widths.map (· + share) with
  | [] => []
  | first :: others => (first + lack % widths.length) :: others

def spaces (n : Nat) : List Char := List.replicate n ' '

def padded (left width : Nat) (line : List Char) : List Char :=
  spaces left ++ line ++ spaces (width - left - Text.lineWidth line)

/-- A horizontal line of the frame. -/
def rule (left cross right : Char) (widths : List Nat) : List Char :=
  left :: List.intercalate [cross] (widths.map fun width => List.replicate width '─') ++ [right]

/-- Cells side by side, as high as the highest of them. -/
def rowLines (widths : List Nat) (row : List Block) : Block :=
  let height := (row.map List.length).foldl max 0
  (List.range height).map fun i =>
    '│' :: List.intercalate ['│']
      ((widths.zip row).map fun (width, cell) => padded 1 width (cell[i]?.getD [])) ++ ['│']

/-- A spanning cell, centered as a block. -/
def spanLines (widths : List Nat) (cell : Block) : Block :=
  let width := spanWidth widths
  let left := 1 + (width - 2 - cell.width) / 2
  cell.map fun line => '│' :: padded left width line ++ ['│']

def lines (report : GradeReport) : Block :=
  let rows := header :: report.rows.map cells
  let widths := widen (footer report) (widen (title report) (columnWidths rows))
  let inner := rule '├' '┼' '┤' widths
  let groups := [spanLines widths (title report)] ++ rows.map (rowLines widths) ++
    [spanLines widths (footer report)]
  rule '┌' '┬' '┐' widths :: List.intercalate [inner] groups ++ [rule '└' '┴' '┘' widths]

def text (report : GradeReport) : String :=
  String.ofList (List.intercalate ['\n'] (lines report))

end MazeGrader.Overview
