/-! Sets of characters as ranges of code points, both ends included. -/
namespace MazeGrader.Text

def inRanges (ranges : List (Nat × Nat)) (code : Nat) : Bool :=
  ranges.any fun range => range.1 ≤ code && code ≤ range.2

end MazeGrader.Text
