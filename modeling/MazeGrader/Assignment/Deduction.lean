import MazeGrader.Decimal.Layout

/-! Points taken off for a criterion that failed. -/
namespace MazeGrader

structure Deduction where
  points : Float
  description : String
  notes : List String

/-- The points behind a minus, the description, and the notes if there are any. -/
def Deduction.text (deduction : Deduction) : String :=
  "-" ++ Decimal.plainText deduction.points ++ " " ++ deduction.description ++
    if deduction.notes.isEmpty then ""
    else " (" ++ String.intercalate "; " deduction.notes ++ ")"

end MazeGrader
