import MazeGrader.Rules.Surroundings

/-! Rules of a robot: in a state and in surroundings that match, move and go on in the
next state. -/
namespace MazeGrader

abbrev State := UInt32

inductive Direction where
  | north
  | east
  | west
  | south
  | stay
  deriving DecidableEq, Repr

namespace Direction

/-- Rows grow to the south and columns to the east. -/
def offset : Direction → Int × Int
  | north => (-1, 0)
  | east => (0, 1)
  | west => (0, -1)
  | south => (1, 0)
  | stay => (0, 0)

def letter : Direction → Char
  | north => 'N'
  | east => 'E'
  | west => 'W'
  | south => 'S'
  | stay => 'X'

def ofLetter? (c : Char) : Option Direction :=
  match c.toLower with
  | 'n' => some north
  | 'e' => some east
  | 'w' => some west
  | 's' => some south
  | 'x' => some stay
  | _ => none

theorem ofLetter?_letter (d : Direction) : ofLetter? d.letter = some d := by
  cases d <;> rfl

end Direction

structure Transition where
  direction : Direction
  next : State
  deriving DecidableEq, Repr

structure Rule where
  state : State
  pattern : Pattern
  transition : Transition
  deriving DecidableEq, Repr

end MazeGrader
