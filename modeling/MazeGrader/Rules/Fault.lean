import MazeGrader.Rules.Rule

/-! What can go wrong with a rule file, a map or a run. -/
namespace MazeGrader

/-- Lines count from zero, blank ones and comments included. -/
inductive Fault where
  | unreadableLine (line : Nat)
  | repeatedRule (state : State) (surroundings : Surroundings)
  | noRule (state : State) (surroundings : Surroundings)
  | blocked (row col : Int)
  | misshapenMap (complaint : String)
  | badStart (row col : Nat)
  deriving DecidableEq, Repr

namespace Fault

def message : Fault → String
  | unreadableLine line => "syntax error on line " ++ toString line
  | repeatedRule state s =>
    "repeat rule for state " ++ toString state ++ " and surroundings " ++ s.text
  | noRule state s =>
    "no rule mapping for current conditions (state " ++ toString state ++
      ", surroundings " ++ s.text ++ ")"
  | blocked row col =>
    "cannot move into wall at row " ++ toString row ++ ", column " ++ toString col
  | misshapenMap complaint => complaint
  | badStart row col =>
    "start position (" ++ toString row ++ ", " ++ toString col ++
      ") is not an open cell of the map"

/-- The submitted rules are at fault, and not the map or the start they were given. -/
def OfRules : Fault → Prop
  | unreadableLine _ | repeatedRule _ _ | noRule _ _ | blocked _ _ => True
  | misshapenMap _ | badStart _ _ => False

instance : DecidablePred OfRules := fun fault => by
  cases fault <;> unfold OfRules <;> infer_instance

end Fault

end MazeGrader
