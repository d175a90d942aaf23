import MazeGrader.Assignment.Deduction
import MazeGrader.Coverage.Table
import MazeGrader.Rules.Fault

/-! Turning what a run came to into a deduction. -/
namespace MazeGrader

structure CoverageGrader where
  description : String
  table : CoverageTable
  errorDeduction : Float

namespace CoverageGrader

def grade (grader : CoverageGrader) (coverage : Rat) : Option Deduction :=
  (grader.table.deductionFor coverage).map fun points =>
    ⟨points, grader.description, ["Picobot coverage: " ++ Ratio.text coverage]⟩

def gradeFault (grader : CoverageGrader) (fault : Fault) : Deduction :=
  ⟨grader.errorDeduction, grader.description, [fault.message]⟩

/-- A fault that is not one of the rules is handed back. -/
def gradeOutcome (grader : CoverageGrader) :
    Except Fault Rat → Except Fault (Option Deduction)
  | .ok coverage => .ok (grader.grade coverage)
  | .error fault =>
    if fault.OfRules then .ok (some (grader.gradeFault fault)) else .error fault

end CoverageGrader

end MazeGrader
