import MazeGrader.Assignment.Report
import MazeGrader.Assignment.Submission

/-! Grading submissions by criteria. -/
namespace MazeGrader

/-- Runs tests on a submission and keeps the deductions. -/
def runTests (files : FileSystem) (path submission : String) :
    List MapTest → Traced Failure (List Deduction)
  | [] => pure []
  | test :: rest => do
    match ← test.run files submission with
    | none => runTests files path submission rest
    | some deduction =>
      .note ⟨.info, .testing, deduction.text, [("file", path)]⟩
      return deduction :: (← runTests files path submission rest)

/-- A file that was not submitted loses all of its points. -/
def GradedFile.missing (file : GradedFile) : Deduction :=
  ⟨file.pointValue, file.path, ["file not submitted"]⟩

def GradedFile.grade (files : FileSystem) (submissions : List String) (file : GradedFile) :
    Traced Failure FileGrade := do
  match findSubmission file.path submissions with
  | some submission =>
    .note ⟨.info, .grading, "Grading " ++ submission, []⟩
    return ⟨file.path, file.pointValue, ← runTests files file.path submission file.tests⟩
  | none =>
    .note ⟨.warn, .grading, "No submission found for " ++ file.path, []⟩
    return ⟨file.path, file.pointValue, [file.missing]⟩

def gradeFiles (files : FileSystem) (submissions : List String) :
    List GradedFile → Traced Failure (List FileGrade)
  | [] => pure []
  | file :: rest => do
    let grade ← file.grade files submissions
    return grade :: (← gradeFiles files submissions rest)

/-- Grades the files of the criteria in order. -/
def gradeSubmissions (files : FileSystem) (criteria : Criteria) (submissions : List String) :
    Traced Failure GradeReport := do
  return ⟨criteria.assignmentName, ← gradeFiles files submissions criteria.files⟩

end MazeGrader
