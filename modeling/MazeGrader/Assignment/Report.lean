import MazeGrader.Assignment.Deduction
import MazeGrader.Json.Decode

/-! Grades of an assignment, file by file. -/
namespace MazeGrader

structure FileGrade where
  path : String
  pointValue : Float
  deductions : List Deduction

structure GradeReport where
  assignmentName : String
  files : List FileGrade

/-- Adds from the left; the sum of no numbers is the negative zero. -/
def sumFloats (xs : List Float) : Float := xs.foldl (· + ·) (-0.0)

/-- The points left, but never less than none. -/
def FileGrade.grade (file : FileGrade) : Float :=
  let left := file.pointValue - sumFloats (file.deductions.map (·.points))
  if 0 < left then left else 0

/-- A row of the overview. -/
structure ReportRow where
  file : String
  criterion : String
  deduction : String
  notes : String
  grade : String
  deriving DecidableEq, Repr

def gradeText (grade outOf : Float) : String :=
  Decimal.fixedText 2 grade ++ "/" ++ Decimal.fixedText 2 outOf

/-- One row for each deduction, or a row that says there is none. -/
def FileGrade.rows (file : FileGrade) : List ReportRow :=
  let grade := gradeText file.grade file.pointValue
  if file.deductions.isEmpty then [⟨file.path, "-", "0", "", grade⟩]
  else file.deductions.map fun d =>
    ⟨file.path, d.description, "-" ++ Decimal.plainText d.points,
      String.intercalate "\n" d.notes, grade⟩

namespace GradeReport

def total (report : GradeReport) : Float := sumFloats (report.files.map FileGrade.grade)

def outOf (report : GradeReport) : Float := sumFloats (report.files.map FileGrade.pointValue)

def rows (report : GradeReport) : List ReportRow := report.files.flatMap FileGrade.rows

end GradeReport

def Deduction.toJson (deduction : Deduction) : Json :=
  .object [("deduction", .ofFloat deduction.points), ("description", .string deduction.description),
    ("notes", .array (deduction.notes.map .string))]

def FileGrade.toJson (file : FileGrade) : Json :=
  .object [("path", .string file.path), ("point_value", .ofFloat file.pointValue),
    ("deductions", .array (file.deductions.map Deduction.toJson))]

def GradeReport.toJson (report : GradeReport) : Json :=
  .object [("assignment_name", .string report.assignmentName),
    ("files", .array (report.files.map FileGrade.toJson))]

open Json (decodeString decodeFloat decodeList)

def Deduction.record : Json.Record Deduction where
  name := "Deduction"
  blank := ⟨0, "", []⟩
  fields := [
    ⟨"deduction", false, fun draft d => return { d with points := ← decodeFloat draft }⟩,
    ⟨"description", false, fun draft d => return { d with description := ← decodeString draft }⟩,
    ⟨"notes", true, fun draft d => return { d with notes := ← decodeList decodeString draft }⟩]

def FileGrade.record : Json.Record FileGrade where
  name := "FileGrade"
  blank := ⟨"", 0, []⟩
  fields := [
    ⟨"path", false, fun draft file => return { file with path := ← decodeString draft }⟩,
    ⟨"point_value", false, fun draft file =>
      return { file with pointValue := ← decodeFloat draft }⟩,
    ⟨"deductions", false, fun draft file =>
      return { file with deductions := ← decodeList Deduction.record.decode draft }⟩]

def GradeReport.record : Json.Record GradeReport where
  name := "GradeReport"
  blank := ⟨"", []⟩
  fields := [
    ⟨"assignment_name", false, fun draft report =>
      return { report with assignmentName := ← decodeString draft }⟩,
    ⟨"files", false, fun draft report =>
      return { report with files := ← decodeList FileGrade.record.decode draft }⟩]

def GradeReport.parse (text : String) : Except Json.Fault GradeReport :=
  (Json.readDocument text).decode GradeReport.record.decode

end MazeGrader
