import MazeGrader.Assignment.Registry

/-! Grading criteria of an assignment, as they are written down and as they are loaded. -/
namespace MazeGrader

structure FileDescriptor where
  path : String
  kind : String
  pointValue : Float
  tests : List Json

structure CriteriaDescriptor where
  assignmentName : String
  files : List FileDescriptor

def FileDescriptor.toJson (file : FileDescriptor) : Json :=
  .object [("path", .string file.path), ("type", .string file.kind),
    ("point_value", .ofFloat file.pointValue), ("tests", .array file.tests)]

def CriteriaDescriptor.toJson (criteria : CriteriaDescriptor) : Json :=
  .object [("assignment_name", .string criteria.assignmentName),
    ("files", .array (criteria.files.map FileDescriptor.toJson))]

open Json (decodeString decodeFloat decodeList)

/-- How deep a test nests that stands four levels deep in criteria. -/
def testNesting : Nat := Json.nesting - 4

def FileDescriptor.record : Json.Record FileDescriptor where
  name := "FileDescriptor"
  blank := ⟨"", "", 0, []⟩
  fields := [
    ⟨"path", false, fun draft file => return { file with path := ← decodeString draft }⟩,
    ⟨"type", false, fun draft file => return { file with kind := ← decodeString draft }⟩,
    ⟨"point_value", false, fun draft file =>
      return { file with pointValue := ← decodeFloat draft }⟩,
    ⟨"tests", true, fun draft file =>
      return { file with tests := ← decodeList (Json.Draft.toJson testNesting) draft }⟩]

def CriteriaDescriptor.record : Json.Record CriteriaDescriptor where
  name := "CriteriaDescriptor"
  blank := ⟨"", []⟩
  fields := [
    ⟨"assignment_name", true, fun draft criteria =>
      return { criteria with assignmentName := ← decodeString draft }⟩,
    ⟨"files", false, fun draft criteria =>
      return { criteria with files := ← decodeList FileDescriptor.record.decode draft }⟩]

def CriteriaDescriptor.parse (text : String) : Except Json.Fault CriteriaDescriptor :=
  (Json.readDocument text).decode CriteriaDescriptor.record.decode

/-- A rule file of the criteria with its tests. -/
structure GradedFile where
  path : String
  pointValue : Float
  tests : List MapTest

structure Criteria where
  assignmentName : String
  files : List GradedFile

def buildTests (registry : Registry) (setting : TestSetting) :
    List Json → Except Failure (List MapTest)
  | [] => .ok []
  | json :: rest => do
    let test ← registry.build ruleFileKind json setting
    return test :: (← buildTests registry setting rest)

namespace GradedFile

def ofDescriptor (registry : Registry) (setting : TestSetting) (file : FileDescriptor) :
    Except Failure GradedFile :=
  if file.kind = ruleFileKind then do
    let tests ← inContext ("Could not load tests for " ++ file.path)
      (buildTests registry setting file.tests)
    return ⟨file.path, file.pointValue, tests⟩
  else .error (.ofText ("Unknown file type `" ++ file.kind ++ "` for " ++ file.path))

def descriptor (file : GradedFile) : FileDescriptor :=
  ⟨file.path, ruleFileKind, file.pointValue, file.tests.map MapTest.toJson⟩

def ofDescriptors (registry : Registry) (setting : TestSetting) :
    List FileDescriptor → Except Failure (List GradedFile)
  | [] => .ok []
  | file :: rest => do
    let file ← ofDescriptor registry setting file
    return file :: (← ofDescriptors registry setting rest)

end GradedFile

namespace Criteria

def ofDescriptor (registry : Registry) (setting : TestSetting) (criteria : CriteriaDescriptor) :
    Except Failure Criteria := do
  return ⟨criteria.assignmentName, ← GradedFile.ofDescriptors registry setting criteria.files⟩

def descriptor (criteria : Criteria) : CriteriaDescriptor :=
  ⟨criteria.assignmentName, criteria.files.map GradedFile.descriptor⟩

def ofText (registry : Registry) (setting : TestSetting) (text : String) :
    Except Failure Criteria := do
  let descriptor ← inContext "Criteria file is not valid criteria JSON"
    (giveUp .json (CriteriaDescriptor.parse text))
  ofDescriptor registry setting descriptor

def load (registry : Registry) (setting : TestSetting) (path : String) :
    Except Failure Criteria := do
  let text ← inContext ("Could not read criteria file " ++ path)
    (giveUp .file (setting.files.read path))
  inContext ("Could not load criteria file " ++ path) (ofText registry setting text)

end Criteria

end MazeGrader
