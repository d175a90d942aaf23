import MazeGrader.Coverage.Grader
import MazeGrader.Coverage.TableJson
import MazeGrader.Failure
import MazeGrader.Files.Path
import MazeGrader.Maze.Drawing
import MazeGrader.Maze.Run
import MazeGrader.Maze.StartPosition
import MazeGrader.Rules.Compile
import MazeGrader.Traced

/-! Tests that run submitted rules over a map and deduct by coverage. -/
namespace MazeGrader

/-- What tests need to be loaded and run: the files, the directory of the maps, and a cap on
steps in place of the default one. -/
structure TestSetting where
  files : FileSystem
  mapDirectory : String
  stepCap : Option UInt64

/-- A map test as criteria describe it. The start is free text, row first. -/
structure MapTestDescriptor where
  description : String
  deductions : CoverageTable
  errorDeduction : Float
  map : String
  start : String

/-- Reads a map of the standard shape. -/
def Grid.load (files : FileSystem) (path : String) : Except Failure Grid := do
  let source ← inContext ("Could not read Picobot map " ++ path)
    (giveUp .file (files.read path))
  inContext ("Invalid Picobot map " ++ path) (giveUp .rules (Grid.parse .standard source))

def StartPosition.read (text : String) : Except Failure (Nat × Nat) :=
  match StartPosition.ofText? text with
  | some start => .ok start
  | none => .error ((Failure.of .startPosition).within
      ("Could not parse start position `" ++ text ++ "`"))

/-- A test that was loaded. Its agent starts on a clear cell. -/
structure MapTest where
  grader : CoverageGrader
  map : String
  grid : Grid
  start : Nat × Nat
  stepCap : Option UInt64
  startClear : grid.at? start.1 start.2 = some .clear

namespace MapTest

/-- The word for these tests in criteria. -/
def kind : String := "map"

def load (descriptor : MapTestDescriptor) (setting : TestSetting) : Except Failure MapTest := do
  if descriptor.deductions.isEmpty then
    throw (.ofText ("Picobot map test `" ++ descriptor.description ++
      "` has no coverage deductions"))
  let path := Path.join setting.mapDirectory descriptor.map
  if !setting.files.isFile path then
    throw (.ofText ("Picobot map file '" ++ descriptor.map ++ "' cannot be found"))
  let grid ← Grid.load setting.files path
  let start ← StartPosition.read descriptor.start
  if startClear : grid.at? start.1 start.2 = some .clear then
    return { grader := ⟨descriptor.description, descriptor.deductions, descriptor.errorDeduction⟩
             map := descriptor.map, grid, start, stepCap := setting.stepCap, startClear }
  else throw (.of (.rules (.badStart start.1 start.2)))

/-- Compiles rules and runs them on the map. -/
def trial (test : MapTest) (source : String) : Except Fault Outcome := do
  simulate (← RuleTable.compileSource source) test.grid test.start test.stepCap

def grade (test : MapTest) (trial : Except Fault Outcome) : Except Fault (Option Deduction) :=
  test.grader.gradeOutcome (trial.map Outcome.coverage)

def evaluate (test : MapTest) (source : String) : Except Fault (Option Deduction) :=
  test.grade (test.trial source)

/-- A record of a run that was cut short by its cap. -/
def capRecord (steps : Nat) : Record :=
  ⟨.warn, .simulation, "picobot simulation reached its step cap", [("steps", toString steps)]⟩

def trialRecords : Except Fault Outcome → List Record
  | .ok outcome => if outcome.hitCap then [capRecord outcome.steps] else []
  | .error _ => []

/-- Reads a submission and evaluates it. -/
def run (test : MapTest) (files : FileSystem) (submission : String) :
    Traced Failure (Option Deduction) := do
  let source ← .silent <| inContext ("Could not read Picobot rules " ++ submission)
    (giveUp .file (files.read submission))
  let trial := test.trial source
  ⟨trialRecords trial, giveUp .rules (test.grade trial)⟩

def descriptor (test : MapTest) : MapTestDescriptor where
  description := test.grader.description
  deductions := test.grader.table
  errorDeduction := test.grader.errorDeduction
  map := test.map
  start := StartPosition.text test.start

end MapTest

namespace MapTestDescriptor

def toJson (descriptor : MapTestDescriptor) : Json :=
  .ofMembers [("description", .string descriptor.description),
    ("deductions", descriptor.deductions.toJson),
    ("error_deduction", .ofFloat descriptor.errorDeduction), ("map", .string descriptor.map),
    ("start", .string descriptor.start)]

open Json (decodeString decodeFloat)

def record : Json.Record MapTestDescriptor where
  name := "MapTestDescriptor"
  blank := ⟨"", .empty, 0, "", ""⟩
  fields := [
    ⟨"description", false, fun draft d => return { d with description := ← decodeString draft }⟩,
    ⟨"deductions", false, fun draft d =>
      return { d with deductions := ← CoverageTable.decode draft }⟩,
    ⟨"error_deduction", false, fun draft d =>
      return { d with errorDeduction := ← decodeFloat draft }⟩,
    ⟨"map", false, fun draft d => return { d with map := ← decodeString draft }⟩,
    ⟨"start", false, fun draft d => return { d with start := ← decodeString draft }⟩]

def parse (text : String) : Except Json.Fault MapTestDescriptor :=
  (Json.readDocument text).decode record.decode

end MapTestDescriptor

namespace MapTest

/-- The test as a member of criteria, where its kind stands beside its fields. -/
def toJson (test : MapTest) : Json := test.descriptor.toJson.insert "type" (.string kind)

/-- Loads a test from a member of criteria. -/
def ofJson (json : Json) (setting : TestSetting) : Except Failure MapTest := do
  let descriptor ← inContext "Malformed `map` test descriptor"
    (giveUp .json (MapTestDescriptor.record.decode (.ofJson json)))
  load descriptor setting

end MapTest

end MazeGrader
