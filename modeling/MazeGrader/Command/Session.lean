import MazeGrader.Assignment.Grading
import MazeGrader.Assignment.Overview
import MazeGrader.Command.Invocation
import MazeGrader.Command.Settings

/-! What a session writes: records and results to the output, the overview and what went
wrong to the error output. -/
namespace MazeGrader

/-- Characters by which a message could steer a terminal are written as their codes. -/
def Record.escape (c : Char) : List Char :=
  match c with
  | '\x1b' => "\\x1b".toList
  | '\x07' => "\\x07".toList
  | '\x08' => "\\x08".toList
  | '\x0c' => "\\x0c".toList
  | '\x7f' => "\\x7f".toList
  | _ =>
    if 0x80 ≤ c.toNat && c.toNat ≤ 0x9f then
      ['\\', 'u', '\x7b'] ++ Text.hexDigits c.toNat ++ ['\x7d']
    else [c]

def Level.text : Level → String
  | .info => " INFO"
  | .warn => " WARN"

def Origin.text : Origin → String
  | .grading => "socrates::grade"
  | .testing => "socrates::filetypes::picobot"
  | .simulation => "socrates::picobot::simulate"

def Record.text (record : Record) : String :=
  record.level.text ++ " " ++ record.origin.text ++ ": " ++
    String.ofList (record.message.toList.flatMap escape) ++
    String.join (record.fields.map fun field => " " ++ field.1 ++ "=" ++ field.2) ++ "\n"

/-- A quiet session leaves out what is only information. -/
def recordsText (quiet : Bool) (records : List Record) : String :=
  String.join ((records.filter fun record => !quiet || record.level ≠ .info).map Record.text)

structure Session where
  exitCode : Nat
  usageError : Bool
  output : String
  errors : String
  deriving DecidableEq, Repr

/-- The texts of a failure, the outermost in the first line. -/
def Failure.report (failure : Failure) : String :=
  "Error: " ++ failure.message ++ "\n" ++
    match failure.texts.drop 1 with
    | [] => ""
    | causes => "\nCaused by:\n" ++ String.join (causes.map fun text => "    " ++ text ++ "\n")

namespace Session

def misused : Session := ⟨1, true, "", ""⟩

def failed (failure : Failure) : Session := ⟨1, false, "", failure.report⟩

def succeeded (output errors : String) : Session := ⟨0, false, output, errors⟩

/-- The session of a command that makes records before it comes to its answer. -/
def ofTraced (quiet : Bool) (traced : Traced Failure α) (conclude : α → Session) : Session :=
  let last := match traced.answer with
    | .ok value => conclude value
    | .error failure => failed failure
  { last with output := recordsText quiet traced.records ++ last.output }

def grade (files : FileSystem) (environment : Environment) (criteria : String)
    (submissions : List String) : Traced Failure GradeReport :=
  Traced.mapError (·.within ("Failed to grade against " ++ criteria)) do
    let settings ← .silent (Settings.ofEnvironment environment)
    let setting : TestSetting := ⟨files, settings.mapDirectory, settings.stepCap⟩
    let criteria ← .silent (Criteria.load .withDefaults setting criteria)
    gradeSubmissions files criteria submissions

def conclude (json : Bool) (report : GradeReport) : Session :=
  succeeded (if json then report.toJson.indentedText ++ "\n" else "") (Overview.text report ++ "\n")

def simulation (files : FileSystem) (environment : Environment) (rules map start : String) :
    Traced Failure Outcome := do
  let source ← .silent <| inContext ("Could not read Picobot rules " ++ rules)
    (giveUp .file (files.read rules))
  let grid ← .silent (Grid.load files map)
  let start ← .silent (StartPosition.read start)
  let table ← .silent (giveUp .rules (RuleTable.compileSource source))
  let cap ← .silent (Settings.stepCapOf environment)
  let outcome := simulate table grid start cap
  ⟨MapTest.trialRecords outcome, giveUp .rules outcome⟩

def drawOutcome (outcome : Outcome) : Session :=
  let capped := if outcome.hitCap then " (step cap reached)" else ""
  succeeded (outcome.grid.drawing (some outcome.position) ++ "\nPicobot coverage: " ++
    Ratio.text outcome.coverage ++ " after " ++ toString outcome.steps ++ " steps" ++ capped ++
    "\n") ""

def generate (solutions : List String) : Session :=
  match CriteriaDescriptor.skeleton solutions with
  | .ok criteria => succeeded (criteria.toJson.indentedText ++ "\n") ""
  | .error failure => failed failure

def ofInvocation (files : FileSystem) (environment : Environment) (invocation : Invocation) :
    Session :=
  match invocation.command with
  | .grade json criteria submissions =>
    ofTraced invocation.quiet (grade files environment criteria submissions) (conclude json)
  | .generate solutions => generate solutions
  | .simulate rules map start =>
    ofTraced invocation.quiet (simulation files environment rules map start) drawOutcome

def envFile : String := ".env"

/-- A file of variables beside the session adds to its environment. -/
def loadEnvironment (files : FileSystem) (environment : Environment) : Environment :=
  match files.content envFile with
  | .ok content => EnvFile.load environment content
  | .error _ => environment

def run (files : FileSystem) (environment : Environment) (arguments : List String) : Session :=
  match Invocation.parse? arguments with
  | none => misused
  | some invocation => ofInvocation files (loadEnvironment files environment) invocation

end Session

end MazeGrader
