import MazeGrader.Command.Demand
import MazeGrader.Files.Snapshot

/-! The program: fetches what a session asks for, runs it and writes what it says. -/
namespace MazeGrader

/-- The fault of a path by the number that the system gives it. -/
def faultOfError : IO.Error → ReadFault
  | .inappropriateType _ code _ => if code = 21 then .isDirectory else .notDirectory
  | _ => .notFound

def fetch (path : String) : IO (Except ReadFault ByteArray) := do
  try
    return .ok (← IO.FS.readBinFile path)
  catch error =>
    return .error (faultOfError error)

def fetchAll (snapshot : Snapshot) : List String → IO Snapshot
  | [] => return snapshot
  | path :: rest => do
    if snapshot.holds path then fetchAll snapshot rest
    else fetchAll (snapshot.add path (← fetch path)) rest

def fetchVariables : List String → IO Environment
  | [] => return []
  | name :: rest => do
    let others ← fetchVariables rest
    match ← IO.getEnv name with
    | some value => return (name, value) :: others
    | none => return others

def usage : String :=
  "usage: [-q] grade [--json] CRITERIA SUBMISSION...\n" ++
  "       [-q] generate SOLUTION...\n" ++
  "       [-q] simulate RULES MAP --start POS\n"

def fetchFor (environment : Environment) (snapshot : Snapshot) (command : Command) :
    IO Snapshot := do
  let snapshot ← fetchAll snapshot command.paths
  let files := snapshot.fileSystem
  fetchAll snapshot (command.mapPaths files (Session.loadEnvironment files environment))

def runProgram (arguments : List String) : IO UInt32 := do
  let snapshot ← fetchAll .empty [Session.envFile]
  let assignments := (snapshot.content Session.envFile).toOption.getD .empty
  let environment ← fetchVariables (variableNames assignments)
  let snapshot ← match Invocation.parse? arguments with
    | some invocation => fetchFor environment snapshot invocation.command
    | none => pure snapshot
  let session := Session.run snapshot.fileSystem environment arguments
  IO.print session.output
  IO.eprint (if session.usageError then usage else session.errors)
  return UInt32.ofNat session.exitCode

end MazeGrader

def main (arguments : List String) : IO UInt32 := MazeGrader.runProgram arguments
