import MazeGrader.Command.EnvFile
import MazeGrader.Failure
import MazeGrader.Text.Numeral

/-! Settings that come from the environment. -/
namespace MazeGrader

structure Settings where
  mapDirectory : String
  stepCap : Option UInt64
  deriving DecidableEq, Repr

namespace Settings

def defaultMapDirectory : String := "static"

def mapDirectoryOf (environment : Environment) : String :=
  match (environment.get? "SOCRATES_STATIC_DIR").map fun value => Text.strip value.toList with
  | none | some [] => defaultMapDirectory
  | some value => String.ofList value

/-- A cap that is blank is none. -/
def stepCapOf (environment : Environment) : Except Failure (Option UInt64) :=
  match environment.get? "SOCRATES_MAX_STEPS" with
  | none => .ok none
  | some value =>
    match Text.strip value.toList with
    | [] => .ok none
    | digits =>
      inContext ("SOCRATES_MAX_STEPS is not a number: " ++ value) <|
        giveUp (fun fault => .other fault.message) <|
          (Numeral.read64 digits).map fun cap => some (UInt64.ofNat cap)

def ofEnvironment (environment : Environment) : Except Failure Settings := do
  return ⟨mapDirectoryOf environment, ← stepCapOf environment⟩

end Settings

end MazeGrader
