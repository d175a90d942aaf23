import MazeGrader.Assignment.MapTest
import MazeGrader.Text.Quoted

/-! Which tests there are for which kind of file. -/
namespace MazeGrader

abbrev TestLoader := Json → TestSetting → Except Failure MapTest

/-- Loaders by the kind of file and the kind of test. -/
structure Registry where
  loaders : List ((String × String) × TestLoader)

/-- The word for rule files in criteria. -/
def ruleFileKind : String := "picobot"

namespace Registry

def empty : Registry := ⟨[]⟩

/-- Takes the place of the loader that was there for the same kinds. -/
def register (registry : Registry) (fileKind testKind : String) (loader : TestLoader) : Registry :=
  ⟨registry.loaders.filter (fun entry => entry.1 != (fileKind, testKind)) ++
    [((fileKind, testKind), loader)]⟩

def withDefaults : Registry := empty.register ruleFileKind MapTest.kind MapTest.ofJson

def find? (registry : Registry) (fileKind testKind : String) : Option TestLoader :=
  (registry.loaders.find? fun entry => entry.1 == (fileKind, testKind)).map (·.2)

/-- Loads a test by its `type`. -/
def build (registry : Registry) (fileKind : String) (json : Json) (setting : TestSetting) :
    Except Failure MapTest :=
  match (json.member? "type").bind Json.string? with
  | none => .error (.ofText "Test descriptor has no `type`")
  | some testKind =>
    match registry.find? fileKind testKind with
    | none => .error (.ofText
        ("`" ++ testKind ++ "` tests are not supported for `" ++ fileKind ++ "` files"))
    | some loader =>
      inContext ("Could not load `" ++ testKind ++ "` test for a `" ++ fileKind ++ "` file")
        (loader json setting)

/-- The pairs of kinds in braces. -/
def text (registry : Registry) : String :=
  let pairs := registry.loaders.map fun entry =>
    "(" ++ Text.quote entry.1.1 ++ ", " ++ Text.quote entry.1.2 ++ ")"
  "\x7b" ++ String.intercalate ", " pairs ++ "\x7d"

end Registry

end MazeGrader
