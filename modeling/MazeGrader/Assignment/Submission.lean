import MazeGrader.Assignment.Criteria

/-! Which files are rule files, which submission belongs to a file of the criteria, and
criteria to begin with for files that exist already. -/
namespace MazeGrader

def ruleExtensions : List (List Char) := ["txt".toList, "picobot".toList]

/-- The kind of a file by its extension, in which case does not matter. -/
def fileKind? (path : String) : Option String := do
  let extension ← Path.extension? path
  if extension.map Char.toLower ∈ ruleExtensions then some ruleFileKind else none

/-- The first submission of the same file name. -/
def findSubmission (path : String) (submissions : List String) : Option String :=
  (Path.fileName? path).bind fun name =>
    submissions.find? fun submission => Path.fileName? submission == some name

def FileDescriptor.skeleton (path : String) : Except Failure FileDescriptor :=
  match fileKind? path with
  | none => .error (.ofText ("Cannot tell what kind of file " ++ path ++ " is"))
  | some kind =>
    let name := ((Path.fileName? path).map String.ofList).getD path
    .ok ⟨name, kind, 0, []⟩

def skeletonFiles : List String → Except Failure (List FileDescriptor)
  | [] => .ok []
  | path :: rest => do
    let file ← FileDescriptor.skeleton path
    return file :: (← skeletonFiles rest)

/-- One entry for each file, worth no points and without tests. -/
def CriteriaDescriptor.skeleton (paths : List String) : Except Failure CriteriaDescriptor := do
  return ⟨"", ← skeletonFiles paths⟩

end MazeGrader
