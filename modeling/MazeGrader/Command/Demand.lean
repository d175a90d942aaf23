import MazeGrader.Command.Session

/-! Which files and variables a session asks for, so that they can be fetched before it. -/
namespace MazeGrader

/-- The files that a command names. -/
def Command.paths : Command → List String
  | .grade _ criteria submissions => criteria :: submissions
  | .generate _ => []
  | .simulate rules map _ => [rules, map]

/-- The map that a test asks for, whatever else is wrong with it. -/
def mapPath? (directory : String) (test : Json) : Option String :=
  ((test.member? "map").bind Json.string?).map (Path.join directory)

def CriteriaDescriptor.mapPaths (directory : String) (criteria : CriteriaDescriptor) :
    List String :=
  criteria.files.flatMap fun file => file.tests.filterMap (mapPath? directory)

/-- The maps that a command needs besides the files it names. -/
def Command.mapPaths (files : FileSystem) (environment : Environment) : Command → List String
  | .grade _ criteria _ =>
    match files.read criteria with
    | .error _ => []
    | .ok text =>
      match CriteriaDescriptor.parse text with
      | .error _ => []
      | .ok criteria => criteria.mapPaths (Settings.mapDirectoryOf environment)
  | .generate _ | .simulate _ _ _ => []

/-- The longest pieces of a text that hold only some characters. -/
def runs (isPart : Char → Bool) (run : List Char) : List Char → List String
  | [] => [String.ofList run.reverse]
  | c :: rest =>
    if isPart c then runs isPart (c :: run) rest
    else String.ofList run.reverse :: runs isPart [] rest

def isUnbraced (c : Char) : Bool := c != '\x7b' && c != '\x7d'

/-- The variables that settings or a file of variables may refer to. A file sets one by a
name, and refers to others by letters and numbers or by what stands in braces. -/
def variableNames (content : ByteArray) : List String :=
  let text := (EnvFile.readLines content).flatten
  let pieces := [EnvFile.isNamePart, Text.isAlphanumeric, isUnbraced].flatMap (runs · [] text)
  "SOCRATES_STATIC_DIR" :: "SOCRATES_MAX_STEPS" :: pieces.filter fun name => !name.isEmpty

end MazeGrader
