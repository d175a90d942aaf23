/-! What a program can learn about files: the bytes under a path, and whether it is a file. -/
namespace MazeGrader

inductive ReadFault where
  | notFound
  | isDirectory
  | notDirectory
  | invalidText
  deriving DecidableEq, Repr

def ReadFault.message : ReadFault → String
  | .notFound => "No such file or directory (os error 2)"
  | .isDirectory => "Is a directory (os error 21)"
  | .notDirectory => "Not a directory (os error 20)"
  | .invalidText => "stream did not contain valid UTF-8"

structure FileSystem where
  content : String → Except ReadFault ByteArray
  isFile : String → Bool

/-- The text of a file, which has to be UTF-8. -/
def decodeText (content : ByteArray) : Except ReadFault String :=
  match String.fromUTF8? content with
  | some text => .ok text
  | none => .error .invalidText

theorem decodeText_toByteArray (text : String) : decodeText text.toByteArray = .ok text := by
  simp [decodeText, String.fromUTF8?, text.isValidUTF8, String.fromUTF8]

def FileSystem.read (files : FileSystem) (path : String) : Except ReadFault String := do
  decodeText (← files.content path)

theorem FileSystem.read_of_content {files : FileSystem} {path text : String}
    (h : files.content path = .ok text.toByteArray) : files.read path = .ok text := by
  rw [read, h]
  exact decodeText_toByteArray text

end MazeGrader
