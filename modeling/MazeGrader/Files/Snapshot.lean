import MazeGrader.Files.FileSystem

/-! Files as they were found under some paths. What was not looked for is not there. -/
namespace MazeGrader

structure Snapshot where
  found : List (String × Except ReadFault ByteArray)

namespace Snapshot

def empty : Snapshot := ⟨[]⟩

def holds (snapshot : Snapshot) (path : String) : Bool :=
  snapshot.found.any fun entry => entry.1 == path

def add (snapshot : Snapshot) (path : String) (content : Except ReadFault ByteArray) : Snapshot :=
  ⟨(path, content) :: snapshot.found⟩

def content (snapshot : Snapshot) (path : String) : Except ReadFault ByteArray :=
  match snapshot.found.find? fun entry => entry.1 == path with
  | some entry => entry.2
  | none => .error .notFound

def fileSystem (snapshot : Snapshot) : FileSystem where
  content := snapshot.content
  isFile path := (snapshot.content path).isOk

end Snapshot

end MazeGrader
