import MazeGrader.Files.FileSystem
import MazeGrader.Files.Path

/-! Files in memory, in a tree of directories. -/
namespace MazeGrader

inductive FileTree where
  | file (content : ByteArray)
  | directory (entries : List (String × FileTree))

namespace FileTree

def empty : FileTree := .directory []

def entriesOf : FileTree → List (String × FileTree)
  | directory entries => entries
  | file _ => []

/-- Puts content under a path of names; directories on the way are made as needed. -/
def put (tree : FileTree) (content : FileTree) : List String → FileTree
  | [] => content
  | name :: rest =>
    let entries := tree.entriesOf
    let present := ((entries.find? fun entry => entry.1 == name).map (·.2)).getD empty
    directory ((name, put present content rest) :: entries.filter fun entry => entry.1 != name)

/-- Adds content under a relative path. -/
def add (tree : FileTree) (path : String) (content : FileTree) : FileTree :=
  tree.put content ((Path.parts path).map String.ofList)

/-- Walks along parts of a path. Nothing is known above the directory at the start. -/
def walk : List FileTree → FileTree → List String → Except ReadFault FileTree
  | _, tree, [] => .ok tree
  | _, .file _, _ :: _ => .error .notDirectory
  | above, .directory entries, name :: rest =>
    if name = "" ∨ name = "." then walk above (.directory entries) rest
    else if name = ".." then
      match above with
      | parent :: above => walk above parent rest
      | [] => walk [] empty rest
    else match entries.find? fun entry => entry.1 == name with
      | some (_, child) => walk (.directory entries :: above) child rest
      | none => .error .notFound

/-- The tree under a path. A path that starts at the root leads nowhere. -/
def at? (tree : FileTree) (path : String) : Except ReadFault FileTree :=
  match path.toList with
  | [] => .error .notFound
  | '/' :: rest => walk [] empty ((Text.splitOn '/' rest).map String.ofList)
  | chars => walk [] tree ((Text.splitOn '/' chars).map String.ofList)

def content : FileTree → Except ReadFault ByteArray
  | .file content => .ok content
  | .directory _ => .error .isDirectory

def isFile : FileTree → Bool
  | .file _ => true
  | .directory _ => false

def fileSystem (tree : FileTree) : FileSystem where
  content path := do (← tree.at? path).content
  isFile path := match tree.at? path with
    | .ok found => found.isFile
    | .error _ => false

end FileTree

end MazeGrader
