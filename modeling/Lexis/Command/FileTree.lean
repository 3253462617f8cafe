/-!
# Files

Reading a file may fail in a few ways, each with its wording. `FileTree` is a directory of files
held in memory; it resolves a path step by step as a file system does, and so answers what reading
the path gives.
-/

namespace Lexis.Command

inductive ReadFailure where
  | notFound
  | permissionDenied
  | notDirectory
  | isDirectory
  | invalidText
  | other (reason : String)
  deriving DecidableEq, Repr

namespace ReadFailure

def message : ReadFailure → String
  | .notFound => "No such file or directory (os error 2)"
  | .permissionDenied => "Permission denied (os error 13)"
  | .notDirectory => "Not a directory (os error 20)"
  | .isDirectory => "Is a directory (os error 21)"
  | .invalidText => "stream did not contain valid UTF-8"
  | .other reason => reason

end ReadFailure

namespace Path

/-- The parts of a path between its slashes; an empty part stands where slashes meet. -/
def parts (path : String) : List String :=
  (path.split '/').toStringList

/-- The last part of a path that names something; a path that leads up in the end names nothing. -/
def fileName? (path : String) : Option String :=
  match ((parts path).filter fun part => part != "" && part != ".").getLast? with
  | some ".." => none
  | last => last

end Path

/-- A directory of files: the path of each file below the directory, part by part, and its bytes.
Directories exist as far as a file lies below them. What lies outside the directory is not known. -/
structure FileTree where
  files : List (List String × ByteArray)

namespace FileTree

inductive Node where
  | directory (path : List String)
  /-- A directory outside the tree, in which no file is known. -/
  | outside
  | file (content : ByteArray)

def child? (tree : FileTree) (directory : List String) (name : String) : Option Node :=
  let path := directory ++ [name]
  match tree.files.find? (·.1 == path) with
  | some (_, content) => some (.file content)
  | none =>
      if tree.files.any fun (other, _) => path.isPrefixOf other then
        some (.directory path)
      else
        none

def step (tree : FileTree) (node : Node) (part : String) : Except ReadFailure Node :=
  match node with
  | .file _ => .error .notDirectory
  | .outside => if part = "" ∨ part = "." ∨ part = ".." then .ok .outside else .error .notFound
  | .directory path =>
      if part = "" ∨ part = "." then
        .ok node
      else if part = ".." then
        .ok (if path = [] then .outside else .directory path.dropLast)
      else
        match tree.child? path part with
        | some next => .ok next
        | none => .error .notFound

/-- Where a path starts: at the tree, or outside it if the path is absolute. -/
def origin (path : String) : Node :=
  if path.toList.head? = some '/' then .outside else .directory []

def read (tree : FileTree) (path : String) : Except ReadFailure String := do
  match ← (Path.parts path).foldlM tree.step (origin path) with
  | .directory _ | .outside => throw .isDirectory
  | .file content =>
      match String.fromUTF8? content with
      | some text => return text
      | none => throw .invalidText

end FileTree

end Lexis.Command
