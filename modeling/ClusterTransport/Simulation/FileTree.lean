import ClusterTransport.Config.Basic
import ClusterTransport.Text.Pieces
import ClusterTransport.Text.Utf8

/-!
# File trees

What paths lead to in a tree of directories and files, and a tree with little more than the
directories that every system has.
-/

namespace ClusterTransport.Simulation

inductive FileTree where
  | file (bytes : List UInt8)
  | directory (entries : List (String × FileTree))

namespace FileTree

/-- The size of a path in bytes that is too long. -/
def pathLimit : Nat := 4096

def nameLimit : Nat := 255

/-- Follows the names of a path; `above` holds the directories on the way, the last one first. An
empty name or a dot leads nowhere else, but only a directory has one. -/
def follow (above : List FileTree) : FileTree → List String → Config.PathContent
  | .file bytes, [] => .file bytes
  | .directory _, [] => .directory
  | .file _, _ :: _ => .behindFile
  | .directory entries, name :: names =>
    if name = "" ∨ name = "." then follow above (.directory entries) names
    else if name = ".." then
      match above with
      | [] => follow [] (.directory entries) names
      | parent :: above => follow above parent names
    else if nameLimit < (Text.Utf8.encode name).length then .tooLong
    else
      match entries.lookup name with
      | some found => follow (.directory entries :: above) found names
      | none => .nothing

/-- What a path leads to: from the root if it starts with a slash, and else from an empty directory
right below it. -/
def content (root : FileTree) (path : String) : Config.PathContent :=
  if pathLimit ≤ (Text.Utf8.encode path).length then .tooLong
  else
    let names := (Text.splitAll '/' path.toList).map String.ofList
    match path.toList with
    | [] => .nothing
    | '/' :: _ => follow [] root names
    | _ => follow [root] (.directory []) names

def emptyDirectory (name : String) : String × FileTree :=
  (name, .directory [])

/-- A tree with the directories that every system has, and the file that is always empty. -/
def common : FileTree :=
  .directory
    ([("dev", .directory [("null", .file [])]),
      ("usr", .directory (["bin", "lib", "local", "share"].map emptyDirectory)),
      ("var", .directory (["lib", "log", "tmp"].map emptyDirectory))] ++
      ["bin", "etc", "home", "lib", "proc", "root", "sys", "tmp"].map emptyDirectory)

end FileTree

end ClusterTransport.Simulation
