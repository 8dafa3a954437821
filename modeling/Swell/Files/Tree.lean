import Swell.Files

/-!
# Trees of files

A tree of directories and files, in which paths are walked name by name. The directories around
the tree are empty.
-/
namespace Swell

inductive FileTree where
  | file (bytes : ByteArray)
  | directory (entries : List (String × FileTree))

namespace FileTree

def empty : FileTree :=
  .directory []

def child? (entries : List (String × FileTree)) (name : String) : Option FileTree :=
  (entries.find? fun e => e.1 == name).map (·.2)

/-- Puts a node where the names lead, and makes the directories that are missing on the way. Where a
file stands in the way, nothing changes. -/
def put (node : FileTree) : List String → FileTree → FileTree
  | [], _ => node
  | _ :: _, .file bytes => .file bytes
  | name :: names, .directory entries =>
    .directory <|
      (name, put node names ((child? entries name).getD empty))
        :: entries.filter fun e => e.1 != name

def nameLimit : Nat := 255

/-- The number of bytes that no path has. -/
def pathLimit : Nat := 4096

/-- Walks from a node along the pieces of a path. `above` holds the directories that were entered,
the nearest first. -/
def walk (above : List FileTree) (node : FileTree) : List String → Except FileFault FileTree
  | [] => .ok node
  | name :: names =>
    match node with
    | .file _ => .error .notDirectory
    | .directory entries =>
      if name = "" ∨ name = "." then walk above node names
      else if name = ".." then
        match above with
        | [] => walk [] empty names
        | parent :: above => walk above parent names
      else if nameLimit < name.utf8ByteSize then .error .nameTooLong
      else
        match child? entries name with
        | none => .error .notFound
        | some next => walk (node :: above) next names

def lookup (tree : FileTree) (path : String) : Except FileFault FileTree :=
  if path.toList.contains '\x00' then .error .nulInPath
  else if path = "" then .error .notFound
  else if pathLimit ≤ path.utf8ByteSize then .error .nameTooLong
  else
    match Text.pieces '/' path with
    | "" :: pieces => walk [] empty pieces
    | pieces => walk [] tree pieces

def view (tree : FileTree) : FileView := fun path => do
  match ← tree.lookup path with
  | .directory _ => .error .isDirectory
  | .file bytes =>
    match String.fromUTF8? bytes with
    | some text => .ok text
    | none => .error .notText

end FileTree
end Swell
