import Linewise.Error
import Linewise.Path

/-!
Files and directories under one root, with a working directory. A path is followed piece by piece
and only through directories. Names and paths have a greatest length in bytes.
-/

namespace Linewise

inductive Entry where
  | file (content : ByteArray)
  | directory

/-- The names that lead to an entry, the last first. The root has none. -/
abbrev Place := List String

structure FileTree where
  entries : List (Place × Entry) := []
  home : Place := []

namespace FileTree

def get? (tree : FileTree) (place : Place) : Option Entry :=
  if place = [] then some .directory else tree.entries.lookup place

def put (tree : FileTree) (place : Place) (entry : Entry) : FileTree :=
  { tree with entries := (place, entry) :: tree.entries.filter fun old => old.1 ≠ place }

def maxName : Nat := 255

def maxPath : Nat := 4095

def enter (place : Place) (piece : String) : Place :=
  if piece = "" ∨ piece = "." then place
  else if piece = ".." then place.tail
  else piece :: place

/-- Follows the pieces of a path. What the last piece names need not exist. -/
def follow (tree : FileTree) (place : Place) : List String → Except IoError Place
  | [] => .ok place
  | piece :: rest =>
    match tree.get? place with
    | none => .error .notFound
    | some (.file _) => .error .notDirectory
    | some .directory =>
      if maxName < piece.utf8ByteSize then .error .nameTooLong
      else tree.follow (enter place piece) rest

def startOf (tree : FileTree) (path : List Char) : Place :=
  if path.head? = some '/' then [] else tree.home

def resolve (tree : FileTree) (path : String) (pieces : List (List Char)) : Except IoError Place :=
  if path = "" then .error .notFound
  else if path.toList.contains '\x00' then .error .zeroInName
  else if maxPath < path.utf8ByteSize then .error .nameTooLong
  else tree.follow (tree.startOf path.toList) (pieces.map String.ofList)

def read (tree : FileTree) (path : String) : Except IoError ByteArray := do
  match tree.get? (← tree.resolve path (Path.pieces path.toList)) with
  | none => throw .notFound
  | some .directory => throw .isDirectory
  | some (.file content) => return content

def readText (tree : FileTree) (path : String) : Except IoError String := do
  match String.fromUTF8? (← tree.read path) with
  | some text => return text
  | none => throw .notUtf8

def writable (tree : FileTree) (path : String) : Except IoError Place := do
  let place ← tree.resolve path (Path.targetPieces (Path.pieces path.toList))
  match tree.get? place with
  | some .directory => throw .isDirectory
  | some (.file _) | none => return place

def makeDirectory (tree : FileTree) : Place → FileTree
  | [] => tree
  | name :: parent =>
    match tree.get? (name :: parent) with
    | some _ => tree
    | none => (tree.makeDirectory parent).put (name :: parent) .directory

def placeOf (tree : FileTree) (path : String) : Place :=
  ((Path.pieces path.toList).map String.ofList).foldl enter tree.home

def addDirectory (tree : FileTree) (path : String) : FileTree :=
  tree.makeDirectory (tree.placeOf path)

def addFile (tree : FileTree) (path : String) (content : ByteArray) : FileTree :=
  let place := tree.placeOf path
  (tree.makeDirectory place.tail).put place (.file content)

def pathBelow? (tree : FileTree) (place : Place) : Option String :=
  let depth := place.length - tree.home.length
  if place.drop depth = tree.home then some ("/".intercalate (place.take depth).reverse) else none

def files (tree : FileTree) : List (String × ByteArray) :=
  let found := tree.entries.filterMap fun (place, entry) =>
    match tree.pathBelow? place, entry with
    | some path, .file content => some (path, content)
    | _, _ => none
  found.mergeSort fun a b => a.1 ≤ b.1

end FileTree

end Linewise
