/-!
Paths as text: their pieces between slashes, and the path beside a file that differs in the
extension.
-/

namespace Linewise.Path

def pieces : List Char → List (List Char)
  | [] => [[]]
  | c :: rest =>
    if c = '/' then [] :: pieces rest
    else match pieces rest with
      | [] => [[c]]
      | piece :: more => (c :: piece) :: more

/-- The pieces that lead to where a file would be made. After a closing slash that is the directory
around the last name, and no file can be made of a directory. -/
def targetPieces (pieces : List (List Char)) : List (List Char) :=
  match pieces.getLast? with
  | some [] => ((pieces.reverse.dropWhile List.isEmpty).drop 1).reverse ++ [[]]
  | _ => pieces

def dropClosing : List Char → List Char
  | '/' :: rest => dropClosing rest
  | '.' :: '/' :: rest => dropClosing rest
  | path => path

def isSpecial (name : List Char) : Bool := name == [] || name == ['.'] || name == ['.', '.']

/-- A name read from its end, as extension and stem. A dot that starts the name starts no
extension. -/
def splitExtension? (name : List Char) : Option (List Char × List Char) :=
  match name.takeWhile (· != '.'), name.dropWhile (· != '.') with
  | extension, '.' :: c :: stem => some (extension, c :: stem)
  | _, _ => none

/-- The path with another extension. A path without a file name is returned as it is, and so is the
directory `..` that is left when a closing name such as `..a` loses its extension. -/
def withExtension (extension : String) (path : String) : String :=
  let whole := path.toList.reverse
  let file := dropClosing whole
  let name := file.takeWhile (· != '/')
  let parent := file.dropWhile (· != '/')
  let extended (stem : List Char) :=
    String.ofList (stem ++ parent).reverse ++ "." ++ extension
  if isSpecial name then path
  else match splitExtension? name with
    | none => extended name
    | some (_, stem) =>
      if stem == ['.'] && file == whole then String.ofList (['.', '.'] ++ parent).reverse
      else extended stem

def defaultOutput (path : String) : String := withExtension "py" path

end Linewise.Path
