/-!
The lines of a text. A newline ends a line, with one carriage return before it if there is one. Text
after the last newline is a line of its own.
-/

namespace Linewise.Text

def dropReturn : List Char → List Char
  | '\r' :: rest => rest
  | line => line

/-- `reversed` is the line so far, last character first. -/
def linesFrom (reversed : List Char) : List Char → List (List Char)
  | [] => if reversed.isEmpty then [] else [reversed.reverse]
  | c :: rest =>
    if c = '\n' then (dropReturn reversed).reverse :: linesFrom [] rest
    else linesFrom (c :: reversed) rest

def lines (text : String) : List String :=
  (linesFrom [] text.toList).map String.ofList

end Linewise.Text
