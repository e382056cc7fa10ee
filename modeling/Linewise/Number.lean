/-!
Number literals in canonical spelling. A whole number has no leading zero and at least one digit. A
number with a point has a digit on each side of it.
-/

namespace Linewise

inductive Number where
  | int (literal : String)
  | float (literal : String)
  deriving DecidableEq, Repr

namespace Number

def literal : Number → String
  | .int text => text
  | .float text => text

def wholeDigits (digits : List Char) : List Char :=
  match digits.dropWhile (· == '0') with
  | [] => ['0']
  | significant => significant

def digitBeforePoint (text : List Char) : List Char :=
  if text.head? = some '.' then '0' :: text else text

def digitAfterPoint (text : List Char) : List Char :=
  if text.getLast? = some '.' then text ++ ['0'] else text

def ofWhole (text : String) : Number :=
  .int (String.ofList (wholeDigits text.toList))

def ofDecimal (text : String) : Number :=
  .float (String.ofList (digitAfterPoint (digitBeforePoint text.toList)))

def ofText (text : String) : Number :=
  if '.' ∈ text.toList then ofDecimal text else ofWhole text

end Number

end Linewise
