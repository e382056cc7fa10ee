import Linewise.Proofs.Meaning
import Linewise.Target.Name
import Linewise.Text.Alphanumeric
import Linewise.Text.Lines

/-! The fragment of Python that the output is written in: how its lines are read, and what they do. From the
first `#` on a line is a comment. Of the built-in names there are `print` and `input`; as in all of Python,
a binding of such a name hides what was built in, and what is not a function cannot be called. -/
namespace Linewise.Python

inductive Rhs where
  | name (text : String)
  | int (value : Nat)
  | float (value : Rat)
  | falseWord
  | emptyText
  | inputCall
  deriving DecidableEq

inductive Line where
  | empty
  | assign (name : String) (value : Rhs)
  | print (value : Rhs)
  | input
  deriving DecidableEq

def isName (text : List Char) : Bool :=
  match text with
  | [] => false
  | c :: rest =>
    Text.isAlphabetic c && rest.all (fun x => Text.isAlphanumeric x || x == '_') &&
      decide (String.ofList text ∉ Target.reservedWords)

def readWhole? (text : List Char) : Option Rhs :=
  if text ≠ [] ∧ text.all Char.isDigit ∧ (text.head? ≠ some '0' ∨ text.all (· == '0')) then
    some (.int (digitsValue text))
  else none

def readFloat? (text : List Char) : Option Rhs :=
  match text.dropWhile Char.isDigit with
  | '.' :: fraction =>
    if fraction.all Char.isDigit ∧ (text.takeWhile Char.isDigit ≠ [] ∨ fraction ≠ []) then
      some (.float (decimalValue (text.takeWhile Char.isDigit) fraction))
    else none
  | _ => none

def Rhs.read? (text : List Char) : Option Rhs :=
  if text = "input()".toList then some .inputCall
  else if text = "False".toList then some .falseWord
  else if text = "\"\"".toList then some .emptyText
  else if isName text then some (.name (String.ofList text))
  else (readWhole? text).or (readFloat? text)

def printed? (text : List Char) : Option (List Char) :=
  if "print(".toList <+: text ∧ text.getLast? = some ')' then some ((text.drop 6).dropLast) else none

/- A line without its comment and without the blanks before that. A line that has blanks in it assigns. -/
def readCode? (text : List Char) : Option Line :=
  match text.dropWhile (· ≠ ' ') with
  | [] =>
    if text = [] then some .empty
    else if text = "input()".toList then some .input
    else (printed? text).bind fun inner => (Rhs.read? inner).map .print
  | ' ' :: '=' :: ' ' :: value =>
    if isName (text.takeWhile (· ≠ ' ')) then
      (Rhs.read? value).map (.assign (String.ofList (text.takeWhile (· ≠ ' '))))
    else none
  | _ => none

def dropTrailing (text : List Char) : List Char := (text.reverse.dropWhile (· == ' ')).reverse

def Line.read? (line : String) : Option Line :=
  readCode? (dropTrailing (line.toList.takeWhile (· ≠ '#')))

def read? (text : String) : Option (List Line) := (Text.lines text).mapM Line.read?

inductive Object where
  | value (value : Value)
  | printFunction
  | inputFunction
  deriving DecidableEq

structure Run where
  inputs : List String
  store : List (String × Object) := []
  trace : List Object := []
  deriving DecidableEq

inductive Halt where
  | unbound (name : String)
  | inputEnded
  | notCallable (name : String)
  deriving DecidableEq, Repr

abbrev Exec := Step Halt Run

def builtin? (name : String) : Option Object :=
  if name = "print" then some .printFunction
  else if name = "input" then some .inputFunction
  else none

def readName (name : String) : Exec Object := do
  match ((← get).store.lookup name).or (builtin? name) with
  | some object => return object
  | none => .fail (.unbound name)

def callInput : Exec Object := do
  if (← readName "input") = .inputFunction then
    match (← get).inputs with
    | [] => .fail .inputEnded
    | line :: rest =>
      modify fun run => { run with inputs := rest }
      return .value (.text line)
  else .fail (.notCallable "input")

def Rhs.eval : Rhs → Exec Object
  | .name text => readName text
  | .int value => return .value (.int value)
  | .float value => return .value (.float value)
  | .falseWord => return .value (.bool false)
  | .emptyText => return .value (.text "")
  | .inputCall => callInput

/- The function is looked up before what it is called with is evaluated. -/
def callPrint (value : Rhs) : Exec Unit := do
  if (← readName "print") = .printFunction then
    let object ← value.eval
    modify fun run => { run with trace := run.trace ++ [object] }
  else .fail (.notCallable "print")

def Line.exec : Line → Exec Unit
  | .empty => return
  | .assign name value => do
    let object ← value.eval
    modify fun run => { run with store := (name, object) :: run.store }
  | .print value => callPrint value
  | .input => do let _ ← callInput

def exec : List Line → Exec Unit
  | [] => return
  | line :: rest => do
    line.exec
    exec rest

end Linewise.Python
