import Linewise.Proofs.Program
import Linewise.Step

/-! What a program does when it is run: it reads lines of input, binds names to values and prints values. A
run stops early at a name that is not bound and at an `input` that finds no line. -/
namespace Linewise

inductive Value where
  | bool (value : Bool)
  | text (value : String)
  | int (value : Nat)
  | float (value : Rat)
  deriving DecidableEq

def digitsValue (digits : List Char) : Nat :=
  digits.foldl (fun value c => 10 * value + (c.toNat - '0'.toNat)) 0

def decimalValue (whole fraction : List Char) : Rat :=
  mkRat (Int.ofNat (digitsValue (whole ++ fraction))) (Nat.pow 10 fraction.length)

def Number.value : Number → Value
  | .int literal => .int (digitsValue literal.toList)
  | .float literal =>
    .float (decimalValue (literal.toList.takeWhile (· ≠ '.'))
      ((literal.toList.dropWhile (· ≠ '.')).drop 1))

def DeclaredType.initial : DeclaredType → Value
  | .boolean => .bool false
  | .char | .string => .text ""
  | .int => .int 0
  | .float => .float (mkRat 0 1)

namespace Program

/- A run on the way. Of the bindings of a name the latest, which comes first, counts. -/
structure Run where
  inputs : List String
  store : List (String × Value) := []
  trace : List Value := []
  deriving DecidableEq

inductive Halt where
  | unbound (name : String)
  | inputEnded
  deriving DecidableEq, Repr

abbrev Exec := Step Halt Run

def readInput : Exec Value := do
  match (← get).inputs with
  | [] => .fail .inputEnded
  | line :: rest =>
    modify fun run => { run with inputs := rest }
    return .text line

def readName (name : String) : Exec Value := do
  match (← get).store.lookup name with
  | some value => return value
  | none => .fail (.unbound name)

def bindName (name : String) (value : Value) : Exec Unit :=
  modify fun run => { run with store := (name, value) :: run.store }

def printValue (value : Value) : Exec Unit :=
  modify fun run => { run with trace := run.trace ++ [value] }

def Operand.eval : Operand → Exec Value
  | .input => readInput
  | .name text _ => readName text
  | .number value => return value.value

def Statement.exec : Statement → Exec Unit
  | .print value => do printValue (← value.eval)
  | .input => do let _ ← readInput
  | .declaration type name _ => bindName name type.initial
  | .assignment name _ value => do bindName name (← value.eval)

def exec : Program → Exec Unit
  | [] => return
  | statement :: rest => do
    statement.exec
    exec rest

end Program

end Linewise
