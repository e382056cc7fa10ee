/-!
The reserved words and signs of the language. Each list gives the order in which they are tried.
-/

namespace Linewise

inductive Keyword where
  | print
  | input
  | declare
  deriving DecidableEq, Repr

namespace Keyword

def all : List Keyword := [.print, .input, .declare]

def text : Keyword → String
  | .print => "print"
  | .input => "input"
  | .declare => "declare"

end Keyword

inductive DeclaredType where
  | boolean
  | char
  | int
  | float
  | string
  deriving DecidableEq, Repr

namespace DeclaredType

def all : List DeclaredType := [.boolean, .char, .int, .float, .string]

def text : DeclaredType → String
  | .boolean => "boolean"
  | .char => "char"
  | .int => "int"
  | .float => "float"
  | .string => "String"

def ofText? : String → Option DeclaredType
  | "boolean" => some .boolean
  | "char" => some .char
  | "int" => some .int
  | "float" => some .float
  | "String" => some .string
  | _ => none

theorem ofTextKnown (ty : DeclaredType) : ofText? ty.text = some ty := by
  cases ty <;> decide

end DeclaredType

inductive Symbol where
  | openParen
  | closeParen
  | equals
  deriving DecidableEq, Repr

namespace Symbol

def all : List Symbol := [.openParen, .closeParen, .equals]

def char : Symbol → Char
  | .openParen => '('
  | .closeParen => ')'
  | .equals => '='

def text (symbol : Symbol) : String := String.ofList [symbol.char]

def ofChar? (c : Char) : Option Symbol :=
  all.find? fun symbol => symbol.char = c

theorem ofCharKnown (symbol : Symbol) : ofChar? symbol.char = some symbol := by
  cases symbol <;> decide

end Symbol

end Linewise
