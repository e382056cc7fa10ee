import Linewise.Text.Position

/-!
Remarks on a program that do not stop the compiler.
-/

namespace Linewise

inductive DiagnosticKind where
  | undeclared
  | redeclared
  deriving DecidableEq, Repr

structure Diagnostic where
  kind : DiagnosticKind
  name : String
  pos : Position
  deriving DecidableEq, Repr

def Diagnostic.text (diagnostic : Diagnostic) : String :=
  match diagnostic.kind with
  | .undeclared => "variable '" ++ diagnostic.name ++ "' is undeclared"
  | .redeclared => "variable '" ++ diagnostic.name ++ "' redeclared"

end Linewise
