import Linewise.Vocabulary

/-!
Declared names in nested scopes, the innermost scope first and in each the latest declaration first. A
name is looked up from the innermost scope outwards, and is declared in the innermost one.
-/

namespace Linewise

abbrev Scope := List (String × DeclaredType)

structure Scopes where
  stack : List Scope := []
  deriving DecidableEq, Repr

namespace Scopes

def depth (scopes : Scopes) : Nat := scopes.stack.length

def enter (scopes : Scopes) : Scopes := ⟨[] :: scopes.stack⟩

def leave (scopes : Scopes) : Scopes := ⟨scopes.stack.tail⟩

/-- Declares a name in the innermost scope, which is opened if there is none. The first component is
the type that this scope had for the name before. -/
def declare (scopes : Scopes) (name : String) (type : DeclaredType) :
    Option DeclaredType × Scopes :=
  match scopes.stack with
  | [] => (none, ⟨[[(name, type)]]⟩)
  | scope :: outer => (scope.lookup name, ⟨((name, type) :: scope) :: outer⟩)

def lookup? (scopes : Scopes) (name : String) : Option DeclaredType :=
  scopes.stack.findSome? fun scope => scope.lookup name

def isDeclared (scopes : Scopes) (name : String) : Bool := (scopes.lookup? name).isSome

end Scopes

end Linewise
