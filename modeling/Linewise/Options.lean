import Linewise.Scanner

/-!
What the compiler can be asked for.
-/

namespace Linewise

structure Options where
  rule : WordRule := .whole
  header : Bool := true
  annotate : Bool := true
  /-- How many tokens after a misplaced one a message shows. -/
  context : Nat := 7
  deriving DecidableEq, Repr

namespace Options

def withoutHeader (options : Options) : Options := { options with header := false }

def withoutAnnotations (options : Options) : Options := { options with annotate := false }

def withRule (options : Options) (rule : WordRule) : Options := { options with rule }

end Options

end Linewise
