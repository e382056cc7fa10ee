/-!
Places in a text. Lines and columns count from one, and columns count characters. Only a newline
starts a line.
-/

namespace Linewise

structure Position where
  line : Nat := 1
  column : Nat := 1
  deriving DecidableEq, Repr

namespace Position

def step (p : Position) (c : Char) : Position :=
  if c = '\n' then ⟨p.line + 1, 1⟩ else ⟨p.line, p.column + 1⟩

def advance (p : Position) (text : List Char) : Position := text.foldl step p

theorem advanceAppend (p : Position) (a b : List Char) :
    p.advance (a ++ b) = (p.advance a).advance b := by
  simp [advance]

def text (p : Position) : String := s!"line {p.line}, column {p.column}"

end Position

end Linewise
