import Linewise.Viewer.Session

/-!
What a terminal sends and receives: keys as the characters it sends for them, and frames with the
control sequences that colour them.
-/

namespace Linewise.Viewer

/-- The keys that a terminal sent. A lone escape is the escape key. -/
def keysOf : List Char → List Key
  | [] => []
  | '\x1b' :: '[' :: 'A' :: rest => .up :: keysOf rest
  | '\x1b' :: '[' :: 'B' :: rest => .down :: keysOf rest
  | '\x1b' :: '[' :: 'C' :: rest => .right :: keysOf rest
  | '\x1b' :: '[' :: 'D' :: rest => .left :: keysOf rest
  | '\x1b' :: '[' :: 'H' :: rest => .home :: keysOf rest
  | '\x1b' :: '[' :: 'F' :: rest => .bottom :: keysOf rest
  | '\x1b' :: '[' :: 'Z' :: rest => .backTab :: keysOf rest
  | '\x1b' :: '[' :: '5' :: '~' :: rest => .pageUp :: keysOf rest
  | '\x1b' :: '[' :: '6' :: '~' :: rest => .pageDown :: keysOf rest
  | '\x1b' :: rest => .escape :: keysOf rest
  | '\t' :: rest => .tab :: keysOf rest
  | '\n' :: rest => .enter :: keysOf rest
  | c :: rest => .char c :: keysOf rest

def Colour.parameters (layer : String) : Colour → String
  | .reset => layer ++ "9"
  | .black => layer ++ "0"
  | .rgb red green blue => s!"{layer}8;2;{red};{green};{blue}"

def Run.sequence (run : Run) : String :=
  let weight := if run.bold then "1" else "22"
  "\x1b[" ++ weight ++ ";" ++ run.fg.parameters "3" ++ ";" ++ run.bg.parameters "4" ++ "m" ++ run.text

def Screen.sequence (screen : Screen) : String :=
  let row (cells : List (Option Cell)) : String :=
    String.join ((Screen.toRuns (cells.filterMap id)).map Run.sequence) ++ "\x1b[0m"
  "\x1b[2J\x1b[H" ++ "\n".intercalate (screen.cellRows.map row)

end Linewise.Viewer
