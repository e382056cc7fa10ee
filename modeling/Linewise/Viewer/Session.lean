import Linewise.Viewer.Pane
import Linewise.Viewer.StatusBar

/-!
A session of the viewer: the source and the output side by side, one of them in focus. Keys
change the focus and the scroll offsets, and a key ends the session.
-/

namespace Linewise.Viewer

inductive Focus where
  | source
  | output
  deriving DecidableEq, Repr

def Focus.other : Focus → Focus
  | .source => .output
  | .output => .source

inductive Key where
  | escape
  | tab
  | backTab
  | up
  | down
  | left
  | right
  | pageUp
  | pageDown
  | home
  | bottom
  | enter
  | char (c : Char)
  | other
  deriving DecidableEq, Repr

structure Layout where
  screen : Screen
  source : Area
  output : Area
  bar : Area
  deriving DecidableEq, Repr

def Layout.ofSize (width height : Nat) : Layout :=
  let blank := Screen.blank width height
  let panes : Area := { blank.area with height := blank.height - 1 }
  { screen := blank
    source := panes.halves.1
    output := panes.halves.2
    bar := ⟨0, blank.height - 1, blank.width, min blank.height 1⟩ }

structure Session where
  source : String
  output : String
  summary : Summary
  rule : WordRule
  focus : Focus := .source
  sourceScroll : Nat := 0
  outputScroll : Nat := 0
  quit : Bool := false
  status : String
  deriving DecidableEq, Repr

namespace Session

def statusMessage (summary : Summary) : String :=
  match summary.diagnostics with
  | [] => "Translated cleanly"
  | first :: _ => s!"line {first.pos.line}: " ++ first.text

def start (source output : String) (summary : Summary) (rule : WordRule) : Session where
  source := source
  output := output
  summary := summary
  rule := rule
  status := statusMessage summary

def page : Nat := 10

/-- Offsets are machine words; they stop at the largest. -/
def maxScroll : Nat := UInt64.size - 1

def scrollBy (change : Nat → Nat) (session : Session) : Session :=
  match session.focus with
  | .source => { session with sourceScroll := min (change session.sourceScroll) maxScroll }
  | .output => { session with outputScroll := min (change session.outputScroll) maxScroll }

def press (session : Session) : Key → Session
  | .escape | .char 'q' | .char 'Q' => { session with quit := true }
  | .tab | .backTab => { session with focus := session.focus.other }
  | .up => session.scrollBy (· - 1)
  | .down => session.scrollBy (· + 1)
  | .pageUp => session.scrollBy (· - page)
  | .pageDown => session.scrollBy (· + page)
  | .home => session.scrollBy fun _ => 0
  | .bottom => session.scrollBy fun _ => maxScroll
  | .left | .right | .enter | .char _ | .other => session

def draw (session : Session) (layout : Layout) : Screen × Session :=
  let (screen, sourceScroll) := drawSource layout.screen layout.source session.source session.rule
    (session.focus = .source) session.sourceScroll
  let (screen, outputScroll) := drawOutput screen layout.output session.output
    (session.focus = .output) session.outputScroll
  (drawStatus screen layout.bar session.status session.summary session.rule,
    { session with sourceScroll, outputScroll })

def render (session : Session) (width height : Nat) : Screen × Session :=
  session.draw (.ofSize width height)

end Session

end Linewise.Viewer
