import Linewise.Text.Lines
import Linewise.Viewer.Highlight
import Linewise.Viewer.Screen

/-!
Panes: a border with a title around lines that can be scrolled. Drawing a pane first brings its
scroll offset back to where the last page starts.
-/

namespace Linewise.Viewer

/-- How many lines a pane shows; it counts as showing one even if it has no room. -/
def visibleLines (area : Area) : Nat := max (area.height - 2) 1

def clampScroll (offset total visible : Nat) : Nat :=
  if visible < total then min offset (total - visible) else 0

def borderStyle (focused : Bool) : Style :=
  if focused then (Style.coloured theme.borderFocused).bolded else .coloured theme.borderNormal

def borderSymbol? (area : Area) (x y : Nat) : Option String :=
  let left := x == area.x
  let right := x + 1 == area.right
  let top := y == area.y
  let bottom := y + 1 == area.bottom
  if left && top then some "┌"
  else if left && bottom then some "└"
  else if right && top then some "┐"
  else if right && bottom then some "┘"
  else if bottom || top then some "─"
  else if left || right then some "│"
  else none

def drawBorder (screen : Screen) (area : Area) (title : String) (focused : Bool) : Screen :=
  let bordered := screen.paint area fun x y cell =>
    match borderSymbol? area x y with
    | some symbol => { cell with symbol }.restyle (borderStyle focused)
    | none => cell
  if area.width = 0 ∨ area.height = 0 then bordered
  else bordered.drawLine { area with x := area.x + 1, width := area.width - 2 } .left [⟨title, {}⟩]

structure Content where
  title : String
  style : Style := {}
  lines : List (List Span)
  deriving DecidableEq, Repr

/-- The border goes around the part of the area that is on the screen. The lines have the room that
the whole area gives them, and where they meet the border they are drawn over it. -/
def drawPane (screen : Screen) (area : Area) (focused : Bool) (content : Content) : Screen :=
  let shown := area.meet screen.area
  let bordered := drawBorder (screen.restyle shown content.style) shown content.title focused
  (bordered.restyle area.inner content.style).drawLines area.inner .left content.lines

def lineNumber (number : Nat) : Span :=
  let digits := (toString number).toList
  ⟨String.ofList (List.replicate (4 - digits.length) ' ' ++ digits ++ [' ']),
    .coloured theme.comment⟩

def numberedLines (rule : WordRule) (lines : List String) (offset count : Nat) :
    List (List Span) :=
  ((lines.drop offset).take count).mapIdx fun index line =>
    lineNumber (offset + index + 1) :: (highlight? rule line).getD []

def sourceContent (rule : WordRule) (lines : List String) (offset count : Nat) : Content where
  title := " Source "
  lines := numberedLines rule lines offset count

def outputContent (lines : List String) (offset count : Nat) : Content :=
  if lines.isEmpty then
    { title := " Python "
      style := .coloured theme.comment
      lines := [[⟨"(no output)", {}⟩]] }
  else { title := " Python ", lines := ((lines.drop offset).take count).map styleOutput }

def drawSource (screen : Screen) (area : Area) (source : String) (rule : WordRule)
    (focused : Bool) (scroll : Nat) : Screen × Nat :=
  let lines := Text.lines source
  let visible := visibleLines area
  let offset := clampScroll scroll lines.length visible
  (drawPane screen area focused (sourceContent rule lines offset visible), offset)

def drawOutput (screen : Screen) (area : Area) (output : String) (focused : Bool)
    (scroll : Nat) : Screen × Nat :=
  let lines := Text.lines output
  let visible := visibleLines area
  let offset := clampScroll scroll lines.length visible
  (drawPane screen area focused (outputContent lines offset visible), offset)

end Linewise.Viewer
