import Linewise.Text.Width
import Linewise.Viewer.Style

/-!
A screen of cells. Each holds a cluster of characters. A wide cluster stands in one cell and covers
the next, which shows nothing of its own. A screen remembers when text was drawn outside of it.
-/

namespace Linewise.Viewer

structure Cell where
  symbol : String := " "
  fg : Colour := .reset
  bg : Colour := .reset
  bold : Bool := false
  deriving DecidableEq, Repr

def Cell.restyle (cell : Cell) (style : Style) : Cell where
  symbol := cell.symbol
  fg := style.fg.getD cell.fg
  bg := style.bg.getD cell.bg
  bold := cell.bold || style.bold

def Cell.width (cell : Cell) : Nat := Text.clusterWidth cell.symbol.toList

structure Area where
  x : Nat
  y : Nat
  width : Nat
  height : Nat
  deriving DecidableEq, Repr

namespace Area

def maxCells : Nat := 65535

/-- An area at a place. One with too many cells shrinks and keeps its proportions. -/
def sized (x y width height : Nat) : Area :=
  if width * height ≤ maxCells then ⟨x, y, width, height⟩
  else
    let ratio := width.toFloat / height.toFloat
    let rows := (maxCells.toFloat / ratio).sqrt
    ⟨x, y, (rows * ratio).toUInt64.toNat, rows.toUInt64.toNat⟩

def right (area : Area) : Nat := area.x + area.width

def bottom (area : Area) : Nat := area.y + area.height

def contains (area : Area) (x y : Nat) : Bool :=
  area.x ≤ x && x < area.right && area.y ≤ y && y < area.bottom

def meet (a b : Area) : Area :=
  let x := max a.x b.x
  let y := max a.y b.y
  ⟨x, y, min a.right b.right - x, min a.bottom b.bottom - y⟩

def inner (area : Area) : Area := ⟨area.x + 1, area.y + 1, area.width - 2, area.height - 2⟩

def halves (area : Area) : Area × Area :=
  let left := (area.width + 1) / 2
  ({ area with width := left }, { area with x := area.x + left, width := area.width - left })

end Area

structure Screen where
  width : Nat
  height : Nat
  cells : Array Cell
  overrun : Bool := false
  deriving DecidableEq, Repr

inductive Alignment where
  | left
  | right
  deriving DecidableEq, Repr

structure Run where
  text : String
  fg : Colour
  bg : Colour
  bold : Bool
  deriving DecidableEq, Repr

structure Glyph where
  symbol : String
  width : Nat
  style : Style
  deriving DecidableEq, Repr

def glyphs (spans : List Span) : List Glyph :=
  spans.flatMap fun span =>
    ((Text.clusters span.text.toList).filter (· != ['\n'])).map fun cluster =>
      ⟨String.ofList cluster, Text.clusterWidth cluster, span.style⟩

/-- The glyphs of a line with their distance from its start, as far as they fit. A glyph wider than
the whole line is left out; one that would cross its end is the first that is cut. -/
def fitting (width : Nat) (used : Nat) : List Glyph → List (Nat × Glyph)
  | [] => []
  | glyph :: rest =>
    if width < glyph.width then fitting width used rest
    else if width < used + glyph.width then []
    else (used, glyph) :: fitting width (used + glyph.width) rest

namespace Screen

def blank (width height : Nat) : Screen :=
  let area := Area.sized 0 0 width height
  { width := area.width
    height := area.height
    cells := Array.replicate (area.width * area.height) {} }

def area (screen : Screen) : Area := ⟨0, 0, screen.width, screen.height⟩

def paint (screen : Screen) (area : Area) (change : Nat → Nat → Cell → Cell) : Screen :=
  { screen with
    cells := screen.cells.mapIdx fun index cell =>
      let x := index % screen.width
      let y := index / screen.width
      if area.contains x y then change x y cell else cell }

def restyle (screen : Screen) (area : Area) (style : Style) : Screen :=
  screen.paint area fun _ _ cell => cell.restyle style

def put (screen : Screen) (x y : Nat) (symbol : String) (style : Style) : Screen :=
  if x < screen.width ∧ y < screen.height then
    { screen with
      cells := screen.cells.modify (y * screen.width + x) fun cell =>
        { cell with symbol }.restyle style }
  else { screen with overrun := true }

def putGlyph (screen : Screen) (x y : Nat) (glyph : Glyph) : Screen :=
  if glyph.width = 0 then screen else screen.put x y glyph.symbol glyph.style

def drawLine (screen : Screen) (area : Area) (alignment : Alignment) (spans : List Span) : Screen :=
  let shown := fitting area.width 0 (glyphs spans)
  let used := shown.foldl (fun total (_, glyph) => total + glyph.width) 0
  let start := match alignment with
    | .left => area.x
    | .right => area.x + (area.width - used)
  shown.foldl (fun screen (offset, glyph) => screen.putGlyph (start + offset) area.y glyph) screen

def drawLines (screen : Screen) (area : Area) (alignment : Alignment) :
    List (List Span) → Screen
  | [] => screen
  | spans :: rest =>
    if area.height = 0 then screen
    else
      (screen.drawLine area alignment spans).drawLines
        { area with y := area.y + 1, height := area.height - 1 } alignment rest

/-- The cells less those that the cell before them covers. At the end of a row the next cell is the
first of the row below. -/
def uncovered (covered : Bool) : List Cell → List (Option Cell)
  | [] => []
  | cell :: rest => (if covered then none else some cell) :: uncovered (1 < cell.width) rest

def toRuns : List Cell → List Run
  | [] => []
  | cell :: rest =>
    match toRuns rest with
    | [] => [⟨cell.symbol, cell.fg, cell.bg, cell.bold⟩]
    | run :: more =>
      if run.fg = cell.fg ∧ run.bg = cell.bg ∧ run.bold = cell.bold then
        { run with text := cell.symbol ++ run.text } :: more
      else ⟨cell.symbol, cell.fg, cell.bg, cell.bold⟩ :: run :: more

def cellRows (screen : Screen) : List (List (Option Cell)) :=
  if screen.width = 0 then []
  else
    let cells := (uncovered false screen.cells.toList).toArray
    (List.range screen.height).map fun y =>
      (cells.extract (y * screen.width) ((y + 1) * screen.width)).toList

def rows (screen : Screen) : List (List Run) :=
  screen.cellRows.map fun row => toRuns (row.map (·.getD {}))

end Screen

end Linewise.Viewer
