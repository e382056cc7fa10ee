import Linewise.Compiler
import Linewise.Viewer.Screen
import Linewise.Viewer.Theme

/-!
The bar under the panes: counts and a message on the left, the keys on the right.
-/

namespace Linewise.Viewer

def countLabel (count : Nat) (noun : String) : String :=
  if count = 1 then "1 " ++ noun else toString count ++ " " ++ noun ++ "s"

def badge (text : String) (colour : Colour) : Span :=
  ⟨" " ++ text ++ " ", { fg := some .black, bg := some colour, bold := true }⟩

def barStyle : Style := { bg := some theme.barBackground }

def barText (colour : Colour) : Style := { barStyle with fg := some colour }

def keyStyle : Style := { fg := some .black, bg := some theme.comment }

def statusSpans (message : String) (summary : Summary) (rule : WordRule) : List Span :=
  let warnings := summary.diagnostics.length
  let counts := [
    badge (countLabel summary.statements "statement") theme.primary,
    badge (countLabel summary.lines "line") theme.secondary,
    if warnings = 0 then badge "no warnings" theme.success
    else badge (countLabel warnings "warning") theme.warning]
  let literal := match rule with
    | .leading => [badge "LITERAL" theme.keyword]
    | .whole => []
  counts ++ literal ++ [⟨" " ++ message ++ " ", barText theme.fg⟩]

def keySpans : List Span :=
  let word (text : String) : Span := ⟨text, barText theme.fg⟩
  let key (text : String) : Span := ⟨text, keyStyle⟩
  let divider : Span := ⟨"│", barText theme.comment⟩
  [key " ↑/↓ ", word " scroll ", divider, word " ", key " ⇥ ", word " switch pane ", divider,
    word " ", key "q", word " quit "]

def drawBar (screen : Screen) (area : Area) (alignment : Alignment) (spans : List Span) : Screen :=
  (screen.restyle area barStyle).drawLines area alignment [spans]

def drawStatus (screen : Screen) (area : Area) (message : String) (summary : Summary)
    (rule : WordRule) : Screen :=
  let (left, right) := area.halves
  drawBar (drawBar screen left .left (statusSpans message summary rule)) right .right keySpans

end Linewise.Viewer
