import Linewise.Scanner
import Linewise.Viewer.Theme

/-!
Lines with colours. A source line is scanned on its own and coloured by its tokens; one that cannot
be scanned has the colour of errors. A line of output is code and the comments after it.
-/

namespace Linewise.Viewer

def tokenStyle : TokenKind → Style
  | .keyword => (Style.coloured theme.keyword).bolded
  | .typeName => .coloured theme.typeName
  | .number => .coloured theme.number
  | .symbol => .coloured theme.symbol
  | .name | .blank | .streamStart | .streamEnd => .coloured theme.fg

def slice? (text : List Char) (start stop : Nat) : Option String :=
  if start ≤ stop ∧ stop ≤ text.length then
    some (String.ofList ((text.drop start).take (stop - start)))
  else none

def tokenSpans? (text : List Char) : List Token → Option (List Span)
  | [] => some []
  | token :: rest => do
    let stop := match rest with
      | [] => text.length
      | next :: _ => next.pos.column - 1
    let shown ← slice? text (token.pos.column - 1) stop
    return ⟨shown, tokenStyle token.kind⟩ :: (← tokenSpans? text rest)

/-- The spans of a source line. There are none if the columns of its tokens do not ascend, which a
newline inside the line may cause. -/
def highlight? (rule : WordRule) (line : String) : Option (List Span) :=
  match (Scanner.writtenTokens.runFrom (.ofSource rule line)).1 with
  | .ok tokens => tokenSpans? line.toList tokens
  | .error _ => some [⟨line, .coloured theme.error⟩]

def noteStart : List Char := ['\x20', '\x20', '#', '\x20']

def splitNotes : List Char → List Char × List Char
  | [] => ([], [])
  | c :: rest =>
    if noteStart.isPrefixOf (c :: rest) then ([], c :: rest)
    else
      let (code, notes) := splitNotes rest
      (c :: code, notes)

def hasText (wanted : List Char) : List Char → Bool
  | [] => wanted.isEmpty
  | c :: rest => wanted.isPrefixOf (c :: rest) || hasText wanted rest

def noteStyle (notes : List Char) : Style :=
  if hasText "warning:".toList notes then (Style.coloured theme.warning).bolded
  else .coloured theme.comment

def styleOutput (line : String) : List Span :=
  if line.toList.head? = some '#' then [⟨line, .coloured theme.comment⟩]
  else
    let (code, notes) := splitNotes line.toList
    let codeSpan : Span := ⟨String.ofList code, .coloured theme.fg⟩
    if notes.isEmpty then [codeSpan] else [codeSpan, ⟨String.ofList notes, noteStyle notes⟩]

end Linewise.Viewer
