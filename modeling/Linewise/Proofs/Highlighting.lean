import Linewise.Proofs.Stretches
import Linewise.Viewer.Highlight

/-! The viewer colours each line by its own tokens, and these are the tokens of the whole source on that line.
A line without a newline has one column for each character, so the columns of its tokens cut it into the
stretches of these tokens. A line that cannot be read is shown as it is, in the colour of errors. -/
namespace Linewise

structure Stretch.Divides (text : List Char) (stretches : List Stretch) : Prop where
  joined : stretches.flatMap Stretch.text = text
  placed : ∀ front stretch back, stretches = front ++ stretch :: back →
    stretch.token.pos = .after (front.flatMap Stretch.text)
  covers : ∀ stretch ∈ stretches, stretch.token.lexeme.Covers stretch.text

namespace Viewer
open Stretch (Cuts)

def span (stretch : Stretch) : Span := ⟨String.ofList stretch.text, tokenStyle stretch.token.kind⟩

def columns (start : Nat) : List Span → List (Nat × Span)
  | [] => []
  | span :: later => (start, span) :: columns (start + span.text.length) later

def Span.isSolid (span : Span) : Bool := !span.text.toList.all Lexeme.isBlank

structure Shows (rule : WordRule) (line : String) (marks : List Stretch) (spans : List Span) : Prop where
  shown : highlight? rule line = some spans
  fine : ∀ span ∈ spans, span.style ≠ .coloured theme.error
  joined : String.join (spans.map Span.text) = line
  marked : (columns 1 spans).filter (fun place => place.2.isSolid) =
    marks.map fun mark => (mark.token.pos.column, span mark)

theorem sliceTake (lead : List Char) {text : List Char} {count : Nat} (within : count ≤ text.length) :
    slice? (lead ++ text) lead.length (lead.length + count) = some (String.ofList (text.take count)) := by
  have inside : lead.length + count ≤ (lead ++ text).length := by
    rw [List.length_append]
    omega
  rw [slice?, if_pos ⟨Nat.le_add_right _ _, inside⟩, List.drop_left, Nat.add_sub_cancel_left]

theorem tokenSpansCons {text : List Char} {token : Token} {rest : List Token} {stop : Nat}
    (ends : rest = [] → stop = text.length)
    (goesOn : ∀ next later, rest = next :: later → stop = next.pos.column - 1) :
    tokenSpans? text (token :: rest) = do
      let shown ← slice? text (token.pos.column - 1) stop
      return ⟨shown, tokenStyle token.kind⟩ :: (← tokenSpans? text rest) := by
  cases rest with
  | nil =>
    rw [ends rfl]
    rfl
  | cons next later =>
    rw [goesOn next later rfl]
    rfl

theorem tokenStyleFine (kind : TokenKind) : tokenStyle kind ≠ .coloured theme.error := by
  cases kind <;> decide

section
variable {rule : WordRule} {pos : Position} {text : List Char} {stretches : List Stretch}

theorem cutsSpans (cuts : Cuts rule pos text stretches) (free : '\n' ∉ text) (lead : List Char)
    (column : pos.column = 1 + lead.length) :
    tokenSpans? (lead ++ text) (stretches.map Stretch.token) = some (stretches.map span) := by
  induction cuts generalizing lead with
  | none => rfl
  | @more pos text lexeme count later found rest ih =>
    have within := (Lexeme.beginsLength (Lexeme.ofTextBegins found)).2
    obtain ⟨taken, behind⟩ := freeParts free count
    rw [Position.advanceLine pos taken, List.length_take_of_le within] at rest ih
    have tail := ih behind (lead ++ text.take count) (by
      rw [List.length_append, List.length_take_of_le within]
      simp only
      omega)
    rw [List.append_assoc, List.take_append_drop] at tail
    have ends : later.map Stretch.token = [] → lead.length + count = (lead ++ text).length := by
      intro none
      have empty := Stretch.cutsText rest
      rw [List.map_eq_nil_iff.mp none] at empty
      have all := List.drop_eq_nil_iff.mp empty.symm
      rw [List.length_append]
      omega
    have goesOn : ∀ next others, later.map Stretch.token = next :: others →
        lead.length + count = next.pos.column - 1 := by
      intro next others same
      obtain ⟨stretch, others, rfl, rfl, _⟩ := List.map_eq_cons_iff.mp same
      have place : stretch.token.pos = _ := @Stretch.cutsPlace _ _ _ _ rest [] others stretch rfl
      rw [place]
      simp only [List.flatMap_nil, Position.advance, List.foldl_nil]
      omega
    rw [List.map_cons, tokenSpansCons ends goesOn, tail]
    have start : pos.column - 1 = lead.length := by omega
    simp only [start, sliceTake lead within]
    rfl

theorem cutsColumns (cuts : Cuts rule pos text stretches) (free : '\n' ∉ text) :
    columns pos.column (stretches.map span) =
      stretches.map fun stretch => (stretch.token.pos.column, span stretch) := by
  induction cuts with
  | none => rfl
  | @more pos text lexeme count later found rest ih =>
    obtain ⟨taken, behind⟩ := freeParts free count
    have tail := ih behind
    rw [Position.advanceLine pos taken] at tail
    simp only [List.map_cons, columns, span, String.length_ofList] at tail ⊢
    rw [tail]

theorem cutsSolid (cuts : Cuts rule pos text stretches) :
    ∀ stretch ∈ stretches, (span stretch).isSolid = stretch.isSolid := by
  induction cuts with
  | none => simp
  | @more pos text lexeme count later found rest ih =>
    refine List.forall_mem_cons.mpr ⟨?_, ih⟩
    by_cases blank : lexeme.kind = .blank
    · have all : (text.take count).all Lexeme.isBlank = true := by
        rw [Stretch.blankTake found blank]
        exact List.all_takeWhile
      simp [span, Span.isSolid, Stretch.isSolid, Token.kind, all, blank]
    · obtain ⟨some, solid⟩ := Lexeme.solidHead found blank
      obtain ⟨c, rest, rfl⟩ := List.exists_cons_of_ne_nil some
      obtain ⟨more, rfl⟩ := Nat.exists_eq_add_one.mpr (Lexeme.beginsLength (Lexeme.ofTextBegins found)).1
      cases first : Lexeme.isBlank c with
      | true => simp [first] at solid
      | false => simp [span, Span.isSolid, Stretch.isSolid, Token.kind, first, blank]

end

theorem cutsShows {rule : WordRule} {line : String} {stretches : List Stretch}
    (cuts : Cuts rule {} line.toList stretches) (free : '\n' ∉ line.toList) :
    Shows rule line (stretches.filter Stretch.isSolid) (stretches.map span) where
  shown := by
    rw [highlight?, Stretch.cutsWritten cuts]
    exact cutsSpans cuts free [] rfl
  fine := by
    intro shown member
    obtain ⟨stretch, _, rfl⟩ := List.mem_map.mp member
    exact tokenStyleFine _
  joined := by
    apply String.toList_injective
    rw [String.toList_join, ← Stretch.cutsText cuts, List.flatMap_map, List.flatMap_map]
    simp [span]
  marked := by
    have places := cutsColumns cuts free
    have start : ({} : Position).column = 1 := rfl
    rw [start] at places
    rw [places, List.filter_map]
    congr 1
    exact List.filter_congr (cutsSolid cuts)

/- Only the columns of its tokens tell how a line is shown, so it is shown alike wherever it stands. -/
theorem marksShow {rule : WordRule} {number : Nat} {text : List Char} {marks : List Stretch}
    (free : '\n' ∉ text) (held : Stretch.Marks rule ⟨number, 1⟩ text marks) :
    ∃ spans, Shows rule (String.ofList text) marks spans := by
  obtain ⟨stretches, cuts, same⟩ := Stretch.marksCuts (Stretch.marksOnLine 1 free held)
  rw [← @String.toList_ofList text] at cuts free
  have shows := cutsShows cuts free
  refine ⟨_, shows.shown, shows.fine, shows.joined, ?_⟩
  rw [shows.marked, same, List.map_map]
  rfl

end Viewer

open Viewer in
theorem linesHighlighted (rule : WordRule) :
    (∀ source tokens, (Scanner.tokens.runFrom (.ofSource rule source)).1 = .ok tokens →
      ∃ stretches, Stretch.Divides source.toList stretches ∧
        let marks := stretches.filter Stretch.isSolid
        (Scanner.writtenTokens.runFrom (.ofSource rule source)).1 = .ok (stretches.map Stretch.token) ∧
        tokens = ⟨.streamStart, {}⟩ :: marks.map Stretch.token ++ [⟨.streamEnd, .after source.toList⟩] ∧
        (∀ mark ∈ marks, 1 ≤ mark.token.pos.line ∧ mark.token.pos.line ≤ (Text.lines source).length) ∧
        ∀ index line, (Text.lines source)[index]? = some line →
          ∃ spans, Shows rule line (marks.filter fun mark => mark.token.pos.line = index + 1) spans) ∧
    ∀ line : String, '\n' ∉ line.toList →
      ∃ spans, highlight? rule line = some spans ∧ String.join (spans.map Span.text) = line ∧
        (spans = [⟨line, .coloured theme.error⟩] ↔
          ∃ error, (Scanner.writtenTokens.runFrom (.ofSource rule line)).1 = .error error) := by
  constructor
  · intro source tokens read
    rcases Stretch.cutsOrFails rule source with ⟨stretches, cuts⟩ | ⟨error, failed, _⟩
    · have lined : Stretch.Lined rule 1 (Text.linesFrom [] source.toList)
          (stretches.filter Stretch.isSolid) :=
        Stretch.linesLined List.not_mem_nil (Stretch.cutsMarks cuts)
      have divides : Stretch.Divides source.toList stretches :=
        ⟨Stretch.cutsText cuts,
          fun front stretch back same => (Stretch.cutsPlace cuts same).trans (Position.afterAdvance [] _),
          Stretch.cutsCovers cuts⟩
      refine ⟨stretches, divides, Stretch.cutsWritten cuts, ?_, ?_, ?_⟩
      · exact Except.ok.inj (read.symm.trans (Stretch.cutsTokens cuts))
      · intro mark member
        have within := Stretch.linedWithin lined mark member
        rw [Text.lines, List.length_map]
        omega
      · intro index line located
        rw [Text.lines, List.getElem?_map] at located
        obtain ⟨text, found, rfl⟩ := Option.map_eq_some_iff.mp located
        obtain ⟨free, held⟩ := Stretch.linedAt lined found
        rw [Nat.add_comm 1 index] at held
        exact marksShow free held
    · cases read.symm.trans failed
  · intro line free
    rcases Stretch.cutsOrFails rule line with ⟨stretches, cuts⟩ | ⟨error, _, failed⟩
    · have shows := cutsShows cuts free
      refine ⟨_, shows.shown, shows.joined, ?_, ?_⟩
      · intro same
        exact absurd rfl (shows.fine ⟨line, .coloured theme.error⟩ (same ▸ List.mem_singleton_self _))
      · rintro ⟨error, failed⟩
        cases (Stretch.cutsWritten cuts).symm.trans failed
    · refine ⟨[⟨line, .coloured theme.error⟩], ?_, ?_, ?_⟩
      · rw [highlight?, failed]
      · simp
      · exact ⟨fun _ => ⟨error, failed⟩, fun _ => rfl⟩

/- Returns before newlines, an empty line and a letter beyond the first alphabet; and a line that fails. -/
open Viewer in
theorem linesHighlightedSample :
    let source := "int é\r\n\r\n\tprint é.5\r"
    let scanner := Scanner.ofSource .whole source
    (Scanner.tokens.runFrom scanner).1 = .ok scanner.delivery.tokens ∧
    Text.lines source = ["int é", "", "\tprint é.5\r"] ∧
    (∃ stretches, Stretch.Divides source.toList stretches ∧
      ∃ spans, Shows .whole "\tprint é.5\r"
        ((stretches.filter Stretch.isSolid).filter fun mark => mark.token.pos.line = 3) spans) ∧
    '\n' ∉ "é @".toList ∧
    ∃ spans, highlight? .whole "é @" = some spans ∧ String.join (spans.map Span.text) = "é @" := by
  intro source scanner
  obtain ⟨whole, alone⟩ := linesHighlighted .whole
  have read : (Scanner.tokens.runFrom scanner).1 = .ok scanner.delivery.tokens :=
    (Scanner.tokensOkIff scanner _).mpr ⟨by decide +kernel, rfl⟩
  have lines : Text.lines source = ["int é", "", "\tprint é.5\r"] := by decide +kernel
  obtain ⟨stretches, divides, _, _, _, shown⟩ := whole source _ read
  have free : '\n' ∉ "é @".toList := by decide
  obtain ⟨spans, found, joined, _⟩ := alone "é @" free
  exact ⟨read, lines, ⟨stretches, divides, shown 2 _ (by rw [lines]; rfl)⟩, free, spans, found, joined⟩

end Linewise
