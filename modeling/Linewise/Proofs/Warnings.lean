import Linewise.Proofs.Remarks
import Linewise.Viewer.Highlight

/-! The colours of the output. The viewer knows of the output nothing but its lines: comments start at the
first sign with two blanks before it, and a line is marked where a comment has the word of a warning and a
colon in it. Code has no such sign, so a line is cut where its code ends. The mark is on every line with a
remark. It is also on a line without one if the line repeats a declaration and the name that is declared
ends in the word, for a colon follows the name there. -/
namespace Linewise

open Program (Statement)
open Target (headerText declarationNote warningText)

namespace Viewer

def isWarned (spans : List Span) : Bool := spans.any fun span => span.style.fg = some theme.warning

theorem hasTextInfix (wanted text : List Char) : hasText wanted text = true ↔ wanted <:+: text := by
  induction text with
  | nil => rw [hasText, List.isEmpty_iff, List.infix_nil]
  | cons c rest ih =>
    rw [hasText, Bool.or_eq_true, List.isPrefixOf_iff_prefix, ih, List.infix_cons_iff]

theorem splitNotesJoin (text : List Char) : (splitNotes text).1 ++ (splitNotes text).2 = text := by
  induction text with
  | nil => rfl
  | cons c rest ih =>
    rw [splitNotes]
    split
    · rfl
    · exact congrArg (c :: ·) ih

theorem spansJoin (line : String) : String.join ((styleOutput line).map Span.text) = line := by
  have whole := congrArg String.ofList (splitNotesJoin line.toList)
  rw [String.ofList_append, String.ofList_toList] at whole
  unfold styleOutput
  split
  · simp
  · dsimp only
    split
    · rename_i noNotes
      rw [List.isEmpty_iff.mp noNotes, String.ofList_nil, String.append_empty] at whole
      simpa using whole
    · simpa using whole

theorem noteApart {c : Char} {code notes : List Char} (noHash : '#' ∉ c :: code)
    (isNotes : notes = [] ∨ noteStart <+: notes) : ¬ noteStart <+: c :: (code ++ notes) := by
  rintro ⟨rest, same⟩
  have third : (c :: (code ++ notes))[2]? = some '#' := by rw [← same]; rfl
  cases code with
  | nil =>
    rcases isNotes with rfl | ⟨more, rfl⟩ <;> simp [noteStart] at third
  | cons d code =>
    cases code with
    | nil =>
      rcases isNotes with rfl | ⟨more, rfl⟩ <;> simp [noteStart] at third
    | cons e code =>
      obtain rfl : e = '#' := by simpa using third
      simp at noHash

theorem splitNotesCode {code notes : List Char} (noHash : '#' ∉ code)
    (isNotes : notes = [] ∨ noteStart <+: notes) : splitNotes (code ++ notes) = (code, notes) := by
  induction code with
  | nil =>
    rcases isNotes with rfl | starts
    · rfl
    · cases notes with
      | nil => rfl
      | cons c rest =>
        rw [List.nil_append, splitNotes, if_pos (List.isPrefixOf_iff_prefix.mpr starts)]
  | cons c rest ih =>
    have later := ih fun member => noHash (List.mem_cons_of_mem _ member)
    have goesOn : ¬ noteStart.isPrefixOf (c :: (rest ++ notes)) = true :=
      fun starts => noteApart noHash isNotes (List.isPrefixOf_iff_prefix.mp starts)
    rw [List.cons_append, splitNotes, if_neg goesOn, later]

theorem noteStyleWarned (notes : List Char) :
    (noteStyle notes).fg = some theme.warning ↔ "warning:".toList <:+: notes := by
  rw [← hasTextInfix, noteStyle]
  cases hasText "warning:".toList notes <;> decide

theorem styleCode {line : String} {code notes : List Char} (same : line.toList = code ++ notes)
    (some : code ≠ []) (noHash : '#' ∉ code) (isNotes : notes = [] ∨ noteStart <+: notes) :
    (styleOutput line).head? = .some ⟨String.ofList code, .coloured theme.fg⟩ ∧
      (isWarned (styleOutput line) = true ↔ "warning:".toList <:+: notes) := by
  have noSign : ¬ line.toList.head? = .some '#' := by
    obtain ⟨c, rest, rfl⟩ := List.exists_cons_of_ne_nil some
    rw [same]
    intro sign
    cases sign
    exact noHash List.mem_cons_self
  have plain : ¬ (Style.coloured theme.fg).fg = .some theme.warning := by decide
  rw [styleOutput, if_neg noSign, same, splitNotesCode noHash isNotes, ← noteStyleWarned]
  cases notes with
  | nil =>
    have quiet : ¬ (noteStyle []).fg = .some theme.warning := by decide
    simp [isWarned, plain, quiet]
  | cons c rest => simp [isWarned, plain]

end Viewer

namespace Program

def Statement.note (annotate : Bool) : Statement → String
  | .declaration type name _ => if annotate then declarationNote name type else ""
  | .print _ | .input | .assignment _ _ _ => ""

/- The comment of the line reads as that of a warning: it names a variable with the word at its end. -/
def Statement.Alarms (annotate : Bool) : Statement → Prop
  | .declaration _ name _ => annotate = true ∧ "warning".toList <:+ name.toList
  | .print _ | .input | .assignment _ _ _ => False

theorem lineNotes (annotate : Bool) (declared : Scope) (statement : Statement) :
    (statement.line annotate declared).toList =
      (statement.code false).toList ++
        ((statement.note annotate).toList ++ (warningText (statement.remarks declared)).toList) := by
  have noted : statement.code annotate = statement.code false ++ statement.note annotate := by
    cases statement with
    | declaration type name pos =>
      have apart (code note : String) : code ++ note = code ++ "" ++ note := by rw [String.append_empty]
      exact apart _ _
    | print | input | assignment => exact String.append_empty.symm
  rw [Statement.line, noted, ← Pass.warningTextJoin, String.toList_append, String.toList_append,
    List.append_assoc]

theorem codeNonempty {statement : Statement} (lawful : statement.Lawful) :
    (statement.code false).toList ≠ [] := by
  intro empty
  have read := (Python.codeRead lawful).1
  rw [empty] at read
  cases statement <;> cases read

theorem startsLonger {start : List Char} {text : String} (starts : start <+: text.toList) (more : String) :
    start <+: (text ++ more).toList := by
  rw [String.toList_append]
  exact starts.trans (List.prefix_append _ _)

theorem warningSign (remark : Diagnostic) (rest : List Diagnostic) :
    "  # warning: ".toList <+: (warningText (remark :: rest)).toList := by
  have sign : "  # warning: ".toList <+: "  # warning: ".toList := List.prefix_refl _
  exact startsLonger (startsLonger sign remark.text) (warningText rest)

theorem warningStarts (remarks : List Diagnostic) :
    (warningText remarks).toList = [] ∨ Viewer.noteStart <+: (warningText remarks).toList := by
  cases remarks with
  | nil => exact .inl rfl
  | cons remark rest =>
    right
    have starts : Viewer.noteStart <+: "  # warning: ".toList := by decide
    exact starts.trans (warningSign remark rest)

theorem noteStarts (annotate : Bool) (statement : Statement) :
    (statement.note annotate).toList = [] ∨ Viewer.noteStart <+: (statement.note annotate).toList := by
  cases statement with
  | print | input | assignment => exact .inl rfl
  | declaration type name pos =>
    cases annotate with
    | false => exact .inl rfl
    | true =>
      right
      have starts : Viewer.noteStart <+: "  # declare ".toList := by decide
      exact startsLonger (startsLonger (startsLonger starts name) ": ") type.text

theorem notesStart (annotate : Bool) (statement : Statement) (remarks : List Diagnostic) :
    (statement.note annotate).toList ++ (warningText remarks).toList = [] ∨
      Viewer.noteStart <+: (statement.note annotate).toList ++ (warningText remarks).toList := by
  rcases noteStarts annotate statement with none | starts
  · rw [none]
    exact warningStarts remarks
  · exact .inr (starts.trans (List.prefix_append _ _))

theorem wordSuffix {lead name word : List Char} (solid : ' ' ∉ word) :
    word <:+ lead ++ ' ' :: name ↔ word <:+ name := by
  constructor
  · rintro ⟨before, same⟩
    rcases List.append_eq_append_iff.mp same with ⟨gap, _, piece⟩ | ⟨gap, _, piece⟩
    · exact absurd (by simp [piece]) solid
    · rcases List.cons_eq_append_iff.mp piece with ⟨_, rfl⟩ | ⟨more, _, inside⟩
      · exact absurd List.mem_cons_self solid
      · exact ⟨more, inside.symm⟩
  · intro ends
    exact ends.trans ((List.suffix_cons _ _).trans (List.suffix_append _ _))

theorem wordColon {lead name word tail : List Char} (solid : ' ' ∉ word) (noColon : ':' ∉ lead ++ ' ' :: name)
    (noOther : ':' ∉ tail) : word ++ [':'] <:+: (lead ++ ' ' :: name) ++ ':' :: tail ↔ word <:+ name := by
  rw [← wordSuffix solid]
  constructor
  · rintro ⟨before, after, same⟩
    have around : (lead ++ ' ' :: name) ++ ':' :: tail = (before ++ word) ++ ':' :: after := by
      rw [← same]
      simp
    have front := ((List.append_cons_inj_of_notMem noColon noOther).mp around).1
    exact ⟨before, front.symm⟩
  · rintro ⟨before, same⟩
    refine ⟨before, tail, ?_⟩
    rw [← same]
    simp

theorem declarationAlarms {name : String} (lawful : (Lexeme.name name).Lawful) (type : DeclaredType) :
    "warning:".toList <:+: (declarationNote name type).toList ↔ "warning".toList <:+ name.toList := by
  have noColon : ':' ∉ "  # declare".toList ++ ' ' :: name.toList := by
    have named : ':' ∉ name.toList := Lexeme.wordFree lawful.1 (by decide)
    simp [named]
  have typed : ':' ∉ ' ' :: type.text.toList := by cases type <;> decide
  -- For variables, so that no literal is taken apart.
  have cut (sign colon : String) {lead : List Char} (signed : sign.toList = lead ++ [' '])
      (marked : colon.toList = [':', ' ']) (type : String) : (sign ++ name ++ colon ++ type).toList =
        (lead ++ ' ' :: name.toList) ++ ':' :: ' ' :: type.toList := by
    simp [signed, marked]
  have spelled : (declarationNote name type).toList =
      ("  # declare".toList ++ ' ' :: name.toList) ++ ':' :: ' ' :: type.text.toList :=
    cut "  # declare " ": " (by decide) (by decide) type.text
  have word : "warning:".toList = "warning".toList ++ [':'] := by decide
  rw [spelled, word]
  exact wordColon (by decide) noColon typed

theorem notesAlarm (annotate : Bool) {statement : Statement} (lawful : statement.Lawful)
    (remarks : List Diagnostic) :
    "warning:".toList <:+: (statement.note annotate).toList ++ (warningText remarks).toList ↔
      remarks ≠ [] ∨ statement.Alarms annotate := by
  cases remarks with
  | nil =>
    simp only [warningText, String.toList_empty, List.append_nil, ne_eq, not_true, false_or]
    cases statement with
    | print | input | assignment => simp [Statement.note, Statement.Alarms]
    | declaration type name pos =>
      cases annotate with
      | false => simp [Statement.note, Statement.Alarms]
      | true =>
        rw [Statement.note, if_pos rfl, declarationAlarms lawful]
        simp only [Statement.Alarms, true_and]
  | cons remark rest =>
    have word : "warning:".toList <:+: "  # warning: ".toList := ⟨"  # ".toList, [' '], by decide⟩
    have said := word.trans (warningSign remark rest).isInfix
    exact iff_of_true (said.trans (List.suffix_append _ _).isInfix) (.inl (List.cons_ne_nil _ _))

end Program

theorem statementLine {options : Options} {source : String} {file : Grammar.File}
    (read : (Scanner.tokens.runFrom (.ofSource options.rule source)).1 = .ok file.tokens)
    {before after : List Grammar.Statement} {statement : Grammar.Statement}
    (split : file.statements = before ++ statement :: after) :
    (Text.lines (Program.output options file.program))[before.length + if options.header then 1 else 0]? =
      some (statement.abstract.line options.annotate
        (Program.scopeAfter [] (before.map Grammar.Statement.abstract))) := by
  have line := Program.lineAt options.annotate [] (before.map Grammar.Statement.abstract)
    statement.abstract (after.map Grammar.Statement.abstract)
  rw [List.length_map, ← List.map_cons, ← List.map_append, ← split] at line
  rw [(Program.outputLines options (Grammar.readLawful read)).1]
  cases options.header with
  | true => exact line
  | false => exact line

open Viewer in
theorem warningsShown {options : Options} {source text : String} {summary : Summary}
    (ok : compileText options source = .ok (text, summary)) :
    ∃ file : Grammar.File,
      (Scanner.tokens.runFrom (.ofSource options.rule source)).1 = .ok file.tokens ∧
      (∀ before statement after, file.statements = before ++ statement :: after →
        ∃ line, (Text.lines text)[before.length + if options.header then 1 else 0]? = some line ∧
          (styleOutput line).head? = some ⟨statement.abstract.code false, .coloured theme.fg⟩ ∧
          (isWarned (styleOutput line) = true ↔
            (∃ remark ∈ summary.diagnostics, remark.token ∈ statement.tokens) ∨
              statement.abstract.Alarms options.annotate)) ∧
      (options.header = true → (Text.lines text)[0]? = some headerText ∧
        styleOutput headerText = [⟨headerText, .coloured theme.comment⟩]) ∧
      ∀ line, String.join ((styleOutput line).map Span.text) = line := by
  obtain ⟨file, read, rfl⟩ := compileTextOutput ok
  have lawful := Grammar.readLawful read
  refine ⟨file, read, ?_, ?_, spansJoin⟩
  · intro before statement after split
    let declared := Program.scopeAfter [] (before.map Grammar.Statement.abstract)
    have own : statement.abstract.Lawful := by
      apply lawful
      exact List.mem_map_of_mem (by simp [split])
    have remarked : (∃ remark ∈ summary.diagnostics, remark.token ∈ statement.tokens) ↔
        statement.abstract.remarks declared ≠ [] := by
      have order := Grammar.readInOrder read
      have diagnostics := compileTextDiagnostics ok read
      rw [Grammar.File.program] at diagnostics
      rw [split] at order diagnostics
      rw [diagnostics, ← Program.renderFilter options.annotate [] order]
      simp [List.filter_eq_nil_iff]
    obtain ⟨first, warned⟩ := styleCode (Program.lineNotes options.annotate declared statement.abstract)
      (Program.codeNonempty own) (Python.codeRead own).2.1 (Program.notesStart _ _ _)
    rw [String.ofList_toList] at first
    rw [Program.notesAlarm options.annotate own, ← remarked] at warned
    exact ⟨_, statementLine read split, first, warned⟩
  · intro header
    refine ⟨?_, rfl⟩
    rw [(Program.outputLines options lawful).1, header]
    rfl

open Viewer in
theorem warningsShownSample :
    ∃ text summary first second,
      compileText {} remarkedSource = .ok (text, summary) ∧
      (Text.lines text)[1]? = some first ∧ isWarned (styleOutput first) = true ∧
      (Text.lines text)[2]? = some second ∧ isWarned (styleOutput second) = false ∧
      (styleOutput second).head? = some ⟨"a = 0", .coloured theme.fg⟩ := by
  obtain ⟨summary, written⟩ := compileTextFile {} remarkedRead
  have diagnostics := compileTextDiagnostics written remarkedRead
  obtain ⟨file, read, shown, _⟩ := warningsShown written
  obtain rfl : file = Grammar.remarkedFile :=
    Grammar.tokensInjective (Except.ok.inj (read.symm.trans remarkedRead))
  obtain ⟨first, isFirst, _, warned⟩ := shown [] _ _ rfl
  obtain ⟨second, isSecond, code, unwarned⟩ := shown [_] _ _ rfl
  refine ⟨_, summary, first, second, written, isFirst, warned.mpr (.inl ?_), isSecond, ?_, code⟩
  · rw [diagnostics]
    exact ⟨⟨.undeclared, "a", ⟨1, 1⟩⟩, by decide +kernel, by decide⟩
  · rw [← Bool.not_eq_true, unwarned, diagnostics]
    rintro (⟨remark, member, inside⟩ | ⟨_, ends⟩)
    · have apart : ((Program.render true [] Grammar.remarkedFile.program).diagnostics.all fun remark =>
          remark.token ∉ (Grammar.Statement.declaration .int ⟨1, 7⟩ "a" ⟨1, 11⟩).tokens) = true := by
        decide +kernel
      exact absurd inside (by simpa using List.all_eq_true.mp apart remark member)
    · exact absurd ends (by decide)

def Grammar.alarmingFile : Grammar.File where
  startPos := {}
  statements := [.declaration .int ⟨1, 1⟩ "warning" ⟨1, 5⟩]
  endPos := ⟨1, 12⟩

open Viewer in
theorem declarationWarned :
    ∃ text summary,
      compileText {} "int warning" = .ok (text, summary) ∧ summary.diagnostics = [] ∧
      (Text.lines text)[1]? = some "warning = 0  # declare warning: int" ∧
      styleOutput "warning = 0  # declare warning: int" =
        [⟨"warning = 0", .coloured theme.fg⟩,
          ⟨"  # declare warning: int", (Style.coloured theme.warning).bolded⟩] := by
  have read : (Scanner.tokens.runFrom (.ofSource .whole "int warning")).1 =
      .ok Grammar.alarmingFile.tokens := (Scanner.tokensOkIff _ _).mpr (by decide +kernel)
  obtain ⟨summary, written⟩ := compileTextFile {} read
  exact ⟨_, summary, written, compileTextDiagnostics written read, by decide +kernel, by decide +kernel⟩

end Linewise
