import Linewise.Proofs.Preservation

/-! What the options on the looks of the output leave alone. The header is a line of its own, and the note on a
declaration is the first comment of its line; without them the text is that of a compilation that asked for
neither, also where it breaks off. A line can be cut into code and comments without knowing the program: no
name of the language and no remark holds the sign that starts a comment. -/
namespace Linewise

open Target (Operation safeName initialValue headerText declarationNote warningNote warningText textOf
  linesOf)

namespace Target

structure Row where
  code : List Char := []
  comments : List (List Char) := []
  deriving DecidableEq, Repr

namespace Row

def text (row : Row) : List Char :=
  row.code ++ row.comments.flatMap fun comment => "  # ".toList ++ comment

def cons (c : Char) (row : Row) : Row := { row with code := c :: row.code }

def signed (row : Row) : Row := { comments := row.code :: row.comments }

def read : List Char → Row
  | [] => {}
  | ' ' :: ' ' :: '#' :: ' ' :: rest => (read rest).signed
  | c :: rest => (read rest).cons c

def isNoted (row : Row) : Bool :=
  match row.comments with
  | [] => false
  | note :: _ =>
    let name := String.ofList ((note.drop 8).takeWhile (· ≠ ':'))
    DeclaredType.all.any fun type =>
      row.code == (safeName name ++ " = " ++ initialValue type).toList &&
        note == ("declare " ++ name ++ ": " ++ type.text).toList

def withoutNote (row : Row) : Row :=
  if row.isNoted then { row with comments := row.comments.drop 1 } else row

def Clear (row : Row) : Prop := '#' ∉ row.code ∧ ∀ comment ∈ row.comments, '#' ∉ comment

theorem readCode {code : List Char} (plain : '#' ∉ code) : read code = { code } := by
  fun_induction read code with
  | case1 => rfl
  | case2 rest ih => simp at plain
  | case3 c rest other ih =>
    simp only [List.mem_cons, not_or] at plain
    rw [ih plain.2]
    rfl

theorem readSigned {code : List Char} (plain : '#' ∉ code) (rest : List Char) :
    read (code ++ ("  # ".toList ++ rest)) = { (read rest).signed with code } := by
  induction code with
  | nil => rfl
  | cons c code ih =>
    simp only [List.mem_cons, not_or] at plain
    rw [List.cons_append, read, ih plain.2]
    · rfl
    · -- A sign two characters on would lie in the code.
      rintro others rfl same
      rcases code with _ | ⟨first, _ | ⟨second, code⟩⟩ <;> simp_all

theorem readText {row : Row} (clear : row.Clear) : read row.text = row := by
  obtain ⟨code, comments⟩ := row
  obtain ⟨plain, others⟩ := clear
  induction comments generalizing code with
  | nil => simpa [text] using readCode plain
  | cons comment rest ih =>
    obtain ⟨first, later⟩ := List.forall_mem_cons.mp others
    have split : text ⟨code, comment :: rest⟩ = code ++ ("  # ".toList ++ text ⟨comment, rest⟩) := by
      simp [text]
    rw [split, readSigned plain, ih comment first later]
    rfl

theorem withoutNoteDeclared {name : String} (named : (Lexeme.name name).Lawful) (type : DeclaredType)
    (warnings : List (List Char)) :
    let code := (safeName name ++ " = " ++ initialValue type).toList
    withoutNote ⟨code, ("declare " ++ name ++ ": " ++ type.text).toList :: warnings⟩ = ⟨code, warnings⟩ := by
  intro code
  apply if_pos
  have colon : ∀ c ∈ name.toList, (c ≠ ':' : Bool) = true := by
    intro c member
    simp only [decide_eq_true_eq]
    rintro rfl
    exact Lexeme.wordFree named.1 (by decide) member
  have between : ((("declare " ++ name ++ ": " ++ type.text).toList.drop 8).takeWhile (· ≠ ':')) =
      name.toList := by
    have cut : ("declare " ++ name ++ ": " ++ type.text).toList.drop 8 =
      name.toList ++ (':' :: ' ' :: type.text.toList) := by simp
    rw [cut, List.takeWhile_append_of_pos colon]
    simp
  simp only [isNoted, between, String.ofList_toList]
  apply List.any_eq_true.mpr
  exact ⟨type, by cases type <;> decide, by simp [code]⟩

theorem withoutNoteWarned (code : List Char) (remarks : List Diagnostic) :
    withoutNote ⟨code, remarks.map fun remark => ("warning: " ++ remark.text).toList⟩ =
      ⟨code, remarks.map fun remark => ("warning: " ++ remark.text).toList⟩ := by
  apply if_neg
  cases remarks with
  | nil => exact Bool.false_ne_true
  | cons remark rest =>
    have apart (name : String) (type : DeclaredType) :
        ("warning: " ++ remark.text).toList ≠ ("declare " ++ name ++ ": " ++ type.text).toList := by
      intro same
      rw [String.toList_append, String.append_assoc, String.append_assoc, String.toList_append] at same
      cases (List.cons.inj same).1
    simp only [List.map_cons, isNoted, List.any_eq_true, Bool.and_eq_true, beq_iff_eq, not_exists, not_and]
    exact fun type _ _ => apart _ type

end Row

def withoutNotes (text : List Char) : List Char :=
  ['\n'].intercalate ((text.splitOn '\n').map fun line => (Row.read line).withoutNote.text)

theorem withoutNotesLine {line : List Char} (one : '\n' ∉ line) (rest : List Char) :
    withoutNotes (line ++ '\n' :: rest) =
      (Row.read line).withoutNote.text ++ '\n' :: withoutNotes rest := by
  have others : (rest.splitOn '\n').map (fun line => (Row.read line).withoutNote.text) ≠ [] := by simp
  rw [withoutNotes, List.splitOn_append_cons_self_of_not_mem one, List.map_cons,
    List.intercalate_cons_of_ne_nil others]
  simp [withoutNotes]

def IsCode (text : List Char) : Prop := '#' ∉ text ∧ '\n' ∉ text

instance (text : List Char) : Decidable (IsCode text) := inferInstanceAs (Decidable (_ ∧ _))

theorem isCodeAppend {first second : List Char} (left : IsCode first) (right : IsCode second) :
    IsCode (first ++ second) := by
  simp only [IsCode, List.mem_append, not_or]
  exact ⟨⟨left.1, right.1⟩, left.2, right.2⟩

theorem withoutNotesCode {code : List Char} (isCode : IsCode code) : withoutNotes code = code := by
  rw [withoutNotes, List.splitOn_eq_singleton isCode.2, List.map_singleton, List.intercalate_singleton,
    Row.readCode isCode.1]
  simp [Row.withoutNote, Row.isNoted, Row.text]

theorem nameIsCode {name : String} (named : (Lexeme.name name).Lawful) : IsCode name.toList :=
  ⟨Lexeme.wordFree named.1 (by decide), Lexeme.wordFree named.1 (by decide)⟩

theorem safeNameIsCode {name : String} (named : (Lexeme.name name).Lawful) :
    IsCode (safeName name).toList :=
  ⟨(Python.nameSolid (safeNameIsName named)).2.2, (Program.safeNameOneLine named).1⟩

theorem literalIsCode {value : Number} (lawful : (Lexeme.number value).Lawful) :
    IsCode value.literal.toList :=
  ⟨(Python.numberSolid lawful).2.2, (Program.literalOneLine lawful).1⟩

def warnings (remarks : List Diagnostic) : List (List Char) :=
  remarks.map fun remark => ("warning: " ++ remark.text).toList

def Named (remarks : List Diagnostic) : Prop := ∀ remark ∈ remarks, (Lexeme.name remark.name).Lawful

theorem namedNone : Named [] := List.forall_mem_nil _

theorem warningsAreCode {remarks : List Diagnostic} (named : Named remarks) :
    ∀ warning ∈ warnings remarks, IsCode warning := by
  intro warning member
  obtain ⟨⟨kind, name, pos⟩, inside, rfl⟩ := List.mem_map.mp member
  have text := nameIsCode (named _ inside)
  cases kind <;> simpa [IsCode, Diagnostic.text] using text

theorem warningRow (code : List Char) (remarks : List Diagnostic) :
    code ++ (warningText remarks).toList = Row.text ⟨code, warnings remarks⟩ := by
  simp only [Row.text, List.append_cancel_left_eq]
  induction remarks with
  | nil => rfl
  | cons remark rest ih =>
    simp [warningText, warningNote, warnings] at ih ⊢
    exact ih

theorem rowOneLine {row : Row} (code : IsCode row.code) (comments : ∀ comment ∈ row.comments, IsCode comment) :
    '\n' ∉ row.text ∧ row.Clear := by
  refine ⟨?_, code.1, fun comment member => (comments comment member).1⟩
  simp only [Row.text, List.mem_append, List.mem_flatMap, not_or, not_exists]
  refine ⟨code.2, ?_⟩
  rintro comment ⟨member, inside⟩
  simpa using (comments comment member).2 (by simpa using inside)

theorem withoutNotesRow {row : Row} (code : IsCode row.code)
    (comments : ∀ comment ∈ row.comments, IsCode comment) (rest : List Char) :
    withoutNotes (row.text ++ '\n' :: rest) = row.withoutNote.text ++ '\n' :: withoutNotes rest := by
  obtain ⟨one, clear⟩ := rowOneLine code comments
  rw [withoutNotesLine one, Row.readText clear]

/- Operations that keep to the order of a line. They start where a line does or within its code, and so they
end; a declaration has a line for itself. -/
inductive Tidy : Bool → List Operation → Bool → Prop where
  | none {fresh later} (kept : later = true → fresh = true) : Tidy fresh [] later
  | code {fresh operation rest later} (same : operation.text true = operation.text false)
      (isCode : IsCode (operation.text false).toList) (tidy : Tidy false rest later) :
      Tidy fresh (operation :: rest) later
  | endLine {fresh remarks rest later} (named : Named remarks) (tidy : Tidy true rest later) :
      Tidy fresh (.endLine remarks :: rest) later
  | declaration {name type remarks rest later} (lawful : (Lexeme.name name).Lawful)
      (named : Named remarks) (tidy : Tidy true rest later) :
      Tidy true (.declaration name type :: .endLine remarks :: rest) later

theorem tidyFresh {fresh other later : Bool} {operations : List Operation}
    (tidy : Tidy other operations later) (kept : other = true → fresh = true) :
    Tidy fresh operations later := by
  cases tidy with
  | none kept' => exact .none fun last => kept (kept' last)
  | code same isCode tidy => exact .code same isCode tidy
  | endLine named tidy => exact .endLine named tidy
  | declaration lawful named tidy =>
    obtain rfl := kept rfl
    exact .declaration lawful named tidy

theorem tidyAppend {fresh middle later : Bool} {first second : List Operation}
    (left : Tidy fresh first middle) (right : Tidy middle second later) :
    Tidy fresh (first ++ second) later := by
  induction left with
  | none kept => exact tidyFresh right kept
  | code same isCode _ ih => exact .code same isCode (ih right)
  | endLine named _ ih => exact .endLine named (ih right)
  | declaration lawful named _ ih => exact .declaration lawful named (ih right)

theorem declarationRow (name : String) (type : DeclaredType) (remarks : List Diagnostic) :
    let code := (safeName name ++ " = " ++ initialValue type).toList
    (Operation.text true (.declaration name type)).toList ++ (warningText remarks).toList =
        Row.text ⟨code, ("declare " ++ name ++ ": " ++ type.text).toList :: warnings remarks⟩ ∧
      (Operation.text false (.declaration name type)).toList ++ (warningText remarks).toList =
        Row.text ⟨code, warnings remarks⟩ := by
  intro code
  constructor
  · -- The lemma is for variables: with the literals in their places simp would take them apart.
    have joined (sign word colon text : String) :
        sign ++ word ++ name ++ colon ++ text = sign ++ (word ++ name ++ colon ++ text) := by
      simp only [String.append_assoc]
    have note : declarationNote name type = "  # " ++ ("declare " ++ name ++ ": " ++ type.text) :=
      joined "  # " "declare " ": " type.text
    have noted : (Operation.text true (.declaration name type)).toList =
        code ++ ("  # ".toList ++ ("declare " ++ name ++ ": " ++ type.text).toList) := by
      rw [← String.toList_append, ← note, ← String.toList_append]
      rfl
    rw [noted, warningRow]
    simp [Row.text]
  · have bare : (Operation.text false (.declaration name type)).toList = code := by
      simp [Operation.text, code]
    rw [bare, warningRow]

theorem initialIsCode (type : DeclaredType) : IsCode (initialValue type).toList := by
  cases type <;> decide

theorem typeIsCode (type : DeclaredType) : IsCode type.text.toList := by
  cases type <;> decide

theorem tidyText {fresh later : Bool} {operations : List Operation} (tidy : Tidy fresh operations later)
    {lead : List Char} (isCode : IsCode lead) (empty : fresh = true → lead = []) :
    withoutNotes (lead ++ (textOf true operations).toList) = lead ++ (textOf false operations).toList := by
  have nothing : IsCode [] := by decide
  induction tidy generalizing lead with
  | none => simpa [textOf] using withoutNotesCode isCode
  | code same text _ ih =>
    have longer := ih (isCodeAppend isCode text) (absurd · Bool.false_ne_true)
    simpa [textOf, same] using longer
  | @endLine _ remarks rest _ named _ ih =>
    have line (annotate : Bool) : lead ++ (textOf annotate (.endLine remarks :: rest)).toList =
        Row.text ⟨lead, warnings remarks⟩ ++ '\n' :: (textOf annotate rest).toList := by
      rw [← warningRow]
      simp [textOf, Operation.text]
    have later := ih nothing fun _ => rfl
    rw [line, line, withoutNotesRow isCode (warningsAreCode named), warnings, Row.withoutNoteWarned]
    exact congrArg (_ ++ '\n' :: ·) later
  | @declaration name type remarks rest _ lawful named _ ih =>
    obtain rfl := empty rfl
    obtain ⟨noted, bare⟩ := declarationRow name type remarks
    have line (annotate : Bool) :
        [] ++ (textOf annotate (.declaration name type :: .endLine remarks :: rest)).toList =
          ((Operation.text annotate (.declaration name type)).toList ++ (warningText remarks).toList) ++
            '\n' :: (textOf annotate rest).toList := by
      simp [textOf, Operation.text]
    have code : IsCode (safeName name ++ " = " ++ initialValue type).toList := by
      rw [String.toList_append, String.toList_append]
      exact isCodeAppend (isCodeAppend (safeNameIsCode lawful) (by decide)) (initialIsCode type)
    have note : IsCode ("declare " ++ name ++ ": " ++ type.text).toList := by
      rw [String.toList_append, String.toList_append, String.toList_append]
      exact isCodeAppend (isCodeAppend (isCodeAppend (by decide) (nameIsCode lawful)) (by decide))
        (typeIsCode type)
    have comments := List.forall_mem_cons.mpr ⟨note, warningsAreCode named⟩
    have later := ih nothing fun _ => rfl
    rw [line, line, noted, bare, withoutNotesRow code comments, Row.withoutNoteDeclared lawful]
    exact congrArg (_ ++ '\n' :: ·) later

example : withoutNotes "a = 0  # declare a: int  # b\nc".toList = "a = 0  # b\nc".toList := by decide +kernel

end Target

namespace Pass

open Target (Tidy Named IsCode namedNone tidyAppend)

def Phase.fresh : Phase → Bool
  | .start | .statement | .typeName | .declaredName _ | .finished => true
  | .equals | .expression _ _ | .inputParens _ _ | .inputClose _ _ | .closing _ _ => false

def Move.Keeps (fresh : Bool) (move : Move) : Prop :=
  match move.next with
  | .ok next => Tidy fresh move.operations next.phase.fresh ∧ Named next.pending
  | .error _ => ∃ later, Tidy fresh move.operations later

theorem refuseKeeps (fresh : Bool) (expected : Expected) : (Control.refuse expected).Keeps fresh :=
  ⟨fresh, .none id⟩

theorem afterKeeps {fresh middle : Bool} {operations : List Operation} {move : Move}
    (tidy : Tidy fresh operations middle) (keeps : move.Keeps middle) :
    (move.after operations).Keeps fresh := by
  obtain ⟨due, next⟩ := move
  cases next with
  | ok next => exact ⟨tidyAppend tidy keeps.1, keeps.2⟩
  | error expected =>
    obtain ⟨later, rest⟩ := keeps
    exact ⟨later, tidyAppend tidy rest⟩

theorem tidyCode {fresh : Bool} {operation : Operation}
    (same : operation.text true = operation.text false)
    (isCode : IsCode (operation.text false).toList) : Tidy fresh [operation] false :=
  .code same isCode (.none nofun)

theorem resolveNamed {control : Control} {name : String} (pos : Position)
    (lawful : (Lexeme.name name).Lawful) (named : Named control.pending) :
    Named (control.resolve name pos).pending := by
  unfold Control.resolve
  split
  · exact named
  · exact List.forall_mem_append.mpr ⟨named, List.forall_mem_singleton.mpr lawful⟩

theorem declareNamed {control : Control} {name : String} (type : DeclaredType) (pos : Position)
    (lawful : (Lexeme.name name).Lawful) (named : Named control.pending) :
    Named (control.declare name type pos).pending := by
  simp only [Control.declare]
  split
  · exact List.forall_mem_append.mpr ⟨named, List.forall_mem_singleton.mpr lawful⟩
  · exact named

section
variable {control : Control} {token : Token} (named : Named control.pending)
include named

theorem settleTidy (frame : Frame) (depth : Nat) :
    Tidy false (control.settle frame depth).1 (control.settle frame depth).2.phase.fresh ∧
      Named (control.settle frame depth).2.pending := by
  cases depth with
  | succ depth => exact ⟨.none nofun, named⟩
  | zero =>
    refine ⟨?_, namedNone⟩
    have last : Tidy false [.endLine control.pending] true := .endLine named (.none id)
    cases frame with
    | plain => exact last
    | print => exact .code rfl (by decide) last

theorem settledKeeps {fresh : Bool} {operations : List Operation} (frame : Frame) (depth : Nat)
    (tidy : Tidy fresh operations false) : (control.settled frame depth operations).Keeps fresh := by
  obtain ⟨settles, later⟩ := settleTidy named frame depth
  exact ⟨tidyAppend tidy settles, later⟩

theorem closingKeeps (frame : Frame) (depth : Nat) :
    (control.stepClosing frame depth token).Keeps false := by
  unfold Control.stepClosing
  split
  · exact settledKeeps named frame depth (.none id)
  · exact refuseKeeps _ _

variable (lawful : token.lexeme.Lawful)
include lawful

theorem statementKeeps : (control.stepStatement token).Keeps true := by
  obtain ⟨lexeme, pos⟩ := token
  cases lexeme with
  | keyword word =>
    cases word with
    | print => exact ⟨tidyCode rfl (by decide), named⟩
    | input => exact ⟨.none nofun, named⟩
    | declare => exact ⟨.none id, named⟩
  | typeName | streamEnd => exact ⟨.none id, named⟩
  | name text =>
    exact ⟨tidyCode rfl (Target.safeNameIsCode lawful), resolveNamed pos lawful named⟩
  | streamStart | blank | symbol | number => exact refuseKeeps _ _

theorem expressionKeeps (frame : Frame) (depth : Nat) :
    (control.stepExpression frame depth token).Keeps false := by
  obtain ⟨lexeme, pos⟩ := token
  cases lexeme with
  | keyword word =>
    cases word with
    | input => exact ⟨.none id, named⟩
    | print | declare => exact refuseKeeps _ _
  | symbol sign =>
    cases sign with
    | openParen => exact ⟨.none id, named⟩
    | closeParen | equals => exact refuseKeeps _ _
  | name text =>
    exact settledKeeps (resolveNamed pos lawful named) frame depth
      (tidyCode rfl (Target.safeNameIsCode lawful))
  | number value => exact settledKeeps named frame depth (tidyCode rfl (Target.literalIsCode lawful))
  | streamStart | streamEnd | blank | typeName => exact refuseKeeps _ _

theorem resumeKeeps (frame : Frame) (depth : Nat) : (control.resume frame token depth).Keeps false := by
  cases depth with
  | zero =>
    have finished : Named control.finish.pending := namedNone
    exact afterKeeps (settleTidy named frame 0).1 (statementKeeps finished lawful)
  | succ depth =>
    have turned : Named (control.turn (.closing frame depth)).pending := named
    exact closingKeeps turned frame depth

theorem stepKeeps : (control.step token).Keeps control.phase.fresh := by
  have call : Tidy false [.inputCall] false := tidyCode rfl (by decide)
  cases here : control.phase with
  | start =>
    simp only [Control.step, here]
    split
    · exact ⟨.none id, named⟩
    · exact refuseKeeps _ _
  | statement =>
    simp only [Control.step, here]
    exact statementKeeps named lawful
  | typeName =>
    simp only [Control.step, here]
    split
    · exact ⟨.none id, named⟩
    · exact refuseKeeps _ _
  | declaredName type =>
    simp only [Control.step, here]
    split
    · rename_i name same
      rw [same] at lawful
      exact ⟨.declaration lawful (declareNamed type token.pos lawful named) (.none id), namedNone⟩
    · exact refuseKeeps _ _
  | equals =>
    simp only [Control.step, here]
    split
    · exact ⟨tidyCode rfl (by decide), named⟩
    · exact refuseKeeps _ _
  | expression frame depth =>
    simp only [Control.step, here]
    exact expressionKeeps named lawful frame depth
  | inputParens frame depth =>
    simp only [Control.step, here]
    split
    · exact ⟨.none id, named⟩
    · exact afterKeeps call (resumeKeeps named lawful frame depth)
  | inputClose frame depth =>
    simp only [Control.step, here]
    split
    · exact settledKeeps named frame depth call
    · exact refuseKeeps _ _
  | closing frame depth =>
    simp only [Control.step, here]
    exact closingKeeps named frame depth
  | finished =>
    simp only [Control.step, here]
    exact refuseKeeps _ _

end

theorem runTidy (fault : Option LexError) {tokens : List Token} {control : Control}
    (lawful : ∀ token ∈ tokens, token.lexeme.Lawful) (named : Named control.pending) :
    ∃ later, Tidy control.phase.fresh (run fault tokens control).operations later := by
  induction tokens generalizing control with
  | nil => cases fault <;> exact ⟨_, .none id⟩
  | cons token rest ih =>
    obtain ⟨first, others⟩ := List.forall_mem_cons.mp lawful
    have keeps := stepKeeps named first
    cases h : control.step token with
    | mk operations next =>
      rw [h] at keeps
      cases next with
      | error expected =>
        rw [runRefused h]
        exact keeps
      | ok next =>
        obtain ⟨later, tidy⟩ := ih others keeps.2
        rw [runMoved h]
        exact ⟨later, tidyAppend keeps.1 tidy⟩

end Pass

namespace Options

def opening (options : Options) : String := if options.header then headerText ++ "\n" else ""

def bare (options : Options) (body : String) : String :=
  if options.annotate then String.ofList (Target.withoutNotes body.toList) else body

end Options

/- Compilations that come to the same but for what the options add: the line of the header is counted, and
of a longer context the shorter one is the beginning. -/
inductive SameVerdict (options options' : Options) :
    Except CompileError Summary → Except CompileError Summary → Prop where
  | compiled {summary summary' : Summary} (statements : summary.statements = summary'.statements)
      (diagnostics : summary.diagnostics = summary'.diagnostics) (count : Nat)
      (lines : summary.lines = count + if options.header then 1 else 0)
      (lines' : summary'.lines = count + if options'.header then 1 else 0) :
      SameVerdict options options' (.ok summary) (.ok summary')
  | faulty (error : LexError) : SameVerdict options options' (.error (.lex error)) (.error (.lex error))
  | refused {violation violation' : Violation} (expected : violation.expected = violation'.expected)
      (found : violation.found = violation'.found)
      (shorter : options.context ≤ options'.context →
        violation.context = violation'.context.take options.context)
      (longer : options'.context ≤ options.context →
        violation'.context = violation.context.take options'.context) :
      SameVerdict options options' (.error (.grammar violation)) (.error (.grammar violation'))

theorem contextTake (found : Token) (rest : List Token) {few many : Nat} (fewer : few ≤ many) :
    (if found.isStreamEnd then [] else rest.take few) =
      (if found.isStreamEnd then [] else rest.take many).take few := by
  cases found.isStreamEnd <;> simp [List.take_take, Nat.min_eq_left fewer]

theorem verdictSame (options options' : Options) (course : Pass.Course) :
    SameVerdict options options'
      ((course.after (Pass.headerOperations options.header)).verdict options.context
        (linesOf (Pass.headerOperations options.header ++ course.operations)))
      ((course.after (Pass.headerOperations options'.header)).verdict options'.context
        (linesOf (Pass.headerOperations options'.header ++ course.operations))) := by
  have lines (header : Bool) : linesOf (Pass.headerOperations header ++ course.operations) =
      linesOf course.operations + if header then 1 else 0 := by
    rw [Target.linesOfAppend, (headerRenders true header).2, Nat.add_comm]
  simp only [Pass.Course.verdict, Pass.Course.afterEnding]
  cases course.ending with
  | ok control => exact .compiled rfl rfl _ (lines options.header) (lines options'.header)
  | error stop =>
    cases stop with
    | lex error => exact .faulty error
    | refused expected found rest => exact .refused rfl rfl (contextTake found rest) (contextTake found rest)

theorem compiledBare (options : Options) (source : String) :
    let delivery := (Scanner.ofSource options.rule source).delivery
    let course := Pass.run delivery.fault delivery.tokens {}
    ∃ body, (compile options source .unlimited).2.bytes = (options.opening ++ body).toUTF8 ∧
      options.bare body = textOf false course.operations := by
  intro delivery course
  have unlimited : compile options source .unlimited = _ := compileUnfailing options source .empty
  have lawful := Scanner.readsLawful (Scanner.deliveryReads (.ofSource options.rule source))
  have named : Target.Named ({} : Pass.Control).pending := Target.namedNone
  obtain ⟨_, tidy⟩ := Pass.runTidy delivery.fault lawful named
  refine ⟨textOf options.annotate course.operations, ?_, ?_⟩
  · rw [unlimited, ByteArray.empty_append, Pass.course, Pass.Course.afterOperations, Target.textOfAppend,
      (headerRenders options.annotate options.header).1]
    rfl
  · unfold Options.bare
    cases options.annotate with
    | false => rfl
    | true =>
      have stripped := Target.tidyText tidy (by decide : Target.IsCode []) fun _ => rfl
      rw [List.nil_append, List.nil_append] at stripped
      simp [course, delivery, stripped]

theorem optionsApart (options : Options) (header annotate : Bool) (context : Nat) (source : String) :
    let options' := { options with header, annotate, context }
    let one := compile options source .unlimited
    let other := compile options' source .unlimited
    SameVerdict options options' one.1 other.1 ∧
    ∃ body body' : String,
      one.2.bytes = (options.opening ++ body).toUTF8 ∧
      other.2.bytes = (options'.opening ++ body').toUTF8 ∧
      options.bare body = options'.bare body' ∧
      (compile options.withoutHeader.withoutAnnotations source .unlimited).2.bytes =
        (options.bare body).toUTF8 := by
  intro options' one other
  have first : one = _ := compileUnfailing options source .empty
  have second : other = _ := compileUnfailing options' source .empty
  constructor
  · rw [first, second]
    exact verdictSame options options' _
  · obtain ⟨body, written, bare⟩ := compiledBare options source
    obtain ⟨body', written', bare'⟩ := compiledBare options' source
    obtain ⟨plain, writtenPlain, barePlain⟩ := compiledBare options.withoutHeader.withoutAnnotations source
    have unopened : options.withoutHeader.withoutAnnotations.opening = "" := rfl
    have unnoted : options.withoutHeader.withoutAnnotations.bare plain = plain := rfl
    refine ⟨body, body', written, written', bare.trans bare'.symm, ?_⟩
    rw [writtenPlain, unopened, String.empty_append, ← unnoted, barePlain, bare]
    rfl

end Linewise
