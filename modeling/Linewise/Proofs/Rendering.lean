import Linewise.Proofs.Acceptance
import Linewise.Text.Lines

/-! The output of a compilation from its program alone. A statement is rendered on a line of its own; all
that one line has to know of those before it is which names are declared. That the single pass interleaves
text, remarks and declarations in an order of its own does not show. -/
namespace Linewise

open Pass (Control Course)
open Target (Operation safeName initialValue headerText textOf linesOf)

namespace Program

def undeclared (declared : Scope) (name : String) (pos : Position) : List Diagnostic :=
  if (declared.lookup name).isSome then [] else [⟨.undeclared, name, pos⟩]

def Operand.text : Operand → String
  | .input => "input()"
  | .name text _ => safeName text
  | .number value => value.literal

def Operand.remarks (declared : Scope) : Operand → List Diagnostic
  | .name text pos => undeclared declared text pos
  | .input | .number _ => []

namespace Statement

def code (annotate : Bool) : Statement → String
  | .print value => "print(" ++ value.text ++ ")"
  | .input => "input()"
  | .declaration type name _ =>
    safeName name ++ " = " ++ initialValue type ++
      if annotate then "  # declare " ++ name ++ ": " ++ type.text else ""
  | .assignment name _ value => safeName name ++ " = " ++ value.text

def remarks (declared : Scope) : Statement → List Diagnostic
  | .print value => value.remarks declared
  | .input => []
  | .declaration _ name pos =>
    if (declared.lookup name).isSome then [⟨.redeclared, name, pos⟩] else []
  | .assignment name pos value => undeclared declared name pos ++ value.remarks declared

def declares (declared : Scope) : Statement → Scope
  | .declaration type name _ => (name, type) :: declared
  | .print _ | .input | .assignment _ _ _ => declared

def line (annotate : Bool) (declared : Scope) (statement : Statement) : String :=
  statement.code annotate ++
    String.join ((statement.remarks declared).map fun remark => "  # warning: " ++ remark.text)

end Statement

structure Rendered where
  text : String := ""
  diagnostics : List Diagnostic := []
  deriving DecidableEq, Repr

def render (annotate : Bool) : Scope → Program → Rendered
  | _, [] => {}
  | declared, statement :: rest =>
    let later := render annotate (statement.declares declared) rest
    { text := statement.line annotate declared ++ "\n" ++ later.text
      diagnostics := statement.remarks declared ++ later.diagnostics }

def output (options : Options) (program : Program) : String :=
  (if options.header then headerText ++ "\n" else "") ++ (render options.annotate [] program).text

end Program

namespace Pass

open Program (Operand Statement)

structure Ready (control : Control) (declared : Scope) : Prop where
  scopes : control.scopes = ⟨[declared]⟩
  pending : control.pending = []

theorem isDeclaredOne (declared : Scope) (name : String) :
    (⟨[declared]⟩ : Scopes).isDeclared name = (declared.lookup name).isSome := by
  cases h : declared.lookup name <;> simp [Scopes.isDeclared, Scopes.lookup?, h]

section
variable {control : Control} {declared : Scope} (scopes : control.scopes = ⟨[declared]⟩)
include scopes

theorem resolveOne (name : String) (pos : Position) :
    control.resolve name pos =
      { control with pending := control.pending ++ Program.undeclared declared name pos } := by
  obtain ⟨phase, _, pending, diagnostics, statements⟩ := control
  cases scopes
  simp only [Control.resolve, isDeclaredOne, Program.undeclared]
  split
  · rw [List.append_nil]
  · rfl

theorem resolveOperandOne (value : Operand) :
    control.resolveOperand value =
      { control with pending := control.pending ++ value.remarks declared } := by
  cases value with
  | name text pos => exact resolveOne scopes text pos
  | input | number => simp [Control.resolveOperand, Operand.remarks]

theorem noteOne (statement : Statement) :
    control.note statement =
      { control with
        scopes := ⟨[statement.declares declared]⟩
        pending := control.pending ++ statement.remarks declared } := by
  obtain ⟨phase, _, pending, diagnostics, statements⟩ := control
  cases scopes
  cases statement with
  | print value => exact resolveOperandOne rfl value
  | input => simp [Control.note, Statement.declares, Statement.remarks]
  | declaration type name pos =>
    cases h : (declared.lookup name).isSome <;>
      simp [Control.note, Control.declare, Scopes.declare, Statement.declares, Statement.remarks,
        Control.remark, h]
  | assignment name pos value =>
    rw [Control.note, resolveOne rfl, resolveOperandOne rfl]
    simp only [Statement.declares, Statement.remarks, List.append_assoc]

end

theorem codeText (annotate : Bool) (statement : Statement) :
    textOf annotate (codeOperations statement) = statement.code annotate := by
  have operand (value : Operand) : value.operation.text annotate = value.text := by
    cases value <;> rfl
  cases statement with
  | print value =>
    simp only [codeOperations, textOf, operand, Statement.code, String.append_empty, String.append_assoc]
    rfl
  | input => rfl
  | declaration type name pos =>
    simp only [codeOperations, textOf, Statement.code, String.append_empty]
    rfl
  | assignment name pos value =>
    simp only [codeOperations, textOf, operand, Statement.code, String.append_empty, String.append_assoc]
    rfl

theorem codeLines (statement : Statement) : linesOf (codeOperations statement) = 0 := by
  cases statement with
  | print value | assignment _ _ value => cases value <;> rfl
  | input | declaration => rfl

theorem warningTextJoin (diagnostics : List Diagnostic) :
    Target.warningText diagnostics =
      String.join (diagnostics.map fun remark => "  # warning: " ++ remark.text) := by
  induction diagnostics with
  | nil => rfl
  | cons diagnostic rest ih =>
    simp [Target.warningText, Target.warningNote, ih, String.join_cons]

theorem executeText (annotate : Bool) {control : Control} {declared : Scope}
    (ready : Ready control declared) (statement : Statement) :
    textOf annotate (execute control statement).1 = statement.line annotate declared ++ "\n" := by
  simp only [execute, noteOne ready.scopes, ready.pending, List.nil_append, Target.textOfAppend, codeText,
    textOf, Operation.text, warningTextJoin, Statement.line, String.append_assoc, String.append_empty]

theorem executeReady {control : Control} {declared : Scope} (ready : Ready control declared)
    (statement : Statement) : Ready (execute control statement).2 (statement.declares declared) := by
  refine ⟨?_, rfl⟩
  simp only [execute, noteOne ready.scopes, Control.finish]

theorem executeDiagnostics {control : Control} {declared : Scope} (ready : Ready control declared)
    (statement : Statement) :
    (execute control statement).2.diagnostics = control.diagnostics ++ statement.remarks declared := by
  simp only [execute, noteOne ready.scopes, Control.finish, ready.pending, List.nil_append]

theorem executeAllRenders (annotate : Bool) {control : Control} {declared : Scope}
    (ready : Ready control declared) (program : Program) :
    textOf annotate (executeAll control program).1 = (Program.render annotate declared program).text ∧
      (executeAll control program).2.diagnostics =
        control.diagnostics ++ (Program.render annotate declared program).diagnostics ∧
      linesOf (executeAll control program).1 = program.length := by
  induction program generalizing control declared with
  | nil => simp [executeAll, Program.render, textOf, linesOf]
  | cons statement rest ih =>
    obtain ⟨text, diagnostics, lines⟩ := ih (executeReady ready statement)
    have one : linesOf (execute control statement).1 = 1 := by
      simp [execute, Target.linesOfAppend, codeLines, linesOf, Operation.lines]
    simp only [executeAll, Program.render, Target.textOfAppend, Target.linesOfAppend, text, diagnostics,
      lines, one, executeText annotate ready, executeDiagnostics ready, List.append_assoc,
      List.length_cons, true_and]
    omega

end Pass

namespace Text

def OneLine (text : String) : Prop := '\n' ∉ text.toList ∧ '\r' ∉ text.toList

instance (text : String) : Decidable (OneLine text) := inferInstanceAs (Decidable (_ ∧ _))

theorem oneLineAppend {first second : String} (left : OneLine first) (right : OneLine second) :
    OneLine (first ++ second) := by
  simp only [OneLine, String.toList_append, List.mem_append, not_or]
  exact ⟨⟨left.1, right.1⟩, left.2, right.2⟩

theorem linesFromLine {line rest reversed : List Char} (one : '\n' ∉ line) :
    linesFrom reversed (line ++ '\n' :: rest) =
      (dropReturn (line.reverse ++ reversed)).reverse :: linesFrom [] rest := by
  induction line generalizing reversed with
  | nil => simp [linesFrom]
  | cons c more ih =>
    simp only [List.mem_cons, not_or] at one
    obtain ⟨different, later⟩ := one
    rw [List.cons_append, linesFrom, if_neg (Ne.symm different), ih later]
    simp

theorem dropReturnLine {line : List Char} (one : '\r' ∉ line) : dropReturn line = line := by
  cases line with
  | nil => rfl
  | cons c rest =>
    simp only [List.mem_cons, not_or] at one
    unfold dropReturn
    split
    · rename_i same
      cases same
      exact absurd rfl one.1
    · rfl

theorem linesLine {line : String} (one : OneLine line) (rest : String) :
    lines (line ++ "\n" ++ rest) = line :: lines rest := by
  have split : (line ++ "\n" ++ rest).toList = line.toList ++ '\n' :: rest.toList := by simp
  have kept : dropReturn (line.toList.reverse ++ []) = line.toList.reverse := by
    rw [List.append_nil]
    exact dropReturnLine (by simpa using one.2)
  rw [lines, split, linesFromLine one.1, kept, List.reverse_reverse]
  simp [lines]

theorem newlinesLine {line : String} (one : OneLine line) (rest : String) :
    (line ++ "\n" ++ rest).toList.count '\n' = 1 + rest.toList.count '\n' := by
  have none : line.toList.count '\n' = 0 := List.count_eq_zero.mpr one.1
  simp [List.count_append, none, Nat.add_comm]

end Text

namespace Program

def Operand.Lawful : Operand → Prop
  | .input => True
  | .name text _ => (Lexeme.name text).Lawful
  | .number value => (Lexeme.number value).Lawful

def Statement.Lawful : Statement → Prop
  | .print value => value.Lawful
  | .input => True
  | .declaration _ name _ => (Lexeme.name name).Lawful
  | .assignment name _ value => (Lexeme.name name).Lawful ∧ value.Lawful

open Text (OneLine oneLineAppend)

theorem nameOneLine {name : String} (lawful : (Lexeme.name name).Lawful) : OneLine name :=
  ⟨Lexeme.wordFree lawful.1 (by decide), Lexeme.wordFree lawful.1 (by decide)⟩

theorem safeNameOneLine {name : String} (lawful : (Lexeme.name name).Lawful) :
    OneLine (safeName name) := by
  unfold safeName
  split
  · exact oneLineAppend (nameOneLine lawful) (by decide)
  · exact nameOneLine lawful

theorem literalOneLine {value : Number} (lawful : (Lexeme.number value).Lawful) :
    OneLine value.literal :=
  ⟨Lexeme.canonicalFree lawful (by decide) (by decide),
    Lexeme.canonicalFree lawful (by decide) (by decide)⟩

theorem operandOneLine {value : Operand} (lawful : value.Lawful) : OneLine value.text := by
  cases value with
  | input => decide
  | name text pos => exact safeNameOneLine lawful
  | number value => exact literalOneLine lawful

theorem codeOneLine (annotate : Bool) {statement : Statement} (lawful : statement.Lawful) :
    OneLine (statement.code annotate) := by
  have equals : OneLine " = " := by decide
  cases statement with
  | print value =>
    exact oneLineAppend (oneLineAppend (by decide) (operandOneLine lawful)) (by decide)
  | input => exact (by decide : OneLine "input()")
  | declaration type name pos =>
    refine oneLineAppend (oneLineAppend (oneLineAppend (safeNameOneLine lawful) equals) ?_) ?_
    · cases type <;> decide
    · split
      · refine oneLineAppend (oneLineAppend (oneLineAppend ?_ (nameOneLine lawful)) ?_) ?_
        · decide
        · decide
        · cases type <;> decide
      · decide
  | assignment name pos value =>
    exact oneLineAppend (oneLineAppend (safeNameOneLine lawful.1) equals) (operandOneLine lawful.2)

theorem remarkOneLine {remark : Diagnostic} (named : OneLine remark.name) : OneLine remark.text := by
  obtain ⟨kind, name, pos⟩ := remark
  cases kind <;>
    exact oneLineAppend (oneLineAppend (by decide) named) (by decide)

theorem remarksOneLine {statement : Statement} (lawful : statement.Lawful) (declared : Scope) :
    ∀ remark ∈ statement.remarks declared, OneLine remark.text := by
  have unknown {name : String} (lawful : (Lexeme.name name).Lawful) (pos : Position) :
      ∀ remark ∈ undeclared declared name pos, OneLine remark.text := by
    intro remark member
    unfold undeclared at member
    split at member
    · cases member
    · cases List.mem_singleton.mp member
      exact remarkOneLine (nameOneLine lawful)
  have operand {value : Operand} (lawful : value.Lawful) :
      ∀ remark ∈ value.remarks declared, OneLine remark.text := by
    cases value with
    | name text pos => exact unknown lawful pos
    | input | number => nofun
  intro remark member
  cases statement with
  | print value => exact operand lawful remark member
  | input => cases member
  | declaration type name pos =>
    simp only [Statement.remarks] at member
    split at member
    · cases List.mem_singleton.mp member
      exact remarkOneLine (nameOneLine lawful)
    · cases member
  | assignment name pos value =>
    rcases List.mem_append.mp member with target | value
    · exact unknown lawful.1 pos remark target
    · exact operand lawful.2 remark value

theorem warningsOneLine {remarks : List Diagnostic}
    (one : ∀ remark ∈ remarks, OneLine remark.text) :
    OneLine (String.join (remarks.map fun remark => "  # warning: " ++ remark.text)) := by
  induction remarks with
  | nil => decide
  | cons remark rest ih =>
    obtain ⟨first, later⟩ := List.forall_mem_cons.mp one
    rw [List.map_cons, String.join_cons]
    exact oneLineAppend (oneLineAppend (by decide) first) (ih later)

theorem lineOneLine (annotate : Bool) (declared : Scope) {statement : Statement}
    (lawful : statement.Lawful) : OneLine (statement.line annotate declared) :=
  oneLineAppend (codeOneLine annotate lawful) (warningsOneLine (remarksOneLine lawful declared))

def lines (annotate : Bool) : Scope → Program → List String
  | _, [] => []
  | declared, statement :: rest =>
    statement.line annotate declared :: lines annotate (statement.declares declared) rest

theorem linesLength (annotate : Bool) (declared : Scope) (program : Program) :
    (lines annotate declared program).length = program.length := by
  induction program generalizing declared with
  | nil => rfl
  | cons statement rest ih => simp [lines, ih]

theorem renderLines (annotate : Bool) (declared : Scope) {program : Program}
    (lawful : ∀ statement ∈ program, statement.Lawful) :
    Text.lines (render annotate declared program).text = lines annotate declared program ∧
      (render annotate declared program).text.toList.count '\n' = program.length := by
  induction program generalizing declared with
  | nil => simp [render, lines, Text.lines, Text.linesFrom]
  | cons statement rest ih =>
    obtain ⟨first, later⟩ := List.forall_mem_cons.mp lawful
    obtain ⟨split, count⟩ := ih (statement.declares declared) later
    have one := lineOneLine annotate declared first
    simp only [render, lines, Text.linesLine one, Text.newlinesLine one, split, count,
      List.length_cons, true_and]
    omega

theorem outputLines (options : Options) {program : Program}
    (lawful : ∀ statement ∈ program, statement.Lawful) :
    Text.lines (output options program) =
        (if options.header then [headerText] else []) ++ lines options.annotate [] program ∧
      (output options program).toList.count '\n' =
        program.length + if options.header then 1 else 0 := by
  obtain ⟨split, count⟩ := renderLines options.annotate [] lawful
  have one : Text.OneLine headerText := by decide
  unfold output
  cases options.header with
  | true =>
    simp only [if_true, Text.linesLine one, Text.newlinesLine one, split, count,
      List.singleton_append, true_and]
    omega
  | false => simp [split, count]

end Program

namespace Grammar

theorem exprLawful {value : Expr} (lawful : ∀ token ∈ value.tokens, token.lexeme.Lawful) :
    value.operand.Lawful := by
  induction value with
  | input => trivial
  | group openPos inner closePos ih =>
    apply ih
    intro token member
    exact lawful token (by simp [Expr.tokens, member])
  | name text pos => exact lawful ⟨.name text, pos⟩ (by simp [Expr.tokens])
  | number value pos => exact lawful ⟨.number value, pos⟩ (by simp [Expr.tokens])

theorem statementLawful {statement : Statement}
    (lawful : ∀ token ∈ statement.tokens, token.lexeme.Lawful) : statement.abstract.Lawful := by
  cases statement with
  | print pos value => exact exprLawful (List.forall_mem_cons.mp lawful).2
  | input => trivial
  | declaration type typePos name namePos =>
    exact lawful ⟨.name name, namePos⟩ (by simp [Statement.tokens])
  | declared wordPos type typePos name namePos =>
    exact lawful ⟨.name name, namePos⟩ (by simp [Statement.tokens])
  | assignment name namePos equalsPos value =>
    obtain ⟨target, rest⟩ := List.forall_mem_cons.mp lawful
    exact ⟨target, exprLawful (List.forall_mem_cons.mp rest).2⟩

theorem programLawful {file : File} (lawful : ∀ token ∈ file.tokens, token.lexeme.Lawful) :
    ∀ statement ∈ file.program, statement.Lawful := by
  intro statement member
  obtain ⟨tree, inside, rfl⟩ := List.mem_map.mp member
  apply statementLawful
  intro token here
  apply lawful token
  simp only [File.tokens, List.mem_append, List.mem_cons, List.mem_flatMap]
  exact .inl (.inr ⟨tree, inside, here⟩)

theorem readLawful {rule : WordRule} {source : String} {file : File}
    (read : (Scanner.tokens.runFrom (.ofSource rule source)).1 = .ok file.tokens) :
    ∀ statement ∈ file.program, statement.Lawful := by
  have lawful := Scanner.readsLawful (Scanner.deliveryReads (.ofSource rule source))
  rw [((Scanner.tokensOkIff _ _).mp read).2] at lawful
  exact programLawful lawful

end Grammar

theorem headerRenders (annotate header : Bool) :
    textOf annotate (Pass.headerOperations header) = (if header then headerText ++ "\n" else "") ∧
      linesOf (Pass.headerOperations header) = if header then 1 else 0 := by
  cases header <;> simp [Pass.headerOperations, textOf, linesOf, Operation.text, Operation.lines]

theorem outputText (options : Options) (program : Program) :
    textOf options.annotate (Pass.headerOperations options.header ++
      (Pass.executeAll Pass.opened program).1) = Program.output options program := by
  have ready : Pass.Ready Pass.opened [] := ⟨rfl, rfl⟩
  obtain ⟨text, _⟩ := Pass.executeAllRenders options.annotate ready program
  rw [Target.textOfAppend, text, (headerRenders _ _).1]
  rfl

theorem compiledFile {options : Options} {source : String} {file : Grammar.File} (bytes : ByteArray)
    (read : (Scanner.tokens.runFrom (.ofSource options.rule source)).1 = .ok file.tokens) :
    compile options source { bytes } =
      (.ok { statements := file.program.length
             lines := file.program.length + if options.header then 1 else 0
             diagnostics := (Program.render options.annotate [] file.program).diagnostics },
        { bytes := bytes ++ (Program.output options file.program).toUTF8 }) := by
  have ready : Pass.Ready Pass.opened [] := ⟨rfl, rfl⟩
  obtain ⟨_, diagnostics, lines⟩ := Pass.executeAllRenders options.annotate ready file.program
  have statements : (Pass.executeAll Pass.opened file.program).2.statements = file.program.length :=
    (Pass.executeAllStatements Pass.opened file.program).trans (Nat.zero_add _)
  rw [compileUnfailing, courseOfFile read]
  simp only [Pass.fileCourse, Course.verdict, outputText, Target.linesOfAppend, lines,
    (headerRenders options.annotate options.header).2, Control.turn, statements, diagnostics]
  rw [Nat.add_comm]
  rfl

theorem rendersProgram {options : Options} {source : String} {bytes : ByteArray} {summary : Summary}
    (ok : (compile options source { bytes }).1 = .ok summary) :
    ∃ file : Grammar.File,
      (Scanner.tokens.runFrom (.ofSource options.rule source)).1 = .ok file.tokens ∧
      (compile options source { bytes }).2.bytes =
        bytes ++ (Program.output options file.program).toUTF8 ∧
      summary.diagnostics = (Program.render options.annotate [] file.program).diagnostics ∧
      summary.lines = file.program.length + (if options.header then 1 else 0) ∧
      summary.lines = (Program.output options file.program).toList.count '\n' ∧
      summary.lines = (Text.lines (Program.output options file.program)).length := by
  obtain ⟨file, read⟩ := (compiledIff options source bytes).mp ⟨summary, ok⟩
  obtain ⟨split, count⟩ := Program.outputLines options (Grammar.readLawful read)
  rw [compiledFile bytes read] at ok ⊢
  cases ok
  refine ⟨file, read, rfl, rfl, rfl, count.symm, ?_⟩
  rw [split, List.length_append, Program.linesLength]
  cases options.header with
  | true => exact Nat.add_comm _ _
  | false => simp

theorem rendersProgramSample :
    ∃ summary, (compile {} sampleSource {}).1 = .ok summary ∧
      (compile {} sampleSource {}).2.bytes =
        .empty ++ (Program.output {} Grammar.sampleFile.program).toUTF8 ∧
      summary.diagnostics = [⟨.undeclared, "in", ⟨1, 50⟩⟩] ∧
      summary.lines = 6 := by
  obtain ⟨summary, ok⟩ := (compiledIff {} sampleSource .empty).mpr ⟨_, sampleRead⟩
  obtain ⟨file, read, bytes, diagnostics, lines, _⟩ := rendersProgram ok
  obtain rfl : file = Grammar.sampleFile :=
    Grammar.tokensInjective (Except.ok.inj (read.symm.trans sampleRead))
  exact ⟨summary, ok, bytes, diagnostics.trans (by decide), lines⟩

end Linewise
