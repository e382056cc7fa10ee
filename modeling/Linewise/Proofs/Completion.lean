import Linewise.Proofs.FirstFault
import Linewise.Proofs.Relocation
import Linewise.Proofs.Remarks
import Linewise.Proofs.Spelling
import Mathlib.Data.List.Basic

/-! What a compilation that fails has written. The tokens before the fault can be completed to a source that
compiles, and the text is the beginning of the output of every source that completes them: at the fault the
machine has written what the tokens before it are sure to come to, and nothing else. -/
namespace Linewise

open Target (Operation textOf textOfAppend textOfRelocate)

namespace Pass

/- The operations of a call that may still take its parentheses. They are due as soon as the next token is
there, whatever it is. -/
def Control.late (control : Control) : List Operation :=
  match control.phase with
  | .inputParens frame depth => .inputCall :: (control.settle frame depth).1
  | _ => []

theorem lateElsewhere {control : Control}
    (elsewhere : ∀ frame depth, control.phase ≠ .inputParens frame depth) : control.late = [] := by
  unfold Control.late
  split
  · rename_i here
    exact absurd here (elsewhere _ _)
  · rfl

theorem lateRelocate (place : Position → Position) (control : Control) :
    (control.relocate place).late = control.late.map (Operation.relocate place) := by
  have phase : (control.relocate place).phase = control.phase := rfl
  unfold Control.late
  rw [phase]
  split
  · rw [settleRelocate]
    rfl
  · rfl

section
variable {control : Control} {token : Token} {expected : Expected}

theorem statementRefused (refused : (control.stepStatement token).next = .error expected) :
    (control.stepStatement token).operations = [] := by
  obtain ⟨lexeme, pos⟩ := token
  cases lexeme with
  | keyword word => cases word <;> cases refused
  | typeName | name | streamEnd => cases refused
  | streamStart | blank | symbol | number => rfl

theorem expressionRefused {frame : Frame} {depth : Nat}
    (refused : (control.stepExpression frame depth token).next = .error expected) :
    (control.stepExpression frame depth token).operations = [] := by
  obtain ⟨lexeme, pos⟩ := token
  cases lexeme with
  | keyword word =>
    cases word with
    | input => cases refused
    | print | declare => rfl
  | symbol sign =>
    cases sign with
    | openParen => cases refused
    | closeParen | equals => rfl
  | name | number => cases refused
  | streamStart | streamEnd | blank | typeName => rfl

theorem lexemeRefused {lexeme : Lexeme} {move : Move} {wants : Expected} {next : Control}
    (takes : move.next = .ok next)
    (refused : (if token.lexeme = lexeme then move else Control.refuse wants).next = .error expected) :
    (if token.lexeme = lexeme then move else Control.refuse wants).operations = [] := by
  split at refused
  · rw [takes] at refused
    cases refused
  · rename_i other
    rw [if_neg other]
    rfl

theorem closingRefused {frame : Frame} {depth : Nat}
    (refused : (control.stepClosing frame depth token).next = .error expected) :
    (control.stepClosing frame depth token).operations = [] :=
  lexemeRefused rfl refused

theorem resumeRefused {frame : Frame} {depth : Nat}
    (refused : (control.resume frame token depth).next = .error expected) :
    (control.resume frame token depth).operations = (control.settle frame depth).1 := by
  cases depth with
  | zero =>
    show _ ++ (control.finish.stepStatement token).operations = _
    rw [statementRefused refused, List.append_nil]
  | succ depth => exact closingRefused refused

theorem refusedLate (refused : (control.step token).next = .error expected) :
    (control.step token).operations = control.late := by
  cases here : control.phase with
  | inputParens frame depth =>
    simp only [Control.step, Control.late, here] at refused ⊢
    split at refused
    · cases refused
    · rename_i other
      rw [if_neg other]
      exact congrArg (.inputCall :: ·) (resumeRefused refused)
  | start | equals | inputClose =>
    rw [lateElsewhere (by simp [here])]
    simp only [Control.step, here] at refused ⊢
    exact lexemeRefused rfl refused
  | statement =>
    rw [lateElsewhere (by simp [here])]
    simp only [Control.step, here] at refused ⊢
    exact statementRefused refused
  | expression frame depth =>
    rw [lateElsewhere (by simp [here])]
    simp only [Control.step, here] at refused ⊢
    exact expressionRefused refused
  | closing frame depth =>
    rw [lateElsewhere (by simp [here])]
    simp only [Control.step, here] at refused ⊢
    exact closingRefused refused
  | typeName | declaredName =>
    rw [lateElsewhere (by simp [here])]
    simp only [Control.step, here] at refused ⊢
    split at refused
    · cases refused
    · rfl
  | finished =>
    rw [lateElsewhere (by simp [here])]
    simp only [Control.step, here]
    rfl

end

theorem closeFirst {control next : Control} {frame : Frame} {depth : Nat} {rest : List Token}
    (ok : (run none rest (control.turn (.inputClose frame depth))).ending = .ok next)
    (finished : next.phase = .finished) :
    .inputCall :: (control.settle frame depth).1 <+:
      (run none rest (control.turn (.inputClose frame depth))).operations := by
  cases rest with
  | nil =>
    cases ok
    cases finished
  | cons token rest =>
    obtain ⟨operations, middle, moved, _⟩ := runTaken ok
    have closed : token.lexeme = .symbol .closeParen := by
      have takes := stepTakes moved
      generalize middle.phase = phase at takes
      cases takes
      rfl
    have settled : (control.turn (.inputClose frame depth)).step token =
        (control.turn (.inputClose frame depth)).settled frame depth [.inputCall] := if_pos closed
    rw [runMoved settled, settleTurn]
    exact List.prefix_append _ _

theorem lateFirst {control next : Control} {rest : List Token}
    (ok : (run none rest control).ending = .ok next) (finished : next.phase = .finished) :
    control.late <+: (run none rest control).operations := by
  cases here : control.phase with
  | inputParens frame depth =>
    simp only [Control.late, here]
    cases rest with
    | nil =>
      cases ok
      rw [here] at finished
      cases finished
    | cons token rest =>
      by_cases opens : token.lexeme = .symbol .openParen
      · have opened : control.step token = control.go (.inputClose frame depth) := by
          simp only [Control.step, here, if_pos opens]
        rw [runMoved opened, Course.afterNil] at ok ⊢
        exact closeFirst ok finished
      · rw [runResumed opens here]
        exact List.prefix_append (_ :: _) _
  | _ =>
    rw [lateElsewhere (by simp [here])]
    exact List.nil_prefix

def Control.due (control : Control) : CompileError → List Operation
  | .grammar _ => control.late
  | .lex _ | .io _ => []

def written (options : Options) (tokens : List Token) (control : Control) (error : CompileError) : String :=
  textOf options.annotate
    (headerOperations options.header ++ (run none tokens {}).operations ++ control.due error)

theorem dueRelocate (place : Position → Position) (control : Control) (error : CompileError) :
    (control.relocate place).due error = (control.due error).map (Operation.relocate place) := by
  cases error with
  | grammar violation => exact lateRelocate place control
  | lex | io => rfl

theorem takenAlike {first second : List Token} {control : Control}
    (alike : first.map Token.lexeme = second.map Token.lexeme)
    (ok : (run none first {}).ending = .ok control) :
    ∃ other, (run none second {}).ending = .ok other ∧
      ∀ options error, written options second other error = written options first control error := by
  have operations := congrArg Course.operations (runAlike none alike)
  have ending := congrArg Course.ending (runAlike none alike)
  simp only [Course.relocate, ok] at operations ending
  cases h : (run none second {}).ending with
  | error stop =>
    rw [h] at ending
    cases ending
  | ok other =>
    rw [h] at ending
    have same : control.relocate (fun _ => {}) = other.relocate fun _ => {} := Except.ok.inj ending
    refine ⟨other, rfl, fun options error => ?_⟩
    have due : textOf options.annotate (other.due error) = textOf options.annotate (control.due error) := by
      rw [← textOfRelocate (fun _ => {}), ← dueRelocate, ← same, dueRelocate, textOfRelocate]
    have taken : textOf options.annotate (run none second {}).operations =
        textOf options.annotate (run none first {}).operations := by
      rw [← textOfRelocate (fun _ => {}), ← operations, textOfRelocate]
    simp only [written, textOfAppend, due, taken]

theorem dueFirst {control next : Control} {rest : List Token} (error : CompileError)
    (ok : (run none rest control).ending = .ok next) (finished : next.phase = .finished) :
    control.due error <+: (run none rest control).operations := by
  cases error with
  | grammar violation => exact lateFirst ok finished
  | lex | io => exact List.nil_prefix

theorem followedTake {rest : List Token} (followed : Followed rest) (count : Nat) :
    Followed (rest.take (count + 1)) := by
  obtain ⟨token, more, rfl, noOpen⟩ := followed
  exact ⟨token, more.take count, rfl, noOpen⟩

theorem textOfPrefix (annotate : Bool) {first second : List Operation} (starts : first <+: second) :
    (textOf annotate first).toList <+: (textOf annotate second).toList := by
  obtain ⟨rest, rfl⟩ := starts
  rw [textOfAppend, String.toList_append]
  exact List.prefix_append _ _

theorem writtenStarts {file : Grammar.File} {first rest : List Token} {control : Control}
    (split : file.tokens = first ++ rest) (ok : (run none first {}).ending = .ok control)
    (options : Options) (error : CompileError) :
    (written options first control error).toList <+: (Program.output options file.program).toList := by
  have whole := runFile file
  rw [split, runThrough none rest ok] at whole
  have operations := congrArg Course.operations whole
  have ending := congrArg Course.ending whole
  simp only [Course.afterOperations, Course.afterEnding] at operations ending
  rw [← outputText, ← operations, written, List.append_assoc]
  apply textOfPrefix
  apply (List.prefix_append_right_inj _).mpr
  exact (List.prefix_append_right_inj _).mpr (dueFirst error ending rfl)

theorem beginningSplit {file : Grammar.File} {first rest : List Token} {done later : List Grammar.Statement}
    (split : file.tokens = first ++ rest) (statements : file.statements = done ++ later)
    (inside : 1 + (done.flatMap Grammar.Statement.tokens).length < first.length) :
    ∃ more, Followed more ∧
      first = ⟨.streamStart, file.startPos⟩ :: (done.flatMap Grammar.Statement.tokens ++ more) := by
  have followed : Followed (Grammar.body later file.endPos) :=
    followedStatements later (followedEnd file.endPos)
  obtain ⟨count, length⟩ : ∃ count,
      first.length = (done.flatMap Grammar.Statement.tokens).length + (count + 1) + 1 :=
    ⟨first.length - (done.flatMap Grammar.Statement.tokens).length - 2, by omega⟩
  refine ⟨_, followedTake followed count, ?_⟩
  have cut : file.tokens.take first.length = first := by rw [split, List.take_left]
  rw [← cut, length, Grammar.fileTokens, List.take_succ_cons, Grammar.body, statements,
    List.flatMap_append, List.append_assoc, List.take_length_add_append]
  rfl

theorem writtenLines {file : Grammar.File} {first rest : List Token} {done later : List Grammar.Statement}
    (split : file.tokens = first ++ rest) (statements : file.statements = done ++ later)
    (inside : 1 + (done.flatMap Grammar.Statement.tokens).length < first.length)
    (options : Options) (control : Control) (error : CompileError) :
    ∃ more, written options first control error =
      Program.output options (done.map Grammar.Statement.abstract) ++ more := by
  obtain ⟨more, followed, rfl⟩ := beginningSplit split statements inside
  rw [written, runOpened, runStatements done rfl followed, Course.afterOperations, ← List.append_assoc,
    List.append_assoc, textOfAppend, outputText]
  exact ⟨_, rfl⟩

end Pass

namespace Program

theorem outputAppend (options : Options) (first second : Program) :
    output options (first ++ second) =
      output options first ++ (render options.annotate (scopeAfter [] first) second).text := by
  simp only [output, renderAppend, String.append_assoc]

theorem outputConcat (options : Options) (program : Program) (statement : Statement) :
    output options (program ++ [statement]) =
      output options program ++ statement.line options.annotate (scopeAfter [] program) ++ "\n" := by
  simp [outputAppend, render, String.append_assoc]

end Program

namespace Grammar

theorem exprWritten (value : Expr) : value.tokens.all Scanner.isWritten = true := by
  induction value with
  | input call => cases call <;> rfl
  | group openPos inner closePos ih =>
    simp only [Expr.tokens, List.cons_append, List.all_cons, List.all_append, ih]
    rfl
  | name | number => rfl

theorem statementWritten (statement : Statement) : statement.tokens.all Scanner.isWritten = true := by
  cases statement with
  | print pos value => exact exprWritten value
  | input call => exact exprWritten (.input call)
  | declaration | declared => rfl
  | assignment name namePos equalsPos value => exact exprWritten value

end Grammar

/- What stands before the place where a compilation fails: the tokens before the one that was refused, or
all before the character that starts none. -/
inductive Preceding (delivery : Delivery) : CompileError → List Token → Prop where
  | lex {error : LexError} (cut : delivery.fault = some error) :
      Preceding delivery (.lex error) delivery.tokens
  | grammar {violation : Violation} {before after : List Token}
      (split : delivery.tokens = before ++ violation.found :: after) :
      Preceding delivery (.grammar violation) before

theorem precedingUnique {delivery : Delivery} {error : CompileError} {first second : List Token}
    (distinct : delivery.tokens.Nodup) (one : Preceding delivery error first)
    (other : Preceding delivery error second) : first = second := by
  cases one with
  | lex cut =>
    cases other
    rfl
  | grammar split =>
    cases other with
    | grammar split' =>
      rw [split, List.nodup_append, List.nodup_cons] at distinct
      obtain ⟨_, ⟨notAfter, _⟩, apart⟩ := distinct
      have notBefore := fun member => apart _ member _ List.mem_cons_self rfl
      exact ((List.append_cons_inj_of_notMem notBefore notAfter).mp (split.symm.trans split')).1

theorem precedingPrefix {delivery : Delivery} {error : CompileError} {before : List Token}
    (preceding : Preceding delivery error before) : before <+: delivery.tokens := by
  cases preceding with
  | lex cut => exact List.prefix_rfl
  | grammar split => exact ⟨_, split.symm⟩

structure Completes (rule : WordRule) (before : List Token) (source : String) (file : Grammar.File) :
    Prop where
  read : (Scanner.tokens.runFrom (.ofSource rule source)).1 = .ok file.tokens
  starts : before.map Token.lexeme <+: file.tokens.map Token.lexeme

theorem fillersSpellable (rule : WordRule) : ∀ lexeme ∈ Pass.fillers, lexeme.Spellable rule := by
  have word : (Lexeme.name "x").Spellable rule := by
    refine ⟨⟨'x', [], rfl, by decide, nofun⟩, ?_⟩
    cases rule <;> decide
  simpa [Pass.fillers, Lexeme.Spellable] using word

theorem completionExists {rule : WordRule} {before : List Token} {control : Pass.Control}
    (ok : (Pass.run none before {}).ending = .ok control)
    (spellable : ∀ token ∈ before, Scanner.isWritten token = true → token.lexeme.Spellable rule) :
    ∃ source file, Completes rule before source file := by
  obtain ⟨file, begins, filled⟩ := Pass.reachedCompletes (Pass.runReached ok .start)
  have all : ∀ lexeme ∈ (file.statements.flatMap Grammar.Statement.tokens).map Token.lexeme,
      lexeme.Spellable rule := by
    intro lexeme member
    obtain ⟨token, inside, rfl⟩ := List.mem_map.mp member
    rcases filled token inside with read | filler
    · obtain ⟨statement, _, here⟩ := List.mem_flatMap.mp inside
      exact spellable token read (List.all_eq_true.mp (Grammar.statementWritten statement) token here)
    · exact fillersSpellable rule _ filler
  obtain ⟨tokens, read, same⟩ := Scanner.spelledTokens all
  have alike : file.tokens.map Token.lexeme = tokens.map Token.lexeme := by
    rw [same, Grammar.File.tokens, List.map_append]
    rfl
  -- The tokens stand elsewhere than those of the file; they are a sentence because they are taken as well.
  obtain ⟨other, taken, _⟩ := Pass.takenAlike alike (congrArg Pass.Course.ending (Pass.runFile file))
  obtain ⟨most, ends, rfl, _, one⟩ := List.map_eq_append_iff.mp same
  obtain ⟨last, rfl, isEnd⟩ := List.map_eq_singleton_iff.mp one
  obtain ⟨whole, sentence⟩ := (Pass.takenIffSentence isEnd).mp ⟨other, taken⟩
  refine ⟨_, whole, by rwa [sentence], ?_⟩
  rw [sentence, ← alike]
  exact begins.map _

theorem courseStops {delivery : Delivery} {context lines : Nat} {error : CompileError}
    (stopped : (Pass.run delivery.fault delivery.tokens {}).verdict context lines = .error error) :
    ∃ before control, Preceding delivery error before ∧
      (Pass.run none before {}).ending = .ok control ∧
      (Pass.run delivery.fault delivery.tokens {}).operations =
        (Pass.run none before {}).operations ++ control.due error := by
  obtain ⟨tokens, fault⟩ := delivery
  rcases Pass.runSplit tokens {} with
    ⟨next, taken⟩ | ⟨before, found, after, middle, expected, rfl, taken, refused⟩
  · have whole := Pass.runThrough fault [] taken
    rw [List.append_nil] at whole
    simp only at stopped ⊢
    rw [whole] at stopped ⊢
    cases fault with
    | none => cases stopped
    | some cause =>
      cases stopped
      exact ⟨tokens, next, .lex rfl, taken, rfl⟩
  · have whole := Pass.runThrough fault (found :: after) taken
    simp only at stopped ⊢
    rw [whole, Pass.run, refused] at stopped ⊢
    cases stopped
    refine ⟨before, middle, .grammar rfl, taken, ?_⟩
    rw [Pass.Course.afterOperations, Pass.refusedLate refused]
    rfl

theorem failedStops {options : Options} {source : String} {error : CompileError} {sink : Sink}
    (failed : compile options source .unlimited = (.error error, sink)) :
    ∃ before control, Preceding (Scanner.ofSource options.rule source).delivery error before ∧
      (Pass.run none before {}).ending = .ok control ∧
      sink.bytes = (Pass.written options before control error).toUTF8 := by
  have unlimited : compile options source .unlimited = _ := compileUnfailing options source .empty
  rw [unlimited, ByteArray.empty_append] at failed
  obtain ⟨verdict, rfl⟩ := Prod.mk.inj failed
  obtain ⟨before, control, preceding, taken, operations⟩ := courseStops verdict
  refine ⟨before, control, preceding, taken, ?_⟩
  rw [Pass.course, Pass.Course.afterOperations, operations, Pass.written, List.append_assoc]

section
variable {options : Options} {before : List Token} {control : Pass.Control}
  (taken : (Pass.run none before {}).ending = .ok control)
include taken

theorem completedWrites {source : String} {file : Grammar.File} (error : CompileError)
    (completes : Completes options.rule before source file) :
    (Pass.written options before control error).toList <+: (Program.output options file.program).toList ∧
      ∀ done later, file.statements = done ++ later →
        1 + (done.flatMap Grammar.Statement.tokens).length < before.length →
        ∃ rest, Pass.written options before control error =
          Program.output options (done.map Grammar.Statement.abstract) ++ rest := by
  obtain ⟨others, starts⟩ := completes.starts
  obtain ⟨first, rest, split, alike, _⟩ := List.map_eq_append_iff.mp starts.symm
  obtain ⟨other, ok, same⟩ := Pass.takenAlike alike.symm taken
  have length : first.length = before.length := by simpa using congrArg List.length alike
  rw [← same, ← length]
  refine ⟨Pass.writtenStarts split ok options error, ?_⟩
  intro done later statements inside
  exact Pass.writtenLines split statements inside options other error

theorem writtenAlike {before' : List Token} {control' : Pass.Control} {error error' : CompileError}
    {delivery delivery' : Delivery} (taken' : (Pass.run none before' {}).ending = .ok control')
    (alike : before'.map Token.lexeme = before.map Token.lexeme) (preceding : Preceding delivery error before)
    (preceding' : Preceding delivery' error' before')
    (way : (∃ cause, error' = .lex cause) ↔ ∃ cause, error = .lex cause) :
    Pass.written options before' control' error' = Pass.written options before control error := by
  obtain ⟨other, ok, same⟩ := Pass.takenAlike alike.symm taken
  obtain rfl : other = control' := Except.ok.inj (ok.symm.trans taken')
  rw [← same]
  cases preceding with
  | lex cut =>
    obtain ⟨cause, rfl⟩ := way.mpr ⟨_, rfl⟩
    rfl
  | grammar split =>
    cases preceding' with
    | lex cut => exact absurd (way.mp ⟨_, rfl⟩) nofun
    | grammar split => rfl

end

theorem partialOutput {options : Options} {source : String} {error : CompileError} {sink : Sink}
    (failed : compile options source .unlimited = (.error error, sink)) :
    let delivery := (Scanner.ofSource options.rule source).delivery
    ∃ text, sink.bytes = text.toUTF8 ∧ (∃ before, Preceding delivery error before) ∧
      ∀ before, Preceding delivery error before →
        (∃ completion file, Completes options.rule before completion file) ∧
        (∀ completion file, Completes options.rule before completion file →
          (∃ summary,
            compileText options completion = .ok (Program.output options file.program, summary)) ∧
          text.toList <+: (Program.output options file.program).toList ∧
          ∀ leading statement later, file.statements = leading ++ statement :: later →
            1 + ((leading ++ [statement]).flatMap Grammar.Statement.tokens).length < before.length →
            let earlier := leading.map Grammar.Statement.abstract
            ∃ rest, text = Program.output options earlier ++
              statement.abstract.line options.annotate (Program.scopeAfter [] earlier) ++ "\n" ++ rest) ∧
        ∀ other error' sink' before',
          compile options other .unlimited = (.error error', sink') →
          Preceding (Scanner.ofSource options.rule other).delivery error' before' →
          before'.map Token.lexeme = before.map Token.lexeme →
          ((∃ cause, error' = .lex cause) ↔ ∃ cause, error = .lex cause) →
          sink'.bytes = sink.bytes := by
  intro delivery
  have distinct (source : String) : (Scanner.ofSource options.rule source).delivery.tokens.Nodup :=
    Scanner.readsNodup (Scanner.deliveryReads _)
  obtain ⟨before, control, preceding, taken, bytes⟩ := failedStops failed
  refine ⟨_, bytes, ⟨before, preceding⟩, ?_⟩
  intro given precedes
  obtain rfl := precedingUnique (distinct source) preceding precedes
  refine ⟨?_, ?_, ?_⟩
  · apply completionExists taken
    intro token member
    exact Scanner.readsSpellable (Scanner.deliveryReads _) token ((precedingPrefix preceding).subset member)
  · intro completion file completes
    obtain ⟨starts, lines⟩ := completedWrites taken error completes
    refine ⟨compileTextFile options completes.read, starts, ?_⟩
    intro leading statement later statements inside earlier
    have split : file.statements = (leading ++ [statement]) ++ later := by simp [statements]
    obtain ⟨rest, same⟩ := lines _ _ split inside
    rw [List.map_append, List.map_singleton, Program.outputConcat] at same
    exact ⟨rest, same⟩
  · intro other error' sink' before' failed' precedes' alike way
    obtain ⟨found, control', preceding', taken', bytes'⟩ := failedStops failed'
    obtain rfl := precedingUnique (distinct other) preceding' precedes'
    rw [bytes, bytes', writtenAlike taken taken' alike preceding preceding' way]

def brokenSource : String := "int x print x y = input 5"

def misplaced : Violation where
  expected := .rule "a statement"
  found := ⟨.number (.int "5"), ⟨1, 25⟩⟩
  context := [⟨.streamEnd, ⟨1, 26⟩⟩]

def Grammar.mendedFile : Grammar.File where
  startPos := {}
  statements :=
    [.declaration .int ⟨1, 1⟩ "x" ⟨1, 5⟩,
      .print ⟨1, 7⟩ (.name "x" ⟨1, 13⟩),
      .assignment "y" ⟨1, 15⟩ ⟨1, 17⟩ (.input (.call ⟨1, 19⟩ ⟨1, 24⟩ ⟨1, 25⟩))]
  endPos := ⟨1, 26⟩

theorem mendedRead : (Scanner.tokens.runFrom (.ofSource .whole "int x print x y = input()")).1 =
    .ok Grammar.mendedFile.tokens :=
  (Scanner.tokensOkIff _ _).mpr (by decide +kernel)

theorem failedInto {result : Except CompileError Summary × Sink} {error : CompileError}
    (failed : result.1 = .error error) : result = (.error error, result.2) := by
  obtain ⟨outcome, sink⟩ := result
  cases failed
  rfl

/- The number shows that the call before it is complete, so that the line of the call is written. The number
itself leaves no trace. -/
theorem partialOutputSample :
    ∃ error sink text, compile {} brokenSource .unlimited = (.error error, sink) ∧
      sink.bytes = text.toUTF8 ∧
      text.toList <+: (Program.output {} Grammar.mendedFile.program).toList ∧
      ∃ rest, text = Program.output {} [.declaration .int "x" ⟨1, 5⟩] ++ "print(x)" ++ "\n" ++ rest := by
  have split : (Scanner.ofSource .whole brokenSource).delivery.tokens =
    Grammar.mendedFile.tokens.take 8 ++ misplaced.found :: misplaced.context := by decide +kernel
  have error : (compile {} brokenSource .unlimited).1 = .error (.grammar misplaced) :=
    failedWith (by decide +kernel)
  obtain ⟨text, bytes, _, all⟩ := partialOutput (failedInto error)
  obtain ⟨_, completed, _⟩ := all _ (.grammar split)
  obtain ⟨_, starts, lines⟩ := completed _ _ ⟨mendedRead, (List.take_prefix 8 _).map _⟩
  obtain ⟨rest, same⟩ := lines [_] _ [_] rfl (by decide)
  exact ⟨_, _, text, failedInto error, bytes, starts, rest, same⟩

end Linewise
