import Linewise.Proofs.Completion

/-! A source that goes on after a newline. The newline cuts: every token of the source is read again, at the
same place, before whatever follows. So the statements of the source come first in the longer one, and with
them its remarks and its output. Only a call of `input` at the very end can still turn out otherwise, since
what follows may be its parentheses. -/
namespace Linewise

namespace Lexeme

/- A run of blanks is the one lexeme that the newline can make longer, and only where it ends the text. -/
theorem ofTextStop {rule : WordRule} {text : List Char} {lexeme : Lexeme} {count : Nat}
    (found : ofText? rule text = some (lexeme, count))
    (inside : lexeme.kind = .blank → count < text.length) (more : List Char) :
    ofText? rule (text ++ '\n' :: more) = some (lexeme, count) := by
  cases run : text.takeWhile isBlank with
  | nil =>
    have covered := beginsLength (ofTextBegins found)
    have some : text ≠ [] := List.length_pos_iff.mp (by omega)
    rw [solidAppend rule some run rfl, found]
  | cons c rest =>
    have blank : blank? text = some (.blank (String.ofList (c :: rest)), (c :: rest).length) := by
      simp only [blank?, run]
    simp only [ofText?, blank] at found
    cases Option.some.inj found
    have short : (text.takeWhile isBlank).length ≠ text.length := by
      rw [run]
      exact Nat.ne_of_lt (inside rfl)
    have same : (text ++ '\n' :: more).takeWhile isBlank = c :: rest := by
      rw [List.takeWhile_append, if_neg short, run]
    simp only [ofText?, blank?, same]
    rfl

end Lexeme

namespace Scanner

def extend (scanner : Scanner) (more : List Char) : Scanner :=
  { scanner with rest := scanner.rest ++ '\n' :: more }

theorem sourceExtend (rule : WordRule) (source more : String) :
    ofSource rule (source ++ "\n" ++ more) = (ofSource rule source).extend more.toList := by
  simp [ofSource, extend]

theorem skipExtend {scanner : Scanner} {count : Nat} (within : count ≤ scanner.rest.length)
    (more : List Char) : (scanner.extend more).skip count = (scanner.skip count).extend more := by
  simp [skip, extend, List.drop_append_of_le_length within, List.take_append_of_le_length within]

theorem scanExtend {scanner : Scanner} {token : Token} {after : Scanner}
    (ok : scan.runFrom scanner = (.ok token, after)) (goesOn : token.isStreamEnd = false)
    (inside : token.kind = .blank → after.rest ≠ []) (more : List Char) :
    scan.runFrom (scanner.extend more) = (.ok token, after.extend more) := by
  cases started : scanner.started with
  | false =>
    simp only [scanRun, step, started, Bool.false_eq_true, if_false] at ok
    cases ok
    simp [scanRun, step, extend, started]
  | true =>
    obtain ⟨lexeme, count, found, rfl, rfl⟩ := scanFound ok started goesOn
    have within := (Lexeme.beginsLength (Lexeme.ofTextBegins found)).2
    have behind : lexeme.kind = .blank → count < scanner.rest.length := fun blank => by
      have some : scanner.rest.drop count ≠ [] := inside blank
      rw [Ne, List.drop_eq_nil_iff] at some
      omega
    rw [← skipExtend within]
    exact @scanLexeme (scanner.extend more) _ _ started (Lexeme.ofTextStop found behind more)

theorem nextExtend {scanner : Scanner} {token : Token} {after : Scanner}
    (ok : next.runFrom scanner = (.ok token, after)) (goesOn : token.isStreamEnd = false)
    (more : List Char) : next.runFrom (scanner.extend more) = (.ok token, after.extend more) := by
  rw [nextRun] at ok
  cases first : scan.runFrom scanner with
  | mk outcome middle =>
    rw [first] at ok
    cases outcome with
    | error error => cases ok
    | ok found =>
      by_cases blank : found.kind = .blank
      · simp only [if_pos blank] at ok
        have inside : middle.rest ≠ [] := fun empty => by
          rw [scanEnd (scansStarted (scanOk first)) empty] at ok
          cases ok
          cases goesOn
        have noEnd : found.isStreamEnd = false := by simp [Token.isStreamEnd, blank]
        rw [nextPastBlank (scanExtend first noEnd (fun _ => inside) more) blank]
        obtain ⟨_, blanks, count, rfl, begins⟩ := scansBlank (scanOk first) blank
        have solid := afterBlank begins (scanOk ok)
        exact nextHere (scanExtend ok goesOn (absurd · solid) more) solid
      · simp only [if_neg blank] at ok
        cases ok
        exact nextHere (scanExtend first goesOn (absurd · blank) more) blank

theorem readsExtend {scanner : Scanner} {tokens : List Token} {fault : Option LexError}
    (reads : Reads next scanner tokens fault) (whole : fault = none) (more : List Char) :
    ∃ most last later fault', tokens = most ++ [last] ∧ last.isStreamEnd = true ∧
      Reads next (scanner.extend more) (most ++ later) fault' := by
  induction reads with
  | fault failed => cases whole
  | @last scanner after token found ends =>
    exact ⟨[], token, _, _, rfl, ends, deliveryReads (scanner.extend more)⟩
  | @more scanner after token tokens fault found goesOn rest ih =>
    obtain ⟨most, last, later, fault', rfl, ends, reads⟩ := ih whole
    exact ⟨token :: most, last, later, fault', rfl, ends, .more (nextExtend found goesOn more) goesOn reads⟩

end Scanner

namespace Grammar

/- What follows an expression can at most give it the parentheses of a call, which do not show in its
operand. -/
theorem exprOperand {a b : Expr} {rest rest' : List Token} (same : a.tokens ++ rest = b.tokens ++ rest') :
    a.operand = b.operand := by
  induction a generalizing b rest rest' with
  | input call =>
    cases b with
    | input call' => rfl
    | group | name | number => cases call <;> simp [Expr.tokens, Input.tokens] at same
  | group openPos inner closePos ih =>
    cases b with
    | group openPos' inner' closePos' =>
      simp only [Expr.tokens, List.cons_append, List.append_assoc, List.cons.injEq] at same
      have inside : inner.operand = inner'.operand := ih same.2
      exact inside
    | input call => cases call <;> simp [Expr.tokens, Input.tokens] at same
    | name | number => simp [Expr.tokens] at same
  | name text pos =>
    cases b with
    | name =>
      simp only [Expr.tokens, List.cons_append, List.cons.injEq, Token.mk.injEq, Lexeme.name.injEq] at same
      simp [Expr.operand, same]
    | input call => cases call <;> simp [Expr.tokens, Input.tokens] at same
    | group | number => simp [Expr.tokens] at same
  | number value pos =>
    cases b with
    | number =>
      simp only [Expr.tokens, List.cons_append, List.cons.injEq, Token.mk.injEq, Lexeme.number.injEq] at same
      simp [Expr.operand, same]
    | input call => cases call <;> simp [Expr.tokens, Input.tokens] at same
    | group | name => simp [Expr.tokens] at same

theorem statementAbstract {a b : Statement} {rest rest' : List Token}
    (same : a.tokens ++ rest = b.tokens ++ rest') : a.abstract = b.abstract := by
  cases a with
  | print pos value =>
    cases b with
    | print =>
      simp only [Statement.tokens, List.cons_append, List.cons.injEq] at same
      simp [Statement.abstract, exprOperand same.2]
    | input call => cases call <;> simp [Statement.tokens, Input.tokens] at same
    | declaration | declared | assignment => simp [Statement.tokens] at same
  | input call =>
    cases b with
    | input call' => rfl
    | print | declaration | declared | assignment =>
      cases call <;> simp [Statement.tokens, Input.tokens] at same
  | declaration type typePos name namePos =>
    cases b with
    | declaration =>
      simp only [Statement.tokens, List.cons_append, List.cons.injEq, Token.mk.injEq,
        Lexeme.typeName.injEq, Lexeme.name.injEq] at same
      simp [Statement.abstract, same]
    | input call => cases call <;> simp [Statement.tokens, Input.tokens] at same
    | print | declared | assignment => simp [Statement.tokens] at same
  | declared wordPos type typePos name namePos =>
    cases b with
    | declared =>
      simp only [Statement.tokens, List.cons_append, List.cons.injEq, Token.mk.injEq,
        Lexeme.typeName.injEq, Lexeme.name.injEq] at same
      simp [Statement.abstract, same]
    | input call => cases call <;> simp [Statement.tokens, Input.tokens] at same
    | print | declaration | assignment => simp [Statement.tokens] at same
  | assignment name namePos equalsPos value =>
    cases b with
    | assignment =>
      simp only [Statement.tokens, List.cons_append, List.cons.injEq, Token.mk.injEq,
        Lexeme.name.injEq] at same
      simp [Statement.abstract, same.1, exprOperand same.2.2]
    | input call => cases call <;> simp [Statement.tokens, Input.tokens] at same
    | print | declaration | declared => simp [Statement.tokens] at same

theorem programStarts {a b : List Statement} {rest : List Token} {endPos : Position}
    (same : a.flatMap Statement.tokens ++ rest = body b endPos) :
    a.map Statement.abstract <+: b.map Statement.abstract := by
  induction a generalizing b with
  | nil => exact List.nil_prefix
  | cons statement later ih =>
    rw [List.flatMap_cons, List.append_assoc] at same
    cases b with
    | nil =>
      obtain ⟨token, more, head, _, noEnd⟩ := statementHead statement
      rw [head] at same
      have first := (List.cons.inj same).1
      exact absurd (congrArg Token.lexeme first) noEnd
    | cons statement' later' =>
      rw [bodyCons] at same
      cases later with
      | nil =>
        rw [List.map_singleton, List.map_cons, statementAbstract same]
        exact List.prefix_append [_] _
      | cons second others =>
        have noOpen : NoOpen ((second :: others).flatMap Statement.tokens ++ rest) := by
          obtain ⟨token, more, head, noOpen, _⟩ := statementHead second
          rw [List.flatMap_cons, head]
          exact noOpenCons noOpen
        obtain ⟨rfl, behind⟩ := statementUnique noOpen (bodyNoOpen _ _) same
        exact (List.prefix_cons_inj _).mpr (ih behind)

end Grammar

namespace Pass

section
variable {most : List Token} {control : Control}

theorem waitsAfterInput {frame : Frame} {depth : Nat} (ok : (run none most {}).ending = .ok control)
    (waits : control.phase = .inputParens frame depth) :
    most.getLast?.map Token.lexeme = some (.keyword .input) := by
  have reached := runReached ok .start
  rw [waits, List.nil_append] at reached
  cases reached with
  | within startPos statements part =>
    cases part with
    | inputParens hole pos =>
      rw [← List.append_assoc, List.getLast?_concat]
      rfl

theorem endLate {last : Token} {next : Control} (ends : last.lexeme = .streamEnd)
    (ok : (run none [last] control).ending = .ok next)
    (elsewhere : ∀ frame depth, control.phase ≠ .inputParens frame depth) :
    (run none [last] control).operations = [] := by
  obtain ⟨operations, middle, moved, _⟩ := runTaken ok
  have takes := stepTakes moved
  cases here : control.phase with
  | statement =>
    have ended : control.step last = control.go .finished := by
      simp only [stepBetween here, Control.stepStatement, ends]
    rw [runMoved ended]
    rfl
  | inputParens frame depth => exact absurd here (elsewhere frame depth)
  | _ =>
    generalize middle.phase = phase at takes
    rw [here] at takes
    cases takes <;> cases ends

theorem bodyWritten {file : Grammar.File} {last : Token} (split : file.tokens = most ++ [last])
    (ends : last.lexeme = .streamEnd) (other : most.getLast?.map Token.lexeme ≠ some (.keyword .input)) :
    ∃ control, (run none most {}).ending = .ok control ∧
      (run none most {}).operations = (executeAll opened file.program).1 := by
  obtain ⟨control, ok⟩ := viableTaken ⟨[last], file, split⟩
  have whole := runFile file
  rw [split, runThrough none [last] ok] at whole
  have operations := congrArg Course.operations whole
  have ending := congrArg Course.ending whole
  rw [Course.afterOperations, endLate ends ending fun _ _ waits => other (waitsAfterInput ok waits),
    List.append_nil] at operations
  exact ⟨control, ok, operations⟩

end

end Pass

def lastLexeme? (rule : WordRule) (source : String) : Option Lexeme :=
  match (Scanner.tokens.runFrom (.ofSource rule source)).1 with
  | .ok tokens => tokens.dropLast.getLast?.map Token.lexeme
  | .error _ => none

theorem deliveryExtend {rule : WordRule} {source : String} {tokens : List Token}
    (read : (Scanner.tokens.runFrom (.ofSource rule source)).1 = .ok tokens) (more : String) :
    ∃ most last later, tokens = most ++ [last] ∧ last.lexeme = .streamEnd ∧
      (Scanner.ofSource rule (source ++ "\n" ++ more)).delivery.tokens = most ++ later := by
  obtain ⟨whole, rfl⟩ := (Scanner.tokensOkIff _ _).mp read
  obtain ⟨most, last, later, fault, split, ends, reads⟩ :=
    Scanner.readsExtend (Scanner.deliveryReads (.ofSource rule source)) whole more.toList
  rw [← Scanner.sourceExtend] at reads
  exact ⟨most, last, later, split, streamEndLexeme ends, (readsUnique (Scanner.deliveryReads _) reads).1⟩

theorem writtenFirst {options : Options} {source : String} {file : Grammar.File} (more : String)
    (read : (Scanner.tokens.runFrom (.ofSource options.rule source)).1 = .ok file.tokens)
    (other : lastLexeme? options.rule source ≠ some (.keyword .input)) :
    ∃ added, (compile options (source ++ "\n" ++ more) .unlimited).2.bytes =
      (Program.output options file.program ++ added).toUTF8 := by
  obtain ⟨most, last, later, split, ends, tokens⟩ := deliveryExtend read more
  simp only [lastLexeme?, read, split, List.dropLast_concat] at other
  obtain ⟨control, ok, operations⟩ := Pass.bodyWritten split ends other
  have unlimited : compile options (source ++ "\n" ++ more) .unlimited = _ :=
    compileUnfailing options _ .empty
  rw [unlimited, ByteArray.empty_append, Pass.course, tokens, Pass.runThrough _ later ok, operations,
    Pass.Course.afterAfter, Pass.Course.afterOperations, Target.textOfAppend, outputText]
  exact ⟨_, rfl⟩

theorem programContinues {rule : WordRule} {source more : String} {file file' : Grammar.File}
    (read : (Scanner.tokens.runFrom (.ofSource rule source)).1 = .ok file.tokens)
    (read' : (Scanner.tokens.runFrom (.ofSource rule (source ++ "\n" ++ more))).1 = .ok file'.tokens) :
    file.program <+: file'.program := by
  obtain ⟨most, last, later, split, ends, tokens⟩ := deliveryExtend read more
  rw [((Scanner.tokensOkIff _ _).mp read').2, Grammar.fileTokens] at tokens
  rw [Grammar.File.tokens] at split
  obtain ⟨rfl, -⟩ := List.append_inj' split rfl
  exact Grammar.programStarts (List.cons.inj tokens).2.symm

theorem compiledContinues {options : Options} {source more : String} {file : Grammar.File} {summary : Summary}
    (read : (Scanner.tokens.runFrom (.ofSource options.rule source)).1 = .ok file.tokens)
    (ok : (compile options (source ++ "\n" ++ more) .unlimited).1 = .ok summary) :
    (∃ added, (compile options (source ++ "\n" ++ more) .unlimited).2.bytes =
      (Program.output options file.program ++ added).toUTF8) ∧
    (Program.render options.annotate [] file.program).diagnostics <+: summary.diagnostics ∧
    file.program.length ≤ summary.statements := by
  obtain ⟨longer, read'⟩ := (compiledIff options _ .empty).mp ⟨summary, ok⟩
  have compiled : compile options (source ++ "\n" ++ more) .unlimited = _ := compiledFile .empty read'
  obtain ⟨later, same⟩ := programContinues read read'
  rw [compiled, ← same] at ok ⊢
  cases ok
  refine ⟨?_, ?_, ?_⟩
  · rw [ByteArray.empty_append, Program.outputAppend]
    exact ⟨_, rfl⟩
  · rw [Program.renderAppend]
    exact List.prefix_append _ _
  · rw [List.length_append]
    exact Nat.le_add_right _ _

theorem outputContinues {options : Options} {source : String} {summary : Summary} (more : String)
    (ok : (compile options source .unlimited).1 = .ok summary) :
    let whole := compile options (source ++ "\n" ++ more) .unlimited
    (lastLexeme? options.rule source ≠ some (.keyword .input) ∨ (∃ summary', whole.1 = .ok summary') →
      ∃ text added : String, (compile options source .unlimited).2.bytes = text.toUTF8 ∧
        whole.2.bytes = (text ++ added).toUTF8) ∧
    ∀ summary', whole.1 = .ok summary' →
      summary.diagnostics <+: summary'.diagnostics ∧ summary.statements ≤ summary'.statements := by
  intro whole
  obtain ⟨file, read⟩ := (compiledIff options source .empty).mp ⟨summary, ok⟩
  have compiled : compile options source .unlimited = _ := compiledFile .empty read
  rw [compiled, ByteArray.empty_append] at ok ⊢
  cases ok
  refine ⟨?_, fun summary' ok => (compiledContinues read ok).2⟩
  rintro (other | ⟨summary', ok⟩)
  · obtain ⟨added, bytes⟩ := writtenFirst more read other
    exact ⟨_, added, rfl, bytes⟩
  · obtain ⟨⟨added, bytes⟩, _⟩ := compiledContinues read ok
    exact ⟨_, added, rfl, bytes⟩

/- A parenthesis alone takes the line of the call back. -/
example : (compile { header := false } "input" .unlimited).2.bytes = "input()\n".toUTF8 ∧
    (compile { header := false } ("input" ++ "\n" ++ "(") .unlimited).2.bytes = .empty := by
  decide +kernel

theorem okSummary {outcome : Except CompileError Summary} (ok : outcome.isOk = true) :
    ∃ summary, outcome = .ok summary := by
  cases outcome with
  | ok summary => exact ⟨summary, rfl⟩
  | error error => cases ok

/- One source goes on with a character that starts no token, the other with the parentheses of its last
call. -/
theorem outputContinuesSample :
    (∃ text added : String, (compile {} "int x x = 2" .unlimited).2.bytes = text.toUTF8 ∧
      (compile {} ("int x x = 2" ++ "\n" ++ "print $") .unlimited).2.bytes = (text ++ added).toUTF8) ∧
    ∃ text added : String, (compile {} "y = input" .unlimited).2.bytes = text.toUTF8 ∧
      (compile {} ("y = input" ++ "\n" ++ "() input") .unlimited).2.bytes = (text ++ added).toUTF8 := by
  obtain ⟨_, assigned⟩ : ∃ summary, (compile {} "int x x = 2" .unlimited).1 = .ok summary :=
    okSummary (by decide +kernel)
  obtain ⟨_, called⟩ : ∃ summary, (compile {} "y = input" .unlimited).1 = .ok summary :=
    okSummary (by decide +kernel)
  have closed : ∃ summary, (compile {} ("y = input" ++ "\n" ++ "() input") .unlimited).1 = .ok summary :=
    okSummary (by decide +kernel)
  have other : lastLexeme? .whole "int x x = 2" ≠ some (.keyword .input) := by decide +kernel
  exact ⟨(outputContinues _ assigned).1 (.inl other), (outputContinues _ called).1 (.inr closed)⟩

end Linewise
