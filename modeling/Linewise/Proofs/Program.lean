import Linewise.Proofs.Grammar
import Linewise.Proofs.Pass

/-! A program is what is left of a file without its parentheses and optional words. The course over the
tokens of a file is the course over its program, statement by statement: that the machine works token by
token, and acts on some tokens late, does not show in a course that ends well. -/
namespace Linewise

namespace Program

inductive Operand where
  | input
  | name (text : String) (pos : Position)
  | number (value : Number)
  deriving DecidableEq, Repr

inductive Statement where
  | print (value : Operand)
  | input
  | declaration (type : DeclaredType) (name : String) (pos : Position)
  | assignment (name : String) (pos : Position) (value : Operand)
  deriving DecidableEq, Repr

end Program

abbrev Program := List Program.Statement

namespace Grammar

def Expr.operand : Expr → Program.Operand
  | .input _ => .input
  | .group _ inner _ => inner.operand
  | .name text pos => .name text pos
  | .number value _ => .number value

def Statement.abstract : Statement → Program.Statement
  | .print _ value => .print value.operand
  | .input _ => .input
  | .declaration type _ name pos => .declaration type name pos
  | .declared _ type _ name pos => .declaration type name pos
  | .assignment name pos _ value => .assignment name pos value.operand

def File.program (file : File) : Program := file.statements.map Statement.abstract

end Grammar

open Target (Operation)

namespace Program

def Operand.operation : Operand → Operation
  | .input => .inputCall
  | .name text _ => .name text
  | .number value => .number value

end Program

namespace Pass

open Program (Operand Statement)

namespace Control

def resolveOperand (control : Control) : Operand → Control
  | .name text pos => control.resolve text pos
  | .input | .number _ => control

def note (control : Control) : Statement → Control
  | .print value => control.resolveOperand value
  | .input => control
  | .declaration type name pos => control.declare name type pos
  | .assignment name pos value => (control.resolve name pos).resolveOperand value

end Control

def codeOperations : Statement → List Operation
  | .print value => [.openPrint, value.operation, .closePrint]
  | .input => [.inputCall]
  | .declaration type name _ => [.declaration name type]
  | .assignment name _ value => [.name name, .equals, value.operation]

def execute (control : Control) (statement : Statement) : List Operation × Control :=
  (codeOperations statement ++ [.endLine (control.note statement).pending],
    (control.note statement).finish)

def executeAll : Control → Program → List Operation × Control
  | control, [] => ([], control)
  | control, statement :: rest =>
    let (operations, next) := execute control statement
    let (later, last) := executeAll next rest
    (operations ++ later, last)

theorem settleTurn (control : Control) (phase : Phase) (frame : Frame) (depth : Nat) :
    (control.turn phase).settle frame depth = control.settle frame depth := by
  cases depth <;> rfl

theorem declareTurn (control : Control) (phase : Phase) (name : String) (type : DeclaredType)
    (pos : Position) :
    (control.declare name type pos).turn phase = (control.turn phase).declare name type pos := by
  unfold Control.declare
  cases h : (control.scopes.declare name type).1.isSome <;> simp [h, Control.turn, Control.remark]

def Followed (rest : List Token) : Prop :=
  ∃ token more, rest = token :: more ∧ token.lexeme ≠ .symbol .openParen

theorem followedStatements {rest : List Token} (statements : List Grammar.Statement)
    (followed : Followed rest) : Followed (statements.flatMap Grammar.Statement.tokens ++ rest) := by
  cases statements with
  | nil => exact followed
  | cons statement later =>
    obtain ⟨token, more, head, noOpen, _⟩ := Grammar.statementHead statement
    exact ⟨token, _, by rw [List.flatMap_cons, head]; rfl, noOpen⟩

theorem followedEnd (endPos : Position) : Followed [⟨.streamEnd, endPos⟩] := ⟨_, _, rfl, by simp⟩

/- A call without its parentheses is known to be complete only at the token after it. -/
theorem runInput {fault rest frame depth} {control : Control} (call : Grammar.Input)
    (enters : ∀ pos, control.step ⟨.keyword .input, pos⟩ = control.go (.inputParens frame depth))
    (followed : Followed rest) :
    run fault (call.tokens ++ rest) control =
      (run fault rest (control.settle frame depth).2).after
        (.inputCall :: (control.settle frame depth).1) := by
  obtain ⟨next, later, rfl, noOpen⟩ := followed
  cases call with
  | bare pos =>
    rw [Grammar.Input.tokens, List.cons_append, List.nil_append, runMoved (enters pos),
      runResumed noOpen rfl, settleTurn, Course.afterAfter]
    rfl
  | call pos openPos closePos =>
    have opened : (control.turn (.inputParens frame depth)).step ⟨.symbol .openParen, openPos⟩ =
      control.go (.inputClose frame depth) := rfl
    have closed : (control.turn (.inputClose frame depth)).step ⟨.symbol .closeParen, closePos⟩ =
      (control.turn (.inputClose frame depth)).settled frame depth [.inputCall] := rfl
    rw [Grammar.Input.tokens, List.cons_append, List.cons_append, List.cons_append, List.nil_append,
      runMoved (enters pos), runMoved opened, runMoved closed, settleTurn]
    rfl

theorem runExpr {fault rest} (e : Grammar.Expr) (control : Control) (frame : Frame) (depth : Nat)
    (followed : Followed rest) :
    run fault (e.tokens ++ rest) (control.turn (.expression frame depth)) =
      (run fault rest ((control.resolveOperand e.operand).settle frame depth).2).after
        (e.operand.operation :: ((control.resolveOperand e.operand).settle frame depth).1) := by
  induction e generalizing control depth rest with
  | input call =>
    rw [Grammar.Expr.tokens, runInput call (fun _ => rfl) followed, settleTurn]
    rfl
  | group openPos inner closePos ih =>
    have opened : (control.turn (.expression frame depth)).step ⟨.symbol .openParen, openPos⟩ =
      control.go (.expression frame (depth + 1)) := rfl
    have between : Followed ([⟨.symbol .closeParen, closePos⟩] ++ rest) := ⟨_, _, rfl, by simp⟩
    have closed (control : Control) :
        (control.turn (.closing frame depth)).step ⟨.symbol .closeParen, closePos⟩ =
          (control.turn (.closing frame depth)).settled frame depth [] := rfl
    rw [Grammar.Expr.tokens, List.cons_append, List.cons_append, List.append_assoc,
      runMoved opened, Course.afterNil, ih control (depth + 1) between]
    -- One parenthesis deeper the operand settles without operations; those come with the closing one.
    simp only [Control.settle, List.cons_append, List.nil_append]
    rw [runMoved (closed _), settleTurn, Course.afterAfter]
    rfl
  | name text pos =>
    have named : (control.turn (.expression frame depth)).step ⟨.name text, pos⟩ =
      ((control.turn (.expression frame depth)).resolve text pos).settled frame depth [.name text] := rfl
    rw [Grammar.Expr.tokens, List.cons_append, List.nil_append, runMoved named,
      ← Control.resolveTurn, settleTurn]
    rfl
  | number value pos =>
    have valued : (control.turn (.expression frame depth)).step ⟨.number value, pos⟩ =
      (control.turn (.expression frame depth)).settled frame depth [.number value] := rfl
    rw [Grammar.Expr.tokens, List.cons_append, List.nil_append, runMoved valued, settleTurn]
    rfl

theorem stepBetween {control : Control} {token : Token} (here : control.phase = .statement) :
    control.step token = control.stepStatement token := by
  simp only [Control.step, here]

theorem runDeclared {fault rest} {control : Control} (type : DeclaredType) (name : String)
    (pos : Position) :
    run fault (⟨.name name, pos⟩ :: rest) (control.turn (.declaredName type)) =
      (run fault rest (execute control (.declaration type name pos)).2).after
        (execute control (.declaration type name pos)).1 := by
  have named : (control.turn (.declaredName type)).step ⟨.name name, pos⟩ =
    ((control.turn (.declaredName type)).declare name type pos).settled .plain 0
      [.declaration name type] := rfl
  rw [runMoved named, ← declareTurn, settleTurn]
  rfl

theorem runStatement {fault rest} (statement : Grammar.Statement) {control : Control}
    (here : control.phase = .statement) (followed : Followed rest) :
    run fault (statement.tokens ++ rest) control =
      (run fault rest (execute control statement.abstract).2).after
        (execute control statement.abstract).1 := by
  cases statement with
  | print pos value =>
    have opened : control.step ⟨.keyword .print, pos⟩ =
      control.go (.expression .print 0) [.openPrint] := stepBetween here
    rw [Grammar.Statement.tokens, List.cons_append, runMoved opened, runExpr _ _ _ _ followed,
      Course.afterAfter]
    rfl
  | input call =>
    rw [Grammar.Statement.tokens, runInput call (fun _ => stepBetween here) followed]
    rfl
  | declaration type typePos name namePos =>
    have typed : control.step ⟨.typeName type, typePos⟩ = control.go (.declaredName type) :=
      stepBetween here
    rw [Grammar.Statement.tokens, List.cons_append, runMoved typed, Course.afterNil]
    exact runDeclared type name namePos
  | declared wordPos type typePos name namePos =>
    have marked : control.step ⟨.keyword .declare, wordPos⟩ = control.go .typeName :=
      stepBetween here
    have typed : (control.turn .typeName).step ⟨.typeName type, typePos⟩ =
      control.go (.declaredName type) := rfl
    rw [Grammar.Statement.tokens, List.cons_append, List.cons_append, runMoved marked, runMoved typed,
      Course.afterNil, Course.afterNil]
    exact runDeclared type name namePos
  | assignment name namePos equalsPos value =>
    have named : control.step ⟨.name name, namePos⟩ =
      (control.resolve name namePos).go .equals [.name name] := stepBetween here
    have equated : ((control.resolve name namePos).turn .equals).step ⟨.symbol .equals, equalsPos⟩ =
      (control.resolve name namePos).go (.expression .plain 0) [.equals] := rfl
    rw [Grammar.Statement.tokens, List.cons_append, List.cons_append, runMoved named,
      runMoved equated, runExpr _ _ _ _ followed, Course.afterAfter, Course.afterAfter]
    rfl

theorem executeAllPhase {control : Control} (here : control.phase = .statement) (program : Program) :
    (executeAll control program).2.phase = .statement := by
  induction program generalizing control with
  | nil => exact here
  | cons statement rest ih => exact ih rfl

theorem runStatements {fault rest} (statements : List Grammar.Statement) {control : Control}
    (here : control.phase = .statement) (followed : Followed rest) :
    run fault (statements.flatMap Grammar.Statement.tokens ++ rest) control =
      (run fault rest (executeAll control (statements.map Grammar.Statement.abstract)).2).after
        (executeAll control (statements.map Grammar.Statement.abstract)).1 := by
  induction statements generalizing control with
  | nil => rfl
  | cons statement later ih =>
    rw [List.flatMap_cons, List.append_assoc,
      runStatement statement here (followedStatements later followed), ih rfl, Course.afterAfter]
    rfl

theorem runBody {fault : Option LexError} (statements : List Grammar.Statement) (endPos : Position)
    {control : Control} (here : control.phase = .statement) :
    run fault (Grammar.body statements endPos) control =
      (run fault [] ((executeAll control (statements.map Grammar.Statement.abstract)).2.turn .finished)).after
        (executeAll control (statements.map Grammar.Statement.abstract)).1 := by
  have ended (last : Control) (here : last.phase = .statement) :
      last.step ⟨.streamEnd, endPos⟩ = last.go .finished := stepBetween here
  rw [Grammar.body, runStatements statements here (followedEnd endPos),
    runMoved (ended _ (executeAllPhase here _)), Course.afterNil]

def opened : Control := { phase := .statement }

theorem runOpened (fault : Option LexError) (startPos : Position) (rest : List Token) :
    run fault (⟨.streamStart, startPos⟩ :: rest) {} = run fault rest opened := by
  have started : ({} : Control).step ⟨.streamStart, startPos⟩ = opened.go .statement := rfl
  rw [runMoved started]
  rfl

theorem runFile (file : Grammar.File) :
    run none file.tokens {} =
      ⟨(executeAll opened file.program).1, .ok ((executeAll opened file.program).2.turn .finished)⟩ := by
  rw [Grammar.fileTokens, runOpened, runBody _ _ rfl]
  simp [run, Course.after, Grammar.File.program]

theorem noteStatements (control : Control) (statement : Statement) :
    (control.note statement).statements = control.statements := by
  have resolved (control : Control) (name : String) (pos : Position) :
      (control.resolve name pos).statements = control.statements := by
    unfold Control.resolve
    split <;> rfl
  have operand (control : Control) (value : Operand) :
      (control.resolveOperand value).statements = control.statements := by
    cases value with
    | name text pos => exact resolved control text pos
    | input | number => rfl
  cases statement with
  | print value => exact operand control value
  | input => rfl
  | declaration type name pos =>
    simp only [Control.note, Control.declare]
    split <;> rfl
  | assignment name pos value => exact (operand _ value).trans (resolved control name pos)

theorem executeAllStatements (control : Control) (program : Program) :
    (executeAll control program).2.statements = control.statements + program.length := by
  induction program generalizing control with
  | nil => rfl
  | cons statement rest ih =>
    have one : (execute control statement).2.statements = control.statements + 1 :=
      congrArg (· + 1) (noteStatements control statement)
    simp only [executeAll, ih, one, List.length_cons]
    omega

end Pass

end Linewise
