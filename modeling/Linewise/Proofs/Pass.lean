import Linewise.Compiler

/-! The pass over the tokens as a machine that takes one token at a time. A token moves the control and
names the operations that are due on the writer, or it is refused. Nothing is looked at ahead: where an
`input` may still take its parentheses, the machine waits in a phase of its own. The operations of a whole
course do not depend on the sink; whether a write fails is decided when they are performed. -/
namespace Linewise

namespace Target

inductive Operation where
  | header
  | openPrint
  | closePrint
  | inputCall
  | equals
  | name (text : String)
  | number (value : Number)
  | declaration (text : String) (type : DeclaredType)
  | endLine (diagnostics : List Diagnostic)
  | flush
  deriving DecidableEq

def Operation.perform : Operation → Emit Unit
  | .header => Writer.header
  | .openPrint => Writer.openPrint
  | .closePrint => Writer.closePrint
  | .inputCall => Writer.inputCall
  | .equals => Writer.equals
  | .name text => Writer.name text
  | .number value => Writer.number value
  | .declaration text type => Writer.declaration text type
  | .endLine diagnostics => Writer.endLine diagnostics
  | .flush => Writer.flush

def performAll : List Operation → Emit Unit
  | [] => pure ()
  | operation :: rest => do
    operation.perform
    performAll rest

theorem performAllCons (operation : Operation) (rest : List Operation) (writer : Writer) :
    (performAll (operation :: rest)).runFrom writer =
      match operation.perform.runFrom writer with
      | (.ok (), out) => (performAll rest).runFrom out
      | (.error error, out) => (.error error, out) := by
  show (operation.perform >>= fun _ => performAll rest).runFrom writer = _
  rw [Step.runFromBind]
  rcases operation.perform.runFrom writer with ⟨_ | _, out⟩ <;> rfl

theorem performAllAppend (first second : List Operation) (writer : Writer) :
    (performAll (first ++ second)).runFrom writer =
      match (performAll first).runFrom writer with
      | (.ok (), out) => (performAll second).runFrom out
      | (.error error, out) => (.error error, out) := by
  induction first generalizing writer with
  | nil => rfl
  | cons operation rest ih =>
    rw [List.cons_append, performAllCons, performAllCons]
    rcases operation.perform.runFrom writer with ⟨_ | _, out⟩
    · rfl
    · exact ih out

end Target

namespace Pass

open Target (Operation)

inductive Frame where
  | print
  | plain
  deriving DecidableEq

def Frame.close : Frame → List Operation
  | .print => [.closePrint]
  | .plain => []

/- What was read of the statement at hand. Within an expression, `depth` counts the parentheses that are
open; `closing frame depth` waits for one more than that. -/
inductive Phase where
  | start
  | statement
  | typeName
  | declaredName (type : DeclaredType)
  | equals
  | expression (frame : Frame) (depth : Nat)
  | inputParens (frame : Frame) (depth : Nat)
  | inputClose (frame : Frame) (depth : Nat)
  | closing (frame : Frame) (depth : Nat)
  | finished
  deriving DecidableEq

structure Control where
  phase : Phase := .start
  scopes : Scopes := Scopes.enter {}
  pending : List Diagnostic := []
  diagnostics : List Diagnostic := []
  statements : Nat := 0
  deriving DecidableEq

/- The operations that a token makes due, and what comes of it. A token can be refused after it made
operations due: those of the statement that it turned out not to belong to. -/
structure Move where
  operations : List Operation := []
  next : Except Expected Control

def Move.after (move : Move) (operations : List Operation) : Move :=
  { move with operations := operations ++ move.operations }

def expectation (lexeme : Lexeme) : Expected := .token (some lexeme.kind) lexeme.text?

namespace Control

def turn (control : Control) (phase : Phase) : Control := { control with phase }

def go (control : Control) (phase : Phase) (operations : List Operation := []) : Move :=
  ⟨operations, .ok (control.turn phase)⟩

def remark (control : Control) (kind : DiagnosticKind) (name : String) (pos : Position) : Control :=
  { control with pending := control.pending ++ [⟨kind, name, pos⟩] }

def resolve (control : Control) (name : String) (pos : Position) : Control :=
  if control.scopes.isDeclared name then control else control.remark .undeclared name pos

def declare (control : Control) (name : String) (type : DeclaredType) (pos : Position) : Control :=
  let (previous, scopes) := control.scopes.declare name type
  if previous.isSome then { control with scopes }.remark .redeclared name pos
  else { control with scopes }

theorem resolveTurn (control : Control) (phase : Phase) (name : String) (pos : Position) :
    (control.resolve name pos).turn phase = (control.turn phase).resolve name pos := by
  unfold resolve
  split <;> simp_all [turn, remark]

def finish (control : Control) : Control :=
  { control with
    phase := .statement
    pending := []
    diagnostics := control.diagnostics ++ control.pending
    statements := control.statements + 1 }

def settle (control : Control) (frame : Frame) : Nat → List Operation × Control
  | 0 => (frame.close ++ [.endLine control.pending], control.finish)
  | depth + 1 => ([], control.turn (.closing frame depth))

def settled (control : Control) (frame : Frame) (depth : Nat) (operations : List Operation) : Move :=
  ⟨operations ++ (control.settle frame depth).1, .ok (control.settle frame depth).2⟩

def refuse (expected : Expected) : Move := ⟨[], .error expected⟩

def stepStatement (control : Control) (token : Token) : Move :=
  match token.lexeme with
  | .keyword .print => control.go (.expression .print 0) [.openPrint]
  | .keyword .input => control.go (.inputParens .plain 0)
  | .keyword .declare => control.go .typeName
  | .typeName type => control.go (.declaredName type)
  | .name name => (control.resolve name token.pos).go .equals [.name name]
  | .streamEnd => control.go .finished
  | _ => refuse (.rule "a statement")

def stepExpression (control : Control) (frame : Frame) (depth : Nat) (token : Token) : Move :=
  match token.lexeme with
  | .keyword .input => control.go (.inputParens frame depth)
  | .symbol .openParen => control.go (.expression frame (depth + 1))
  | .name name => (control.resolve name token.pos).settled frame depth [.name name]
  | .number value => control.settled frame depth [.number value]
  | _ => refuse (.rule "an expression")

def stepClosing (control : Control) (frame : Frame) (depth : Nat) (token : Token) : Move :=
  if token.lexeme = .symbol .closeParen then control.settled frame depth []
  else refuse (expectation (.symbol .closeParen))

def resume (control : Control) (frame : Frame) (token : Token) : Nat → Move
  | 0 => (control.finish.stepStatement token).after (control.settle frame 0).1
  | depth + 1 => (control.turn (.closing frame depth)).stepClosing frame depth token

def step (control : Control) (token : Token) : Move :=
  match control.phase with
  | .start =>
    if token.lexeme = .streamStart then control.go .statement
    else refuse (expectation .streamStart)
  | .statement => control.stepStatement token
  | .typeName =>
    match token.lexeme with
    | .typeName type => control.go (.declaredName type)
    | _ => refuse (.token (some .typeName) none)
  | .declaredName type =>
    match token.lexeme with
    | .name name => (control.declare name type token.pos).settled .plain 0 [.declaration name type]
    | _ => refuse (.token (some .name) none)
  | .equals =>
    if token.lexeme = .symbol .equals then control.go (.expression .plain 0) [.equals]
    else refuse (expectation (.symbol .equals))
  | .expression frame depth => control.stepExpression frame depth token
  | .inputParens frame depth =>
    if token.lexeme = .symbol .openParen then control.go (.inputClose frame depth)
    else (control.resume frame token depth).after [.inputCall]
  | .inputClose frame depth =>
    if token.lexeme = .symbol .closeParen then control.settled frame depth [.inputCall]
    else refuse (expectation (.symbol .closeParen))
  | .closing frame depth => control.stepClosing frame depth token
  | .finished => refuse (.rule "nothing")

end Control

inductive Stop where
  | lex (error : LexError)
  | refused (expected : Expected) (found : Token) (rest : List Token)
  deriving DecidableEq

structure Course where
  operations : List Operation := []
  ending : Except Stop Control

def Stop.error (context : Nat) : Stop → CompileError
  | .lex error => .lex error
  | .refused expected found rest =>
    .grammar { expected, found, context := if found.isStreamEnd then [] else rest.take context }

namespace Course

def after (course : Course) (operations : List Operation) : Course :=
  { course with operations := operations ++ course.operations }

@[simp] theorem afterNil (course : Course) : course.after [] = course := rfl

@[simp] theorem afterAfter (course : Course) (first second : List Operation) :
    (course.after second).after first = course.after (first ++ second) := by
  simp [after]

@[simp] theorem afterEnding (course : Course) (operations : List Operation) :
    (course.after operations).ending = course.ending := rfl

@[simp] theorem afterOperations (course : Course) (operations : List Operation) :
    (course.after operations).operations = operations ++ course.operations := rfl

def allOperations (course : Course) : List Operation :=
  match course.ending with
  | .ok _ => course.operations ++ [.flush]
  | .error _ => course.operations

def verdict (course : Course) (context lines : Nat) : Except CompileError Summary :=
  match course.ending with
  | .ok control => .ok { statements := control.statements, lines, diagnostics := control.diagnostics }
  | .error stop => .error (stop.error context)

def result (course : Course) (options : Options) (sink : Sink) : Except CompileError Summary × Sink :=
  match (Target.performAll course.allOperations).runFrom { sink, annotate := options.annotate } with
  | (.ok (), out) => (course.verdict options.context out.lines, out.sink)
  | (.error error, out) => (.error (.io error), out.sink)

end Course

def run (fault : Option LexError) : List Token → Control → Course
  | [], control =>
    match fault with
    | some error => ⟨[], .error (.lex error)⟩
    | none => ⟨[], .ok control⟩
  | token :: rest, control =>
    match (control.step token).next with
    | .ok next => (run fault rest next).after (control.step token).operations
    | .error expected => ⟨(control.step token).operations, .error (.refused expected token rest)⟩

theorem runMoved {fault token rest control operations next}
    (moved : Control.step control token = ⟨operations, .ok next⟩) :
    run fault (token :: rest) control = (run fault rest next).after operations := by
  simp only [run, moved]

theorem runRefused {fault token rest control operations expected}
    (refused : Control.step control token = ⟨operations, .error expected⟩) :
    run fault (token :: rest) control =
      ⟨operations, .error (.refused expected token rest)⟩ := by
  simp only [run, refused]

theorem runAfter {fault token rest operations} {control other : Control}
    (same : control.step token = (other.step token).after operations) :
    run fault (token :: rest) control = (run fault (token :: rest) other).after operations := by
  cases h : other.step token with
  | mk due next =>
    rw [h] at same
    cases next with
    | ok next => rw [runMoved h, runMoved same, Course.afterAfter]
    | error expected => rw [runRefused h, runRefused same]; rfl

/- A token that is no opening parenthesis shows that the call before it was complete. The machine makes up
then for the operations that were due after the call. -/
theorem runResumed {fault token rest frame depth} {control : Control}
    (different : token.lexeme ≠ .symbol .openParen) (here : control.phase = .inputParens frame depth) :
    run fault (token :: rest) control =
      ((run fault (token :: rest) (control.settle frame depth).2).after
        (control.settle frame depth).1).after [.inputCall] := by
  rw [Course.afterAfter]
  apply runAfter
  simp only [Control.step, here, if_neg different]
  cases depth with
  | zero => rfl
  | succ depth => rfl

def headerOperations (header : Bool) : List Operation := if header then [.header] else []

end Pass

end Linewise
