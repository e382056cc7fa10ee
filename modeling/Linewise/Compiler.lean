import Linewise.Lookahead
import Linewise.Options
import Linewise.Scopes
import Linewise.Target.Writer
import Linewise.Text.Utf8

/-!
The compiler: one pass over the tokens that writes one line of Python per statement as it reads it.
A statement is a print, an input, a declaration or an assignment. The first token that does not fit,
the first place without a token and the first failed write end the pass; what was written until then
stays written.
-/

namespace Linewise

open Target (Writer Emit)

/-- A pass on the way. `pending` holds the remarks on the statement that is being read. -/
structure Progress where
  ahead : Lookahead
  scopes : Scopes := {}
  out : Writer
  pending : List Diagnostic := []
  diagnostics : List Diagnostic := []
  statements : Nat := 0

structure Summary where
  statements : Nat := 0
  lines : Nat := 0
  diagnostics : List Diagnostic := []
  deriving DecidableEq, Repr

abbrev Compiler := Step CompileError Progress

namespace Compiler

def read {α : Type} (step : Lookahead.Read α) : Compiler α :=
  step.onPart
    { of := Progress.ahead, replace := fun progress ahead => { progress with ahead } } .lex

def emit (step : Emit Unit) : Compiler Unit :=
  step.onPart { of := Progress.out, replace := fun progress out => { progress with out } } .io

def peek : Compiler Lexeme := do return (← read (Lookahead.peek 1)).lexeme

def consume : Compiler Token := read Lookahead.consume

def tokensLeft : Compiler Nat := do return (← get).ahead.bound

def refuse {α : Type} (expected : Expected) (found : Token) : Compiler α :=
  .fail (.grammar { expected, found })

def expect {α : Type} (expected : Expected) (accept : Lexeme → Option α) :
    Compiler (α × Position) := do
  let token ← consume
  match accept token.lexeme with
  | some value => return (value, token.pos)
  | none => refuse expected token

def expectLexeme (lexeme : Lexeme) : Compiler Unit := do
  let _ ← expect (.token (some lexeme.kind) lexeme.text?) fun found =>
    if found = lexeme then some () else none

def expectKind (kind : TokenKind) : Compiler Token := do
  let (lexeme, pos) ← expect (.token (some kind) none) fun lexeme =>
    if lexeme.kind = kind then some lexeme else none
  return ⟨lexeme, pos⟩

def expectType : Compiler DeclaredType := do
  let token ← expectKind .typeName
  match token.text?.bind DeclaredType.ofText? with
  | some type => return type
  | none => refuse (.token (some .typeName) none) token

def expectName : Compiler (String × Position) := do
  let token ← expectKind .name
  return (token.spelling, token.pos)

def expectNumber : Compiler Number := do
  let (number, _) ← expect (.rule "an expression") fun
    | .number number => some number
    | _ => none
  return number

def remark (kind : DiagnosticKind) (name : String) (pos : Position) : Compiler Unit :=
  modify fun progress => { progress with pending := progress.pending ++ [⟨kind, name, pos⟩] }

def resolve (name : String) (pos : Position) : Compiler Unit := do
  unless (← get).scopes.isDeclared name do remark .undeclared name pos

def declare (name : String) (type : DeclaredType) (pos : Position) : Compiler Unit := do
  let (previous, scopes) := (← get).scopes.declare name type
  modify fun progress => { progress with scopes }
  if previous.isSome then remark .redeclared name pos

def inputParens : Compiler Unit := do
  if (← peek) = .symbol .openParen then
    expectLexeme (.symbol .openParen)
    expectLexeme (.symbol .closeParen)

def input : Compiler Unit := do
  expectLexeme (.keyword .input)
  inputParens
  emit Writer.inputCall

def reference : Compiler Unit := do
  let token ← consume
  emit (Writer.name token.spelling)
  resolve token.spelling token.pos

def operand : Compiler Unit := do
  match ← peek with
  | .keyword .input => input
  | .name _ => reference
  | _ => emit (Writer.number (← expectNumber))

def openParens : Nat → Compiler Nat
  | 0 => return 0
  | bound + 1 => do
    if (← peek) = .symbol .openParen then
      expectLexeme (.symbol .openParen)
      return (← openParens bound) + 1
    else return 0

def closeParens : Nat → Compiler Unit
  | 0 => return
  | count + 1 => do
    expectLexeme (.symbol .closeParen)
    closeParens count

/-- An expression is an operand in any number of parentheses, none of which is written. -/
def expression : Compiler Unit := do
  let depth ← openParens (← tokensLeft)
  operand
  closeParens depth

def print : Compiler Unit := do
  expectLexeme (.keyword .print)
  emit Writer.openPrint
  expression
  emit Writer.closePrint

def declareWord : Compiler Unit := do
  if (← peek) = .keyword .declare then expectLexeme (.keyword .declare)

def declaration : Compiler Unit := do
  declareWord
  let type ← expectType
  let (name, pos) ← expectName
  declare name type pos
  emit (Writer.declaration name type)

def assignment : Compiler Unit := do
  let (name, pos) ← expectName
  resolve name pos
  emit (Writer.name name)
  expectLexeme (.symbol .equals)
  emit Writer.equals
  expression

def statementBody : Compiler Unit := do
  match ← peek with
  | .keyword .print => print
  | .keyword .input => input
  | .keyword .declare | .typeName _ => declaration
  | .name _ => assignment
  | _ => refuse (.rule "a statement") (← consume)

def finishStatement : Compiler Unit := do
  emit (Writer.endLine (← get).pending)
  modify fun progress =>
    { progress with
      diagnostics := progress.diagnostics ++ progress.pending
      pending := []
      statements := progress.statements + 1 }

def statement : Compiler Unit := do
  statementBody
  finishStatement

def statements : Nat → Compiler Unit
  | 0 => return
  | bound + 1 => do
    unless (← peek) = .streamEnd do
      statement
      statements bound

def file : Compiler Unit := do
  expectLexeme .streamStart
  statements (← tokensLeft)
  expectLexeme .streamEnd

def headerLine (header : Bool) : Compiler Unit :=
  if header then emit Writer.header else pure ()

def program (header : Bool) : Compiler Unit := do
  modify fun progress => { progress with scopes := progress.scopes.enter }
  headerLine header
  file
  modify fun progress => { progress with scopes := progress.scopes.leave }
  emit Writer.flush

end Compiler

namespace Progress

def start (options : Options) (source : String) (sink : Sink) : Progress where
  ahead := Lookahead.ofSource options.rule source
  out := { sink, annotate := options.annotate }

def summary (progress : Progress) : Summary where
  statements := progress.statements
  lines := progress.out.lines
  diagnostics := progress.diagnostics

end Progress

def Violation.withContext (violation : Violation) (ahead : Lookahead) (count : Nat) : Violation :=
  if violation.found.isStreamEnd then violation
  else { violation with context := ahead.upcoming count }

def CompileError.withContext (error : CompileError) (ahead : Lookahead) (count : Nat) :
    CompileError :=
  match error with
  | .grammar violation => .grammar (violation.withContext ahead count)
  | .lex _ | .io _ => error

def compile (options : Options) (source : String) (sink : Sink) :
    Except CompileError Summary × Sink :=
  let (outcome, progress) :=
    (Compiler.program options.header).runFrom (.start options source sink)
  match outcome with
  | .ok () => (.ok progress.summary, progress.out.sink)
  | .error error => (.error (error.withContext progress.ahead options.context), progress.out.sink)

def compileText (options : Options) (source : String) :
    Except CompileError (String × Summary) :=
  let (outcome, sink) := compile options source .unlimited
  outcome.map fun summary => (Text.decodeLossy sink.bytes, summary)

end Linewise
