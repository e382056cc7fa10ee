import Linewise.Proofs.Preservation
import Linewise.Proofs.Requests

/-! The names of a program and those of its output. A scanner delivers no name with an underscore, and none
that the language reserves. So a name that gets an underscore meets no other name, and what is written is
neither a word that Python reserves nor one of the functions that the output calls. Read off in order, the
names of the output are the names of the source, each changed alike, and names are compared as written. -/
namespace Linewise

open Target (safeName reservedWords)

def Token.name? (token : Token) : Option String :=
  match token.lexeme with
  | .name text => some text
  | _ => none

namespace Scanner

end Scanner

namespace Program

def Operand.names : Operand → List String
  | .name text _ => [text]
  | .input | .number _ => []

def Statement.names : Statement → List String
  | .print value => value.names
  | .input => []
  | .declaration _ name _ => [name]
  | .assignment name _ value => name :: value.names

theorem operandNamesLawful {value : Operand} (lawful : value.Lawful) :
    ∀ name ∈ value.names, (Lexeme.name name).Lawful := by
  cases value with
  | name text pos => exact List.forall_mem_singleton.mpr lawful
  | input | number => exact fun _ member => absurd member List.not_mem_nil

theorem statementNamesLawful {statement : Statement} (lawful : statement.Lawful) :
    ∀ name ∈ statement.names, (Lexeme.name name).Lawful := by
  cases statement with
  | print value => exact operandNamesLawful lawful
  | input => exact fun _ member => absurd member List.not_mem_nil
  | declaration type name pos => exact List.forall_mem_singleton.mpr lawful
  | assignment name pos value => exact List.forall_mem_cons.mpr ⟨lawful.1, operandNamesLawful lawful.2⟩

end Program

namespace Grammar

theorem inputNames (call : Input) : call.tokens.filterMap Token.name? = [] := by
  cases call <;> rfl

theorem exprNames (value : Expr) : value.tokens.filterMap Token.name? = value.operand.names := by
  induction value with
  | input call => exact inputNames call
  | group openPos inner closePos ih =>
    rw [Expr.tokens, List.cons_append, List.filterMap_cons_none rfl, List.filterMap_append, ih]
    exact List.append_nil _
  | name text pos => rfl
  | number value pos => rfl

theorem statementNames (statement : Statement) :
    statement.tokens.filterMap Token.name? = statement.abstract.names := by
  cases statement with
  | print pos value => exact exprNames value
  | input call => exact inputNames call
  | declaration | declared => rfl
  | assignment name namePos equalsPos value => exact congrArg (name :: ·) (exprNames value)

theorem fileNames (file : File) :
    file.tokens.filterMap Token.name? = file.program.flatMap Program.Statement.names := by
  have inside (statements : List Statement) :
      (statements.flatMap Statement.tokens).filterMap Token.name? =
        (statements.map Statement.abstract).flatMap Program.Statement.names := by
    induction statements with
    | nil => rfl
    | cons statement rest ih => simp [statementNames, ih]
  rw [File.tokens, List.cons_append, List.filterMap_cons_none rfl, List.filterMap_append, inside]
  exact List.append_nil _

end Grammar

namespace Python

def Rhs.names : Rhs → List String
  | .name text => [text]
  | .int _ | .float _ | .falseWord | .emptyText | .inputCall => []

def Line.names : Line → List String
  | .empty | .input => []
  | .assign name value => name :: value.names
  | .print value => value.names

theorem operandNames (value : Program.Operand) :
    (Rhs.ofOperand value).names = value.names.map safeName := by
  cases value with
  | input | name => rfl
  | number value => cases value <;> rfl

theorem lineNames (statement : Program.Statement) :
    (Line.ofStatement statement).names = statement.names.map safeName := by
  cases statement with
  | print value => exact operandNames value
  | input => rfl
  | declaration type name pos => cases type <;> rfl
  | assignment name pos value => exact congrArg (safeName name :: ·) (operandNames value)

theorem programNames (program : Program) :
    (program.map Line.ofStatement).flatMap Line.names =
      (program.flatMap Program.Statement.names).map safeName := by
  induction program with
  | nil => rfl
  | cons statement rest ih => simp [lineNames, ih]

end Python

theorem writtenNames {options : Options} {source text : String} {summary : Summary}
    (ok : compileText options source = .ok (text, summary)) :
    ∃ tokens lines,
      (Scanner.tokens.runFrom (.ofSource options.rule source)).1 = .ok tokens ∧
      Python.read? text = some lines ∧
      lines.flatMap Python.Line.names = (tokens.filterMap Token.name?).map safeName ∧
      ∀ name ∈ tokens.filterMap Token.name?, (Lexeme.name name).Lawful := by
  obtain ⟨file, read, rfl⟩ := compileTextOutput ok
  have lawful := Grammar.readLawful read
  refine ⟨file.tokens, _, read, Python.outputRead options lawful, ?_, ?_⟩
  · rw [Grammar.fileNames, ← Python.programNames, List.flatMap_append]
    cases options.header <;> rfl
  · rw [Grammar.fileNames]
    intro name member
    obtain ⟨statement, inside, here⟩ := List.mem_flatMap.mp member
    exact Program.statementNamesLawful (lawful statement inside) name here

end Linewise
