import Linewise.Proofs.Emission
import Linewise.Proofs.Recognition

/-! A source compiles exactly when its tokens are a sentence of the grammar. The derivation is the only
one, and the statements that are counted are the statements of it. -/
namespace Linewise

open Grammar (Sentence)
open Pass (Control Course)

theorem streamEndLexeme {token : Token} (ends : token.isStreamEnd = true) :
    token.lexeme = .streamEnd := by
  obtain ⟨lexeme, pos⟩ := token
  cases lexeme <;> first | rfl | simp [Token.isStreamEnd, Token.kind, Lexeme.kind] at ends

def Pass.fileCourse (header : Bool) (program : Program) : Course where
  operations := headerOperations header ++ (executeAll opened program).1
  ending := .ok ((executeAll opened program).2.turn .finished)

theorem courseOfFile {options : Options} {source : String} {file : Grammar.File}
    (read : (Scanner.tokens.runFrom (.ofSource options.rule source)).1 = .ok file.tokens) :
    Pass.course options source = Pass.fileCourse options.header file.program := by
  obtain ⟨whole, tokens⟩ := (Scanner.tokensOkIff _ _).mp read
  simp only [Pass.course, whole, tokens, Pass.runFile]
  rfl

theorem fileOfCourse {options : Options} {source : String} {control : Control}
    (ok : (Pass.course options source).ending = .ok control) :
    ∃ file : Grammar.File,
      (Scanner.tokens.runFrom (.ofSource options.rule source)).1 = .ok file.tokens := by
  have reads := Scanner.deliveryReads (.ofSource options.rule source)
  simp only [Scanner.tokensOkIff]
  unfold Pass.course at ok
  generalize (Scanner.ofSource options.rule source).delivery = delivery at reads ok ⊢
  obtain ⟨tokens, fault⟩ := delivery
  rw [Course.afterEnding] at ok
  rcases Pass.runSplit tokens {} with ⟨next, taken⟩ | ⟨first, token, rest, middle, _, rfl, taken, refused⟩
  · cases fault with
    | some error => rw [Pass.runEnds _ taken] at ok; cases ok
    | none =>
      obtain ⟨most, last, rfl, ends⟩ := readsEnd reads rfl
      obtain ⟨file, same⟩ := (Pass.takenIffSentence (streamEndLexeme ends)).mp ⟨next, taken⟩
      exact ⟨file, rfl, same.symm⟩
  · rw [Pass.runAppend _ _ taken, Pass.runRefusedEnding refused] at ok
    cases ok

theorem compiledIff (options : Options) (source : String) (bytes : ByteArray) :
    (∃ summary, (compile options source { bytes }).1 = .ok summary) ↔
      ∃ file : Grammar.File,
        (Scanner.tokens.runFrom (.ofSource options.rule source)).1 = .ok file.tokens := by
  rw [compileUnfailing]
  constructor
  · rintro ⟨summary, ok⟩
    cases ending : (Pass.course options source).ending with
    | ok control => exact fileOfCourse ending
    | error stop => simp [Course.verdict, ending] at ok
  · rintro ⟨file, read⟩
    rw [courseOfFile read]
    exact ⟨_, rfl⟩

theorem acceptsExactly (options : Options) (source : String) (bytes : ByteArray) :
    ((∃ summary, (compile options source { bytes }).1 = .ok summary) ↔
      ∃ tokens, (Scanner.tokens.runFrom (.ofSource options.rule source)).1 = .ok tokens ∧
        Sentence tokens) ∧
    (∀ tokens, ∀ first second : Grammar.File,
      first.tokens = tokens → second.tokens = tokens → first = second) ∧
    ∀ summary, ∀ file : Grammar.File,
      (compile options source { bytes }).1 = .ok summary →
      (Scanner.tokens.runFrom (.ofSource options.rule source)).1 = .ok file.tokens →
      summary.statements = file.statements.length := by
  refine ⟨?_, ?_, ?_⟩
  · rw [compiledIff]
    constructor
    · rintro ⟨file, read⟩
      exact ⟨_, read, file, rfl⟩
    · rintro ⟨_, read, file, rfl⟩
      exact ⟨file, read⟩
  · intro tokens first second same same'
    exact Grammar.tokensInjective (same.trans same'.symm)
  · intro summary file ok read
    rw [compileUnfailing, courseOfFile read] at ok
    cases ok
    have count := Pass.executeAllStatements Pass.opened file.program
    simpa [Pass.opened, Grammar.File.program, Control.turn] using count

def sampleSource : String := "declare int if if = 007 print (if) input() print in"

def Grammar.sampleFile : Grammar.File where
  startPos := {}
  statements :=
    [.declared ⟨1, 1⟩ .int ⟨1, 9⟩ "if" ⟨1, 13⟩,
      .assignment "if" ⟨1, 16⟩ ⟨1, 19⟩ (.number (.int "7") ⟨1, 21⟩),
      .print ⟨1, 25⟩ (.group ⟨1, 31⟩ (.name "if" ⟨1, 32⟩) ⟨1, 34⟩),
      .input (.call ⟨1, 36⟩ ⟨1, 41⟩ ⟨1, 42⟩),
      .print ⟨1, 44⟩ (.name "in" ⟨1, 50⟩)]
  endPos := ⟨1, 52⟩

theorem sampleRead : (Scanner.tokens.runFrom (.ofSource .whole sampleSource)).1 =
    .ok Grammar.sampleFile.tokens :=
  (Scanner.tokensOkIff _ _).mpr (by decide +kernel)

theorem acceptsExactlySample :
    ∃ summary, (compile {} sampleSource {}).1 = .ok summary ∧ summary.statements = 5 := by
  obtain ⟨accepts, _, count⟩ := acceptsExactly {} sampleSource .empty
  obtain ⟨summary, ok⟩ := accepts.mpr ⟨_, sampleRead, Grammar.sampleFile, rfl⟩
  exact ⟨summary, ok, count summary Grammar.sampleFile ok sampleRead⟩

end Linewise
