import Linewise.Proofs.FirstFault
import Linewise.Proofs.Relocation
import Linewise.Proofs.Remarks
import Mathlib.Data.List.Forall2

/-! Two sources that are read as the same lexemes. How the tokens are laid out, and under which rule they
were found, shows in places only: the text is the same, and a remark or a refusal in one source is matched in
the other by one on the token of the same index. The course over either source is that over tokens whose
places are their indices, moved to where the tokens stand. -/
namespace Linewise

open Target (textOf linesOf textOfAppend textOfRelocate linesOfAppend)

theorem Target.linesOfRelocate (place : Position → Position) (operations : List Target.Operation) :
    linesOf (operations.map (Target.Operation.relocate place)) = linesOf operations := by
  induction operations with
  | nil => rfl
  | cons operation rest ih =>
    have one : (operation.relocate place).lines = operation.lines := by cases operation <;> rfl
    simp only [List.map_cons, linesOf, one, ih]

namespace Pass

/- The lexemes as tokens, each on the line that its index tells. -/
def numbered (lexemes : List Lexeme) : List Token :=
  lexemes.mapIdx fun index lexeme => ⟨lexeme, ⟨index, 1⟩⟩

def standing (tokens : List Token) (pos : Position) : Position :=
  (tokens[pos.line]?.map Token.pos).getD pos

theorem numberedStanding (tokens : List Token) :
    (numbered (tokens.map Token.lexeme)).map (Token.relocate (standing tokens)) = tokens := by
  apply List.ext_getElem?
  intro index
  cases located : tokens[index]? with
  | none => simp [numbered, located]
  | some token => simp [numbered, located, Token.relocate, standing]

theorem numberedAt {lexemes : List Lexeme} {tokens : List Token} {token : Token} {index : Nat}
    (alike : tokens.map Token.lexeme = lexemes) (located : (numbered lexemes)[index]? = some token) :
    tokens[index]? = some (token.relocate (standing tokens)) := by
  subst alike
  conv_lhs => rw [← numberedStanding tokens]
  rw [List.getElem?_map, located]
  rfl

theorem runNumbered (fault : Option LexError) (tokens : List Token) :
    run fault tokens {} =
      (run fault (numbered (tokens.map Token.lexeme)) {}).relocate (standing tokens) := by
  have fresh : ({} : Control).relocate (standing tokens) = {} := rfl
  rw [← runRelocate, fresh, numberedStanding]

theorem numberedLexemes (lexemes : List Lexeme) : (numbered lexemes).map Token.lexeme = lexemes := by
  apply List.ext_getElem?
  intro index
  cases located : lexemes[index]? <;> simp [numbered, located]

theorem remarksRead {tokens : List Token} {most : List Lexeme} {control : Control}
    (ends : tokens.map Token.lexeme = most ++ [.streamEnd])
    (ok : (run none tokens {}).ending = .ok control) :
    ∀ remark ∈ control.diagnostics, remark.token ∈ tokens := by
  obtain ⟨_, _, rfl, _, one⟩ := List.map_eq_append_iff.mp ends
  obtain ⟨last, rfl, isEnd⟩ := List.map_eq_singleton_iff.mp one
  obtain ⟨file, same⟩ := (takenIffSentence isEnd).mp ⟨control, ok⟩
  have ready : Ready opened [] := ⟨rfl, rfl⟩
  obtain ⟨_, diagnostics, _⟩ := executeAllRenders true ready file.program
  rw [← same, runFile] at ok
  cases ok
  intro remark member
  have member : remark ∈ (executeAll opened file.program).2.diagnostics := member
  rw [diagnostics] at member
  have inside := (Program.renderSublist true [] file.statements).subset (List.mem_map_of_mem member)
  rw [← same, Grammar.fileTokens, Grammar.body]
  exact List.mem_cons_of_mem _ (List.mem_append_left _ inside)

end Pass

structure SameRemark (tokens tokens' : List Token) (remark remark' : Diagnostic) : Prop where
  kind : remark.kind = remark'.kind
  name : remark.name = remark'.name
  located : ∃ index : Nat, tokens[index]? = some remark.token ∧ tokens'[index]? = some remark'.token

structure SameViolation (tokens tokens' : List Token) (violation violation' : Violation) : Prop where
  expected : violation.expected = violation'.expected
  found : violation.found.lexeme = violation'.found.lexeme
  context : violation.context.map Token.lexeme = violation'.context.map Token.lexeme
  located : ∃ index count : Nat,
    tokens[index]? = some violation.found ∧ tokens'[index]? = some violation'.found ∧
    violation.context = (tokens.drop (index + 1)).take count ∧
    violation'.context = (tokens'.drop (index + 1)).take count

inductive SameOutcome (tokens tokens' : List Token) :
    Except CompileError Summary → Except CompileError Summary → Prop where
  | compiled {summary summary' : Summary} (statements : summary.statements = summary'.statements)
      (lines : summary.lines = summary'.lines)
      (remarks : List.Forall₂ (SameRemark tokens tokens') summary.diagnostics summary'.diagnostics) :
      SameOutcome tokens tokens' (.ok summary) (.ok summary')
  | refused {violation violation' : Violation} (same : SameViolation tokens tokens' violation violation') :
      SameOutcome tokens tokens' (.error (.grammar violation)) (.error (.grammar violation'))

section
variable {tokens tokens' : List Token} {lexemes : List Lexeme}
  (left : tokens.map Token.lexeme = lexemes) (right : tokens'.map Token.lexeme = lexemes)
include left right

theorem sameRemarks {remarks : List Diagnostic}
    (read : ∀ remark ∈ remarks, remark.token ∈ Pass.numbered lexemes) :
    List.Forall₂ (SameRemark tokens tokens') (remarks.map (Diagnostic.relocate (Pass.standing tokens)))
      (remarks.map (Diagnostic.relocate (Pass.standing tokens'))) := by
  rw [List.forall₂_map_left_iff, List.forall₂_map_right_iff, List.forall₂_same]
  intro remark member
  obtain ⟨index, located⟩ := List.mem_iff_getElem?.mp (read remark member)
  exact ⟨rfl, rfl, index, Pass.numberedAt left located, Pass.numberedAt right located⟩

theorem sameRefusal {before rest : List Token} {found : Token}
    (split : Pass.numbered lexemes = before ++ found :: rest) (expected : Expected) (count : Nat) :
    SameOutcome tokens tokens'
      (.error (((Pass.Stop.refused expected found rest).relocate (Pass.standing tokens)).error count))
      (.error (((Pass.Stop.refused expected found rest).relocate (Pass.standing tokens')).error count)) := by
  have located : (Pass.numbered lexemes)[before.length]? = some found := by simp [split]
  have shown {tokens : List Token} (alike : tokens.map Token.lexeme = lexemes) :
      (if (found.relocate (Pass.standing tokens)).isStreamEnd then []
        else (rest.map (Token.relocate (Pass.standing tokens))).take count) =
      (tokens.drop (before.length + 1)).take (if found.isStreamEnd then 0 else count) := by
    have after : tokens.drop (before.length + 1) = rest.map (Token.relocate (Pass.standing tokens)) := by
      conv_lhs => rw [← Pass.numberedStanding tokens, alike, split, ← List.map_drop]
      simp
    have last : (found.relocate (Pass.standing tokens)).isStreamEnd = found.isStreamEnd := rfl
    rw [after, last]
    cases found.isStreamEnd <;> simp
  refine .refused ⟨rfl, rfl, ?_, before.length, _, Pass.numberedAt left located,
    Pass.numberedAt right located, shown left, shown right⟩
  simp only [shown left, shown right, List.map_take, List.map_drop, left, right]

end

theorem compiledNumbered (options : Options) {source : String} {tokens : List Token}
    (read : (Scanner.tokens.runFrom (.ofSource options.rule source)).1 = .ok tokens) :
    let course := Pass.run none (Pass.numbered (tokens.map Token.lexeme)) {}
    let operations := Pass.headerOperations options.header ++ course.operations
    compile options source .unlimited =
      ((course.relocate (Pass.standing tokens)).verdict options.context (linesOf operations),
        { bytes := (textOf options.annotate operations).toUTF8 }) := by
  intro course operations
  obtain ⟨whole, same⟩ := (Scanner.tokensOkIff _ _).mp read
  have unlimited : compile options source .unlimited = _ := compileUnfailing options source .empty
  rw [unlimited, ByteArray.empty_append]
  simp only [Pass.course, whole, same, Pass.runNumbered none tokens, Pass.Course.relocate,
    Pass.Course.afterOperations, Pass.Course.verdict, Pass.Course.afterEnding, operations, course,
    linesOfAppend, textOfAppend, textOfRelocate, Target.linesOfRelocate]

theorem readLexemes {rule : WordRule} {source : String} {tokens : List Token}
    (read : (Scanner.tokens.runFrom (.ofSource rule source)).1 = .ok tokens) :
    ∃ most, tokens.map Token.lexeme = most ++ [.streamEnd] := by
  obtain ⟨whole, rfl⟩ := (Scanner.tokensOkIff _ _).mp read
  obtain ⟨most, last, same, ends⟩ := readsEnd (Scanner.deliveryReads (.ofSource rule source)) whole
  exact ⟨most.map Token.lexeme, by simp [same, streamEndLexeme ends]⟩

theorem layoutUnseen (options : Options) {rule rule' : WordRule} {source source' : String}
    {tokens tokens' : List Token}
    (read : (Scanner.tokens.runFrom (.ofSource rule source)).1 = .ok tokens)
    (read' : (Scanner.tokens.runFrom (.ofSource rule' source')).1 = .ok tokens')
    (alike : tokens.map Token.lexeme = tokens'.map Token.lexeme) :
    let one := compile (options.withRule rule) source .unlimited
    let other := compile (options.withRule rule') source' .unlimited
    one.2.bytes = other.2.bytes ∧ SameOutcome tokens tokens' one.1 other.1 := by
  intro one other
  have first : one = _ := compiledNumbered (options.withRule rule) read
  have second : other = _ := compiledNumbered (options.withRule rule') read'
  rw [alike] at first
  rw [first, second]
  refine ⟨rfl, ?_⟩
  generalize lexemes : tokens'.map Token.lexeme = sequence at alike
  have judged := runJudged (Pass.numbered sequence) none
  simp only [Pass.Course.verdict, Pass.Course.relocate]
  cases ending : (Pass.run none (Pass.numbered sequence) {}).ending with
  | ok control =>
    obtain ⟨most, ends⟩ := readLexemes read'
    rw [lexemes, ← Pass.numberedLexemes sequence] at ends
    exact .compiled rfl rfl (sameRemarks alike lexemes (Pass.remarksRead ends ending))
  | error stop =>
    rw [ending] at judged
    cases judged with
    | faulty viable cut => cases cut
    | refused split => exact sameRefusal alike lexemes split _ options.context

def loose : List Token :=
  [⟨.streamStart, ⟨1, 1⟩⟩, ⟨.typeName .int, ⟨1, 1⟩⟩, ⟨.name "x", ⟨1, 5⟩⟩, ⟨.keyword .print, ⟨1, 7⟩⟩,
    ⟨.name "y", ⟨1, 13⟩⟩, ⟨.streamEnd, ⟨1, 14⟩⟩]

def tight : List Token :=
  [⟨.streamStart, ⟨1, 1⟩⟩, ⟨.typeName .int, ⟨1, 1⟩⟩, ⟨.name "x", ⟨1, 4⟩⟩, ⟨.keyword .print, ⟨2, 1⟩⟩,
    ⟨.name "y", ⟨2, 6⟩⟩, ⟨.streamEnd, ⟨2, 7⟩⟩]

/- Where reserved words count wherever their letters stand, they need no blanks. The remark on the unknown
name has another place in each source. -/
theorem layoutUnseenSample :
    let one := compile {} "int x print y" .unlimited
    let other := compile { rule := .leading } "intx\nprinty" .unlimited
    one.1.isOk = true ∧ one.2.bytes = other.2.bytes ∧ SameOutcome loose tight one.1 other.1 := by
  have read : (Scanner.tokens.runFrom (.ofSource .whole "int x print y")).1 = .ok loose :=
    (Scanner.tokensOkIff _ _).mpr (by decide +kernel)
  have read' : (Scanner.tokens.runFrom (.ofSource .leading "intx\nprinty")).1 = .ok tight :=
    (Scanner.tokensOkIff _ _).mpr (by decide +kernel)
  have compiles : (compile {} "int x print y" .unlimited).1.isOk = true := by decide +kernel
  have unseen := layoutUnseen {} read read' rfl
  have rule : ({} : Options).withRule .whole = {} := rfl
  have rule' : ({} : Options).withRule .leading = { rule := .leading } := rfl
  rw [rule, rule'] at unseen
  exact ⟨compiles, unseen⟩

end Linewise
