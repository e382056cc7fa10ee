import Linewise.Proofs.Pass
import Linewise.Proofs.Reading

/-! The compiler runs the course of the machine. Each of its procedures is followed together with all that
is still to be done after it, so that the phase of the machine and the place in the compiler stay in step
at every token. A failed write ends both at the same operation. -/
namespace Linewise

open Target (Operation Writer performAll)
open Pass (Control Course Frame Phase Stop)

def Progress.control (progress : Progress) (phase : Phase) : Control where
  phase := phase
  scopes := progress.scopes
  pending := progress.pending
  diagnostics := progress.diagnostics
  statements := progress.statements

def Progress.entered (progress : Progress) : Progress :=
  { progress with scopes := progress.scopes.enter }

def Lexeme.asType? : Lexeme → Option DeclaredType
  | .typeName type => some type
  | _ => none

def Lexeme.asName? : Lexeme → Option String
  | .name text => some text
  | _ => none

theorem Lexeme.asTypeFound {lexeme : Lexeme} {type : DeclaredType} (found : lexeme.asType? = some type) :
    lexeme = .typeName type := by
  cases lexeme with
  | typeName other => exact congrArg Lexeme.typeName (Option.some.inj found)
  | _ => cases found

theorem Lexeme.asNameFound {lexeme : Lexeme} {text : String} (found : lexeme.asName? = some text) :
    lexeme = .name text := by
  cases lexeme with
  | name other => exact congrArg Lexeme.name (Option.some.inj found)
  | _ => cases found

def Pass.course (options : Options) (source : String) : Course :=
  let delivery := (Scanner.ofSource options.rule source).delivery
  (Pass.run delivery.fault delivery.tokens {}).after (Pass.headerOperations options.header)

namespace Compiler

def Ends (outcome : Except CompileError Unit) (progress : Progress) : Except Stop Control → Prop
  | .ok control => outcome = .ok () ∧ progress.control .finished = control
  | .error (.lex error) => outcome = .error (.lex error)
  | .error (.refused expected found rest) =>
    outcome = .error (.grammar { expected, found }) ∧
      (found.isStreamEnd = false → ∃ fault, Reads Lookahead.consume progress.ahead rest fault)

def Agrees (result : Except CompileError Unit × Progress) (writer : Writer) (course : Course) :
    Prop :=
  match (performAll course.operations).runFrom writer with
  | (.ok (), out) => result.2.out = out ∧ Ends result.1 result.2 course.ending
  | (.error error, out) => result.2.out = out ∧ result.1 = .error (.io error)

theorem agreesAfter {result writer} {course : Course} {operation : Operation} {out}
    (performed : operation.perform.runFrom writer = (.ok (), out))
    (agrees : Agrees result out course) : Agrees result writer (course.after [operation]) := by
  unfold Agrees at *
  simpa only [Course.afterOperations, List.singleton_append, Target.performAllCons, performed,
    Course.afterEnding] using agrees

theorem agreesFailed {progress : Progress} {writer} {course : Course} {operation : Operation} {error out}
    (failed : operation.perform.runFrom writer = (.error error, out)) (wrote : progress.out = out) :
    Agrees (.error (.io error), progress) writer (course.after [operation]) := by
  unfold Agrees
  simp only [Course.afterOperations, List.singleton_append, Target.performAllCons, failed]
  exact ⟨wrote, trivial⟩

section
variable {progress : Progress} {token : Token} {tokens : List Token} {fault : Option LexError}
  {course : Course}

theorem emitAgrees (operation : Operation) {next : Compiler Unit}
    (follows : ∀ out, operation.perform.runFrom progress.out = (.ok (), out) →
      Agrees (next.runFrom { progress with out }) out course) :
    Agrees ((do emit operation.perform; next).runFrom progress) progress.out
      (course.after [operation]) := by
  rw [Step.runFromBind, emit, Step.runFromOnPart]
  cases h : operation.perform.runFrom progress.out with
  | mk outcome out =>
    cases outcome with
    | ok done => exact agreesAfter h (follows out h)
    | error error => exact agreesFailed h rfl

theorem agreesLex {error : LexError} {control : Control} :
    Agrees (.error (.lex error), progress) progress.out (Pass.run (some error) [] control) :=
  ⟨rfl, rfl⟩

theorem agreesRefused {expected : Expected} {ahead : Lookahead}
    (rest : token.isStreamEnd = false → Reads Lookahead.consume ahead tokens fault) :
    Agrees (.error (.grammar { expected, found := token }), { progress with ahead }) progress.out
      ⟨[], .error (.refused expected token tokens)⟩ :=
  ⟨rfl, rfl, fun goesOn => ⟨fault, rest goesOn⟩⟩

theorem readRun {α : Type} {step : Lookahead.Read α} {outcome ahead}
    (h : step.runFrom progress.ahead = (outcome, ahead)) :
    (read step).runFrom progress = (outcome.mapError .lex, { progress with ahead }) := by
  rw [read, Step.runFromOnPart, h]

theorem peekAgrees {next : Lexeme → Compiler Unit}
    (reads : Reads Lookahead.consume progress.ahead (token :: tokens) fault)
    (follows : ∀ ahead, Reads Lookahead.consume ahead (token :: tokens) fault →
      Agrees ((next token.lexeme).runFrom { progress with ahead }) progress.out course) :
    Agrees ((do next (← peek)).runFrom progress) progress.out course := by
  obtain ⟨ahead, found, again⟩ := Lookahead.peekReads reads
  rw [Step.runFromBind, peek, Step.runFromBind, readRun found]
  exact follows ahead again

theorem peekAgreesFault {next : Lexeme → Compiler Unit} {control : Control}
    (reads : Reads Lookahead.consume progress.ahead [] fault) :
    Agrees ((do next (← peek)).runFrom progress) progress.out (Pass.run fault [] control) := by
  obtain ⟨error, ahead, rfl, failed⟩ := Lookahead.peekFault reads
  rw [Step.runFromBind, peek, Step.runFromBind, readRun failed]
  exact agreesLex

theorem expectAgrees {α : Type} {expected : Expected} {accept : Lexeme → Option α}
    {next : α × Position → Compiler Unit} {value : α}
    (reads : Reads Lookahead.consume progress.ahead (token :: tokens) fault)
    (goesOn : token.isStreamEnd = false) (takes : accept token.lexeme = some value)
    (follows : ∀ ahead, Reads Lookahead.consume ahead tokens fault →
      Agrees ((next (value, token.pos)).runFrom { progress with ahead }) progress.out course) :
    Agrees ((do next (← expect expected accept)).runFrom progress) progress.out course := by
  obtain ⟨ahead, found, _, rest⟩ := readsHead reads
  rw [Step.runFromBind, expect, Step.runFromBind, consume, readRun found]
  simp only [Lookahead.mapErrorOk, takes]
  exact follows ahead (rest goesOn)

theorem expectAgreesRefused {α : Type} {expected : Expected} {accept : Lexeme → Option α}
    {next : α × Position → Compiler Unit}
    (reads : Reads Lookahead.consume progress.ahead (token :: tokens) fault)
    (refuses : accept token.lexeme = none) :
    Agrees ((do next (← expect expected accept)).runFrom progress) progress.out
      ⟨[], .error (.refused expected token tokens)⟩ := by
  obtain ⟨ahead, found, _, rest⟩ := readsHead reads
  rw [Step.runFromBind, expect, Step.runFromBind, consume, readRun found]
  simp only [Lookahead.mapErrorOk, refuses]
  exact agreesRefused rest

theorem expectAgreesFault {α : Type} {expected : Expected} {accept : Lexeme → Option α}
    {next : α × Position → Compiler Unit} {control : Control}
    (reads : Reads Lookahead.consume progress.ahead [] fault) :
    Agrees ((do next (← expect expected accept)).runFrom progress) progress.out
      (Pass.run fault [] control) := by
  obtain ⟨error, ahead, rfl, failed⟩ := readsFault reads
  rw [Step.runFromBind, expect, Step.runFromBind, consume, readRun failed]
  exact agreesLex

theorem lexemeAgrees {lexeme : Lexeme} {next : Compiler Unit}
    (reads : Reads Lookahead.consume progress.ahead (token :: tokens) fault)
    (same : token.lexeme = lexeme) (goesOn : token.isStreamEnd = false)
    (follows : ∀ ahead, Reads Lookahead.consume ahead tokens fault →
      Agrees (next.runFrom { progress with ahead }) progress.out course) :
    Agrees ((do expectLexeme lexeme; next).runFrom progress) progress.out course := by
  rw [expectLexeme, bind_assoc]
  refine expectAgrees reads goesOn (if_pos same) ?_
  simpa only [pure_bind] using follows

end

/- From any progress in this phase, the action comes to what the machine comes to. The tokens left are
at most `bound`. -/
def Follows (action : Compiler Unit) (phase : Phase) (bound : Nat) : Prop :=
  ∀ (progress : Progress) {tokens fault}, Reads Lookahead.consume progress.ahead tokens fault →
    tokens.length ≤ bound →
    Agrees (action.runFrom progress) progress.out (Pass.run fault tokens (progress.control phase))

def FollowsSettled (action : Compiler Unit) (frame : Frame) (depth bound : Nat) : Prop :=
  ∀ (progress : Progress) (phase : Phase) {tokens fault},
    Reads Lookahead.consume progress.ahead tokens fault → tokens.length ≤ bound →
    Agrees (action.runFrom progress) progress.out
      ((Pass.run fault tokens ((progress.control phase).settle frame depth).2).after
        ((progress.control phase).settle frame depth).1)

theorem acceptedGoesOn {α : Type} {accept : Lexeme → Option α} (noEnd : accept .streamEnd = none)
    {token : Token} {value : α} (takes : accept token.lexeme = some value) :
    token.isStreamEnd = false := by
  obtain ⟨lexeme, pos⟩ := token
  cases lexeme with
  | streamEnd => cases noEnd.symm.trans takes
  | _ => rfl

theorem expectFollows {α : Type} {expected : Expected} {accept : Lexeme → Option α} {phase : Phase}
    {bound : Nat} {next : α × Position → Compiler Unit} (noEnd : accept .streamEnd = none)
    (refuses : ∀ (control : Control) (token : Token), control.phase = phase →
      accept token.lexeme = none → control.step token = Control.refuse expected)
    (takes : ∀ (progress : Progress) (token : Token) (value : α) {tokens fault},
      Reads Lookahead.consume progress.ahead tokens fault → tokens.length < bound →
      accept token.lexeme = some value →
      Agrees ((next (value, token.pos)).runFrom progress) progress.out
        (Pass.run fault (token :: tokens) (progress.control phase))) :
    Follows (do next (← expect expected accept)) phase bound := by
  intro progress tokens fault reads within
  cases tokens with
  | nil => exact expectAgreesFault reads
  | cons token rest =>
    cases accepted : accept token.lexeme with
    | some value =>
      exact expectAgrees reads (acceptedGoesOn noEnd accepted) accepted fun ahead after =>
        takes { progress with ahead } token value after within accepted
    | none =>
      rw [Pass.runRefused (refuses (progress.control phase) token rfl accepted)]
      exact expectAgreesRefused reads accepted

theorem lexemeFollows {lexeme : Lexeme} {phase : Phase} {bound : Nat} {next : Compiler Unit}
    (noEnd : lexeme ≠ .streamEnd)
    (refuses : ∀ (control : Control) (token : Token), control.phase = phase →
      token.lexeme ≠ lexeme → control.step token = Control.refuse (Pass.expectation lexeme))
    (takes : ∀ (progress : Progress) (token : Token) {tokens fault},
      Reads Lookahead.consume progress.ahead tokens fault → tokens.length < bound →
      token.lexeme = lexeme → Agrees (next.runFrom progress) progress.out
        (Pass.run fault (token :: tokens) (progress.control phase))) :
    Follows (do expectLexeme lexeme; next) phase bound := by
  rw [expectLexeme, bind_assoc]
  refine expectFollows (if_neg (Ne.symm noEnd)) ?_ ?_
  · intro control token here none
    exact refuses control token here (by simpa using none)
  · intro progress token value tokens fault reads within some
    exact takes progress token reads within (by simpa using some)

/- Every type name is found among the known types, so a token is refused for its kind or not at all. -/
theorem expectTypeTakes : expectType = (do
    let (type, _) ← expect (.token (some .typeName) none) Lexeme.asType?
    return type) := by
  simp only [expectType, expectKind, expect, bind_assoc]
  congr 1
  funext token
  obtain ⟨lexeme, pos⟩ := token
  cases lexeme with
  | typeName type =>
    simp [Lexeme.kind, Lexeme.asType?, Token.text?, Lexeme.text?, DeclaredType.ofTextKnown]
  | _ => rfl

theorem expectNameTakes : expectName = expect (.token (some .name) none) Lexeme.asName? := by
  simp only [expectName, expectKind, expect, bind_assoc]
  congr 1
  funext token
  obtain ⟨lexeme, pos⟩ := token
  cases lexeme with
  | _ => rfl

theorem closeParensFollows {frame : Frame} {bound : Nat} {next : Compiler Unit}
    (follows : FollowsSettled next frame 0 bound) (depth : Nat) :
    FollowsSettled (do closeParens depth; next) frame depth bound := by
  induction depth with
  | zero => exact follows
  | succ depth ih =>
    intro progress phase tokens fault reads within
    show Agrees ((do (do expectLexeme (.symbol .closeParen); closeParens depth); next).runFrom
      progress) progress.out (Pass.run fault tokens (progress.control (.closing frame depth)))
    rw [bind_assoc]
    refine lexemeFollows (by decide) ?_ ?_ progress reads within
    · intro control token here different
      simp only [Control.step, here, Control.stepClosing, if_neg different]
    · intro progress token tokens fault reads within same
      have moved : (progress.control (.closing frame depth)).step token =
          (progress.control (.closing frame depth)).settled frame depth [] := if_pos same
      rw [Pass.runMoved moved]
      exact ih progress (.closing frame depth) reads (Nat.le_of_lt within)

theorem inputCloseFollows {frame : Frame} {depth bound : Nat} {next : Compiler Unit}
    (follows : FollowsSettled next frame depth bound) :
    Follows (do expectLexeme (.symbol .closeParen); emit Writer.inputCall; next)
      (.inputClose frame depth) bound := by
  refine lexemeFollows (by decide) ?_ ?_
  · intro control token here different
    simp only [Control.step, here, if_neg different]
  · intro progress token tokens fault reads within same
    have moved : (progress.control (.inputClose frame depth)).step token =
        (progress.control (.inputClose frame depth)).settled frame depth [.inputCall] := if_pos same
    rw [Pass.runMoved moved, ← Course.afterAfter]
    refine emitAgrees .inputCall fun out performed => ?_
    exact follows { progress with out } _ reads (Nat.le_of_lt within)

theorem inputParensFollows {frame : Frame} {depth bound : Nat} {next : Compiler Unit}
    (follows : FollowsSettled next frame depth bound) :
    Follows (do inputParens; emit Writer.inputCall; next) (.inputParens frame depth) bound := by
  intro progress tokens fault reads within
  rw [inputParens, bind_assoc]
  cases tokens with
  | nil => exact peekAgreesFault reads
  | cons token rest =>
    refine peekAgrees reads fun ahead reads => ?_
    by_cases parens : token.lexeme = .symbol .openParen
    · have moved : (progress.control (.inputParens frame depth)).step token =
          (progress.control (.inputParens frame depth)).go (.inputClose frame depth) [] := if_pos parens
      simp only [if_pos parens, bind_assoc]
      rw [Pass.runMoved moved]
      refine lexemeAgrees reads parens (by simp [Token.isStreamEnd, Token.kind, parens, Lexeme.kind])
        fun ahead reads => ?_
      simp only [List.length_cons] at within
      exact inputCloseFollows follows { progress with ahead } reads (by omega)
    · simp only [if_neg parens, pure_bind]
      rw [Pass.runResumed parens rfl]
      refine emitAgrees .inputCall fun out performed => ?_
      exact follows { progress with ahead, out } _ reads within

theorem resolveRun (progress : Progress) (name : String) (pos : Position) :
    ∃ resolved : Progress, (resolve name pos).runFrom progress = (.ok (), resolved) ∧
      resolved.out = progress.out ∧ resolved.ahead = progress.ahead ∧
      ∀ phase, resolved.control phase = (progress.control phase).resolve name pos := by
  unfold resolve
  rw [Step.runFromBind, Step.runFromGet]
  cases declared : progress.scopes.isDeclared name with
  | true =>
    refine ⟨progress, by simp [declared], rfl, rfl, fun phase => ?_⟩
    simp [Control.resolve, Progress.control, declared]
  | false =>
    refine ⟨{ progress with pending := progress.pending ++ [⟨.undeclared, name, pos⟩] },
      by simp only [declared]; rfl, rfl, rfl, fun phase => ?_⟩
    simp [Control.resolve, Progress.control, declared, Control.remark]

theorem declareRun (progress : Progress) (name : String) (type : DeclaredType) (pos : Position) :
    ∃ declared : Progress, (declare name type pos).runFrom progress = (.ok (), declared) ∧
      declared.out = progress.out ∧ declared.ahead = progress.ahead ∧
      ∀ phase, declared.control phase = (progress.control phase).declare name type pos := by
  unfold declare
  rw [Step.runFromBind, Step.runFromGet]
  cases h : progress.scopes.declare name type with
  | mk previous scopes =>
    cases previous with
    | none =>
      refine ⟨{ progress with scopes }, by simp only [h]; rfl, rfl, rfl, fun phase => ?_⟩
      simp [Control.declare, Progress.control, h]
    | some type =>
      refine ⟨{ progress with scopes, pending := progress.pending ++ [⟨.redeclared, name, pos⟩] },
        by simp only [h]; rfl, rfl, rfl, fun phase => ?_⟩
      simp [Control.declare, Progress.control, h, Control.remark]

theorem resolveAgrees {progress : Progress} {name : String} {pos : Position} {next : Compiler Unit}
    {course : Course}
    (follows : ∀ resolved : Progress, resolved.out = progress.out →
      resolved.ahead = progress.ahead →
      (∀ phase, resolved.control phase = (progress.control phase).resolve name pos) →
      Agrees (next.runFrom resolved) resolved.out course) :
    Agrees ((do resolve name pos; next).runFrom progress) progress.out course := by
  obtain ⟨resolved, ran, out, ahead, control⟩ := resolveRun progress name pos
  rw [Step.runFromBind, ran, ← out]
  exact follows resolved out ahead control

theorem referenceFollows {frame : Frame} {depth bound : Nat} {next : Compiler Unit}
    (follows : FollowsSettled next frame depth bound) (progress : Progress) {token : Token}
    {tokens : List Token} {fault : Option LexError}
    (reads : Reads Lookahead.consume progress.ahead (token :: tokens) fault)
    (within : tokens.length < bound) {text : String} (is : token.lexeme = .name text) :
    Agrees ((do reference; next).runFrom progress) progress.out
      (Pass.run fault (token :: tokens) (progress.control (.expression frame depth))) := by
  have moved : (progress.control (.expression frame depth)).step token =
      ((progress.control (.expression frame depth)).resolve text token.pos).settled frame depth
        [.name text] := by
    simp only [Control.step, Progress.control, Control.stepExpression, is]
  obtain ⟨ahead, found, _, rest⟩ := readsHead reads
  have reads := rest (by simp [Token.isStreamEnd, Token.kind, is, Lexeme.kind])
  have spelled : token.spelling = text := by simp [Token.spelling, Token.text?, is, Lexeme.text?]
  rw [Pass.runMoved moved, ← Course.afterAfter, reference, bind_assoc, Step.runFromBind, consume, readRun found]
  simp only [Lookahead.mapErrorOk, spelled, bind_assoc]
  refine emitAgrees (.name text) fun out performed => ?_
  refine resolveAgrees fun resolved _ same control => ?_
  have now : resolved.control (.expression frame depth) =
    (progress.control (.expression frame depth)).resolve text token.pos := control _
  rw [← now]
  exact follows resolved _ (by rw [same]; exact reads) (Nat.le_of_lt within)

theorem operandFollows {frame : Frame} {depth bound : Nat} {next : Compiler Unit}
    (follows : FollowsSettled next frame depth bound) (progress : Progress) {token : Token}
    {tokens : List Token} {fault : Option LexError}
    (reads : Reads Lookahead.consume progress.ahead (token :: tokens) fault)
    (within : tokens.length < bound) (noParens : token.lexeme ≠ .symbol .openParen) :
    Agrees ((do operand; next).runFrom progress) progress.out
      (Pass.run fault (token :: tokens) (progress.control (.expression frame depth))) := by
  rw [operand, bind_assoc]
  refine peekAgrees reads fun ahead reads => ?_
  have here : (progress.control (.expression frame depth)).step token =
    (progress.control (.expression frame depth)).stepExpression frame depth token := rfl
  unfold Control.stepExpression at here
  split
  · rename_i call
    rw [Pass.runMoved (by rw [here, call]; rfl), input, bind_assoc, bind_assoc]
    refine lexemeAgrees reads call (by simp [Token.isStreamEnd, Token.kind, call, Lexeme.kind])
      fun ahead reads => ?_
    exact inputParensFollows follows { progress with ahead } reads (Nat.le_of_lt within)
  · rename_i text name
    exact referenceFollows follows { progress with ahead } reads within name
  · rename_i noCall noName
    rw [expectNumber, bind_assoc, bind_assoc]
    by_cases number : ∃ value, token.lexeme = .number value
    · obtain ⟨value, is⟩ := number
      have moved : (progress.control (.expression frame depth)).step token =
          (progress.control (.expression frame depth)).settled frame depth [.number value] := by
        rw [here, is]
      rw [Pass.runMoved moved, ← Course.afterAfter]
      refine expectAgrees reads (by simp [Token.isStreamEnd, Token.kind, is, Lexeme.kind])
        (by rw [is]) fun ahead reads => ?_
      refine emitAgrees (.number value) fun out performed => ?_
      exact follows { progress with ahead, out } _ reads (Nat.le_of_lt within)
    · have refused : (progress.control (.expression frame depth)).step token =
          Control.refuse (.rule "an expression") := by
        rw [here]
        split <;> simp_all
      rw [Pass.runRefused refused]
      refine expectAgreesRefused reads ?_
      split
      · rename_i value is
        exact absurd ⟨value, is⟩ number
      · rfl

/- The bound on the opening parentheses is never reached: each of them is a token, and the bound counts
the tokens that are left. -/
theorem openParensFollows {frame : Frame} {bound : Nat} {next : Compiler Unit}
    (follows : ∀ depth, FollowsSettled (do closeParens depth; next) frame depth bound)
    (count depth : Nat) (progress : Progress) {tokens : List Token} {fault : Option LexError}
    (reads : Reads Lookahead.consume progress.ahead tokens fault) (within : tokens.length ≤ bound)
    (enough : tokens.length ≤ count) :
    Agrees ((do
      let opened ← openParens count
      operand
      closeParens (opened + depth)
      next).runFrom progress) progress.out
      (Pass.run fault tokens (progress.control (.expression frame depth))) := by
  induction count generalizing depth progress tokens with
  | zero =>
    obtain rfl : tokens = [] := List.eq_nil_of_length_eq_zero (by omega)
    rw [openParens, pure_bind, operand, bind_assoc]
    exact peekAgreesFault reads
  | succ count ih =>
    rw [openParens, bind_assoc]
    cases tokens with
    | nil => exact peekAgreesFault reads
    | cons token rest =>
      simp only [List.length_cons] at within enough
      refine peekAgrees reads fun ahead reads => ?_
      by_cases parens : token.lexeme = .symbol .openParen
      · have moved : (progress.control (.expression frame depth)).step token =
            (progress.control (.expression frame depth)).go (.expression frame (depth + 1)) [] := by
          simp only [Control.step, Progress.control, Control.stepExpression, parens]
        rw [Pass.runMoved moved]
        simp only [if_pos parens, bind_assoc]
        refine lexemeAgrees reads parens (by simp [Token.isStreamEnd, Token.kind, parens, Lexeme.kind])
          fun ahead reads => ?_
        simp only [pure_bind, Nat.add_assoc, Nat.add_comm 1 depth]
        exact ih (depth + 1) { progress with ahead } reads (by omega) (by omega)
      · simp only [if_neg parens, pure_bind, Nat.zero_add]
        exact operandFollows (follows depth) { progress with ahead } reads (by omega) parens

theorem expressionFollows {frame : Frame} {bound : Nat} {next : Compiler Unit}
    (follows : FollowsSettled next frame 0 bound) :
    Follows (do expression; next) (.expression frame 0) bound := by
  intro progress tokens fault reads within
  have enough := Lookahead.readsBound reads
  rw [expression, tokensLeft]
  simp only [bind_assoc, pure_bind]
  rw [Step.runFromBind, Step.runFromGet]
  exact openParensFollows (closeParensFollows follows) progress.ahead.bound 0 progress reads within
    enough

theorem finishFollows {bound : Nat} {next : Compiler Unit}
    (follows : Follows next .statement bound) :
    FollowsSettled (do finishStatement; next) .plain 0 bound := by
  intro progress phase tokens fault reads within
  rw [finishStatement]
  simp only [bind_assoc]
  rw [Step.runFromBind, Step.runFromGet]
  refine emitAgrees (.endLine progress.pending) fun out performed => ?_
  rw [Step.runFromBind, Step.runFromModify]
  exact follows _ reads within

theorem closePrintFollows {bound : Nat} {next : Compiler Unit}
    (follows : FollowsSettled next .plain 0 bound) :
    FollowsSettled (do emit Writer.closePrint; next) .print 0 bound := by
  intro progress phase tokens fault reads within
  have operations : ((progress.control phase).settle .print 0).1 =
    [.closePrint] ++ ((progress.control phase).settle .plain 0).1 := rfl
  rw [operations, ← Course.afterAfter]
  refine emitAgrees .closePrint fun out performed => ?_
  exact follows { progress with out } phase reads within

theorem printFollows {bound : Nat} {next : Compiler Unit}
    (follows : FollowsSettled next .plain 0 bound) (progress : Progress) {token : Token}
    {tokens : List Token} {fault : Option LexError}
    (reads : Reads Lookahead.consume progress.ahead (token :: tokens) fault)
    (within : tokens.length ≤ bound) (is : token.lexeme = .keyword .print) :
    Agrees ((do print; next).runFrom progress) progress.out
      (Pass.run fault (token :: tokens) (progress.control .statement)) := by
  have moved : (progress.control .statement).step token =
      (progress.control .statement).go (.expression .print 0) [.openPrint] := by
    simp only [Control.step, Progress.control, Control.stepStatement, is]
  rw [Pass.runMoved moved, print]
  simp only [bind_assoc]
  refine lexemeAgrees reads is (by simp [Token.isStreamEnd, Token.kind, is, Lexeme.kind])
    fun ahead reads => ?_
  refine emitAgrees .openPrint fun out performed => ?_
  exact expressionFollows (closePrintFollows follows) { progress with ahead, out } reads within

theorem inputFollows {bound : Nat} {next : Compiler Unit}
    (follows : FollowsSettled next .plain 0 bound) (progress : Progress) {token : Token}
    {tokens : List Token} {fault : Option LexError}
    (reads : Reads Lookahead.consume progress.ahead (token :: tokens) fault)
    (within : tokens.length ≤ bound) (is : token.lexeme = .keyword .input) :
    Agrees ((do input; next).runFrom progress) progress.out
      (Pass.run fault (token :: tokens) (progress.control .statement)) := by
  have moved : (progress.control .statement).step token =
      (progress.control .statement).go (.inputParens .plain 0) [] := by
    simp only [Control.step, Progress.control, Control.stepStatement, is]
  rw [Pass.runMoved moved, input]
  simp only [bind_assoc]
  refine lexemeAgrees reads is (by simp [Token.isStreamEnd, Token.kind, is, Lexeme.kind])
    fun ahead reads => ?_
  exact inputParensFollows follows { progress with ahead } reads within

theorem equalsFollows {bound : Nat} {next : Compiler Unit}
    (follows : FollowsSettled next .plain 0 bound) :
    Follows (do expectLexeme (.symbol .equals); emit Writer.equals; expression; next) .equals
      bound := by
  refine lexemeFollows (by decide) ?_ ?_
  · intro control token here different
    simp only [Control.step, here, if_neg different]
  · intro progress token tokens fault reads within same
    have moved : (progress.control .equals).step token =
        (progress.control .equals).go (.expression .plain 0) [.equals] := if_pos same
    rw [Pass.runMoved moved]
    refine emitAgrees .equals fun out performed => ?_
    exact expressionFollows follows { progress with out } reads (Nat.le_of_lt within)

theorem assignmentFollows {bound : Nat} {next : Compiler Unit}
    (follows : FollowsSettled next .plain 0 bound) (progress : Progress) {token : Token}
    {tokens : List Token} {fault : Option LexError}
    (reads : Reads Lookahead.consume progress.ahead (token :: tokens) fault)
    (within : tokens.length ≤ bound) {text : String} (is : token.lexeme = .name text) :
    Agrees ((do assignment; next).runFrom progress) progress.out
      (Pass.run fault (token :: tokens) (progress.control .statement)) := by
  have moved : (progress.control .statement).step token =
      ((progress.control .statement).resolve text token.pos).go .equals [.name text] := by
    simp only [Control.step, Progress.control, Control.stepStatement, is]
  rw [Pass.runMoved moved, assignment, expectNameTakes]
  simp only [bind_assoc]
  refine expectAgrees reads (by simp [Token.isStreamEnd, Token.kind, is, Lexeme.kind])
    (by rw [is, Lexeme.asName?]) fun ahead reads => ?_
  refine resolveAgrees fun resolved _ same control => ?_
  refine emitAgrees (.name text) fun out performed => ?_
  have now : resolved.control .equals =
      ((progress.control .statement).resolve text token.pos).turn .equals := by
    rw [control, Control.resolveTurn]
    rfl
  rw [← now]
  exact equalsFollows follows { resolved with out } (by rw [same]; exact reads) within

theorem declaredNameFollows {bound : Nat} {next : Compiler Unit}
    (follows : FollowsSettled next .plain 0 bound) (type : DeclaredType) :
    Follows (do
      let (name, pos) ← expectName
      declare name type pos
      emit (Writer.declaration name type)
      next) (.declaredName type) bound := by
  rw [expectNameTakes]
  refine expectFollows rfl ?_ ?_
  · intro control token here none
    simp only [Control.step, here]
    split
    · rename_i text is
      simp [is, Lexeme.asName?] at none
    · rfl
  · intro progress token text tokens fault reads within some
    have is : token.lexeme = .name text := Lexeme.asNameFound some
    have moved : (progress.control (.declaredName type)).step token =
        ((progress.control (.declaredName type)).declare text type token.pos).settled .plain 0
          [.declaration text type] := by
      simp only [Control.step, Progress.control, is]
    obtain ⟨declared, ran, out, ahead, control⟩ := declareRun progress text type token.pos
    rw [Pass.runMoved moved, ← Course.afterAfter, Step.runFromBind, ran, ← control, ← out]
    refine emitAgrees (.declaration text type) fun out performed => ?_
    exact follows { declared with out } _ (by rw [ahead]; exact reads) (Nat.le_of_lt within)

theorem typeNameFollows {bound : Nat} {next : Compiler Unit}
    (follows : FollowsSettled next .plain 0 bound) :
    Follows (do
      let type ← expectType
      let (name, pos) ← expectName
      declare name type pos
      emit (Writer.declaration name type)
      next) .typeName (bound + 1) := by
  rw [expectTypeTakes, bind_assoc]
  refine expectFollows rfl ?_ ?_
  · intro control token here none
    simp only [Control.step, here]
    split
    · rename_i type is
      simp [is, Lexeme.asType?] at none
    · rfl
  · intro progress token type tokens fault reads within some
    have is : token.lexeme = .typeName type := Lexeme.asTypeFound some
    have moved : (progress.control .typeName).step token =
        (progress.control .typeName).go (.declaredName type) [] := by
      simp only [Control.step, Progress.control, is]
    rw [Pass.runMoved moved]
    exact declaredNameFollows follows type progress reads (Nat.le_of_lt_succ within)

theorem declarationFollows {bound : Nat} {next : Compiler Unit}
    (follows : FollowsSettled next .plain 0 bound) (progress : Progress) {token : Token}
    {tokens : List Token} {fault : Option LexError}
    (reads : Reads Lookahead.consume progress.ahead (token :: tokens) fault)
    (within : tokens.length ≤ bound)
    (is : token.lexeme = .keyword .declare ∨ ∃ type, token.lexeme = .typeName type) :
    Agrees ((do declaration; next).runFrom progress) progress.out
      (Pass.run fault (token :: tokens) (progress.control .statement)) := by
  rw [declaration, declareWord]
  simp only [bind_assoc]
  refine peekAgrees reads fun ahead reads => ?_
  rcases is with word | ⟨type, is⟩
  · have moved : (progress.control .statement).step token =
        (progress.control .statement).go .typeName [] := by
      simp only [Control.step, Progress.control, Control.stepStatement, word]
    rw [Pass.runMoved moved]
    simp only [if_pos word]
    refine lexemeAgrees reads word (by simp [Token.isStreamEnd, Token.kind, word, Lexeme.kind])
      fun ahead reads => ?_
    exact typeNameFollows follows { progress with ahead } reads (Nat.le_succ_of_le within)
  · have noWord : token.lexeme ≠ .keyword .declare := by simp [is]
    have same : (progress.control .statement).step token =
        ((progress.control .typeName).step token).after [] := by
      simp only [Control.step, Progress.control, Control.stepStatement, is]
      rfl
    rw [Pass.runAfter same]
    simp only [if_neg noWord, pure_bind]
    exact typeNameFollows follows { progress with ahead } reads (Nat.succ_le_succ within)

theorem statementFollows {bound : Nat} {next : Compiler Unit}
    (follows : Follows next .statement bound) (progress : Progress) {token : Token}
    {tokens : List Token} {fault : Option LexError}
    (reads : Reads Lookahead.consume progress.ahead (token :: tokens) fault)
    (within : tokens.length ≤ bound) (goesOn : token.lexeme ≠ .streamEnd) :
    Agrees ((do statement; next).runFrom progress) progress.out
      (Pass.run fault (token :: tokens) (progress.control .statement)) := by
  have finishes := finishFollows follows
  rw [statement, statementBody]
  simp only [bind_assoc]
  refine peekAgrees reads fun ahead reads => ?_
  split
  · rename_i is
    exact printFollows finishes { progress with ahead } reads within is
  · rename_i is
    exact inputFollows finishes { progress with ahead } reads within is
  · rename_i is
    exact declarationFollows finishes { progress with ahead } reads within (.inl is)
  · rename_i type is
    exact declarationFollows finishes { progress with ahead } reads within (.inr ⟨type, is⟩)
  · rename_i text is
    exact assignmentFollows finishes { progress with ahead } reads within is
  · have refused : (progress.control .statement).step token =
        Control.refuse (.rule "a statement") := by
      simp only [Control.step, Progress.control, Control.stepStatement]
    obtain ⟨after, found, _, rest⟩ := readsHead reads
    rw [Pass.runRefused refused, bind_assoc, Step.runFromBind, consume, readRun found]
    exact agreesRefused rest

/- Each statement takes at least one token, so as many rounds as there are tokens are enough. -/
theorem statementsFollow (bound : Nat) :
    Follows (do statements bound; expectLexeme .streamEnd) .statement bound := by
  induction bound with
  | zero =>
    intro progress tokens fault reads within
    obtain rfl : tokens = [] := List.eq_nil_of_length_eq_zero (by omega)
    rw [statements, pure_bind, expectLexeme]
    exact expectAgreesFault reads
  | succ bound ih =>
    intro progress tokens fault reads within
    rw [statements, bind_assoc]
    cases tokens with
    | nil => exact peekAgreesFault reads
    | cons token rest =>
      refine peekAgrees reads fun ahead reads => ?_
      by_cases ends : token.lexeme = .streamEnd
      · have moved : (progress.control .statement).step token =
            (progress.control .statement).go .finished [] := by
          simp only [Control.step, Progress.control, Control.stepStatement, ends]
        have last : token.isStreamEnd = true := by simp [Token.isStreamEnd, Token.kind, ends, Lexeme.kind]
        obtain ⟨after, found, nothing, _⟩ := readsHead reads
        obtain ⟨rfl, rfl⟩ := nothing last
        rw [Pass.runMoved moved]
        simp only [if_pos ends, pure_bind]
        rw [expectLexeme, Step.runFromBind, expect, Step.runFromBind, consume, readRun found]
        simp only [Lookahead.mapErrorOk, if_pos ends]
        exact ⟨rfl, rfl, rfl⟩
      · simp only [if_neg ends, bind_assoc]
        exact statementFollows ih { progress with ahead } reads (Nat.le_of_succ_le_succ within) ends

theorem fileFollows (bound : Nat) : Follows file .start bound := by
  unfold file
  refine lexemeFollows (by decide) ?_ ?_
  · intro control token here different
    simp only [Control.step, here, if_neg different]
  · intro progress token tokens fault reads within same
    have moved : (progress.control .start).step token = (progress.control .start).go .statement [] :=
      if_pos same
    rw [Pass.runMoved moved, tokensLeft]
    simp only [bind_assoc, pure_bind]
    rw [Step.runFromBind, Step.runFromGet]
    exact statementsFollow progress.ahead.bound progress reads (Lookahead.readsBound reads)

theorem headerAgrees {progress : Progress} (header : Bool) {next : Compiler Unit} {course : Course}
    (follows : ∀ out, Agrees (next.runFrom { progress with out }) out course) :
    Agrees ((do headerLine header; next).runFrom progress) progress.out
      (course.after (Pass.headerOperations header)) := by
  cases header with
  | true => exact emitAgrees .header fun out _ => follows out
  | false => exact follows progress.out

theorem startAgrees (options : Options) (source : String) (sink : Sink) :
    Agrees ((do headerLine options.header; file).runFrom (.entered (.start options source sink)))
      { sink, annotate := options.annotate } (Pass.course options source) :=
  headerAgrees options.header fun out =>
    fileFollows _ { Progress.entered (.start options source sink) with out }
      (Lookahead.sourceReads options.rule source) (Nat.le_refl _)

end Compiler

theorem endsError {outcome : Except CompileError Unit} {progress : Progress} {stop : Stop}
    (ends : Compiler.Ends outcome progress (.error stop)) (context : Nat) :
    ∃ error, outcome = .error error ∧
      error.withContext progress.ahead context = stop.error context := by
  cases stop with
  | lex error => exact ⟨.lex error, ends, rfl⟩
  | refused expected found rest =>
    obtain ⟨same, reads⟩ := ends
    refine ⟨_, same, ?_⟩
    simp only [CompileError.withContext, Violation.withContext, Stop.error]
    cases last : found.isStreamEnd with
    | true => simp
    | false =>
      obtain ⟨fault, reads⟩ := reads last
      simp [Lookahead.upcomingReads reads]

theorem Compiler.programParts (header : Bool) : program header = (do
    modify Progress.entered
    (do headerLine header; file)
    modify fun progress => { progress with scopes := progress.scopes.leave }
    emit Writer.flush) := by
  simp only [program, bind_assoc]
  rfl

theorem Compiler.programRun (header : Bool) (progress : Progress) :
    (program header).runFrom progress =
      match (do headerLine header; file).runFrom progress.entered with
      | (.ok (), last) => (emit Writer.flush).runFrom { last with scopes := last.scopes.leave }
      | (.error error, last) => (.error error, last) := by
  rw [programParts, Step.runFromBind, Step.runFromModify]
  simp only
  rw [Step.runFromBind]
  generalize Step.runFrom (do headerLine header; file) _ = pass
  obtain ⟨outcome, last⟩ := pass
  cases outcome with
  | ok done => rfl
  | error error => rfl

def Compiler.report (options : Options) (pass : Except CompileError Unit × Progress) :
    Except CompileError Summary × Sink :=
  match pass.1 with
  | .ok () => (.ok pass.2.summary, pass.2.out.sink)
  | .error error =>
    (.error (error.withContext pass.2.ahead options.context), pass.2.out.sink)

theorem reportFailed {outcome : Except CompileError Unit} {progress : Progress} {course : Course}
    {stop : Stop} (ending : course.ending = .error stop)
    (ends : Compiler.Ends outcome progress course.ending) (options : Options) (lines : Nat) :
    Compiler.report options (outcome, progress) =
      (course.verdict options.context lines, progress.out.sink) := by
  rw [ending] at ends
  obtain ⟨error, rfl, shown⟩ := endsError ends options.context
  simp only [Compiler.report, Course.verdict, ending, shown]

theorem reportFlushed {progress : Progress} {course : Course} {control : Control}
    (ending : course.ending = .ok control) (ends : progress.control .finished = control)
    (options : Options) :
    Compiler.report options
        ((Compiler.emit Writer.flush).runFrom { progress with scopes := progress.scopes.leave }) =
      match (performAll [.flush]).runFrom progress.out with
      | (.ok (), out) => (course.verdict options.context out.lines, out.sink)
      | (.error error, out) => (.error (.io error), out.sink) := by
  subst control
  rw [Target.performAllCons, Compiler.emit, Step.runFromOnPart]
  simp only [Operation.perform, Course.verdict, ending]
  rcases Writer.flush.runFrom progress.out with ⟨error | done, out⟩ <;> rfl

theorem compileRuns (options : Options) (source : String) (sink : Sink) :
    compile options source sink = (Pass.course options source).result options sink := by
  have reported : compile options source sink = Compiler.report options
    ((Compiler.program options.header).runFrom (.start options source sink)) := rfl
  have agrees := Compiler.startAgrees options source sink
  rw [reported, Compiler.programRun, Course.result]
  generalize Pass.course options source = course at agrees ⊢
  generalize Step.runFrom (do Compiler.headerLine options.header; Compiler.file) _ = pass at agrees ⊢
  obtain ⟨outcome, last⟩ := pass
  unfold Compiler.Agrees at agrees
  cases performed : (performAll course.operations).runFrom { sink, annotate := options.annotate } with
  | mk written out =>
    rw [performed] at agrees
    cases written with
    | error error =>
      obtain ⟨rfl, rfl⟩ := agrees
      cases ending : course.ending with
      | ok control => simp only [Course.allOperations, ending, Target.performAllAppend, performed]; rfl
      | error stop => simp only [Course.allOperations, ending, performed]; rfl
    | ok done =>
      obtain ⟨rfl, ends⟩ := agrees
      cases ending : course.ending with
      | ok control =>
        have ended := ends
        rw [ending] at ended
        obtain ⟨rfl, same⟩ := ended
        simp only [Course.allOperations, ending, Target.performAllAppend, performed]
        exact reportFlushed ending same options
      | error stop =>
        have failed := reportFailed ending ends options last.out.lines
        obtain ⟨error, rfl, _⟩ := endsError (ending ▸ ends) 0
        simp only [Course.allOperations, ending, performed]
        exact failed

end Linewise
