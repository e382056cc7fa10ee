import Linewise.Proofs.History
import Linewise.Proofs.Simulation

/-! The procedures of the compiler, each with what all of them keep to. On the way no scope is opened or closed,
whatever comes of it. A procedure that comes to its end has taken its tokens one after the other, and never the
end of the stream. -/
namespace Linewise

namespace Lookahead

inductive Draws : Lookahead → List Token → Lookahead → Prop where
  | none (ahead : Lookahead) : Draws ahead [] ahead
  | look {ahead middle after token taken} (looked : (peek 1).runFrom ahead = (.ok token, middle))
      (rest : Draws middle taken after) : Draws ahead taken after
  | take {ahead middle after token taken} (took : consume.runFrom ahead = (.ok token, middle))
      (rest : Draws middle taken after) : Draws ahead (token :: taken) after

theorem drawsTrans {ahead middle after : Lookahead} {taken more : List Token} (first : Draws ahead taken middle)
    (second : Draws middle more after) : Draws ahead (taken ++ more) after := by
  induction first with
  | none ahead => exact second
  | look looked rest ih => exact .look looked (ih second)
  | take took rest ih => exact .take took (ih second)

theorem peekConsume {ahead after : Lookahead} {token : Token} (looked : (peek 1).runFrom ahead = (.ok token, after)) :
    ∃ last, consume.runFrom after = (.ok token, last) := by
  rw [peekRun] at looked
  cases ran : consume.runFrom ahead with
  | mk outcome middle =>
    rw [ran] at looked
    cases outcome with
    | error error => cases looked
    | ok found =>
      cases looked
      exact ⟨middle, consumeQueued _ _ _⟩

end Lookahead

namespace Compiler

section
variable {α β : Type} {progress after : Progress}

theorem readFound {step : Lookahead.Read α} {value : α}
    (found : (read step).runFrom progress = (.ok value, after)) :
    step.runFrom progress.ahead = (.ok value, after.ahead) := by
  cases ran : step.runFrom progress.ahead with
  | mk outcome ahead =>
    rw [readRun ran] at found
    cases outcome with
    | error error => cases found
    | ok result =>
      cases found
      rfl

theorem peekFound {lexeme : Lexeme} (found : peek.runFrom progress = (.ok lexeme, after)) :
    ∃ token, (Lookahead.peek 1).runFrom progress.ahead = (.ok token, after.ahead) ∧ token.lexeme = lexeme := by
  obtain ⟨token, middle, looked, same⟩ := Step.bindFound found
  cases same
  exact ⟨token, readFound looked, rfl⟩

theorem expectFound {expected : Expected} {accept : Lexeme → Option α} {value : α} {pos : Position}
    (found : (expect expected accept).runFrom progress = (.ok (value, pos), after)) :
    ∃ token, Lookahead.consume.runFrom progress.ahead = (.ok token, after.ahead) ∧
      accept token.lexeme = some value ∧ token.pos = pos := by
  obtain ⟨token, middle, took, rest⟩ := Step.bindFound found
  cases accepted : accept token.lexeme with
  | none =>
    rw [accepted] at rest
    cases rest
  | some result =>
    rw [accepted] at rest
    cases rest
    exact ⟨token, readFound took, accepted, rfl⟩

/- As many scopes are open at any time as at the start, if there is one. -/
def Steady (action : Compiler α) (progress : Progress) : Prop :=
  0 < progress.scopes.depth → ∀ state ∈ action.visited progress, state.scopes.depth = progress.scopes.depth

def Consumes (least : Nat) (action : Compiler α) : Prop :=
  ∀ progress value after, action.runFrom progress = (.ok value, after) →
    ∃ taken, progress.ahead.Draws taken after.ahead ∧ least ≤ taken.length ∧
      ∀ token ∈ taken, token.isStreamEnd = false

structure OrderlyFrom (progress : Progress) (least : Nat) (action : Compiler α) : Prop where
  steady : Steady action progress
  takes : ∀ value after, action.runFrom progress = (.ok value, after) →
    ∃ taken, progress.ahead.Draws taken after.ahead ∧ least ≤ taken.length ∧
      ∀ token ∈ taken, token.isStreamEnd = false

def Orderly (least : Nat) (action : Compiler α) : Prop := ∀ progress, OrderlyFrom progress least action

variable {least more : Nat} {action : Compiler α} {next : α → Compiler β}

theorem Orderly.consumes (orderly : Orderly least action) : Consumes least action :=
  fun progress => (orderly progress).takes

theorem steadyBind (first : Steady action progress)
    (later : ∀ value after, action.runFrom progress = (.ok value, after) → Steady (next value) after) :
    Steady (action >>= next) progress := by
  intro opened state member
  have steady := first opened
  rcases Step.visitedBind member with earlier | ⟨value, after, ran, member⟩
  · exact steady state earlier
  · have same := steady _ (Step.visitedLeft action progress)
    rw [ran] at same
    exact (later value after ran (same ▸ opened) state member).trans same

theorem orderlyBindFrom (first : OrderlyFrom progress least action)
    (later : ∀ value after, action.runFrom progress = (.ok value, after) → OrderlyFrom after more (next value)) :
    OrderlyFrom progress (least + more) (action >>= next) where
  steady := steadyBind first.steady fun value after ran => (later value after ran).steady
  takes result last found := by
    obtain ⟨value, after, ran, rest⟩ := Step.bindFound found
    obtain ⟨taken, draws, enough, goOn⟩ := first.takes value after ran
    obtain ⟨further, again, enough', goOn'⟩ := (later value after ran).takes result last rest
    refine ⟨taken ++ further, Lookahead.drawsTrans draws again, ?_, ?_⟩
    · rw [List.length_append]
      exact Nat.add_le_add enough enough'
    · intro token member
      rcases List.mem_append.mp member with earlier | later
      · exact goOn token earlier
      · exact goOn' token later

theorem orderlyThen (first : Orderly least action) (later : ∀ value, Orderly 0 (next value)) :
    Orderly least (action >>= next) :=
  fun progress => orderlyBindFrom (first progress) fun value after _ => later value after

theorem orderlyAfterFrom (first : OrderlyFrom progress 0 action)
    (later : ∀ value after, action.runFrom progress = (.ok value, after) → OrderlyFrom after least (next value)) :
    OrderlyFrom progress least (action >>= next) := by
  have both := orderlyBindFrom first later
  rwa [Nat.zero_add] at both

theorem orderlyAfter (first : Orderly 0 action) (later : ∀ value, Orderly least (next value)) :
    Orderly least (action >>= next) :=
  fun progress => orderlyAfterFrom (first progress) fun value after _ => later value after

theorem orderlySome (orderly : Orderly least action) : Orderly 0 action := by
  intro progress
  refine ⟨(orderly progress).steady, ?_⟩
  intro value after found
  obtain ⟨taken, draws, _, goOn⟩ := (orderly progress).takes value after found
  exact ⟨taken, draws, Nat.zero_le _, goOn⟩

theorem orderlyAside (scopes : ∀ progress, Steady action progress)
    (same : ∀ progress, (action.runFrom progress).2.ahead = progress.ahead) : Orderly 0 action := by
  intro progress
  refine ⟨scopes progress, ?_⟩
  intro value after found
  have same := same progress
  rw [found] at same
  exact ⟨[], same ▸ .none _, Nat.le_refl 0, by simp⟩

theorem orderlyPure (value : α) : Orderly 0 (pure value : Compiler α) :=
  orderlyAside (by simp [Steady, Step.visited, pure, Step.done]) fun _ => rfl

theorem steadyRefuse (expected : Expected) (found : Token) (progress : Progress) :
    Steady (refuse expected found : Compiler α) progress := by
  simp [Steady, Step.visited, refuse, Step.fail, Step.once]

theorem orderlyRefuse (expected : Expected) (found : Token) : Orderly least (refuse expected found : Compiler α) := by
  intro progress
  refine ⟨steadyRefuse expected found progress, ?_⟩
  intro value after ran
  cases ran

theorem steadyRead (step : Lookahead.Read α) (progress : Progress) : Steady (read step) progress := by
  simp [Steady, Step.visited, read, Step.onPart]

theorem orderlyEmit (step : Target.Emit Unit) : Orderly 0 (emit step) :=
  orderlyAside (by simp [Steady, Step.visited, emit, Step.onPart]) fun _ => rfl

theorem orderlyState : Orderly 0 (get : Compiler Progress) :=
  orderlyAside (by simp [Steady, Step.visited, get, getThe, MonadStateOf.get, Step.once]) fun _ => rfl

theorem orderlyModify {change : Progress → Progress} (scopes : ∀ progress, (change progress).scopes = progress.scopes)
    (ahead : ∀ progress, (change progress).ahead = progress.ahead) : Orderly 0 (modify change : Compiler Unit) :=
  orderlyAside (by simp [Steady, Step.visited, modify, modifyGet, MonadStateOf.modifyGet, Step.once, scopes]) ahead

theorem orderlyPeek : Orderly 0 peek := by
  intro progress
  refine ⟨steadyBind (steadyRead _ _) fun _ _ _ => (orderlyPure _ _).steady, ?_⟩
  intro lexeme after found
  obtain ⟨token, looked, _⟩ := peekFound found
  exact ⟨[], .look looked (.none _), Nat.le_refl 0, by simp⟩

theorem steadyExpect (expected : Expected) (accept : Lexeme → Option α) (progress : Progress) :
    Steady (expect expected accept) progress := by
  apply steadyBind (steadyRead _ _)
  intro token after _
  split
  · exact (orderlyPure _ _).steady
  · exact steadyRefuse expected token after

theorem orderlyExpect {expected : Expected} {accept : Lexeme → Option α} (noEnd : accept .streamEnd = none) :
    Orderly 1 (expect expected accept) := by
  intro progress
  refine ⟨steadyExpect expected accept progress, ?_⟩
  intro found after ran
  obtain ⟨token, took, accepted, _⟩ := expectFound ran
  refine ⟨[token], .take took (.none _), Nat.le_refl 1, ?_⟩
  intro other member
  obtain rfl := List.mem_singleton.mp member
  exact acceptedGoesOn noEnd accepted

end

theorem orderlyLexeme {lexeme : Lexeme} (noEnd : lexeme ≠ .streamEnd) : Orderly 1 (expectLexeme lexeme) :=
  orderlyThen (orderlyExpect (if_neg (Ne.symm noEnd))) fun _ => orderlyPure ()

theorem orderlyKind {kind : TokenKind} (noEnd : kind ≠ .streamEnd) : Orderly 1 (expectKind kind) :=
  orderlyThen (orderlyExpect (if_neg (Ne.symm noEnd))) fun _ => orderlyPure _

theorem orderlyType : Orderly 1 expectType := by
  apply orderlyThen (orderlyKind (by decide))
  intro token
  split
  · exact orderlyPure _
  · exact orderlyRefuse _ _

theorem orderlyName : Orderly 1 expectName := orderlyThen (orderlyKind (by decide)) fun _ => orderlyPure _

theorem orderlyNumber : Orderly 1 expectNumber := orderlyThen (orderlyExpect rfl) fun _ => orderlyPure _

theorem orderlyRemark (kind : DiagnosticKind) (name : String) (pos : Position) : Orderly 0 (remark kind name pos) :=
  orderlyModify (fun _ => rfl) fun _ => rfl

theorem orderlyResolve (name : String) (pos : Position) : Orderly 0 (resolve name pos) := by
  apply orderlyAfter orderlyState
  intro progress
  split
  · exact orderlyPure ()
  · exact orderlyRemark _ _ _

theorem steadyDeclare (name : String) (type : DeclaredType) (pos : Position) (progress : Progress) :
    Steady (declare name type pos) progress := by
  apply steadyBind (orderlyState progress).steady
  intro state after ran
  cases ran
  have depth := Scopes.declareDepth progress.scopes name type
  cases declared : progress.scopes.declare name type with
  | mk previous scopes =>
    rw [declared] at depth
    apply steadyBind
    · intro opened state member
      rw [if_neg (Nat.ne_of_gt opened)] at depth
      rcases List.mem_cons.mp member with rfl | changed
      · rfl
      · cases List.mem_singleton.mp changed
        exact depth
    · intro _ after _
      split
      · exact (orderlyRemark _ _ _ after).steady
      · exact (orderlyPure () after).steady

theorem orderlyDeclare (name : String) (type : DeclaredType) (pos : Position) :
    Orderly 0 (declare name type pos) := by
  apply orderlyAside (steadyDeclare name type pos)
  intro progress
  obtain ⟨declared, run, _, same, _⟩ := declareRun progress name type pos
  rw [run]
  exact same

theorem orderlyInputParens : Orderly 0 inputParens := by
  apply orderlyAfter orderlyPeek
  intro lexeme
  split
  · exact orderlyAfter (orderlySome (orderlyLexeme (by simp))) fun _ => orderlySome (orderlyLexeme (by simp))
  · exact orderlyPure ()

theorem orderlyInput : Orderly 1 input :=
  orderlyThen (orderlyLexeme (by simp)) fun _ => orderlyThen orderlyInputParens fun _ => orderlyEmit _

theorem orderlyConsume {progress : Progress} {token : Token} {ahead : Lookahead}
    (takes : Lookahead.consume.runFrom progress.ahead = (.ok token, ahead)) (goesOn : token.isStreamEnd = false) :
    OrderlyFrom progress 1 consume := by
  refine ⟨steadyRead _ _, ?_⟩
  intro found after ran
  have took := readFound ran
  cases takes.symm.trans took
  exact ⟨[token], .take took (.none _), Nat.le_refl 1, by simpa using goesOn⟩

/- A name is consumed without a further check. It was looked at before, and so it is no end of the stream. -/
theorem orderlyOperand : Orderly 1 operand := by
  intro progress
  have named (text : String) (after : Progress) (peeked : peek.runFrom progress = (.ok (.name text), after)) :
      OrderlyFrom after 1 reference := by
    obtain ⟨token, looked, name⟩ := peekFound peeked
    obtain ⟨ahead, takes⟩ := Lookahead.peekConsume looked
    have goesOn : token.isStreamEnd = false := by simp [Token.isStreamEnd, Token.kind, name, Lexeme.kind]
    exact orderlyBindFrom (orderlyConsume takes goesOn) fun found after _ =>
      orderlyThen (orderlyEmit _) (fun _ => orderlyResolve _ _) after
  apply orderlyAfterFrom (orderlyPeek progress)
  intro lexeme after peeked
  split
  · exact orderlyInput after
  · exact named _ after peeked
  · exact orderlyThen orderlyNumber (fun _ => orderlyEmit _) after

theorem orderlyOpening : Orderly 1 (expectLexeme (.symbol .openParen)) := orderlyLexeme (by simp)

theorem orderlyOpenParens (bound : Nat) : Orderly 0 (openParens bound) := by
  induction bound with
  | zero => exact orderlyPure 0
  | succ bound ih =>
    apply orderlyAfter orderlyPeek
    intro lexeme
    split
    · exact orderlyAfter (orderlySome orderlyOpening) fun _ => orderlyThen ih fun _ => orderlyPure _
    · exact orderlyPure 0

theorem orderlyCloseParens (count : Nat) : Orderly 0 (closeParens count) := by
  induction count with
  | zero => exact orderlyPure ()
  | succ count ih => exact orderlyAfter (orderlySome (orderlyLexeme (by simp))) fun _ => ih

theorem orderlyTokensLeft : Orderly 0 tokensLeft := orderlyThen orderlyState fun _ => orderlyPure _

theorem orderlyExpression : Orderly 1 expression :=
  orderlyAfter orderlyTokensLeft fun bound => orderlyAfter (orderlyOpenParens bound) fun depth =>
    orderlyThen orderlyOperand fun _ => orderlyCloseParens depth

theorem orderlyPrint : Orderly 1 print :=
  orderlyThen (orderlyLexeme (by simp)) fun _ => orderlyAfter (orderlyEmit _) fun _ =>
    orderlyThen (orderlySome orderlyExpression) fun _ => orderlyEmit _

theorem orderlyDeclareWord : Orderly 0 declareWord := by
  apply orderlyAfter orderlyPeek
  intro lexeme
  split
  · exact orderlySome (orderlyLexeme (by simp))
  · exact orderlyPure ()

theorem orderlyDeclaration : Orderly 1 declaration :=
  orderlyAfter orderlyDeclareWord fun _ => orderlyThen orderlyType fun _ =>
    orderlyAfter (orderlySome orderlyName) fun _ =>
      orderlyThen (orderlyDeclare _ _ _) fun _ => orderlyEmit _

theorem orderlyAssignment : Orderly 1 assignment :=
  orderlyThen orderlyName fun _ => orderlyAfter (orderlyResolve _ _) fun _ =>
    orderlyAfter (orderlyEmit _) fun _ => orderlyAfter (orderlySome (orderlyLexeme (by simp))) fun _ =>
      orderlyAfter (orderlyEmit _) fun _ => orderlySome orderlyExpression

theorem orderlyBody : Orderly 1 statementBody := by
  apply orderlyAfter orderlyPeek
  intro lexeme
  split
  · exact orderlyPrint
  · exact orderlyInput
  · exact orderlyDeclaration
  · exact orderlyDeclaration
  · exact orderlyAssignment
  · intro progress
    refine ⟨steadyBind (steadyRead _ _) fun token after _ => steadyRefuse _ token after, ?_⟩
    intro value after found
    obtain ⟨_, _, _, refused⟩ := Step.bindFound found
    cases refused

theorem orderlyFinish : Orderly 0 finishStatement :=
  orderlyAfter orderlyState fun _ => orderlyThen (orderlyEmit _) fun _ =>
    orderlyModify (fun _ => rfl) fun _ => rfl

theorem orderlyStatement : Orderly 1 statement := orderlyThen orderlyBody fun _ => orderlyFinish

theorem orderlyStatements (bound : Nat) : Orderly 0 (statements bound) := by
  induction bound with
  | zero => exact orderlyPure ()
  | succ bound ih =>
    apply orderlyAfter orderlyPeek
    intro lexeme
    split
    · exact orderlyPure ()
    · exact orderlyAfter (orderlySome orderlyStatement) fun _ => ih

end Compiler

end Linewise
