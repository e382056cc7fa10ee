import Linewise.Proofs.Program
import Linewise.Proofs.Reading

/-! The machine accepts token by token what the grammar derives. `Takes` says which tokens a phase takes and
where they lead. What was read up to a phase is the beginning of a file, of a shape that the phase shows,
so nothing is taken that no file begins with; and a file is taken whole. -/
namespace Linewise.Pass

open Grammar (Sentence Viable)

def settledPhase (frame : Frame) : Nat → Phase
  | 0 => .statement
  | depth + 1 => .closing frame depth

inductive Takes : Phase → Token → Phase → Prop where
  | start (pos) : Takes .start ⟨.streamStart, pos⟩ .statement
  | print (pos) : Takes .statement ⟨.keyword .print, pos⟩ (.expression .print 0)
  | input (pos) : Takes .statement ⟨.keyword .input, pos⟩ (.inputParens .plain 0)
  | declare (pos) : Takes .statement ⟨.keyword .declare, pos⟩ .typeName
  | type (type pos) : Takes .statement ⟨.typeName type, pos⟩ (.declaredName type)
  | target (name pos) : Takes .statement ⟨.name name, pos⟩ .equals
  | finish (pos) : Takes .statement ⟨.streamEnd, pos⟩ .finished
  | declaredType (type pos) : Takes .typeName ⟨.typeName type, pos⟩ (.declaredName type)
  | declaredName (type name pos) : Takes (.declaredName type) ⟨.name name, pos⟩ .statement
  | equals (pos) : Takes .equals ⟨.symbol .equals, pos⟩ (.expression .plain 0)
  | call (frame depth pos) :
      Takes (.expression frame depth) ⟨.keyword .input, pos⟩ (.inputParens frame depth)
  | group (frame depth pos) :
      Takes (.expression frame depth) ⟨.symbol .openParen, pos⟩ (.expression frame (depth + 1))
  | name (frame depth text pos) :
      Takes (.expression frame depth) ⟨.name text, pos⟩ (settledPhase frame depth)
  | number (frame depth value pos) :
      Takes (.expression frame depth) ⟨.number value, pos⟩ (settledPhase frame depth)
  | inputOpen (frame depth pos) :
      Takes (.inputParens frame depth) ⟨.symbol .openParen, pos⟩ (.inputClose frame depth)
  /-- The call had no parentheses, and was complete before. -/
  | resumed {frame depth token phase} (noOpen : token.lexeme ≠ .symbol .openParen)
      (takes : Takes (settledPhase frame depth) token phase) :
      Takes (.inputParens frame depth) token phase
  | inputClose (frame depth pos) :
      Takes (.inputClose frame depth) ⟨.symbol .closeParen, pos⟩ (settledPhase frame depth)
  | close (frame depth pos) :
      Takes (.closing frame depth) ⟨.symbol .closeParen, pos⟩ (settledPhase frame depth)

def wanted : Phase → Expected
  | .start => expectation .streamStart
  | .statement => .rule "a statement"
  | .typeName => .token (some .typeName) none
  | .declaredName _ => .token (some .name) none
  | .equals => expectation (.symbol .equals)
  | .expression _ _ => .rule "an expression"
  | .inputParens _ 0 => .rule "a statement"
  | .inputParens _ (_ + 1) | .inputClose _ _ | .closing _ _ => expectation (.symbol .closeParen)
  | .finished => .rule "nothing"

theorem settlePhase (control : Control) (frame : Frame) (depth : Nat) :
    (control.settle frame depth).2.phase = settledPhase frame depth := by
  cases depth <;> rfl

theorem resumeNext (control : Control) (frame : Frame) (depth : Nat) (token : Token) :
    (control.resume frame token depth).next = ((control.settle frame depth).2.step token).next := by
  cases depth <;> rfl

def Answers (phase : Phase) (token : Token) : Except Expected Control → Prop
  | .ok next => Takes phase token next.phase
  | .error expected => expected = wanted phase ∧ ∀ other, ¬ Takes phase token other

theorem settledAnswers {phase : Phase} {token : Token} {frame : Frame} {depth : Nat}
    (takes : Takes phase token (settledPhase frame depth)) (control : Control)
    (operations : List Target.Operation) :
    Answers phase token (control.settled frame depth operations).next := by
  rw [← settlePhase control] at takes
  exact takes

theorem statementAnswers (control : Control) (token : Token) :
    Answers .statement token (control.stepStatement token).next := by
  obtain ⟨lexeme, pos⟩ := token
  cases lexeme with
  | keyword word => cases word <;> constructor
  | typeName | name | streamEnd => constructor
  | streamStart | blank | symbol | number => exact ⟨rfl, fun _ takes => by cases takes⟩

theorem expressionAnswers (control : Control) (frame : Frame) (depth : Nat) (token : Token) :
    Answers (.expression frame depth) token (control.stepExpression frame depth token).next := by
  obtain ⟨lexeme, pos⟩ := token
  cases lexeme with
  | keyword word =>
    cases word with
    | input => exact .call frame depth pos
    | print | declare => exact ⟨rfl, fun _ takes => by cases takes⟩
  | symbol sign =>
    cases sign with
    | openParen => exact .group frame depth pos
    | closeParen | equals => exact ⟨rfl, fun _ takes => by cases takes⟩
  | name text => exact settledAnswers (.name frame depth text pos) (control.resolve text pos) _
  | number value => exact settledAnswers (.number frame depth value pos) control _
  | streamStart | streamEnd | blank | typeName => exact ⟨rfl, fun _ takes => by cases takes⟩

theorem lexemeAnswers {phase : Phase} {lexeme : Lexeme} {move : Move} (token : Token)
    (wants : wanted phase = expectation lexeme)
    (only : ∀ token other, Takes phase token other → token.lexeme = lexeme)
    (takes : token.lexeme = lexeme → Answers phase token move.next) :
    Answers phase token
      (if token.lexeme = lexeme then move else Control.refuse (expectation lexeme)).next := by
  by_cases h : token.lexeme = lexeme
  · rw [if_pos h]
    exact takes h
  · rw [if_neg h]
    exact ⟨wants.symm, fun other taken => h (only token other taken)⟩

theorem closingAnswers (control : Control) (frame : Frame) (depth : Nat) (token : Token) :
    Answers (.closing frame depth) token (control.stepClosing frame depth token).next := by
  apply lexemeAnswers token rfl (fun token other takes => by cases takes; rfl)
  intro same
  obtain ⟨lexeme, pos⟩ := token
  cases same
  exact settledAnswers (.close frame depth pos) control _

theorem resumedAnswers {control : Control} {frame : Frame} {depth : Nat} {token : Token}
    (noOpen : token.lexeme ≠ .symbol .openParen)
    (answers : Answers (settledPhase frame depth) token
      ((control.settle frame depth).2.step token).next) :
    Answers (.inputParens frame depth) token
      ((control.settle frame depth).2.step token).next := by
  cases h : ((control.settle frame depth).2.step token).next with
  | ok next =>
    rw [h] at answers
    exact .resumed noOpen answers
  | error expected =>
    rw [h] at answers
    obtain ⟨rfl, none⟩ := answers
    refine ⟨by cases depth <;> rfl, fun other takes => ?_⟩
    cases takes with
    | inputOpen => exact noOpen rfl
    | resumed _ takes => exact none other takes

theorem stepAnswers (control : Control) (token : Token) :
    Answers control.phase token (control.step token).next := by
  cases here : control.phase with
  | start =>
    simp only [Control.step, here]
    apply lexemeAnswers token rfl (fun token other takes => by cases takes; rfl)
    intro same
    obtain ⟨lexeme, pos⟩ := token
    cases same
    exact .start pos
  | statement =>
    simp only [Control.step, here]
    exact statementAnswers control token
  | typeName =>
    simp only [Control.step, here]
    obtain ⟨lexeme, pos⟩ := token
    cases lexeme with
    | typeName type => exact .declaredType type pos
    | _ => exact ⟨rfl, fun _ takes => by cases takes⟩
  | declaredName type =>
    simp only [Control.step, here]
    obtain ⟨lexeme, pos⟩ := token
    cases lexeme with
    | name name => exact .declaredName type name pos
    | _ => exact ⟨rfl, fun _ takes => by cases takes⟩
  | equals =>
    simp only [Control.step, here]
    apply lexemeAnswers token rfl (fun token other takes => by cases takes; rfl)
    intro same
    obtain ⟨lexeme, pos⟩ := token
    cases same
    exact .equals pos
  | expression frame depth =>
    simp only [Control.step, here]
    exact expressionAnswers control frame depth token
  | inputParens frame depth =>
    simp only [Control.step, here]
    by_cases isOpen : token.lexeme = .symbol .openParen
    · rw [if_pos isOpen]
      obtain ⟨lexeme, pos⟩ := token
      cases isOpen
      exact .inputOpen frame depth pos
    · rw [if_neg isOpen]
      show Answers _ _ (control.resume frame token depth).next
      rw [resumeNext]
      apply resumedAnswers isOpen
      cases depth with
      | zero => exact statementAnswers control.finish token
      | succ depth => exact closingAnswers (control.turn (.closing frame depth)) frame depth token
  | inputClose frame depth =>
    simp only [Control.step, here]
    apply lexemeAnswers token rfl (fun token other takes => by cases takes; rfl)
    intro same
    obtain ⟨lexeme, pos⟩ := token
    cases same
    exact settledAnswers (.inputClose frame depth pos) control _
  | closing frame depth =>
    simp only [Control.step, here]
    exact closingAnswers control frame depth token
  | finished =>
    simp only [Control.step, here]
    exact ⟨rfl, fun _ takes => by cases takes⟩

inductive Hole : Frame → Nat → List Token → Prop where
  | print (pos) : Hole .print 0 [⟨.keyword .print, pos⟩]
  | assignment (name namePos equalsPos) :
      Hole .plain 0 [⟨.name name, namePos⟩, ⟨.symbol .equals, equalsPos⟩]
  | group {frame depth lead} (outer : Hole frame depth lead) (pos) :
      Hole frame (depth + 1) (lead ++ [⟨.symbol .openParen, pos⟩])

inductive CallHole : Frame → Nat → List Token → Prop where
  | operand {frame depth lead} (hole : Hole frame depth lead) : CallHole frame depth lead
  | statement : CallHole .plain 0 []

inductive Part : Phase → List Token → Prop where
  | none : Part .statement []
  | declare (pos) : Part .typeName [⟨.keyword .declare, pos⟩]
  | type (type pos) : Part (.declaredName type) [⟨.typeName type, pos⟩]
  | declaredType (wordPos type pos) :
      Part (.declaredName type) [⟨.keyword .declare, wordPos⟩, ⟨.typeName type, pos⟩]
  | target (name pos) : Part .equals [⟨.name name, pos⟩]
  | expression {frame depth lead} (hole : Hole frame depth lead) : Part (.expression frame depth) lead
  | inputParens {frame depth lead} (hole : CallHole frame depth lead) (pos) :
      Part (.inputParens frame depth) (lead ++ [⟨.keyword .input, pos⟩])
  | inputClose {frame depth lead} (hole : CallHole frame depth lead) (pos openPos) :
      Part (.inputClose frame depth) (lead ++ [⟨.keyword .input, pos⟩, ⟨.symbol .openParen, openPos⟩])
  | closing {frame depth lead} (hole : Hole frame depth lead) (pos) (inner : Grammar.Expr) :
      Part (.closing frame depth) (lead ++ ⟨.symbol .openParen, pos⟩ :: inner.tokens)

inductive Reached : Phase → List Token → Prop where
  | start : Reached .start []
  | within (startPos : Position) (statements : List Grammar.Statement) {phase tokens}
      (part : Part phase tokens) :
      Reached phase
        (⟨.streamStart, startPos⟩ :: statements.flatMap Grammar.Statement.tokens ++ tokens)
  | finished (file : Grammar.File) : Reached .finished file.tokens

def Settled (phase : Phase) (part : List Token) : Prop :=
  (phase = .statement ∧ ∃ statement : Grammar.Statement, statement.tokens = part) ∨ Part phase part

theorem holeSettled {frame depth lead} (hole : Hole frame depth lead) (value : Grammar.Expr) :
    Settled (settledPhase frame depth) (lead ++ value.tokens) := by
  cases hole with
  | print pos => exact .inl ⟨rfl, .print pos value, rfl⟩
  | assignment name namePos equalsPos =>
    exact .inl ⟨rfl, .assignment name namePos equalsPos value, rfl⟩
  | group outer pos =>
    rw [List.append_assoc]
    exact .inr (.closing outer pos value)

theorem callSettled {frame depth lead} (hole : CallHole frame depth lead) (call : Grammar.Input) :
    Settled (settledPhase frame depth) (lead ++ call.tokens) := by
  cases hole with
  | operand hole => exact holeSettled hole (.input call)
  | statement => exact .inl ⟨rfl, .input call, rfl⟩

theorem reachedSettled {phase part} (startPos : Position) (statements : List Grammar.Statement)
    (settled : Settled phase part) :
    Reached phase
      (⟨.streamStart, startPos⟩ :: statements.flatMap Grammar.Statement.tokens ++ part) := by
  rcases settled with ⟨rfl, statement, rfl⟩ | part
  · have whole := Reached.within startPos (statements ++ [statement]) .none
    simpa using whole
  · exact .within startPos statements part

theorem reachedMoves {phase phase' token tokens} (reached : Reached phase tokens)
    (inside : phase ≠ .start) (unfinished : phase ≠ .finished)
    (moves : ∀ part, Part phase part → Settled phase' (part ++ [token])) :
    Reached phase' (tokens ++ [token]) := by
  cases reached with
  | start => exact absurd rfl inside
  | finished => exact absurd rfl unfinished
  | within startPos statements part =>
    rw [List.append_assoc]
    exact reachedSettled startPos statements (moves _ part)

theorem takesReached {phase token phase' tokens} (takes : Takes phase token phase')
    (reached : Reached phase tokens) : Reached phase' (tokens ++ [token]) := by
  -- The induction is for the one case in which a token is passed on to an earlier phase.
  induction takes generalizing tokens with
  | start pos =>
    cases reached with
    | start => exact .within pos [] .none
    | within _ _ part => cases part
  | finish pos =>
    cases reached with
    | within startPos statements part =>
      cases part
      have file := Reached.finished ⟨startPos, statements, pos⟩
      simpa [Grammar.File.tokens] using file
  | resumed noOpen takes ih =>
    apply ih
    cases reached with
    | within startPos statements part =>
      cases part with
      | inputParens hole pos => exact reachedSettled startPos statements (callSettled hole (.bare pos))
  | print pos =>
    refine reachedMoves reached nofun nofun fun part h => ?_
    cases h
    exact .inr (.expression (.print pos))
  | input pos =>
    refine reachedMoves reached nofun nofun fun part h => ?_
    cases h
    exact .inr (.inputParens .statement pos)
  | declare pos =>
    refine reachedMoves reached nofun nofun fun part h => ?_
    cases h
    exact .inr (.declare pos)
  | type type pos =>
    refine reachedMoves reached nofun nofun fun part h => ?_
    cases h
    exact .inr (.type type pos)
  | target name pos =>
    refine reachedMoves reached nofun nofun fun part h => ?_
    cases h
    exact .inr (.target name pos)
  | declaredType type pos =>
    refine reachedMoves reached nofun nofun fun part h => ?_
    cases h with
    | declare wordPos => exact .inr (.declaredType wordPos type pos)
  | declaredName type name pos =>
    refine reachedMoves reached nofun nofun fun part h => ?_
    cases h with
    | type _ typePos => exact .inl ⟨rfl, .declaration type typePos name pos, rfl⟩
    | declaredType wordPos _ typePos => exact .inl ⟨rfl, .declared wordPos type typePos name pos, rfl⟩
  | equals equalsPos =>
    refine reachedMoves reached nofun nofun fun part h => ?_
    cases h with
    | target name pos => exact .inr (.expression (.assignment name pos equalsPos))
  | call frame depth pos =>
    refine reachedMoves reached nofun nofun fun part h => ?_
    cases h with
    | expression hole => exact .inr (.inputParens (.operand hole) pos)
  | group frame depth pos =>
    refine reachedMoves reached nofun nofun fun part h => ?_
    cases h with
    | expression hole => exact .inr (.expression (.group hole pos))
  | name frame depth text pos =>
    refine reachedMoves reached nofun nofun fun part h => ?_
    cases h with
    | expression hole => exact holeSettled hole (.name text pos)
  | number frame depth value pos =>
    refine reachedMoves reached nofun nofun fun part h => ?_
    cases h with
    | expression hole => exact holeSettled hole (.number value pos)
  | inputOpen frame depth openPos =>
    refine reachedMoves reached nofun nofun fun part h => ?_
    cases h with
    | inputParens hole pos =>
      rw [List.append_assoc]
      exact .inr (.inputClose hole pos openPos)
  | inputClose frame depth closePos =>
    refine reachedMoves reached nofun nofun fun part h => ?_
    cases h with
    | inputClose hole pos openPos =>
      rw [List.append_assoc]
      exact callSettled hole (.call pos openPos closePos)
  | close frame depth closePos =>
    refine reachedMoves reached nofun nofun fun part h => ?_
    cases h with
    | closing hole pos inner =>
      rw [List.append_assoc]
      exact holeSettled hole (.group pos inner closePos)

def fillers : List Lexeme :=
  [.keyword .input, .symbol .closeParen, .symbol .equals, .typeName .int, .name "x"]

def Filling (tokens : List Token) : Prop := ∀ token ∈ tokens, token.lexeme ∈ fillers

theorem fillingCons {token : Token} {rest : List Token} (first : token.lexeme ∈ fillers)
    (filling : Filling rest) : Filling (token :: rest) :=
  List.forall_mem_cons.mpr ⟨first, filling⟩

theorem holeCompletes {frame depth lead} (hole : Hole frame depth lead) (value : Grammar.Expr) :
    ∃ rest, Filling rest ∧
      ∃ statement : Grammar.Statement, statement.tokens = lead ++ value.tokens ++ rest := by
  induction hole generalizing value with
  | print pos => exact ⟨[], nofun, .print pos value, by simp [Grammar.Statement.tokens]⟩
  | assignment name namePos equalsPos =>
    exact ⟨[], nofun, .assignment name namePos equalsPos value, by simp [Grammar.Statement.tokens]⟩
  | group outer pos ih =>
    obtain ⟨rest, filling, statement, same⟩ := ih (.group pos value {})
    exact ⟨⟨.symbol .closeParen, {}⟩ :: rest, fillingCons (by decide) filling, statement,
      by simp [same, Grammar.Expr.tokens]⟩

theorem callCompletes {frame depth lead} (hole : CallHole frame depth lead) (call : Grammar.Input) :
    ∃ rest, Filling rest ∧
      ∃ statement : Grammar.Statement, statement.tokens = lead ++ call.tokens ++ rest := by
  cases hole with
  | operand hole => exact holeCompletes hole (.input call)
  | statement => exact ⟨[], nofun, .input call, by simp [Grammar.Statement.tokens]⟩

theorem partCompletes {phase part} (h : Part phase part) :
    ∃ rest, Filling rest ∧ ∃ statement : Grammar.Statement, statement.tokens = part ++ rest := by
  have none : Filling [] := nofun
  cases h with
  | none => exact ⟨_, fillingCons (by decide) none, .input (.bare {}), rfl⟩
  | declare pos =>
    exact ⟨_, fillingCons (by decide) (fillingCons (by decide) none), .declared pos .int {} "x" {}, rfl⟩
  | type type pos => exact ⟨_, fillingCons (by decide) none, .declaration type pos "x" {}, rfl⟩
  | declaredType wordPos type pos =>
    exact ⟨_, fillingCons (by decide) none, .declared wordPos type pos "x" {}, rfl⟩
  | target name pos =>
    exact ⟨_, fillingCons (by decide) (fillingCons (by decide) none),
      .assignment name pos {} (.input (.bare {})), rfl⟩
  | expression hole =>
    obtain ⟨rest, filling, statement, same⟩ := holeCompletes hole (.input (.bare {}))
    exact ⟨_, fillingCons (by decide) filling, statement, same.trans (List.append_assoc _ _ _)⟩
  | inputParens hole pos => exact callCompletes hole (.bare pos)
  | inputClose hole pos openPos =>
    obtain ⟨rest, filling, statement, same⟩ := callCompletes hole (.call pos openPos {})
    exact ⟨⟨.symbol .closeParen, {}⟩ :: rest, fillingCons (by decide) filling, statement,
      by simp [same, Grammar.Input.tokens]⟩
  | closing hole pos inner =>
    obtain ⟨rest, filling, statement, same⟩ := holeCompletes hole (.group pos inner {})
    exact ⟨⟨.symbol .closeParen, {}⟩ :: rest, fillingCons (by decide) filling, statement,
      by simp [same, Grammar.Expr.tokens]⟩

theorem reachedCompletes {phase tokens} (reached : Reached phase tokens) :
    ∃ file : Grammar.File, tokens <+: file.tokens ∧
      ∀ token ∈ file.statements.flatMap Grammar.Statement.tokens,
        token ∈ tokens ∨ token.lexeme ∈ fillers := by
  cases reached with
  | start => exact ⟨⟨{}, [], {}⟩, List.nil_prefix, nofun⟩
  | finished file =>
    refine ⟨file, List.prefix_rfl, fun token member => .inl ?_⟩
    exact List.mem_append_left _ (List.mem_cons_of_mem _ member)
  | within startPos statements part =>
    obtain ⟨rest, filling, statement, same⟩ := partCompletes part
    refine ⟨⟨startPos, statements ++ [statement], {}⟩, ⟨rest ++ [⟨.streamEnd, {}⟩], ?_⟩, ?_⟩
    · simp [Grammar.File.tokens, same]
    · intro token member
      simp only [List.flatMap_append, List.flatMap_singleton, same, List.mem_append] at member
      rcases member with before | inside | after
      · exact .inl (by simp [before])
      · exact .inl (by simp [inside])
      · exact .inr (filling token after)

theorem reachedViable {phase tokens} (reached : Reached phase tokens) : Viable tokens := by
  obtain ⟨file, ⟨rest, same⟩, _⟩ := reachedCompletes reached
  exact ⟨rest, file, same.symm⟩

section
variable {fault : Option LexError} {control next : Control} {first second : List Token}

theorem runTaken {token : Token} (ok : (run none (token :: second) control).ending = .ok next) :
    ∃ operations middle, control.step token = ⟨operations, .ok middle⟩ ∧
      (run none second middle).ending = .ok next := by
  cases h : control.step token with
  | mk operations result =>
    cases result with
    | error expected =>
      rw [runRefused h] at ok
      cases ok
    | ok middle =>
      rw [runMoved h] at ok
      exact ⟨operations, middle, rfl, ok⟩

theorem stepTakes {token : Token} {operations : List Target.Operation}
    (moved : control.step token = ⟨operations, .ok next⟩) : Takes control.phase token next.phase := by
  have answers := stepAnswers control token
  rw [moved] at answers
  exact answers

theorem runReached {read tokens : List Token}
    (ok : (run none tokens control).ending = .ok next) (reached : Reached control.phase read) :
    Reached next.phase (read ++ tokens) := by
  induction tokens generalizing control read with
  | nil =>
    cases ok
    simpa using reached
  | cons token rest ih =>
    obtain ⟨operations, middle, moved, rest⟩ := runTaken ok
    have reached := ih rest (takesReached (stepTakes moved) reached)
    rwa [List.append_assoc] at reached

theorem runThrough (fault : Option LexError) (second : List Token)
    (ok : (run none first control).ending = .ok next) :
    run fault (first ++ second) control =
      (run fault second next).after (run none first control).operations := by
  induction first generalizing control with
  | nil => cases ok; rfl
  | cons token rest ih =>
    obtain ⟨operations, middle, moved, rest⟩ := runTaken ok
    rw [List.cons_append, runMoved moved, runMoved moved, ih rest, Course.afterAfter,
      Course.afterOperations]

theorem runAppend (fault : Option LexError) (second : List Token)
    (ok : (run none first control).ending = .ok next) :
    (run fault (first ++ second) control).ending = (run fault second next).ending := by
  rw [runThrough fault second ok, Course.afterEnding]

theorem runEnds (fault : Option LexError) (ok : (run none first control).ending = .ok next) :
    (run fault first control).ending =
      match fault with
      | none => .ok next
      | some error => .error (.lex error) := by
  have cut := runAppend fault [] ok
  rw [List.append_nil] at cut
  rw [cut]
  cases fault <;> rfl

theorem runRefusedEnding {token : Token} {expected : Expected}
    (refused : (control.step token).next = .error expected) :
    (run fault (token :: second) control).ending = .error (.refused expected token second) := by
  simp only [run, refused]

theorem runSplit (tokens : List Token) (control : Control) :
    (∃ next, (run none tokens control).ending = .ok next) ∨
      ∃ first token rest middle expected, tokens = first ++ token :: rest ∧
        (run none first control).ending = .ok middle ∧
        (Control.step middle token).next = .error expected := by
  induction tokens generalizing control with
  | nil => exact .inl ⟨control, rfl⟩
  | cons token rest ih =>
    cases h : control.step token with
    | mk operations result =>
      cases result with
      | error expected => exact .inr ⟨[], token, rest, control, expected, rfl, rfl, by rw [h]⟩
      | ok next =>
        rcases ih next with ok | ⟨first, other, more, middle, expected, rfl, ok, refused⟩
        · rw [runMoved h]
          exact .inl ok
        · refine .inr ⟨token :: first, other, more, middle, expected, rfl, ?_, refused⟩
          rw [runMoved h]
          exact ok

end

theorem viableTaken {tokens : List Token} (viable : Viable tokens) :
    ∃ next, (run none tokens {}).ending = .ok next := by
  obtain ⟨rest, file, same⟩ := viable
  rcases runSplit tokens {} with ok | ⟨first, token, more, middle, expected, rfl, ok, refused⟩
  · exact ok
  · have whole := congrArg Course.ending (runFile file)
    rw [same, List.append_assoc, runAppend _ _ ok, List.cons_append, runRefusedEnding refused] at whole
    cases whole

theorem takenIffViable (tokens : List Token) :
    (∃ next, (run none tokens {}).ending = .ok next) ↔ Viable tokens :=
  ⟨fun ⟨_, ok⟩ => reachedViable (runReached ok .start), viableTaken⟩

theorem endFinishes {phase token phase'} (takes : Takes phase token phase')
    (ends : token.lexeme = .streamEnd) : phase' = .finished := by
  induction takes with
  | finish => rfl
  | resumed _ _ ih => exact ih ends
  | _ => cases ends

theorem runFinishes {tokens : List Token} {token : Token} {control next : Control}
    (ends : token.lexeme = .streamEnd) (ok : (run none (tokens ++ [token]) control).ending = .ok next) :
    next.phase = .finished := by
  induction tokens generalizing control with
  | nil =>
    obtain ⟨operations, last, moved, rest⟩ := runTaken ok
    cases rest
    exact endFinishes (stepTakes moved) ends
  | cons first rest ih =>
    obtain ⟨operations, middle, moved, rest⟩ := runTaken ok
    exact ih rest

theorem reachedSentence {tokens : List Token} (reached : Reached .finished tokens) :
    Sentence tokens := by
  cases reached with
  | finished file => exact ⟨file, rfl⟩
  | within _ _ part => cases part

theorem takenIffSentence {tokens : List Token} {token : Token} (ends : token.lexeme = .streamEnd) :
    (∃ next, (run none (tokens ++ [token]) {}).ending = .ok next) ↔ Sentence (tokens ++ [token]) := by
  constructor
  · rintro ⟨next, ok⟩
    have reached := runReached ok .start
    rw [runFinishes ends ok] at reached
    exact reachedSentence reached
  · rintro ⟨file, same⟩
    exact viableTaken ⟨[], file, by rw [same, List.append_nil]⟩

end Linewise.Pass
