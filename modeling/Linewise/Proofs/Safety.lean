import Linewise.Proofs.Context
import Linewise.Proofs.History
import Linewise.Proofs.Requests
import Linewise.Proofs.Termination

/-! What never happens. The scanner is never sent past the end of its text, as no recognizer finds more than
there is. A type name is always one of the known types, a name always has a spelling, and the marks of the stream
stand where they are expected. One scope is open from the first token of a file to its last, and none after it. -/
namespace Linewise

namespace Lexeme

def recognizers (rule : WordRule) : List (List Char → Option Found) :=
  [blank?, symbol?, keyword? rule, typeName? rule, name?, number?]

theorem ofTextRecognizers (rule : WordRule) (text : List Char) :
    ofText? rule text = (recognizers rule).findSome? fun recognizer => recognizer text := by
  simp only [ofText?, recognizers, List.findSome?_cons, List.findSome?_nil]
  cases blank? text <;> cases symbol? text <;> cases keyword? rule text <;> cases typeName? rule text <;>
    cases name? text <;> cases number? text <;> rfl

theorem nameLength {text : List Char} {lexeme : Lexeme} {count : Nat} (ok : name? text = some (lexeme, count)) :
    0 < count ∧ count ≤ text.length := by
  cases text with
  | nil => cases ok
  | cons c rest =>
    simp only [name?] at ok
    split at ok
    · cases ok
      have within := (List.takeWhile_prefix (l := rest) Text.isAlphanumeric).length_le
      simp only [List.length_cons]
      omega
    · cases ok

theorem recognizedLength {rule : WordRule} {recognizer : List Char → Option Found} {text : List Char}
    {lexeme : Lexeme} {count : Nat} (member : recognizer ∈ recognizers rule)
    (ok : recognizer text = some (lexeme, count)) : 0 < count ∧ count ≤ text.length := by
  simp only [recognizers, List.mem_cons, List.not_mem_nil, or_false] at member
  rcases member with rfl | rfl | rfl | rfl | rfl | rfl
  · exact beginsLength (@blankBegins rule _ _ _ ok)
  · exact beginsLength (@symbolBegins rule _ _ _ ok)
  · exact beginsLength (keywordBegins ok)
  · exact beginsLength (typeNameBegins ok)
  · exact nameLength ok
  · exact beginsLength (@numberBegins rule _ _ _ ok)

end Lexeme

namespace Scanner

theorem requestUnrecognized {request : Request} {scanner : Scanner} {error : LexError}
    (failed : (request.run.runFrom scanner).1 = .error error) : ∃ rest pos, error = .unrecognized rest pos := by
  have answered := requestAnswered request scanner
  rw [failed] at answered
  cases answered with
  | failed trace stuck => exact ⟨_, _, stuck.errorEq⟩

theorem scanType {scanner after : Scanner} {token : Token} (found : scan.runFrom scanner = (.ok token, after))
    (named : token.kind = .typeName) :
    ∃ type, token.lexeme = .typeName type ∧
      DeclaredType.ofText? (String.ofList (scanner.rest.take (after.offset - scanner.offset))) = some type := by
  cases scanOk found with
  | start fresh => cases named
  | finish started empty => cases named
  | lexeme started lexeme count begins =>
    have covers := Lexeme.beginsCovers begins
    cases lexeme with
    | typeName type =>
      have spelled : type.text = String.ofList (scanner.rest.take count) := Option.some.inj covers
      refine ⟨type, rfl, ?_⟩
      rw [skip, Nat.add_sub_cancel_left, ← spelled]
      exact DeclaredType.ofTextKnown type
    | _ => cases named

end Scanner

namespace Compiler

section
variable {progress after : Progress}

theorem consumeExpect {α : Type} {expected : Expected} {accept : Lexeme → Option α} {token : Token} {value : α}
    {ahead : Lookahead} (took : Lookahead.consume.runFrom progress.ahead = (.ok token, ahead))
    (accepted : accept token.lexeme = some value) :
    (expect expected accept).runFrom progress = (.ok (value, token.pos), { progress with ahead }) := by
  rw [expect, Step.runFromBind, consume, readRun took]
  simp only [Lookahead.mapErrorOk, accepted]
  rfl

theorem consumeLexeme {lexeme : Lexeme} {token : Token} {ahead : Lookahead}
    (took : Lookahead.consume.runFrom progress.ahead = (.ok token, ahead)) (same : token.lexeme = lexeme) :
    (expectLexeme lexeme).runFrom progress = (.ok (), { progress with ahead }) := by
  rw [expectLexeme, Step.runFromBind, consumeExpect took (if_pos same)]
  rfl

theorem consumeType {token : Token} {ahead : Lookahead}
    (took : Lookahead.consume.runFrom progress.ahead = (.ok token, ahead)) (named : token.kind = .typeName) :
    ∃ type, token.text?.bind DeclaredType.ofText? = some type ∧
      expectType.runFrom progress = (.ok type, { progress with ahead }) := by
  obtain ⟨lexeme, pos⟩ := token
  cases lexeme with
  | typeName type =>
    refine ⟨type, DeclaredType.ofTextKnown type, ?_⟩
    have taken : (expect (.token (some .typeName) none) Lexeme.asType?).runFrom progress =
        (.ok (type, pos), { progress with ahead }) := consumeExpect took rfl
    rw [expectTypeTakes, Step.runFromBind, taken]
    rfl
  | _ => cases named

theorem nameFound {name : String} {pos : Position} (found : expectName.runFrom progress = (.ok (name, pos), after)) :
    ∃ token, Lookahead.consume.runFrom progress.ahead = (.ok token, after.ahead) ∧ token.text? = some name := by
  rw [expectNameTakes] at found
  obtain ⟨token, took, accepted, _⟩ := expectFound found
  refine ⟨token, took, ?_⟩
  rw [Token.text?, Lexeme.asNameFound accepted, Lexeme.text?]

theorem peekName {text : String} (peeked : peek.runFrom progress = (.ok (.name text), after)) :
    ∃ token ahead, Lookahead.consume.runFrom after.ahead = (.ok token, ahead) ∧ token.text? = some text := by
  obtain ⟨token, looked, same⟩ := peekFound peeked
  obtain ⟨ahead, took⟩ := Lookahead.peekConsume looked
  exact ⟨token, ahead, took, by rw [Token.text?, same, Lexeme.text?]⟩

theorem startFound {rule : WordRule} {source : String} (fresh : progress.ahead = .ofSource rule source) :
    ∃ after, (expectLexeme .streamStart).runFrom progress = (.ok (), after) := by
  have took : Lookahead.consume.runFrom progress.ahead =
      (.ok ⟨.streamStart, {}⟩, ⟨{ Scanner.ofSource rule source with started := true }, []⟩) := by
    rw [fresh]
    rfl
  exact ⟨_, consumeLexeme took rfl⟩

theorem endFound (ran : (do statements (← tokensLeft)).runFrom progress = (.ok (), after)) :
    ∃ last, (expectLexeme .streamEnd).runFrom after = (.ok (), last) := by
  obtain ⟨token, ahead, took, ends⟩ := statementsExit (Lookahead.withinBound progress.ahead) ran
  exact ⟨_, consumeLexeme took ends⟩

end

theorem steadyFile (header : Bool) (progress : Progress) : Steady (do headerLine header; file) progress := by
  apply steadyBind
  · cases header with
    | true => exact (orderlyEmit _ progress).steady
    | false => exact (orderlyPure () progress).steady
  · intro _ after _
    apply steadyBind (orderlyLexeme (by simp) after).steady
    intro _ after _
    apply steadyBind (orderlyTokensLeft after).steady
    intro bound after _
    apply steadyBind (orderlyStatements bound after).steady
    intro _ after _
    -- The end of the stream, which no procedure may take.
    exact steadyBind (steadyExpect _ _ after) fun _ after _ => (orderlyPure () after).steady

theorem leaveLast {scopes : Scopes} (one : scopes.depth = 1) : scopes.leave.depth = 0 := by
  simp only [Scopes.depth, Scopes.leave, List.length_tail] at one ⊢
  omega

section
variable (options : Options) (source : String) (sink : Sink)

theorem fileDepth {state : Progress}
    (member : state ∈ (do headerLine options.header; file).visited (.entered (.start options source sink))) :
    state.scopes.depth = 1 :=
  steadyFile options.header (.entered (.start options source sink)) Nat.one_pos state member

theorem fileLeft : ((do headerLine options.header; file).runFrom
    (.entered (.start options source sink))).2.scopes.leave.depth = 0 :=
  leaveLast (fileDepth options source sink (Step.visitedLeft _ _))

theorem programVisited : ∃ later, (program options.header).visited (.start options source sink) =
      .start options source sink ::
        ((do headerLine options.header; file).visited (.entered (.start options source sink)) ++ later) ∧
    ∀ state ∈ later, state.scopes.depth = 0 := by
  have left := fileLeft options source sink
  rw [programParts]
  refine ⟨_, rfl, ?_⟩
  intro state member
  split at member
  · rename_i last ran
    have ran : (do headerLine options.header; file).runFrom (.entered (.start options source sink)) =
      (.ok (), last) := ran
    rw [ran] at left
    rcases List.mem_cons.mp member with rfl | flushed
    · exact left
    · obtain ⟨out, _, rfl⟩ := List.mem_map.mp flushed
      exact left
  · cases member

end

theorem programDepth {options : Options} {source : String} {sink : Sink} {after : Progress}
    (ran : (program options.header).runFrom (.start options source sink) = (.ok (), after)) :
    after.scopes.depth = 0 := by
  have left := fileLeft options source sink
  rw [programRun] at ran
  split at ran
  · rename_i last read
    rw [read] at left
    have kept (progress : Progress) :
        ((emit Target.Writer.flush).runFrom progress).2.scopes = progress.scopes := rfl
    have same := kept { last with scopes := last.scopes.leave }
    rw [ran] at same
    exact (congrArg Scopes.depth same).trans left
  · cases ran

end Compiler

open Pass (wanted expectation Reached Takes)

theorem courseJudged (options : Options) (source : String) :
    Judged (Scanner.ofSource options.rule source).delivery.tokens
      (Scanner.ofSource options.rule source).delivery.fault (Pass.course options source).ending := by
  simp only [Pass.course, Pass.Course.afterEnding]
  exact runJudged _ _

theorem failedLex {options : Options} {source : String} {sink : Sink} {error : LexError}
    (failed : (compile options source sink).1 = .error (.lex error)) :
    ∃ rest pos, error = .unrecognized rest pos := by
  rw [compileRuns, Pass.Course.result] at failed
  have judged := courseJudged options source
  have reads := Scanner.deliveryReads (.ofSource options.rule source)
  split at failed
  · obtain ⟨_, cut⟩ := (faultIff judged error).mp (verdictLex.mp failed)
    rw [cut] at reads
    exact Scanner.readsUnrecognized reads
  · cases failed

theorem wantedNoEnd (phase : Pass.Phase) : wanted phase ≠ expectation .streamEnd := by
  cases phase with
  | inputParens frame depth => cases depth <;> simp [wanted, expectation, Lexeme.kind]
  | _ => simp [wanted, expectation, Lexeme.kind]

theorem wantedStart {phase : Pass.Phase} (start : wanted phase = expectation .streamStart) : phase = .start := by
  cases phase with
  | start => rfl
  | inputParens frame depth => cases depth <;> simp [wanted, expectation, Lexeme.kind] at start
  | _ => simp [wanted, expectation, Lexeme.kind] at start

theorem failedBetweenMarks {options : Options} {source : String} {sink : Sink} {violation : Violation}
    (failed : (compile options source sink).1 = .error (.grammar violation)) :
    violation.expected ≠ expectation .streamStart ∧ violation.expected ≠ expectation .streamEnd := by
  obtain ⟨_, rest, refused, _⟩ := failedRefused failed
  have judged := courseJudged options source
  have reads := Scanner.deliveryReads (.ofSource options.rule source)
  generalize (Pass.course options source).ending = ending at judged refused
  cases judged with
  | compiled | faulty => cases refused
  | @refused before found after phase split _ _ reached refuses =>
    obtain ⟨expected, _⟩ := Pass.Stop.refused.inj (Except.error.inj refused)
    rw [← expected]
    refine ⟨?_, wantedNoEnd phase⟩
    intro start
    -- Only the first token is read in this phase, and the first token of a source is the mark.
    obtain rfl := wantedStart start
    cases reached with
    | within _ _ part => cases part
    | start =>
      rw [split] at reads
      obtain ⟨_, first, _⟩ := readsHead reads
      cases first
      exact refuses _ (.start _)

structure Scanner.Safe (rule : WordRule) (source : String) : Prop where
  scanWithin : ∀ scanner index stop, (scan.runFrom scanner).1 ≠ .error (.prematureEnd index stop)
  requestWithin : ∀ (request : Request) scanner index stop,
    (request.run.runFrom scanner).1 ≠ .error (.prematureEnd index stop)
  placed : ∀ requests, At source.toList (afterAnswers requests (.ofSource rule source))
  tried : ∀ text, Lexeme.ofText? rule text =
    (Lexeme.recognizers rule).findSome? fun recognizer => recognizer text
  recognized : ∀ recognizer ∈ Lexeme.recognizers rule, ∀ (text : List Char) start lexeme count,
    start < text.length → recognizer (text.drop start) = some (lexeme, count) →
      start < start + count ∧ start + count ≤ text.length
  typeKnown : ∀ scanner token after, scan.runFrom scanner = (.ok token, after) → token.kind = .typeName →
    ∃ type, token.lexeme = .typeName type ∧
      DeclaredType.ofText? (String.ofList (scanner.rest.take (after.offset - scanner.offset))) = some type

theorem Scanner.safe (rule : WordRule) (source : String) : Safe rule source where
  scanWithin scanner index stop failed := by
    cases ran : scan.runFrom scanner with
    | mk outcome after =>
      rw [ran] at failed
      cases failed
      cases (scanError ran).1.errorEq
  requestWithin request scanner index stop failed := by
    obtain ⟨_, _, unrecognized⟩ := requestUnrecognized failed
    cases unrecognized
  placed requests := afterAnswersAt (sourceAt rule source) requests
  tried text := Lexeme.ofTextRecognizers rule text
  recognized recognizer member text start lexeme count inside ok := by
    obtain ⟨positive, within⟩ := Lexeme.recognizedLength member ok
    rw [List.length_drop] at within
    omega
  typeKnown _ _ _ found named := scanType found named

structure Compiler.Safe (options : Options) (source : String) (sink : Sink) : Prop where
  within : ∀ index stop, (compile options source sink).1 ≠ .error (.lex (.prematureEnd index stop))
  typeKnown : ∀ (progress : Progress) token ahead,
    Lookahead.consume.runFrom progress.ahead = (.ok token, ahead) → token.kind = .typeName →
      ∃ type, token.text?.bind DeclaredType.ofText? = some type ∧
        expectType.runFrom progress = (.ok type, { progress with ahead })
  nameSpelled : ∀ progress name pos after, expectName.runFrom progress = (.ok (name, pos), after) →
    ∃ token, Lookahead.consume.runFrom progress.ahead = (.ok token, after.ahead) ∧ token.text? = some name
  nameTaken : ∀ progress text after, peek.runFrom progress = (.ok (.name text), after) →
    ∃ token ahead, Lookahead.consume.runFrom after.ahead = (.ok token, ahead) ∧ token.text? = some text
  startStands : ∀ progress : Progress, progress.ahead = .ofSource options.rule source →
    ∃ after, (expectLexeme .streamStart).runFrom progress = (.ok (), after)
  endStands : ∀ progress after, (do statements (← tokensLeft)).runFrom progress = (.ok (), after) →
    ∃ last, (expectLexeme .streamEnd).runFrom after = (.ok (), last)
  marksStand : ∀ violation, (compile options source sink).1 = .error (.grammar violation) →
    violation.expected ≠ expectation .streamStart ∧ violation.expected ≠ expectation .streamEnd
  entered : (Progress.entered (.start options source sink)).scopes.depth = 1
  oneScope : ∀ state ∈ (do headerLine options.header; file).visited (.entered (.start options source sink)),
    state.scopes.depth = 1
  enteredOnce : ∃ later, (program options.header).visited (.start options source sink) =
      .start options source sink ::
        ((do headerLine options.header; file).visited (.entered (.start options source sink)) ++ later) ∧
    ∀ state ∈ later, state.scopes.depth = 0
  left : ∀ last, (do headerLine options.header; file).runFrom (.entered (.start options source sink)) =
    (.ok (), last) → last.scopes.leave.depth = 0
  noScope : ∀ after, (program options.header).runFrom (.start options source sink) = (.ok (), after) →
    after.scopes.depth = 0

theorem Compiler.safe (options : Options) (source : String) (sink : Sink) : Safe options source sink where
  within index stop failed := by
    obtain ⟨_, _, unrecognized⟩ := failedLex failed
    cases unrecognized
  typeKnown _ _ _ took named := consumeType took named
  nameSpelled _ _ _ _ found := nameFound found
  nameTaken _ _ _ peeked := peekName peeked
  startStands _ fresh := startFound fresh
  endStands _ _ ran := endFound ran
  marksStand _ failed := failedBetweenMarks failed
  entered := rfl
  oneScope _ member := fileDepth options source sink member
  enteredOnce := programVisited options source sink
  left last ran := by
    have left := fileLeft options source sink
    rwa [ran] at left
  noScope _ ran := programDepth ran

theorem guardsNeverNeeded (options : Options) (source : String) (sink : Sink) :
    Scanner.Safe options.rule source ∧ Compiler.Safe options source sink :=
  ⟨Scanner.safe options.rule source, Compiler.safe options source sink⟩

theorem guardsNeverNeededSample :
    ∃ progress token ahead state after, Lookahead.consume.runFrom progress.ahead = (.ok token, ahead) ∧
      token.kind = .typeName ∧
      (∃ type, token.text?.bind DeclaredType.ofText? = some type ∧
        Compiler.expectType.runFrom progress = (.ok type, { progress with ahead })) ∧
      state ∈ (do Compiler.headerLine true; Compiler.file).visited (.entered (.start {} "int x" .unlimited)) ∧
      state.scopes.isDeclared "x" = true ∧ state.scopes.depth = 1 ∧
      (Compiler.program true).runFrom (.start {} "int x" .unlimited) = (.ok (), after) ∧
      after.scopes.depth = 0 := by
  obtain ⟨_, safe⟩ := guardsNeverNeeded {} "int x" .unlimited
  obtain ⟨progress, kind⟩ : ∃ progress : Progress,
      (Lookahead.consume.runFrom progress.ahead).1.toOption.map Token.kind = some .typeName :=
    ⟨((Compiler.expectLexeme .streamStart).runFrom (.start {} "int x" .unlimited)).2, by decide +kernel⟩
  obtain ⟨state, inside, declared⟩ :
      ∃ state ∈ (do Compiler.headerLine true; Compiler.file).visited (.entered (.start {} "int x" .unlimited)),
        state.scopes.isDeclared "x" = true := by decide +kernel
  have done : ((Compiler.program true).runFrom (.start {} "int x" .unlimited)).1.isOk = true := by decide +kernel
  rcases took : Lookahead.consume.runFrom progress.ahead with ⟨error | token, ahead⟩
  · rw [took] at kind
    cases kind
  · rw [took] at kind
    have named : token.kind = .typeName := Option.some.inj kind
    rcases ran : (Compiler.program true).runFrom (.start {} "int x" .unlimited) with ⟨error | finished, after⟩
    · rw [ran] at done
      cases done
    · exact ⟨progress, token, ahead, state, after, took, named, safe.typeKnown _ _ _ took named, inside, declared,
        safe.oneScope state inside, rfl, safe.noScope after ran⟩

end Linewise
