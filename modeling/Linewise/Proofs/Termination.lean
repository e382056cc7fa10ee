import Linewise.Proofs.Procedures
import Linewise.Proofs.Tiling

/-! Every loop ends. A token of the text leaves less of the text unread, and a statement or an expression that is
read to its end has taken a token and left the end of the stream in its place. So no loop needs more rounds than
the source has characters, with one for each mark of the stream, and the bounds that are counted down change
nothing: each loop is the one that would go on without them. -/
namespace Linewise

namespace Scanner

theorem scanShrinks {scanner after : Scanner} {token : Token} (found : scan.runFrom scanner = (.ok token, after))
    (written : isWritten token = true) : after.rest.length < scanner.rest.length := by
  cases scanOk found with
  | start fresh => cases written
  | finish started empty => cases written
  | lexeme started lexeme count begins =>
    obtain ⟨covers, within⟩ := Lexeme.beginsLength begins
    simp only [skip, List.length_drop]
    omega

theorem leftPositive (scanner : Scanner) : 0 < scanner.left := by
  unfold left
  split <;> omega

theorem nextLoop (scanner : Scanner) : next.runFrom scanner =
    (do
      let token ← scan
      if token.kind = .blank then next else return token : Scan Token).runFrom scanner := by
  show (scan >>= fun token => if token.kind = .blank then scan else pure token).runFrom scanner = _
  apply Step.bindCongr
  intro token after found
  split
  · rename_i blank
    have run := nextRun scanner
    rw [found] at run
    simp only [if_pos blank] at run
    rw [← run, nextPastBlank found blank]
  · rfl

theorem tokensWithinStable {bound other : Nat} {scanner : Scanner} (enough : scanner.left ≤ bound)
    (enough' : scanner.left ≤ other) :
    (tokensWithin bound).runFrom scanner = (tokensWithin other).runFrom scanner := by
  have positive := leftPositive scanner
  induction bound generalizing scanner other with
  | zero => omega
  | succ bound ih =>
    cases other with
    | zero => omega
    | succ other =>
      unfold tokensWithin
      apply Step.bindCongr
      intro token after found
      cases ends : token.isStreamEnd with
      | true => rfl
      | false =>
        have less := nextLeft found ends
        have same : (tokensWithin bound).runFrom after = (tokensWithin other).runFrom after :=
          ih (by omega) (by omega) (leftPositive after)
        simp only [Bool.false_eq_true, if_false]
        rw [Step.runFromBind, Step.runFromBind, same]

theorem writtenWithinSucc (bound : Nat) : writtenWithin (bound + 1) =
    (do
      let token ← scan
      if token.isStreamEnd then return []
      else if isWritten token then return token :: (← writtenWithin bound)
      else writtenWithin bound) := by
  rw [writtenWithin]
  congr 1
  funext token
  split
  · rename_i kind
    simp [Token.isStreamEnd, kind]
  · rename_i kind
    simp [Token.isStreamEnd, isWritten, kind]
  · rename_i noEnd noStart
    have goesOn : token.isStreamEnd = false := by simpa [Token.isStreamEnd] using noEnd
    have written : isWritten token = true := by simpa [isWritten] using ⟨noStart, noEnd⟩
    simp [goesOn, written]

theorem writtenWithinStable {bound other : Nat} {scanner : Scanner} (enough : scanner.left ≤ bound)
    (enough' : scanner.left ≤ other) :
    (writtenWithin bound).runFrom scanner = (writtenWithin other).runFrom scanner := by
  have positive := leftPositive scanner
  induction bound generalizing scanner other with
  | zero => omega
  | succ bound ih =>
    cases other with
    | zero => omega
    | succ other =>
      rw [writtenWithinSucc, writtenWithinSucc]
      apply Step.bindCongr
      intro token after found
      cases ends : token.isStreamEnd with
      | true => rfl
      | false =>
        have less := scansLeft (scanOk found) ends
        have same : (writtenWithin bound).runFrom after = (writtenWithin other).runFrom after :=
          ih (by omega) (by omega) (leftPositive after)
        simp only [Bool.false_eq_true, if_false]
        split
        · rw [Step.runFromBind, Step.runFromBind, same]
        · exact same

theorem tokensRounds (scanner : Scanner) :
    tokens.runFrom scanner = (tokensWithin scanner.bound).runFrom scanner :=
  Step.runFromBind get (fun state => tokensWithin state.bound) scanner

theorem writtenRounds (scanner : Scanner) :
    writtenTokens.runFrom scanner = (writtenWithin scanner.bound).runFrom scanner :=
  Step.runFromBind get (fun state => writtenWithin state.bound) scanner

theorem tokensLoop (scanner : Scanner) : tokens.runFrom scanner =
    (do
      let token ← next
      if token.isStreamEnd then return [token] else return token :: (← tokens) :
        Scan (List Token)).runFrom scanner := by
  rw [tokensRounds, bound, tokensWithin]
  apply Step.bindCongr
  intro token after found
  cases ends : token.isStreamEnd with
  | true => rfl
  | false =>
    have less := nextLeft found ends
    have most := leftBound scanner
    simp only [bound] at most
    have same : (tokensWithin (scanner.rest.length + 1)).runFrom after = tokens.runFrom after := by
      rw [tokensRounds]
      exact tokensWithinStable (by omega) (leftBound after)
    simp only [Bool.false_eq_true, if_false]
    rw [Step.runFromBind, Step.runFromBind, same]

theorem writtenLoop (scanner : Scanner) : writtenTokens.runFrom scanner =
    (do
      let token ← scan
      if token.isStreamEnd then return []
      else if isWritten token then return token :: (← writtenTokens)
      else writtenTokens : Scan (List Token)).runFrom scanner := by
  rw [writtenRounds, bound, writtenWithinSucc]
  apply Step.bindCongr
  intro token after found
  cases ends : token.isStreamEnd with
  | true => rfl
  | false =>
    have less := scansLeft (scanOk found) ends
    have most := leftBound scanner
    simp only [bound] at most
    have same : (writtenWithin (scanner.rest.length + 1)).runFrom after = writtenTokens.runFrom after := by
      rw [writtenRounds]
      exact writtenWithinStable (by omega) (leftBound after)
    simp only [Bool.false_eq_true, if_false]
    split
    · rw [Step.runFromBind, Step.runFromBind, same]
    · exact same

end Scanner

namespace Lookahead

theorem readsSome (ahead : Lookahead) : ∃ tokens fault, Reads consume ahead tokens fault := by
  obtain ⟨scanner, queue⟩ := ahead
  induction queue with
  | nil => exact ⟨_, _, readsFresh (Scanner.deliveryReads scanner)⟩
  | cons token queue ih =>
    obtain ⟨tokens, fault, reads⟩ := ih
    cases ends : token.isStreamEnd with
    | true => exact ⟨_, _, .last (consumeQueued scanner token queue) ends⟩
    | false => exact ⟨_, _, .more (consumeQueued scanner token queue) ends reads⟩

theorem drawsReads {ahead after : Lookahead} {taken tokens : List Token} {fault : Option LexError}
    (draws : Draws ahead taken after) (reads : Reads consume ahead tokens fault)
    (goOn : ∀ token ∈ taken, token.isStreamEnd = false) :
    ∃ rest, tokens = taken ++ rest ∧ Reads consume after rest fault := by
  induction draws generalizing tokens with
  | none ahead => exact ⟨tokens, rfl, reads⟩
  | look looked rest ih =>
    refine ih ?_ goOn
    cases tokens with
    | nil =>
      obtain ⟨_, _, _, failed⟩ := peekFault reads
      cases looked.symm.trans failed
    | cons token tokens =>
      obtain ⟨_, found, again⟩ := peekReads reads
      cases looked.symm.trans found
      exact again
  | take took rest ih =>
    cases tokens with
    | nil =>
      obtain ⟨_, _, _, failed⟩ := readsFault reads
      cases took.symm.trans failed
    | cons token tokens =>
      obtain ⟨_, found, _, more⟩ := readsHead reads
      cases took.symm.trans found
      have first := goOn _ (List.mem_cons_self ..)
      obtain ⟨later, same, reads⟩ := ih (more first) fun token member => goOn token (List.mem_cons_of_mem _ member)
      exact ⟨later, congrArg _ same, reads⟩

def Within (bound : Nat) (ahead : Lookahead) : Prop :=
  ∃ tokens fault, Reads consume ahead tokens fault ∧ tokens.length + fault.toList.length ≤ bound

theorem readsAnswers {ahead : Lookahead} {tokens : List Token} {fault : Option LexError}
    (reads : Reads consume ahead tokens fault) : tokens.length + fault.toList.length ≤ ahead.left := by
  induction reads with
  | @fault ahead after error failed | @last ahead after token found ends =>
    have one := Scanner.leftPositive ahead.scanner
    simp [left]
    omega
  | more found goesOn rest ih =>
    have less := consumeLeft found goesOn
    simp only [List.length_cons]
    omega

theorem withinLeft (ahead : Lookahead) : Within ahead.left ahead := by
  obtain ⟨tokens, fault, reads⟩ := readsSome ahead
  exact ⟨tokens, fault, reads, readsAnswers reads⟩

theorem withinMore {bound more : Nat} {ahead : Lookahead} (within : Within bound ahead) (less : bound ≤ more) :
    Within more ahead := by
  obtain ⟨tokens, fault, reads, few⟩ := within
  exact ⟨tokens, fault, reads, Nat.le_trans few less⟩

theorem withinBound (ahead : Lookahead) : Within ahead.bound ahead :=
  withinMore (withinLeft ahead) (Nat.add_le_add_left (Scanner.leftBound ahead.scanner) _)

theorem withinPositive {bound : Nat} {ahead : Lookahead} (within : Within bound ahead) : 0 < bound := by
  obtain ⟨tokens, fault, reads, few⟩ := within
  cases reads with
  | fault failed | last found ends | more found goesOn rest =>
    simp at few
    omega

theorem drawsWithin {bound : Nat} {ahead after : Lookahead} {taken : List Token} (within : Within bound ahead)
    (draws : Draws ahead taken after) (goOn : ∀ token ∈ taken, token.isStreamEnd = false) :
    taken.length < bound ∧ Within (bound - taken.length) after := by
  obtain ⟨tokens, fault, reads, few⟩ := within
  obtain ⟨rest, rfl, later⟩ := drawsReads draws reads goOn
  rw [List.length_append] at few
  have left : Within (bound - taken.length) after := ⟨rest, fault, later, by omega⟩
  have positive := withinPositive left
  exact ⟨by omega, left⟩

end Lookahead

namespace Compiler

section
variable {α : Type} {action : Compiler α} {progress after : Progress} {value : α} {bound : Nat}

theorem roundWithin (consumes : Consumes 0 action) (within : progress.ahead.Within bound)
    (found : action.runFrom progress = (.ok value, after)) : after.ahead.Within bound := by
  obtain ⟨taken, draws, _, goOn⟩ := consumes progress value after found
  exact Lookahead.withinMore (Lookahead.drawsWithin within draws goOn).2 (Nat.sub_le _ _)

theorem roundShrinks (consumes : Consumes 1 action) (within : progress.ahead.Within (bound + 1))
    (found : action.runFrom progress = (.ok value, after)) : after.ahead.Within bound := by
  obtain ⟨taken, draws, some, goOn⟩ := consumes progress value after found
  exact Lookahead.withinMore (Lookahead.drawsWithin within draws goOn).2 (by omega)

end

theorem statementsStable {bound other : Nat} {progress : Progress} (enough : progress.ahead.Within bound)
    (enough' : progress.ahead.Within other) :
    (statements bound).runFrom progress = (statements other).runFrom progress := by
  have positive := Lookahead.withinPositive enough
  have positive' := Lookahead.withinPositive enough'
  induction bound generalizing progress other with
  | zero => omega
  | succ bound ih =>
    cases other with
    | zero => omega
    | succ other =>
      unfold statements
      apply Step.bindCongr
      intro lexeme looked peeked
      split
      · rfl
      · apply Step.bindCongr
        intro _ after ran
        -- A round takes one off each bound and at least one off the answers that are left.
        have less := roundShrinks orderlyStatement.consumes (roundWithin orderlyPeek.consumes enough peeked) ran
        have less' := roundShrinks orderlyStatement.consumes (roundWithin orderlyPeek.consumes enough' peeked) ran
        exact ih less less' (Lookahead.withinPositive less) (Lookahead.withinPositive less')

theorem openParensStable {bound other : Nat} {progress : Progress} (enough : progress.ahead.Within bound)
    (enough' : progress.ahead.Within other) :
    (openParens bound).runFrom progress = (openParens other).runFrom progress := by
  have positive := Lookahead.withinPositive enough
  have positive' := Lookahead.withinPositive enough'
  induction bound generalizing progress other with
  | zero => omega
  | succ bound ih =>
    cases other with
    | zero => omega
    | succ other =>
      unfold openParens
      apply Step.bindCongr
      intro lexeme looked peeked
      split
      · apply Step.bindCongr
        intro _ after ran
        have less := roundShrinks orderlyOpening.consumes (roundWithin orderlyPeek.consumes enough peeked) ran
        have less' := roundShrinks orderlyOpening.consumes (roundWithin orderlyPeek.consumes enough' peeked) ran
        have same := ih less less' (Lookahead.withinPositive less) (Lookahead.withinPositive less')
        rw [Step.runFromBind, Step.runFromBind, same]
      · rfl

theorem tokensLeftRun {α : Type} (next : Nat → Compiler α) (progress : Progress) :
    (do next (← tokensLeft)).runFrom progress = (next progress.ahead.bound).runFrom progress := rfl

theorem boundSucc (ahead : Lookahead) : ∃ bound, ahead.bound = bound + 1 :=
  ⟨_, (rfl : ahead.bound = ahead.queue.length + ahead.scanner.rest.length + 1 + 1)⟩

theorem statementsLoop (progress : Progress) :
    (do statements (← tokensLeft)).runFrom progress =
      (do
        unless (← peek) = .streamEnd do
          statement
          statements (← tokensLeft) : Compiler Unit).runFrom progress := by
  obtain ⟨bound, rounds⟩ := boundSucc progress.ahead
  have enough := Lookahead.withinBound progress.ahead
  rw [rounds] at enough
  rw [tokensLeftRun, rounds, statements]
  apply Step.bindCongr
  intro lexeme looked peeked
  split
  · rfl
  · apply Step.bindCongr
    intro _ after ran
    rw [tokensLeftRun]
    have less := roundShrinks orderlyStatement.consumes (roundWithin orderlyPeek.consumes enough peeked) ran
    exact statementsStable less (Lookahead.withinBound after.ahead)

theorem closeParensLast (count : Nat) :
    closeParens (count + 1) = (do closeParens count; expectLexeme (.symbol .closeParen)) := by
  induction count with
  | zero => simp [closeParens]
  | succ count ih =>
    calc closeParens (count + 1 + 1)
      _ = (do expectLexeme (.symbol .closeParen); closeParens (count + 1)) := rfl
      _ = (do expectLexeme (.symbol .closeParen); closeParens count; expectLexeme (.symbol .closeParen)) := by
        rw [ih]
      _ = (do closeParens (count + 1); expectLexeme (.symbol .closeParen)) := by
        simp only [closeParens, bind_assoc]

theorem expressionLoop (progress : Progress) : expression.runFrom progress =
    (do
      if (← peek) = .symbol .openParen then
        expectLexeme (.symbol .openParen)
        expression
        expectLexeme (.symbol .closeParen)
      else operand : Compiler Unit).runFrom progress := by
  obtain ⟨bound, rounds⟩ := boundSucc progress.ahead
  have enough := Lookahead.withinBound progress.ahead
  rw [rounds] at enough
  show (do
    let depth ← openParens progress.ahead.bound
    operand
    closeParens depth).runFrom progress = _
  -- The parentheses are closed in one go; the last of them is the one that was opened first.
  rw [rounds, openParens, bind_assoc]
  apply Step.bindCongr
  intro lexeme looked peeked
  split
  · simp only [bind_assoc, pure_bind]
    apply Step.bindCongr
    intro _ after ran
    have less := roundShrinks orderlyOpening.consumes (roundWithin orderlyPeek.consumes enough peeked) ran
    have same := openParensStable less (Lookahead.withinBound after.ahead)
    rw [expression, bind_assoc, tokensLeftRun]
    simp only [closeParensLast, bind_assoc]
    rw [Step.runFromBind, Step.runFromBind, same]
  · simp [closeParens]

theorem statementsExit {bound : Nat} {progress after : Progress} (enough : progress.ahead.Within bound)
    (ran : (statements bound).runFrom progress = (.ok (), after)) :
    ∃ token last, Lookahead.consume.runFrom after.ahead = (.ok token, last) ∧ token.lexeme = .streamEnd := by
  have positive := Lookahead.withinPositive enough
  induction bound generalizing progress with
  | zero => omega
  | succ bound ih =>
    rw [statements] at ran
    obtain ⟨lexeme, looked, peeked, rest⟩ := Step.bindFound ran
    split at rest
    · rename_i ends
      cases rest
      obtain ⟨token, found, same⟩ := peekFound peeked
      obtain ⟨last, took⟩ := Lookahead.peekConsume found
      exact ⟨token, last, took, same.trans ends⟩
    · obtain ⟨_, middle, round, rest⟩ := Step.bindFound rest
      have less := roundShrinks orderlyStatement.consumes (roundWithin orderlyPeek.consumes enough peeked) round
      exact ih less rest (Lookahead.withinPositive less)

end Compiler

structure Scanner.Terminates : Prop where
  shrinks : ∀ scanner token after, scan.runFrom scanner = (.ok token, after) → isWritten token = true →
    after.rest.length < scanner.rest.length
  nextGoesOn : ∀ scanner, next.runFrom scanner =
    (do
      let token ← scan
      if token.kind = .blank then next else return token : Scan Token).runFrom scanner
  tokensGoOn : ∀ scanner, tokens.runFrom scanner =
    (do
      let token ← next
      if token.isStreamEnd then return [token] else return token :: (← tokens) :
        Scan (List Token)).runFrom scanner
  writtenGoOn : ∀ scanner, writtenTokens.runFrom scanner =
    (do
      let token ← scan
      if token.isStreamEnd then return []
      else if isWritten token then return token :: (← writtenTokens)
      else writtenTokens : Scan (List Token)).runFrom scanner
  bounded : ∀ (scanner : Scanner) bound, scanner.rest.length + 2 ≤ bound →
    (tokensWithin bound).runFrom scanner = tokens.runFrom scanner ∧
    (writtenWithin bound).runFrom scanner = writtenTokens.runFrom scanner

theorem Scanner.terminates : Terminates where
  shrinks _ _ _ := scanShrinks
  nextGoesOn := nextLoop
  tokensGoOn := tokensLoop
  writtenGoOn := writtenLoop
  bounded scanner bound enough := by
    have own := leftBound scanner
    have within := Nat.le_trans own enough
    rw [tokensRounds, writtenRounds]
    exact ⟨tokensWithinStable within own, writtenWithinStable within own⟩

theorem Lookahead.sourceWithin (rule : WordRule) (source : String) :
    (ofSource rule source).Within (source.length + 2) := by
  have all := withinBound (ofSource rule source)
  have same : (ofSource rule source).bound = source.length + 2 := by
    simp [ofSource, bound, Scanner.bound, Scanner.ofSource, String.length_toList]
  rwa [same] at all

namespace Compiler

structure Terminates (rule : WordRule) (source : String) : Prop where
  statementTakes : Consumes 1 statement
  expressionTakes : Consumes 1 expression
  expressionGoesOn : ∀ progress, expression.runFrom progress =
    (do
      if (← peek) = .symbol .openParen then
        expectLexeme (.symbol .openParen)
        expression
        expectLexeme (.symbol .closeParen)
      else operand : Compiler Unit).runFrom progress
  statementsGoOn : ∀ progress, (do statements (← tokensLeft)).runFrom progress =
    (do
      unless (← peek) = .streamEnd do
        statement
        statements (← tokensLeft) : Compiler Unit).runFrom progress
  statementsStop : ∀ progress after, (do statements (← tokensLeft)).runFrom progress = (.ok (), after) →
    ∃ token last, Lookahead.consume.runFrom after.ahead = (.ok token, last) ∧ token.lexeme = .streamEnd
  bounded : ∀ taken (progress : Progress) bound, (Lookahead.ofSource rule source).Draws taken progress.ahead →
    (∀ token ∈ taken, token.isStreamEnd = false) → source.length + 2 ≤ bound →
      taken.length < source.length + 2 ∧
      (statements bound).runFrom progress = (do statements (← tokensLeft)).runFrom progress ∧
      (openParens bound).runFrom progress = (do openParens (← tokensLeft)).runFrom progress

theorem sourceTerminates (rule : WordRule) (source : String) : Terminates rule source where
  statementTakes := orderlyStatement.consumes
  expressionTakes := orderlyExpression.consumes
  expressionGoesOn := expressionLoop
  statementsGoOn := statementsLoop
  statementsStop progress _ := statementsExit (Lookahead.withinBound progress.ahead)
  bounded taken progress bound draws goOn enough := by
    obtain ⟨few, left⟩ := Lookahead.drawsWithin (Lookahead.sourceWithin rule source) draws goOn
    have within := Lookahead.withinMore left (Nat.le_trans (Nat.sub_le _ _) enough)
    have own := Lookahead.withinBound progress.ahead
    rw [tokensLeftRun, tokensLeftRun]
    exact ⟨few, statementsStable within own, openParensStable within own⟩

end Compiler

theorem everyLoopEnds (rule : WordRule) (source : String) : Scanner.Terminates ∧ Compiler.Terminates rule source :=
  ⟨Scanner.terminates, Compiler.sourceTerminates rule source⟩

theorem everyLoopEndsSample :
    ∃ started after, (Lookahead.ofSource .whole "x = ((1))").Draws [⟨.streamStart, {}⟩] started.ahead ∧
      Compiler.statement.runFrom started = (.ok (), after) ∧
      (∃ taken, started.ahead.Draws taken after.ahead ∧ 1 ≤ taken.length ∧
        ∀ token ∈ taken, token.isStreamEnd = false) ∧
      (Compiler.statements 11).runFrom started =
        (do Compiler.statements (← Compiler.tokensLeft)).runFrom started := by
  let fresh := Progress.start {} "x = ((1))" .unlimited
  let started : Progress := { fresh with ahead := (Lookahead.consume.runFrom fresh.ahead).2 }
  obtain ⟨_, ends⟩ := everyLoopEnds .whole "x = ((1))"
  have first : (Lookahead.ofSource .whole "x = ((1))").Draws [⟨.streamStart, {}⟩] started.ahead :=
    .take rfl (.none _)
  have done : (Compiler.statement.runFrom started).1.isOk = true := by decide +kernel
  have bounded := ends.bounded _ started 11 first (by decide) (by decide)
  cases ran : Compiler.statement.runFrom started with
  | mk outcome after =>
    rw [ran] at done
    cases outcome with
    | error error => cases done
    | ok => exact ⟨started, after, first, ran, ends.statementTakes started () after ran, bounded.2.1⟩

end Linewise
