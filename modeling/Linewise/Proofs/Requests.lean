import Linewise.Proofs.Tiling

/-! One scanner asked again and again, for the next token, for all tokens or for all that is written. Whatever
it is asked, it moves on over its source by single scans, so the answers taken together are the tokens of the
source in order. Two situations are final: at the end of the source no answer has more than the mark of the
end, and where no token starts every answer is the same error. -/
namespace Linewise

namespace Scanner

inductive Request where
  | next
  | tokens
  | written
  deriving DecidableEq, Repr

abbrev Answer := Except LexError (List Token)

namespace Request

def run : Request → Scan (List Token)
  | .next => do return [← Scanner.next]
  | .tokens => Scanner.tokens
  | .written => Scanner.writtenTokens

def keeps : Request → Token → Bool
  | .next, token | .tokens, token => token.kind ≠ .blank
  | .written, token => isWritten token

def atEnd (last : Token) : Request → Answer
  | .next | .tokens => .ok [last]
  | .written => .ok []

end Request

def answers : List Request → Scanner → List Answer
  | [], _ => []
  | request :: later, scanner =>
    (request.run.runFrom scanner).1 :: answers later (request.run.runFrom scanner).2

def afterAnswers : List Request → Scanner → Scanner
  | [], scanner => scanner
  | request :: later, scanner => afterAnswers later (request.run.runFrom scanner).2

def Answer.tokens : Answer → List Token
  | .ok tokens => tokens
  | .error _ => []

def delivered (requests : List Request) (scanner : Scanner) : List Token :=
  (answers requests scanner).flatMap Answer.tokens

def isSignificant (token : Token) : Bool := token.kind ≠ .blank && isWritten token

def significant (scanner : Scanner) : List Token := scanner.delivery.tokens.filter isWritten

inductive Trace : Scanner → List Token → Scanner → Prop where
  | none (scanner : Scanner) : Trace scanner [] scanner
  | more {scanner middle after : Scanner} {token : Token} {tokens : List Token}
      (found : scan.runFrom scanner = (.ok token, middle)) (rest : Trace middle tokens after) :
      Trace scanner (token :: tokens) after

theorem traceAppend {scanner middle after : Scanner} {first second : List Token}
    (trace : Trace scanner first middle) (rest : Trace middle second after) :
    Trace scanner (first ++ second) after := by
  induction trace with
  | none => exact rest
  | more found _ ih => exact .more found (ih rest)

theorem scanSignificant {scanner after : Scanner} {token : Token}
    (found : scan.runFrom scanner = (.ok token, after)) :
    scanner.significant = [token].filter isSignificant ++ after.significant := by
  have later := deliveryReads after
  cases ends : token.isStreamEnd with
  | true =>
    cases scanOk found with
    | start fresh => cases ends
    | finish started empty => rfl
    | lexeme started lexeme count begins => cases begins <;> cases ends
  | false =>
    by_cases blank : token.kind = .blank
    · have same := readsUnique (deliveryReads scanner) (readsCongr later (nextPastBlank found blank))
      simp [significant, same.1, isSignificant, blank]
    · have same := readsUnique (deliveryReads scanner) (.more (nextHere found blank) ends later)
      cases written : isWritten token <;> simp [significant, same.1, isSignificant, blank, written]

theorem traceSignificant {scanner after : Scanner} {raw : List Token} (trace : Trace scanner raw after) :
    scanner.significant = raw.filter isSignificant ++ after.significant := by
  induction trace with
  | none => rfl
  | @more scanner middle after token tokens found rest ih =>
    rw [scanSignificant found, ih, ← List.append_assoc, ← List.filter_append]
    rfl

theorem traceStarted {scanner after : Scanner} {raw : List Token} (trace : Trace scanner raw after)
    (started : scanner.started = true) :
    after.started = true ∧ ∀ token ∈ raw, token.lexeme ≠ .streamStart := by
  induction trace with
  | none => exact ⟨started, by simp⟩
  | more found rest ih =>
    have scans := scanOk found
    obtain ⟨kept, later⟩ := ih (scansStarted scans)
    exact ⟨kept, List.forall_mem_cons.mpr ⟨scansStart scans started, later⟩⟩

theorem traceStart {scanner after : Scanner} {raw : List Token} (trace : Trace scanner raw after) :
    raw.countP (fun token => token.lexeme = .streamStart) ≤ 1 := by
  cases trace with
  | none => exact Nat.zero_le 1
  | @more _ _ _ token tokens found rest =>
    have later := (traceStarted rest (scansStarted (scanOk found))).2
    have none : tokens.countP (fun token => token.lexeme = .streamStart) = 0 :=
      List.countP_eq_zero.mpr (by simpa using later)
    rw [List.countP_cons, none]
    split <;> omega

theorem traceFinished {scanner after : Scanner} {raw : List Token} (trace : Trace scanner raw after)
    (started : scanner.started = true) (empty : scanner.rest = []) : after = scanner := by
  induction trace with
  | none => rfl
  | more found rest ih =>
    cases (scanEnd started empty).symm.trans found
    exact ih started empty

theorem traceEnd {scanner after : Scanner} {raw : List Token} (trace : Trace scanner raw after)
    {token : Token} (member : token ∈ raw) (ends : token.isStreamEnd = true) : after.rest = [] := by
  induction trace with
  | none => cases member
  | @more scanner middle after first tokens found rest ih =>
    rcases List.mem_cons.mp member with rfl | later
    · have scans := scanOk found
      have empty := (scansEnd scans ends).2
      cases scans with
      | start fresh => cases ends
      | finish started => rw [traceFinished rest started empty, empty]
      | lexeme started lexeme count begins => cases begins <;> cases ends
    · exact ih later

theorem traceAt {text : List Char} {scanner after : Scanner} {raw : List Token} (place : At text scanner)
    (trace : Trace scanner raw after) : At text after := by
  induction trace with
  | none => exact place
  | @more scanner middle _ token tokens found rest ih =>
    apply ih
    cases scanOk found with
    | start fresh => exact ⟨place.within, place.rest, place.pos⟩
    | finish started empty => exact place
    | lexeme started lexeme count begins => exact skipAt place (Lexeme.beginsLength begins).2

theorem traceRule {scanner after : Scanner} {raw : List Token} (trace : Trace scanner raw after) :
    after.rule = scanner.rule := by
  induction trace with
  | none => rfl
  | more found rest ih => exact ih.trans (scansRule (scanOk found))

theorem traceFound {scanner after : Scanner} {raw : List Token} (trace : Trace scanner raw after)
    {token : Token} (member : token ∈ raw) :
    ∃ before middle next, Trace scanner before middle ∧ scan.runFrom middle = (.ok token, next) := by
  induction trace with
  | none => cases member
  | @more scanner middle after first tokens found rest ih =>
    rcases List.mem_cons.mp member with rfl | later
    · exact ⟨[], scanner, middle, .none scanner, found⟩
    · obtain ⟨before, place, next, reached, again⟩ := ih later
      exact ⟨first :: before, place, next, .more found reached, again⟩

inductive Answered (request : Request) (scanner : Scanner) : Answer → Scanner → Prop where
  | ok {raw : List Token} {after : Scanner} (trace : Trace scanner raw after) (some : raw ≠ [])
      (ends : request ≠ .next → after.rest = []) :
      Answered request scanner (.ok (raw.filter request.keeps)) after
  | failed {raw : List Token} {error : LexError} {after : Scanner} (trace : Trace scanner raw after)
      (stuck : Stuck after error) : Answered request scanner (.error error) after

theorem nextTrace {scanner after : Scanner} {outcome : Except LexError Token}
    (ran : next.runFrom scanner = (outcome, after)) :
    ∃ raw, Trace scanner raw after ∧
      ∀ token, outcome = .ok token → raw.filter (fun token => token.kind ≠ .blank) = [token] := by
  have solid (token : Token) (ok : outcome = .ok token) : token.kind ≠ .blank := (nextOk (ok ▸ ran)).1
  rw [nextRun] at ran
  cases first : scan.runFrom scanner with
  | mk found middle =>
    rw [first] at ran
    cases found with
    | error error =>
      cases ran
      obtain ⟨_, rfl⟩ := scanError first
      exact ⟨[], .none _, nofun⟩
    | ok token =>
      by_cases blank : token.kind = .blank
      · simp only [if_pos blank] at ran
        cases outcome with
        | error error =>
          obtain ⟨_, rfl⟩ := scanError ran
          exact ⟨[token], .more first (.none _), nofun⟩
        | ok second =>
          refine ⟨[token, second], .more first (.more ran (.none after)), ?_⟩
          intro _ same
          cases same
          simp [blank, solid second rfl]
      · simp only [if_neg blank] at ran
        cases ran
        refine ⟨[token], .more first (.none _), ?_⟩
        intro _ same
        cases same
        simp [blank]

theorem nextRequest (scanner : Scanner) : Request.next.run.runFrom scanner =
    ((next.runFrom scanner).1.map fun token => [token], (next.runFrom scanner).2) := by
  have run : Request.next.run.runFrom scanner = _ :=
    Step.runFromBind next (fun token => pure [token]) scanner
  rw [run]
  cases next.runFrom scanner with
  | mk outcome after => cases outcome <;> rfl

theorem nextAnswered (scanner : Scanner) :
    Answered .next scanner (Request.next.run.runFrom scanner).1 (Request.next.run.runFrom scanner).2 := by
  rw [nextRequest]
  cases h : next.runFrom scanner with
  | mk outcome after =>
    obtain ⟨raw, trace, kept⟩ := nextTrace h
    cases outcome with
    | error error => exact .failed trace (nextError h).2
    | ok token =>
      have kept : raw.filter Request.next.keeps = [token] := kept token rfl
      have some : raw ≠ [] := fun none => by simp [none] at kept
      have answer := @Answered.ok .next scanner raw after trace some (absurd rfl)
      rw [kept] at answer
      exact answer

theorem answeredAfter {request : Request} {scanner middle after : Scanner} {raw : List Token}
    {answer : Answer}
    (trace : Trace scanner raw middle) (some : raw ≠ []) (rest : Answered request middle answer after) :
    Answered request scanner (answer.map fun tokens => raw.filter request.keeps ++ tokens) after := by
  cases rest with
  | failed trace' stuck => exact .failed (traceAppend trace trace') stuck
  | @ok later _ trace' _ ends =>
    have answer := @Answered.ok request scanner _ after (traceAppend trace trace') (by simp [some]) ends
    rw [List.filter_append] at answer
    exact answer

theorem consRun (reader : Scan (List Token)) (token : Token) (scanner : Scanner) :
    (do return token :: (← reader) : Scan (List Token)).runFrom scanner =
      ((reader.runFrom scanner).1.map fun tokens => [token] ++ tokens, (reader.runFrom scanner).2) := by
  rw [Step.runFromBind]
  cases reader.runFrom scanner with
  | mk outcome after => cases outcome <;> rfl

theorem tokensAnswered {bound : Nat} {scanner : Scanner} (enough : scanner.left ≤ bound) :
    Answered .tokens scanner ((tokensWithin bound).runFrom scanner).1
      ((tokensWithin bound).runFrom scanner).2 := by
  induction bound generalizing scanner with
  | zero =>
    unfold left at enough
    split at enough <;> omega
  | succ bound ih =>
    unfold tokensWithin
    rw [Step.runFromBind]
    cases h : next.runFrom scanner with
    | mk outcome after =>
      obtain ⟨raw, trace, kept⟩ := nextTrace h
      cases outcome with
      | error error => exact .failed trace (nextError h).2
      | ok token =>
        have kept := kept token rfl
        have some : raw ≠ [] := fun none => by simp [none] at kept
        have same : raw.filter Request.tokens.keeps = [token] := kept
        have member : token ∈ raw := (List.mem_filter.mp (kept ▸ List.mem_singleton_self token)).1
        cases ends : token.isStreamEnd with
        | true =>
          have answer := @Answered.ok .tokens _ _ _ trace some (fun _ => traceEnd trace member ends)
          rw [same] at answer
          simpa [ends] using answer
        | false =>
          have less := nextLeft h ends
          have answer := answeredAfter trace some (@ih after (by omega))
          rw [same] at answer
          simp only [ends, Bool.false_eq_true, if_false]
          rw [consRun]
          exact answer

theorem writtenAnswered {bound : Nat} {scanner : Scanner} (enough : scanner.left ≤ bound) :
    Answered .written scanner ((writtenWithin bound).runFrom scanner).1
      ((writtenWithin bound).runFrom scanner).2 := by
  induction bound generalizing scanner with
  | zero =>
    unfold left at enough
    split at enough <;> omega
  | succ bound ih =>
    unfold writtenWithin
    rw [Step.runFromBind]
    cases h : scan.runFrom scanner with
    | mk outcome after =>
      cases outcome with
      | error error =>
        obtain ⟨stuck, rfl⟩ := scanError h
        exact .failed (.none _) stuck
      | ok token =>
        have trace : Trace scanner [token] after := .more h (.none after)
        have some : [token] ≠ [] := List.cons_ne_nil token []
        have later (goesOn : token.isStreamEnd = false) :=
          answeredAfter trace some (@ih after (by have := scansLeft (scanOk h) goesOn; omega))
        simp only
        split
        · rename_i kind
          have ends : token.isStreamEnd = true := by simp [Token.isStreamEnd, kind]
          have answer := @Answered.ok .written _ _ _ trace some
            (fun _ => traceEnd trace (List.mem_singleton_self token) ends)
          simpa [Request.keeps, isWritten, kind] using answer
        · rename_i kind
          have answer := later (by simp [Token.isStreamEnd, kind])
          rw [List.filter_cons_of_neg (by simp [Request.keeps, isWritten, kind])] at answer
          cases rest : (writtenWithin bound).runFrom after with
          | mk outcome last =>
            rw [rest] at answer
            cases outcome <;> exact answer
        · rename_i noEnd noStart
          have answer := later (by simpa [Token.isStreamEnd] using noEnd)
          rw [List.filter_cons_of_pos (by simpa [Request.keeps, isWritten] using ⟨noStart, noEnd⟩)] at answer
          rw [consRun]
          exact answer

theorem requestAnswered (request : Request) (scanner : Scanner) :
    Answered request scanner (request.run.runFrom scanner).1 (request.run.runFrom scanner).2 := by
  cases request with
  | next => exact nextAnswered scanner
  | tokens =>
    have run : Scanner.tokens.runFrom scanner = (tokensWithin scanner.bound).runFrom scanner :=
      Step.runFromBind get (fun state => tokensWithin state.bound) scanner
    rw [Request.run, run]
    exact tokensAnswered (leftBound scanner)
  | written =>
    have run : writtenTokens.runFrom scanner = (writtenWithin scanner.bound).runFrom scanner :=
      Step.runFromBind get (fun state => writtenWithin state.bound) scanner
    rw [Request.run, run]
    exact writtenAnswered (leftBound scanner)

theorem answeredTrace {request : Request} {scanner after : Scanner} {answer : Answer}
    (answered : Answered request scanner answer after) : ∃ raw, Trace scanner raw after := by
  cases answered with
  | ok trace some ends => exact ⟨_, trace⟩
  | failed trace stuck => exact ⟨_, trace⟩

theorem answeredStarted {request : Request} {scanner after : Scanner} {answer : Answer}
    (answered : Answered request scanner answer after) : after.started = true := by
  cases answered with
  | ok trace some ends =>
    cases trace with
    | none => exact absurd rfl some
    | more found rest => exact (traceStarted rest (scansStarted (scanOk found))).1
  | failed trace stuck => exact stuck.started

theorem keptSignificant (request : Request) (raw : List Token) :
    (raw.filter request.keeps).filter isSignificant = raw.filter isSignificant := by
  rw [List.filter_filter]
  congr 1
  funext token
  cases request <;> cases written : isWritten token <;> by_cases blank : token.kind = .blank <;>
    simp [Request.keeps, isSignificant, written, blank]

section
variable {scanner : Scanner}

theorem finishedRequest (started : scanner.started = true) (empty : scanner.rest = []) (request : Request) :
    request.run.runFrom scanner = (request.atEnd ⟨.streamEnd, scanner.pos⟩, scanner) := by
  have scanned := scanEnd started empty
  have next := nextHere scanned (by simp [Token.kind, Lexeme.kind])
  cases request with
  | next =>
    rw [nextRequest, next]
    rfl
  | tokens =>
    simp [Request.run, Request.atEnd, Scanner.tokens, Step.runFromBind, bound, tokensWithin, next,
      Token.isStreamEnd, Token.kind, Lexeme.kind]
  | written =>
    simp [Request.run, Request.atEnd, writtenTokens, Step.runFromBind, bound, writtenWithin, scanned,
      Token.kind, Lexeme.kind]

theorem stuckRequest {error : LexError} (stuck : Stuck scanner error) (request : Request) :
    request.run.runFrom scanner = (.error error, scanner) := by
  have scanned := scanStuck stuck
  have next : Scanner.next.runFrom scanner = (.error error, scanner) := by rw [nextRun, scanned]
  cases request with
  | next =>
    rw [nextRequest, next]
    rfl
  | tokens => simp [Request.run, Scanner.tokens, Step.runFromBind, bound, tokensWithin, next]
  | written => simp [Request.run, writtenTokens, Step.runFromBind, bound, writtenWithin, scanned]

theorem finishedAnswers (started : scanner.started = true) (empty : scanner.rest = [])
    (requests : List Request) :
    answers requests scanner = requests.map (Request.atEnd ⟨.streamEnd, scanner.pos⟩) ∧
      afterAnswers requests scanner = scanner := by
  induction requests with
  | nil => exact ⟨rfl, rfl⟩
  | cons request later ih =>
    simp only [answers, afterAnswers, finishedRequest started empty, ih, List.map_cons, and_self]

theorem stuckAnswers {error : LexError} (stuck : Stuck scanner error) (requests : List Request) :
    answers requests scanner = requests.map (fun _ => .error error) ∧
      afterAnswers requests scanner = scanner := by
  induction requests with
  | nil => exact ⟨rfl, rfl⟩
  | cons request later ih =>
    simp only [answers, afterAnswers, stuckRequest stuck, ih, List.map_cons, and_self]

end

theorem answersAppend (before later : List Request) (scanner : Scanner) :
    answers (before ++ later) scanner =
      answers before scanner ++ answers later (afterAnswers before scanner) := by
  induction before generalizing scanner with
  | nil => rfl
  | cons request rest ih => simp only [List.cons_append, answers, afterAnswers, ih]

theorem afterAnswersAt {text : List Char} {scanner : Scanner} (place : At text scanner)
    (requests : List Request) : At text (afterAnswers requests scanner) := by
  induction requests generalizing scanner with
  | nil => exact place
  | cons request later ih =>
    obtain ⟨raw, trace⟩ := answeredTrace (requestAnswered request scanner)
    exact ih (traceAt place trace)

theorem answersStarted (scanner : Scanner) {requests : List Request}
    (some : requests ≠ [] ∨ scanner.started = true) : (afterAnswers requests scanner).started = true := by
  induction requests generalizing scanner with
  | nil => exact some.resolve_left (absurd rfl)
  | cons request later ih => exact ih _ (.inr (answeredStarted (requestAnswered request scanner)))

/- What the answers deliver comes off the front of what there is. Only a scanner that is stuck may have
scanned tokens that no answer delivers. -/
theorem answersSignificant (requests : List Request) (scanner : Scanner) :
    scanner.significant =
        (delivered requests scanner).filter isSignificant ++ (afterAnswers requests scanner).significant ∨
      (∃ error, Stuck (afterAnswers requests scanner) error) ∧
        (delivered requests scanner).filter isSignificant <+: scanner.significant := by
  induction requests generalizing scanner with
  | nil => exact .inl rfl
  | cons request later ih =>
    simp only [delivered, answers, afterAnswers, List.flatMap_cons, List.filter_append] at ih ⊢
    have answered := requestAnswered request scanner
    generalize (request.run.runFrom scanner).1 = answer at *
    generalize (request.run.runFrom scanner).2 = middle at *
    cases answered with
    | failed trace stuck =>
      obtain ⟨same, stays⟩ := stuckAnswers stuck later
      refine .inr ⟨⟨_, stays ▸ stuck⟩, ?_⟩
      have none : (answers later middle).flatMap Answer.tokens = [] := by
        rw [same, List.flatMap_eq_nil_iff]
        simp [Answer.tokens]
      rw [none]
      exact List.nil_prefix
    | @ok raw _ trace some ends =>
      have front := traceSignificant trace
      rw [← keptSignificant request raw] at front
      rw [front]
      rcases ih middle with whole | ⟨stuck, part⟩
      · left
        rw [List.append_assoc, ← whole]
        rfl
      · exact .inr ⟨stuck, (List.prefix_append_right_inj _).mpr part⟩

theorem deliveredTrace (requests : List Request) (scanner : Scanner) :
    ∃ raw, Trace scanner raw (afterAnswers requests scanner) ∧
      ∀ token ∈ delivered requests scanner, token ∈ raw := by
  induction requests generalizing scanner with
  | nil => exact ⟨[], .none scanner, nofun⟩
  | cons request later ih =>
    have answered := requestAnswered request scanner
    simp only [delivered, answers, afterAnswers, List.flatMap_cons] at ih ⊢
    generalize (request.run.runFrom scanner).1 = answer at *
    generalize (request.run.runFrom scanner).2 = middle at *
    obtain ⟨rest, further, inside⟩ := ih middle
    obtain ⟨raw, trace, kept⟩ : ∃ raw, Trace scanner raw middle ∧ ∀ token ∈ Answer.tokens answer, token ∈ raw := by
      cases answered with
      | failed trace stuck => exact ⟨_, trace, fun _ member => absurd member List.not_mem_nil⟩
      | ok trace some ends => exact ⟨_, trace, fun token member => (List.mem_filter.mp member).1⟩
    refine ⟨raw ++ rest, traceAppend trace further, ?_⟩
    intro token member
    rcases List.mem_append.mp member with here | there
    · exact List.mem_append_left _ (kept token here)
    · exact List.mem_append_right _ (inside token there)

theorem answersFailed (scanner : Scanner) {requests : List Request} {error : LexError}
    (failed : .error error ∈ answers requests scanner) : Stuck (afterAnswers requests scanner) error := by
  induction requests generalizing scanner with
  | nil => cases failed
  | cons request later ih =>
    simp only [answers, afterAnswers] at failed ⊢
    have answered := requestAnswered request scanner
    generalize (request.run.runFrom scanner).1 = answer at *
    generalize (request.run.runFrom scanner).2 = middle at *
    rcases List.mem_cons.mp failed with rfl | again
    · cases answered with
      | failed trace stuck => rwa [(stuckAnswers stuck later).2]
    · exact ih middle again

theorem startedAnswers {scanner : Scanner} (started : scanner.started = true) (requests : List Request) :
    ∀ answer ∈ answers requests scanner, ∀ token ∈ answer.tokens, token.lexeme ≠ .streamStart := by
  induction requests generalizing scanner with
  | nil => simp [answers]
  | cons request later ih =>
    have answered := requestAnswered request scanner
    simp only [answers]
    rw [List.forall_mem_cons]
    refine ⟨?_, ih (answeredStarted answered)⟩
    generalize (request.run.runFrom scanner).1 = answer at *
    cases answered with
    | failed trace stuck => simp [Answer.tokens]
    | ok trace some ends =>
      intro token member
      exact (traceStarted trace started).2 token (List.mem_filter.mp member).1

theorem answeredStart {request : Request} {scanner after : Scanner} {answer : Answer}
    (answered : Answered request scanner answer after) :
    answer.tokens.countP (fun token => token.lexeme = .streamStart) ≤ 1 := by
  cases answered with
  | failed trace stuck => exact Nat.zero_le 1
  | ok trace some ends =>
    exact Nat.le_trans (List.Sublist.countP_le List.filter_sublist) (traceStart trace)

theorem answersStart (requests : List Request) (scanner : Scanner) :
    (delivered requests scanner).countP (fun token => token.lexeme = .streamStart) ≤ 1 ∧
      ∀ answer ∈ (answers requests scanner).tail, ∀ token ∈ answer.tokens, token.lexeme ≠ .streamStart := by
  cases requests with
  | nil => simp [delivered, answers]
  | cons request later =>
    have answered := requestAnswered request scanner
    have none := startedAnswers (answeredStarted answered) later
    have rest : ((answers later (request.run.runFrom scanner).2).flatMap Answer.tokens).countP
        (fun token => token.lexeme = .streamStart) = 0 := by
      rw [List.countP_eq_zero]
      intro token member
      obtain ⟨answer, given, inside⟩ := List.mem_flatMap.mp member
      simpa using none answer given token inside
    refine ⟨?_, none⟩
    simp only [delivered, answers, List.flatMap_cons, List.countP_append, rest]
    exact answeredStart answered

def EndSeen (requests : List Request) (scanner : Scanner) : Prop :=
  ∃ pair ∈ requests.zip (answers requests scanner),
    pair.1 ≠ .next ∧ pair.2.isOk = true ∨ ∃ token ∈ pair.2.tokens, token.isStreamEnd = true

def EndReached (requests : List Request) (scanner : Scanner) : Prop :=
  requests ≠ [] ∧ (afterAnswers requests scanner).rest = []

theorem answeredEnd {request : Request} {scanner after : Scanner} {answer : Answer}
    (answered : Answered request scanner answer after)
    (seen : request ≠ .next ∧ answer.isOk = true ∨ ∃ token ∈ answer.tokens, token.isStreamEnd = true) :
    after.rest = [] := by
  cases answered with
  | failed trace stuck =>
    rcases seen with ⟨_, ok⟩ | ⟨token, member, _⟩
    · cases ok
    · cases member
  | ok trace some ends =>
    rcases seen with ⟨all, _⟩ | ⟨token, member, last⟩
    · exact ends all
    · exact traceEnd trace (List.mem_filter.mp member).1 last

theorem seenReached {requests : List Request} (scanner : Scanner) (seen : EndSeen requests scanner) :
    EndReached requests scanner := by
  induction requests generalizing scanner with
  | nil =>
    obtain ⟨_, member, _⟩ := seen
    cases member
  | cons request later ih =>
    have answered := requestAnswered request scanner
    refine ⟨List.cons_ne_nil request later, ?_⟩
    obtain ⟨pair, member, seen⟩ := seen
    simp only [answers, List.zip_cons_cons] at member
    rcases List.mem_cons.mp member with rfl | again
    · have empty := answeredEnd answered seen
      simp only [afterAnswers, (finishedAnswers (answeredStarted answered) empty later).2, empty]
    · exact (ih _ ⟨pair, again, seen⟩).2

theorem finishedSignificant {scanner : Scanner} (started : scanner.started = true)
    (empty : scanner.rest = []) : scanner.significant = [] := by
  have last := nextHere (scanEnd started empty) (by simp [Token.kind, Lexeme.kind])
  have same := (readsUnique (deliveryReads scanner) (.last last rfl)).1
  simp [significant, same, isWritten, Token.kind, Lexeme.kind]

end Scanner

open Scanner in
theorem requestsAnswered (rule : WordRule) (source : String) :
    let start := Scanner.ofSource rule source
    let last : Token := ⟨.streamEnd, .after source.toList⟩
    (∀ requests,
      (delivered requests start).filter isSignificant <+: start.significant ∧
      (EndReached requests start → (delivered requests start).filter isSignificant = start.significant) ∧
      (delivered requests start).countP (fun token => token.lexeme = .streamStart) ≤ 1 ∧
      ∀ answer ∈ (answers requests start).tail, ∀ token ∈ answer.tokens, token.lexeme ≠ .streamStart) ∧
    (∀ before, EndSeen before start → EndReached before start) ∧
    (∀ before later, EndReached before start →
      answers (before ++ later) start = answers before start ++ later.map (Request.atEnd last)) ∧
    ∀ before later error, .error error ∈ answers before start →
      (∃ rest pos, error = .unrecognized rest pos) ∧
      answers (before ++ later) start = answers before start ++ later.map fun _ => .error error := by
  intro start last
  refine ⟨?_, fun before => seenReached start, ?_, ?_⟩
  · intro requests
    have front := answersSignificant requests start
    refine ⟨?_, ?_, answersStart requests start⟩
    · rcases front with whole | ⟨_, part⟩
      · exact ⟨_, whole.symm⟩
      · exact part
    · rintro ⟨some, empty⟩
      rcases front with whole | ⟨⟨_, stuck⟩, _⟩
      · rw [finishedSignificant (answersStarted start (.inl some)) empty, List.append_nil] at whole
        exact whole.symm
      · exact absurd empty stuck.some
  · rintro before later ⟨some, empty⟩
    have place := afterAnswersAt (sourceAt rule source) before
    have pos : (afterAnswers before start).pos = .after source.toList := by
      rw [place.pos, (atEnd place).mp empty, List.take_length]
    rw [answersAppend, (finishedAnswers (answersStarted start (.inl some)) empty later).1, pos]
  · intro before later error failed
    have stuck := answersFailed start failed
    rw [answersAppend, (stuckAnswers stuck later).1]
    exact ⟨⟨_, _, stuck.errorEq⟩, rfl⟩

/- A source asked to its end and one asked to its fault, each then asked everything again. -/
open Scanner in
theorem requestsAnsweredSample :
    let ending := Scanner.ofSource .leading "if\n.5"
    let last : Token := ⟨.streamEnd, ⟨2, 3⟩⟩
    let failing := Scanner.ofSource .whole "x @"
    let error : LexError := .unrecognized "@" ⟨1, 3⟩
    EndSeen [.next, .written] ending ∧
    answers ([.next, .written] ++ [.tokens, .written, .next]) ending =
      answers [.next, .written] ending ++ [.ok [last], .ok [], .ok [last]] ∧
    .error error ∈ answers [.next, .tokens] failing ∧
    answers ([.next, .tokens] ++ [.next, .written, .tokens]) failing =
      answers [.next, .tokens] failing ++ [.error error, .error error, .error error] := by
  intro ending last failing error
  obtain ⟨_, reached, ended, _⟩ := requestsAnswered .leading "if\n.5"
  obtain ⟨_, _, _, stays⟩ := requestsAnswered .whole "x @"
  have seen : EndSeen [.next, .written] ending := by
    refine ⟨(.written, (Request.written.run.runFrom (afterAnswers [.next] ending)).1), ?_,
      .inl ⟨by decide, ?_⟩⟩
    · simp [answers, afterAnswers]
    · decide +kernel
  have failed : .error error ∈ answers [.next, .tokens] failing := by
    have fault : (afterAnswers [.next] failing).delivery.fault = some error := by decide +kernel
    have answer : (Request.tokens.run.runFrom (afterAnswers [.next] failing)).1 = .error error := by
      rw [Request.run, tokensRun, Delivery.outcome, fault]
    rw [← answer]
    exact List.mem_cons_of_mem _ List.mem_cons_self
  exact ⟨seen, ended _ _ (reached _ seen), failed, (stays _ _ _ failed).2⟩

end Linewise
