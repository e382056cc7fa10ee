import Linewise.Lookahead
import Linewise.Proofs.Scanning

/-! What is read from a source, token by token. `Reads` relates a state to the tokens that come from it
and to the fault that cuts them short, if one does. A scanner and a lookahead over it read the same; the
tokens end with the end of the stream or right before the fault, and no two of them are equal. -/
namespace Linewise

inductive Reads {σ : Type} (read : Step LexError σ Token) :
    σ → List Token → Option LexError → Prop where
  | fault {state after error} (failed : read.runFrom state = (.error error, after)) :
      Reads read state [] (some error)
  | last {state after token} (found : read.runFrom state = (.ok token, after))
      (ends : token.isStreamEnd = true) : Reads read state [token] none
  | more {state after token tokens fault} (found : read.runFrom state = (.ok token, after))
      (goesOn : token.isStreamEnd = false) (rest : Reads read after tokens fault) :
      Reads read state (token :: tokens) fault

section
variable {σ : Type} {read : Step LexError σ Token} {state other : σ} {tokens : List Token}
  {fault : Option LexError}

theorem readsCongr (reads : Reads read state tokens fault)
    (same : read.runFrom other = read.runFrom state) : Reads read other tokens fault := by
  cases reads with
  | fault failed => exact .fault (same.trans failed)
  | last found ends => exact .last (same.trans found) ends
  | more found goesOn rest => exact .more (same.trans found) goesOn rest

theorem readsFault (reads : Reads read state [] fault) :
    ∃ error after, fault = some error ∧ read.runFrom state = (.error error, after) := by
  cases reads with
  | fault failed => exact ⟨_, _, rfl, failed⟩

theorem readsHead {token} (reads : Reads read state (token :: tokens) fault) :
    ∃ after, read.runFrom state = (.ok token, after) ∧
      (token.isStreamEnd = true → tokens = [] ∧ fault = none) ∧
      (token.isStreamEnd = false → Reads read after tokens fault) := by
  cases reads with
  | last found ends => exact ⟨_, found, fun _ => ⟨rfl, rfl⟩, fun goesOn => by simp [ends] at goesOn⟩
  | more found goesOn rest => exact ⟨_, found, fun ends => by simp [ends] at goesOn, fun _ => rest⟩

theorem readsEnd (reads : Reads read state tokens fault) (whole : fault = none) :
    ∃ most last, tokens = most ++ [last] ∧ last.isStreamEnd = true := by
  induction reads with
  | fault failed => cases whole
  | last found ends => exact ⟨[], _, rfl, ends⟩
  | more found goesOn rest ih =>
    obtain ⟨most, last, rfl, ends⟩ := ih whole
    exact ⟨_ :: most, last, rfl, ends⟩

theorem readsUnique {tokens' : List Token} {fault' : Option LexError} (reads : Reads read state tokens fault)
    (reads' : Reads read state tokens' fault') : tokens = tokens' ∧ fault = fault' := by
  induction reads generalizing tokens' with
  | fault failed =>
    cases reads' with
    | fault failed' =>
      cases failed.symm.trans failed'
      exact ⟨rfl, rfl⟩
    | last found _ | more found _ _ => cases failed.symm.trans found
  | last found ends =>
    cases reads' with
    | fault failed => cases found.symm.trans failed
    | last found' _ =>
      cases found.symm.trans found'
      exact ⟨rfl, rfl⟩
    | more found' goesOn _ =>
      cases found.symm.trans found'
      cases ends.symm.trans goesOn
  | more found goesOn rest ih =>
    cases reads' with
    | fault failed => cases found.symm.trans failed
    | last found' ends =>
      cases found.symm.trans found'
      cases ends.symm.trans goesOn
    | more found' _ rest' =>
      cases found.symm.trans found'
      obtain ⟨rfl, rfl⟩ := ih rest'
      exact ⟨rfl, rfl⟩

theorem readsGoOn {before after : List Token} {token found : Token}
    (reads : Reads read state (before ++ token :: found :: after) fault) :
    token.isStreamEnd = false := by
  induction before generalizing state with
  | nil =>
    cases reads with
    | more _ goesOn _ => exact goesOn
  | cons first rest ih =>
    obtain ⟨_, _, ends, goesOn⟩ := readsHead reads
    cases h : first.isStreamEnd with
    | true => exact absurd (ends h).1 (by simp)
    | false => exact ih (goesOn h)

end

structure Delivery where
  tokens : List Token
  fault : Option LexError := none
  deriving DecidableEq, Repr

def Delivery.outcome (delivery : Delivery) : Except LexError (List Token) :=
  match delivery.fault with
  | none => .ok delivery.tokens
  | some error => .error error

namespace Scanner

def deliverWithin : Nat → Scanner → Delivery
  | 0, _ => ⟨[], none⟩
  | bound + 1, scanner =>
    match next.runFrom scanner with
    | (.error error, _) => ⟨[], some error⟩
    | (.ok token, after) =>
      if token.isStreamEnd then ⟨[token], none⟩
      else
        let rest := deliverWithin bound after
        ⟨token :: rest.tokens, rest.fault⟩

def delivery (scanner : Scanner) : Delivery := deliverWithin scanner.bound scanner

theorem deliverWithinReads {bound : Nat} {scanner : Scanner} (enough : scanner.left ≤ bound) :
    Reads next scanner (deliverWithin bound scanner).tokens (deliverWithin bound scanner).fault := by
  induction bound generalizing scanner with
  | zero =>
    unfold left at enough
    split at enough <;> omega
  | succ bound ih =>
    unfold deliverWithin
    cases h : next.runFrom scanner with
    | mk outcome after =>
      cases outcome with
      | error error => exact .fault h
      | ok token =>
        cases ends : token.isStreamEnd with
        | true =>
          simp only [ends, if_true]
          exact .last h ends
        | false =>
          have less := nextLeft h ends
          simp only [ends, Bool.false_eq_true, if_false]
          exact .more h ends (ih (by omega))

theorem leftBound (scanner : Scanner) : scanner.left ≤ scanner.bound := by
  unfold left bound
  split <;> omega

theorem deliveryReads (scanner : Scanner) :
    Reads next scanner scanner.delivery.tokens scanner.delivery.fault :=
  deliverWithinReads (leftBound scanner)

theorem outcomeCons {reader : Scan (List Token)} {scanner : Scanner} {tokens : List Token}
    {fault : Option LexError} (token : Token)
    (tail : (reader.runFrom scanner).1 = Delivery.outcome ⟨tokens, fault⟩) :
    ((do return token :: (← reader) : Scan (List Token)).runFrom scanner).1 =
      Delivery.outcome ⟨token :: tokens, fault⟩ := by
  rw [Step.runFromBind]
  cases h : reader.runFrom scanner with
  | mk outcome last =>
    rw [h] at tail
    cases fault with
    | none =>
      cases tail
      rfl
    | some error =>
      cases tail
      rfl

theorem tokensWithinRun {bound : Nat} {scanner tokens fault}
    (reads : Reads next scanner tokens fault) (enough : scanner.left ≤ bound) :
    ((tokensWithin bound).runFrom scanner).1 = Delivery.outcome ⟨tokens, fault⟩ := by
  induction bound generalizing scanner tokens with
  | zero =>
    unfold left at enough
    split at enough <;> omega
  | succ bound ih =>
    unfold tokensWithin
    rw [Step.runFromBind]
    cases reads with
    | fault failed => simp [failed, Delivery.outcome]
    | last found ends => simp [found, ends, Delivery.outcome]
    | more found goesOn rest =>
      have less := nextLeft found goesOn
      simp only [found, goesOn, Bool.false_eq_true, if_false]
      exact outcomeCons _ (ih rest (by omega))

theorem readsTokens {scanner tokens fault} (reads : Reads next scanner tokens fault) :
    (Scanner.tokens.runFrom scanner).1 = Delivery.outcome ⟨tokens, fault⟩ := by
  unfold Scanner.tokens
  rw [Step.runFromBind, Step.runFromGet]
  exact tokensWithinRun reads (leftBound scanner)

theorem tokensRun (scanner : Scanner) :
    (tokens.runFrom scanner).1 = scanner.delivery.outcome :=
  readsTokens (deliveryReads scanner)

theorem tokensOkIff (scanner : Scanner) (list : List Token) :
    (tokens.runFrom scanner).1 = .ok list ↔
      scanner.delivery.fault = none ∧ scanner.delivery.tokens = list := by
  rw [tokensRun, Delivery.outcome]
  cases scanner.delivery.fault with
  | none => simp
  | some error => simp

theorem readsLawful {scanner tokens fault} (reads : Reads next scanner tokens fault) :
    ∀ token ∈ tokens, token.lexeme.Lawful := by
  induction reads with
  | fault failed => simp
  | last found ends =>
    intro token member
    obtain rfl := List.mem_singleton.mp member
    exact nextLawful found
  | more found goesOn rest ih =>
    intro token member
    rcases List.mem_cons.mp member with rfl | later
    · exact nextLawful found
    · exact ih token later

theorem readsUnrecognized {scanner tokens error} (reads : Reads next scanner tokens (some error)) :
    ∃ rest pos, error = .unrecognized rest pos := by
  generalize h : some error = fault at reads
  induction reads with
  | fault failed =>
    cases h
    exact nextUnrecognized failed
  | last found ends => cases h
  | more found goesOn rest ih => exact ih h

theorem unblankedStarted {scanner middle : Scanner} (unblanked : Unblanked scanner middle) :
    middle.started = scanner.started := by
  cases unblanked with
  | here => rfl
  | past started blanks count begins => rfl

theorem nextPos {scanner token after} (ok : next.runFrom scanner = (.ok token, after)) :
    scanner.pos.UpTo token.pos ∧ scanner.pos.UpTo after.pos := by
  obtain ⟨_, middle, unblanked, scans⟩ := nextOk ok
  obtain ⟨here, forward⟩ := scansPos scans
  have reached := unblankedPos unblanked
  exact ⟨by rwa [here], Position.upToTrans reached forward⟩

theorem readsPos {scanner tokens fault} (reads : Reads next scanner tokens fault) :
    ∀ token ∈ tokens, scanner.pos.UpTo token.pos := by
  induction reads with
  | fault failed => simp
  | last found ends =>
    intro token member
    obtain rfl := List.mem_singleton.mp member
    exact (nextPos found).1
  | more found goesOn rest ih =>
    intro token member
    rcases List.mem_cons.mp member with rfl | later
    · exact (nextPos found).1
    · exact Position.upToTrans (nextPos found).2 (ih token later)

theorem readsStarted {scanner tokens fault} (reads : Reads next scanner tokens fault)
    (started : scanner.started = true) : ∀ token ∈ tokens, token.lexeme ≠ .streamStart := by
  induction reads with
  | fault failed => simp
  | last found ends =>
    intro token member
    obtain rfl := List.mem_singleton.mp member
    obtain ⟨_, middle, unblanked, scans⟩ := nextOk found
    exact scansStart scans ((unblankedStarted unblanked).trans started)
  | more found goesOn rest ih =>
    obtain ⟨_, middle, unblanked, scans⟩ := nextOk found
    intro token member
    rcases List.mem_cons.mp member with rfl | later
    · exact scansStart scans ((unblankedStarted unblanked).trans started)
    · exact ih (scansStarted scans) token later

theorem readsIncreasing {scanner tokens fault} (reads : Reads next scanner tokens fault)
    (started : scanner.started = true) : tokens.Pairwise fun a b => a.pos.Before b.pos := by
  induction reads with
  | fault failed => exact .nil
  | last found ends => exact List.pairwise_singleton _ _
  | more found goesOn rest ih =>
    obtain ⟨_, middle, unblanked, scans⟩ := nextOk found
    refine List.pairwise_cons.mpr ⟨?_, ih (scansStarted scans)⟩
    intro later member
    rcases scansForward scans goesOn with ⟨_, fresh⟩ | before
    · rw [unblankedStarted unblanked, started] at fresh
      cases fresh
    · exact Position.beforeUpTo before (readsPos rest later member)

theorem readsNodup {scanner tokens fault} (reads : Reads next scanner tokens fault) :
    tokens.Nodup := by
  induction reads with
  | fault failed => simp
  | last found ends => simp
  | more found goesOn rest ih =>
    refine List.nodup_cons.mpr ⟨?_, ih⟩
    intro again
    obtain ⟨_, middle, unblanked, scans⟩ := nextOk found
    rcases scansForward scans goesOn with ⟨start, _⟩ | before
    · exact readsStarted rest (scansStarted scans) _ again start
    · have later := readsPos rest _ again
      exact Position.beforeIrrefl _ (Position.beforeUpTo before later)

end Scanner

namespace Lookahead

theorem mapErrorOk {ε δ α : Type} (wrap : ε → δ) (value : α) :
    (Except.ok value : Except ε α).mapError wrap = .ok value := rfl

theorem mapErrorId {ε α : Type} (outcome : Except ε α) : outcome.mapError id = outcome := by
  cases outcome <;> rfl

theorem consumeQueued (scanner : Scanner) (token : Token) (queue : List Token) :
    consume.runFrom ⟨scanner, token :: queue⟩ = (.ok token, ⟨scanner, queue⟩) := rfl

theorem consumeFetched (scanner : Scanner) :
    consume.runFrom ⟨scanner, []⟩ =
      ((Scanner.next.runFrom scanner).1, ⟨(Scanner.next.runFrom scanner).2, []⟩) := by
  show fetch.runFrom ⟨scanner, []⟩ = _
  unfold fetch
  rw [Step.runFromOnPart, mapErrorId]

theorem readsFresh {scanner tokens fault} (reads : Reads Scanner.next scanner tokens fault) :
    Reads consume ⟨scanner, []⟩ tokens fault := by
  induction reads with
  | fault failed => exact .fault (by rw [consumeFetched, failed])
  | last found ends => exact .last (by rw [consumeFetched, found]) ends
  | more found goesOn rest ih => exact .more (by rw [consumeFetched, found]) goesOn ih

theorem sourceReads (rule : WordRule) (source : String) :
    Reads consume (ofSource rule source) (Scanner.ofSource rule source).delivery.tokens
      (Scanner.ofSource rule source).delivery.fault :=
  readsFresh (Scanner.deliveryReads _)

theorem peekRun (ahead : Lookahead) : (peek 1).runFrom ahead =
    match consume.runFrom ahead with
    | (.ok token, after) => (.ok token, { after with queue := token :: after.queue })
    | (.error error, after) => (.error error, after) := by
  obtain ⟨scanner, queue⟩ := ahead
  cases queue with
  | cons token queue => rfl
  | nil =>
    rw [consumeFetched]
    show enqueue.runFrom ⟨scanner, []⟩ = _
    unfold enqueue fetch
    rw [Step.runFromBind, Step.runFromOnPart, mapErrorId]
    cases h : Scanner.next.runFrom scanner with
    | mk outcome after =>
      cases outcome with
      | ok token => rfl
      | error error => rfl

theorem peekReads {ahead token tokens fault}
    (reads : Reads consume ahead (token :: tokens) fault) :
    ∃ after, (peek 1).runFrom ahead = (.ok token, after) ∧
      Reads consume after (token :: tokens) fault := by
  obtain ⟨after, found, _⟩ := readsHead reads
  refine ⟨{ after with queue := token :: after.queue }, by rw [peekRun, found], ?_⟩
  exact readsCongr reads (by rw [consumeQueued, found])

theorem peekFault {ahead fault} (reads : Reads consume ahead [] fault) :
    ∃ error after, fault = some error ∧ (peek 1).runFrom ahead = (.error error, after) := by
  obtain ⟨error, after, same, failed⟩ := readsFault reads
  exact ⟨error, after, same, by rw [peekRun, failed]⟩

theorem upcomingReads {ahead tokens fault} (reads : Reads consume ahead tokens fault)
    (count : Nat) : upcoming count ahead = tokens.take count := by
  induction reads generalizing count with
  | fault failed => cases count <;> simp [upcoming, failed]
  | last found ends => cases count <;> simp [upcoming, found, ends]
  | more found goesOn rest ih => cases count <;> simp [upcoming, found, goesOn, ih]

def left (ahead : Lookahead) : Nat := ahead.queue.length + ahead.scanner.left

theorem consumeLeft {ahead after : Lookahead} {token}
    (found : consume.runFrom ahead = (.ok token, after)) (goesOn : token.isStreamEnd = false) :
    after.left < ahead.left := by
  obtain ⟨scanner, queue⟩ := ahead
  cases queue with
  | cons first queue =>
    rw [consumeQueued] at found
    cases found
    simp [left]
  | nil =>
    rw [consumeFetched] at found
    cases h : Scanner.next.runFrom scanner with
    | mk outcome rest =>
      rw [h] at found
      cases found
      simpa [left] using Scanner.nextLeft h goesOn

theorem readsLeft {ahead : Lookahead} {tokens fault} (reads : Reads consume ahead tokens fault) :
    tokens.length ≤ ahead.left := by
  induction reads with
  | fault failed => simp
  | @last ahead after token found ends =>
    have one : 1 ≤ ahead.scanner.left := by
      unfold Scanner.left
      split <;> omega
    simp only [List.length_singleton, left]
    omega
  | more found goesOn rest ih =>
    have less := consumeLeft found goesOn
    simp only [List.length_cons]
    omega

theorem readsBound {ahead : Lookahead} {tokens fault} (reads : Reads consume ahead tokens fault) :
    tokens.length ≤ ahead.bound := by
  have all := readsLeft reads
  have scanner := Scanner.leftBound ahead.scanner
  simp only [left, bound] at *
  omega

end Lookahead

end Linewise
