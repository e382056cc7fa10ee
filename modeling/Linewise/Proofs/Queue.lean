import Linewise.Proofs.Context
import Linewise.Proofs.Tiling

/-! Reading ahead against a source that is read once and for all. The tokens of the source, and after them for
ever its end or its fault, are a stream; however tokens are looked at and consumed, every answer is the one at
its place in this stream, and the queue holds the stretch of it that was looked at and not yet consumed. A fault
stays where it is and takes no token away. -/
namespace Linewise

def Delivery.forever (delivery : Delivery) (last : Token) (index : Nat) : Except LexError Token :=
  match delivery.tokens[index]?, delivery.fault with
  | some token, _ => .ok token
  | none, some error => .error error
  | none, none => .ok last

def endless (rule : WordRule) (source : String) : Nat → Except LexError Token :=
  (Scanner.ofSource rule source).delivery.forever ⟨.streamEnd, .after source.toList⟩

namespace Scanner

theorem streamStays {scanner : Scanner} {outcome : Except LexError Token}
    (again : next.runFrom scanner = (outcome, scanner)) (index : Nat) : scanner.stream index = outcome := by
  induction index with
  | zero => rw [stream, again]
  | succ index ih => rw [stream, again, ih]

theorem nextEnd {scanner after : Scanner} {token : Token} (found : next.runFrom scanner = (.ok token, after))
    (ends : token.isStreamEnd = true) : next.runFrom after = (.ok token, after) := by
  obtain ⟨_, middle, _, scans⟩ := nextOk found
  cases scans with
  | start fresh => cases ends
  | finish started empty => exact nextHere (scanEnd started empty) (by simp [Token.kind, Lexeme.kind])
  | lexeme started lexeme count begins => cases begins <;> cases ends

theorem streamFault {scanner : Scanner} {error : LexError} (failed : scanner.stream 0 = .error error)
    (index : Nat) : scanner.stream index = .error error := by
  cases ran : next.runFrom scanner with
  | mk outcome after =>
    have first : outcome = .error error := by rwa [stream, ran] at failed
    subst first
    have stays : next.runFrom after = (.error error, after) := by
      rw [nextRun, scanStuck (nextError ran).2]
    cases index with
    | zero => exact failed
    | succ index =>
      rw [stream, ran]
      exact streamStays stays index

theorem streamPastFault {scanner : Scanner} {tokens : List Token} {fault : Option LexError} {error : LexError}
    (reads : Reads next scanner tokens fault) (cut : fault = some error) {index : Nat}
    (past : tokens.length ≤ index) : scanner.stream index = .error error := by
  induction reads generalizing index with
  | fault failed =>
    cases cut
    exact streamFault (by rw [stream, failed]) index
  | last found ends => cases cut
  | more found goesOn rest ih =>
    obtain ⟨index, rfl⟩ := Nat.exists_eq_add_of_le' past
    rw [List.length_cons, ← Nat.add_assoc, stream, found]
    exact ih cut (Nat.le_add_left _ _)

theorem streamPastEnd {scanner : Scanner} {most : List Token} {last : Token}
    (reads : Reads next scanner (most ++ [last]) none) {index : Nat} (past : most.length ≤ index) :
    scanner.stream index = .ok last := by
  induction most generalizing scanner index with
  | nil =>
    cases reads with
    | more found goesOn rest => cases rest
    | last found ends =>
      cases index with
      | zero => rw [stream, found]
      | succ index =>
        rw [stream, found]
        exact streamStays (nextEnd found ends) index
  | cons first most ih =>
    obtain ⟨after, found, ends, goesOn⟩ := readsHead reads
    obtain ⟨index, rfl⟩ := Nat.exists_eq_add_of_le' past
    rw [List.length_cons, ← Nat.add_assoc, stream, found]
    cases h : first.isStreamEnd with
    | true => exact absurd (ends h).1 (by simp)
    | false => exact ih (goesOn h) (Nat.le_add_left _ _)

theorem deliveryEnd {rule : WordRule} {source : String}
    (whole : (Scanner.ofSource rule source).delivery.fault = none) :
    ∃ most, (Scanner.ofSource rule source).delivery.tokens = most ++ [⟨.streamEnd, .after source.toList⟩] := by
  obtain ⟨written, offset, _, _, reads⟩ := sourceReadsTile rule source
  obtain ⟨tokens, fault⟩ := readsUnique (deliveryReads (.ofSource rule source)) (readsSignificant reads)
  have covered : offset written.length = source.toList.length := by
    rw [whole] at fault
    unfold faultAt at fault
    split at fault
    · assumption
    · cases fault
  rw [tokens, ending, if_pos covered, List.filter_append]
  exact ⟨_, congrArg _ (by simp [Token.kind, Lexeme.kind])⟩

theorem endlessStream (rule : WordRule) (source : String) :
    endless rule source = (Scanner.ofSource rule source).stream := by
  have reads := deliveryReads (.ofSource rule source)
  funext index
  unfold endless Delivery.forever
  cases located : (Scanner.ofSource rule source).delivery.tokens[index]? with
  | some token => exact ((readsStream reads index token).mp located).1.symm
  | none =>
    have past := List.getElem?_eq_none_iff.mp located
    cases fault : (Scanner.ofSource rule source).delivery.fault with
    | some error => exact (streamPastFault reads fault past).symm
    | none =>
      obtain ⟨most, tokens⟩ := deliveryEnd fault
      rw [fault, tokens] at reads
      rw [tokens, List.length_append] at past
      exact (streamPastEnd reads (Nat.le_of_add_right_le past)).symm

end Scanner

namespace Lookahead

section
variable {stream : Nat → Except LexError Token} {count : Nat} {ahead : Lookahead}

def Stretch (stream : Nat → Except LexError Token) (start : Nat) (tokens : List Token) : Prop :=
  ∀ index token, tokens[index]? = some token → stream (start + index) = .ok token

theorem stretchOf {start : Nat} {outcome : Except LexError Token} (found : stream start = outcome) :
    Stretch stream start outcome.toOption.toList := by
  intro index token located
  cases outcome with
  | error error => simp [Except.toOption] at located
  | ok first =>
    cases index with
    | zero =>
      cases located
      exact found
    | succ index => simp [Except.toOption] at located

theorem stretchAppend {start : Nat} {first second : List Token} (earlier : Stretch stream start first)
    (later : Stretch stream (start + first.length) second) : Stretch stream start (first ++ second) := by
  intro index token located
  by_cases within : index < first.length
  · rw [List.getElem?_append_left within] at located
    exact earlier index token located
  · have past := Nat.le_of_not_lt within
    rw [List.getElem?_append_right past] at located
    have moved := later _ token located
    rwa [Nat.add_assoc, Nat.add_sub_cancel' past] at moved

theorem stretchRange {tokens : List Token} (stretch : Stretch stream 0 tokens) :
    tokens.map .ok = (List.range tokens.length).map stream := by
  apply List.ext_getElem
  · simp
  · intro index within _
    rw [List.length_map] at within
    have located := stretch index _ (List.getElem?_eq_getElem within)
    rw [Nat.zero_add] at located
    simp [located]

structure Coupled (stream : Nat → Except LexError Token) (count : Nat) (ahead : Lookahead) : Prop where
  queued : Stretch stream count ahead.queue
  further : ∀ index, ahead.scanner.stream index = stream (count + ahead.queue.length + index)

theorem fetchedFurther (coupled : Coupled stream count ahead) (index : Nat) :
    (Scanner.next.runFrom ahead.scanner).2.stream index = stream (count + ahead.queue.length + (index + 1)) :=
  coupled.further (index + 1)

theorem faultFurther (coupled : Coupled stream count ahead) {error : LexError}
    (failed : stream (count + ahead.queue.length) = .error error) {index : Nat}
    (past : ahead.queue.length ≤ index) : stream (count + index) = .error error := by
  obtain ⟨more, rfl⟩ := Nat.exists_eq_add_of_le past
  rw [← Nat.add_assoc, ← coupled.further]
  exact Scanner.streamFault ((coupled.further 0).trans failed) more

theorem enqueueRun (ahead : Lookahead) : enqueue.runFrom ahead =
    ((Scanner.next.runFrom ahead.scanner).1,
      ⟨(Scanner.next.runFrom ahead.scanner).2,
        ahead.queue ++ (Scanner.next.runFrom ahead.scanner).1.toOption.toList⟩) := by
  unfold enqueue fetch
  rw [Step.runFromBind, Step.runFromOnPart, mapErrorId]
  cases h : Scanner.next.runFrom ahead.scanner with
  | mk outcome after =>
    cases outcome with
    | ok token => rfl
    | error error => simp [Except.toOption]

structure Extends (stream : Nat → Except LexError Token) (count : Nat) (ahead after : Lookahead)
    (reach : Nat) : Prop where
  coupled : Coupled stream count after
  kept : ahead.queue <+: after.queue
  reaches : ∀ index, index < after.queue.length ↔
    index < ahead.queue.length ∨ index < reach ∧ (stream (count + index)).isOk = true

theorem enqueueFault (coupled : Coupled stream count ahead) {error : LexError}
    (failed : stream (count + ahead.queue.length) = .error error) (reach : Nat) :
    (enqueue.runFrom ahead).1 = .error error ∧
      Extends stream count ahead (enqueue.runFrom ahead).2 reach := by
  have first : (Scanner.next.runFrom ahead.scanner).1 = .error error := (coupled.further 0).trans failed
  rw [enqueueRun, first]
  simp only [Except.toOption, Option.toList, List.append_nil]
  refine ⟨trivial, ⟨coupled.queued, ?_⟩, List.prefix_refl _, ?_⟩
  · intro index
    dsimp only
    rw [fetchedFurther coupled, Nat.add_assoc, Nat.add_assoc, faultFurther coupled failed (Nat.le_add_right _ _),
      faultFurther coupled failed (Nat.le_add_right _ _)]
  · intro index
    constructor
    · exact .inl
    · intro either
      rcases either with within | ⟨_, ok⟩
      · exact within
      · apply Nat.lt_of_not_le
        intro past
        rw [faultFurther coupled failed past] at ok
        cases ok

theorem enqueueToken (coupled : Coupled stream count ahead) {token : Token}
    (found : stream (count + ahead.queue.length) = .ok token) :
    (enqueue.runFrom ahead).1 = .ok token ∧ (enqueue.runFrom ahead).2.queue = ahead.queue ++ [token] ∧
      Coupled stream count (enqueue.runFrom ahead).2 := by
  have first : (Scanner.next.runFrom ahead.scanner).1 = .ok token := (coupled.further 0).trans found
  rw [enqueueRun, first]
  refine ⟨rfl, rfl, ?_, ?_⟩
  · exact stretchAppend coupled.queued (stretchOf found)
  · intro index
    simp only [Except.toOption, Option.toList, List.length_append, List.length_singleton]
    rw [fetchedFurther coupled]
    congr 1
    omega

theorem extendsSelf (coupled : Coupled stream count ahead) {reach : Nat}
    (reached : reach ≤ ahead.queue.length) : Extends stream count ahead ahead reach where
  coupled := coupled
  kept := List.prefix_refl _
  reaches index := by omega

theorem extendsPast {middle after : Lookahead} {token : Token} {reach : Nat}
    (found : stream (count + ahead.queue.length) = .ok token) (queue : middle.queue = ahead.queue ++ [token])
    (further : ahead.queue.length < reach) (extended : Extends stream count middle after reach) :
    Extends stream count ahead after reach where
  coupled := extended.coupled
  kept := (queue ▸ List.prefix_append _ _ : ahead.queue <+: middle.queue).trans extended.kept
  reaches index := by
    have ok : (stream (count + ahead.queue.length)).isOk = true := by rw [found]; rfl
    rw [extended.reaches, queue, List.length_append, List.length_singleton, Nat.lt_succ_iff_lt_or_eq]
    constructor
    · intro either
      rcases either with (within | rfl) | more
      · exact .inl within
      · exact .inr ⟨further, ok⟩
      · exact .inr more
    · intro either
      rcases either with within | more
      · exact .inl (.inl within)
      · exact .inr more

theorem enqueuePastExtends (coupled : Coupled stream count ahead) (skipped : Nat) :
    ((enqueuePast skipped).runFrom ahead).1 = stream (count + (ahead.queue.length + skipped)) ∧
      Extends stream count ahead ((enqueuePast skipped).runFrom ahead).2
        (ahead.queue.length + skipped + 1) := by
  induction skipped generalizing ahead with
  | zero =>
    unfold enqueuePast
    rw [Nat.add_zero]
    cases found : stream (count + ahead.queue.length) with
    | error error => exact enqueueFault coupled found _
    | ok token =>
      obtain ⟨outcome, queue, after⟩ := enqueueToken coupled found
      refine ⟨outcome, extendsPast found queue (Nat.lt_succ_self _) (extendsSelf after ?_)⟩
      rw [queue, List.length_append]
      exact Nat.le_refl _
  | succ skipped ih =>
    unfold enqueuePast
    rw [Step.runFromBind]
    cases ran : enqueue.runFrom ahead with
    | mk outcome middle =>
      cases found : stream (count + ahead.queue.length) with
      | error error =>
        -- The tokens after the missing one are not tried: the stream has the same fault in their places.
        obtain ⟨failed, extended⟩ := enqueueFault coupled found (ahead.queue.length + (skipped + 1) + 1)
        rw [ran] at failed extended
        cases failed
        exact ⟨(faultFurther coupled found (Nat.le_add_right _ _)).symm, extended⟩
      | ok token =>
        obtain ⟨ok, queue, after⟩ := enqueueToken coupled found
        rw [ran] at ok queue after
        cases ok
        obtain ⟨last, extended⟩ := ih after
        have length : middle.queue.length + skipped = ahead.queue.length + (skipped + 1) := by
          rw [queue, List.length_append, List.length_singleton]
          omega
        rw [length] at last extended
        exact ⟨last, extendsPast found queue (by omega) extended⟩

theorem peekExtends (coupled : Coupled stream count ahead) (k : Nat) :
    ((peek k).runFrom ahead).1 = stream (count + (max k 1 - 1)) ∧
      Extends stream count ahead ((peek k).runFrom ahead).2 (max k 1) := by
  have last : max k 1 - 1 = k - 1 := by omega
  unfold peek
  rw [Step.runFromBind, Step.runFromGet, last]
  cases located : ahead.queue[k - 1]? with
  | some token =>
    have within := (List.getElem?_eq_some_iff.mp located).1
    simp only [located]
    exact ⟨(coupled.queued _ _ located).symm, extendsSelf coupled (by omega)⟩
  | none =>
    have past := List.getElem?_eq_none_iff.mp located
    obtain ⟨outcome, extended⟩ := enqueuePastExtends coupled (k - 1 - ahead.queue.length)
    have place : ahead.queue.length + (k - 1 - ahead.queue.length) = k - 1 := by omega
    have reach : k - 1 + 1 = max k 1 := by omega
    rw [place] at outcome extended
    rw [reach] at extended
    simp only [located]
    exact ⟨outcome, extended⟩

theorem consumeCoupled (coupled : Coupled stream count ahead) :
    (consume.runFrom ahead).1 = stream count ∧
      Coupled stream (count + (stream count).toOption.toList.length) (consume.runFrom ahead).2 ∧
      (consume.runFrom ahead).2.queue = ahead.queue.drop (stream count).toOption.toList.length := by
  obtain ⟨scanner, queue⟩ := ahead
  cases queue with
  | cons token queue =>
    have first : stream count = .ok token := coupled.queued 0 token rfl
    rw [consumeQueued, first]
    refine ⟨rfl, ⟨?_, ?_⟩, rfl⟩
    · intro index later located
      have moved := coupled.queued (index + 1) later located
      simp only [Except.toOption, Option.toList, List.length_singleton]
      rwa [Nat.add_assoc, Nat.add_comm 1]
    · intro index
      have moved := coupled.further index
      simp only [List.length_cons] at moved
      simp only [Except.toOption, Option.toList, List.length_singleton]
      rw [moved]
      congr 1
      omega
  | nil =>
    have first : (Scanner.next.runFrom scanner).1 = stream count := coupled.further 0
    rw [consumeFetched, first]
    refine ⟨rfl, ⟨?_, ?_⟩, by simp⟩
    · intro index later located
      simp at located
    · intro index
      have moved := fetchedFurther coupled index
      dsimp only at moved ⊢
      rw [moved]
      cases found : stream count with
      | ok token =>
        simp only [Except.toOption, Option.toList, List.length_singleton, List.length_nil]
        congr 1
        omega
      | error error =>
        -- The scanner may have moved past blanks, but what it reads from there is the same fault.
        have stays (more : Nat) : stream (count + more) = .error error :=
          faultFurther coupled found (Nat.zero_le more)
        simp only [Except.toOption, Option.toList, List.length_nil, Nat.add_zero]
        rw [stays, stays]

end

inductive Request where
  | peek (k : Nat)
  | consume
  deriving DecidableEq, Repr

abbrev Answer := Except LexError Token

structure Cursor where
  count : Nat := 0
  asked : Nat := 0
  deriving DecidableEq, Repr

def Request.ofQueue : Request → Lookahead → Answer × Lookahead
  | .peek k => (Lookahead.peek k).runFrom
  | .consume => Lookahead.consume.runFrom

def Request.ofStream (stream : Nat → Answer) : Request → Cursor → Answer × Cursor
  | .peek k, cursor =>
    (stream (cursor.count + (max k 1 - 1)), { cursor with asked := max cursor.asked (cursor.count + max k 1) })
  | .consume, cursor =>
    (stream cursor.count, { cursor with count := cursor.count + (stream cursor.count).toOption.toList.length })

def serveAll {σ : Type} (serve : Request → σ → Answer × σ) : List Request → σ → List Answer × σ
  | [], state => ([], state)
  | request :: requests, state =>
    let (answer, after) := serve request state
    let (answers, last) := serveAll serve requests after
    (answer :: answers, last)

def taken : List Request → List Answer → List Token
  | .consume :: requests, answer :: answers => answer.toOption.toList ++ taken requests answers
  | .peek _ :: requests, _ :: answers => taken requests answers
  | _, _ => []

structure Holds (stream : Nat → Answer) (cursor : Cursor) (ahead : Lookahead) : Prop where
  coupled : Coupled stream cursor.count ahead
  reaches : ∀ index, index < ahead.queue.length ↔
    cursor.count + index < cursor.asked ∧ (stream (cursor.count + index)).isOk = true

theorem sourceHolds (rule : WordRule) (source : String) :
    Holds (endless rule source) {} (ofSource rule source) := by
  rw [Scanner.endlessStream]
  refine ⟨⟨?_, ?_⟩, ?_⟩
  · intro index token located
    simp [ofSource] at located
  · intro index
    simp [ofSource]
  · intro index
    simp [ofSource]

section
variable {stream : Nat → Answer} {cursor : Cursor} {ahead : Lookahead}

theorem requestHolds (holds : Holds stream cursor ahead) (request : Request) :
    (request.ofQueue ahead).1 = (request.ofStream stream cursor).1 ∧
      Holds stream (request.ofStream stream cursor).2 (request.ofQueue ahead).2 := by
  obtain ⟨coupled, reaches⟩ := holds
  cases request with
  | peek k =>
    obtain ⟨outcome, extended⟩ := peekExtends coupled k
    refine ⟨outcome, extended.coupled, ?_⟩
    intro index
    rw [Request.ofQueue, extended.reaches, reaches, Request.ofStream]
    have asked : cursor.count + index < max cursor.asked (cursor.count + max k 1) ↔
        cursor.count + index < cursor.asked ∨ index < max k 1 := by omega
    rw [← or_and_right, asked]
  | consume =>
    obtain ⟨outcome, after, queue⟩ := consumeCoupled coupled
    refine ⟨outcome, after, ?_⟩
    intro index
    rw [Request.ofQueue, queue, List.length_drop, Request.ofStream, Nat.lt_sub_iff_add_lt, reaches,
      Nat.add_comm index, Nat.add_assoc]

theorem serveAllHolds (holds : Holds stream cursor ahead) (requests : List Request) :
    (serveAll Request.ofQueue requests ahead).1 = (serveAll (Request.ofStream stream) requests cursor).1 ∧
      Holds stream (serveAll (Request.ofStream stream) requests cursor).2
        (serveAll Request.ofQueue requests ahead).2 := by
  induction requests generalizing cursor ahead with
  | nil => exact ⟨rfl, holds⟩
  | cons request requests ih =>
    obtain ⟨answer, after⟩ := requestHolds holds request
    obtain ⟨answers, last⟩ := ih after
    exact ⟨congr (congrArg List.cons answer) answers, last⟩

theorem serveAllTaken (stream : Nat → Answer) (requests : List Request) (cursor : Cursor) :
    (serveAll (Request.ofStream stream) requests cursor).2.count =
      cursor.count + (taken requests (serveAll (Request.ofStream stream) requests cursor).1).length ∧
    Stretch stream cursor.count (taken requests (serveAll (Request.ofStream stream) requests cursor).1) := by
  induction requests generalizing cursor with
  | nil => simp [serveAll, taken, Stretch]
  | cons request requests ih =>
    obtain ⟨count, stretch⟩ := ih (request.ofStream stream cursor).2
    cases request with
    | peek k => exact ⟨count, stretch⟩
    | consume =>
      simp only [serveAll, taken, List.length_append, ← Nat.add_assoc]
      exact ⟨count, stretchAppend (stretchOf rfl) stretch⟩

end

theorem queueFollowsStream (rule : WordRule) (source : String) (requests : List Request) :
    ∃ answers ahead cursor,
      serveAll Request.ofQueue requests (ofSource rule source) = (answers, ahead) ∧
      serveAll (Request.ofStream (endless rule source)) requests {} = (answers, cursor) ∧
      cursor.count = (taken requests answers).length ∧
      (taken requests answers ++ ahead.queue).map .ok =
        (List.range (cursor.count + ahead.queue.length)).map (endless rule source) ∧
      (∀ index, ahead.scanner.stream index = endless rule source (cursor.count + ahead.queue.length + index)) ∧
      (∀ index, index < ahead.queue.length ↔
        cursor.count + index < cursor.asked ∧ (endless rule source (cursor.count + index)).isOk = true) ∧
      ∀ k, ahead.queue <+: ((peek k).runFrom ahead).2.queue := by
  obtain ⟨answers, holds⟩ := serveAllHolds (sourceHolds rule source) requests
  obtain ⟨count, stretch⟩ := serveAllTaken (endless rule source) requests {}
  rw [Nat.zero_add] at count
  rw [← answers] at count stretch
  have queued := holds.coupled.queued
  have kept (k : Nat) := (peekExtends holds.coupled k).2.kept
  refine ⟨_, _, _, rfl, Prod.ext answers.symm rfl, count, ?_, holds.coupled.further, holds.reaches, kept⟩
  rw [count, ← List.length_append]
  rw [count, ← Nat.zero_add (List.length _)] at queued
  exact stretchRange (stretchAppend stretch queued)

end Lookahead

end Linewise
