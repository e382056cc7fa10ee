import Linewise.Proofs.FirstFault

/-! What a refusal shows of the tokens that follow. They are looked at as a stream that goes on for ever: after
the end comes the end again, and after a fault the fault. The context is the longest stretch of this stream
after the refused token that has no more tokens than were asked for, ends with the first end and has no fault
in it. Looking ahead for it never changes why the compilation failed. -/
namespace Linewise

namespace Scanner

def stream (scanner : Scanner) : Nat → Except LexError Token
  | 0 => (next.runFrom scanner).1
  | index + 1 => (next.runFrom scanner).2.stream index

theorem readsStream {scanner : Scanner} {tokens : List Token} {fault : Option LexError}
    (reads : Reads next scanner tokens fault) (index : Nat) (token : Token) :
    tokens[index]? = some token ↔
      scanner.stream index = .ok token ∧
        ∀ earlier < index, ∃ before, scanner.stream earlier = .ok before ∧ before.isStreamEnd = false := by
  induction reads generalizing index with
  | @fault scanner after error failed =>
    have first : scanner.stream 0 = .error error := by rw [stream, failed]
    constructor
    · intro none
      simp at none
    · intro both
      cases index with
      | zero => cases first.symm.trans both.1
      | succ index =>
        obtain ⟨before, read, _⟩ := both.2 0 (Nat.succ_pos index)
        cases first.symm.trans read
  | @last scanner after token' found ends =>
    have first : scanner.stream 0 = .ok token' := by rw [stream, found]
    cases index with
    | zero => simp [first]
    | succ index =>
      constructor
      · intro none
        simp at none
      · intro both
        obtain ⟨before, read, goesOn⟩ := both.2 0 (Nat.succ_pos index)
        cases first.symm.trans read
        cases ends.symm.trans goesOn
  | @more scanner after token' tokens fault found goesOn rest ih =>
    have first : scanner.stream 0 = .ok token' := by rw [stream, found]
    have later (index : Nat) : scanner.stream (index + 1) = after.stream index := by rw [stream, found]
    cases index with
    | zero => simp [first]
    | succ index =>
      rw [List.getElem?_cons_succ, ih index, later]
      constructor
      · intro both
        refine ⟨both.1, ?_⟩
        intro earlier less
        cases earlier with
        | zero => exact ⟨token', first, goesOn⟩
        | succ earlier =>
          rw [later]
          exact both.2 earlier (Nat.lt_of_succ_lt_succ less)
      · intro both
        refine ⟨both.1, ?_⟩
        intro earlier less
        rw [← later]
        exact both.2 (earlier + 1) (Nat.succ_lt_succ less)

theorem streamShared {scanner other : Scanner} {before rest others : List Token} {found : Token}
    {fault fault' : Option LexError} (reads : Reads next scanner (before ++ found :: rest) fault)
    (reads' : Reads next other others fault')
    (same : ∀ index ≤ before.length, other.stream index = scanner.stream index) :
    ∃ rest', others = before ++ found :: rest' := by
  have shared (index : Nat) (within : index ≤ before.length) :
      others[index]? = (before ++ found :: rest)[index]? := by
    have inside : index < (before ++ found :: rest).length := by
      simp
      omega
    have located := List.getElem?_eq_getElem inside
    obtain ⟨read, earlier⟩ := (readsStream reads index _).mp located
    rw [located, readsStream reads', same index within]
    refine ⟨read, ?_⟩
    intro first less
    rw [same first (by omega)]
    exact earlier first less
  have taken : others.take (before.length + 1) = before ++ [found] := by
    have upTo : (before ++ found :: rest).take (before.length + 1) = before ++ [found] := by
      simp [List.take_append, List.take_of_length_le]
    rw [← upTo]
    apply List.ext_getElem?
    intro index
    rw [List.getElem?_take, List.getElem?_take]
    split
    · exact shared index (by omega)
    · rfl
  refine ⟨others.drop (before.length + 1), ?_⟩
  have pieces := List.take_append_drop (before.length + 1) others
  rw [taken, List.append_assoc] at pieces
  exact pieces.symm

end Scanner

structure Following (stream : Nat → Except LexError Token) (start count : Nat) (tokens : List Token) :
    Prop where
  read : ∀ (index : Nat) (token : Token), tokens[index]? = some token → stream (start + index) = .ok token
  few : tokens.length ≤ count
  untilEnd : ∀ (index : Nat) (token : Token), tokens[index]? = some token → token.isStreamEnd = true →
    tokens.length = index + 1

structure LongestFollowing (stream : Nat → Except LexError Token) (start count : Nat)
    (tokens : List Token) : Prop where
  follows : Following stream start count tokens
  longest : ∀ others, Following stream start count others → others.length ≤ tokens.length

section
variable {scanner : Scanner} {rest : List Token} {fault : Option LexError}
  (reads : Reads Scanner.next scanner rest fault)
include reads

theorem takenFollowing (count : Nat) : Following scanner.stream 0 count (rest.take count) := by
  have inside (index : Nat) (token : Token) (located : (rest.take count)[index]? = some token) :
      rest[index]? = some token := by
    rw [List.getElem?_take] at located
    split at located
    · exact located
    · cases located
  refine ⟨?_, List.length_take_le count rest, ?_⟩
  · intro index token located
    rw [Nat.zero_add]
    exact ((Scanner.readsStream reads index token).mp (inside index token located)).1
  · intro index token located ends
    obtain ⟨within, _⟩ := List.getElem?_eq_some_iff.mp located
    apply Nat.le_antisymm _ within
    apply Nat.le_of_not_lt
    intro more
    -- A token after this one would say of it that the stream goes on.
    have next := inside _ _ (List.getElem?_eq_getElem more)
    obtain ⟨same, read, goesOn⟩ := ((Scanner.readsStream reads (index + 1) _).mp next).2 index (by omega)
    have here := ((Scanner.readsStream reads index token).mp (inside index token located)).1
    cases here.symm.trans read
    cases ends.symm.trans goesOn

theorem followingRest {count : Nat} {others : List Token} (follows : Following scanner.stream 0 count others) :
    others <+: rest := by
  rw [List.prefix_iff_getElem?]
  intro index within
  have read (place : Nat) (inside : place < others.length) : scanner.stream place = .ok others[place] := by
    have here := follows.read place _ (List.getElem?_eq_getElem inside)
    rwa [Nat.zero_add] at here
  rw [Scanner.readsStream reads]
  refine ⟨read index within, ?_⟩
  intro earlier less
  have inside : earlier < others.length := by omega
  refine ⟨others[earlier], read earlier inside, ?_⟩
  apply Bool.eq_false_iff.mpr
  intro ends
  have last := follows.untilEnd earlier _ (List.getElem?_eq_getElem inside) ends
  omega

theorem takenLongest (count : Nat) : LongestFollowing scanner.stream 0 count (rest.take count) where
  follows := takenFollowing reads count
  longest := by
    intro others follows
    have shorter := (followingRest reads follows).length_le
    have few := follows.few
    rw [List.length_take]
    omega

end

theorem readsBeyond {scanner : Scanner} {before rest : List Token} {found : Token} {fault : Option LexError}
    (reads : Reads Scanner.next scanner (before ++ found :: rest) fault) (goesOn : found.isStreamEnd = false) :
    ∃ after, Reads Scanner.next after rest fault ∧
      ∀ index, scanner.stream (before.length + 1 + index) = after.stream index := by
  induction before generalizing scanner with
  | nil =>
    obtain ⟨after, read, _, more⟩ := readsHead reads
    refine ⟨after, more goesOn, ?_⟩
    intro index
    rw [List.length_nil, Nat.zero_add, Nat.add_comm, Scanner.stream, read]
  | cons first before ih =>
    obtain ⟨after, read, ends, more⟩ := readsHead reads
    have later : first.isStreamEnd = false := by
      apply Bool.eq_false_iff.mpr
      intro last
      exact absurd (ends last).1 (by simp)
    obtain ⟨beyond, further, same⟩ := ih (more later)
    refine ⟨beyond, further, ?_⟩
    intro index
    have shift : (first :: before).length + 1 + index = before.length + 1 + index + 1 := by
      rw [List.length_cons]
      omega
    rw [shift, Scanner.stream, read, same]

theorem contextLongest {scanner : Scanner} {before rest : List Token} {found : Token}
    {fault : Option LexError} (reads : Reads Scanner.next scanner (before ++ found :: rest) fault)
    (goesOn : found.isStreamEnd = false) (count : Nat) :
    LongestFollowing scanner.stream (before.length + 1) count (rest.take count) := by
  obtain ⟨after, further, same⟩ := readsBeyond reads goesOn
  have moved (tokens : List Token) :
      Following scanner.stream (before.length + 1) count tokens ↔ Following after.stream 0 count tokens := by
    constructor
    · intro follows
      refine ⟨?_, follows.few, follows.untilEnd⟩
      intro index token located
      rw [Nat.zero_add, ← same]
      exact follows.read index token located
    · intro follows
      refine ⟨?_, follows.few, follows.untilEnd⟩
      intro index token located
      have read := follows.read index token located
      rwa [Nat.zero_add, ← same] at read
  have taken := takenLongest further count
  exact ⟨(moved _).mpr taken.follows, fun others follows => taken.longest others ((moved _).mp follows)⟩

theorem refusedAfter {fault : Option LexError} {tokens rest : List Token} {expected : Expected}
    {found : Token} (refused : (Pass.run fault tokens {}).ending = .error (.refused expected found rest)) :
    ∃ before operations, tokens = before ++ found :: rest ∧
      ∀ fault' rest', Pass.run fault' (before ++ found :: rest') {} =
        ⟨operations, .error (.refused expected found rest')⟩ := by
  rcases Pass.runSplit tokens {} with
    ⟨next, taken⟩ | ⟨before, token, after, middle, wanted, rfl, taken, stops⟩
  · rw [Pass.runEnds fault taken] at refused
    cases fault <;> cases refused
  · have whole (fault' : Option LexError) (rest' : List Token) :
        Pass.run fault' (before ++ token :: rest') {} =
          ⟨(Pass.run none before {}).operations ++ (middle.step token).operations,
            .error (.refused wanted token rest')⟩ := by
      rw [Pass.runThrough fault' _ taken, Pass.run, stops]
      rfl
    rw [whole] at refused
    cases refused
    exact ⟨before, _, rfl, whole⟩

open Target (textOf linesOf)

theorem failedRefused {options : Options} {source : String} {sink : Sink} {violation : Violation}
    (failed : (compile options source sink).1 = .error (.grammar violation)) :
    sink.Fits (textOf options.annotate (Pass.course options source).operations).toUTF8.size ∧
      ∃ rest, (Pass.course options source).ending =
          .error (.refused violation.expected violation.found rest) ∧
        violation.context = if violation.found.isStreamEnd then [] else rest.take options.context := by
  rw [compileInto] at failed
  simp only at failed
  split at failed
  · rename_i fits
    refine ⟨fits, ?_⟩
    split at failed
    · cases failed
    · obtain ⟨rest, refused⟩ := verdictGrammar failed
      rw [Pass.Course.verdict, refused] at failed
      have shown := CompileError.grammar.inj (Except.error.inj failed)
      exact ⟨rest, refused, by rw [← shown]⟩
  · cases failed

theorem refusedFails {options : Options} {source : String} {sink : Sink} {expected : Expected}
    {found : Token} {rest : List Token}
    (fits : sink.Fits (textOf options.annotate (Pass.course options source).operations).toUTF8.size)
    (refused : (Pass.course options source).ending = .error (.refused expected found rest)) :
    ∃ violation, (compile options source sink).1 = .error (.grammar violation) ∧
      violation.expected = expected ∧ violation.found = found := by
  rw [compileInto]
  simp only [if_pos fits, refused, Pass.Course.verdict, Except.isOk, Except.toBool, Bool.and_false]
  exact ⟨_, rfl, rfl, rfl⟩

theorem contextExact (options : Options) (source : String) (sink : Sink) {violation : Violation}
    (failed : (compile options source sink).1 = .error (.grammar violation)) :
    let stream := (Scanner.ofSource options.rule source).stream
    ∃ index, stream index = .ok violation.found ∧
      (∀ earlier < index, ∃ token, stream earlier = .ok token ∧ token.isStreamEnd = false) ∧
      (violation.found.isStreamEnd = true → violation.context = []) ∧
      (violation.found.isStreamEnd = false →
        LongestFollowing stream (index + 1) options.context violation.context) ∧
      ∀ (context : Nat) (other : String),
        (∀ earlier ≤ index, (Scanner.ofSource options.rule other).stream earlier = stream earlier) →
        ∃ violation', (compile { options with context } other sink).1 = .error (.grammar violation') ∧
          violation'.expected = violation.expected ∧ violation'.found = violation.found := by
  intro stream
  obtain ⟨fits, rest, refused, shown⟩ := failedRefused failed
  have reads := Scanner.deliveryReads (.ofSource options.rule source)
  obtain ⟨before, operations, split, whole⟩ := refusedAfter refused
  rw [split] at reads
  have located : (before ++ violation.found :: rest)[before.length]? = some violation.found := by simp
  obtain ⟨here, earlier⟩ := (Scanner.readsStream reads _ _).mp located
  refine ⟨before.length, here, earlier, ?_, ?_, ?_⟩
  · intro ends
    rw [shown, if_pos ends]
  · intro goesOn
    rw [shown, goesOn]
    exact contextLongest reads goesOn options.context
  · intro context other same
    have reads' := Scanner.deliveryReads (.ofSource options.rule other)
    obtain ⟨rest', split'⟩ := Scanner.streamShared reads reads' same
    -- Up to the refusal both courses write the same, so what fits for one source fits for the other.
    have course (text : String) (rest : List Token)
        (tokens : (Scanner.ofSource options.rule text).delivery.tokens = before ++ violation.found :: rest) :
        Pass.course { options with context } text =
          ⟨Pass.headerOperations options.header ++ operations,
            .error (.refused violation.expected violation.found rest)⟩ := by
      rw [Pass.course, tokens, whole]
      rfl
    have first : Pass.course options source = _ := course source rest split
    have second := course other rest' split'
    have fits' : sink.Fits
        (textOf options.annotate (Pass.course { options with context } other).operations).toUTF8.size := by
      rw [second]
      rwa [first] at fits
    exact refusedFails fits' (by rw [second])

/- The fault after the third name ends the context and stays unmentioned, however much is asked for. -/
theorem contextExactSample :
    let source := "x y z $"
    let stream := (Scanner.ofSource .whole source).stream
    let violation : Violation :=
      { expected := .token (some .symbol) (some "="), found := ⟨.name "y", ⟨1, 3⟩⟩,
        context := [⟨.name "z", ⟨1, 5⟩⟩] }
    (compile {} source .unlimited).1 = .error (.grammar violation) ∧
    violation.found.isStreamEnd = false ∧
    ∃ index, stream index = .ok violation.found ∧ LongestFollowing stream (index + 1) 7 violation.context ∧
      ∃ violation', (compile { context := 0 } source .unlimited).1 = .error (.grammar violation') ∧
        violation'.found = violation.found := by
  intro source stream violation
  have failed : (compile {} source .unlimited).1 = .error (.grammar violation) :=
    failedWith (by decide +kernel)
  obtain ⟨index, here, _, _, longest, again⟩ := contextExact {} source .unlimited failed
  obtain ⟨violation', fails, _, found⟩ := again 0 source fun _ _ => rfl
  exact ⟨failed, rfl, index, here, longest rfl, violation', fails, found⟩

end Linewise
