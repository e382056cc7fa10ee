import Linewise.Proofs.Acceptance

/-! Where a source that does not compile fails, and with what. A token is refused as soon as no file begins
with the tokens up to it, whatever comes later; a place without a token is met only when all tokens before
it fit. What a refusal names as expected would have fitted. -/
namespace Linewise

open Grammar (Viable)
open Pass (Control Course Phase Reached Takes expectation wanted)

/- A token is what was expected. Of a kind or a spelling that is not given any will do; what is described in
words is met by every token that it can start with. -/
def Expected.Admits : Expected → Token → Prop
  | .token kind text, found =>
    (∀ known ∈ kind, found.kind = known) ∧ ∀ known ∈ text, found.text? = some known
  | .rule description, found =>
    (description = "a statement" ∧
      ∃ statement : Grammar.Statement, ∃ rest, statement.tokens = found :: rest) ∨
    (description = "an expression" ∧ ∃ value : Grammar.Expr, ∃ rest, value.tokens = found :: rest)

theorem admitsStart {token : Token} (admits : (expectation .streamStart).Admits token) :
    token.lexeme = .streamStart := by
  have kind := admits.1 _ rfl
  obtain ⟨lexeme, pos⟩ := token
  cases lexeme with
  | streamStart => rfl
  | _ => cases kind

theorem admitsSymbol {sign : Symbol} {token : Token}
    (admits : (expectation (.symbol sign)).Admits token) : token.lexeme = .symbol sign := by
  have kind := admits.1 _ rfl
  have text := admits.2 _ rfl
  obtain ⟨lexeme, pos⟩ := token
  cases lexeme with
  | symbol found =>
    have text : found.text = sign.text := Option.some.inj text
    cases found <;> cases sign <;> first | rfl | exact absurd text (by decide)
  | _ => cases kind

theorem admitsStatement {token : Token} (admits : (Expected.rule "a statement").Admits token) :
    token.lexeme ≠ .symbol .openParen ∧ ∃ phase, Takes .statement token phase := by
  rcases admits with ⟨_, statement, rest, same⟩ | ⟨other, _⟩
  · cases statement with
    | print pos value =>
      cases same
      exact ⟨nofun, _, .print pos⟩
    | input call => cases call <;> cases same <;> exact ⟨nofun, _, .input _⟩
    | declaration type typePos name namePos =>
      cases same
      exact ⟨nofun, _, .type type typePos⟩
    | declared wordPos type typePos name namePos =>
      cases same
      exact ⟨nofun, _, .declare wordPos⟩
    | assignment name namePos equalsPos value =>
      cases same
      exact ⟨nofun, _, .target name namePos⟩
  · exact absurd other (by decide)

theorem admitsExpression {token : Token} (frame : Pass.Frame) (depth : Nat)
    (admits : (Expected.rule "an expression").Admits token) :
    ∃ phase, Takes (.expression frame depth) token phase := by
  rcases admits with ⟨other, _⟩ | ⟨_, value, rest, same⟩
  · exact absurd other (by decide)
  · cases value with
    | input call => cases call <;> cases same <;> exact ⟨_, .call frame depth _⟩
    | group openPos inner closePos =>
      cases same
      exact ⟨_, .group frame depth openPos⟩
    | name text pos =>
      cases same
      exact ⟨_, .name frame depth text pos⟩
    | number value pos =>
      cases same
      exact ⟨_, .number frame depth value pos⟩

theorem admitsTakes {phase : Phase} {token : Token} (admits : (wanted phase).Admits token) :
    ∃ other, Takes phase token other := by
  obtain ⟨lexeme, pos⟩ := token
  cases phase with
  | start =>
    cases admitsStart admits
    exact ⟨_, .start pos⟩
  | statement => exact (admitsStatement admits).2
  | typeName =>
    have kind := admits.1 _ rfl
    cases lexeme with
    | typeName type => exact ⟨_, .declaredType type pos⟩
    | _ => cases kind
  | declaredName type =>
    have kind := admits.1 _ rfl
    cases lexeme with
    | name text => exact ⟨_, .declaredName type text pos⟩
    | _ => cases kind
  | equals =>
    cases admitsSymbol admits
    exact ⟨_, .equals pos⟩
  | expression frame depth => exact admitsExpression frame depth admits
  | inputParens frame depth =>
    cases depth with
    | zero =>
      obtain ⟨noOpen, other, takes⟩ := admitsStatement admits
      exact ⟨other, .resumed noOpen takes⟩
    | succ depth =>
      cases admitsSymbol admits
      exact ⟨_, .resumed nofun (.close frame depth pos)⟩
  | inputClose frame depth =>
    cases admitsSymbol admits
    exact ⟨_, .inputClose frame depth pos⟩
  | closing frame depth =>
    cases admitsSymbol admits
    exact ⟨_, .close frame depth pos⟩
  | finished =>
    rcases admits with ⟨other, _⟩ | ⟨other, _⟩
    · exact absurd other (by decide)
    · exact absurd other (by decide)

theorem expectationAdmits (lexeme : Lexeme) : (expectation lexeme).Admits ⟨lexeme, {}⟩ := by
  refine ⟨fun known same => ?_, fun known same => same⟩
  cases same
  rfl

theorem wantedAdmits {phase : Phase} (unfinished : phase ≠ .finished) :
    ∃ token, (wanted phase).Admits token := by
  have statement : ∃ token, (Expected.rule "a statement").Admits token :=
    ⟨_, .inl ⟨rfl, .input (.bare {}), _, rfl⟩⟩
  have expression : ∃ token, (Expected.rule "an expression").Admits token :=
    ⟨_, .inr ⟨rfl, .input (.bare {}), _, rfl⟩⟩
  cases phase with
  | start | equals | inputClose | closing => exact ⟨_, expectationAdmits _⟩
  | statement => exact statement
  | typeName => exact ⟨⟨.typeName .int, {}⟩, by rintro _ ⟨⟩; rfl, nofun⟩
  | declaredName => exact ⟨⟨.name "", {}⟩, by rintro _ ⟨⟩; rfl, nofun⟩
  | expression => exact expression
  | inputParens frame depth =>
    cases depth with
    | zero => exact statement
    | succ depth => exact ⟨_, expectationAdmits _⟩
  | finished => exact absurd rfl unfinished

theorem viablePrefix {first second : List Token} (viable : Viable (first ++ second)) :
    Viable first := by
  obtain ⟨rest, sentence⟩ := viable
  exact ⟨second ++ rest, by rwa [← List.append_assoc]⟩

theorem viableTake {tokens : List Token} (viable : Viable tokens) (count : Nat) :
    Viable (tokens.take count) := by
  rw [← List.take_append_drop count tokens] at viable
  exact viablePrefix viable

theorem leastUnviable {before after : List Token} {found : Token} (viable : Viable before)
    (unviable : ¬ Viable (before ++ [found])) (index : Nat) :
    (¬ Viable ((before ++ found :: after).take (index + 1)) ∧
      ∀ earlier < index, Viable ((before ++ found :: after).take (earlier + 1))) ↔
      index = before.length := by
  have upTo : (before ++ found :: after).take (before.length + 1) = before ++ [found] := by
    simp [List.take_append, List.take_of_length_le]
  have below {count : Nat} (less : count < before.length) :
      Viable ((before ++ found :: after).take (count + 1)) := by
    rw [List.take_append_of_le_length (by omega)]
    exact viableTake viable (count + 1)
  constructor
  · rintro ⟨here, earlier⟩
    rcases Nat.lt_trichotomy index before.length with less | same | more
    · exact absurd (below less) here
    · exact same
    · exact absurd (upTo ▸ earlier _ more) unviable
  · rintro rfl
    exact ⟨upTo ▸ unviable, fun earlier less => below less⟩

inductive Judged (tokens : List Token) (fault : Option LexError) : Except Pass.Stop Control → Prop where
  | compiled {control} (viable : Viable tokens) (whole : fault = none) : Judged tokens fault (.ok control)
  | faulty {error} (viable : Viable tokens) (cut : fault = some error) :
      Judged tokens fault (.error (.lex error))
  | refused {before found after phase} (split : tokens = before ++ found :: after)
      (viable : Viable before) (unviable : ¬ Viable (before ++ [found]))
      (reached : Reached phase before) (refuses : ∀ other, ¬ Takes phase found other) :
      Judged tokens fault (.error (.refused (wanted phase) found after))

theorem runJudged (tokens : List Token) (fault : Option LexError) :
    Judged tokens fault (Pass.run fault tokens {}).ending := by
  rcases Pass.runSplit tokens {} with
    ⟨next, taken⟩ | ⟨before, found, after, middle, expected, rfl, taken, refused⟩
  · have viable := (Pass.takenIffViable tokens).mp ⟨next, taken⟩
    rw [Pass.runEnds fault taken]
    cases fault with
    | none => exact .compiled viable rfl
    | some error => exact .faulty viable rfl
  · have answers := Pass.stepAnswers middle found
    rw [refused] at answers
    obtain ⟨rfl, refuses⟩ := answers
    have unviable : ¬ Viable (before ++ [found]) := by
      intro viable
      obtain ⟨next, ok⟩ := Pass.viableTaken viable
      rw [Pass.runAppend _ _ taken, Pass.runRefusedEnding refused] at ok
      cases ok
    rw [Pass.runAppend _ _ taken, Pass.runRefusedEnding refused]
    exact .refused rfl ((Pass.takenIffViable before).mp ⟨middle, taken⟩) unviable
      (Pass.runReached taken .start) refuses

theorem reachedUnfinished {phase : Phase} {before after : List Token} {found : Token} {scanner fault}
    (reached : Reached phase before)
    (reads : Reads Scanner.next scanner (before ++ found :: after) fault) : phase ≠ .finished := by
  rintro rfl
  obtain ⟨file, rfl⟩ := Pass.reachedSentence reached
  rw [Grammar.File.tokens, List.append_assoc] at reads
  exact absurd (readsGoOn reads) (by simp [Token.isStreamEnd, Token.kind, Lexeme.kind])

section
variable {tokens : List Token} {fault : Option LexError} {ending : Except Pass.Stop Control}

theorem refusedIff (judged : Judged tokens fault ending) (distinct : tokens.Nodup) {index : Nat}
    {token : Token} (located : tokens[index]? = some token) :
    (∃ expected rest, ending = .error (.refused expected token rest)) ↔
      ¬ Viable (tokens.take (index + 1)) ∧
        ∀ earlier < index, Viable (tokens.take (earlier + 1)) := by
  cases judged with
  | compiled viable | faulty viable =>
    constructor
    · rintro ⟨_, _, same⟩
      cases same
    · rintro ⟨unviable, _⟩
      exact absurd (viableTake viable (index + 1)) unviable
  | @refused before found after phase split viable unviable =>
    subst split
    -- No token is delivered twice, so the token tells its index.
    have here : (before ++ found :: after)[before.length]? = some found := by simp
    have inside : before.length < (before ++ found :: after).length := by simp
    rw [leastUnviable viable unviable]
    constructor
    · rintro ⟨_, _, same⟩
      cases same
      exact ((List.getElem?_inj inside distinct).mp (here.trans located.symm)).symm
    · rintro rfl
      cases here.symm.trans located
      exact ⟨_, _, rfl⟩

theorem faultIff (judged : Judged tokens fault ending) (error : LexError) :
    ending = .error (.lex error) ↔ Viable tokens ∧ fault = some error := by
  cases judged with
  | compiled viable whole => simp [whole]
  | faulty viable cut => simp [viable, cut, eq_comm]
  | refused split viable unviable =>
    subst split
    refine ⟨nofun, fun ⟨whole, _⟩ => absurd ?_ unviable⟩
    rw [← List.singleton_append, ← List.append_assoc] at whole
    exact viablePrefix whole

theorem refusedAdmits {scanner : Scanner} {expected : Expected} {found : Token} {rest : List Token}
    (reads : Reads Scanner.next scanner tokens fault) (judged : Judged tokens fault ending)
    (refused : ending = .error (.refused expected found rest)) :
    ∃ index : Nat, tokens[index]? = some found ∧ ¬ expected.Admits found ∧
      (∃ token, expected.Admits token) ∧
      ∀ token, expected.Admits token → Viable (tokens.take index ++ [token]) := by
  cases judged with
  | compiled | faulty => cases refused
  | @refused before _ _ _ split viable unviable reached refuses =>
    subst split
    cases refused
    refine ⟨before.length, by simp, ?_, wantedAdmits (reachedUnfinished reached reads), ?_⟩
    · intro admits
      obtain ⟨other, takes⟩ := admitsTakes admits
      exact refuses other takes
    · intro token admits
      obtain ⟨other, takes⟩ := admitsTakes admits
      rw [List.take_left]
      exact Pass.reachedViable (Pass.takesReached takes reached)

theorem verdictGrammar {course : Course} {context lines : Nat} {violation : Violation} :
    course.verdict context lines = .error (.grammar violation) →
      ∃ rest, course.ending = .error (.refused violation.expected violation.found rest) := by
  intro same
  unfold Course.verdict at same
  cases h : course.ending with
  | ok control => rw [h] at same; cases same
  | error stop =>
    rw [h] at same
    cases stop with
    | lex error => cases same
    | refused expected found rest => cases same; exact ⟨rest, rfl⟩

theorem verdictRefused {course : Course} {expected found rest} (context lines : Nat)
    (refused : course.ending = .error (.refused expected found rest)) :
    ∃ violation, course.verdict context lines = .error (.grammar violation) ∧
      violation.found = found := by
  simp only [Course.verdict, refused]
  exact ⟨_, rfl, rfl⟩

theorem verdictLex {course : Course} {context lines : Nat} {error : LexError} :
    course.verdict context lines = .error (.lex error) ↔ course.ending = .error (.lex error) := by
  unfold Course.verdict
  cases course.ending with
  | ok control => simp
  | error stop => cases stop <;> simp [Pass.Stop.error]

end

theorem earliestFault (options : Options) (source : String) (bytes : ByteArray) :
    let delivery := (Scanner.ofSource options.rule source).delivery
    let outcome := (compile options source { bytes }).1
    (∀ index token, delivery.tokens[index]? = some token →
      ((∃ violation, outcome = .error (.grammar violation) ∧ violation.found = token) ↔
        ¬ Viable (delivery.tokens.take (index + 1)) ∧
          ∀ earlier < index, Viable (delivery.tokens.take (earlier + 1)))) ∧
    (∀ rest pos, outcome = .error (.lex (.unrecognized rest pos)) ↔
      Viable delivery.tokens ∧ delivery.fault = some (.unrecognized rest pos)) ∧
    (∀ error, delivery.fault = some error → ∃ rest pos, error = .unrecognized rest pos) ∧
    ∀ violation, outcome = .error (.grammar violation) →
      ∃ index : Nat, delivery.tokens[index]? = some violation.found ∧
        ¬ violation.expected.Admits violation.found ∧
        (∃ token, violation.expected.Admits token) ∧
        ∀ token, violation.expected.Admits token →
          Viable (delivery.tokens.take index ++ [token]) := by
  intro delivery outcome
  have reads : Reads Scanner.next (.ofSource options.rule source) delivery.tokens delivery.fault :=
    Scanner.deliveryReads _
  have judged : Judged delivery.tokens delivery.fault (Pass.course options source).ending :=
    runJudged delivery.tokens delivery.fault
  have result : outcome = (Pass.course options source).verdict _ _ :=
    congrArg Prod.fst (compileUnfailing options source bytes)
  rw [result]
  refine ⟨?_, ?_, ?_, ?_⟩
  · intro index token located
    rw [← refusedIff judged (Scanner.readsNodup reads) located]
    constructor
    · rintro ⟨violation, failed, rfl⟩
      exact ⟨_, verdictGrammar failed⟩
    · rintro ⟨expected, rest, refused⟩
      exact verdictRefused _ _ refused
  · intro rest pos
    rw [verdictLex]
    exact faultIff judged _
  · intro error cut
    rw [cut] at reads
    exact Scanner.readsUnrecognized reads
  · intro violation failed
    obtain ⟨rest, refused⟩ := verdictGrammar failed
    exact refusedAdmits reads judged refused

theorem failedWith {outcome : Except CompileError Summary} {error : CompileError}
    (failed : (match outcome with
      | .ok _ => none
      | .error error => some error) = some error) : outcome = .error error := by
  cases outcome with
  | ok summary => cases failed
  | error found => rw [Option.some.inj failed]

/- The second number is refused before the scanner comes to the sign that it cannot read. -/
theorem earliestFaultSample :
    let tokens := (Scanner.ofSource .whole "print (1 2 $").delivery.tokens
    (Scanner.ofSource .whole "print (1 2 $").delivery.fault = some (.unrecognized "$" ⟨1, 12⟩) ∧
      (¬ Viable (tokens.take 5) ∧ ∀ earlier < 4, Viable (tokens.take (earlier + 1))) ∧
      ∃ index : Nat, tokens[index]? = some ⟨.number (.int "2"), ⟨1, 10⟩⟩ ∧
        ∀ token, (expectation (.symbol .closeParen)).Admits token →
          Viable (tokens.take index ++ [token]) := by
  have failed : (compile {} "print (1 2 $" {}).1 = .error (.grammar
    { expected := expectation (.symbol .closeParen), found := ⟨.number (.int "2"), ⟨1, 10⟩⟩ }) :=
      failedWith (by decide +kernel)
  have located : (Scanner.ofSource .whole "print (1 2 $").delivery.tokens[4]? =
    some ⟨.number (.int "2"), ⟨1, 10⟩⟩ := by decide +kernel
  obtain ⟨least, _, _, fits⟩ := earliestFault {} "print (1 2 $" .empty
  obtain ⟨index, found, _, _, viable⟩ := fits _ failed
  exact ⟨by decide +kernel, (least 4 _ located).mp ⟨_, failed, rfl⟩, index, found, viable⟩

end Linewise
