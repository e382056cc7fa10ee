import Linewise.Proofs.Lexeme

/-! One step of a scanner. `Scans` lists what a step can deliver and where it leaves the scanner, and
`Stuck` where no step is possible. The next token that is not blank is found here or right after one run
of blanks, is spelled lawfully, and uses up what is left; places only move forward. -/
namespace Linewise

namespace Position

def Before (p q : Position) : Prop := p.line < q.line ∨ p.line = q.line ∧ p.column < q.column

theorem beforeTrans {p q r : Position} (first : Before p q) (second : Before q r) : Before p r := by
  unfold Before at *
  omega

theorem beforeIrrefl (p : Position) : ¬ Before p p := by
  unfold Before
  omega

theorem beforeStep (p : Position) (c : Char) : Before p (p.step c) := by
  unfold Before step
  split
  · exact .inl (Nat.lt_succ_self _)
  · exact .inr ⟨rfl, Nat.lt_succ_self _⟩

theorem beforeAdvance (p : Position) {text : List Char} (some : text ≠ []) :
    Before p (p.advance text) := by
  induction text generalizing p with
  | nil => contradiction
  | cons c rest ih =>
    cases rest with
    | nil => exact beforeStep p c
    | cons d rest => exact beforeTrans (beforeStep p c) (ih (p.step c) (by simp))

def UpTo (p q : Position) : Prop := p = q ∨ p.Before q

theorem upToTrans {p q r : Position} (first : UpTo p q) (second : UpTo q r) : UpTo p r := by
  rcases first with rfl | before
  · exact second
  · rcases second with rfl | later
    · exact .inr before
    · exact .inr (beforeTrans before later)

theorem beforeUpTo {p q r : Position} (first : Before p q) (second : UpTo q r) : Before p r := by
  rcases second with rfl | later
  · exact first
  · exact beforeTrans first later

theorem upToAdvance (p : Position) (text : List Char) : UpTo p (p.advance text) := by
  cases text with
  | nil => exact .inl rfl
  | cons c rest => exact .inr (beforeAdvance p (by simp))

end Position

namespace Scanner

def skip (scanner : Scanner) (count : Nat) : Scanner :=
  { scanner with
    rest := scanner.rest.drop count
    offset := scanner.offset + count
    pos := scanner.pos.advance (scanner.rest.take count) }

structure Stuck (scanner : Scanner) (error : LexError) : Prop where
  started : scanner.started = true
  some : scanner.rest ≠ []
  none : Lexeme.ofText? scanner.rule scanner.rest = none
  errorEq : error = .unrecognized (String.ofList scanner.rest) scanner.pos

inductive Scans (scanner : Scanner) : Token → Scanner → Prop where
  | start (fresh : scanner.started = false) :
      Scans scanner ⟨.streamStart, scanner.pos⟩ { scanner with started := true }
  | finish (started : scanner.started = true) (empty : scanner.rest = []) :
      Scans scanner ⟨.streamEnd, scanner.pos⟩ scanner
  | lexeme (started : scanner.started = true) (lexeme : Lexeme) (count : Nat)
      (begins : Lexeme.Begins scanner.rule scanner.rest lexeme count) :
      Scans scanner ⟨lexeme, scanner.pos⟩ (scanner.skip count)

theorem advanceSkips (scanner : Scanner) {count : Nat} (within : count ≤ scanner.rest.length) :
    scanner.advance count = .ok (scanner.skip count) := by
  simp [advance, skip, within]

theorem stepScans {scanner token after} (ok : scanner.step = .ok (token, after)) :
    Scans scanner token after := by
  unfold step at ok
  split at ok
  · rename_i started
    split at ok
    · rename_i empty
      cases Except.ok.inj ok
      exact .finish started empty
    · rename_i rest some
      split at ok
      · rename_i lexeme count found
        have begins := Lexeme.ofTextBegins found
        rw [advanceSkips scanner (Lexeme.beginsLength begins).2] at ok
        cases Except.ok.inj ok
        exact .lexeme started lexeme count begins
      · contradiction
  · rename_i fresh
    cases Except.ok.inj ok
    exact .start (by simpa using fresh)

theorem stepStuck {scanner error} (failed : scanner.step = .error error) :
    Stuck scanner error := by
  unfold step at failed
  split at failed
  · rename_i started
    split at failed
    · contradiction
    · rename_i rest some
      split at failed
      · rename_i lexeme count found
        have begins := Lexeme.ofTextBegins found
        rw [advanceSkips scanner (Lexeme.beginsLength begins).2] at failed
        contradiction
      · rename_i none
        exact ⟨started, some, none, (Except.error.inj failed).symm⟩
  · contradiction

theorem scanRun (scanner : Scanner) : scan.runFrom scanner =
    match scanner.step with
    | .ok (token, after) => (.ok token, after)
    | .error error => (.error error, scanner) := by
  unfold scan
  rw [Step.runFromBind, Step.runFromGet]
  cases h : scanner.step with
  | ok pair =>
    obtain ⟨token, after⟩ := pair
    simp only [h]
    rfl
  | error error => simp [h]

theorem scanOk {scanner token after} (ok : scan.runFrom scanner = (.ok token, after)) :
    Scans scanner token after := by
  rw [scanRun] at ok
  cases h : scanner.step with
  | ok pair =>
    simp only [h] at ok
    cases ok
    exact stepScans h
  | error error => simp [h] at ok

theorem scanError {scanner error after} (failed : scan.runFrom scanner = (.error error, after)) :
    Stuck scanner error ∧ after = scanner := by
  rw [scanRun] at failed
  cases h : scanner.step with
  | ok pair => simp [h] at failed
  | error error =>
    simp only [h] at failed
    cases failed
    exact ⟨stepStuck h, rfl⟩

theorem scanLexeme {scanner : Scanner} {lexeme : Lexeme} {count : Nat} (started : scanner.started = true)
    (found : Lexeme.ofText? scanner.rule scanner.rest = some (lexeme, count)) :
    scan.runFrom scanner = (.ok ⟨lexeme, scanner.pos⟩, scanner.skip count) := by
  obtain ⟨covered, within⟩ := Lexeme.beginsLength (Lexeme.ofTextBegins found)
  obtain ⟨c, rest, same⟩ : ∃ c rest, scanner.rest = c :: rest := by
    apply List.exists_cons_of_length_pos
    omega
  have stepped : scanner.step = .ok (⟨lexeme, scanner.pos⟩, scanner.skip count) := by
    rw [same] at found
    simp only [step, started, if_true, same, found, advanceSkips scanner within]
    rfl
  rw [scanRun, stepped]

theorem scanSource (rule : WordRule) (source : String) : scan.runFrom (.ofSource rule source) =
    (.ok ⟨.streamStart, {}⟩, { Scanner.ofSource rule source with started := true }) := rfl

theorem scanEnd {scanner : Scanner} (started : scanner.started = true) (empty : scanner.rest = []) :
    scan.runFrom scanner = (.ok ⟨.streamEnd, scanner.pos⟩, scanner) := by
  have stepped : scanner.step = .ok (⟨.streamEnd, scanner.pos⟩, scanner) := by
    simp only [step, started, if_true, empty]
  rw [scanRun, stepped]

theorem scanStuck {scanner : Scanner} {error : LexError} (stuck : Stuck scanner error) :
    scan.runFrom scanner = (.error error, scanner) := by
  obtain ⟨started, some, none, rfl⟩ := stuck
  obtain ⟨c, rest, same⟩ := List.exists_cons_of_ne_nil some
  rw [same] at none
  have stepped : scanner.step = .error (.unrecognized (String.ofList scanner.rest) scanner.pos) := by
    simp only [step, started, if_true, same, none]
  rw [scanRun, stepped]

theorem scanFound {scanner : Scanner} {token : Token} {after : Scanner}
    (ok : scan.runFrom scanner = (.ok token, after)) (started : scanner.started = true)
    (goesOn : token.isStreamEnd = false) :
    ∃ lexeme count, Lexeme.ofText? scanner.rule scanner.rest = some (lexeme, count) ∧
      token = ⟨lexeme, scanner.pos⟩ ∧ after = scanner.skip count := by
  cases found : Lexeme.ofText? scanner.rule scanner.rest with
  | some pair =>
    obtain ⟨lexeme, count⟩ := pair
    rw [scanLexeme started found] at ok
    cases ok
    exact ⟨lexeme, count, rfl, rfl, rfl⟩
  | none =>
    cases rest : scanner.rest with
    | nil =>
      rw [scanEnd started rest] at ok
      cases ok
      cases goesOn
    | cons c later =>
      have some : scanner.rest ≠ [] := by simp [rest]
      cases (scanStuck ⟨started, some, found, rfl⟩).symm.trans ok

inductive Unblanked (scanner : Scanner) : Scanner → Prop where
  | here : Unblanked scanner scanner
  | past (started : scanner.started = true) (blanks : String) (count : Nat)
      (begins : Lexeme.Begins scanner.rule scanner.rest (.blank blanks) count) :
      Unblanked scanner (scanner.skip count)

theorem blankKind {token : Token} (blank : token.kind = .blank) :
    ∃ blanks, token.lexeme = .blank blanks := by
  obtain ⟨lexeme, pos⟩ := token
  cases lexeme with
  | blank blanks => exact ⟨blanks, rfl⟩
  | _ => simp [Token.kind, Lexeme.kind] at blank

theorem scansBlank {scanner token after} (scans : Scans scanner token after)
    (blank : token.kind = .blank) :
    scanner.started = true ∧ ∃ blanks count, after = scanner.skip count ∧
      Lexeme.Begins scanner.rule scanner.rest (.blank blanks) count := by
  cases scans with
  | start fresh => simp [Token.kind, Lexeme.kind] at blank
  | finish started empty => simp [Token.kind, Lexeme.kind] at blank
  | lexeme started lexeme count begins =>
    obtain ⟨blanks, same⟩ := blankKind blank
    have same : lexeme = .blank blanks := same
    subst same
    exact ⟨started, blanks, count, rfl, begins⟩

theorem afterBlank {scanner : Scanner} {blanks count token after}
    (begins : Lexeme.Begins scanner.rule scanner.rest (.blank blanks) count)
    (scans : Scans (scanner.skip count) token after) : token.kind ≠ .blank := by
  intro blank
  obtain ⟨_, blanks', count', _, again⟩ := scansBlank scans blank
  exact Lexeme.blankFound again (Lexeme.blankRest begins)

theorem nextRun (scanner : Scanner) : next.runFrom scanner =
    match scan.runFrom scanner with
    | (.ok token, after) => if token.kind = .blank then scan.runFrom after else (.ok token, after)
    | (.error error, after) => (.error error, after) := by
  unfold next
  rw [Step.runFromBind]
  cases h : scan.runFrom scanner with
  | mk outcome after =>
    cases outcome with
    | error error => rfl
    | ok token =>
      by_cases blank : token.kind = .blank
      · simp [blank]
      · simp [blank]

theorem nextOk {scanner token after} (ok : next.runFrom scanner = (.ok token, after)) :
    token.kind ≠ .blank ∧ ∃ middle, Unblanked scanner middle ∧ Scans middle token after := by
  rw [nextRun] at ok
  cases h : scan.runFrom scanner with
  | mk outcome first =>
    rw [h] at ok
    cases outcome with
    | error error => simp at ok
    | ok found =>
      simp only at ok
      split at ok
      · rename_i blank
        obtain ⟨started, blanks, count, rfl, begins⟩ := scansBlank (scanOk h) blank
        have scans := scanOk ok
        exact ⟨afterBlank begins scans, _, .past started blanks count begins, scans⟩
      · rename_i notBlank
        cases ok
        exact ⟨notBlank, scanner, .here, scanOk h⟩

theorem nextError {scanner error after} (failed : next.runFrom scanner = (.error error, after)) :
    Unblanked scanner after ∧ Stuck after error := by
  rw [nextRun] at failed
  cases h : scan.runFrom scanner with
  | mk outcome first =>
    rw [h] at failed
    cases outcome with
    | error error =>
      cases failed
      obtain ⟨stuck, rfl⟩ := scanError h
      exact ⟨.here, stuck⟩
    | ok found =>
      simp only at failed
      split at failed
      · rename_i blank
        obtain ⟨started, blanks, count, rfl, begins⟩ := scansBlank (scanOk h) blank
        obtain ⟨stuck, rfl⟩ := scanError failed
        exact ⟨.past started blanks count begins, stuck⟩
      · cases failed

def left (scanner : Scanner) : Nat := scanner.rest.length + if scanner.started then 1 else 2

theorem unblankedLeft {scanner middle : Scanner} (unblanked : Unblanked scanner middle) :
    middle.left ≤ scanner.left := by
  cases unblanked with
  | here => exact Nat.le_refl _
  | past started blanks count begins =>
    simp only [left, skip, started, List.length_drop]
    omega

theorem scansLeft {scanner token after} (scans : Scans scanner token after)
    (goesOn : token.isStreamEnd = false) : after.left < scanner.left := by
  cases scans with
  | start fresh => simp [left, fresh]
  | finish started empty => simp [Token.isStreamEnd, Token.kind, Lexeme.kind] at goesOn
  | lexeme started lexeme count begins =>
    obtain ⟨covers, within⟩ := Lexeme.beginsLength begins
    simp only [left, skip, started, List.length_drop]
    omega

theorem nextLeft {scanner token after} (ok : next.runFrom scanner = (.ok token, after))
    (goesOn : token.isStreamEnd = false) : after.left < scanner.left := by
  obtain ⟨_, middle, unblanked, scans⟩ := nextOk ok
  exact Nat.lt_of_lt_of_le (scansLeft scans goesOn) (unblankedLeft unblanked)

theorem nextLawful {scanner token after} (ok : next.runFrom scanner = (.ok token, after)) :
    token.lexeme.Lawful := by
  obtain ⟨_, middle, _, scans⟩ := nextOk ok
  cases scans with
  | start | finish => trivial
  | lexeme started lexeme count begins => exact Lexeme.beginsLawful begins

theorem nextUnrecognized {scanner error after}
    (failed : next.runFrom scanner = (.error error, after)) :
    ∃ rest pos, error = .unrecognized rest pos :=
  ⟨_, _, (nextError failed).2.errorEq⟩

theorem unblankedPos {scanner middle : Scanner} (unblanked : Unblanked scanner middle) :
    scanner.pos.UpTo middle.pos := by
  cases unblanked with
  | here => exact .inl rfl
  | past started blanks count begins => exact Position.upToAdvance _ _

theorem scansPos {scanner token after} (scans : Scans scanner token after) :
    token.pos = scanner.pos ∧ scanner.pos.UpTo after.pos := by
  cases scans with
  | start fresh => exact ⟨rfl, .inl rfl⟩
  | finish started empty => exact ⟨rfl, .inl rfl⟩
  | lexeme started lexeme count begins => exact ⟨rfl, Position.upToAdvance _ _⟩

theorem scansStarted {scanner token after} (scans : Scans scanner token after) :
    after.started = true := by
  cases scans with
  | start fresh => rfl
  | finish started empty => exact started
  | lexeme started lexeme count begins => exact started

theorem scansRule {scanner after : Scanner} {token : Token} (scans : Scans scanner token after) :
    after.rule = scanner.rule := by
  cases scans <;> rfl

theorem scansForward {scanner token after} (scans : Scans scanner token after)
    (goesOn : token.isStreamEnd = false) :
    token.lexeme = .streamStart ∧ scanner.started = false ∨ token.pos.Before after.pos := by
  cases scans with
  | start fresh => exact .inl ⟨rfl, fresh⟩
  | finish started empty => simp [Token.isStreamEnd, Token.kind, Lexeme.kind] at goesOn
  | lexeme started lexeme count begins =>
    obtain ⟨covers, within⟩ := Lexeme.beginsLength begins
    have some : scanner.rest.take count ≠ [] := by
      intro none
      have length := congrArg List.length none
      simp only [List.length_take, List.length_nil] at length
      omega
    exact .inr (Position.beforeAdvance _ some)

theorem scansStart {scanner token after} (scans : Scans scanner token after)
    (started : scanner.started = true) : token.lexeme ≠ .streamStart := by
  cases scans with
  | start fresh => simp [fresh] at started
  | finish started empty => simp
  | lexeme started lexeme count begins => cases begins <;> simp

end Scanner

end Linewise
