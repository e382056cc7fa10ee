import Linewise.Proofs.Reading

/-! The tokens of a source lie side by side. Each covers a stretch of the text that starts where the one
before it stops, and what no token covers is the rest that no token starts. Where a token stands is read off
the text before it. A scanner keeps to this at every step: its offset, its place and what it has left are
those of one point of the text. -/
namespace Linewise

namespace Position

def after (text : List Char) : Position where
  line := 1 + text.count '\n'
  column := 1 + (text.reverse.takeWhile (· ≠ '\n')).length

theorem afterStep (text : List Char) (c : Char) : (after text).step c = after (text ++ [c]) := by
  by_cases newline : c = '\n'
  · subst newline
    simp [after, step, List.count_append]
    omega
  · simp [after, step, List.count_append, newline]
    omega

theorem afterAdvance (text more : List Char) : (after text).advance more = after (text ++ more) := by
  induction more generalizing text with
  | nil => simp [advance]
  | cons c rest ih =>
    have first : (after text).advance (c :: rest) = ((after text).step c).advance rest := rfl
    rw [first, afterStep, ih, List.append_assoc]
    rfl

end Position

namespace Lexeme

def Covers (lexeme : Lexeme) (text : List Char) : Prop :=
  match lexeme with
  | .number value => value = Number.ofText (String.ofList text)
  | _ => lexeme.text? = some (String.ofList text)

theorem takePrefix {text lead : List Char} (starts : lead <+: text) : text.take lead.length = lead :=
  (List.prefix_iff_eq_take.mp starts).symm

theorem startsWordTake {rule : WordRule} {word : String} {text : List Char}
    (starts : startsWord rule word.toList text = true) :
    String.ofList (text.take word.length) = word := by
  simp only [startsWord, Bool.and_eq_true, List.isPrefixOf_iff_prefix] at starts
  rw [← String.length_toList, takePrefix starts.1, String.ofList_toList]

theorem beginsCovers {rule text lexeme count} (begins : Begins rule text lexeme count) :
    lexeme.Covers (text.take count) := by
  cases begins with
  | blank found =>
    rw [takePrefix (List.takeWhile_prefix _)]
    rfl
  | symbol sign found =>
    cases text with
    | nil => cases found
    | cons c rest =>
      obtain rfl := Option.some.inj found
      rfl
  | keyword word found => exact congrArg some (startsWordTake found).symm
  | typeName type found => exact congrArg some (startsWordTake found).symm
  | name c rest found =>
    subst found
    rw [takePrefix ((List.prefix_cons_inj c).mpr (List.takeWhile_prefix _))]
    rfl
  | number found =>
    rw [takePrefix (numberTextPrefix found)]
    rfl

end Lexeme

structure Tiles (text : List Char) (tokens : List Token) (offset : Nat → Nat) : Prop where
  increasing : ∀ i < tokens.length, offset i < offset (i + 1)
  within : offset tokens.length ≤ text.length
  covers : ∀ (i : Nat) (token : Token), tokens[i]? = some token →
    token.lexeme.Covers (text.extract (offset i) (offset (i + 1)))
  places : ∀ (i : Nat) (token : Token), tokens[i]? = some token →
    token.pos = .after (text.take (offset i))

def offsetsFrom (start : Nat) (later : Nat → Nat) : Nat → Nat
  | 0 => start
  | i + 1 => later i

theorem tilesNone {text : List Char} {start : Nat} (within : start ≤ text.length) :
    Tiles text [] fun _ => start :=
  ⟨nofun, within, nofun, nofun⟩

theorem tilesCons {text : List Char} {tokens : List Token} {offset : Nat → Nat} {start : Nat}
    {lexeme : Lexeme} (some : start < offset 0)
    (covers : lexeme.Covers (text.extract start (offset 0))) (rest : Tiles text tokens offset) :
    Tiles text (⟨lexeme, .after (text.take start)⟩ :: tokens) (offsetsFrom start offset) where
  increasing
    | 0, _ => some
    | i + 1, less => rest.increasing i (Nat.lt_of_succ_lt_succ less)
  within := rest.within
  covers
    | 0, _, rfl => covers
    | i + 1, token, located => rest.covers i token located
  places
    | 0, _, rfl => rfl
    | i + 1, token, located => rest.places i token located

theorem tilesSpell {text : List Char} {tokens : List Token} {offset : Nat → Nat}
    (tiles : Tiles text tokens offset) {count : Nat} (few : count ≤ tokens.length) :
    ((List.range count).flatMap fun i => text.extract (offset i) (offset (i + 1))) ++
      text.drop (offset count) = text.drop (offset 0) := by
  induction count with
  | zero => rfl
  | succ count ih =>
    have less := tiles.increasing count few
    have joined : text.extract (offset count) (offset (count + 1)) ++ text.drop (offset (count + 1)) =
        text.drop (offset count) := by
      have cut := List.take_append_drop (offset (count + 1) - offset count) (text.drop (offset count))
      rwa [List.drop_drop, Nat.add_sub_cancel' (Nat.le_of_lt less), ← List.extract_eq_take_drop] at cut
    rw [List.range_succ, List.flatMap_append, List.append_assoc, List.flatMap_singleton, joined]
    exact ih (Nat.le_of_succ_le few)

namespace Scanner

structure At (text : List Char) (scanner : Scanner) : Prop where
  within : scanner.offset ≤ text.length
  rest : scanner.rest = text.drop scanner.offset
  pos : scanner.pos = .after (text.take scanner.offset)

theorem sourceAt (rule : WordRule) (source : String) : At source.toList (.ofSource rule source) :=
  ⟨Nat.zero_le _, rfl, rfl⟩

theorem skipAt {text : List Char} {scanner : Scanner} (place : At text scanner) {count : Nat}
    (within : count ≤ scanner.rest.length) : At text (scanner.skip count) := by
  obtain ⟨inside, rest, pos⟩ := place
  rw [rest, List.length_drop] at within
  refine ⟨?_, ?_, ?_⟩
  · show scanner.offset + count ≤ text.length
    omega
  · show scanner.rest.drop count = text.drop (scanner.offset + count)
    rw [rest, List.drop_drop]
  · show scanner.pos.advance (scanner.rest.take count) = .after (text.take (scanner.offset + count))
    rw [pos, rest, Position.afterAdvance, ← List.take_add]

theorem atEnd {text : List Char} {scanner : Scanner} (place : At text scanner) :
    scanner.rest = [] ↔ scanner.offset = text.length := by
  have within := place.within
  rw [place.rest, List.drop_eq_nil_iff]
  omega

def ending (text : List Char) (stop : Nat) : List Token :=
  if stop = text.length then [⟨.streamEnd, .after text⟩] else []

def faultAt (text : List Char) (stop : Nat) : Option LexError :=
  if stop = text.length then none
  else some (.unrecognized (String.ofList (text.drop stop)) (.after (text.take stop)))

theorem scansGoOn {scanner : Scanner} {token : Token} {after : Scanner} (scans : Scans scanner token after)
    (started : scanner.started = true) (goesOn : token.isStreamEnd = false) :
    ∃ lexeme count, token = ⟨lexeme, scanner.pos⟩ ∧ after = scanner.skip count ∧
      Lexeme.Begins scanner.rule scanner.rest lexeme count := by
  cases scans with
  | start fresh => simp [fresh] at started
  | finish started empty => simp [Token.isStreamEnd, Token.kind, Lexeme.kind] at goesOn
  | lexeme started lexeme count begins => exact ⟨lexeme, count, rfl, rfl, begins⟩

theorem scansEnd {scanner : Scanner} {token : Token} {after : Scanner} (scans : Scans scanner token after)
    (ends : token.isStreamEnd = true) : token = ⟨.streamEnd, scanner.pos⟩ ∧ scanner.rest = [] := by
  cases scans with
  | start fresh => simp [Token.isStreamEnd, Token.kind, Lexeme.kind] at ends
  | finish started empty => exact ⟨rfl, empty⟩
  | lexeme started lexeme count begins =>
    cases begins <;> simp [Token.isStreamEnd, Token.kind, Lexeme.kind] at ends

/- Where the scanner stands is where the next token starts; so the tokens of a whole run leave no gap. -/
theorem readsTile {text : List Char} {scanner : Scanner} {tokens : List Token} {fault : Option LexError}
    (reads : Reads scan scanner tokens fault) (place : At text scanner) (started : scanner.started = true) :
    ∃ written offset, Tiles text written offset ∧ offset 0 = scanner.offset ∧
      tokens = written ++ ending text (offset written.length) ∧
      fault = faultAt text (offset written.length) := by
  induction reads with
  | @fault scanner after error failed =>
    obtain ⟨⟨_, some, _, same⟩, _⟩ := scanError failed
    have short : scanner.offset ≠ text.length := fun ends => some ((atEnd place).mpr ends)
    refine ⟨[], _, tilesNone place.within, rfl, ?_, ?_⟩
    · simp [ending, short]
    · simp [faultAt, short, same, place.rest, place.pos]
  | @last scanner after token found ends =>
    obtain ⟨rfl, empty⟩ := scansEnd (scanOk found) ends
    have full : scanner.offset = text.length := (atEnd place).mp empty
    refine ⟨[], _, tilesNone place.within, rfl, ?_, ?_⟩
    · simp [ending, full, place.pos]
    · simp [faultAt, full]
  | @more scanner after token tokens fault found goesOn rest ih =>
    have scans := scanOk found
    obtain ⟨lexeme, count, rfl, rfl, begins⟩ := scansGoOn scans started goesOn
    obtain ⟨covered, within⟩ := Lexeme.beginsLength begins
    obtain ⟨written, offset, tiles, first, same, cut⟩ := ih (skipAt place within) (scansStarted scans)
    have first : offset 0 = scanner.offset + count := first
    have covers : lexeme.Covers (text.extract scanner.offset (offset 0)) := by
      rw [first, List.extract_eq_take_drop, Nat.add_sub_cancel_left, ← place.rest]
      exact Lexeme.beginsCovers begins
    refine ⟨_, _, tilesCons (by omega) covers tiles, rfl, ?_, cut⟩
    rw [place.pos, same]
    rfl

theorem readsAll (scanner : Scanner) : ∃ tokens fault, Reads scan scanner tokens fault := by
  induction left : scanner.left using Nat.strongRecOn generalizing scanner with
  | ind count ih =>
    cases h : scan.runFrom scanner with
    | mk outcome after =>
      cases outcome with
      | error error => exact ⟨_, _, .fault h⟩
      | ok token =>
        cases ends : token.isStreamEnd with
        | true => exact ⟨_, _, .last h ends⟩
        | false =>
          obtain ⟨tokens, fault, rest⟩ := ih _ (left ▸ scansLeft (scanOk h) ends) after rfl
          exact ⟨_, _, .more h ends rest⟩

theorem nextPastBlank {scanner after : Scanner} {token : Token}
    (found : scan.runFrom scanner = (.ok token, after)) (blank : token.kind = .blank) :
    next.runFrom scanner = next.runFrom after := by
  obtain ⟨_, blanks, count, rfl, begins⟩ := scansBlank (scanOk found) blank
  rw [nextRun, nextRun, found]
  simp only [if_pos blank]
  cases h : scan.runFrom (scanner.skip count) with
  | mk outcome last =>
    cases outcome with
    | error error => rfl
    | ok second => simp only [if_neg (afterBlank begins (scanOk h))]

theorem nextHere {scanner after : Scanner} {token : Token}
    (found : scan.runFrom scanner = (.ok token, after)) (other : token.kind ≠ .blank) :
    next.runFrom scanner = (.ok token, after) := by
  rw [nextRun, found]
  simp only [if_neg other]

theorem readsSignificant {scanner : Scanner} {tokens : List Token} {fault : Option LexError}
    (reads : Reads scan scanner tokens fault) :
    Reads next scanner (tokens.filter fun token => token.kind ≠ .blank) fault := by
  induction reads with
  | fault failed => exact .fault (by rw [nextRun, failed])
  | @last scanner after token found ends =>
    have other : token.kind ≠ .blank := fun blank => by simp [Token.isStreamEnd, blank] at ends
    rw [List.filter_cons_of_pos (by simpa using other)]
    exact .last (nextHere found other) ends
  | @more scanner after token tokens fault found goesOn rest ih =>
    by_cases blank : token.kind = .blank
    · rw [List.filter_cons_of_neg (by simp [blank])]
      exact readsCongr ih (nextPastBlank found blank)
    · rw [List.filter_cons_of_pos (by simpa using blank)]
      exact .more (nextHere found blank) goesOn ih

def isWritten (token : Token) : Bool := token.kind ≠ .streamStart && token.kind ≠ .streamEnd

theorem writtenWithinRun {bound : Nat} {scanner : Scanner} {tokens : List Token} {fault : Option LexError}
    (reads : Reads scan scanner tokens fault) (enough : scanner.left ≤ bound) :
    ((writtenWithin bound).runFrom scanner).1 = Delivery.outcome ⟨tokens.filter isWritten, fault⟩ := by
  induction bound generalizing scanner tokens with
  | zero =>
    unfold left at enough
    split at enough <;> omega
  | succ bound ih =>
    unfold writtenWithin
    rw [Step.runFromBind]
    cases reads with
    | fault failed => simp [failed, Delivery.outcome]
    | @last _ after token found ends =>
      have kind : token.kind = .streamEnd := by simpa [Token.isStreamEnd] using ends
      simp [found, kind, Delivery.outcome, isWritten]
    | @more _ after token tokens _ found goesOn rest =>
      have less := scansLeft (scanOk found) goesOn
      have tail := ih rest (by omega)
      simp only [found]
      split
      · rename_i kind
        simp [Token.isStreamEnd, kind] at goesOn
      · rename_i kind
        rw [tail, List.filter_cons_of_neg (by simp [isWritten, kind])]
      · rename_i noEnd noStart
        rw [List.filter_cons_of_pos (by simpa [isWritten] using ⟨noStart, noEnd⟩)]
        exact outcomeCons token tail

theorem writtenRun {scanner : Scanner} {tokens : List Token} {fault : Option LexError}
    (reads : Reads scan scanner tokens fault) :
    (writtenTokens.runFrom scanner).1 = Delivery.outcome ⟨tokens.filter isWritten, fault⟩ := by
  unfold writtenTokens
  rw [Step.runFromBind, Step.runFromGet]
  exact writtenWithinRun reads (leftBound scanner)

theorem sourceReadsTile (rule : WordRule) (source : String) :
    ∃ written offset, offset 0 = 0 ∧ Tiles source.toList written offset ∧
      Reads scan (.ofSource rule source)
        (⟨.streamStart, {}⟩ :: written ++ ending source.toList (offset written.length))
        (faultAt source.toList (offset written.length)) := by
  have place := sourceAt rule source
  obtain ⟨tokens, fault, reads⟩ := readsAll { Scanner.ofSource rule source with started := true }
  obtain ⟨written, offset, tiles, first, rfl, rfl⟩ := readsTile reads ⟨place.1, place.2, place.3⟩ rfl
  exact ⟨written, offset, first, tiles, .more (scanSource rule source) rfl reads⟩

theorem tilesWritten {text : List Char} {tokens : List Token} {offset : Nat → Nat}
    (tiles : Tiles text tokens offset) : ∀ token ∈ tokens, isWritten token = true := by
  intro token member
  obtain ⟨i, located⟩ := List.mem_iff_getElem?.mp member
  have covers := tiles.covers i token located
  obtain ⟨lexeme, pos⟩ := token
  cases lexeme with
  | streamStart | streamEnd => cases covers
  | _ => rfl

end Scanner

theorem tokensTile (rule : WordRule) (source : String) :
    let text := source.toList
    let scanner := Scanner.ofSource rule source
    ∃ (written : List Token) (offset : Nat → Nat),
      let stop := offset written.length
      let start : Token := ⟨.streamStart, ⟨1, 1⟩⟩
      let last : Token := ⟨.streamEnd, .after text⟩
      let error : LexError := .unrecognized (String.ofList (text.drop stop)) (.after (text.take stop))
      offset 0 = 0 ∧ Tiles text written offset ∧
      Reads Scanner.scan scanner
        (start :: written ++ if stop = text.length then [last] else [])
        (if stop = text.length then none else some error) ∧
      ((List.range written.length).flatMap fun i => text.extract (offset i) (offset (i + 1))) ++
        text.drop stop = text ∧
      (Scanner.writtenTokens.runFrom scanner).1 =
        (if stop = text.length then .ok written else .error error) ∧
      (Scanner.tokens.runFrom scanner).1 =
        if stop = text.length then
          .ok (start :: written.filter (fun token => token.kind ≠ .blank) ++ [last])
        else .error error := by
  intro text scanner
  obtain ⟨written, offset, first, tiles, reads⟩ := Scanner.sourceReadsTile rule source
  refine ⟨written, offset, first, tiles, reads, ?_, ?_, ?_⟩
  · have spelled := tilesSpell tiles (Nat.le_refl _)
    rwa [first] at spelled
  · have all : written.filter Scanner.isWritten = written :=
      List.filter_eq_self.mpr (Scanner.tilesWritten tiles)
    rw [Scanner.writtenRun reads]
    by_cases full : offset written.length = text.length
    · simp [Scanner.ending, Scanner.faultAt, text, full, Delivery.outcome, List.filter_append, all,
        Scanner.isWritten, Token.kind, Lexeme.kind]
    · simp [Scanner.faultAt, text, full, Delivery.outcome]
  · rw [Scanner.readsTokens (Scanner.readsSignificant reads)]
    by_cases full : offset written.length = text.length
    · simp [Scanner.ending, Scanner.faultAt, text, full, Delivery.outcome, List.filter_append,
        Token.kind, Lexeme.kind]
    · simp [Scanner.faultAt, text, full, Delivery.outcome]

end Linewise
