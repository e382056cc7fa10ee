import Linewise.Proofs.Acceptance
import Linewise.Proofs.LongestMatch

/-! Where the two rules for reserved words part. No reserved word begins another, so a word that counts as a
whole counts by its leading letters too, and the rules agree on everything but a name that a reserved word
begins. Scanners under the two rules move in step up to the first such name. There one of them reads the
name, and the other the word that begins it. -/
namespace Linewise

namespace Lexeme

def Plain : Lexeme → Prop
  | .name text => ∀ word ∈ reservedTexts, ¬ word.toList <+: text.toList
  | _ => True

theorem reservedSame {a b : String} {text : List Char} (left : a ∈ reservedTexts) (right : b ∈ reservedTexts)
    (starts : a.toList <+: text) (starts' : b.toList <+: text) : a = b := by
  have apart : reservedTexts.all (fun a => reservedTexts.all fun b =>
      !a.toList.isPrefixOf b.toList || a == b) = true := by decide
  have same {a b : String} (left : a ∈ reservedTexts) (right : b ∈ reservedTexts)
      (starts : a.toList <+: b.toList) : a = b := by
    have pair := List.all_eq_true.mp (List.all_eq_true.mp apart a left) b right
    simpa [List.isPrefixOf_iff_prefix.mpr starts] using pair
  rcases List.prefix_or_prefix_of_prefix starts starts' with first | second
  · exact same left right first
  · exact (same right left second).symm

theorem startsWordPrefix {rule : WordRule} {word text : List Char}
    (starts : startsWord rule word text = true) : word <+: text := by
  simp only [startsWord, Bool.and_eq_true, List.isPrefixOf_iff_prefix] at starts
  exact starts.1

theorem startsWordLeading {word text : List Char} (starts : word <+: text) :
    startsWord .leading word text = true := by
  simp [startsWord, WordRule.allows, List.isPrefixOf_iff_prefix.mpr starts]

theorem findOnly {α : Type} {p : α → Bool} {all : List α} {a : α} (member : a ∈ all) (holds : p a = true)
    (only : ∀ b, p b = true → b = a) : all.find? p = some a := by
  cases found : all.find? p with
  | none => exact absurd holds (List.find?_eq_none.mp found a member)
  | some b => rw [only b (List.find?_some found)]

section
variable {rule : WordRule} {text : List Char}

theorem keywordFound {word : Keyword} (starts : startsWord rule word.text.toList text = true) :
    keyword? rule text = some (.keyword word, word.text.length) := by
  have only (other : Keyword) (also : startsWord rule other.text.toList text = true) : other = word := by
    have same := reservedSame (keywordReserved other) (keywordReserved word) (startsWordPrefix also)
      (startsWordPrefix starts)
    revert same
    cases other <;> cases word <;> decide
  have member : word ∈ Keyword.all := by cases word <;> decide
  simp only [keyword?, findOnly member starts only]
  rfl

theorem typeFound {type : DeclaredType} (starts : startsWord rule type.text.toList text = true) :
    keyword? rule text = none ∧ typeName? rule text = some (.typeName type, type.text.length) := by
  have only (other : DeclaredType) (also : startsWord rule other.text.toList text = true) :
      other = type := by
    have same := reservedSame (typeReserved other) (typeReserved type) (startsWordPrefix also)
      (startsWordPrefix starts)
    revert same
    cases other <;> cases type <;> decide
  have member : type ∈ DeclaredType.all := by cases type <;> decide
  constructor
  · apply keywordNone
    intro word
    cases also : startsWord rule word.text.toList text with
    | false => rfl
    | true =>
      have same := reservedSame (keywordReserved word) (typeReserved type) (startsWordPrefix also)
        (startsWordPrefix starts)
      revert same
      cases word <;> cases type <;> decide
  · simp only [typeName?, findOnly member starts only]
    rfl

theorem beginsFound {lexeme : Lexeme} {count : Nat} (begins : Begins rule text lexeme count) :
    ofText? rule text = some (lexeme, count) := by
  have reserved {word : String} (member : word ∈ reservedTexts)
      (starts : startsWord rule word.toList text = true) :
      ∃ c rest, text = c :: rest ∧ Text.isAlphabetic c = true := by
    obtain ⟨c, rest, same, letter, _⟩ := reservedIsWord member
    obtain ⟨more, whole⟩ := startsWordPrefix starts
    rw [same] at whole
    exact ⟨c, rest ++ more, whole.symm, letter⟩
  have lettered {c : Char} {rest : List Char} (letter : Text.isAlphabetic c = true) :
      ofText? rule (c :: rest) =
        (keyword? rule (c :: rest) <|> typeName? rule (c :: rest) <|> name? (c :: rest)) := by
    obtain ⟨solid, noSign⟩ := neitherBlankNorSign letter (by decide)
    have none : symbol? (c :: rest) = none := by simp [symbol?, noSign]
    simp [ofTextHead rule rest solid, none, letter]
  cases begins with
  | blank found =>
    cases run : text.takeWhile isBlank with
    | nil => exact absurd run found
    | cons c rest => simp [ofText?, blank?, run]
  | symbol sign found =>
    obtain ⟨rest, rfl⟩ := List.head?_eq_some_iff.mp found
    have solid : isBlank sign.char = false := by cases sign <;> decide
    simp [ofTextHead rule rest solid, symbol?, Symbol.ofCharKnown]
  | keyword word starts =>
    obtain ⟨c, rest, rfl, letter⟩ := reserved (keywordReserved word) starts
    simp [lettered letter, keywordFound starts]
  | typeName type starts =>
    obtain ⟨c, rest, rfl, letter⟩ := reserved (typeReserved type) starts
    obtain ⟨noKeyword, found⟩ := typeFound starts
    simp [lettered letter, noKeyword, found]
  | name c rest same letter noKeyword noType =>
    subst same
    simp [lettered letter, noKeyword, noType, name?, letter]
  | number found =>
    cases text with
    | nil => exact absurd rfl found
    | cons c rest =>
      have figure := numberTextHead found
      obtain ⟨solid, noSign⟩ := neitherBlankNorSign figure (by decide)
      have none : symbol? (c :: rest) = none := by simp [symbol?, noSign]
      have read : number? (c :: rest) =
          some (.number (Number.ofText (String.ofList (numberText (c :: rest)))),
            (numberText (c :: rest)).length) := by
        unfold number?
        split
        · contradiction
        · rfl
      simp [ofTextHead rule rest solid, none, figureNoLetter figure, read]

end

section
variable {text : List Char}

theorem reservedWithin {word : String} (member : word ∈ reservedTexts) {c : Char} {rest : List Char}
    (letter : Text.isAlphabetic c = true) (starts : word.toList <+: c :: rest) :
    word.toList <+: c :: rest.takeWhile Text.isAlphanumeric := by
  obtain ⟨more, same⟩ := starts
  have inside := takeWhilePrefix (wordAlphanumeric (reservedIsWord member)) more
  rw [same, List.takeWhile_cons_of_pos (by simp [Text.isAlphanumeric, letter])] at inside
  exact inside

theorem beginsLeading {lexeme : Lexeme} {count : Nat} (begins : Begins .whole text lexeme count)
    (plain : lexeme.Plain) : Begins .leading text lexeme count := by
  cases begins with
  | blank found => exact .blank found
  | symbol sign found => exact .symbol sign found
  | keyword word starts => exact .keyword word (startsWordLeading (startsWordPrefix starts))
  | typeName type starts => exact .typeName type (startsWordLeading (startsWordPrefix starts))
  | name c rest same letter noKeyword noType =>
    subst same
    have free {word : String} (member : word ∈ reservedTexts) :
        startsWord .leading word.toList (c :: rest) = false := by
      cases starts : startsWord .leading word.toList (c :: rest) with
      | false => rfl
      | true =>
        have within := reservedWithin member letter (startsWordPrefix starts)
        exact absurd (by simpa using within) (plain word member)
    exact .name c rest rfl letter (keywordNone fun word => free (keywordReserved word))
      (typeNone fun type => free (typeReserved type))
  | number found => exact .number found

theorem nameApart {name word : String} {count : Nat} (begins : Begins .whole text (.name name) count)
    (member : word ∈ reservedTexts) (starts : word.toList <+: name.toList) :
    ∃ other length, ofText? .leading text = some (other, length) ∧ other ≠ .name name := by
  have covers : some name = some (String.ofList (text.take count)) := beginsCovers begins
  have inside : word.toList <+: text := by
    rw [Option.some.inj covers, String.toList_ofList] at starts
    exact starts.trans (List.take_prefix count text)
  rcases List.mem_append.mp member with isKeyword | isType
  · obtain ⟨word, _, rfl⟩ := List.mem_map.mp isKeyword
    exact ⟨_, _, beginsFound (.keyword word (startsWordLeading inside)), nofun⟩
  · obtain ⟨type, _, rfl⟩ := List.mem_map.mp isType
    exact ⟨_, _, beginsFound (.typeName type (startsWordLeading inside)), nofun⟩

theorem nothingLeading (nothing : ofText? .whole text = none) : ofText? .leading text = none := by
  cases found : ofText? .leading text with
  | none => rfl
  | some pair =>
    have covered := beginsLanguage (ofTextBegins found)
    obtain ⟨lexeme, count, also⟩ := (foundIff text).mpr
      ⟨_, _, List.take_prefix pair.2 text, languageSome covered, covered⟩
    cases nothing.symm.trans also

end

end Lexeme

namespace Scanner

def under (scanner : Scanner) (rule : WordRule) : Scanner := { scanner with rule }

theorem underSame {scanner : Scanner} {rule : WordRule} (same : scanner.rule = rule) :
    scanner.under rule = scanner := by
  subst same
  rfl

theorem nextFrom (scanner : Scanner) : ∃ middle : Scanner, middle.rule = scanner.rule ∧
    ∀ rule, next.runFrom (scanner.under rule) = scan.runFrom (middle.under rule) := by
  by_cases blanks : scanner.started = true ∧ scanner.rest.takeWhile Lexeme.isBlank ≠ []
  · obtain ⟨started, some⟩ := blanks
    refine ⟨scanner.skip (scanner.rest.takeWhile Lexeme.isBlank).length, rfl, ?_⟩
    intro rule
    have begins : Lexeme.Begins (scanner.under rule).rule (scanner.under rule).rest _ _ := .blank some
    rw [nextRun, @scanLexeme (scanner.under rule) _ _ started (Lexeme.beginsFound begins)]
    rfl
  · refine ⟨scanner, rfl, ?_⟩
    intro rule
    rw [nextRun]
    cases found : scan.runFrom (scanner.under rule) with
    | mk outcome after =>
      cases outcome with
      | error error => rfl
      | ok token =>
        have solid : token.kind ≠ .blank := by
          intro blank
          obtain ⟨started, _, _, _, begins⟩ := scansBlank (scanOk found) blank
          exact blanks ⟨started, Lexeme.blankFound begins⟩
        simp only [if_neg solid]

section
variable {scanner after : Scanner} {token : Token} (whole : scanner.rule = .whole)
include whole

theorem scanInStep (found : scan.runFrom scanner = (.ok token, after)) (plain : token.lexeme.Plain) :
    scan.runFrom (scanner.under .leading) = (.ok token, after.under .leading) := by
  cases scanOk found with
  | start fresh => simp [scanRun, step, under, fresh]
  | finish started empty => exact @scanEnd (scanner.under .leading) started empty
  | lexeme started lexeme count begins =>
    rw [whole] at begins
    exact @scanLexeme (scanner.under .leading) lexeme count started
      (Lexeme.beginsFound (Lexeme.beginsLeading begins plain))

theorem scanFails {error : LexError} (failed : scan.runFrom scanner = (.error error, after)) :
    scan.runFrom (scanner.under .leading) = (.error error, after.under .leading) := by
  obtain ⟨⟨started, some, nothing, same⟩, rfl⟩ := scanError failed
  rw [whole] at nothing
  exact scanStuck ⟨started, some, Lexeme.nothingLeading nothing, same⟩

theorem scanApart (found : scan.runFrom scanner = (.ok token, after)) (affected : ¬ token.lexeme.Plain) :
    ∃ other last, scan.runFrom (scanner.under .leading) = (.ok other, last) ∧ other ≠ token := by
  cases scanOk found with
  | start | finish => exact absurd trivial affected
  | lexeme started lexeme count begins =>
    cases lexeme with
    | name name =>
      simp only [Lexeme.Plain, not_forall, Classical.not_not] at affected
      obtain ⟨word, member, starts⟩ := affected
      rw [whole] at begins
      obtain ⟨other, length, read, different⟩ := Lexeme.nameApart begins member starts
      refine ⟨_, _, @scanLexeme (scanner.under .leading) other length started read, ?_⟩
      intro same
      exact different (congrArg Token.lexeme same)
    | _ => exact absurd trivial affected

theorem nextPlace : ∃ middle : Scanner, middle.rule = .whole ∧
    next.runFrom scanner = scan.runFrom middle ∧
    next.runFrom (scanner.under .leading) = scan.runFrom (middle.under .leading) := by
  obtain ⟨middle, rule, place⟩ := nextFrom scanner
  have here := place .whole
  rw [underSame whole, underSame (rule.trans whole)] at here
  exact ⟨middle, rule.trans whole, here, place .leading⟩

theorem nextInStep (found : next.runFrom scanner = (.ok token, after)) (plain : token.lexeme.Plain) :
    next.runFrom (scanner.under .leading) = (.ok token, after.under .leading) ∧ after.rule = .whole := by
  obtain ⟨middle, rule, here, there⟩ := nextPlace whole
  rw [here] at found
  rw [there]
  exact ⟨scanInStep rule found plain, (scansRule (scanOk found)).trans rule⟩

theorem nextFails {error : LexError} (failed : next.runFrom scanner = (.error error, after)) :
    next.runFrom (scanner.under .leading) = (.error error, after.under .leading) := by
  obtain ⟨middle, rule, here, there⟩ := nextPlace whole
  rw [here] at failed
  rw [there]
  exact scanFails rule failed

theorem nextApart (found : next.runFrom scanner = (.ok token, after)) (affected : ¬ token.lexeme.Plain) :
    ∃ other last, next.runFrom (scanner.under .leading) = (.ok other, last) ∧ other ≠ token := by
  obtain ⟨middle, rule, here, there⟩ := nextPlace whole
  rw [here] at found
  rw [there]
  exact scanApart rule found affected

end

theorem readsInStep {scanner : Scanner} {tokens : List Token} {fault : Option LexError}
    (reads : Reads next scanner tokens fault) (whole : scanner.rule = .whole)
    (plain : ∀ token ∈ tokens, token.lexeme.Plain) :
    Reads next (scanner.under .leading) tokens fault := by
  induction reads with
  | fault failed => exact .fault (nextFails whole failed)
  | last found ends => exact .last (nextInStep whole found (plain _ List.mem_cons_self)).1 ends
  | more found goesOn rest ih =>
    obtain ⟨first, later⟩ := List.forall_mem_cons.mp plain
    obtain ⟨same, rule⟩ := nextInStep whole found first
    exact .more same goesOn (ih rule later)

theorem readsPlain {scanner : Scanner} {tokens : List Token} {fault fault' : Option LexError}
    (reads : Reads next scanner tokens fault) (whole : scanner.rule = .whole)
    (same : Reads next (scanner.under .leading) tokens fault') :
    ∀ token ∈ tokens, token.lexeme.Plain := by
  induction reads with
  | fault failed => simp
  | @last scanner after token found ends =>
    intro other member
    rw [List.mem_singleton.mp member, streamEndLexeme ends]
    trivial
  | @more scanner after token tokens fault found goesOn rest ih =>
    obtain ⟨last, again, _, later⟩ := readsHead same
    have plain : token.lexeme.Plain := by
      apply Classical.byContradiction
      intro affected
      obtain ⟨other, _, read, different⟩ := nextApart whole found affected
      cases again.symm.trans read
      exact different rfl
    obtain ⟨step, rule⟩ := nextInStep whole found plain
    cases again.symm.trans step
    exact List.forall_mem_cons.mpr ⟨plain, ih rule (later goesOn)⟩

end Scanner

theorem compileDelivered {rule rule' : WordRule} {source : String}
    (same : (Scanner.ofSource rule source).delivery = (Scanner.ofSource rule' source).delivery)
    (options : Options) (sink : Sink) :
    compile (options.withRule rule) source sink = compile (options.withRule rule') source sink := by
  have course : Pass.course (options.withRule rule) source = Pass.course (options.withRule rule') source := by
    simp only [Pass.course, Options.withRule, same]
  rw [compileInto, compileInto, course]
  rfl

theorem rulesPart (source : String) :
    ∃ whole leading : Delivery,
      Reads Scanner.next (.ofSource .whole source) whole.tokens whole.fault ∧
      Reads Scanner.next (.ofSource .leading source) leading.tokens leading.fault ∧
      (leading = whole ↔
        ∀ name pos, ⟨.name name, pos⟩ ∈ whole.tokens →
          ∀ word ∈ Lexeme.reservedTexts, ¬ word.toList <+: name.toList) ∧
      (leading = whole → ∀ (options : Options) (sink : Sink),
        compile (options.withRule .leading) source sink =
          compile (options.withRule .whole) source sink) := by
  have reads := Scanner.deliveryReads (.ofSource .whole source)
  have reads' := Scanner.deliveryReads (.ofSource .leading source)
  refine ⟨_, _, reads, reads', ⟨?_, ?_⟩, compileDelivered⟩
  · intro same name pos member
    rw [same] at reads'
    exact Scanner.readsPlain reads rfl reads' _ member
  · intro free
    have plain : ∀ token ∈ (Scanner.ofSource .whole source).delivery.tokens, token.lexeme.Plain := by
      intro token member
      obtain ⟨lexeme, pos⟩ := token
      cases lexeme with
      | name name => exact free name pos member
      | _ => trivial
    obtain ⟨tokens, fault⟩ := readsUnique reads' (Scanner.readsInStep reads rfl plain)
    generalize (Scanner.ofSource .leading source).delivery = leading at tokens fault ⊢
    cases leading
    cases tokens
    cases fault
    rfl

/- A letter beyond the first alphabet goes on with a word. -/
example : (Scanner.ofSource .leading "int pint inté").delivery.tokens =
      [⟨.streamStart, ⟨1, 1⟩⟩, ⟨.typeName .int, ⟨1, 1⟩⟩, ⟨.name "pint", ⟨1, 5⟩⟩, ⟨.typeName .int, ⟨1, 10⟩⟩,
        ⟨.name "é", ⟨1, 13⟩⟩, ⟨.streamEnd, ⟨1, 14⟩⟩] ∧
    (Scanner.ofSource .whole "int pint inté").delivery.tokens =
      [⟨.streamStart, ⟨1, 1⟩⟩, ⟨.typeName .int, ⟨1, 1⟩⟩, ⟨.name "pint", ⟨1, 5⟩⟩, ⟨.name "inté", ⟨1, 10⟩⟩,
        ⟨.streamEnd, ⟨1, 14⟩⟩] := by decide +kernel

end Linewise
