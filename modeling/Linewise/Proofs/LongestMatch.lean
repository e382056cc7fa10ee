import Linewise.Proofs.Boundary

/-! Where reserved words count as whole words only, a token is the longest that its place allows. The texts
that a token can cover are told kind by kind. Their first characters keep blanks, signs, words and numbers
apart, so a token has no rival of another such family; the three kinds of word all end where the letters and
digits end, and the order in which they are tried decides between them. -/
namespace Linewise

namespace Lexeme

inductive IsNumeral : List Char → Prop where
  | bare (fraction : List Char) (some : fraction ≠ []) (digits : AllDigits fraction) :
      IsNumeral ('.' :: fraction)
  | whole (digits : List Char) (some : digits ≠ []) (all : AllDigits digits) : IsNumeral digits
  | pointed (whole fraction : List Char) (some : whole ≠ []) (left : AllDigits whole)
      (right : AllDigits fraction) : IsNumeral (whole ++ '.' :: fraction)

def Language : TokenKind → List Char → Prop
  | .blank, text => text ≠ [] ∧ ∀ c ∈ text, isBlank c = true
  | .symbol, text => ∃ sign : Symbol, text = [sign.char]
  | .keyword, text => ∃ word : Keyword, text = word.text.toList
  | .typeName, text => ∃ type : DeclaredType, text = type.text.toList
  | .name, text => IsWord text
  | .number, text => IsNumeral text
  | .streamStart, _ | .streamEnd, _ => False

def tried : List TokenKind := [.blank, .symbol, .keyword, .typeName, .name, .number]

def FirstKind (text : List Char) (kind : TokenKind) : Prop :=
  Language kind text ∧ ∀ other ∈ tried.takeWhile (· ≠ kind), ¬ Language other text

structure Longest (text lead : List Char) : Prop where
  starts : lead <+: text
  some : lead ≠ []
  covered : ∃ kind, Language kind lead
  longest : ∀ other kind, other <+: text → Language kind other → other.length ≤ lead.length

def family : TokenKind → TokenKind
  | .keyword | .typeName => .name
  | other => other

def opened (c : Char) : Option TokenKind :=
  if isBlank c then some .blank
  else if (Symbol.ofChar? c).isSome then some .symbol
  else if Text.isAlphabetic c then some .name
  else if isFigure c then some .number
  else none

def munch (text : List Char) : List Char :=
  match text.head?.bind opened with
  | some .blank => text.takeWhile isBlank
  | some .symbol => text.take 1
  | some .name => text.takeWhile Text.isAlphanumeric
  | some .number => numberText text
  | _ => []

theorem letterOpens {c : Char} (letter : Text.isAlphabetic c = true) : opened c = some .name := by
  obtain ⟨blank, sign⟩ := neitherBlankNorSign letter (by decide)
  simp [opened, blank, sign, letter]

theorem figureOpens {c : Char} (figure : isFigure c = true) : opened c = some .number := by
  obtain ⟨blank, sign⟩ := neitherBlankNorSign figure (by decide)
  simp [opened, blank, sign, figureNoLetter figure, figure]

theorem reservedIsWord {text : String} (reserved : text ∈ reservedTexts) : IsWord text.toList := by
  have shaped : reservedTexts.all (fun text =>
      text.toList.head?.any Text.isAlphabetic && text.toList.tail.all Text.isAlphanumeric) = true := by
    decide
  have shape := List.all_eq_true.mp shaped text reserved
  cases same : text.toList with
  | nil => simp [same] at shape
  | cons c rest =>
    simp only [same, List.head?_cons, Option.any_some, List.tail_cons, Bool.and_eq_true] at shape
    exact ⟨c, rest, rfl, shape.1, List.all_eq_true.mp shape.2⟩

theorem keywordReserved (word : Keyword) : word.text ∈ reservedTexts := by
  cases word <;> decide

theorem typeReserved (type : DeclaredType) : type.text ∈ reservedTexts := by
  cases type <;> decide

theorem languageWord {kind : TokenKind} {text : List Char} (covered : Language kind text)
    (word : family kind = .name) : IsWord text := by
  cases kind with
  | keyword =>
    obtain ⟨word, rfl⟩ := covered
    exact reservedIsWord (keywordReserved word)
  | typeName =>
    obtain ⟨type, rfl⟩ := covered
    exact reservedIsWord (typeReserved type)
  | name => exact covered
  | _ => cases word

theorem numeralHead {text : List Char} (numeral : IsNumeral text) :
    ∃ c rest, text = c :: rest ∧ isFigure c = true := by
  have digit {digits : List Char} (some : digits ≠ []) (all : AllDigits digits) :
      ∃ c rest, digits = c :: rest ∧ isFigure c = true := by
    obtain ⟨c, rest, rfl⟩ := List.exists_cons_of_ne_nil some
    exact ⟨c, rest, rfl, by simp [isFigure, all c List.mem_cons_self]⟩
  cases numeral with
  | bare fraction some digits => exact ⟨'.', fraction, rfl, rfl⟩
  | whole digits some all => exact digit some all
  | pointed whole fraction some left right =>
    obtain ⟨c, rest, rfl, figure⟩ := digit some left
    exact ⟨c, rest ++ '.' :: fraction, rfl, figure⟩

theorem languageOpens {kind : TokenKind} {text : List Char} (covered : Language kind text) :
    ∃ c rest, text = c :: rest ∧ opened c = some (family kind) := by
  have word (word : family kind = .name) : ∃ c rest, text = c :: rest ∧ opened c = some (family kind) := by
    obtain ⟨c, rest, rfl, letter, _⟩ := languageWord covered word
    exact ⟨c, rest, rfl, by rw [word, letterOpens letter]⟩
  cases kind with
  | blank =>
    obtain ⟨c, rest, rfl⟩ := List.exists_cons_of_ne_nil covered.1
    exact ⟨c, rest, rfl, if_pos (covered.2 c List.mem_cons_self)⟩
  | symbol =>
    obtain ⟨sign, rfl⟩ := covered
    exact ⟨sign.char, [], rfl, by cases sign <;> rfl⟩
  | keyword | typeName | name => exact word rfl
  | number =>
    obtain ⟨c, rest, rfl, figure⟩ := numeralHead covered
    exact ⟨c, rest, rfl, figureOpens figure⟩
  | streamStart | streamEnd => cases covered

theorem languageFamily {kind other : TokenKind} {text : List Char} (covered : Language kind text)
    (also : Language other text) : family kind = family other := by
  obtain ⟨c, rest, rfl, opens⟩ := languageOpens covered
  obtain ⟨_, _, same, opens'⟩ := languageOpens also
  cases same
  exact Option.some.inj (opens.symm.trans opens')

theorem languageSome {kind : TokenKind} {text : List Char} (covered : Language kind text) : text ≠ [] := by
  obtain ⟨c, rest, rfl, _⟩ := languageOpens covered
  exact List.cons_ne_nil c rest

theorem takeWhilePrefix {p : Char → Bool} {lead : List Char} (all : ∀ c ∈ lead, p c = true)
    (more : List Char) : lead <+: (lead ++ more).takeWhile p := by
  rw [List.takeWhile_append_of_pos all]
  exact List.prefix_append _ _

theorem wordAlphanumeric {text : List Char} (word : IsWord text) :
    ∀ c ∈ text, Text.isAlphanumeric c = true := by
  obtain ⟨c, rest, rfl, letter, later⟩ := word
  exact List.forall_mem_cons.mpr ⟨by simp [Text.isAlphanumeric, letter], later⟩

theorem numeralMunch {lead : List Char} (numeral : IsNumeral lead) (more : List Char) :
    lead <+: numberText (lead ++ more) := by
  cases numeral with
  | bare fraction some digits =>
    have longer := takeWhilePrefix digits more
    have inside : (fraction ++ more).takeWhile Char.isDigit ≠ [] :=
      fun none => some (List.prefix_nil.mp (none ▸ longer))
    have read : numberText ('.' :: (fraction ++ more)) = '.' :: (fraction ++ more).takeWhile Char.isDigit :=
      @numberTextPoint [] (by simp [AllDigits]) (fraction ++ more) (.inr inside)
    rw [List.cons_append, read]
    exact (List.prefix_cons_inj '.').mpr longer
  | whole _ some all =>
    have longer := takeWhilePrefix all more
    have inside : (lead ++ more).takeWhile Char.isDigit ≠ [] :=
      fun none => some (List.prefix_nil.mp (none ▸ longer))
    unfold numberText
    split
    · contradiction
    · contradiction
    · exact longer.trans (List.prefix_append _ _)
    · exact longer
  | pointed whole fraction some left right =>
    rw [List.append_assoc, List.cons_append, numberTextPoint left _ (.inl some),
      List.prefix_append_right_inj]
    exact (List.prefix_cons_inj '.').mpr (takeWhilePrefix right more)

theorem languageMunch {kind : TokenKind} {text lead : List Char} (covered : Language kind lead)
    (starts : lead <+: text) : lead <+: munch text := by
  obtain ⟨more, rfl⟩ := starts
  have opens : (lead ++ more).head?.bind opened = some (family kind) := by
    obtain ⟨c, rest, rfl, opens⟩ := languageOpens covered
    exact opens
  have word (word : family kind = .name) : lead <+: munch (lead ++ more) := by
    simp only [munch, opens, word]
    exact takeWhilePrefix (wordAlphanumeric (languageWord covered word)) more
  cases kind with
  | blank =>
    simp only [munch, opens, family]
    exact takeWhilePrefix covered.2 more
  | symbol =>
    obtain ⟨sign, rfl⟩ := covered
    simp only [munch, opens, family]
    exact List.prefix_refl _
  | keyword | typeName | name => exact word rfl
  | number =>
    simp only [munch, opens, family]
    exact numeralMunch covered more
  | streamStart | streamEnd => cases covered

theorem numberTextNumeral {text : List Char} (found : numberText text ≠ []) :
    IsNumeral (numberText text) := by
  rcases numberTextShape found with ⟨_, _, digits⟩ | ⟨whole, fraction, _, _, same, left, right, some⟩
  · exact .whole _ found digits
  · rw [same]
    cases whole with
    | nil => exact .bare fraction (some.resolve_left fun none => none rfl) right
    | cons c rest => exact .pointed _ fraction (List.cons_ne_nil c rest) left right

theorem startsWordLead {rule : WordRule} {word : String} {text : List Char}
    (starts : startsWord rule word.toList text = true) : text.take word.length = word.toList := by
  rw [← startsWordTake starts, String.toList_ofList, startsWordTake starts]

theorem beginsLanguage {rule : WordRule} {text : List Char} {lexeme : Lexeme} {count : Nat}
    (begins : Begins rule text lexeme count) : Language lexeme.kind (text.take count) := by
  cases begins with
  | blank found =>
    rw [takePrefix (List.takeWhile_prefix _)]
    exact ⟨found, List.all_eq_true.mp List.all_takeWhile⟩
  | symbol sign found =>
    obtain ⟨rest, rfl⟩ := List.head?_eq_some_iff.mp found
    exact ⟨sign, rfl⟩
  | keyword word found => exact ⟨word, startsWordLead found⟩
  | typeName type found => exact ⟨type, startsWordLead found⟩
  | name c rest found letter =>
    subst found
    rw [takePrefix ((List.prefix_cons_inj c).mpr (List.takeWhile_prefix _))]
    exact ⟨c, _, rfl, letter, List.all_eq_true.mp List.all_takeWhile⟩
  | number found =>
    rw [takePrefix (numberTextPrefix found)]
    exact numberTextNumeral found

theorem startsWordMunch {word text : List Char} (isWord : IsWord word)
    (starts : startsWord .whole word text = true) : word = text.takeWhile Text.isAlphanumeric := by
  simp only [startsWord, Bool.and_eq_true, List.isPrefixOf_iff_prefix] at starts
  obtain ⟨⟨after, rfl⟩, allowed⟩ := starts
  rw [List.drop_left] at allowed
  have breaks : Breaks after := by
    intro c first
    obtain ⟨rest, rfl⟩ := List.head?_eq_some_iff.mp first
    simpa [WordRule.allows] using allowed
  exact (runExact breaks (wordAlphanumeric isWord)).1.symm

theorem beginsOpens {rule : WordRule} {text : List Char} {lexeme : Lexeme} {count : Nat}
    (begins : Begins rule text lexeme count) :
    text.head?.bind opened = some (family lexeme.kind) := by
  obtain ⟨c, rest, taken, opens⟩ := languageOpens (beginsLanguage begins)
  obtain ⟨later, same⟩ := List.take_prefix count text
  rw [← same, taken]
  exact opens

theorem beginsMunch {text : List Char} {lexeme : Lexeme} {count : Nat}
    (begins : Begins .whole text lexeme count) : text.take count = munch text := by
  have opens := beginsOpens begins
  cases begins with
  | blank found =>
    simp only [munch, opens, family, kind]
    exact takePrefix (List.takeWhile_prefix _)
  | symbol sign found => simp only [munch, opens, family, kind]
  | keyword word found =>
    simp only [munch, opens, family, kind]
    rw [← startsWordMunch (reservedIsWord (keywordReserved word)) found]
    exact startsWordLead found
  | typeName type found =>
    simp only [munch, opens, family, kind]
    rw [← startsWordMunch (reservedIsWord (typeReserved type)) found]
    exact startsWordLead found
  | name c rest found letter =>
    subst found
    have inside : Text.isAlphanumeric c = true := by simp [Text.isAlphanumeric, letter]
    simp only [munch, opens, family, kind]
    rw [takePrefix ((List.prefix_cons_inj c).mpr (List.takeWhile_prefix _)),
      List.takeWhile_cons_of_pos inside]
  | number found =>
    simp only [munch, opens, family, kind]
    exact takePrefix (numberTextPrefix found)

theorem wordMunch {text : List Char} {lexeme : Lexeme} {count : Nat}
    (begins : Begins .whole text lexeme count) (word : lexeme.kind ∈ [.keyword, .typeName, .name]) :
    text.take count = text.takeWhile Text.isAlphanumeric := by
  have family : family lexeme.kind = .name := by
    generalize lexeme.kind = kind at word
    revert word
    cases kind <;> decide
  rw [beginsMunch begins, munch, beginsOpens begins, family]

theorem nothingMunched {rule : WordRule} {text : List Char} (none : ofText? rule text = none) :
    munch text = [] := by
  simp only [ofText?, Option.orElse_eq_orElse, Option.orElse_eq_or, Option.or_eq_none_iff] at none
  obtain ⟨noBlank, noSign, _, _, noName, noNumber⟩ := none
  cases text with
  | nil => rfl
  | cons c rest =>
    have blank : isBlank c = false := by
      cases h : isBlank c with
      | false => rfl
      | true => simp [blank?, h] at noBlank
    have sign : Symbol.ofChar? c = Option.none := by
      cases h : Symbol.ofChar? c with
      | none => rfl
      | some sign => simp [symbol?, h] at noSign
    have letter : Text.isAlphabetic c = false := by
      cases h : Text.isAlphabetic c with
      | false => rfl
      | true => simp [name?, h] at noName
    have number : numberText (c :: rest) = [] := by
      cases h : numberText (c :: rest) with
      | nil => rfl
      | cons d more => simp [number?, h] at noNumber
    cases figure : isFigure c with
    | true => simp [munch, opened, blank, sign, letter, figure, number]
    | false => simp [munch, opened, blank, sign, letter, figure]

theorem languageReserved {kind : TokenKind} {text : List Char} (covered : Language kind text)
    (reserved : kind = .keyword ∨ kind = .typeName) : String.ofList text ∈ reservedTexts := by
  rcases reserved with rfl | rfl
  · obtain ⟨word, rfl⟩ := covered
    rw [String.ofList_toList]
    exact keywordReserved word
  · obtain ⟨type, rfl⟩ := covered
    rw [String.ofList_toList]
    exact typeReserved type

theorem typeNoKeyword {text : List Char} (covered : Language .typeName text) : ¬ Language .keyword text := by
  obtain ⟨type, rfl⟩ := covered
  rintro ⟨word, same⟩
  have different : type.text ≠ word.text := by cases type <;> cases word <;> decide
  exact different (String.toList_inj.mp same)

theorem nameNotReserved {rule : WordRule} {text : List Char} {lexeme : Lexeme} {count : Nat}
    (begins : Begins rule text lexeme count) (named : lexeme.kind = .name) :
    String.ofList (text.take count) ∉ reservedTexts := by
  cases begins with
  | name c rest found letter noKeyword noType =>
    subst found
    rw [takePrefix ((List.prefix_cons_inj c).mpr (List.takeWhile_prefix _))]
    exact nameUnreserved noKeyword noType
  | _ => cases named

theorem rivals {kind other : TokenKind} (before : other ∈ tried.takeWhile (· ≠ kind))
    (same : family kind = family other) :
    kind = .typeName ∧ other = .keyword ∨ kind = .name ∧ (other = .keyword ∨ other = .typeName) := by
  revert before same
  cases kind <;> cases other <;> decide

theorem beginsFirst {rule : WordRule} {text : List Char} {lexeme : Lexeme} {count : Nat}
    (begins : Begins rule text lexeme count) : FirstKind (text.take count) lexeme.kind := by
  have covered := beginsLanguage begins
  refine ⟨covered, ?_⟩
  intro other before also
  rcases rivals before (languageFamily covered also) with ⟨type, rfl⟩ | ⟨name, reserved⟩
  · rw [type] at covered
    exact typeNoKeyword covered also
  · exact nameNotReserved begins name (languageReserved also reserved)

theorem munchLongest {text : List Char} {lexeme : Lexeme} {count : Nat}
    (begins : Begins .whole text lexeme count) : Longest text (text.take count) where
  starts := List.take_prefix count text
  some := languageSome (beginsLanguage begins)
  covered := ⟨_, beginsLanguage begins⟩
  longest other kind starts covered := by
    rw [beginsMunch begins]
    exact (languageMunch covered starts).length_le

theorem foundIff (text : List Char) :
    (∃ lexeme count, ofText? .whole text = some (lexeme, count)) ↔
      ∃ lead kind, lead <+: text ∧ lead ≠ [] ∧ Language kind lead := by
  constructor
  · rintro ⟨lexeme, count, found⟩
    have covered := beginsLanguage (ofTextBegins found)
    exact ⟨_, _, List.take_prefix count text, languageSome covered, covered⟩
  · rintro ⟨lead, kind, starts, some, covered⟩
    cases found : ofText? .whole text with
    | some pair => exact ⟨pair.1, pair.2, rfl⟩
    | none =>
      have inside := languageMunch covered starts
      rw [nothingMunched found] at inside
      exact absurd (List.prefix_nil.mp inside) some

end Lexeme

namespace Scanner

def standing (rule : WordRule) (source : String) (offset : Nat) : Scanner where
  rule := rule
  rest := source.toList.drop offset
  offset := offset
  pos := .after (source.toList.take offset)
  started := true

theorem standingSkip (rule : WordRule) (source : String) (offset count : Nat) :
    (standing rule source offset).skip count = standing rule source (offset + count) := by
  simp only [standing, skip, Position.afterAdvance, List.drop_drop, List.take_add]

theorem standingSome {source : String} {offset : Nat} (inside : offset < source.toList.length)
    (rule : WordRule) : (standing rule source offset).rest ≠ [] := by
  intro none
  have short := List.drop_eq_nil_iff.mp none
  omega

theorem scanStanding {rule : WordRule} {source : String} {offset : Nat}
    (inside : offset < source.toList.length) {token : Token} {after : Scanner} :
    scan.runFrom (standing rule source offset) = (.ok token, after) ↔
      ∃ lexeme count, Lexeme.ofText? rule (source.toList.drop offset) = some (lexeme, count) ∧
        token = ⟨lexeme, .after (source.toList.take offset)⟩ ∧
        after = standing rule source (offset + count) := by
  constructor
  · intro ok
    cases found : Lexeme.ofText? rule (source.toList.drop offset) with
    | none => cases (scanStuck ⟨rfl, standingSome inside rule, found, rfl⟩).symm.trans ok
    | some pair =>
      have read := @scanLexeme (standing rule source offset) pair.1 pair.2 rfl found
      cases read.symm.trans ok
      exact ⟨pair.1, pair.2, rfl, rfl, standingSkip rule source offset pair.2⟩
  · rintro ⟨lexeme, count, found, rfl, rfl⟩
    rw [← standingSkip]
    exact scanLexeme rfl found

end Scanner

open Lexeme in
theorem longestMatch (source : String) {offset : Nat} (inside : offset < source.toList.length) :
    ((∃ token after, Scanner.scan.runFrom (.standing .whole source offset) = (.ok token, after)) ↔
      ∃ lead kind, lead <+: source.toList.drop offset ∧ lead ≠ [] ∧ Language kind lead) ∧
    ∀ token after, Scanner.scan.runFrom (.standing .whole source offset) = (.ok token, after) →
      ∃ lead, Longest (source.toList.drop offset) lead ∧ FirstKind lead token.kind ∧
        token.lexeme.Covers lead ∧ token.pos = .after (source.toList.take offset) ∧
        after = .standing .whole source (offset + lead.length) ∧
        (token.kind ∈ [.keyword, .typeName, .name] →
          lead = (source.toList.drop offset).takeWhile Text.isAlphanumeric) ∧
        ∀ name, token.lexeme = .name name → name ∉ reservedTexts := by
  constructor
  · rw [← foundIff]
    constructor
    · rintro ⟨token, after, ok⟩
      obtain ⟨lexeme, count, found, _⟩ := (Scanner.scanStanding inside).mp ok
      exact ⟨lexeme, count, found⟩
    · rintro ⟨lexeme, count, found⟩
      exact ⟨_, _, (Scanner.scanStanding inside).mpr ⟨lexeme, count, found, rfl, rfl⟩⟩
  · intro token after ok
    obtain ⟨lexeme, count, found, rfl, rfl⟩ := (Scanner.scanStanding inside).mp ok
    have begins := ofTextBegins found
    have whole : ((source.toList.drop offset).take count).length = count := by
      rw [List.length_take, Nat.min_eq_left (beginsLength begins).2]
    refine ⟨(source.toList.drop offset).take count, munchLongest begins, beginsFirst begins,
      beginsCovers begins, rfl, by rw [whole], ?_, ?_⟩
    · intro word
      exact wordMunch begins word
    · rintro name rfl
      exact (beginsLawful begins).2

/- A reserved word that goes on is a name, and a point belongs to the number before it. -/
theorem longestMatchSample :
    Lexeme.Longest "inputs=07.x".toList "inputs".toList ∧ Lexeme.FirstKind "inputs".toList .name ∧
    Lexeme.Longest "07.x".toList "07.".toList ∧ Lexeme.FirstKind "07.".toList .number := by
  have word : Scanner.scan.runFrom (.standing .whole "inputs=07.x" 0) =
      (.ok ⟨.name "inputs", ⟨1, 1⟩⟩, .standing .whole "inputs=07.x" 6) :=
    (Scanner.scanStanding (by decide)).mpr ⟨.name "inputs", 6, by decide +kernel, rfl, rfl⟩
  have number : Scanner.scan.runFrom (.standing .whole "inputs=07.x" 7) =
      (.ok ⟨.number (.float "07.0"), ⟨1, 8⟩⟩, .standing .whole "inputs=07.x" 10) :=
    (Scanner.scanStanding (by decide)).mpr ⟨.number (.float "07.0"), 3, by decide +kernel, rfl, rfl⟩
  obtain ⟨lead, longest, first, covers, _⟩ :=
    (longestMatch "inputs=07.x" (by decide : 0 < _)).2 _ _ word
  obtain ⟨lead', longest', first', _, _, after, _⟩ :=
    (longestMatch "inputs=07.x" (by decide : 7 < _)).2 _ _ number
  have same : lead = "inputs".toList := by
    rw [Option.some.inj covers, String.toList_ofList]
  have offset : 10 = 7 + lead'.length := congrArg Scanner.offset after
  have same' : lead' = "07.".toList := by
    rw [List.prefix_iff_eq_take.mp longest'.starts, show lead'.length = 3 by omega]
    rfl
  rw [same] at longest first
  rw [same'] at longest' first'
  exact ⟨longest, first, longest', first'⟩

end Linewise
