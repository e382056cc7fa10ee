import Linewise.Proofs.Stretches

/-! Lexemes can be written down again. A text spells the lexemes that a scanner reads from it, whatever
blanks there are around them. Each lexeme can be spelled after a blank, so that it stops where its spelling
does. This holds of every lexeme that was once read from a source under the same rule: a name that no
reserved word starts there is started by none here. -/
namespace Linewise

namespace Lexeme

def Spellable (rule : WordRule) : Lexeme → Prop
  | .name text =>
    IsWord text.toList ∧ keyword? rule text.toList = none ∧ typeName? rule text.toList = none
  | .number value => IsCanonical value
  | .symbol _ | .keyword _ | .typeName _ => True
  | .streamStart | .streamEnd | .blank _ => False

theorem beginsSpellable {rule text lexeme count} (begins : Begins rule text lexeme count)
    (other : lexeme.kind ≠ .blank) : lexeme.Spellable rule := by
  have lawful := beginsLawful begins
  cases begins with
  | blank => exact absurd rfl other
  | symbol | keyword | typeName => trivial
  | name c rest found letter noKeyword noType =>
    subst found
    -- The name is followed by what does not continue it.
    have breaks : Breaks (rest.dropWhile Text.isAlphanumeric) := by
      intro x first
      have stop := List.head?_dropWhile_not Text.isAlphanumeric rest
      rw [Option.mem_def.mp first] at stop
      simpa using stop
    have split : c :: rest =
        (c :: rest.takeWhile Text.isAlphanumeric) ++ rest.dropWhile Text.isAlphanumeric := by
      rw [List.cons_append, List.takeWhile_append_dropWhile]
    rw [split, keywordAppend _ breaks] at noKeyword
    rw [split, typeNameAppend _ breaks] at noType
    simp only [Spellable, String.toList_ofList]
    exact ⟨by simpa using lawful.1, noKeyword, noType⟩
  | number => exact lawful

def spelling : Lexeme → String
  | .number value => value.literal
  | other => other.text?.getD ""

theorem nameRead {rule : WordRule} {text : String} (spellable : (name text).Spellable rule) :
    ofText? rule text.toList = some (.name text, text.length) := by
  obtain ⟨⟨c, rest, same, letter, word⟩, noKeyword, noType⟩ := spellable
  obtain ⟨noBlank, noSign⟩ := neitherBlankNorSign letter (by decide)
  have whole : rest.takeWhile Text.isAlphanumeric = rest := List.takeWhile_eq_self_iff.mpr word
  have length : (c :: rest).length = text.length := by rw [← same, String.length_toList]
  have named : name? (c :: rest) = some (.name text, text.length) := by
    simp only [name?, if_pos letter, whole]
    rw [length, ← same, String.ofList_toList]
  have unsigned : symbol? (c :: rest) = none := by simp [symbol?, noSign]
  rw [same] at noKeyword noType ⊢
  simp [ofTextHead rule rest noBlank, unsigned, letter, noKeyword, noType, named]

theorem wholeText {text : List Char} (whole : IsWhole text) :
    numberText text = text ∧ Number.ofText (String.ofList text) = .int (String.ofList text) := by
  obtain ⟨digits, shape⟩ := whole
  constructor
  · have taken : text.takeWhile Char.isDigit = text := List.takeWhile_eq_self_iff.mpr digits
    have none : text.dropWhile Char.isDigit = [] := List.dropWhile_eq_nil_iff.mpr digits
    simp only [numberText, taken, none]
    cases text <;> rfl
  · have kept : Number.wholeDigits text = text := by
      unfold Number.wholeDigits
      rcases shape with rfl | ⟨c, rest, rfl, different⟩
      · rfl
      · rw [List.dropWhile_cons_of_neg (by simpa using different)]
    simp [Number.ofText, noPoint digits, Number.ofWhole, kept]

theorem decimalText {text : List Char} (decimal : IsDecimal text) :
    numberText text = text ∧ Number.ofText (String.ofList text) = .float (String.ofList text) := by
  obtain ⟨whole, fraction, rfl, leading, trailing, left, right⟩ := decimal
  constructor
  · have taken : fraction.takeWhile Char.isDigit = fraction := List.takeWhile_eq_self_iff.mpr right
    rw [numberTextPoint left fraction (.inl leading), taken]
  · rw [ofDecimalPoint left right, if_neg leading, if_neg trailing]

theorem canonicalHead {value : Number} (canonical : IsCanonical value) :
    ∃ c rest, value.literal.toList = c :: rest ∧ c.isDigit = true := by
  cases value with
  | int literal =>
    obtain ⟨digits, same | ⟨c, rest, same, _⟩⟩ := canonical
    · exact ⟨'0', [], same, by decide⟩
    · exact ⟨c, rest, same, digits c (by simp [same])⟩
  | float literal =>
    obtain ⟨whole, fraction, same, leading, _, left, _⟩ := canonical
    obtain ⟨c, rest, rfl⟩ := List.exists_cons_of_ne_nil leading
    exact ⟨c, rest ++ '.' :: fraction, same, left c (by simp)⟩

theorem numberRead {rule : WordRule} {value : Number} (canonical : IsCanonical value) :
    ofText? rule value.literal.toList = some (.number value, value.literal.length) := by
  have read : numberText value.literal.toList = value.literal.toList ∧
      Number.ofText (String.ofList value.literal.toList) = value := by
    cases value with
    | int literal =>
      have read := wholeText canonical
      rwa [String.ofList_toList] at *
    | float literal =>
      have read := decimalText canonical
      rwa [String.ofList_toList] at *
  obtain ⟨c, rest, same, digit⟩ := canonicalHead canonical
  obtain ⟨noBlank, noSign⟩ := neitherBlankNorSign digit (by decide)
  have unsigned : symbol? (c :: rest) = none := by simp [symbol?, noSign]
  have number : number? (c :: rest) = some (.number value, value.literal.length) := by
    rw [same] at read
    simp only [number?, read]
    rw [← String.length_toList, same]
  rw [same]
  simp [ofTextHead rule rest noBlank, unsigned, digitNotAlphabetic digit, number]

theorem spellingAlone {rule : WordRule} {lexeme : Lexeme} (spellable : lexeme.Spellable rule) :
    ofText? rule lexeme.spelling.toList = some (lexeme, lexeme.spelling.length) := by
  cases lexeme with
  | symbol sign => cases sign <;> rfl
  | keyword word => cases word <;> cases rule <;> rfl
  | typeName type => cases type <;> cases rule <;> rfl
  | name text => exact nameRead spellable
  | number value => exact numberRead spellable
  | streamStart | streamEnd | blank => cases spellable

inductive Spells (rule : WordRule) : List Char → List Lexeme → Prop where
  | done : Spells rule [] []
  | blank {c : Char} {rest : List Char} {lexemes : List Lexeme} (blank : isBlank c = true)
      (later : Spells rule rest lexemes) : Spells rule (c :: rest) lexemes
  | lexeme {text : List Char} {lexeme : Lexeme} {count : Nat} {lexemes : List Lexeme}
      (found : ofText? rule text = some (lexeme, count)) (solid : lexeme.kind ≠ .blank)
      (later : Spells rule (text.drop count) lexemes) : Spells rule text (lexeme :: lexemes)

def spelled (lexemes : List Lexeme) : List Char :=
  lexemes.flatMap fun lexeme => ' ' :: lexeme.spelling.toList

theorem spellableSolid {rule : WordRule} {lexeme : Lexeme} (spellable : lexeme.Spellable rule) :
    lexeme.kind ≠ .blank := by
  intro blank
  cases lexeme with
  | blank => cases spellable
  | _ => cases blank

theorem spelledSpells {rule : WordRule} {lexemes : List Lexeme}
    (spellable : ∀ lexeme ∈ lexemes, lexeme.Spellable rule) : Spells rule (spelled lexemes) lexemes := by
  induction lexemes with
  | nil => exact .done
  | cons lexeme later ih =>
    obtain ⟨first, others⟩ := List.forall_mem_cons.mp spellable
    have alone := spellingAlone first
    obtain ⟨some, solid⟩ := solidHead alone (spellableSolid first)
    have found : ofText? rule (lexeme.spelling.toList ++ spelled later) =
        Option.some (lexeme, lexeme.spelling.length) := by
      cases later with
      | nil =>
        have none : spelled [] = [] := rfl
        rw [none, List.append_nil, alone]
      | cons second others => exact (solidAppend rule some solid rfl _).trans alone
    have behind :
        Spells rule ((lexeme.spelling.toList ++ spelled later).drop lexeme.spelling.length) later := by
      rw [← String.length_toList, List.drop_left]
      exact ih others
    exact .blank rfl (.lexeme found (spellableSolid first) behind)

theorem spellsMarks {rule : WordRule} {text : List Char} {lexemes : List Lexeme}
    (spells : Spells rule text lexemes) (pos : Position) :
    ∃ marks, Stretch.Marks rule pos text marks ∧ marks.map (fun mark => mark.token.lexeme) = lexemes := by
  induction spells generalizing pos with
  | done => exact ⟨[], .none pos, rfl⟩
  | blank blank later ih =>
    obtain ⟨marks, held, same⟩ := ih (pos.step _)
    exact ⟨marks, .blank blank held, same⟩
  | lexeme found solid later ih =>
    obtain ⟨marks, held, same⟩ := ih _
    refine ⟨_, .solid found solid held, ?_⟩
    rw [List.map_cons, same]

end Lexeme

namespace Scanner

theorem spellsTokens {rule : WordRule} {source : String} {lexemes : List Lexeme}
    (spells : Lexeme.Spells rule source.toList lexemes) :
    ∃ tokens, (Scanner.tokens.runFrom (.ofSource rule source)).1 = .ok tokens ∧
      tokens.map Token.lexeme = .streamStart :: lexemes ++ [.streamEnd] := by
  obtain ⟨marks, held, rfl⟩ := Lexeme.spellsMarks spells {}
  obtain ⟨stretches, cuts, rfl⟩ := Stretch.marksCuts held
  refine ⟨_, Stretch.cutsTokens cuts, ?_⟩
  simp only [List.map_append, List.map_cons, List.map_map]
  rfl

theorem spelledTokens {rule : WordRule} {lexemes : List Lexeme}
    (spellable : ∀ lexeme ∈ lexemes, lexeme.Spellable rule) :
    ∃ tokens,
      (Scanner.tokens.runFrom (.ofSource rule (String.ofList (Lexeme.spelled lexemes)))).1 = .ok tokens ∧
      tokens.map Token.lexeme = .streamStart :: lexemes ++ [.streamEnd] := by
  apply spellsTokens
  rw [String.toList_ofList]
  exact Lexeme.spelledSpells spellable

theorem nextSpellable {scanner : Scanner} {token : Token} {after : Scanner}
    (ok : next.runFrom scanner = (.ok token, after)) :
    after.rule = scanner.rule ∧ (isWritten token = true → token.lexeme.Spellable scanner.rule) := by
  obtain ⟨notBlank, middle, unblanked, scans⟩ := nextOk ok
  have kept : middle.rule = scanner.rule := by
    cases unblanked with
    | here => rfl
    | past => rfl
  rw [← kept]
  cases scans with
  | start | finish => exact ⟨rfl, nofun⟩
  | lexeme started lexeme count begins =>
    exact ⟨rfl, fun _ => Lexeme.beginsSpellable begins notBlank⟩

theorem readsSpellable {scanner : Scanner} {tokens : List Token} {fault : Option LexError}
    (reads : Reads next scanner tokens fault) :
    ∀ token ∈ tokens, isWritten token = true → token.lexeme.Spellable scanner.rule := by
  induction reads with
  | fault failed => nofun
  | last found ends =>
    intro token member
    obtain rfl := List.mem_singleton.mp member
    exact (nextSpellable found).2
  | more found goesOn rest ih =>
    obtain ⟨rule, spellable⟩ := nextSpellable found
    intro token member
    rcases List.mem_cons.mp member with rfl | later
    · exact spellable
    · rw [← rule]
      exact ih token later

end Scanner

end Linewise
