import Linewise.Proofs.Tiling
import Mathlib.Data.List.TakeWhile

/-! Where lexemes end. The first character of a text decides which recognizers can answer, and a run of
characters ends at the first that does not belong to it. So a lexeme is read alike whatever follows, as long
as what follows does not go on with a word after a word or with a number after a number. A blank goes on
with neither. -/
namespace Linewise.Lexeme

section
variable {p : Char → Bool} {after : List Char} (boundary : ∀ c ∈ after.head?, p c = false)
include boundary

theorem runAppend (text : List Char) :
    (text ++ after).takeWhile p = text.takeWhile p ∧
      (text ++ after).dropWhile p = text.dropWhile p ++ after := by
  induction text with
  | nil =>
    cases after with
    | nil => exact ⟨rfl, rfl⟩
    | cons c rest => simp [boundary c rfl]
  | cons c rest ih =>
    cases inside : p c with
    | true => simp [inside, ih]
    | false => simp [inside]

theorem runExact {run : List Char} (inside : ∀ c ∈ run, p c = true) :
    (run ++ after).takeWhile p = run ∧ (run ++ after).dropWhile p = after := by
  obtain ⟨taken, left⟩ := runAppend boundary run
  rw [taken, left, List.takeWhile_eq_self_iff.mpr inside, List.dropWhile_eq_nil_iff.mpr inside]
  exact ⟨rfl, rfl⟩

end

def Breaks (after : List Char) : Prop := ∀ c ∈ after.head?, Text.isAlphanumeric c = false

def isFigure (c : Char) : Bool := c.isDigit || c == '.'

theorem startsWordAppend {rule : WordRule} {word after : List Char} (text : List Char)
    (solid : ∀ c ∈ word, Text.isAlphanumeric c = true) (breaks : Breaks after) :
    startsWord rule word (text ++ after) = startsWord rule word text := by
  induction word generalizing text with
  | nil =>
    cases text with
    | nil =>
      cases after with
      | nil => rfl
      | cons c rest =>
        have stop : Text.isAlphanumeric c = false := breaks c rfl
        cases rule <;> simp [startsWord, WordRule.allows, stop]
    | cons c rest => cases rule <;> rfl
  | cons letter word ih =>
    obtain ⟨first, later⟩ := List.forall_mem_cons.mp solid
    cases text with
    | nil =>
      cases after with
      | nil => rfl
      | cons c rest =>
        have different : letter ≠ c := by
          intro same
          simp [same, breaks c rfl] at first
        simp [startsWord, different]
    | cons c rest =>
      have tail := ih rest later
      simp only [startsWord] at tail
      simp only [startsWord, List.cons_append, List.isPrefixOf, List.length_cons, List.drop_succ_cons,
        Bool.and_assoc, tail]

theorem keywordAppend {rule : WordRule} {after : List Char} (text : List Char) (breaks : Breaks after) :
    keyword? rule (text ++ after) = keyword? rule text := by
  have solid (word : Keyword) : word.text.toList.all Text.isAlphanumeric = true := by
    cases word <;> decide
  simp only [keyword?, startsWordAppend text (List.all_eq_true.mp (solid _)) breaks]

theorem typeNameAppend {rule : WordRule} {after : List Char} (text : List Char) (breaks : Breaks after) :
    typeName? rule (text ++ after) = typeName? rule text := by
  have solid (type : DeclaredType) : type.text.toList.all Text.isAlphanumeric = true := by
    cases type <;> decide
  simp only [typeName?, startsWordAppend text (List.all_eq_true.mp (solid _)) breaks]

theorem nameAppend {after : List Char} (c : Char) (rest : List Char) (breaks : Breaks after) :
    name? (c :: (rest ++ after)) = name? (c :: rest) := by
  simp only [name?, (runAppend breaks rest).1]

theorem numberTextAppend {after : List Char} (text : List Char)
    (apart : ∀ c ∈ after.head?, isFigure c = false) : numberText (text ++ after) = numberText text := by
  have noDigit : ∀ c ∈ after.head?, c.isDigit = false := by
    intro c first
    exact (Bool.or_eq_false_iff.mp (apart c first)).1
  have digits (text : List Char) : (text ++ after).takeWhile Char.isDigit = text.takeWhile Char.isDigit :=
    (runAppend noDigit text).1
  simp only [numberText, digits, (runAppend noDigit text).2]
  cases text.dropWhile Char.isDigit with
  | nil =>
    cases after with
    | nil => rfl
    | cons c rest =>
      have noPoint : c ≠ '.' := by
        intro point
        simp [isFigure, point] at apart
      cases text.takeWhile Char.isDigit <;> simp [noPoint]
  | cons c rest =>
    by_cases point : c = '.'
    · subst point
      cases text.takeWhile Char.isDigit <;> simp only [List.cons_append, digits]
    · cases text.takeWhile Char.isDigit <;> simp [point]

theorem numberTextPoint {whole : List Char} (digits : AllDigits whole) (more : List Char)
    (some : whole ≠ [] ∨ more.takeWhile Char.isDigit ≠ []) :
    numberText (whole ++ '.' :: more) = whole ++ '.' :: more.takeWhile Char.isDigit := by
  have point : ∀ c ∈ ('.' :: more).head?, c.isDigit = false := by
    intro c first
    cases first
    rfl
  obtain ⟨before, behind⟩ := runExact point digits
  cases whole with
  | nil =>
    simp only [numberText, before, behind]
    cases taken : more.takeWhile Char.isDigit with
    | nil => simp [taken] at some
    | cons c rest => rfl
  | cons c rest =>
    simp only [List.cons_append] at before behind
    simp only [numberText, List.cons_append, before, behind]

theorem neitherBlankNorSign {p : Char → Bool} {c : Char} (fits : p c = true)
    (others : [' ', '\t', '\n', '\r', '(', ')', '='].any p = false) :
    isBlank c = false ∧ Symbol.ofChar? c = none := by
  have different : ∀ x ∈ [' ', '\t', '\n', '\r', '(', ')', '='], c ≠ x := by
    intro x member same
    exact List.any_eq_false.mp others x member (same ▸ fits)
  simp only [List.forall_mem_cons] at different
  obtain ⟨blank, tab, newline, line, opening, closing, equals, _⟩ := different
  constructor
  · simp [isBlank, blank, tab, newline, line]
  · simp [Symbol.ofChar?, Symbol.all, Symbol.char, opening.symm, closing.symm, equals.symm]

theorem keywordNone {rule : WordRule} {text : List Char}
    (free : ∀ word : Keyword, startsWord rule word.text.toList text = false) :
    keyword? rule text = none := by
  simp only [keyword?, free, List.find?_eq_none.mpr fun _ _ => Bool.false_ne_true]
  rfl

theorem typeNone {rule : WordRule} {text : List Char}
    (free : ∀ type : DeclaredType, startsWord rule type.text.toList text = false) :
    typeName? rule text = none := by
  simp only [typeName?, free, List.find?_eq_none.mpr fun _ _ => Bool.false_ne_true]
  rfl

theorem noReservedWord (rule : WordRule) {c : Char} (rest : List Char)
    (noLetter : Text.isAlphabetic c = false) :
    keyword? rule (c :: rest) = none ∧ typeName? rule (c :: rest) = none := by
  have starts {word : List Char} (lettered : (word.head?.all Text.isAlphabetic && !word.isEmpty) = true) :
      startsWord rule word (c :: rest) = false := by
    cases word with
    | nil => cases lettered
    | cons letter word =>
      have different : letter ≠ c := by
        intro same
        simp [same, noLetter] at lettered
      simp [startsWord, different]
  constructor
  · apply keywordNone
    intro word
    exact starts (by cases word <;> decide)
  · apply typeNone
    intro type
    exact starts (by cases type <;> decide)

theorem figureNoLetter {c : Char} (figure : isFigure c = true) : Text.isAlphabetic c = false := by
  rcases Bool.or_eq_true_iff.mp figure with digit | point
  · exact digitNotAlphabetic digit
  · rw [eq_of_beq point]
    decide

theorem numberTextHead {c : Char} {rest : List Char} (found : numberText (c :: rest) ≠ []) :
    isFigure c = true := by
  cases figure : isFigure c with
  | true => rfl
  | false =>
    obtain ⟨digit, point⟩ := Bool.or_eq_false_iff.mp figure
    simp [numberText, digit, beq_eq_false_iff_ne.mp point] at found

/- The first character decides which recognizers can answer. -/
theorem ofTextHead (rule : WordRule) {c : Char} (rest : List Char) (solid : isBlank c = false) :
    ofText? rule (c :: rest) = (symbol? (c :: rest) <|>
      if Text.isAlphabetic c then
        keyword? rule (c :: rest) <|> typeName? rule (c :: rest) <|> name? (c :: rest)
      else number? (c :: rest)) := by
  have noBlank : blank? (c :: rest) = none := by simp [blank?, solid]
  cases letter : Text.isAlphabetic c with
  | true =>
    have named : ∃ found, name? (c :: rest) = some found := ⟨_, if_pos letter⟩
    obtain ⟨found, named⟩ := named
    simp [ofText?, noBlank, named]
  | false =>
    obtain ⟨noKeyword, noType⟩ := noReservedWord rule rest letter
    have noName : name? (c :: rest) = none := if_neg (by simp [letter])
    simp [ofText?, noBlank, noKeyword, noType, noName]

theorem ofTextAppend (rule : WordRule) {c : Char} {rest after : List Char} (solid : isBlank c = false)
    (word : Text.isAlphabetic c = true → Breaks after)
    (number : isFigure c = true → ∀ x ∈ after.head?, isFigure x = false) :
    ofText? rule (c :: rest ++ after) = ofText? rule (c :: rest) := by
  have sign : symbol? (c :: (rest ++ after)) = symbol? (c :: rest) := rfl
  rw [List.cons_append, ofTextHead rule _ solid, ofTextHead rule _ solid, sign]
  cases letter : Text.isAlphabetic c with
  | true =>
    have keyword := @keywordAppend rule after (c :: rest) (word letter)
    have typeName := @typeNameAppend rule after (c :: rest) (word letter)
    rw [List.cons_append] at keyword typeName
    simp only [if_true, keyword, typeName, nameAppend c rest (word letter)]
  | false =>
    cases figure : isFigure c with
    | true =>
      have same := numberTextAppend (c :: rest) (number figure)
      rw [List.cons_append] at same
      simp only [Bool.false_eq_true, if_false, number?, same]
    | false =>
      have nothing (rest : List Char) : number? (c :: rest) = none := by
        have none : numberText (c :: rest) = [] := by
          cases found : numberText (c :: rest) with
          | nil => rfl
          | cons d more => simp [numberTextHead (by rw [found]; simp)] at figure
        simp only [number?, none]
      simp only [Bool.false_eq_true, if_false, nothing]

theorem solidHead {rule : WordRule} {text : List Char} {lexeme : Lexeme} {count : Nat}
    (found : ofText? rule text = some (lexeme, count)) (other : lexeme.kind ≠ .blank) :
    text ≠ [] ∧ text.takeWhile isBlank = [] := by
  have within := beginsLength (ofTextBegins found)
  refine ⟨List.length_pos_iff.mp (by omega), ?_⟩
  cases run : text.takeWhile isBlank with
  | nil => rfl
  | cons c rest =>
    simp only [ofText?, blank?, run] at found
    cases Option.some.inj found
    exact absurd rfl other

theorem blankBreaks {c : Char} (blank : isBlank c = true) :
    Text.isAlphanumeric c = false ∧ isFigure c = false := by
  simp only [isBlank, Bool.or_eq_true, beq_iff_eq] at blank
  rcases blank with ((rfl | rfl) | rfl) | rfl <;> decide

theorem solidAppend (rule : WordRule) {text : List Char} (some : text ≠ [])
    (solid : text.takeWhile isBlank = []) {c : Char} (blank : isBlank c = true) (more : List Char) :
    ofText? rule (text ++ c :: more) = ofText? rule text := by
  obtain ⟨first, rest, rfl⟩ := List.exists_cons_of_ne_nil some
  have other : isBlank first = false := by
    cases h : isBlank first with
    | false => rfl
    | true => simp [h] at solid
  obtain ⟨noWord, noFigure⟩ := blankBreaks blank
  have only {p : Char → Bool} (fails : p c = false) : ∀ x ∈ (c :: more).head?, p x = false := by
    intro x same
    cases same
    exact fails
  exact ofTextAppend rule other (fun _ => only noWord) (fun _ => only noFigure)

end Linewise.Lexeme
