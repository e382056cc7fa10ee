import Linewise.Scanner

/-! What a lexeme at the start of a text can be. `Begins` says it once, kind by kind, and everything
later proofs need of the recognizers follows from it: a lexeme covers at least one character and none
past the end, a run of blanks leaves no blank behind it, a name is a word that is not reserved, and a
number is spelled canonically. -/
namespace Linewise.Lexeme

inductive Begins (rule : WordRule) (text : List Char) : Lexeme → Nat → Prop where
  | blank (found : text.takeWhile isBlank ≠ []) :
      Begins rule text (.blank (String.ofList (text.takeWhile isBlank)))
        (text.takeWhile isBlank).length
  | symbol (sign : Symbol) (found : text.head? = some sign.char) :
      Begins rule text (.symbol sign) 1
  | keyword (word : Keyword) (found : startsWord rule word.text.toList text = true) :
      Begins rule text (.keyword word) word.text.length
  | typeName (type : DeclaredType) (found : startsWord rule type.text.toList text = true) :
      Begins rule text (.typeName type) type.text.length
  | name (c : Char) (rest : List Char) (found : text = c :: rest)
      (letter : Text.isAlphabetic c = true)
      (noKeyword : keyword? rule text = none) (noType : typeName? rule text = none) :
      Begins rule text (.name (String.ofList (c :: rest.takeWhile Text.isAlphanumeric)))
        (c :: rest.takeWhile Text.isAlphanumeric).length
  | number (found : numberText text ≠ []) :
      Begins rule text (.number (Number.ofText (String.ofList (numberText text))))
        (numberText text).length

theorem blankBegins {rule text lexeme count} (ok : blank? text = some (lexeme, count)) :
    Begins rule text lexeme count := by
  unfold blank? at ok
  split at ok
  · contradiction
  · rename_i run
    cases Option.some.inj ok
    exact .blank run

theorem symbolBegins {rule text lexeme count} (ok : symbol? text = some (lexeme, count)) :
    Begins rule text lexeme count := by
  simp only [symbol?, bind, Option.bind_eq_some_iff] at ok
  obtain ⟨c, head, sign, known, last⟩ := ok
  cases Option.some.inj last
  have same : sign.char = c := by simpa using List.find?_some known
  exact .symbol sign (by rw [head, same])

theorem keywordBegins {rule text lexeme count} (ok : keyword? rule text = some (lexeme, count)) :
    Begins rule text lexeme count := by
  simp only [keyword?, bind, Option.bind_eq_some_iff] at ok
  obtain ⟨word, known, last⟩ := ok
  have found := List.find?_some known
  cases Option.some.inj last
  exact .keyword word found

theorem typeNameBegins {rule text lexeme count} (ok : typeName? rule text = some (lexeme, count)) :
    Begins rule text lexeme count := by
  simp only [typeName?, bind, Option.bind_eq_some_iff] at ok
  obtain ⟨type, known, last⟩ := ok
  have found := List.find?_some known
  cases Option.some.inj last
  exact .typeName type found

theorem nameBegins {rule text lexeme count} (noKeyword : keyword? rule text = none)
    (noType : typeName? rule text = none) (ok : name? text = some (lexeme, count)) :
    Begins rule text lexeme count := by
  cases text with
  | nil => simp [name?] at ok
  | cons c rest =>
    simp only [name?] at ok
    split at ok
    · rename_i letter
      cases Option.some.inj ok
      exact .name c rest rfl letter noKeyword noType
    · contradiction

theorem numberBegins {rule text lexeme count} (ok : number? text = some (lexeme, count)) :
    Begins rule text lexeme count := by
  unfold number? at ok
  split at ok
  · contradiction
  · rename_i digits
    cases Option.some.inj ok
    exact .number digits

theorem ofTextBegins {rule text lexeme count} (ok : ofText? rule text = some (lexeme, count)) :
    Begins rule text lexeme count := by
  simp only [ofText?, Option.orElse_eq_orElse, Option.orElse_eq_or, Option.or_eq_some_iff] at ok
  rcases ok with blank | ⟨_, symbol | ⟨_, keyword | ⟨noKeyword, type | ⟨noType, name | ⟨_, number⟩⟩⟩⟩⟩
  · exact blankBegins blank
  · exact symbolBegins symbol
  · exact keywordBegins keyword
  · exact typeNameBegins type
  · exact nameBegins noKeyword noType name
  · exact numberBegins number

def AllDigits (text : List Char) : Prop := ∀ c ∈ text, c.isDigit = true

theorem takeWhileDigits (text : List Char) : AllDigits (text.takeWhile Char.isDigit) :=
  List.all_eq_true.mp List.all_takeWhile

theorem digitNotAlphabetic {c : Char} (digit : c.isDigit = true) : Text.isAlphabetic c = false := by
  have small : c.toNat ≤ 57 := (Char.isDigit_iff_toNat.mp digit).2
  have below (letter : Char) (large : 58 ≤ letter.toNat) : ¬ letter.val ≤ c.val := by
    intro le
    have le : letter.toNat ≤ c.toNat := UInt32.le_iff_toNat_le.mp le
    omega
  have upper : c.isUpper = false := decide_eq_false fun h => below 'A' (by decide) h.1
  have lower : c.isLower = false := by
    show (decide ('a'.val ≤ c.val) && _) = false
    rw [decide_eq_false (below 'a' (by decide)), Bool.false_and]
  have letter : c.isAlpha = (c.isUpper || c.isLower) := rfl
  rw [Text.isAlphabetic, if_pos (by omega), letter, upper, lower]
  rfl

/- A number is digits, or digits around one point of which one side may be empty. The text after it is
kept in the statement, so that the prefix property and the shape come from one case analysis. -/
theorem numberTextShape {text : List Char} (found : numberText text ≠ []) :
    (∃ rest, text = numberText text ++ rest ∧ AllDigits (numberText text)) ∨
    ∃ whole fraction rest, text = (whole ++ '.' :: fraction) ++ rest ∧
      numberText text = whole ++ '.' :: fraction ∧ AllDigits whole ∧ AllDigits fraction ∧
      (whole ≠ [] ∨ fraction ≠ []) := by
  have pieces := List.takeWhile_append_dropWhile (p := Char.isDigit) (l := text)
  have digits := takeWhileDigits text
  unfold numberText at found ⊢
  split
  · rename_i rest none point
    rw [none, point] at pieces found
    have after := List.takeWhile_append_dropWhile (p := Char.isDigit) (l := rest)
    split
    · rename_i empty
      simp [empty] at found
    · rename_i some
      refine .inr ⟨[], rest.takeWhile Char.isDigit, rest.dropWhile Char.isDigit, ?_, rfl, by simp [AllDigits],
        takeWhileDigits rest, .inr some⟩
      simpa [after] using pieces.symm
  · rename_i none noPoint
    simp [none] at found
  · rename_i rest point some
    rw [point] at pieces
    have after := List.takeWhile_append_dropWhile (p := Char.isDigit) (l := rest)
    refine .inr ⟨text.takeWhile Char.isDigit, rest.takeWhile Char.isDigit, rest.dropWhile Char.isDigit, ?_, rfl,
      digits, takeWhileDigits rest, .inl some⟩
    simpa [after] using pieces.symm
  · exact .inl ⟨text.dropWhile Char.isDigit, pieces.symm, digits⟩

theorem numberTextPrefix {text : List Char} (found : numberText text ≠ []) :
    numberText text <+: text := by
  rcases numberTextShape found with ⟨rest, whole, _⟩ | ⟨whole, fraction, rest, all, same, _⟩
  · exact ⟨rest, whole.symm⟩
  · rw [same]
    exact ⟨rest, all.symm⟩

theorem startsWordLength {rule : WordRule} {word text : List Char}
    (starts : startsWord rule word text = true) : word.length ≤ text.length := by
  simp only [startsWord, Bool.and_eq_true] at starts
  exact (List.isPrefixOf_iff_prefix.mp starts.1).length_le

theorem beginsLength {rule text lexeme count} (begins : Begins rule text lexeme count) :
    0 < count ∧ count ≤ text.length := by
  cases begins with
  | blank found => exact ⟨List.length_pos_iff.mpr found, (List.takeWhile_prefix _).length_le⟩
  | symbol sign found =>
    cases text with
    | nil => simp at found
    | cons c rest => simp
  | keyword word found =>
    exact ⟨by cases word <;> decide, startsWordLength found⟩
  | typeName type found =>
    exact ⟨by cases type <;> decide, startsWordLength found⟩
  | name c rest found =>
    subst text
    have inside := (List.takeWhile_prefix (l := rest) Text.isAlphanumeric).length_le
    exact ⟨by simp, by simpa using inside⟩
  | number found => exact ⟨List.length_pos_iff.mpr found, (numberTextPrefix found).length_le⟩

theorem dropTakeWhile {α : Type} (p : α → Bool) (text : List α) :
    text.drop (text.takeWhile p).length = text.dropWhile p := by
  induction text with
  | nil => rfl
  | cons c rest ih =>
    cases h : p c with
    | true => simp [h, ih]
    | false => simp [h]

theorem blankFound {rule text blanks count} (begins : Begins rule text (.blank blanks) count) :
    text.takeWhile isBlank ≠ [] := by
  cases begins with
  | blank found => exact found

theorem blankRest {rule text blanks count} (begins : Begins rule text (.blank blanks) count) :
    (text.drop count).takeWhile isBlank = [] := by
  cases begins with
  | blank found =>
    rw [dropTakeWhile]
    have stop := List.head?_dropWhile_not isBlank text
    cases h : text.dropWhile isBlank with
    | nil => rfl
    | cons c rest =>
      rw [h] at stop
      exact List.takeWhile_cons_of_neg (by simpa using stop)

def IsWord (text : List Char) : Prop :=
  ∃ c rest, text = c :: rest ∧ Text.isAlphabetic c = true ∧
    ∀ x ∈ rest, Text.isAlphanumeric x = true

theorem wordFree {text : List Char} (word : IsWord text) {x : Char}
    (other : Text.isAlphanumeric x = false) : x ∉ text := by
  obtain ⟨c, rest, rfl, letter, alphanumeric⟩ := word
  intro member
  rcases List.mem_cons.mp member with rfl | inside
  · simp [Text.isAlphanumeric, letter] at other
  · simp [alphanumeric x inside] at other

def reservedTexts : List String :=
  Keyword.all.map Keyword.text ++ DeclaredType.all.map DeclaredType.text

/- The longest run of word characters counts as a reserved word under either rule: nothing that
continues a word comes after it. -/
theorem wholeWordStarts (rule : WordRule) (c : Char) (rest : List Char) :
    startsWord rule (c :: rest.takeWhile Text.isAlphanumeric) (c :: rest) = true := by
  have run : (c :: rest.takeWhile Text.isAlphanumeric) <+: c :: rest :=
    (List.prefix_cons_inj c).mpr (List.takeWhile_prefix _)
  have stop := List.head?_dropWhile_not Text.isAlphanumeric rest
  simp only [startsWord, Bool.and_eq_true, List.isPrefixOf_iff_prefix, List.length_cons,
    List.drop_succ_cons, dropTakeWhile]
  refine ⟨run, ?_⟩
  cases rule with
  | leading => rfl
  | whole =>
    cases h : rest.dropWhile Text.isAlphanumeric with
    | nil => rfl
    | cons x after =>
      rw [h] at stop
      simpa [WordRule.allows] using stop

theorem keywordOfStart {rule : WordRule} {text : List Char} (word : Keyword)
    (starts : startsWord rule word.text.toList text = true) : keyword? rule text ≠ none := by
  intro none
  simp only [keyword?, bind, Option.bind_eq_none_iff] at none
  cases h : Keyword.all.find? fun word => startsWord rule word.text.toList text with
  | some found => exact absurd (none found h) (by simp [pure])
  | none => exact List.find?_eq_none.mp h word (by cases word <;> decide) starts

theorem typeNameOfStart {rule : WordRule} {text : List Char} (type : DeclaredType)
    (starts : startsWord rule type.text.toList text = true) : typeName? rule text ≠ none := by
  intro none
  simp only [typeName?, bind, Option.bind_eq_none_iff] at none
  cases h : DeclaredType.all.find? fun type => startsWord rule type.text.toList text with
  | some found => exact absurd (none found h) (by simp [pure])
  | none => exact List.find?_eq_none.mp h type (by cases type <;> decide) starts

theorem nameUnreserved {rule : WordRule} {c : Char} {rest : List Char}
    (noKeyword : keyword? rule (c :: rest) = none) (noType : typeName? rule (c :: rest) = none) :
    String.ofList (c :: rest.takeWhile Text.isAlphanumeric) ∉ reservedTexts := by
  intro member
  have starts := wholeWordStarts rule c rest
  rcases List.mem_append.mp member with keyword | type
  · obtain ⟨word, _, same⟩ := List.mem_map.mp keyword
    exact keywordOfStart word (by rw [same, String.toList_ofList]; exact starts) noKeyword
  · obtain ⟨type, _, same⟩ := List.mem_map.mp type
    exact typeNameOfStart type (by rw [same, String.toList_ofList]; exact starts) noType

def IsWhole (text : List Char) : Prop :=
  AllDigits text ∧ (text = ['0'] ∨ ∃ c rest, text = c :: rest ∧ c ≠ '0')

def IsDecimal (text : List Char) : Prop :=
  ∃ whole fraction, text = whole ++ '.' :: fraction ∧ whole ≠ [] ∧ fraction ≠ [] ∧
    AllDigits whole ∧ AllDigits fraction

def IsCanonical : Number → Prop
  | .int literal => IsWhole literal.toList
  | .float literal => IsDecimal literal.toList

theorem canonicalFree {value : Number} (canonical : IsCanonical value) {x : Char}
    (noDigit : x.isDigit = false) (noPoint : x ≠ '.') : x ∉ value.literal.toList := by
  have free {digits : List Char} (all : AllDigits digits) : x ∉ digits := by
    intro member
    simp [all x member] at noDigit
  cases value with
  | int literal => exact free canonical.1
  | float literal =>
    obtain ⟨whole, fraction, same, _, _, left, right⟩ := canonical
    simp [Number.literal, same, free left, free right, noPoint]

theorem noPoint {text : List Char} (digits : AllDigits text) : '.' ∉ text := by
  intro member
  exact absurd (digits '.' member) (by decide)

theorem wholeDigitsWhole {text : List Char} (digits : AllDigits text) :
    IsWhole (Number.wholeDigits text) := by
  unfold Number.wholeDigits
  have stop := List.head?_dropWhile_not (· == '0') text
  split
  · exact ⟨by simp [AllDigits], .inl rfl⟩
  · rename_i some
    have inside : AllDigits (text.dropWhile (· == '0')) :=
      fun c member => digits c ((List.dropWhile_suffix _).subset member)
    cases h : text.dropWhile (· == '0') with
    | nil => exact absurd h some
    | cons c rest =>
      rw [h] at stop inside
      exact ⟨inside, .inr ⟨c, rest, rfl, by simpa using stop⟩⟩

theorem ofWholeCanonical {text : List Char} (digits : AllDigits text) :
    IsCanonical (Number.ofText (String.ofList text)) := by
  simp only [Number.ofText, String.toList_ofList, noPoint digits, if_false, Number.ofWhole,
    IsCanonical]
  exact wholeDigitsWhole digits

theorem beforePoint {whole : List Char} (fraction : List Char) (digits : AllDigits whole) :
    Number.digitBeforePoint (whole ++ '.' :: fraction) =
      (if whole = [] then ['0'] else whole) ++ '.' :: fraction := by
  cases whole with
  | nil => rfl
  | cons c rest =>
    have different : c ≠ '.' := by
      intro same
      exact noPoint digits (by simp [same])
    simp [Number.digitBeforePoint, different]

theorem afterPoint (whole : List Char) {fraction : List Char} (digits : AllDigits fraction) :
    Number.digitAfterPoint (whole ++ '.' :: fraction) =
      whole ++ '.' :: (if fraction = [] then ['0'] else fraction) := by
  rcases List.eq_nil_or_concat fraction with rfl | ⟨most, c, rfl⟩
  · simp [Number.digitAfterPoint]
  · have different : c ≠ '.' := by
      intro same
      exact noPoint digits (by simp [same])
    simp [Number.digitAfterPoint, List.getLast?_append, List.getLast?_cons, different]

theorem ofDecimalPoint {whole fraction : List Char} (wholeDigits : AllDigits whole)
    (fractionDigits : AllDigits fraction) :
    Number.ofText (String.ofList (whole ++ '.' :: fraction)) =
      .float (String.ofList ((if whole = [] then ['0'] else whole) ++
        '.' :: (if fraction = [] then ['0'] else fraction))) := by
  have point : '.' ∈ whole ++ '.' :: fraction := by simp
  simp only [Number.ofText, String.toList_ofList, point, if_true, Number.ofDecimal,
    beforePoint fraction wholeDigits, afterPoint _ fractionDigits]

theorem ofDecimalCanonical {whole fraction : List Char} (wholeDigits : AllDigits whole)
    (fractionDigits : AllDigits fraction) :
    IsCanonical (Number.ofText (String.ofList (whole ++ '.' :: fraction))) := by
  have zero : AllDigits ['0'] := by simp [AllDigits]
  rw [ofDecimalPoint wholeDigits fractionDigits, IsCanonical, String.toList_ofList]
  refine ⟨_, _, rfl, ?_, ?_, ?_, ?_⟩
  · split <;> simp [*]
  · split <;> simp [*]
  · split <;> assumption
  · split <;> assumption

theorem numberCanonical {text : List Char} (found : numberText text ≠ []) :
    IsCanonical (Number.ofText (String.ofList (numberText text))) := by
  rcases numberTextShape found with ⟨_, _, digits⟩ | ⟨whole, fraction, _, _, same, left, right, _⟩
  · exact ofWholeCanonical digits
  · rw [same]
    exact ofDecimalCanonical left right

def Lawful : Lexeme → Prop
  | .name text => IsWord text.toList ∧ text ∉ reservedTexts
  | .number value => IsCanonical value
  | .streamStart | .streamEnd | .blank _ | .symbol _ | .keyword _ | .typeName _ => True

theorem beginsLawful {rule text lexeme count} (begins : Begins rule text lexeme count) :
    lexeme.Lawful := by
  cases begins with
  | blank | symbol | keyword | typeName => trivial
  | name c rest found letter noKeyword noType =>
    subst found
    refine ⟨⟨c, rest.takeWhile Text.isAlphanumeric, by simp, letter, ?_⟩,
      nameUnreserved noKeyword noType⟩
    exact List.all_eq_true.mp List.all_takeWhile
  | number found => exact numberCanonical found

end Linewise.Lexeme
