import Linewise.Proofs.LongestMatch
import Linewise.Proofs.Names
import Linewise.Proofs.Spelling
import Mathlib.Tactic.Ring

/-! Numbers on the way from a source to their literals. A literal is of the kind that its text in the source
is and stands for the same rational number. It is canonical: Python takes it as that number, and a scanner
reads it back as what it came from. Digits may be as many as they are. -/
namespace Linewise

def numeralValue (text : List Char) : Rat :=
  let whole := text.takeWhile (· ≠ '.')
  let fraction := (text.dropWhile (· ≠ '.')).drop 1
  digitsValue whole + mkRat (digitsValue fraction) (10 ^ fraction.length)

theorem digitsFrom (digits : List Char) (start : Nat) :
    digits.foldl (fun value c => 10 * value + (c.toNat - '0'.toNat)) start =
      start * 10 ^ digits.length + digitsValue digits := by
  induction digits generalizing start with
  | nil => simp [digitsValue]
  | cons c rest ih =>
    have first := ih (10 * 0 + (c.toNat - '0'.toNat))
    rw [digitsValue, List.foldl_cons, List.foldl_cons, ih, first, List.length_cons]
    ring

theorem digitsAppend (left right : List Char) :
    digitsValue (left ++ right) = digitsValue left * 10 ^ right.length + digitsValue right := by
  rw [digitsValue, List.foldl_append]
  exact digitsFrom right (digitsValue left)

theorem decimalSides (whole fraction : List Char) :
    decimalValue whole fraction =
      digitsValue whole + mkRat (digitsValue fraction) (10 ^ fraction.length) := by
  have some : 10 ^ fraction.length ≠ 0 := Nat.ne_of_gt (Nat.pow_pos (by decide))
  have cast : (digitsValue whole : Rat) = mkRat (digitsValue whole) 1 := (Rat.mkRat_one _).symm
  rw [cast, Rat.mkRat_add_mkRat _ _ (by decide) some, decimalValue, digitsAppend]
  simp

theorem digitsTrimmed (text : List Char) : digitsValue (Number.wholeDigits text) = digitsValue text := by
  have dropped : digitsValue (text.dropWhile (· == '0')) = digitsValue text := by
    induction text with
    | nil => rfl
    | cons c rest ih =>
      by_cases zero : c = '0'
      · subst zero
        rw [List.dropWhile_cons_of_pos (by decide), ih]
        rfl
      · rw [List.dropWhile_cons_of_neg (by simpa using zero)]
  unfold Number.wholeDigits
  split
  · rename_i none
    rw [none] at dropped
    exact dropped
  · exact dropped

section
variable {whole : List Char} (digits : Lexeme.AllDigits whole)
include digits

theorem beforeNoPoint : ∀ c ∈ whole, decide (c ≠ '.') = true := by
  intro c member
  apply decide_eq_true
  intro point
  exact Lexeme.noPoint digits (point ▸ member)

theorem wholeValue : numeralValue whole = digitsValue whole := by
  have none : whole.dropWhile (· ≠ '.') = [] := List.dropWhile_eq_nil_iff.mpr (beforeNoPoint digits)
  have all : whole.takeWhile (· ≠ '.') = whole := List.takeWhile_eq_self_iff.mpr (beforeNoPoint digits)
  have nothing : mkRat (digitsValue []) (10 ^ ([] : List Char).length) = 0 := Rat.zero_mkRat _
  simp only [numeralValue, none, all, List.drop_nil, nothing, Rat.add_zero]

theorem pointValue (fraction : List Char) :
    numeralValue (whole ++ '.' :: fraction) =
      digitsValue whole + mkRat (digitsValue fraction) (10 ^ fraction.length) := by
  have before : (whole ++ '.' :: fraction).takeWhile (· ≠ '.') = whole := by
    rw [List.takeWhile_append_of_pos (beforeNoPoint digits), List.takeWhile_cons_of_neg (by simp),
      List.append_nil]
  have after : (whole ++ '.' :: fraction).dropWhile (· ≠ '.') = '.' :: fraction := by
    rw [List.dropWhile_append_of_pos (beforeNoPoint digits), List.dropWhile_cons_of_neg (by simp)]
  simp only [numeralValue, before, after, List.drop_succ_cons, List.drop_zero]

end

theorem ofDecimalValue {whole fraction : List Char} (left : Lexeme.AllDigits whole)
    (right : Lexeme.AllDigits fraction) :
    numeralValue (Number.ofText (String.ofList (whole ++ '.' :: fraction))).literal.toList =
      numeralValue (whole ++ '.' :: fraction) := by
  have zero : Lexeme.AllDigits ['0'] := by simp [Lexeme.AllDigits]
  have filled : Lexeme.AllDigits (if whole = [] then ['0'] else whole) := by
    split
    · exact zero
    · exact left
  rw [Lexeme.ofDecimalPoint left right, Number.literal, String.toList_ofList, pointValue filled,
    pointValue left]
  congr 1
  · cases whole <;> rfl
  · cases fraction with
    | nil => exact (Rat.zero_mkRat _).trans (Rat.zero_mkRat _).symm
    | cons c rest => rfl

theorem ofTextValue {text : List Char} (found : Lexeme.numberText text ≠ []) :
    numeralValue (Number.ofText (String.ofList (Lexeme.numberText text))).literal.toList =
      numeralValue (Lexeme.numberText text) := by
  rcases Lexeme.numberTextShape found with ⟨_, _, digits⟩ | ⟨whole, fraction, _, _, same, left, right, _⟩
  · have canonical := Lexeme.wholeDigitsWhole digits
    simp only [Number.ofText, String.toList_ofList, Lexeme.noPoint digits, if_false, Number.ofWhole,
      Number.literal]
    rw [wholeValue canonical.1, wholeValue digits, digitsTrimmed]
  · rw [same]
    exact ofDecimalValue left right

theorem ofTextKind (text : List Char) :
    (∃ literal, Number.ofText (String.ofList text) = .float literal) ↔ '.' ∈ text := by
  unfold Number.ofText
  rw [String.toList_ofList]
  split
  · rename_i point
    exact ⟨fun _ => point, fun _ => ⟨_, rfl⟩⟩
  · rename_i none
    constructor
    · intro float
      obtain ⟨literal, same⟩ := float
      cases same
    · intro point
      exact absurd point none

namespace Python

def Rhs.quantity? : Rhs → Option Rat
  | .int value => some value
  | .float value => some value
  | .name _ | .falseWord | .emptyText | .inputCall => none

theorem literalQuantity {value : Number} (canonical : Lexeme.IsCanonical value) :
    (Rhs.ofNumber value).quantity? = some (numeralValue value.literal.toList) := by
  cases value with
  | int literal => exact congrArg some (wholeValue canonical.1).symm
  | float literal => exact congrArg some (decimalSides _ _)

end Python

namespace Scanner

theorem literalAlone {value : Number} (canonical : Lexeme.IsCanonical value) (rule : WordRule) :
    (writtenTokens.runFrom (.ofSource rule value.literal)).1 = .ok [⟨.number value, {}⟩] := by
  have none : value.literal.toList.drop value.literal.length = [] := by
    rw [← String.length_toList, List.drop_length]
  have rest : Stretch.Cuts rule (Position.advance {} (value.literal.toList.take value.literal.length))
      (value.literal.toList.drop value.literal.length) [] := by
    rw [none]
    exact .none _
  exact Stretch.cutsWritten (.more (Lexeme.numberRead canonical) rest)

theorem deliveredFound {rule : WordRule} {source : String} {requests : List Request} {token : Token}
    (member : token ∈ delivered requests (.ofSource rule source)) (written : isWritten token = true) :
    ∃ start count, start + count ≤ source.toList.length ∧
      Lexeme.Begins rule (source.toList.drop start) token.lexeme count ∧
      scan.runFrom (standing rule source start) = (.ok token, standing rule source (start + count)) := by
  obtain ⟨raw, trace, inside⟩ := deliveredTrace requests (.ofSource rule source)
  obtain ⟨before, middle, next, reached, found⟩ := traceFound trace (inside token member)
  have place := traceAt (sourceAt rule source) reached
  have kept : middle.rule = rule := traceRule reached
  cases scanOk found with
  | start | finish => cases written
  | lexeme started lexeme count begins =>
    have here : middle = standing rule source middle.offset := by
      obtain ⟨within, rest, pos⟩ := place
      cases middle
      subst kept
      simp_all [standing]
    have within := (Lexeme.beginsLength begins).2
    rw [place.rest, List.length_drop] at within
    have inside := place.within
    rw [kept, place.rest] at begins
    rw [here, standingSkip] at found
    refine ⟨middle.offset, count, by omega, begins, ?_⟩
    rw [place.pos]
    exact found

end Scanner

theorem numbersKept (rule : WordRule) (source : String) (requests : List Scanner.Request) {value : Number}
    {pos : Position}
    (delivered : ⟨.number value, pos⟩ ∈ Scanner.delivered requests (.ofSource rule source)) :
    ∃ start stop,
      let slice := source.toList.extract start stop
      Scanner.scan.runFrom (.standing rule source start) =
        (.ok ⟨.number value, pos⟩, .standing rule source stop) ∧
      start < stop ∧ stop ≤ source.toList.length ∧
      ((∃ literal, value = .float literal) ↔ '.' ∈ slice) ∧
      numeralValue value.literal.toList = numeralValue slice ∧
      Lexeme.IsCanonical value ∧
      Python.Rhs.read? value.literal.toList = some (.ofNumber value) ∧
      (Python.Rhs.ofNumber value).quantity? = some (numeralValue slice) ∧
      ∀ again, (Scanner.writtenTokens.runFrom (.ofSource again value.literal)).1 =
        .ok [⟨.number value, {}⟩] := by
  obtain ⟨start, count, within, begins, found⟩ := Scanner.deliveredFound delivered rfl
  have covered := (Lexeme.beginsLength begins).1
  have canonical : Lexeme.IsCanonical value := Lexeme.beginsLawful begins
  have slice : source.toList.extract start (start + count) = (source.toList.drop start).take count := by
    rw [List.extract_eq_take_drop, Nat.add_sub_cancel_left]
  have same : value = Number.ofText (String.ofList ((source.toList.drop start).take count)) :=
    Lexeme.beginsCovers begins
  have text : (source.toList.drop start).take count = Lexeme.numberText (source.toList.drop start) ∧
      Lexeme.numberText (source.toList.drop start) ≠ [] := by
    cases begins with
    | number some => exact ⟨Lexeme.takePrefix (Lexeme.numberTextPrefix some), some⟩
  have kept : numeralValue value.literal.toList = numeralValue ((source.toList.drop start).take count) := by
    rw [same, text.1]
    exact ofTextValue text.2
  have kind : (∃ literal, value = .float literal) ↔ '.' ∈ (source.toList.drop start).take count := by
    rw [same]
    exact ofTextKind _
  have quantity := Python.literalQuantity canonical
  rw [kept] at quantity
  refine ⟨start, start + count, ?_⟩
  rw [slice]
  exact ⟨found, by omega, within, kind, kept, canonical, Python.numberRead canonical, quantity,
    Scanner.literalAlone canonical⟩

/- Of the two points in a row each belongs to another number. -/
theorem numbersKeptSample :
    let source := "x=007 3..5"
    let whole : Token := ⟨.number (.int "7"), ⟨1, 3⟩⟩
    let half : Token := ⟨.number (.float "0.5"), ⟨1, 9⟩⟩
    (whole ∈ Scanner.delivered [.written] (.ofSource .leading source) ∧
      ∃ start stop,
        Scanner.scan.runFrom (.standing .leading source start) = (.ok whole, .standing .leading source stop) ∧
        '.' ∉ source.toList.extract start stop ∧
        numeralValue "7".toList = numeralValue (source.toList.extract start stop)) ∧
    half ∈ Scanner.delivered [.next, .tokens] (.ofSource .whole source) ∧
      ∃ start stop,
        Scanner.scan.runFrom (.standing .whole source start) = (.ok half, .standing .whole source stop) ∧
        '.' ∈ source.toList.extract start stop ∧
        numeralValue "0.5".toList = numeralValue (source.toList.extract start stop) := by
  intro source whole half
  have wholeDelivered : whole ∈ Scanner.delivered [.written] (.ofSource .leading source) := by decide +kernel
  have halfDelivered : half ∈ Scanner.delivered [.next, .tokens] (.ofSource .whole source) := by
    decide +kernel
  obtain ⟨start, stop, found, _, _, kind, value, _⟩ := numbersKept .leading source _ wholeDelivered
  obtain ⟨start', stop', found', _, _, kind', value', _⟩ := numbersKept .whole source _ halfDelivered
  have noPoint : '.' ∉ source.toList.extract start stop := by
    intro point
    obtain ⟨literal, float⟩ := kind.mpr point
    cases float
  exact ⟨⟨wholeDelivered, start, stop, found, noPoint, value⟩, halfDelivered, start', stop', found',
    kind'.mp ⟨_, rfl⟩, value'⟩

end Linewise
