import Linewise.Proofs.LongestMatch
import Linewise.Proofs.Spelling
import Mathlib.Data.List.Chain

/-! Sources put together from fragments. A fragment is a text that is one token by itself. Written one after
the other, with blanks anywhere between them, fragments are read as the same tokens. Only where one would go
on with the one before it must a blank stand between the two: a word after a word, a number after a number,
and a number after a word unless a point comes first. -/
namespace Linewise

structure Gap where
  text : String
  blank : ∀ c ∈ text.toList, c ∈ [' ', '\t', '\n', '\r']

structure Fragment (rule : WordRule) where
  text : String
  token : Token
  alone : (Scanner.writtenTokens.runFrom (.ofSource rule text)).1 = .ok [token]
  solid : token.kind ≠ .blank

namespace Fragment

variable {rule : WordRule}

def IsWord (fragment : Fragment rule) : Prop := fragment.token.kind ∈ [.keyword, .typeName, .name]

def IsNumber (fragment : Fragment rule) : Prop := fragment.token.kind = .number

def GoesOn (first second : Fragment rule) : Prop :=
  first.IsWord ∧ second.IsWord ∨ first.IsNumber ∧ second.IsNumber ∨
    first.IsWord ∧ second.IsNumber ∧ second.text.toList.head? ≠ some '.'

instance (first second : Fragment rule) : Decidable (first.GoesOn second) :=
  inferInstanceAs (Decidable (_ ∈ _ ∧ _ ∈ _ ∨ _ = _ ∧ _ = _ ∨ _ ∈ _ ∧ _ = _ ∧ _ ≠ _))

end Fragment

structure Piece (rule : WordRule) where
  fragment : Fragment rule
  gap : Gap

namespace Piece

variable {rule : WordRule}

def Apart (first second : Piece rule) : Prop :=
  first.fragment.GoesOn second.fragment → first.gap.text ≠ ""

instance : DecidableRel (@Apart rule) := fun first second =>
  inferInstanceAs (Decidable (first.fragment.GoesOn second.fragment → _ ≠ _))

def written : List (Piece rule) → String
  | [] => ""
  | piece :: rest => piece.fragment.text ++ piece.gap.text ++ written rest

end Piece

namespace Scanner

theorem aloneFound {rule : WordRule} {source : String} {token : Token}
    (alone : (writtenTokens.runFrom (.ofSource rule source)).1 = .ok [token]) :
    Lexeme.ofText? rule source.toList = some (token.lexeme, source.length) := by
  rcases Stretch.cutsOrFails rule source with ⟨stretches, cuts⟩ | ⟨error, _, failed⟩
  · have same := Except.ok.inj ((Stretch.cutsWritten cuts).symm.trans alone)
    obtain ⟨stretch, later, rfl, rfl, none⟩ := List.map_eq_cons_iff.mp same
    obtain rfl := List.map_eq_nil_iff.mp none
    rw [← String.length_toList]
    generalize source.toList = text at cuts ⊢
    cases cuts with
    | @more _ _ lexeme count _ found rest =>
      have within := (Lexeme.beginsLength (Lexeme.ofTextBegins found)).2
      have covered := List.drop_eq_nil_iff.mp (Stretch.cutsText rest).symm
      rw [← Nat.le_antisymm within covered]
      exact found
  · cases alone.symm.trans failed

end Scanner

namespace Fragment

variable {rule : WordRule}

theorem found (fragment : Fragment rule) :
    Lexeme.ofText? rule fragment.text.toList = some (fragment.token.lexeme, fragment.text.length) :=
  Scanner.aloneFound fragment.alone

theorem head (fragment : Fragment rule) :
    ∃ c rest, fragment.text.toList = c :: rest ∧
      (fragment.IsWord ∧ Text.isAlphabetic c = true ∨ fragment.IsNumber ∧ Lexeme.isFigure c = true ∨
        ∃ sign : Symbol, c = sign.char) := by
  have covered := Lexeme.beginsLanguage (Lexeme.ofTextBegins fragment.found)
  rw [← String.length_toList, List.take_length] at covered
  have solid := fragment.solid
  cases kind : fragment.token.kind with
  | streamStart | streamEnd =>
    have kind : fragment.token.lexeme.kind = _ := kind
    rw [kind] at covered
    cases covered
  | blank => exact absurd kind solid
  | symbol =>
    have kind : fragment.token.lexeme.kind = _ := kind
    rw [kind] at covered
    obtain ⟨sign, same⟩ := covered
    exact ⟨sign.char, [], same, .inr (.inr ⟨sign, rfl⟩)⟩
  | keyword | typeName | name =>
    have word : Lexeme.family fragment.token.lexeme.kind = .name := congrArg Lexeme.family kind
    obtain ⟨c, rest, same, letter, _⟩ := Lexeme.languageWord covered word
    exact ⟨c, rest, same, .inl ⟨by simp [IsWord, kind], letter⟩⟩
  | number =>
    have same : fragment.token.lexeme.kind = _ := kind
    rw [same] at covered
    obtain ⟨c, rest, same, figure⟩ := Lexeme.numeralHead covered
    exact ⟨c, rest, same, .inr (.inl ⟨kind, figure⟩)⟩

structure Parts (fragment : Fragment rule) (c : Char) : Prop where
  word : fragment.IsWord → Text.isAlphanumeric c = false
  number : fragment.IsNumber → Lexeme.isFigure c = false

theorem blankParts (fragment : Fragment rule) {c : Char} (blank : Lexeme.isBlank c = true) :
    fragment.Parts c := by
  obtain ⟨noWord, noFigure⟩ := Lexeme.blankBreaks blank
  exact ⟨fun _ => noWord, fun _ => noFigure⟩

theorem signPlain (sign : Symbol) :
    Text.isAlphanumeric sign.char = false ∧ Lexeme.isFigure sign.char = false ∧
      Text.isAlphabetic sign.char = false ∧ Lexeme.isBlank sign.char = false := by
  cases sign <;> decide

theorem letterNoFigure {c : Char} (letter : Text.isAlphabetic c = true) : Lexeme.isFigure c = false := by
  cases figure : Lexeme.isFigure c with
  | false => rfl
  | true => cases (Lexeme.figureNoLetter figure).symm.trans letter

theorem fragmentParts {first second : Fragment rule} (apart : ¬ first.GoesOn second) {c : Char}
    {rest : List Char} (begins : second.text.toList = c :: rest) : first.Parts c := by
  obtain ⟨_, _, same, kinds⟩ := second.head
  cases begins.symm.trans same
  rcases kinds with ⟨word, letter⟩ | ⟨number, figure⟩ | ⟨sign, rfl⟩
  · exact ⟨fun also => absurd (.inl ⟨also, word⟩) apart, fun _ => letterNoFigure letter⟩
  · refine ⟨fun also => ?_, fun also => absurd (.inr (.inl ⟨also, number⟩)) apart⟩
    have point : c = '.' := by
      by_contra other
      exact apart (.inr (.inr ⟨also, number, by simpa [begins] using other⟩))
    rw [point]
    decide
  · exact ⟨fun _ => (signPlain sign).1, fun _ => (signPlain sign).2.1⟩

theorem foundBefore (fragment : Fragment rule) {after : List Char}
    (parts : ∀ c ∈ after.head?, fragment.Parts c) :
    Lexeme.ofText? rule (fragment.text.toList ++ after) =
      some (fragment.token.lexeme, fragment.text.length) := by
  rw [← fragment.found]
  obtain ⟨c, rest, same, kinds⟩ := fragment.head
  obtain ⟨_, solid⟩ := Lexeme.solidHead fragment.found fragment.solid
  rw [same] at solid ⊢
  have noBlank : Lexeme.isBlank c = false := by
    cases blank : Lexeme.isBlank c with
    | false => rfl
    | true => simp [blank] at solid
  apply Lexeme.ofTextAppend rule noBlank
  · intro letter x next
    rcases kinds with ⟨word, _⟩ | ⟨_, figure⟩ | ⟨sign, rfl⟩
    · exact (parts x next).word word
    · cases (Lexeme.figureNoLetter figure).symm.trans letter
    · cases (signPlain sign).2.2.1.symm.trans letter
  · intro figure x next
    rcases kinds with ⟨_, letter⟩ | ⟨number, _⟩ | ⟨sign, rfl⟩
    · cases (letterNoFigure letter).symm.trans figure
    · exact (parts x next).number number
    · cases (signPlain sign).2.1.symm.trans figure

end Fragment

theorem Gap.isBlank (gap : Gap) : ∀ c ∈ gap.text.toList, Lexeme.isBlank c = true := by
  intro c member
  have known := gap.blank c member
  simp only [List.mem_cons, List.not_mem_nil, or_false] at known
  rcases known with rfl | rfl | rfl | rfl <;> rfl

theorem Lexeme.spellsBlanks {rule : WordRule} {run text : List Char} {lexemes : List Lexeme}
    (blank : ∀ c ∈ run, isBlank c = true) (spells : Spells rule text lexemes) :
    Spells rule (run ++ text) lexemes := by
  induction run with
  | nil => exact spells
  | cons c rest ih =>
    obtain ⟨first, later⟩ := List.forall_mem_cons.mp blank
    exact .blank first (ih later)

namespace Piece

variable {rule : WordRule}

theorem writtenParts {piece : Piece rule} {later : List (Piece rule)}
    (apart : (piece :: later).IsChain Apart) :
    ∀ c ∈ (piece.gap.text.toList ++ (written later).toList).head?, piece.fragment.Parts c := by
  intro c next
  cases gap : piece.gap.text.toList with
  | cons first rest =>
    rw [gap] at next
    cases next
    exact piece.fragment.blankParts (piece.gap.isBlank c (by simp [gap]))
  | nil =>
    cases later with
    | nil => simp [gap, written] at next
    | cons second others =>
      have apart := (List.isChain_cons_cons.mp apart).1
      have tight : piece.gap.text = "" := String.toList_inj.mp gap
      obtain ⟨first, rest, same, _⟩ := second.fragment.head
      have known : first = c := by simpa [gap, written, same] using next
      subst known
      exact Fragment.fragmentParts (fun goesOn => apart goesOn tight) same

theorem writtenSpells {pieces : List (Piece rule)} (apart : pieces.IsChain Apart) :
    Lexeme.Spells rule (written pieces).toList (pieces.map fun piece => piece.fragment.token.lexeme) := by
  induction pieces with
  | nil => exact .done
  | cons piece later ih =>
    have found := piece.fragment.foundBefore (writtenParts apart)
    have behind : Lexeme.Spells rule (piece.gap.text.toList ++ (written later).toList)
        (later.map fun piece => piece.fragment.token.lexeme) :=
      Lexeme.spellsBlanks piece.gap.isBlank (ih apart.tail)
    rw [written, String.toList_append, String.toList_append, List.append_assoc]
    refine .lexeme found piece.fragment.solid ?_
    rw [← String.length_toList, List.drop_left]
    exact behind

end Piece

theorem fragmentsRead {rule : WordRule} (lead : Gap) (pieces : List (Piece rule))
    (apart : pieces.IsChain Piece.Apart) :
    ∃ tokens,
      (Scanner.tokens.runFrom (.ofSource rule (lead.text ++ Piece.written pieces))).1 = .ok tokens ∧
      tokens.map Token.lexeme =
        .streamStart :: pieces.map (fun piece => piece.fragment.token.lexeme) ++ [.streamEnd] := by
  apply Scanner.spellsTokens
  rw [String.toList_append]
  exact Lexeme.spellsBlanks lead.isBlank (Piece.writtenSpells apart)

def sampleName : Fragment .leading := ⟨"in", ⟨.name "in", {}⟩, rfl, by decide⟩

def sampleType : Fragment .leading := ⟨"int", ⟨.typeName .int, {}⟩, rfl, by decide⟩

def sampleHalf : Fragment .leading := ⟨".5", ⟨.number (.float "0.5"), {}⟩, rfl, by decide⟩

def sampleSign : Fragment .leading := ⟨"=", ⟨.symbol .equals, {}⟩, rfl, by decide⟩

def tightGap : Gap := ⟨"", by simp⟩

def wideGap : Gap := ⟨"\r\n", by simp⟩

/- Numbers with a point in front and signs need no blanks, and words of one run of letters do. -/
theorem fragmentsReadSample :
    let pieces : List (Piece .leading) := [⟨sampleType, wideGap⟩, ⟨sampleName, tightGap⟩,
      ⟨sampleHalf, tightGap⟩, ⟨sampleSign, tightGap⟩, ⟨sampleType, tightGap⟩]
    pieces.IsChain Piece.Apart ∧ Piece.written pieces = "int\r\nin.5=int" ∧
    ∃ tokens, (Scanner.tokens.runFrom (.ofSource .leading ("" ++ Piece.written pieces))).1 = .ok tokens ∧
      tokens.map Token.lexeme = [.streamStart, .typeName .int, .name "in", .number (.float "0.5"),
        .symbol .equals, .typeName .int, .streamEnd] := by
  intro pieces
  have apart : pieces.IsChain Piece.Apart := by decide
  exact ⟨apart, by decide, fragmentsRead tightGap pieces apart⟩

end Linewise
