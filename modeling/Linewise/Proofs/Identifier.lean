import Linewise.Proofs.Category
import Linewise.Proofs.Names

/-! Which names of the output are identifiers of Python. Python goes by the general category, with a few
characters more that it keeps for the sake of older versions. The names of the source go by the alphabetic and
the numeric characters, and these are not all among them: a mark or a symbol may start a name, and a symbol or
a number that is no digit may go on with it. Every other name is an identifier. -/
namespace Linewise

namespace Python

open Text (category inRanges)

/- The properties `Other_ID_Start` and `Other_ID_Continue` of Unicode 17.0. -/
def otherStartRanges : List (Nat × Nat) :=
  [(0x1885, 0x1886), (0x2118, 0x2118), (0x212e, 0x212e), (0x309b, 0x309c)]

def otherContinueRanges : List (Nat × Nat) :=
  [(0xb7, 0xb7), (0x387, 0x387), (0x1369, 0x1371), (0x19da, 0x19da), (0x200c, 0x200d), (0x30fb, 0x30fb),
    (0xff65, 0xff65)]

def isOtherStart (c : Char) : Bool := inRanges otherStartRanges c.toNat

def isOtherContinue (c : Char) : Bool := inRanges otherContinueRanges c.toNat

def isIdStart (c : Char) : Bool := category c ∈ [.letter, .letterNumber] || isOtherStart c

def isIdContinue (c : Char) : Bool :=
  isIdStart c || category c ∈ [.mark, .digit, .connector] || isOtherContinue c

def isIdentifier (text : List Char) : Bool :=
  match text with
  | [] => false
  | c :: rest => (c == '_' || isIdStart c) && rest.all isIdContinue

theorem idStartIff {c : Char} (letter : Text.isAlphabetic c = true) :
    (c == '_' || isIdStart c) = true ↔ (category c ∈ [.mark, .otherSymbol] → isOtherStart c = true) := by
  have among := Text.alphabeticCategory letter
  have different : (c == '_') = false := by
    rw [beq_eq_false_iff_ne]
    rintro rfl
    exact absurd letter (by decide)
  rw [different, Bool.false_or, isIdStart]
  revert among
  cases category c <;> simp

theorem idContinueIff {c : Char} (word : (Text.isAlphanumeric c || c == '_') = true) :
    isIdContinue c = true ↔
      (category c ∈ [.otherNumber, .otherSymbol] → isOtherStart c = true ∨ isOtherContinue c = true) := by
  have among : category c ∈
      [.letter, .letterNumber, .mark, .otherSymbol, .digit, .otherNumber, .connector] := by
    rcases Bool.or_eq_true_iff.mp word with inside | underscore
    · exact List.mem_append_left [.connector] (Text.alphanumericCategory inside)
    · rw [beq_iff_eq.mp underscore]
      decide +kernel
  rw [isIdContinue, isIdStart]
  revert among
  cases category c <;> simp

theorem identifierIff {text : List Char} (named : isName text = true) :
    ∃ c rest, text = c :: rest ∧
      category c ∈ [.letter, .letterNumber, .mark, .otherSymbol] ∧
      (∀ x ∈ rest, x = '_' ∨
        category x ∈ [.letter, .letterNumber, .mark, .otherSymbol, .digit, .otherNumber]) ∧
      (isIdentifier text = true ↔
        (category c ∈ [.mark, .otherSymbol] → isOtherStart c = true) ∧
        ∀ x ∈ rest, category x ∈ [.otherNumber, .otherSymbol] →
          isOtherStart x = true ∨ isOtherContinue x = true) := by
  cases text with
  | nil => cases named
  | cons c rest =>
    simp only [isName, Bool.and_eq_true, List.all_eq_true] at named
    obtain ⟨⟨letter, word⟩, _⟩ := named
    refine ⟨c, rest, rfl, Text.alphabeticCategory letter, ?_, ?_⟩
    · intro x member
      rcases Bool.or_eq_true_iff.mp (word x member) with inside | underscore
      · exact .inr (Text.alphanumericCategory inside)
      · exact .inl (beq_iff_eq.mp underscore)
    · rw [isIdentifier, Bool.and_eq_true, idStartIff letter, List.all_eq_true]
      exact and_congr_right fun _ => forall₂_congr fun x member => idContinueIff (word x member)

end Python

open Python Text in
theorem writtenIdentifiers {options : Options} {source text : String} {summary : Summary}
    (ok : compileText options source = .ok (text, summary)) :
    ∃ tokens lines,
      (Scanner.tokens.runFrom (.ofSource options.rule source)).1 = .ok tokens ∧
      Python.read? text = some lines ∧
      lines.flatMap Line.names = (tokens.filterMap Token.name?).map Target.safeName ∧
      ∀ name ∈ lines.flatMap Line.names,
        ∃ c rest, name.toList = c :: rest ∧
          category c ∈ [.letter, .letterNumber, .mark, .otherSymbol] ∧
          (∀ x ∈ rest, x = '_' ∨
            category x ∈ [.letter, .letterNumber, .mark, .otherSymbol, .digit, .otherNumber]) ∧
          (isIdentifier name.toList = true ↔
            (category c ∈ [.mark, .otherSymbol] → isOtherStart c = true) ∧
            ∀ x ∈ rest, category x ∈ [.otherNumber, .otherSymbol] →
              isOtherStart x = true ∨ isOtherContinue x = true) := by
  obtain ⟨tokens, lines, read, inFragment, written, lawful⟩ := writtenNames ok
  refine ⟨tokens, lines, read, inFragment, written, ?_⟩
  rw [written]
  intro name member
  obtain ⟨named, inside, rfl⟩ := List.mem_map.mp member
  exact identifierIff (Target.safeNameIsName (lawful named inside))

def Grammar.foreignFile : Grammar.File where
  startPos := {}
  statements :=
    [.declaration .int ⟨1, 1⟩ "é٣" ⟨1, 5⟩, .assignment "if" ⟨1, 8⟩ ⟨1, 11⟩ (.name "é٣" ⟨1, 13⟩)]
  endPos := ⟨1, 15⟩

open Python in
theorem writtenIdentifiersSample :
    ∃ text summary lines,
      compileText {} "int é٣ if = é٣" = .ok (text, summary) ∧
      Python.read? text = some lines ∧
      lines.flatMap Line.names = ["é٣", "if_", "é٣"] ∧
      isIdentifier "é٣".toList = true ∧ isIdentifier "if_".toList = true := by
  have scanned : (Scanner.tokens.runFrom (.ofSource .whole "int é٣ if = é٣")).1 =
      .ok Grammar.foreignFile.tokens := (Scanner.tokensOkIff _ _).mpr (by decide +kernel)
  obtain ⟨summary, compiled⟩ := compileTextFile {} scanned
  obtain ⟨tokens, lines, read, inFragment, written, valid⟩ := writtenIdentifiers compiled
  obtain rfl : tokens = Grammar.foreignFile.tokens := Except.ok.inj (read.symm.trans scanned)
  have names : lines.flatMap Line.names = ["é٣", "if_", "é٣"] := written.trans (by decide +kernel)
  refine ⟨_, summary, lines, compiled, inFragment, names, ?_, ?_⟩
  · obtain ⟨c, rest, same, _, _, iff⟩ := valid "é٣" (by simp [names])
    cases same
    exact iff.mpr ⟨by decide +kernel, List.forall_mem_singleton.mpr (by decide +kernel)⟩
  · obtain ⟨c, rest, same, _, _, iff⟩ := valid "if_" (by simp [names])
    cases same
    refine iff.mpr ⟨by decide +kernel, ?_⟩
    exact List.forall_mem_cons.mpr ⟨by decide +kernel, List.forall_mem_singleton.mpr (by decide +kernel)⟩

def Grammar.raisedFile : Grammar.File where
  startPos := {}
  statements := [.declaration .int ⟨1, 1⟩ "x²" ⟨1, 5⟩]
  endPos := ⟨1, 7⟩

/- A raised digit is a number and no digit. -/
open Python in
theorem raisedWritten :
    ∃ text summary lines,
      compileText {} "int x²" = .ok (text, summary) ∧
      (Text.lines text)[1]? = some "x² = 0  # declare x²: int" ∧
      Python.read? text = some lines ∧ lines.flatMap Line.names = ["x²"] ∧
      Text.category '²' = .otherNumber ∧ isIdentifier "x²".toList = false := by
  have scanned : (Scanner.tokens.runFrom (.ofSource .whole "int x²")).1 =
      .ok Grammar.raisedFile.tokens := (Scanner.tokensOkIff _ _).mpr (by decide +kernel)
  obtain ⟨summary, compiled⟩ := compileTextFile {} scanned
  obtain ⟨tokens, lines, read, inFragment, written, _⟩ := writtenNames compiled
  obtain rfl : tokens = Grammar.raisedFile.tokens := Except.ok.inj (read.symm.trans scanned)
  exact ⟨_, summary, lines, compiled, by decide +kernel, inFragment, written.trans (by decide +kernel),
    by decide +kernel, by decide +kernel⟩

end Linewise
