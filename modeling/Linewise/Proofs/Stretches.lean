import Linewise.Proofs.Boundary
import Linewise.Text.Lines

/-! A text falls into stretches, one for each token. What matters of them, blanks left out, does not depend on
what is beyond the next blank: a text cut in two at a blank has the same tokens at the same places as its two
parts have. So the tokens of a source are those of its lines, each read on its own. -/
namespace Linewise

namespace Position

theorem advanceLine (p : Position) {text : List Char} (free : '\n' ∉ text) :
    p.advance text = ⟨p.line, p.column + text.length⟩ := by
  induction text generalizing p with
  | nil => rfl
  | cons c rest ih =>
    obtain ⟨other, free⟩ := List.ne_and_not_mem_of_not_mem_cons free
    have first : p.advance (c :: rest) = (p.step c).advance rest := rfl
    rw [first, ih _ free, step, if_neg other.symm, List.length_cons]
    simp only [Position.mk.injEq, true_and]
    omega

end Position

theorem freeParts {text : List Char} (free : '\n' ∉ text) (count : Nat) :
    '\n' ∉ text.take count ∧ '\n' ∉ text.drop count :=
  ⟨fun member => free (List.mem_of_mem_take member), fun member => free (List.mem_of_mem_drop member)⟩

structure Stretch where
  token : Token
  text : List Char
  deriving DecidableEq, Repr

namespace Stretch

def isSolid (stretch : Stretch) : Bool := stretch.token.kind ≠ .blank

section
variable {lexeme : Lexeme} (pos : Position) (text : List Char) (later : List Stretch)

theorem filterSolid (other : lexeme.kind ≠ .blank) :
    (⟨⟨lexeme, pos⟩, text⟩ :: later : List Stretch).filter isSolid =
      ⟨⟨lexeme, pos⟩, text⟩ :: later.filter isSolid :=
  List.filter_cons_of_pos (decide_eq_true other)

theorem filterBlank (blank : lexeme.kind = .blank) :
    (⟨⟨lexeme, pos⟩, text⟩ :: later : List Stretch).filter isSolid = later.filter isSolid :=
  List.filter_cons_of_neg fun solid => absurd blank (of_decide_eq_true solid)

end

inductive Cuts (rule : WordRule) : Position → List Char → List Stretch → Prop where
  | none (pos : Position) : Cuts rule pos [] []
  | more {pos : Position} {text : List Char} {lexeme : Lexeme} {count : Nat} {later : List Stretch}
      (found : Lexeme.ofText? rule text = some (lexeme, count))
      (rest : Cuts rule (pos.advance (text.take count)) (text.drop count) later) :
      Cuts rule pos text (⟨⟨lexeme, pos⟩, text.take count⟩ :: later)

inductive Marks (rule : WordRule) : Position → List Char → List Stretch → Prop where
  | none (pos : Position) : Marks rule pos [] []
  | blank {pos : Position} {c : Char} {text : List Char} {marks : List Stretch}
      (blank : Lexeme.isBlank c = true) (rest : Marks rule (pos.step c) text marks) :
      Marks rule pos (c :: text) marks
  | solid {pos : Position} {text : List Char} {lexeme : Lexeme} {count : Nat} {later : List Stretch}
      (found : Lexeme.ofText? rule text = some (lexeme, count)) (other : lexeme.kind ≠ .blank)
      (rest : Marks rule (pos.advance (text.take count)) (text.drop count) later) :
      Marks rule pos text (⟨⟨lexeme, pos⟩, text.take count⟩ :: later)

section
variable {rule : WordRule} {pos : Position} {text : List Char} {stretches marks : List Stretch}

theorem cutsText (cuts : Cuts rule pos text stretches) : stretches.flatMap Stretch.text = text := by
  induction cuts with
  | none => rfl
  | more found rest ih => rw [List.flatMap_cons, ih, List.take_append_drop]

theorem cutsPlace (cuts : Cuts rule pos text stretches) {front back : List Stretch} {stretch : Stretch}
    (same : stretches = front ++ stretch :: back) :
    stretch.token.pos = pos.advance (front.flatMap Stretch.text) := by
  induction cuts generalizing front with
  | none => simp at same
  | more found rest ih =>
    cases front with
    | nil =>
      cases same
      rfl
    | cons first front =>
      cases same
      rw [List.flatMap_cons, Position.advanceAppend]
      exact ih rfl

theorem cutsCovers (cuts : Cuts rule pos text stretches) :
    ∀ stretch ∈ stretches, stretch.token.lexeme.Covers stretch.text := by
  induction cuts with
  | none => simp
  | more found rest ih =>
    exact List.forall_mem_cons.mpr ⟨Lexeme.beginsCovers (Lexeme.ofTextBegins found), ih⟩

theorem blankRun {lexeme : Lexeme} {count : Nat} (found : Lexeme.ofText? rule text = some (lexeme, count))
    (blank : lexeme.kind = .blank) : count = (text.takeWhile Lexeme.isBlank).length := by
  cases Lexeme.ofTextBegins found with
  | blank => rfl
  | symbol | keyword | typeName | name | number => cases blank

theorem blankTake {lexeme : Lexeme} {count : Nat} (found : Lexeme.ofText? rule text = some (lexeme, count))
    (blank : lexeme.kind = .blank) : text.take count = text.takeWhile Lexeme.isBlank := by
  rw [blankRun found blank]
  exact Lexeme.takePrefix (List.takeWhile_prefix _)

theorem marksBlanks {blanks : List Char} (all : ∀ c ∈ blanks, Lexeme.isBlank c = true)
    (rest : Marks rule (pos.advance blanks) text marks) : Marks rule pos (blanks ++ text) marks := by
  induction blanks generalizing pos with
  | nil => exact rest
  | cons c later ih =>
    obtain ⟨first, others⟩ := List.forall_mem_cons.mp all
    exact .blank first (ih others rest)

theorem cutsMarks (cuts : Cuts rule pos text stretches) : Marks rule pos text (stretches.filter isSolid) := by
  induction cuts with
  | none pos => exact .none pos
  | @more pos text lexeme count later found rest ih =>
    by_cases blank : lexeme.kind = .blank
    · rw [filterBlank _ _ _ blank, ← List.take_append_drop count text]
      refine marksBlanks ?_ ih
      intro c member
      rw [blankTake found blank] at member
      exact List.mem_takeWhile_imp member
    · rw [filterSolid _ _ _ blank]
      exact .solid found blank ih

theorem cutsSkip (cuts : Cuts rule pos text stretches) :
    ∃ later, Cuts rule (pos.advance (text.takeWhile Lexeme.isBlank)) (text.dropWhile Lexeme.isBlank) later ∧
      later.filter isSolid = stretches.filter isSolid := by
  cases cuts with
  | none => exact ⟨[], .none _, rfl⟩
  | @more _ _ lexeme count later found rest =>
    by_cases blank : lexeme.kind = .blank
    · rw [filterBlank _ _ _ blank]
      rw [blankTake found blank, blankRun found blank, Lexeme.dropTakeWhile] at rest
      exact ⟨later, rest, rfl⟩
    · have solid := (Lexeme.solidHead found blank).2
      rw [← Lexeme.dropTakeWhile, solid]
      exact ⟨_, .more found rest, rfl⟩

theorem cutsBlank {c : Char} (blank : Lexeme.isBlank c = true)
    (cuts : Cuts rule (pos.step c) text stretches) :
    ∃ all, Cuts rule pos (c :: text) all ∧ all.filter isSolid = stretches.filter isSolid := by
  obtain ⟨later, rest, same⟩ := cutsSkip cuts
  have run := List.takeWhile_cons_of_pos (l := text) blank
  have found : Lexeme.ofText? rule (c :: text) =
      some (.blank (String.ofList ((c :: text).takeWhile Lexeme.isBlank)),
        ((c :: text).takeWhile Lexeme.isBlank).length) := by
    simp only [Lexeme.ofText?, Lexeme.blank?, run]
    rfl
  refine ⟨_, .more found ?_, same⟩
  rw [blankTake found rfl, Lexeme.dropTakeWhile, run, List.dropWhile_cons_of_pos blank]
  exact rest

theorem marksCuts (held : Marks rule pos text marks) :
    ∃ stretches, Cuts rule pos text stretches ∧ stretches.filter isSolid = marks := by
  induction held with
  | none pos => exact ⟨[], .none pos, rfl⟩
  | blank blank rest ih =>
    obtain ⟨stretches, cuts, same⟩ := ih
    obtain ⟨all, whole, kept⟩ := cutsBlank blank cuts
    exact ⟨all, whole, kept.trans same⟩
  | solid found other rest ih =>
    obtain ⟨stretches, cuts, same⟩ := ih
    refine ⟨_, .more found cuts, ?_⟩
    rw [filterSolid _ _ _ other, same]

theorem marksSplit {line rest : List Char} {b : Char} (blank : Lexeme.isBlank b = true)
    (held : Marks rule pos (line ++ b :: rest) marks) :
    ∃ front back, marks = front ++ back ∧ Marks rule pos line front ∧
      Marks rule (pos.advance (line ++ [b])) rest back := by
  generalize whole : line ++ b :: rest = text at held
  induction held generalizing line with
  | none => simp at whole
  | @blank pos c text marks first later ih =>
    cases line with
    | nil =>
      cases whole
      exact ⟨[], marks, rfl, .none pos, later⟩
    | cons d line =>
      cases whole
      obtain ⟨front, back, rfl, left, right⟩ := ih rfl
      exact ⟨front, back, rfl, .blank first left, right⟩
  | @solid pos text lexeme count marks found other later ih =>
    subst whole
    obtain ⟨c, line, rfl⟩ : ∃ c tail, line = c :: tail := by
      apply List.exists_cons_of_ne_nil
      rintro rfl
      simpa [blank] using (Lexeme.solidHead found other).2
    have solid : (c :: line).takeWhile Lexeme.isBlank = [] := by
      have head := (Lexeme.solidHead found other).2
      rw [List.cons_append] at head
      cases first : Lexeme.isBlank c <;> simp [first] at head ⊢
    have alone := found
    rw [Lexeme.solidAppend rule (List.cons_ne_nil c line) solid blank] at alone
    have within := (Lexeme.beginsLength (Lexeme.ofTextBegins alone)).2
    have taken : ((c :: line) ++ b :: rest).take count = (c :: line).take count :=
      List.take_append_of_le_length within
    obtain ⟨front, back, rfl, left, right⟩ := ih (List.drop_append_of_le_length within).symm
    rw [taken] at left right ⊢
    refine ⟨_ :: front, back, rfl, .solid alone other left, ?_⟩
    rw [← Position.advanceAppend, ← List.append_assoc, List.take_append_drop] at right
    exact right

theorem marksLine (free : '\n' ∉ text) (held : Marks rule pos text marks) :
    ∀ mark ∈ marks, mark.token.pos.line = pos.line := by
  induction held with
  | none => simp
  | @blank pos c text marks blank rest ih =>
    obtain ⟨other, free⟩ := List.ne_and_not_mem_of_not_mem_cons free
    have same : (pos.step c).line = pos.line := by simp [Position.step, other.symm]
    rw [← same]
    exact ih free
  | @solid pos text lexeme count marks found other rest ih =>
    obtain ⟨taken, behind⟩ := freeParts free count
    rw [Position.advanceLine pos taken] at ih
    exact List.forall_mem_cons.mpr ⟨rfl, ih behind⟩

def onLine (number : Nat) (stretch : Stretch) : Stretch :=
  { stretch with token.pos.line := number }

theorem marksOnLine (number : Nat) (free : '\n' ∉ text) (held : Marks rule pos text marks) :
    Marks rule ⟨number, pos.column⟩ text (marks.map (onLine number)) := by
  induction held with
  | none => exact .none _
  | @blank pos c text marks blank rest ih =>
    obtain ⟨other, free⟩ := List.ne_and_not_mem_of_not_mem_cons free
    apply Marks.blank blank
    simp only [Position.step, if_neg other.symm] at ih ⊢
    exact ih free
  | @solid pos text lexeme count marks found other rest ih =>
    obtain ⟨taken, behind⟩ := freeParts free count
    apply Marks.solid found other
    simp only [Position.advanceLine _ taken] at ih ⊢
    exact ih behind

inductive Lined (rule : WordRule) : Nat → List (List Char) → List Stretch → Prop where
  | none (number : Nat) : Lined rule number [] []
  | more {number : Nat} {line : List Char} {lines : List (List Char)} {front back : List Stretch}
      (free : '\n' ∉ line) (held : Marks rule ⟨number, 1⟩ line front)
      (rest : Lined rule (number + 1) lines back) : Lined rule number (line :: lines) (front ++ back)

theorem marksNone (held : Marks rule pos [] marks) : marks = [] := by
  cases held with
  | none => rfl
  | solid found other => exact absurd rfl (Lexeme.solidHead found other).1

theorem dropReturnMarks {reversed : List Char} (held : Marks rule pos reversed.reverse marks) :
    Marks rule pos (Text.dropReturn reversed).reverse marks := by
  unfold Text.dropReturn
  split
  · rename_i rest
    rw [List.reverse_cons] at held
    obtain ⟨front, back, rfl, left, right⟩ := marksSplit rfl held
    rwa [marksNone right, List.append_nil]
  · exact held

theorem dropReturnFree {reversed : List Char} (free : '\n' ∉ reversed) :
    '\n' ∉ (Text.dropReturn reversed).reverse := by
  unfold Text.dropReturn
  split
  · simpa using free
  · simpa using free

/- The line so far and the text after it are read together; at each newline the two part. -/
theorem linesLined {number : Nat} {reversed : List Char} (free : '\n' ∉ reversed)
    (held : Marks rule ⟨number, 1⟩ (reversed.reverse ++ text) marks) :
    Lined rule number (Text.linesFrom reversed text) marks := by
  induction text generalizing number reversed marks with
  | nil =>
    unfold Text.linesFrom
    rw [List.append_nil] at held
    split
    · rename_i empty
      cases List.isEmpty_iff.mp empty
      rw [marksNone held]
      exact .none number
    · rw [← List.append_nil marks]
      exact .more (by simpa using free) held (.none _)
  | cons c rest ih =>
    unfold Text.linesFrom
    split
    · rename_i newline
      subst newline
      obtain ⟨front, back, rfl, left, right⟩ := marksSplit rfl held
      have line : '\n' ∉ reversed.reverse := by simpa using free
      rw [Position.advanceAppend, Position.advanceLine _ line] at right
      exact .more (dropReturnFree free) (dropReturnMarks left) (ih List.not_mem_nil right)
    · rename_i other
      refine ih ?_ ?_
      · simpa using ⟨Ne.symm other, free⟩
      · simpa using held

theorem linedWithin {number : Nat} {lines : List (List Char)} (lined : Lined rule number lines marks) :
    ∀ mark ∈ marks, number ≤ mark.token.pos.line ∧ mark.token.pos.line < number + lines.length := by
  induction lined with
  | none => simp
  | @more number line lines front back free held rest ih =>
    intro mark member
    rw [List.length_cons]
    rcases List.mem_append.mp member with here | later
    · have same := marksLine free held mark here
      simp only at same
      omega
    · have within := ih mark later
      omega

theorem linedAt {number index : Nat} {lines : List (List Char)} {line : List Char}
    (lined : Lined rule number lines marks) (located : lines[index]? = some line) :
    '\n' ∉ line ∧ Marks rule ⟨number + index, 1⟩ line
      (marks.filter fun mark => mark.token.pos.line = number + index) := by
  induction lined generalizing index with
  | none => simp at located
  | @more number first lines front back free held rest ih =>
    have here := marksLine free held
    have later := linedWithin rest
    rw [List.filter_append]
    cases index with
    | zero =>
      cases located
      have kept : front.filter (fun mark => mark.token.pos.line = number + 0) = front :=
        List.filter_eq_self.mpr fun mark member => decide_eq_true (here mark member)
      have none : back.filter (fun mark => mark.token.pos.line = number + 0) = [] := by
        refine List.filter_eq_nil_iff.mpr fun mark member => ?_
        have beyond := later mark member
        simp only [decide_eq_true_eq]
        omega
      rw [kept, none, List.append_nil]
      exact ⟨free, held⟩
    | succ index =>
      have none : front.filter (fun mark => mark.token.pos.line = number + (index + 1)) = [] := by
        refine List.filter_eq_nil_iff.mpr fun mark member => ?_
        have before := here mark member
        simp only [decide_eq_true_eq] at before ⊢
        omega
      have number_eq : number + (index + 1) = number + 1 + index := by omega
      rw [none, List.nil_append, number_eq]
      exact ih located

end

section
open Scanner

theorem cutsReads {rule : WordRule} {pos : Position} {text : List Char} {stretches : List Stretch}
    (cuts : Cuts rule pos text stretches) {scanner : Scanner} (started : scanner.started = true)
    (ruled : scanner.rule = rule) (place : scanner.pos = pos) (left : scanner.rest = text) :
    Reads scan scanner (stretches.map Stretch.token ++ [⟨.streamEnd, pos.advance text⟩]) none := by
  induction cuts generalizing scanner with
  | none pos =>
    have last := scanEnd started left
    rw [place] at last
    exact .last last rfl
  | @more pos text lexeme count later found rest ih =>
    subst ruled place left
    have reads := @ih (scanner.skip count) started rfl rfl rfl
    rw [← Position.advanceAppend, List.take_append_drop] at reads
    have goesOn : Token.isStreamEnd ⟨lexeme, scanner.pos⟩ = false := by
      cases Lexeme.ofTextBegins found <;> rfl
    exact .more (scanLexeme started found) goesOn reads

theorem readsCuts {scanner : Scanner} {tokens : List Token} {fault : Option LexError}
    (reads : Reads scan scanner tokens fault) (whole : fault = none) (started : scanner.started = true) :
    ∃ stretches, Cuts scanner.rule scanner.pos scanner.rest stretches := by
  induction reads with
  | fault failed => cases whole
  | last found ends =>
    rw [(scansEnd (scanOk found) ends).2]
    exact ⟨[], .none _⟩
  | more found goesOn rest ih =>
    obtain ⟨lexeme, count, read, rfl, rfl⟩ := scanFound found started goesOn
    obtain ⟨stretches, cuts⟩ := ih whole started
    exact ⟨_, .more read cuts⟩

variable {rule : WordRule} {source : String} {stretches : List Stretch}

theorem sourceReadsCuts (cuts : Cuts rule {} source.toList stretches) :
    Reads scan (.ofSource rule source)
      (⟨.streamStart, {}⟩ :: (stretches.map Stretch.token ++ [⟨.streamEnd, .after source.toList⟩])) none := by
  have ending : Position.advance {} source.toList = .after source.toList :=
    Position.afterAdvance [] source.toList
  refine .more (scanSource rule source) rfl ?_
  rw [← ending]
  exact cutsReads cuts rfl rfl rfl rfl

theorem cutsWritten (cuts : Cuts rule {} source.toList stretches) :
    (writtenTokens.runFrom (.ofSource rule source)).1 = .ok (stretches.map Stretch.token) := by
  have kept : (stretches.map Stretch.token).filter isWritten = stretches.map Stretch.token := by
    rw [List.filter_eq_self]
    intro token member
    obtain ⟨stretch, inside, rfl⟩ := List.mem_map.mp member
    have covers := cutsCovers cuts stretch inside
    obtain ⟨⟨lexeme, pos⟩, text⟩ := stretch
    cases lexeme with
    | streamStart | streamEnd => cases covers
    | _ => rfl
  rw [writtenRun (sourceReadsCuts cuts),
    List.filter_cons_of_neg (by simp [isWritten, Token.kind, Lexeme.kind]), List.filter_append, kept]
  simp [isWritten, Token.kind, Lexeme.kind, Delivery.outcome]

theorem cutsTokens (cuts : Cuts rule {} source.toList stretches) :
    (Scanner.tokens.runFrom (.ofSource rule source)).1 =
      .ok (⟨.streamStart, {}⟩ :: (stretches.filter isSolid).map Stretch.token ++
        [⟨.streamEnd, .after source.toList⟩]) := by
  rw [readsTokens (readsSignificant (sourceReadsCuts cuts))]
  have solid : (stretches.map Stretch.token).filter (fun token => token.kind ≠ .blank) =
      (stretches.filter isSolid).map Stretch.token := List.filter_map
  rw [List.filter_cons_of_pos (by simp [Token.kind, Lexeme.kind]), List.filter_append, solid]
  rfl

theorem cutsOrFails (rule : WordRule) (source : String) :
    (∃ stretches, Cuts rule {} source.toList stretches) ∨
      ∃ error, (Scanner.tokens.runFrom (.ofSource rule source)).1 = .error error ∧
        (writtenTokens.runFrom (.ofSource rule source)).1 = .error error := by
  obtain ⟨tokens, fault, reads⟩ := readsAll { Scanner.ofSource rule source with started := true }
  have all := Reads.more (scanSource rule source) rfl reads
  cases fault with
  | some error => exact .inr ⟨error, readsTokens (readsSignificant all), writtenRun all⟩
  | none => exact .inl (readsCuts reads rfl rfl)

end

end Stretch

end Linewise
