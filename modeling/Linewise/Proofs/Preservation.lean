import Linewise.Proofs.Python
import Linewise.Proofs.Rendering

/-! The output means what the program means. Line by line it reads back as the statement that it was
rendered from, whatever comments the line carries; and the line does to the state of a run what the
statement does, with names changed where Python reserves them. -/
namespace Linewise

open Target (safeName initialValue reservedWords headerText)
open Program (Operand Statement)

namespace Target

theorem wordNoUnderscore {name : String} (lawful : (Lexeme.name name).Lawful) : '_' ∉ name.toList :=
  Lexeme.wordFree lawful.1 (by decide)

theorem reservedNoUnderscore {name : String} (member : name ∈ reservedWords) : '_' ∉ name.toList := by
  have all : ∀ word ∈ reservedWords, '_' ∉ word.toList := by decide
  exact all name member

theorem safeNameCases (name : String) :
    (name ∈ reservedWords ∧ safeName name = name ++ "_") ∨
      (name ∉ reservedWords ∧ safeName name = name) := by
  unfold safeName
  split
  · exact .inl ⟨by assumption, rfl⟩
  · exact .inr ⟨by assumption, rfl⟩

theorem safeNameUnreserved (name : String) : safeName name ∉ reservedWords := by
  rcases safeNameCases name with ⟨_, same⟩ | ⟨free, same⟩
  · rw [same]
    intro member
    exact reservedNoUnderscore member (by simp)
  · rw [same]
    exact free

theorem safeNameInjective {a b : String} (lawful : (Lexeme.name a).Lawful)
    (lawful' : (Lexeme.name b).Lawful) (same : safeName a = safeName b) : a = b := by
  rcases safeNameCases a with ⟨_, left⟩ | ⟨_, left⟩ <;>
    rcases safeNameCases b with ⟨_, right⟩ | ⟨_, right⟩ <;> rw [left, right] at same
  · simpa [← String.toList_inj] using same
  · exact absurd (by simp [← same]) (wordNoUnderscore lawful')
  · exact absurd (by simp [same]) (wordNoUnderscore lawful)
  · exact same

theorem safeNameNotBuiltin {name : String} (lawful : (Lexeme.name name).Lawful) :
    Python.builtin? (safeName name) = none := by
  have different (word : String) (reserved : word ∈ Lexeme.reservedTexts)
      (plain : '_' ∉ word.toList) : safeName name ≠ word := by
    rintro rfl
    rcases safeNameCases name with ⟨_, same⟩ | ⟨_, same⟩
    · exact plain (by simp [same])
    · exact lawful.2 (same ▸ reserved)
  simp only [Python.builtin?, different "print" (by decide) (by decide),
    different "input" (by decide) (by decide), if_false]

theorem safeNameIsName {name : String} (lawful : (Lexeme.name name).Lawful) :
    Python.isName (safeName name).toList = true := by
  have free := safeNameUnreserved name
  obtain ⟨⟨c, rest, text, letter, alphanumeric⟩, _⟩ := lawful
  have word : (rest.all fun x => Text.isAlphanumeric x || x == '_') = true := by
    simp only [List.all_eq_true]
    intro x member
    simp [alphanumeric x member]
  rcases safeNameCases name with ⟨_, same⟩ | ⟨_, same⟩
  · have split : (safeName name).toList = c :: (rest ++ ['_']) := by simp [same, text]
    rw [split, Python.isName, ← split, String.ofList_toList]
    simp [letter, word, free]
  · have split : (safeName name).toList = c :: rest := by simp [same, text]
    rw [split, Python.isName, ← split, String.ofList_toList]
    simp [letter, word, free]

end Target

namespace Python

theorem nameRead {text : List Char} (named : isName text = true) :
    Rhs.read? text = some (.name (String.ofList text)) := by
  have different (other : List Char) (unnamed : isName other = false) : text ≠ other := by
    rintro rfl
    simp [unnamed] at named
  simp only [Rhs.read?, different "input()".toList (by decide), different "False".toList (by decide),
    different "\"\"".toList (by decide), if_false, named, if_true]

theorem digitNoName {c : Char} {rest : List Char} (digit : c.isDigit = true) :
    isName (c :: rest) = false := by
  simp [isName, Lexeme.digitNotAlphabetic digit]

theorem readDigit {c : Char} {rest : List Char} (digit : c.isDigit = true) :
    Rhs.read? (c :: rest) = (readWhole? (c :: rest)).or (readFloat? (c :: rest)) := by
  have different (first : Char) (more : List Char) (noDigit : first.isDigit = false) :
      c :: rest ≠ first :: more := by
    intro same
    cases same
    simp [noDigit] at digit
  have call : c :: rest ≠ "input()".toList := different 'i' _ (by decide)
  have word : c :: rest ≠ "False".toList := different 'F' _ (by decide)
  have quote : c :: rest ≠ "\"\"".toList := different '"' _ (by decide)
  simp only [Rhs.read?, if_neg call, if_neg word, if_neg quote, digitNoName digit, Bool.false_eq_true,
    if_false]

theorem wholeRead {text : List Char} (whole : Lexeme.IsWhole text) :
    Rhs.read? text = some (.int (digitsValue text)) := by
  obtain ⟨digits, shape⟩ := whole
  have all : text.all Char.isDigit = true := List.all_eq_true.mpr digits
  obtain ⟨c, rest, same, spelled⟩ : ∃ c rest, text = c :: rest ∧
      (text.head? ≠ some '0' ∨ text.all (· == '0') = true) := by
    rcases shape with rfl | ⟨c, rest, rfl, notZero⟩
    · exact ⟨_, _, rfl, .inr rfl⟩
    · exact ⟨c, rest, rfl, .inl (by simpa using notZero)⟩
  have nonempty : text ≠ [] := by simp [same]
  have first : c.isDigit = true := digits c (by simp [same])
  have read : readWhole? text = some (.int (digitsValue text)) := if_pos ⟨nonempty, all, spelled⟩
  rw [same] at read ⊢
  rw [readDigit first, read]
  rfl

theorem decimalRead {whole fraction : List Char} (nonempty : whole ≠ []) (left : Lexeme.AllDigits whole)
    (right : Lexeme.AllDigits fraction) :
    Rhs.read? (whole ++ '.' :: fraction) = some (.float (decimalValue whole fraction)) := by
  have point : Char.isDigit '.' = false := by decide
  have before : (whole ++ '.' :: fraction).takeWhile Char.isDigit = whole := by
    rw [List.takeWhile_append_of_pos left, List.takeWhile_cons_of_neg (by simp [point]), List.append_nil]
  have after : (whole ++ '.' :: fraction).dropWhile Char.isDigit = '.' :: fraction := by
    rw [List.dropWhile_append_of_pos left, List.dropWhile_cons_of_neg (by simp [point])]
  have notWhole : readWhole? (whole ++ '.' :: fraction) = none := by
    apply if_neg
    rintro ⟨_, all, _⟩
    simp [point] at all
  have read : readFloat? (whole ++ '.' :: fraction) = some (.float (decimalValue whole fraction)) := by
    simp only [readFloat?, before, after]
    exact if_pos ⟨List.all_eq_true.mpr right, .inl nonempty⟩
  obtain ⟨c, rest, rfl⟩ := List.exists_cons_of_ne_nil nonempty
  rw [List.cons_append] at notWhole read ⊢
  rw [readDigit (left c (by simp)), notWhole, read]
  rfl

def Rhs.ofNumber : Number → Rhs
  | .int literal => .int (digitsValue literal.toList)
  | .float literal =>
    .float (decimalValue (literal.toList.takeWhile (· ≠ '.'))
      ((literal.toList.dropWhile (· ≠ '.')).drop 1))

def Rhs.ofInitial : DeclaredType → Rhs
  | .boolean => .falseWord
  | .char | .string => .emptyText
  | .int => .int 0
  | .float => .float (mkRat 0 1)

def Rhs.ofOperand : Operand → Rhs
  | .input => .inputCall
  | .name text _ => .name (safeName text)
  | .number value => .ofNumber value

def Line.ofStatement : Statement → Line
  | .print value => .print (.ofOperand value)
  | .input => .input
  | .declaration type name _ => .assign (safeName name) (.ofInitial type)
  | .assignment name _ value => .assign (safeName name) (.ofOperand value)

theorem numberRead {value : Number} (canonical : Lexeme.IsCanonical value) :
    Rhs.read? value.literal.toList = some (.ofNumber value) := by
  cases value with
  | int literal => exact wholeRead canonical
  | float literal =>
    obtain ⟨whole, fraction, same, nonempty, _, left, right⟩ := canonical
    have noPoint : ∀ c ∈ whole, (c ≠ '.' : Bool) = true := by
      intro c member
      have digit := left c member
      simp only [decide_eq_true_eq]
      rintro rfl
      simp at digit
    have before : (whole ++ '.' :: fraction).takeWhile (fun c => decide (c ≠ '.')) = whole := by
      rw [List.takeWhile_append_of_pos noPoint, List.takeWhile_cons_of_neg (by simp), List.append_nil]
    have after : (whole ++ '.' :: fraction).dropWhile (fun c => decide (c ≠ '.')) = '.' :: fraction := by
      rw [List.dropWhile_append_of_pos noPoint, List.dropWhile_cons_of_neg (by simp)]
    simp only [Number.literal, Rhs.ofNumber, same, before, after]
    exact decimalRead nonempty left right

theorem initialRead (type : DeclaredType) :
    Rhs.read? (initialValue type).toList = some (.ofInitial type) := by
  cases type <;> decide +kernel

theorem operandRead {value : Operand} (lawful : value.Lawful) :
    Rhs.read? value.text.toList = some (.ofOperand value) := by
  cases value with
  | input => decide
  | name text pos =>
    have read := nameRead (Target.safeNameIsName lawful)
    rwa [String.ofList_toList] at read
  | number value => exact numberRead lawful

def Solid (text : List Char) : Prop := text ≠ [] ∧ ' ' ∉ text ∧ '#' ∉ text

instance (text : List Char) : Decidable (Solid text) := inferInstanceAs (Decidable (_ ∧ _))

theorem nameSolid {text : List Char} (named : isName text = true) : Solid text := by
  cases text with
  | nil => cases named
  | cons c rest =>
    simp only [isName, Bool.and_eq_true, List.all_eq_true] at named
    obtain ⟨⟨letter, others⟩, _⟩ := named
    have free (x : Char) (noLetter : Text.isAlphabetic x = false)
        (noWord : (Text.isAlphanumeric x || x == '_') = false) : x ∉ c :: rest := by
      intro member
      rcases List.mem_cons.mp member with rfl | inside
      · simp [noLetter] at letter
      · exact absurd (others x inside) (by simp [noWord])
    exact ⟨by simp, free ' ' (by decide) (by decide), free '#' (by decide) (by decide)⟩

theorem numberSolid {value : Number} (canonical : Lexeme.IsCanonical value) :
    Solid value.literal.toList := by
  refine ⟨?_, Lexeme.canonicalFree canonical (by decide) (by decide),
    Lexeme.canonicalFree canonical (by decide) (by decide)⟩
  cases value with
  | int literal =>
    rcases canonical.2 with same | ⟨c, rest, same, _⟩ <;> simp [Number.literal, same]
  | float literal =>
    obtain ⟨whole, fraction, same, _⟩ := canonical
    simp [Number.literal, same]

theorem operandSolid {value : Operand} (lawful : value.Lawful) : Solid value.text.toList := by
  cases value with
  | input => decide
  | name text pos => exact nameSolid (Target.safeNameIsName lawful)
  | number value => exact numberSolid lawful

theorem solidNotBlank {text : List Char} (solid : Solid text) :
    ∀ c ∈ text, (c ≠ ' ' : Bool) = true := by
  intro c member
  simp only [decide_eq_true_eq]
  rintro rfl
  exact solid.2.1 member

theorem callRead {text : List Char} (solid : Solid text) (other : text ≠ "input()".toList) :
    readCode? text = (printed? text).bind fun inner => (Rhs.read? inner).map .print := by
  have noBlank : text.dropWhile (· ≠ ' ') = [] := by
    have none : (text ++ []).dropWhile (· ≠ ' ') = [].dropWhile (· ≠ ' ') :=
      List.dropWhile_append_of_pos (solidNotBlank solid)
    rwa [List.append_nil] at none
  simp only [readCode?, noBlank, if_neg solid.1, if_neg other]

theorem printedInner (inner : List Char) :
    printed? ("print(".toList ++ inner ++ [')']) = some inner := by
  have starts : "print(".toList <+: "print(".toList ++ inner ++ [')'] := by
    rw [List.append_assoc]
    exact List.prefix_append _ _
  have inside : (("print(".toList ++ inner ++ [')']).drop 6).dropLast = inner := by simp
  rw [printed?, if_pos ⟨starts, List.getLast?_concat⟩, inside]

theorem printRead {inner : List Char} {value : Rhs} (solid : Solid inner)
    (read : Rhs.read? inner = some value) :
    readCode? ("print(".toList ++ inner ++ [')']) = some (.print value) := by
  have whole : Solid ("print(".toList ++ inner ++ [')']) := by
    refine ⟨by simp, ?_, ?_⟩
    · simpa using solid.2.1
    · simpa using solid.2.2
  rw [callRead whole (by simp), printedInner]
  simp [read]

theorem assignRead {name inner : List Char} {value : Rhs} (named : isName name = true)
    (read : Rhs.read? inner = some value) :
    readCode? (name ++ " = ".toList ++ inner) = some (.assign (String.ofList name) value) := by
  have noBlank := solidNotBlank (nameSolid named)
  have before : (name ++ " = ".toList ++ inner).takeWhile (· ≠ ' ') = name := by
    rw [List.append_assoc, List.takeWhile_append_of_pos noBlank]
    simp
  have after : (name ++ " = ".toList ++ inner).dropWhile (· ≠ ' ') = ' ' :: '=' :: ' ' :: inner := by
    rw [List.append_assoc, List.dropWhile_append_of_pos noBlank]
    simp
  simp only [readCode?, before, after, named, if_true, read, Option.map_some]

def IsNotes (notes : List Char) : Prop := notes = [] ∨ ∃ more, notes = ' ' :: ' ' :: '#' :: more

theorem notesAppend {first second : List Char} (left : IsNotes first) (right : IsNotes second) :
    IsNotes (first ++ second) := by
  rcases left with rfl | ⟨more, rfl⟩
  · exact right
  · exact .inr ⟨more ++ second, rfl⟩

theorem dropTrailingKeeps {code : List Char} (last : code.getLast? ≠ some ' ') :
    dropTrailing code = code := by
  have kept : code.reverse.dropWhile (· == ' ') = code.reverse := by
    rw [List.getLast?_eq_head?_reverse] at last
    cases h : code.reverse with
    | nil => rfl
    | cons c rest =>
      rw [h] at last
      exact List.dropWhile_cons_of_neg (by simpa using last)
  rw [dropTrailing, kept, List.reverse_reverse]

theorem notesDropped {code notes : List Char} (noHash : '#' ∉ code) (last : code.getLast? ≠ some ' ')
    (isNotes : IsNotes notes) : dropTrailing ((code ++ notes).takeWhile (· ≠ '#')) = code := by
  have kept : ∀ c ∈ code, (c ≠ '#' : Bool) = true := by
    intro c member
    simp only [decide_eq_true_eq]
    rintro rfl
    exact noHash member
  rw [List.takeWhile_append_of_pos kept]
  rcases isNotes with rfl | ⟨more, rfl⟩
  · rw [List.takeWhile_nil, List.append_nil, dropTrailingKeeps last]
  · have blanks : dropTrailing (code ++ [' ', ' ']) = dropTrailing code := by simp [dropTrailing]
    simpa [dropTrailingKeeps last] using blanks

theorem codeNotes (annotate : Bool) (statement : Statement) :
    ∃ notes, (statement.code annotate).toList = (statement.code false).toList ++ notes ∧
      IsNotes notes := by
  cases statement with
  | print | input | assignment => exact ⟨[], (List.append_nil _).symm, .inl rfl⟩
  | declaration type name pos =>
    cases annotate with
    | false => exact ⟨[], (List.append_nil _).symm, .inl rfl⟩
    | true =>
      refine ⟨("  # declare " ++ name ++ ": " ++ type.text).toList, ?_,
        .inr ⟨(" declare " ++ name ++ ": " ++ type.text).toList, ?_⟩⟩
      · simp [Statement.code]
      · simp

theorem warningNotes (remarks : List Diagnostic) :
    IsNotes (String.join (remarks.map fun remark => "  # warning: " ++ remark.text)).toList := by
  induction remarks with
  | nil => exact .inl rfl
  | cons remark rest ih =>
    rw [List.map_cons, String.join_cons, String.toList_append]
    exact notesAppend (.inr ⟨(" warning: " ++ remark.text).toList, by simp⟩) ih

theorem solidLast {lead text : List Char} (solid : Solid text) :
    (lead ++ text).getLast? ≠ some ' ' := by
  intro last
  rcases List.eq_nil_or_concat text with rfl | ⟨most, c, rfl⟩
  · exact solid.1 rfl
  · rw [List.concat_eq_append, ← List.append_assoc, List.getLast?_concat] at last
    cases last
    exact solid.2.1 (by simp)

theorem codeRead {statement : Statement} (lawful : statement.Lawful) :
    readCode? (statement.code false).toList = some (.ofStatement statement) ∧
      '#' ∉ (statement.code false).toList ∧ (statement.code false).toList.getLast? ≠ some ' ' := by
  have assigned {name : String} {inner : List Char} {value : Rhs} (lawful : (Lexeme.name name).Lawful)
      (solid : Solid inner) (read : Rhs.read? inner = some value) :
      readCode? ((safeName name).toList ++ " = ".toList ++ inner) =
          some (.assign (safeName name) value) ∧
        '#' ∉ (safeName name).toList ++ " = ".toList ++ inner ∧
        ((safeName name).toList ++ " = ".toList ++ inner).getLast? ≠ some ' ' := by
    have named := Target.safeNameIsName lawful
    refine ⟨?_, ?_, solidLast solid⟩
    · rw [assignRead named read, String.ofList_toList]
    · simp [(nameSolid named).2.2, solid.2.2]
  cases statement with
  | print value =>
    have solid := operandSolid lawful
    simp only [Statement.code, String.toList_append]
    refine ⟨printRead solid (operandRead lawful), ?_, ?_⟩
    · simp [solid.2.2]
    · exact solidLast (by decide)
  | input => exact ⟨by decide, by decide, by decide⟩
  | declaration type name pos =>
    simp only [Statement.code, Bool.false_eq_true, if_false, String.append_empty, String.toList_append]
    exact assigned lawful (by cases type <;> decide) (initialRead type)
  | assignment name pos value =>
    simp only [Statement.code, String.toList_append]
    exact assigned lawful.1 (operandSolid lawful.2) (operandRead lawful.2)

theorem lineRead (annotate : Bool) (declared : Scope) {statement : Statement}
    (lawful : statement.Lawful) :
    Line.read? (statement.line annotate declared) = some (.ofStatement statement) := by
  obtain ⟨read, noHash, last⟩ := codeRead lawful
  obtain ⟨notes, same, isNotes⟩ := codeNotes annotate statement
  have warnings := warningNotes (statement.remarks declared)
  rw [Line.read?, Statement.line, String.toList_append, same, List.append_assoc,
    notesDropped noHash last (notesAppend isNotes warnings), read]

theorem linesRead (annotate : Bool) (declared : Scope) {program : Program}
    (lawful : ∀ statement ∈ program, statement.Lawful) :
    (Program.lines annotate declared program).mapM Line.read? =
      some (program.map Line.ofStatement) := by
  induction program generalizing declared with
  | nil => rfl
  | cons statement rest ih =>
    obtain ⟨first, later⟩ := List.forall_mem_cons.mp lawful
    simp [Program.lines, lineRead annotate declared first, ih _ later]

theorem outputRead (options : Options) {program : Program}
    (lawful : ∀ statement ∈ program, statement.Lawful) :
    read? (Program.output options program) =
      some ((if options.header then [.empty] else []) ++ program.map Line.ofStatement) := by
  have header : Line.read? headerText = some .empty := by decide
  rw [read?, (Program.outputLines options lawful).1]
  cases options.header with
  | true => simp [header, linesRead options.annotate [] lawful]
  | false => simp [linesRead options.annotate [] lawful]

end Python

open Python (Object)

def imageStore (store : List (String × Value)) : List (String × Object) :=
  store.map fun binding => (safeName binding.1, .value binding.2)

def Program.Run.image (run : Program.Run) : Python.Run where
  inputs := run.inputs
  store := imageStore run.store
  trace := run.trace.map .value

def Program.Halt.image : Program.Halt → Python.Halt
  | .unbound name => .unbound (safeName name)
  | .inputEnded => .inputEnded

def imageEnd {α β : Type} (f : α → β) (result : Except Program.Halt α × Program.Run) :
    Except Python.Halt β × Python.Run :=
  ((result.1.map f).mapError Program.Halt.image, result.2.image)

def LawfulStore (store : List (String × Value)) : Prop :=
  ∀ binding ∈ store, (Lexeme.name binding.1).Lawful

theorem imageLookup {store : List (String × Value)} (lawful : LawfulStore store) {name : String}
    (named : (Lexeme.name name).Lawful) :
    (imageStore store).lookup (safeName name) = (store.lookup name).map .value := by
  induction store with
  | nil => rfl
  | cons binding rest ih =>
    obtain ⟨bound, value⟩ := binding
    obtain ⟨first, later⟩ := List.forall_mem_cons.mp lawful
    have tail := ih later
    simp only [imageStore, List.map_cons, List.lookup_cons] at tail ⊢
    by_cases same : name = bound
    · subst same
      simp
    · have different : safeName name ≠ safeName bound :=
        fun h => same (Target.safeNameInjective named first h)
      rw [beq_false_of_ne same, beq_false_of_ne different]
      exact tail

theorem imageHidesNothing {store : List (String × Value)} (lawful : LawfulStore store) {word : String}
    (builtin : Python.builtin? word ≠ none) : (imageStore store).lookup word = none := by
  induction store with
  | nil => rfl
  | cons binding rest ih =>
    obtain ⟨first, later⟩ := List.forall_mem_cons.mp lawful
    have different : word ≠ safeName binding.1 := by
      rintro rfl
      exact builtin (Target.safeNameNotBuiltin first)
    have tail := ih later
    simp only [imageStore, List.map_cons, List.lookup_cons] at tail ⊢
    rw [beq_false_of_ne different]
    exact tail

def Simulates {α β : Type} (f : α → β) (target : Python.Exec β) (source : Program.Exec α) : Prop :=
  ∀ run : Program.Run, LawfulStore run.store →
    target.runFrom run.image = imageEnd f (source.runFrom run) ∧
      LawfulStore (source.runFrom run).2.store

section
variable {α β γ δ : Type} {f : α → β} {g : γ → δ}

theorem simulatesPure (value : α) : Simulates f (pure (f value)) (pure value) :=
  fun _ lawful => ⟨rfl, lawful⟩

theorem simulatesBind {target : Python.Exec β} {source : Program.Exec α}
    {next : β → Python.Exec δ} {next' : α → Program.Exec γ} (first : Simulates f target source)
    (rest : ∀ value, Simulates g (next (f value)) (next' value)) :
    Simulates g (target >>= next) (source >>= next') := by
  intro run lawful
  obtain ⟨same, kept⟩ := first run lawful
  rw [Step.runFromBind, Step.runFromBind, same]
  cases h : source.runFrom run with
  | mk outcome after =>
    rw [h] at kept
    cases outcome with
    | error halt => exact ⟨rfl, kept⟩
    | ok value => exact rest value after kept

end

theorem simulatesName {name : String} (named : (Lexeme.name name).Lawful) :
    Simulates Object.value (Python.readName (safeName name)) (Program.readName name) := by
  intro run lawful
  have found := imageLookup lawful named
  have store : run.image.store = imageStore run.store := rfl
  rw [Python.readName, Program.readName, Step.runFromBind, Step.runFromBind, Step.runFromGet,
    Step.runFromGet]
  simp only [store, found, Target.safeNameNotBuiltin named]
  cases run.store.lookup name with
  | none => exact ⟨rfl, lawful⟩
  | some value => exact ⟨rfl, lawful⟩

theorem builtinRead {run : Program.Run} (lawful : LawfulStore run.store) {word : String}
    {object : Object} (builtin : Python.builtin? word = some object) :
    (Python.readName word).runFrom run.image = (.ok object, run.image) := by
  have hidden := imageHidesNothing lawful (by simp [builtin] : Python.builtin? word ≠ none)
  have store : run.image.store = imageStore run.store := rfl
  rw [Python.readName, Step.runFromBind, Step.runFromGet]
  simp only [store, hidden, builtin]
  rfl

theorem simulatesInput : Simulates Object.value Python.callInput Program.readInput := by
  intro run lawful
  have inputs : run.image.inputs = run.inputs := rfl
  rw [Python.callInput, Program.readInput, Step.runFromBind, builtinRead lawful rfl,
    Step.runFromBind, Step.runFromGet]
  simp only [if_true, Step.runFromBind, Step.runFromGet, inputs]
  cases run.inputs with
  | nil => exact ⟨rfl, lawful⟩
  | cons line rest => exact ⟨rfl, lawful⟩

theorem simulatesOperand {value : Operand} (lawful : value.Lawful) :
    Simulates Object.value (Python.Rhs.ofOperand value).eval value.eval := by
  cases value with
  | input => exact simulatesInput
  | name text pos => exact simulatesName lawful
  | number value => cases value <;> exact simulatesPure _

theorem simulatesBinding {name : String} (named : (Lexeme.name name).Lawful) (value : Value) :
    Simulates id
      (modify fun run => { run with store := (safeName name, .value value) :: run.store })
      (Program.bindName name value) :=
  fun _ lawful => ⟨rfl, List.forall_mem_cons.mpr ⟨named, lawful⟩⟩

theorem simulatesPrint {rhs : Python.Rhs} {value : Operand}
    (operand : Simulates Object.value rhs.eval value.eval) :
    Simulates id (Python.callPrint rhs) (Statement.exec (.print value)) := by
  have printed (value : Value) : Simulates id
      (modify fun run => { run with trace := run.trace ++ [.value value] })
      (Program.printValue value) := by
    intro run lawful
    refine ⟨?_, lawful⟩
    simp only [Program.printValue, Step.runFromModify, imageEnd, Program.Run.image, List.map_append]
    rfl
  have called : Simulates id
      (do
        let object ← rhs.eval
        modify fun run => { run with trace := run.trace ++ [object] })
      (Statement.exec (.print value)) := simulatesBind operand printed
  intro run lawful
  -- The name of the function is looked up first; the source has nothing that answers to this.
  rw [Python.callPrint, Step.runFromBind, builtinRead lawful rfl]
  exact called run lawful

theorem simulatesStatement {statement : Statement} (lawful : statement.Lawful) :
    Simulates id (Python.Line.ofStatement statement).exec statement.exec := by
  cases statement with
  | print value => exact simulatesPrint (simulatesOperand lawful)
  | input => exact simulatesBind simulatesInput fun _ => simulatesPure ()
  | declaration type name pos =>
    have bound := simulatesBinding lawful type.initial
    cases type <;> exact bound
  | assignment name pos value =>
    exact simulatesBind (simulatesOperand lawful.2) (simulatesBinding lawful.1)

theorem simulatesProgram {program : Program} (lawful : ∀ statement ∈ program, statement.Lawful) :
    Simulates id (Python.exec (program.map Python.Line.ofStatement)) program.exec := by
  induction program with
  | nil => exact simulatesPure ()
  | cons statement rest ih =>
    obtain ⟨first, later⟩ := List.forall_mem_cons.mp lawful
    exact simulatesBind (simulatesStatement first) fun _ => ih later

theorem decodeText (text : String) : Text.decodeLossy text.toUTF8 = text := by
  have valid : String.fromUTF8? text.toUTF8 = some text := dif_pos text.isValidUTF8
  rw [Text.decodeLossy, valid]

theorem compileTextFile (options : Options) {source : String} {file : Grammar.File}
    (read : (Scanner.tokens.runFrom (.ofSource options.rule source)).1 = .ok file.tokens) :
    ∃ summary, compileText options source = .ok (Program.output options file.program, summary) := by
  have mapped : compileText options source = (compile options source {}).1.map
    (fun summary => (Text.decodeLossy (compile options source {}).2.bytes, summary)) := rfl
  rw [compiledFile .empty read, ByteArray.empty_append] at mapped
  simp only [decodeText] at mapped
  exact ⟨_, mapped⟩

theorem compileTextOutput {options : Options} {source text : String} {summary : Summary}
    (ok : compileText options source = .ok (text, summary)) :
    ∃ file : Grammar.File,
      (Scanner.tokens.runFrom (.ofSource options.rule source)).1 = .ok file.tokens ∧
      text = Program.output options file.program := by
  have compiled : ∃ result, (compile options source {}).1 = .ok result := by
    unfold compileText at ok
    cases h : (compile options source .unlimited).1 with
    | error error => simp [h, Except.map] at ok
    | ok result => exact ⟨result, h⟩
  obtain ⟨file, read⟩ := (compiledIff options source .empty).mp compiled
  obtain ⟨_, written⟩ := compileTextFile options read
  cases ok.symm.trans written
  exact ⟨file, read, rfl⟩

theorem preservesMeaning {options : Options} {source text : String} {summary : Summary}
    (ok : compileText options source = .ok (text, summary)) :
    ∃ file : Grammar.File,
      (Scanner.tokens.runFrom (.ofSource options.rule source)).1 = .ok file.tokens ∧
      ∃ lines, Python.read? text = some lines ∧
        ∀ inputs : List String,
          let meant := file.program.exec.runFrom { inputs }
          let done := (Python.exec lines).runFrom { inputs }
          done.2.trace = meant.2.trace.map .value ∧
          done.2.inputs = meant.2.inputs ∧
          done.1 = meant.1.mapError Program.Halt.image ∧
          done.2.store = imageStore meant.2.store := by
  obtain ⟨file, read, rfl⟩ := compileTextOutput ok
  have lawful := Grammar.readLawful read
  have simulates := simulatesProgram lawful
  refine ⟨file, read, _, Python.outputRead options lawful, ?_⟩
  intro inputs meant done
  have same : done = imageEnd id meant := by
    rw [← (simulates { inputs } nofun).1]
    -- The line of the header, where there is one, does nothing.
    cases h : options.header <;> simp only [done, h] <;> rfl
  rw [same]
  refine ⟨rfl, rfl, ?_, rfl⟩
  show (meant.1.map id).mapError _ = _
  rw [Except.map_id]
  rfl

/- Both names are changed, the number loses its zeros, and the run stops at the name that nothing binds. -/
theorem preservesMeaningSample :
    ∃ text summary lines,
      compileText {} sampleSource = .ok (text, summary) ∧
      Python.read? text = some lines ∧
      ((Python.exec lines).runFrom { inputs := ["first", "second"] }).2.trace = [.value (.int 7)] ∧
      ((Python.exec lines).runFrom { inputs := ["first", "second"] }).2.inputs = ["second"] ∧
      ((Python.exec lines).runFrom { inputs := ["first", "second"] }).1 = .error (.unbound "in_") := by
  obtain ⟨summary, written⟩ := compileTextFile {} sampleRead
  obtain ⟨file, read, lines, inFragment, means⟩ := preservesMeaning written
  obtain rfl : file = Grammar.sampleFile :=
    Grammar.tokensInjective (Except.ok.inj (read.symm.trans sampleRead))
  obtain ⟨trace, inputs, ending, _⟩ := means ["first", "second"]
  exact ⟨_, summary, lines, written, inFragment, trace.trans (by decide +kernel),
    inputs.trans (by decide +kernel), ending.trans rfl⟩

end Linewise
