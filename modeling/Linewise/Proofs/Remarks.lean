import Linewise.Proofs.Preservation
import Mathlib.Data.List.Basic

/-! What is remarked on, from the statements alone. A use of a name is remarked on when no declaration of
it stands before, a declaration when one does; nothing else declares a name. The remarks follow the order of
the source, one to a token at most, and are written on the line of their statement. -/
namespace Linewise

def Diagnostic.token (remark : Diagnostic) : Token := ⟨.name remark.name, remark.pos⟩

namespace Grammar

inductive Uses (name : String) (pos : Position) : Statement → Prop where
  | target (equalsPos value) : Uses name pos (.assignment name pos equalsPos value)
  | assigned (target targetPos equalsPos) {value} (inside : ⟨.name name, pos⟩ ∈ value.tokens) :
      Uses name pos (.assignment target targetPos equalsPos value)
  | printed (printPos) {value} (inside : ⟨.name name, pos⟩ ∈ value.tokens) :
      Uses name pos (.print printPos value)

inductive Declares (name : String) (pos : Position) : Statement → Prop where
  | bare (type typePos) : Declares name pos (.declaration type typePos name pos)
  | marked (wordPos type typePos) : Declares name pos (.declared wordPos type typePos name pos)

def Declared (statements : List Statement) (name : String) : Prop :=
  ∃ statement ∈ statements, ∃ pos, Declares name pos statement

theorem exprName (value : Expr) (name : String) (pos : Position) :
    ⟨.name name, pos⟩ ∈ value.tokens ↔ value.operand = .name name pos := by
  induction value with
  | input call => cases call <;> simp [Expr.tokens, Input.tokens, Expr.operand]
  | group openPos inner closePos ih => simp [Expr.tokens, Expr.operand, ih]
  | name text place => simp [Expr.tokens, Expr.operand, eq_comm]
  | number value place => simp [Expr.tokens, Expr.operand]

end Grammar

namespace Program

open Grammar (Uses Declares Declared)

theorem undeclaredMem {declared : Scope} {name : String} {pos : Position} {remark : Diagnostic} :
    remark ∈ undeclared declared name pos ↔
      remark = ⟨.undeclared, name, pos⟩ ∧ (declared.lookup name).isSome = false := by
  unfold undeclared
  cases (declared.lookup name).isSome <;> simp

theorem operandRemarks {declared : Scope} {value : Grammar.Expr} {remark : Diagnostic} :
    remark ∈ value.operand.remarks declared ↔
      remark.kind = .undeclared ∧ ⟨.name remark.name, remark.pos⟩ ∈ value.tokens ∧
        (declared.lookup remark.name).isSome = false := by
  obtain ⟨kind, name, pos⟩ := remark
  rw [Grammar.exprName]
  cases h : value.operand with
  | name text place =>
    simp only [Operand.remarks, undeclaredMem, Diagnostic.mk.injEq, Operand.name.injEq]
    constructor
    · rintro ⟨⟨rfl, rfl, rfl⟩, unknown⟩
      exact ⟨rfl, ⟨rfl, rfl⟩, unknown⟩
    · rintro ⟨rfl, ⟨rfl, rfl⟩, unknown⟩
      exact ⟨⟨rfl, rfl, rfl⟩, unknown⟩
  | input | number => simp [Operand.remarks]

def Worth (declared : Scope) (statement : Grammar.Statement) (remark : Diagnostic) : Prop :=
  match remark.kind with
  | .undeclared => Uses remark.name remark.pos statement ∧ (declared.lookup remark.name).isSome = false
  | .redeclared => Declares remark.name remark.pos statement ∧ (declared.lookup remark.name).isSome = true

theorem declarationRemarks {declared : Scope} {type : DeclaredType} {name : String} {pos : Position}
    {remark : Diagnostic} :
    remark ∈ (Statement.declaration type name pos).remarks declared ↔
      remark = ⟨.redeclared, name, pos⟩ ∧ (declared.lookup name).isSome = true := by
  simp only [Statement.remarks]
  cases (declared.lookup name).isSome <;> simp

theorem statementRemarks {declared : Scope} {statement : Grammar.Statement} {remark : Diagnostic} :
    remark ∈ statement.abstract.remarks declared ↔ Worth declared statement remark := by
  obtain ⟨kind, name, pos⟩ := remark
  cases statement with
  | print printPos value =>
    refine operandRemarks.trans ⟨?_, ?_⟩
    · rintro ⟨rfl, inside, unknown⟩
      exact ⟨.printed printPos inside, unknown⟩
    · intro worth
      cases kind with
      | undeclared =>
        obtain ⟨⟨⟩, unknown⟩ := worth
        exact ⟨rfl, ‹_›, unknown⟩
      | redeclared => cases worth.1
  | input call =>
    constructor
    · intro member
      cases member
    · intro worth
      cases kind <;> cases worth.1
  | declaration type typePos text namePos =>
    refine declarationRemarks.trans ⟨?_, ?_⟩
    · rintro ⟨⟨⟩, known⟩
      exact ⟨.bare type typePos, known⟩
    · intro worth
      cases kind with
      | undeclared => cases worth.1
      | redeclared =>
        obtain ⟨⟨⟩, known⟩ := worth
        exact ⟨rfl, known⟩
  | declared wordPos type typePos text namePos =>
    refine declarationRemarks.trans ⟨?_, ?_⟩
    · rintro ⟨⟨⟩, known⟩
      exact ⟨.marked wordPos type typePos, known⟩
    · intro worth
      cases kind with
      | undeclared => cases worth.1
      | redeclared =>
        obtain ⟨⟨⟩, known⟩ := worth
        exact ⟨rfl, known⟩
  | assignment target targetPos equalsPos value =>
    simp only [Grammar.Statement.abstract, Statement.remarks, List.mem_append, undeclaredMem, operandRemarks]
    constructor
    · rintro (⟨⟨⟩, unknown⟩ | ⟨rfl, inside, unknown⟩)
      · exact ⟨.target equalsPos value, unknown⟩
      · exact ⟨.assigned target targetPos equalsPos inside, unknown⟩
    · intro worth
      cases kind with
      | undeclared =>
        obtain ⟨uses, unknown⟩ := worth
        cases uses with
        | target => exact .inl ⟨rfl, unknown⟩
        | assigned _ _ _ inside => exact .inr ⟨rfl, inside, unknown⟩
      | redeclared => cases worth.1

theorem declaresLookup (declared : Scope) (statement : Grammar.Statement) (name : String) :
    ((statement.abstract.declares declared).lookup name).isSome = true ↔
      (∃ pos, Declares name pos statement) ∨ (declared.lookup name).isSome = true := by
  have added (type : DeclaredType) (text : String) :
      (((text, type) :: declared).lookup name).isSome = true ↔
        name = text ∨ (declared.lookup name).isSome = true := by
    by_cases same : name = text
    · simp [same]
    · have different : (name == text) = false := by simpa using same
      simp only [List.lookup_cons, different, same, false_or]
  cases statement with
  | print | input | assignment =>
    refine ⟨.inr, ?_⟩
    rintro (⟨_, declares⟩ | known)
    · cases declares
    · exact known
  | declaration type typePos text namePos =>
    refine (added type text).trans (or_congr_left ⟨?_, ?_⟩)
    · rintro rfl
      exact ⟨namePos, .bare type typePos⟩
    · rintro ⟨_, ⟨⟩⟩
      rfl
  | declared wordPos type typePos text namePos =>
    refine (added type text).trans (or_congr_left ⟨?_, ?_⟩)
    · rintro rfl
      exact ⟨namePos, .marked wordPos type typePos⟩
    · rintro ⟨_, ⟨⟩⟩
      rfl

def scopeAfter : Scope → Program → Scope
  | declared, [] => declared
  | declared, statement :: rest => scopeAfter (statement.declares declared) rest

theorem scopeAfterLookup (declared : Scope) (statements : List Grammar.Statement) (name : String) :
    ((scopeAfter declared (statements.map Grammar.Statement.abstract)).lookup name).isSome = true ↔
      Declared statements name ∨ (declared.lookup name).isSome = true := by
  induction statements generalizing declared with
  | nil => simp [scopeAfter, Declared]
  | cons statement rest ih =>
    rw [List.map_cons, scopeAfter, ih, declaresLookup]
    simp only [Declared, List.mem_cons, exists_eq_or_imp, or_assoc, or_left_comm]

theorem renderAppend (annotate : Bool) (declared : Scope) (first second : Program) :
    render annotate declared (first ++ second) =
      let earlier := render annotate declared first
      let later := render annotate (scopeAfter declared first) second
      { text := earlier.text ++ later.text, diagnostics := earlier.diagnostics ++ later.diagnostics } := by
  induction first generalizing declared with
  | nil => simp [render, scopeAfter]
  | cons statement rest ih => simp [render, scopeAfter, ih, String.append_assoc]

theorem linesAppend (annotate : Bool) (declared : Scope) (first second : Program) :
    lines annotate declared (first ++ second) =
      lines annotate declared first ++ lines annotate (scopeAfter declared first) second := by
  induction first generalizing declared with
  | nil => rfl
  | cons statement rest ih => simp [lines, scopeAfter, ih]

theorem lineAt (annotate : Bool) (declared : Scope) (before : Program) (statement : Statement)
    (after : Program) :
    (lines annotate declared (before ++ statement :: after))[before.length]? =
      some (statement.line annotate (scopeAfter declared before)) := by
  rw [linesAppend, List.getElem?_append_right (Nat.le_of_eq (linesLength _ _ _)), linesLength,
    Nat.sub_self]
  rfl

theorem renderRemarks (annotate : Bool) {declared : Scope} {statements : List Grammar.Statement}
    {remark : Diagnostic} :
    remark ∈ (render annotate declared (statements.map Grammar.Statement.abstract)).diagnostics ↔
      ∃ before statement after, statements = before ++ statement :: after ∧
        Worth (scopeAfter declared (before.map Grammar.Statement.abstract)) statement remark := by
  induction statements generalizing declared with
  | nil => simp [render]
  | cons first rest ih =>
    simp only [List.map_cons, render, List.mem_append, statementRemarks, ih]
    constructor
    · rintro (here | ⟨before, statement, after, rfl, there⟩)
      · exact ⟨[], first, rest, rfl, here⟩
      · exact ⟨first :: before, statement, after, rfl, there⟩
    · rintro ⟨before, statement, after, split, worth⟩
      cases before with
      | nil =>
        cases split
        exact .inl worth
      | cons _ before =>
        cases split
        exact .inr ⟨before, statement, after, rfl, worth⟩

theorem undeclaredSublist (declared : Scope) (name : String) (pos : Position) :
    ((undeclared declared name pos).map Diagnostic.token).Sublist [⟨.name name, pos⟩] := by
  unfold undeclared
  split
  · exact List.nil_sublist _
  · exact List.Sublist.refl _

theorem operandSublist (declared : Scope) (value : Grammar.Expr) :
    ((value.operand.remarks declared).map Diagnostic.token).Sublist value.tokens := by
  induction value with
  | input | number => exact List.nil_sublist _
  | group openPos inner closePos ih =>
    exact (ih.trans (List.sublist_append_left _ _)).cons _
  | name text pos => exact undeclaredSublist declared text pos

theorem remarksSublist (declared : Scope) (statement : Grammar.Statement) :
    ((statement.abstract.remarks declared).map Diagnostic.token).Sublist statement.tokens := by
  have declaration (type : DeclaredType) (name : String) (pos : Position) :
      (((Statement.declaration type name pos).remarks declared).map Diagnostic.token).Sublist
        [⟨.name name, pos⟩] := by
    simp only [Statement.remarks]
    split
    · exact List.Sublist.refl _
    · exact List.nil_sublist _
  cases statement with
  | print pos value => exact (operandSublist declared value).cons _
  | input call => exact List.nil_sublist _
  | declaration type typePos name namePos => exact (declaration type name namePos).cons _
  | declared wordPos type typePos name namePos => exact ((declaration type name namePos).cons _).cons _
  | assignment name namePos equalsPos value =>
    rw [Grammar.Statement.abstract, Statement.remarks, List.map_append]
    exact (undeclaredSublist declared name namePos).append ((operandSublist declared value).cons _)

theorem renderSublist (annotate : Bool) (declared : Scope) (statements : List Grammar.Statement) :
    ((render annotate declared (statements.map Grammar.Statement.abstract)).diagnostics.map
      Diagnostic.token).Sublist (statements.flatMap Grammar.Statement.tokens) := by
  induction statements generalizing declared with
  | nil => exact List.nil_sublist _
  | cons statement rest ih =>
    rw [List.map_cons, render, List.map_append, List.flatMap_cons]
    exact (remarksSublist declared statement).append (ih _)

def InOrder (tokens : List Token) : Prop := tokens.Pairwise fun a b => a.pos.Before b.pos

theorem inOrderApart {first second : List Token} (order : InOrder (first ++ second)) {token : Token}
    (left : token ∈ first) : token ∉ second := by
  intro right
  exact Position.beforeIrrefl _ ((List.pairwise_append.mp order).2.2 token left token right)

theorem renderFilterNone (annotate : Bool) (declared : Scope) {statements : List Grammar.Statement}
    {tokens : List Token} (apart : ∀ token ∈ statements.flatMap Grammar.Statement.tokens, token ∉ tokens) :
    ((render annotate declared (statements.map Grammar.Statement.abstract)).diagnostics.filter
      fun remark => remark.token ∈ tokens) = [] := by
  rw [List.filter_eq_nil_iff]
  intro remark member
  have inside := (renderSublist annotate declared statements).subset (List.mem_map_of_mem member)
  simpa using apart _ inside

theorem codeNoWarning (annotate : Bool) {statement : Statement} (lawful : statement.Lawful) :
    ¬ "  # warning: ".toList <:+: (statement.code annotate).toList := by
  rintro ⟨lead, rest, same⟩
  have bare : '#' ∉ (statement.code false).toList := (Python.codeRead lawful).2.1
  have sign : '#' ∈ (statement.code annotate).toList := by simp [← same]
  cases statement with
  | print | input | assignment => exact bare sign
  | declaration type name pos =>
    cases annotate with
    | false => exact bare sign
    | true =>
      let note := " declare ".toList ++ name.toList ++ ": ".toList ++ type.text.toList
      have single : '#' ∉ note := by
        have named : '#' ∉ name.toList := Lexeme.wordFree lawful.1 (by decide)
        have typed : '#' ∉ type.text.toList := by cases type <;> decide
        simp [note, named, typed]
      have cut : ((Statement.declaration type name pos).code false).toList ++ [' ', ' '] ++ '#' :: note =
          (lead ++ [' ', ' ']) ++ '#' :: (" warning: ".toList ++ rest) := by
        simpa [Statement.code, note] using same.symm
      have after := ((List.append_cons_inj_of_notMem (by simp [bare]) single).mp cut).2.2
      simp [note] at after

/- Places tell the statements apart, so the remarks on tokens of one statement are the remarks on it. -/
theorem renderFilter (annotate : Bool) {before after : List Grammar.Statement}
    {statement : Grammar.Statement} (declared : Scope)
    (order : InOrder ((before ++ statement :: after).flatMap Grammar.Statement.tokens)) :
    ((render annotate declared
        ((before ++ statement :: after).map Grammar.Statement.abstract)).diagnostics.filter
          fun remark => remark.token ∈ statement.tokens) =
      statement.abstract.remarks (scopeAfter declared (before.map Grammar.Statement.abstract)) := by
  rw [List.flatMap_append, List.flatMap_cons] at order
  have earlier : ∀ token ∈ before.flatMap Grammar.Statement.tokens, token ∉ statement.tokens :=
    fun token inside here => inOrderApart order inside (List.mem_append_left _ here)
  have later : ∀ token ∈ after.flatMap Grammar.Statement.tokens, token ∉ statement.tokens :=
    fun token inside here => inOrderApart (List.pairwise_append.mp order).2.1 here inside
  have own (declared : Scope) : ((statement.abstract.remarks declared).filter
      fun remark => remark.token ∈ statement.tokens) = statement.abstract.remarks declared := by
    rw [List.filter_eq_self]
    intro remark member
    simpa using (remarksSublist declared statement).subset (List.mem_map_of_mem member)
  rw [List.map_append, List.map_cons, renderAppend, render, List.filter_append, List.filter_append,
    renderFilterNone annotate _ earlier, renderFilterNone annotate _ later, own, List.nil_append,
    List.append_nil]

end Program

theorem Grammar.readInOrder {rule : WordRule} {source : String} {file : Grammar.File}
    (read : (Scanner.tokens.runFrom (.ofSource rule source)).1 = .ok file.tokens) :
    Program.InOrder (file.statements.flatMap Grammar.Statement.tokens) := by
  have reads := Scanner.deliveryReads (.ofSource rule source)
  rw [((Scanner.tokensOkIff _ _).mp read).2, Grammar.fileTokens] at reads
  obtain ⟨after, found, _, rest⟩ := readsHead reads
  obtain ⟨_, middle, _, scans⟩ := Scanner.nextOk found
  have order := Scanner.readsIncreasing (rest rfl) (Scanner.scansStarted scans)
  exact (List.pairwise_append.mp order).1

theorem compileTextDiagnostics {options : Options} {source text : String} {summary : Summary}
    {file : Grammar.File} (ok : compileText options source = .ok (text, summary))
    (read : (Scanner.tokens.runFrom (.ofSource options.rule source)).1 = .ok file.tokens) :
    summary.diagnostics = (Program.render options.annotate [] file.program).diagnostics := by
  unfold compileText at ok
  rw [show Sink.unlimited = { bytes := .empty } from rfl, compiledFile .empty read] at ok
  cases ok
  rfl

theorem remarksExact {options : Options} {source text : String} {summary : Summary}
    (ok : compileText options source = .ok (text, summary)) :
    ∃ file : Grammar.File,
      (Scanner.tokens.runFrom (.ofSource options.rule source)).1 = .ok file.tokens ∧
      (∀ name pos, ⟨.undeclared, name, pos⟩ ∈ summary.diagnostics ↔
        ∃ before statement after, file.statements = before ++ statement :: after ∧
          Grammar.Uses name pos statement ∧ ¬ Grammar.Declared before name) ∧
      (∀ name pos, ⟨.redeclared, name, pos⟩ ∈ summary.diagnostics ↔
        ∃ before statement after, file.statements = before ++ statement :: after ∧
          Grammar.Declares name pos statement ∧ Grammar.Declared before name) ∧
      (∀ name, ¬ Grammar.Declared file.statements name →
        ∀ statement ∈ file.statements, ∀ pos, Grammar.Uses name pos statement →
          ⟨.undeclared, name, pos⟩ ∈ summary.diagnostics) ∧
      summary.diagnostics.Pairwise (fun a b => a.pos.Before b.pos) ∧
      (summary.diagnostics.map Diagnostic.pos).Nodup ∧
      ∀ before statement after, file.statements = before ++ statement :: after →
        ¬ "  # warning: ".toList <:+: (statement.abstract.code options.annotate).toList ∧
        (Text.lines text)[before.length + if options.header then 1 else 0]? =
          some (statement.abstract.code options.annotate ++
            String.join ((summary.diagnostics.filter fun remark => remark.token ∈ statement.tokens).map
              fun remark => "  # warning: " ++ remark.text)) := by
  obtain ⟨file, read, rfl⟩ := compileTextOutput ok
  have order := Grammar.readInOrder read
  have diagnostics := compileTextDiagnostics ok read
  rw [Grammar.File.program] at diagnostics
  have known (before : List Grammar.Statement) (name : String) :
      ((Program.scopeAfter [] (before.map Grammar.Statement.abstract)).lookup name).isSome = true ↔
        Grammar.Declared before name := by
    rw [Program.scopeAfterLookup]
    exact or_iff_left Bool.false_ne_true
  have increasing : summary.diagnostics.Pairwise fun a b => a.pos.Before b.pos := by
    have tokens := List.Pairwise.sublist (Program.renderSublist options.annotate [] file.statements) order
    rw [List.pairwise_map] at tokens
    rw [diagnostics]
    exact tokens
  have undeclared (name : String) (pos : Position) :
      ⟨.undeclared, name, pos⟩ ∈ summary.diagnostics ↔
        ∃ before statement after, file.statements = before ++ statement :: after ∧
          Grammar.Uses name pos statement ∧ ¬ Grammar.Declared before name := by
    rw [diagnostics, Program.renderRemarks]
    simp only [Program.Worth, ← Bool.not_eq_true, known]
  refine ⟨file, read, undeclared, ?_, ?_, increasing, ?_, ?_⟩
  · intro name pos
    rw [diagnostics, Program.renderRemarks]
    simp only [Program.Worth, known]
  · intro name never statement member pos uses
    obtain ⟨before, after, split⟩ := List.append_of_mem member
    refine (undeclared name pos).mpr ⟨before, statement, after, split, uses, ?_⟩
    rintro ⟨earlier, inside, declares⟩
    exact never ⟨earlier, by simp [split, inside], declares⟩
  · refine List.pairwise_map.mpr (increasing.imp ?_)
    intro a b before same
    exact Position.beforeIrrefl _ (same ▸ before)
  · intro before statement after split
    have lawful := Grammar.readLawful read
    have line := Program.lineAt options.annotate [] (before.map Grammar.Statement.abstract)
      statement.abstract (after.map Grammar.Statement.abstract)
    rw [List.length_map, ← List.map_cons, ← List.map_append, ← split] at line
    rw [split] at order diagnostics
    rw [(Program.outputLines options lawful).1, diagnostics, Program.renderFilter _ _ order]
    refine ⟨Program.codeNoWarning options.annotate (lawful _ ?_), ?_⟩
    · exact List.mem_map_of_mem (by simp [split])
    · cases options.header with
      | true => exact line
      | false => exact line

def remarkedSource : String := "a = b int a float a print a"

def Grammar.remarkedFile : Grammar.File where
  startPos := {}
  statements :=
    [.assignment "a" ⟨1, 1⟩ ⟨1, 3⟩ (.name "b" ⟨1, 5⟩), .declaration .int ⟨1, 7⟩ "a" ⟨1, 11⟩,
      .declaration .float ⟨1, 13⟩ "a" ⟨1, 19⟩, .print ⟨1, 21⟩ (.name "a" ⟨1, 27⟩)]
  endPos := ⟨1, 28⟩

theorem remarkedRead : (Scanner.tokens.runFrom (.ofSource .whole remarkedSource)).1 =
    .ok Grammar.remarkedFile.tokens :=
  (Scanner.tokensOkIff _ _).mpr (by decide +kernel)

/- Both names of the first line are unknown there, though one is assigned to; the other is never declared.
The second declaration repeats the first. -/
theorem remarksExactSample :
    ∃ text summary, compileText {} remarkedSource = .ok (text, summary) ∧
      ⟨.undeclared, "a", ⟨1, 1⟩⟩ ∈ summary.diagnostics ∧
      ⟨.undeclared, "b", ⟨1, 5⟩⟩ ∈ summary.diagnostics ∧
      ⟨.redeclared, "a", ⟨1, 19⟩⟩ ∈ summary.diagnostics := by
  obtain ⟨summary, written⟩ := compileTextFile {} remarkedRead
  obtain ⟨file, read, undeclared, redeclared, never, _⟩ := remarksExact written
  obtain rfl : file = Grammar.remarkedFile :=
    Grammar.tokensInjective (Except.ok.inj (read.symm.trans remarkedRead))
  refine ⟨_, summary, written, ?_, ?_, ?_⟩
  · refine (undeclared _ _).mpr ⟨[], _, _, rfl, .target _ _, ?_⟩
    rintro ⟨_, inside, _⟩
    cases inside
  · have first : Grammar.Statement.assignment "a" ⟨1, 1⟩ ⟨1, 3⟩ (.name "b" ⟨1, 5⟩) ∈
        Grammar.remarkedFile.statements := by decide
    refine never "b" ?_ _ first _ (.assigned _ _ _ (by decide))
    rintro ⟨statement, inside, pos, declares⟩
    cases declares <;> simp [Grammar.remarkedFile] at inside
  · refine (redeclared _ _).mpr ⟨[_, _], _, _, rfl, .bare _ _, ?_⟩
    exact ⟨_, List.mem_cons_of_mem _ (List.mem_singleton_self _), _, .bare _ _⟩

end Linewise
