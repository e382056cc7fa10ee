import Linewise.Proofs.Simulation

/-! What a compilation adds to a sink: the text of the operations of its course, as far as it fits. A step
that writes is described by the text alone, whatever the sink, and such descriptions compose along the
text. The sink fails where the text first exceeds it; if it never does, the outcome is that of the course. -/
namespace Linewise

namespace Sink

def Fits (sink : Sink) (count : Nat) : Prop := sink.fitting count = count

instance (sink : Sink) (count : Nat) : Decidable (sink.Fits count) :=
  inferInstanceAs (Decidable (_ = _))

theorem fittingLe (sink : Sink) (count : Nat) : sink.fitting count ≤ count := by
  unfold fitting
  split
  · exact Nat.le_refl _
  · exact Nat.min_le_left _ _

theorem fittingStored (sink : Sink) (added : ByteArray) (count : Nat) :
    sink.fitting (added.size + count) =
      sink.fitting added.size + (sink.store added).fitting count := by
  cases h : sink.limit with
  | none => simp [fitting, store, h]
  | some limit =>
    simp only [fitting, store, h, ByteArray.size_append, ByteArray.size_extract]
    omega

theorem fittingFull {sink : Sink} {added : ByteArray} (full : ¬ sink.Fits added.size) (count : Nat) :
    (sink.store added).fitting count = 0 := by
  cases h : sink.limit with
  | none => simp [Fits, fitting, h] at full
  | some limit =>
    simp only [Fits, fitting, store, h, ByteArray.size_append, ByteArray.size_extract] at full ⊢
    omega

theorem fitsAppend (sink : Sink) (first second : ByteArray) :
    sink.Fits (first ++ second).size ↔ sink.Fits first.size ∧ (sink.store first).Fits second.size := by
  have room := fittingStored sink first second.size
  have here := fittingLe sink first.size
  have there := fittingLe (sink.store first) second.size
  rw [ByteArray.size_append]
  unfold Fits
  omega

theorem storeNone {sink : Sink} {added : ByteArray} (none : sink.fitting added.size = 0) :
    sink.store added = sink := by
  rw [store, none, ByteArray.extract_same, ByteArray.append_empty]

theorem storeAppend (sink : Sink) (first second : ByteArray) :
    sink.store (first ++ second) = (sink.store first).store second := by
  have room := fittingStored sink first second.size
  suffices kept : (first ++ second).extract 0 (sink.fitting (first ++ second).size) =
      first.extract 0 (sink.fitting first.size) ++
        second.extract 0 ((sink.store first).fitting second.size) by
    unfold store at kept ⊢
    rw [kept, ByteArray.append_assoc]
  rw [ByteArray.extract_append, ByteArray.size_append, room]
  by_cases fits : sink.Fits first.size
  · have past : first.extract 0 (first.size + (sink.store first).fitting second.size) = first := by
      rw [← Nat.max_eq_left (Nat.le_add_right first.size _), ByteArray.extract_zero_max_size]
    rw [show sink.fitting first.size = first.size from fits, past, ByteArray.extract_zero_size,
      Nat.zero_sub, Nat.add_sub_cancel_left]
  · rw [fittingFull fits, Nat.add_zero, Nat.zero_sub, Nat.sub_eq_zero_of_le (fittingLe sink first.size)]

theorem fitsText (sink : Sink) (text more : String) :
    sink.Fits (text ++ more).toUTF8.size ↔
      sink.Fits text.toUTF8.size ∧ (sink.store text.toUTF8).Fits more.toUTF8.size := by
  rw [show (text ++ more).toUTF8 = text.toUTF8 ++ more.toUTF8 from String.toByteArray_append]
  exact fitsAppend sink text.toUTF8 more.toUTF8

theorem storeText (sink : Sink) (text more : String) :
    sink.store (text ++ more).toUTF8 = (sink.store text.toUTF8).store more.toUTF8 := by
  rw [show (text ++ more).toUTF8 = text.toUTF8 ++ more.toUTF8 from String.toByteArray_append]
  exact storeAppend sink text.toUTF8 more.toUTF8

theorem storeFull {sink : Sink} {text : String} (full : ¬ sink.Fits text.toUTF8.size) (more : String) :
    sink.store (text ++ more).toUTF8 = sink.store text.toUTF8 := by
  rw [storeText, storeNone (fittingFull full _)]

end Sink

namespace Target

def warningText : List Diagnostic → String
  | [] => ""
  | diagnostic :: rest => warningNote diagnostic ++ warningText rest

def Operation.text (annotate : Bool) : Operation → String
  | .header => headerText ++ "\n"
  | .openPrint => "print("
  | .closePrint => ")"
  | .inputCall => "input()"
  | .equals => " = "
  | .name text => safeName text
  | .number value => value.literal
  | .declaration text type =>
    safeName text ++ " = " ++ initialValue type ++
      if annotate then declarationNote text type else ""
  | .endLine diagnostics => warningText diagnostics ++ "\n"
  | .flush => ""

def Operation.lines : Operation → Nat
  | .header | .endLine _ => 1
  | .openPrint | .closePrint | .inputCall | .equals | .name _ | .number _ | .declaration _ _
  | .flush => 0

def textOf (annotate : Bool) : List Operation → String
  | [] => ""
  | operation :: rest => operation.text annotate ++ textOf annotate rest

def linesOf : List Operation → Nat
  | [] => 0
  | operation :: rest => operation.lines + linesOf rest

theorem textOfAppend (annotate : Bool) (first second : List Operation) :
    textOf annotate (first ++ second) = textOf annotate first ++ textOf annotate second := by
  induction first with
  | nil => simp [textOf]
  | cons operation rest ih => simp [textOf, ih, String.append_assoc]

theorem linesOfAppend (first second : List Operation) :
    linesOf (first ++ second) = linesOf first + linesOf second := by
  induction first with
  | nil => simp [linesOf]
  | cons operation rest ih =>
    simp only [List.cons_append, linesOf, ih]
    omega

def Operation.lead : Operation → String
  | .header => headerText
  | .endLine diagnostics => warningText diagnostics
  | .openPrint | .closePrint | .inputCall | .equals | .name _ | .number _ | .declaration _ _
  | .flush => ""

def Puts (annotate : Bool) (step : Emit Unit) (text : String) : Prop :=
  ∀ writer : Writer, writer.annotate = annotate →
    step.runFrom writer =
      (if writer.sink.Fits text.toUTF8.size then .ok () else .error .sinkFull,
        { writer with sink := writer.sink.store text.toUTF8 })

inductive Wrote (writer : Writer) (text : String) (lines : Nat) : Except IoError Unit × Writer → Prop where
  | all (fits : writer.sink.Fits text.toUTF8.size) :
      Wrote writer text lines
        (.ok (), { writer with sink := writer.sink.store text.toUTF8, lines := writer.lines + lines })
  | part {out : Writer} (full : ¬ writer.sink.Fits text.toUTF8.size)
      (stored : out.sink = writer.sink.store text.toUTF8) :
      Wrote writer text lines (.error .sinkFull, out)

def Writes (annotate : Bool) (step : Emit Unit) (text : String) (lines : Nat) : Prop :=
  ∀ writer : Writer, writer.annotate = annotate → Wrote writer text lines (step.runFrom writer)

section
variable {annotate : Bool}

theorem putsNothing : Puts annotate (pure ()) "" := by
  intro writer same
  have none : writer.sink.fitting "".toUTF8.size = 0 := Nat.le_zero.mp (Sink.fittingLe writer.sink 0)
  have fits : writer.sink.Fits "".toUTF8.size := none
  rw [if_pos fits, Sink.storeNone none]
  rfl

theorem textPuts (text : String) : Puts annotate (Writer.text text) text := by
  intro writer same
  rw [Writer.text, Writer.toSink, Step.runFromOnPart, Sink.write, Step.runFromBind, Step.runFromGet]
  simp only [Step.runFromBind, Step.runFromSet]
  by_cases fits : writer.sink.Fits text.toUTF8.size
  · rw [if_pos fits, if_neg (by rw [show writer.sink.fitting _ = _ from fits]; exact Nat.lt_irrefl _)]
    rfl
  · have less : writer.sink.fitting text.toUTF8.size < text.toUTF8.size :=
      Nat.lt_of_le_of_ne (Sink.fittingLe _ _) fits
    rw [if_neg fits, if_pos less]
    rfl

theorem putsBind {first second : Emit Unit} {text more : String} (left : Puts annotate first text)
    (right : Puts annotate second more) : Puts annotate (do first; second) (text ++ more) := by
  intro writer same
  rw [Step.runFromBind, left writer same]
  by_cases fits : writer.sink.Fits text.toUTF8.size
  · simp only [Sink.fitsText, Sink.storeText, fits, if_true, true_and]
    exact right { writer with sink := writer.sink.store text.toUTF8 } same
  · simp only [Sink.fitsText, Sink.storeFull fits, fits, if_false, false_and]

/- The line is counted after what comes before its end and before the end itself, so a line whose end does
not fit counts and one whose comment does not fit does not. -/
theorem putsLine {step : Emit Unit} {text : String} (puts : Puts annotate step text) (writer : Writer)
    (same : writer.annotate = annotate) :
    (do step; Writer.newline).runFrom writer =
      (if writer.sink.Fits (text ++ "\n").toUTF8.size then .ok () else .error .sinkFull,
        { writer with
          sink := writer.sink.store (text ++ "\n").toUTF8
          lines := writer.lines + if writer.sink.Fits text.toUTF8.size then 1 else 0 }) := by
  rw [Step.runFromBind, puts writer same]
  by_cases fits : writer.sink.Fits text.toUTF8.size
  · simp only [Sink.fitsText, Sink.storeText, fits, if_true, true_and]
    exact textPuts "\n" { writer with sink := writer.sink.store text.toUTF8, lines := writer.lines + 1 } same
  · simp only [Sink.fitsText, Sink.storeFull fits, fits, if_false, false_and]
    rfl

theorem warningsPut (diagnostics : List Diagnostic) :
    Puts annotate (Writer.warnings diagnostics) (warningText diagnostics) := by
  induction diagnostics with
  | nil => exact putsNothing
  | cons diagnostic rest ih => exact putsBind (textPuts _) ih

theorem declarationPuts (name : String) (type : DeclaredType) :
    Puts annotate (Writer.declaration name type)
      (safeName name ++ " = " ++ initialValue type ++
        if annotate then declarationNote name type else "") := by
  have note : Puts annotate (do if (← get).annotate then Writer.text (declarationNote name type))
      (if annotate then declarationNote name type else "") := by
    intro writer same
    rw [Step.runFromBind, Step.runFromGet]
    cases annotate with
    | true =>
      simp only [same, if_true]
      simpa only [same] using textPuts (declarationNote name type) writer same
    | false =>
      simp only [same, Bool.false_eq_true, if_false]
      simpa only [same] using putsNothing writer same
  exact putsBind (textPuts _) note

theorem performRun {operation : Operation} (writing : operation ≠ .flush) (writer : Writer)
    (same : writer.annotate = annotate) :
    operation.perform.runFrom writer =
      (if writer.sink.Fits (operation.text annotate).toUTF8.size then .ok () else .error .sinkFull,
        { writer with
          sink := writer.sink.store (operation.text annotate).toUTF8
          lines := writer.lines + if writer.sink.Fits operation.lead.toUTF8.size then operation.lines else 0 }) := by
  have plain {step : Emit Unit} {text : String} (puts : Puts annotate step text) (lead : String) :
      step.runFrom writer =
        (if writer.sink.Fits text.toUTF8.size then .ok () else .error .sinkFull,
          { writer with
            sink := writer.sink.store text.toUTF8
            lines := writer.lines + if writer.sink.Fits lead.toUTF8.size then 0 else 0 }) := by
    rw [ite_self, Nat.add_zero]
    exact puts writer same
  cases operation with
  | openPrint | closePrint | inputCall | equals | name | number => exact plain (textPuts _) _
  | declaration text type => exact plain (declarationPuts text type) _
  | header => exact putsLine (textPuts headerText) writer same
  | endLine diagnostics => exact putsLine (warningsPut diagnostics) writer same
  | flush => exact absurd rfl writing

theorem leadFits {operation : Operation} {writer : Writer}
    (fits : writer.sink.Fits (operation.text annotate).toUTF8.size) :
    writer.sink.Fits operation.lead.toUTF8.size := by
  have nothing : writer.sink.Fits "".toUTF8.size := Nat.le_zero.mp (Sink.fittingLe writer.sink 0)
  cases operation with
  | header | endLine => exact ((Sink.fitsText _ _ _).mp fits).1
  | _ => exact nothing

theorem operationWrites {operation : Operation} (writing : operation ≠ .flush) :
    Writes annotate operation.perform (operation.text annotate) operation.lines := by
  intro writer same
  rw [performRun writing writer same]
  by_cases fits : writer.sink.Fits (operation.text annotate).toUTF8.size
  · rw [if_pos fits, if_pos (leadFits fits)]
    exact .all fits
  · rw [if_neg fits]
    exact .part fits rfl

theorem writesNothing : Writes annotate (pure ()) "" 0 := by
  intro writer same
  have ran := putsNothing writer same
  have fits : writer.sink.Fits "".toUTF8.size := Nat.le_zero.mp (Sink.fittingLe writer.sink 0)
  rw [if_pos fits] at ran
  rw [ran]
  exact .all fits

theorem writesBind {first second : Emit Unit} {text more : String} {lines count : Nat}
    (left : Writes annotate first text lines) (right : Writes annotate second more count) :
    Writes annotate (do first; second) (text ++ more) (lines + count) := by
  intro writer same
  have fitsBoth := Sink.fitsText writer.sink text more
  have storeBoth := Sink.storeText writer.sink text more
  have here := left writer same
  rw [Step.runFromBind]
  generalize first.runFrom writer = result at here
  cases here with
  | all fits =>
    have there := right
      { writer with sink := writer.sink.store text.toUTF8, lines := writer.lines + lines } same
    simp only
    generalize second.runFrom _ = result at there
    cases there with
    | all fits' =>
      have wrote : Wrote writer (text ++ more) (lines + count) _ := .all (fitsBoth.mpr ⟨fits, fits'⟩)
      rwa [storeBoth, ← Nat.add_assoc] at wrote
    | part full' stored' => exact .part (fun fits => full' (fitsBoth.mp fits).2) (stored'.trans storeBoth.symm)
  | part full stored =>
    exact .part (fun fits => full (fitsBoth.mp fits).1) (stored.trans (Sink.storeFull full more).symm)

theorem performAllWrites {operations : List Operation} (writing : .flush ∉ operations) :
    Writes annotate (performAll operations) (textOf annotate operations) (linesOf operations) := by
  induction operations with
  | nil => exact writesNothing
  | cons operation rest ih =>
    simp only [List.mem_cons, not_or] at writing
    obtain ⟨first, later⟩ := writing
    exact writesBind (operationWrites (Ne.symm first)) (ih later)

end

theorem flushPerformed (writer : Writer) :
    Operation.flush.perform.runFrom writer =
      (if writer.sink.flushFails then .error .flushFailed else .ok (), writer) := by
  have flushed : Operation.flush.perform = Writer.toSink Sink.flush := rfl
  rw [flushed, Writer.toSink, Step.runFromOnPart, Sink.flush, Step.runFromBind, Step.runFromGet]
  cases h : writer.sink.flushFails with
  | true => simp only [h]; rfl
  | false => simp only [h]; rfl

theorem flushRun (writer : Writer) :
    (performAll [.flush]).runFrom writer =
      (if writer.sink.flushFails then .error .flushFailed else .ok (), writer) := by
  rw [performAllCons, flushPerformed]
  cases writer.sink.flushFails <;> rfl

end Target

namespace Pass

open Target (Operation textOf linesOf)

theorem settleWriting (control : Control) (frame : Frame) (depth : Nat) :
    .flush ∉ (control.settle frame depth).1 := by
  cases depth with
  | zero => cases frame <;> simp [Control.settle, Frame.close]
  | succ depth => simp [Control.settle]

theorem settledWriting {control : Control} {frame : Frame} {depth : Nat} {operations : List Operation}
    (writing : .flush ∉ operations) : .flush ∉ (control.settled frame depth operations).operations := by
  simp only [Control.settled, List.mem_append, not_or]
  exact ⟨writing, settleWriting control frame depth⟩

theorem statementWriting (control : Control) (token : Token) :
    .flush ∉ (control.stepStatement token).operations := by
  unfold Control.stepStatement
  split <;> simp [Control.go, Control.refuse]

theorem closingWriting (control : Control) (frame : Frame) (depth : Nat) (token : Token) :
    .flush ∉ (control.stepClosing frame depth token).operations := by
  unfold Control.stepClosing
  split
  · exact settledWriting (by simp)
  · simp [Control.refuse]

theorem expressionWriting (control : Control) (frame : Frame) (depth : Nat) (token : Token) :
    .flush ∉ (control.stepExpression frame depth token).operations := by
  unfold Control.stepExpression
  split
  · simp [Control.go]
  · simp [Control.go]
  · exact settledWriting (by simp)
  · exact settledWriting (by simp)
  · simp [Control.refuse]

theorem stepWriting (control : Control) (token : Token) : .flush ∉ (control.step token).operations := by
  unfold Control.step
  split
  · split <;> simp [Control.go, Control.refuse]
  · exact statementWriting control token
  · split <;> simp [Control.go, Control.refuse]
  · split
    · exact settledWriting (by simp)
    · simp [Control.refuse]
  · split <;> simp [Control.go, Control.refuse]
  · exact expressionWriting control _ _ token
  · rename_i frame depth here
    split
    · simp [Control.go]
    · cases depth with
      | zero =>
        have finished := statementWriting control.finish token
        have settled := settleWriting control frame 0
        simp only [Control.resume, Move.after, List.mem_append, not_or]
        exact ⟨by simp, settled, finished⟩
      | succ depth =>
        have closed := closingWriting (control.turn (.closing frame depth)) frame depth token
        simp only [Control.resume, Move.after, List.mem_append, not_or]
        exact ⟨by simp, closed⟩
  · split
    · exact settledWriting (by simp)
    · simp [Control.refuse]
  · exact closingWriting control _ _ token
  · simp [Control.refuse]

theorem runWriting (fault : Option LexError) (tokens : List Token) (control : Control) :
    .flush ∉ (run fault tokens control).operations := by
  induction tokens generalizing control with
  | nil => cases fault <;> simp [run]
  | cons token rest ih =>
    have here := stepWriting control token
    unfold run
    split
    · rename_i next _
      simp only [Course.afterOperations, List.mem_append, not_or]
      exact ⟨here, ih next⟩
    · exact here

theorem courseWriting (options : Options) (source : String) :
    .flush ∉ (course options source).operations := by
  simp only [course, Course.afterOperations, List.mem_append, not_or]
  refine ⟨?_, runWriting _ _ _⟩
  cases options.header <;> simp [headerOperations]

end Pass

open Pass (Course)
open Target (textOf linesOf)

theorem compileInto (options : Options) (source : String) (sink : Sink) :
    let course := Pass.course options source
    let text := textOf options.annotate course.operations
    compile options source sink =
      (if sink.Fits text.toUTF8.size then
          if sink.flushFails && course.ending.isOk then .error (.io .flushFailed)
          else course.verdict options.context (linesOf course.operations)
        else .error (.io .sinkFull),
        sink.store text.toUTF8) := by
  intro course text
  have wrote : Target.Wrote { sink, annotate := options.annotate } text (linesOf course.operations)
      ((Target.performAll course.operations).runFrom { sink, annotate := options.annotate }) :=
    Target.performAllWrites (Pass.courseWriting options source) _ rfl
  rw [compileRuns]
  show course.result options sink = _
  rw [Course.result]
  generalize ran : (Target.performAll course.operations).runFrom _ = result at wrote
  cases ending : course.ending with
  | ok control =>
    simp only [Course.allOperations, ending, Target.performAllAppend, ran]
    cases wrote with
    | all fits =>
      simp only [if_pos fits, Target.flushRun, Sink.store]
      cases sink.flushFails with
      | true => rfl
      | false => simp
    | part full stored => simp only [if_neg full, stored]
  | error stop =>
    simp only [Course.allOperations, ending, ran]
    cases wrote with
    | all fits =>
      simp only [if_pos fits]
      simp [Except.isOk, Except.toBool]
    | part full stored => simp only [if_neg full, stored]

theorem compileUnfailing (options : Options) (source : String) (bytes : ByteArray) :
    compile options source { bytes } =
      ((Pass.course options source).verdict options.context
          (linesOf (Pass.course options source).operations),
        { bytes := bytes ++
            (textOf options.annotate (Pass.course options source).operations).toUTF8 }) := by
  have fits (count : Nat) : ({ bytes } : Sink).Fits count := rfl
  rw [compileInto, if_pos (fits _), Sink.store, fits, ByteArray.extract_zero_size]
  rfl

end Linewise
