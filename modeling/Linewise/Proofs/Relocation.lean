import Linewise.Proofs.Emission

/-! Places are carried along and never looked at. A pass over tokens that stand elsewhere takes the same
course: it names the same operations, remarks on the same names at their new places, and refuses the same
token. No operation writes a place, so the text does not change at all. -/
namespace Linewise

def Token.relocate (place : Position → Position) (token : Token) : Token :=
  { token with pos := place token.pos }

def Diagnostic.relocate (place : Position → Position) (remark : Diagnostic) : Diagnostic :=
  { remark with pos := place remark.pos }

namespace Target

def Operation.relocate (place : Position → Position) : Operation → Operation
  | .endLine remarks => .endLine (remarks.map (Diagnostic.relocate place))
  | other => other

variable (place : Position → Position) (annotate : Bool)

theorem warningRelocate (remarks : List Diagnostic) :
    warningText (remarks.map (Diagnostic.relocate place)) = warningText remarks := by
  induction remarks with
  | nil => rfl
  | cons remark rest ih =>
    have same : (remark.relocate place).text = remark.text := rfl
    simp only [List.map_cons, warningText, warningNote, ih, same]

theorem textRelocate (operation : Operation) :
    (operation.relocate place).text annotate = operation.text annotate := by
  cases operation with
  | endLine remarks => simp only [Operation.relocate, Operation.text, warningRelocate]
  | _ => rfl

theorem textOfRelocate (operations : List Operation) :
    textOf annotate (operations.map (Operation.relocate place)) = textOf annotate operations := by
  induction operations with
  | nil => rfl
  | cons operation rest ih => simp only [List.map_cons, textOf, textRelocate, ih]

end Target

namespace Pass

open Target (Operation)

section
variable (place : Position → Position)

def Control.relocate (control : Control) : Control :=
  { control with
    pending := control.pending.map (Diagnostic.relocate place)
    diagnostics := control.diagnostics.map (Diagnostic.relocate place) }

def Move.relocate (move : Move) : Move where
  operations := move.operations.map (Operation.relocate place)
  next := move.next.map (Control.relocate place)

def Stop.relocate : Stop → Stop
  | .lex error => .lex error
  | .refused expected found rest =>
    .refused expected (found.relocate place) (rest.map (Token.relocate place))

def Course.relocate (course : Course) : Course where
  operations := course.operations.map (Operation.relocate place)
  ending := (course.ending.map (Control.relocate place)).mapError (Stop.relocate place)

end

variable {place : Position → Position}

theorem resolveRelocate (control : Control) (name : String) (pos : Position) :
    (control.relocate place).resolve name (place pos) = (control.resolve name pos).relocate place := by
  unfold Control.resolve
  cases h : control.scopes.isDeclared name with
  | true =>
    have known : (control.relocate place).scopes.isDeclared name = true := h
    rw [if_pos known, if_pos rfl]
  | false =>
    have unknown : ¬ (control.relocate place).scopes.isDeclared name = true := by simp [Control.relocate, h]
    rw [if_neg unknown, if_neg (by simp)]
    simp [Control.remark, Control.relocate, Diagnostic.relocate]

theorem declareRelocate (control : Control) (name : String) (type : DeclaredType) (pos : Position) :
    (control.relocate place).declare name type (place pos) =
      (control.declare name type pos).relocate place := by
  have scopes : (control.relocate place).scopes = control.scopes := rfl
  simp only [Control.declare, scopes]
  split
  · simp [Control.remark, Control.relocate, Diagnostic.relocate]
  · rfl

theorem settleRelocate (control : Control) (frame : Frame) (depth : Nat) :
    (control.relocate place).settle frame depth =
      ((control.settle frame depth).1.map (Operation.relocate place),
        (control.settle frame depth).2.relocate place) := by
  cases depth with
  | zero => cases frame <;> simp [Control.settle, Control.finish, Control.relocate, Frame.close,
      Operation.relocate]
  | succ depth => rfl

theorem settledRelocate (control : Control) (frame : Frame) (depth : Nat) (operations : List Operation) :
    (control.relocate place).settled frame depth (operations.map (Operation.relocate place)) =
      (control.settled frame depth operations).relocate place := by
  simp only [Control.settled, settleRelocate, Move.relocate, List.map_append]
  rfl

theorem statementRelocate (control : Control) (token : Token) :
    (control.relocate place).stepStatement (token.relocate place) =
      (control.stepStatement token).relocate place := by
  obtain ⟨lexeme, pos⟩ := token
  cases lexeme with
  | keyword word => cases word <;> rfl
  | name text =>
    show ((control.relocate place).resolve text (place pos)).go _ _ = _
    rw [resolveRelocate]
    rfl
  | _ => rfl

theorem closingRelocate (control : Control) (frame : Frame) (depth : Nat) (token : Token) :
    (control.relocate place).stepClosing frame depth (token.relocate place) =
      (control.stepClosing frame depth token).relocate place := by
  have same : (token.relocate place).lexeme = token.lexeme := rfl
  unfold Control.stepClosing
  rw [same]
  split
  · exact settledRelocate control frame depth []
  · rfl

theorem expressionRelocate (control : Control) (frame : Frame) (depth : Nat) (token : Token) :
    (control.relocate place).stepExpression frame depth (token.relocate place) =
      (control.stepExpression frame depth token).relocate place := by
  obtain ⟨lexeme, pos⟩ := token
  cases lexeme with
  | keyword word => cases word <;> rfl
  | symbol sign => cases sign <;> rfl
  | name text =>
    show ((control.relocate place).resolve text (place pos)).settled _ _ _ = _
    rw [resolveRelocate]
    exact settledRelocate (control.resolve text pos) frame depth [.name text]
  | number value => exact settledRelocate control frame depth [.number value]
  | _ => rfl

theorem afterRelocate (move : Move) (operations : List Operation) :
    (move.relocate place).after (operations.map (Operation.relocate place)) =
      (move.after operations).relocate place := by
  simp [Move.after, Move.relocate]

theorem resumeRelocate (control : Control) (frame : Frame) (token : Token) (depth : Nat) :
    (control.relocate place).resume frame (token.relocate place) depth =
      (control.resume frame token depth).relocate place := by
  cases depth with
  | zero =>
    have finished : (control.relocate place).finish = control.finish.relocate place := by
      simp [Control.finish, Control.relocate]
    simp only [Control.resume, finished, statementRelocate, settleRelocate, afterRelocate]
  | succ depth => exact closingRelocate (control.turn (.closing frame depth)) frame depth token

theorem stepRelocate (control : Control) (token : Token) :
    (control.relocate place).step (token.relocate place) = (control.step token).relocate place := by
  have phase : (control.relocate place).phase = control.phase := rfl
  have lexeme : (token.relocate place).lexeme = token.lexeme := rfl
  cases here : control.phase with
  | start | equals =>
    simp only [Control.step, phase, here, lexeme]
    split <;> rfl
  | statement =>
    simp only [Control.step, phase, here]
    exact statementRelocate control token
  | typeName =>
    simp only [Control.step, phase, here, lexeme]
    split <;> rfl
  | declaredName type =>
    simp only [Control.step, phase, here, lexeme]
    split
    · show ((control.relocate place).declare _ type (place token.pos)).settled _ _ _ = _
      rw [declareRelocate]
      exact settledRelocate _ .plain 0 [.declaration _ type]
    · rfl
  | expression frame depth =>
    simp only [Control.step, phase, here]
    exact expressionRelocate control frame depth token
  | inputParens frame depth =>
    simp only [Control.step, phase, here, lexeme]
    split
    · rfl
    · rw [resumeRelocate]
      exact afterRelocate _ [.inputCall]
  | inputClose frame depth =>
    simp only [Control.step, phase, here, lexeme]
    split
    · exact settledRelocate control frame depth [.inputCall]
    · rfl
  | closing frame depth =>
    simp only [Control.step, phase, here]
    exact closingRelocate control frame depth token
  | finished =>
    simp only [Control.step, phase, here]
    rfl

theorem runRelocate (fault : Option LexError) (tokens : List Token) (control : Control) :
    run fault (tokens.map (Token.relocate place)) (control.relocate place) =
      (run fault tokens control).relocate place := by
  induction tokens generalizing control with
  | nil => cases fault <;> rfl
  | cons token rest ih =>
    cases h : control.step token with
    | mk operations next =>
      have moved : (control.relocate place).step (token.relocate place) = _ := stepRelocate control token
      rw [h] at moved
      cases next with
      | ok next =>
        rw [List.map_cons, runMoved moved, runMoved h, ih]
        simp [Course.relocate, Course.after]
      | error expected =>
        rw [List.map_cons, runRefused moved, runRefused h]
        rfl

/- Lists of the same lexemes are one list once all places are forgotten, and so are their courses. -/
theorem runAlike (fault : Option LexError) {first second : List Token}
    (alike : first.map Token.lexeme = second.map Token.lexeme) :
    (run fault first {}).relocate (fun _ => {}) = (run fault second {}).relocate fun _ => {} := by
  have bare (tokens : List Token) : tokens.map (Token.relocate fun _ => {}) =
      (tokens.map Token.lexeme).map fun lexeme => ⟨lexeme, {}⟩ := by
    simp [Token.relocate]
  have fresh : ({} : Control).relocate (fun _ => {}) = {} := rfl
  rw [← runRelocate, ← runRelocate, fresh, bare, bare, alike]

end Pass

end Linewise
