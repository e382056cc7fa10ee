import Linewise.Proofs.Capacity

/-! Operations tried one after the other on a sink of limited size, each of them whatever came of those
before it. The sink holds what comes first of all that they would write. Once it is full an operation fails
exactly if it has something to write, and a line is counted as soon as all that stands before its end was
taken, whether or not the end is. -/
namespace Linewise

theorem Sink.fitsAfter (limit : Nat) (flushFails : Bool) (written : ByteArray) (count : Nat) :
    (Sink.store { limit := some limit, flushFails } written).Fits count ↔
      count = 0 ∨ written.size + count ≤ limit := by
  have stored : (Sink.store { limit := some limit, flushFails } written).bytes.size =
      min written.size limit := by
    rw [Sink.storeLimit, ByteArray.size_extract]
    omega
  show min count (limit - (Sink.store { limit := some limit, flushFails } written).bytes.size) = count ↔ _
  rw [stored]
  omega

namespace Target

def tryAll : List Operation → Writer → Writer
  | [], writer => writer
  | operation :: later, writer => tryAll later (operation.perform.runFrom writer).2

def Operation.Counts (limit : Nat) (written : String) : Operation → Prop
  | .header => (written ++ headerText).toUTF8.size ≤ limit
  | .endLine diagnostics => diagnostics = [] ∨ (written ++ warningText diagnostics).toUTF8.size ≤ limit
  | .openPrint | .closePrint | .inputCall | .equals | .name _ | .number _ | .declaration _ _
  | .flush => False

theorem performStored (operation : Operation) (writer : Writer) :
    (operation.perform.runFrom writer).2.sink =
        writer.sink.store (operation.text writer.annotate).toUTF8 ∧
      (operation.perform.runFrom writer).2.annotate = writer.annotate := by
  by_cases flush : operation = .flush
  · subst flush
    have none : writer.sink.fitting "".toUTF8.size = 0 := Nat.le_zero.mp (Sink.fittingLe writer.sink 0)
    rw [flushPerformed]
    exact ⟨(Sink.storeNone none).symm, rfl⟩
  · rw [performRun flush writer rfl]
    exact ⟨rfl, rfl⟩

theorem tryAllStored (operations : List Operation) (writer : Writer) :
    (tryAll operations writer).sink = writer.sink.store (textOf writer.annotate operations).toUTF8 ∧
      (tryAll operations writer).annotate = writer.annotate := by
  induction operations generalizing writer with
  | nil =>
    have none : writer.sink.fitting "".toUTF8.size = 0 := Nat.le_zero.mp (Sink.fittingLe writer.sink 0)
    exact ⟨(Sink.storeNone none).symm, rfl⟩
  | cons operation later ih =>
    obtain ⟨stored, same⟩ := performStored operation writer
    obtain ⟨rest, kept⟩ := ih (operation.perform.runFrom writer).2
    rw [stored, same] at rest
    exact ⟨rest.trans (Sink.storeText _ _ _).symm, kept.trans same⟩

theorem warningTextEmpty (diagnostics : List Diagnostic) :
    warningText diagnostics = "" ↔ diagnostics = [] := by
  cases diagnostics with
  | nil => simp [warningText]
  | cons diagnostic rest => simp [warningText, warningNote]

section
variable {limit : Nat} {flushFails : Bool} {written : String} {writer : Writer}
  (stored : writer.sink = Sink.store { limit := some limit, flushFails } written.toUTF8)
include stored

theorem storedFits (text : String) :
    writer.sink.Fits text.toUTF8.size ↔ text = "" ∨ (written ++ text).toUTF8.size ≤ limit := by
  have size : (written ++ text).toUTF8.size = written.toUTF8.size + text.toUTF8.size := by
    rw [show (written ++ text).toUTF8 = written.toUTF8 ++ text.toUTF8 from String.toByteArray_append,
      ByteArray.size_append]
  have empty : text.toUTF8.size = 0 ↔ text = "" := String.utf8ByteSize_eq_zero_iff
  rw [stored, Sink.fitsAfter, empty, size]

theorem storedFull (text : String) :
    ¬ writer.sink.Fits text.toUTF8.size ↔ text ≠ "" ∧ limit < (written ++ text).toUTF8.size := by
  rw [storedFits stored, not_or, Nat.not_le]

theorem storedCounts (operation : Operation) :
    operation.Counts limit written ↔
      operation.lines = 1 ∧ writer.sink.Fits operation.lead.toUTF8.size := by
  rw [storedFits stored]
  cases operation with
  | header =>
    have some : headerText ≠ "" := by simp [headerText]
    simp [Operation.Counts, Operation.lines, Operation.lead, some]
  | endLine diagnostics => simp [Operation.Counts, Operation.lines, Operation.lead, warningTextEmpty]
  | _ => simp [Operation.Counts, Operation.lines]

theorem storedOutcome {operation : Operation} (writing : operation ≠ .flush) {annotate : Bool}
    (same : writer.annotate = annotate) :
    (operation.perform.runFrom writer).1 =
      if operation.text annotate ≠ "" ∧ limit < (written ++ operation.text annotate).toUTF8.size then
        .error .sinkFull
      else .ok () := by
  rw [performRun writing writer same]
  simp only [← storedFull stored, ite_not]

theorem storedLines (operation : Operation) :
    (operation.Counts limit written → (operation.perform.runFrom writer).2.lines = writer.lines + 1) ∧
      (¬ operation.Counts limit written → (operation.perform.runFrom writer).2.lines = writer.lines) := by
  rw [storedCounts stored]
  by_cases flush : operation = .flush
  · subst flush
    rw [flushPerformed]
    exact ⟨fun both => absurd both.1 (by simp [Operation.lines]), fun _ => rfl⟩
  · rw [performRun flush writer rfl]
    have few : operation.lines = 0 ∨ operation.lines = 1 := by cases operation <;> simp [Operation.lines]
    constructor
    · intro counted
      simp only [if_pos counted.2, counted.1]
    · intro uncounted
      by_cases room : writer.sink.Fits operation.lead.toUTF8.size
      · have none := few.resolve_right fun one => uncounted ⟨one, room⟩
        simp only [if_pos room, none, Nat.add_zero]
      · simp only [if_neg room, Nat.add_zero]

end

end Target

open Target (Operation Writer textOf tryAll)

theorem operationsTried (annotate flushFails : Bool) (limit : Nat) (before : List Operation)
    (operation : Operation) :
    let start : Writer := { sink := { limit := some limit, flushFails }, annotate }
    let written := textOf annotate before
    let writer := tryAll before start
    let result := operation.perform.runFrom writer
    writer.sink.bytes = written.toUTF8.extract 0 limit ∧
    (operation ≠ .flush → result.1 =
      if operation.text annotate ≠ "" ∧ limit < (written ++ operation.text annotate).toUTF8.size then
        .error .sinkFull
      else .ok ()) ∧
    (operation = .flush → result = (if flushFails then .error .flushFailed else .ok (), writer)) ∧
    (operation.Counts limit written → result.2.lines = writer.lines + 1) ∧
    (¬ operation.Counts limit written → result.2.lines = writer.lines) := by
  intro start written writer result
  obtain ⟨stored, same⟩ : writer.sink = Sink.store { limit := some limit, flushFails } written.toUTF8 ∧
    writer.annotate = annotate := Target.tryAllStored before start
  have bytes : writer.sink.bytes = written.toUTF8.extract 0 limit := by
    rw [stored]
    exact Sink.storeLimit limit flushFails _
  have flushed (flush : operation = .flush) :
      result = (if flushFails then .error .flushFailed else .ok (), writer) := by
    have ran := Target.flushPerformed writer
    have fails : writer.sink.flushFails = flushFails := by rw [stored]; rfl
    rwa [fails, ← flush] at ran
  exact ⟨bytes, fun writing => Target.storedOutcome stored writing same, flushed,
    Target.storedLines stored operation⟩

/- The warning is cut after two bytes, and from there on the sink is full: an empty name still succeeds, the
end of a line fails and is counted, and a header fails before its line is. -/
theorem operationsTriedSample :
    let remark : Diagnostic := ⟨.undeclared, "if", {}⟩
    let full : List Operation := [.openPrint, .name "if", .closePrint, .endLine [remark]]
    let writer := tryAll full { sink := { limit := some 12, flushFails := true } }
    let after (operation : Operation) := operation.perform.runFrom writer
    writer.sink.bytes = "print(if_)  ".toUTF8 ∧
    (after (.name "")).1 = .ok () ∧
    (after (.endLine [])).1 = .error .sinkFull ∧ (after (.endLine [])).2.lines = writer.lines + 1 ∧
    (after .header).1 = .error .sinkFull ∧ (after .header).2.lines = writer.lines ∧
    after .flush = (.error .flushFailed, writer) := by
  intro remark full writer after
  have tried := operationsTried true true 12 full
  obtain ⟨bytes, named, _⟩ := tried (.name "")
  obtain ⟨_, ended, _, counted, _⟩ := tried (.endLine [])
  obtain ⟨_, headed, _, _, uncounted⟩ := tried .header
  obtain ⟨_, _, flushed, _⟩ := tried .flush
  have first : (textOf true full).toUTF8.extract 0 12 = "print(if_)  ".toUTF8 := by decide +kernel
  have room : Operation.text true (.name "") = "" := by decide +kernel
  have noEnd : 12 < (textOf true full ++ Operation.text true (.endLine [])).toUTF8.size := by decide +kernel
  have noHeader : 12 < (textOf true full ++ Operation.text true .header).toUTF8.size := by decide +kernel
  have noComment : ¬ (textOf true full ++ Target.headerText).toUTF8.size ≤ 12 := by decide +kernel
  unfold after writer
  exact ⟨bytes.trans first, (named nofun).trans (if_neg fun both => both.1 room),
    (ended nofun).trans (if_pos ⟨by decide +kernel, noEnd⟩), counted (.inl rfl),
    (headed nofun).trans (if_pos ⟨by decide +kernel, noHeader⟩), uncounted noComment, flushed rfl⟩

end Linewise
