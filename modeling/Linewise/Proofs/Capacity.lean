import Linewise.Proofs.Emission

/-! Compiling into a sink of limited size, against the same compilation into one without a limit. The
limited sink is left with what comes first of the whole output. Only when all of it fits does the outcome
of the compilation show, and only a compilation that succeeds goes on to flush the sink. -/
namespace Linewise

open Pass (Course)

theorem Sink.fitsLimit (limit count : Nat) (flushFails : Bool) :
    Sink.Fits { limit := some limit, flushFails } count ↔ count ≤ limit := by
  show min count (limit - 0) = count ↔ count ≤ limit
  omega

theorem Sink.storeLimit (limit : Nat) (flushFails : Bool) (added : ByteArray) :
    (Sink.store { limit := some limit, flushFails } added).bytes = added.extract 0 limit := by
  have size : added.data.size = added.size := rfl
  show .empty ++ added.extract 0 (min added.size (limit - 0)) = _
  rw [ByteArray.empty_append]
  apply ByteArray.ext
  rw [ByteArray.data_extract, ByteArray.data_extract, Array.extract_eq_extract_right]
  omega

namespace Pass.Course

theorem verdictNotIo (course : Course) (context lines : Nat) (error : IoError) :
    course.verdict context lines ≠ .error (.io error) := by
  unfold verdict
  cases course.ending with
  | ok control => simp
  | error stop => cases stop <;> simp [Stop.error]

theorem verdictIsOk (course : Course) (context lines : Nat) :
    (course.verdict context lines).isOk = course.ending.isOk := by
  unfold verdict
  cases course.ending <;> rfl

end Pass.Course

theorem compileLimited (options : Options) (source : String) (limit : Nat) (flushFails : Bool) :
    let whole := compile options source .unlimited
    let limited := compile options source { limit := some limit, flushFails }
    limited.2.bytes = whole.2.bytes.extract 0 limit ∧
      limited.1 =
        if whole.2.bytes.size ≤ limit then
          if flushFails && whole.1.isOk then .error (.io .flushFailed) else whole.1
        else .error (.io .sinkFull) := by
  intro whole limited
  have unlimited : whole = _ := compileUnfailing options source .empty
  have bounded : limited = _ := compileInto options source { limit := some limit, flushFails }
  rw [ByteArray.empty_append] at unlimited
  rw [unlimited, bounded]
  simp only [Sink.fitsLimit, Pass.Course.verdictIsOk]
  exact ⟨Sink.storeLimit limit flushFails _, trivial⟩

theorem sinkKeepsPrefix (options : Options) (source : String) (limit : Nat) :
    let whole := compile options source .unlimited
    let limited := compile options source { limit := some limit }
    let unflushed := compile options source { limit := some limit, flushFails := true }
    limited.2.bytes = whole.2.bytes.extract 0 limit ∧
    (whole.2.bytes.size ≤ limit → limited.1 = whole.1) ∧
    (limit < whole.2.bytes.size → limited.1 = .error (.io .sinkFull)) ∧
    (∀ error, whole.1 ≠ .error (.io error)) ∧
    unflushed.2.bytes = limited.2.bytes ∧
    (unflushed.1 = .error (.io .flushFailed) ↔
      whole.2.bytes.size ≤ limit ∧ ∃ summary, whole.1 = .ok summary) ∧
    (unflushed.1 ≠ .error (.io .flushFailed) → unflushed.1 = limited.1) := by
  intro whole limited unflushed
  have notIo (error : IoError) : whole.1 ≠ .error (.io error) := by
    have unlimited : whole = _ := compileUnfailing options source .empty
    rw [unlimited]
    exact Pass.Course.verdictNotIo _ _ _ error
  obtain ⟨kept, outcome⟩ := compileLimited options source limit false
  obtain ⟨kept', outcome'⟩ := compileLimited options source limit true
  have outcome : limited.1 =
      if whole.2.bytes.size ≤ limit then whole.1 else .error (.io .sinkFull) := outcome
  have outcome' : unflushed.1 =
      if whole.2.bytes.size ≤ limit then
        if whole.1.isOk then .error (.io .flushFailed) else whole.1
      else .error (.io .sinkFull) := outcome'
  refine ⟨kept, ?_, ?_, notIo, kept'.trans kept.symm, ?_⟩
  · intro fits
    rw [outcome, if_pos fits]
  · intro exceeds
    rw [outcome, if_neg (Nat.not_le.mpr exceeds)]
  · rw [outcome, outcome']
    generalize whole.1 = result at notIo ⊢
    by_cases fits : whole.2.bytes.size ≤ limit
    · simp only [if_pos fits]
      cases result with
      | ok summary => simp [fits, Except.isOk, Except.toBool]
      | error error => simpa [fits, Except.isOk, Except.toBool] using notIo .flushFailed
    · simp [fits]

/- The first sink is full before the missing operand is met; the second takes all, and the fault shows. A
sink that cannot be flushed matters only to the compilation that succeeds. -/
theorem sinkKeepsPrefixSample :
    (compile { header := false } "print 7 print" { limit := some 10 }).1 = .error (.io .sinkFull) ∧
      (compile { header := false } "print 7 print" { limit := some 10 }).2.bytes =
        "print(7)\np".toUTF8 ∧
      (compile { header := false } "print 7 print" { limit := some 15, flushFails := true }).1 =
        (compile { header := false } "print 7 print" .unlimited).1 ∧
      (compile { header := false } "print 7" { limit := some 9, flushFails := true }).1 =
        .error (.io .flushFailed) := by
  have size : (compile { header := false } "print 7 print" .unlimited).2.bytes.size = 15 := by
    decide +kernel
  have first : (compile { header := false } "print 7 print" .unlimited).2.bytes.extract 0 10 =
    "print(7)\np".toUTF8 := by decide +kernel
  have fails : (compile { header := false } "print 7 print" .unlimited).1.isOk = false := by
    decide +kernel
  have fits : (compile { header := false } "print 7" .unlimited).2.bytes.size ≤ 9 := by
    decide +kernel
  have succeeds : (compile { header := false } "print 7" .unlimited).1.isOk = true := by
    decide +kernel
  obtain ⟨kept, _, full, _⟩ := sinkKeepsPrefix { header := false } "print 7 print" 10
  obtain ⟨_, same, _, _, _, flush, other⟩ := sinkKeepsPrefix { header := false } "print 7 print" 15
  obtain ⟨_, _, _, _, _, unflushed, _⟩ := sinkKeepsPrefix { header := false } "print 7" 9
  refine ⟨full (by omega), kept.trans first, (other ?_).trans (same (by omega)), unflushed.mpr ⟨fits, ?_⟩⟩
  · intro failed
    obtain ⟨_, summary, ok⟩ := flush.mp failed
    simp [ok, Except.isOk, Except.toBool] at fails
  · cases result : (compile { header := false } "print 7" .unlimited).1 with
    | ok summary => exact ⟨summary, rfl⟩
    | error error => simp [result, Except.isOk, Except.toBool] at succeeds

end Linewise
