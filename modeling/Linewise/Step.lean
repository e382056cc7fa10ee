/-!
Steps over a state that may fail. What a step did to the state before it failed stays done. Steps that
leave the same state may have gone through different ones, so each comes with a record of those: every
primitive step adds the state after it.
-/

namespace Linewise

structure Step (ε σ : Type) (α : Type) where
  act : σ → Except ε α × σ
  /-- The states that follow on the given one. -/
  passed : σ → List σ
  passedLast : ∀ state, (passed state).getLastD state = (act state).2

structure Part (σ τ : Type) where
  of : σ → τ
  replace : σ → τ → σ
  replaceOf : ∀ whole, replace whole (of whole) = whole := by intro; rfl

namespace Step

variable {ε δ σ τ α β γ : Type}

def runFrom (step : Step ε σ α) (state : σ) : Except ε α × σ := step.act state

def visited (step : Step ε σ α) (state : σ) : List σ := state :: step.passed state

theorem ext {step other : Step ε σ α} (act : ∀ state, step.act state = other.act state)
    (passed : ∀ state, step.passed state = other.passed state) : step = other := by
  obtain ⟨_, _, _⟩ := step
  obtain ⟨_, _, _⟩ := other
  cases funext act
  cases funext passed
  rfl

theorem lastAppend (first second : List σ) (state : σ) :
    (first ++ second).getLastD state = second.getLastD (first.getLastD state) := by
  cases second with
  | nil => simp
  | cons => simp [List.getLastD_eq_getLast?, List.getLast?_append]

theorem lastMap (f : τ → σ) (states : List τ) (state : τ) :
    (states.map f).getLastD (f state) = f (states.getLastD state) := by
  simp only [List.getLastD_eq_getLast?, List.getLast?_map]
  cases states.getLast? <;> rfl

def done (value : α) : Step ε σ α where
  act state := (.ok value, state)
  passed _ := []
  passedLast _ := rfl

def once (act : σ → Except ε α × σ) : Step ε σ α where
  act := act
  passed state := [(act state).2]
  passedLast _ := rfl

def fail (error : ε) : Step ε σ α := once fun state => (.error error, state)

def andThen (step : Step ε σ α) (next : α → Step ε σ β) : Step ε σ β where
  act state :=
    match step.act state with
    | (.ok value, after) => (next value).act after
    | (.error error, after) => (.error error, after)
  passed state :=
    step.passed state ++
      match step.act state with
      | (.ok value, after) => (next value).passed after
      | (.error _, _) => []
  passedLast state := by
    rw [lastAppend, step.passedLast]
    rcases step.act state with ⟨error | value, after⟩
    · rfl
    · exact (next value).passedLast after

instance : Monad (Step ε σ) where
  pure := done
  bind := andThen

instance : MonadStateOf σ (Step ε σ) where
  get := once fun state => (.ok state, state)
  set state := once fun _ => (.ok ⟨⟩, state)
  modifyGet f := once fun state => (.ok (f state).1, (f state).2)

theorem andThenDone (step : Step ε σ α) : step.andThen done = step := by
  apply ext <;> intro state
  · simp only [andThen, done]
    rcases step.act state with ⟨_ | _, _⟩ <;> rfl
  · simp only [andThen, done]
    rcases step.act state with ⟨_ | _, _⟩ <;> exact List.append_nil _

theorem andThenAssoc (step : Step ε σ α) (next : α → Step ε σ β) (last : β → Step ε σ γ) :
    (step.andThen next).andThen last = step.andThen fun value => (next value).andThen last := by
  apply ext <;> intro state
  · simp only [andThen]
    rcases step.act state with ⟨_ | _, _⟩ <;> rfl
  · simp only [andThen, List.append_assoc]
    rcases step.act state with ⟨_ | _, _⟩ <;> rfl

instance : LawfulMonad (Step ε σ) :=
  LawfulMonad.mk' _ andThenDone (fun _ _ => rfl) andThenAssoc

def onPart (part : Part σ τ) (wrap : ε → δ) (step : Step ε τ α) : Step δ σ α where
  act state :=
    let (outcome, rest) := step.act (part.of state)
    (outcome.mapError wrap, part.replace state rest)
  passed state := (step.passed (part.of state)).map (part.replace state)
  passedLast state := by
    have last := lastMap (part.replace state) (step.passed (part.of state)) (part.of state)
    rwa [part.replaceOf, step.passedLast] at last

@[simp] theorem runFromPure (a : α) (s : σ) : runFrom (pure a : Step ε σ α) s = (.ok a, s) := rfl

theorem runFromBind (step : Step ε σ α) (next : α → Step ε σ β) (s : σ) :
    runFrom (step >>= next) s =
      match step.runFrom s with
      | (.ok a, s') => (next a).runFrom s'
      | (.error e, s') => (.error e, s') := rfl

@[simp] theorem runFromFail (e : ε) (s : σ) : (fail e : Step ε σ α).runFrom s = (.error e, s) := rfl

@[simp] theorem runFromGet (s : σ) : runFrom (get : Step ε σ σ) s = (.ok s, s) := rfl

@[simp] theorem runFromSet (s s' : σ) : runFrom (set s' : Step ε σ PUnit) s = (.ok ⟨⟩, s') := rfl

@[simp] theorem runFromModify (f : σ → σ) (s : σ) :
    runFrom (modify f : Step ε σ PUnit) s = (.ok ⟨⟩, f s) := rfl

@[simp] theorem runFromOnPart (part : Part σ τ) (wrap : ε → δ) (step : Step ε τ α) (s : σ) :
    (onPart part wrap step).runFrom s =
      ((step.runFrom (part.of s)).1.mapError wrap, part.replace s (step.runFrom (part.of s)).2) := rfl

theorem bindFound {step : Step ε σ α} {next : α → Step ε σ β} {s last : σ} {result : β}
    (found : (step >>= next).runFrom s = (.ok result, last)) :
    ∃ a s', step.runFrom s = (.ok a, s') ∧ (next a).runFrom s' = (.ok result, last) := by
  rw [runFromBind] at found
  rcases ran : step.runFrom s with ⟨error | a, s'⟩
  · rw [ran] at found
    cases found
  · rw [ran] at found
    exact ⟨a, s', rfl, found⟩

theorem bindCongr {step : Step ε σ α} {next other : α → Step ε σ β} {s : σ}
    (same : ∀ a s', step.runFrom s = (.ok a, s') → (next a).runFrom s' = (other a).runFrom s') :
    (step >>= next).runFrom s = (step >>= other).runFrom s := by
  rw [runFromBind, runFromBind]
  rcases ran : step.runFrom s with ⟨error | a, s'⟩
  · rfl
  · exact same a s' ran

theorem visitedLeft (step : Step ε σ α) (s : σ) : (step.runFrom s).2 ∈ step.visited s := by
  rw [runFrom, ← step.passedLast]
  exact List.getLastD_mem_cons ..

theorem visitedBind {step : Step ε σ α} {next : α → Step ε σ β} {s between : σ}
    (member : between ∈ (step >>= next).visited s) :
    between ∈ step.visited s ∨
      ∃ a s', step.runFrom s = (.ok a, s') ∧ between ∈ (next a).visited s' := by
  rcases List.mem_cons.mp member with rfl | member
  · exact .inl (List.mem_cons_self ..)
  · rcases List.mem_append.mp member with earlier | later
    · exact .inl (List.mem_cons_of_mem _ earlier)
    · rcases ran : step.act s with ⟨error | a, s'⟩
      · rw [ran] at later
        cases later
      · rw [ran] at later
        exact .inr ⟨a, s', ran, List.mem_cons_of_mem _ later⟩

/- Two steps that undo each other are still seen apart. -/
example : (do modify (· + 1); modify (· - 1) : Step Unit Nat Unit).visited 0 = [0, 1, 0] := rfl

end Step

end Linewise
