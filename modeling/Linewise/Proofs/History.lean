import Linewise.Scopes
import Mathlib.Data.List.Induction
import Mathlib.Data.List.Infix

/-! The table of scopes against all that was done to it. Nothing but the operations is looked at: the scope of
a declaration is open as long as no more scopes were left than entered since, and as many scopes lie inside of
it as were entered since and not left. What the table answers is read off these declarations. -/
namespace Linewise.Scopes

inductive Operation where
  | enter
  | leave
  | declare (name : String) (type : DeclaredType)
  | lookup (name : String)
  deriving DecidableEq, Repr

def Operation.perform (scopes : Scopes) : Operation → Option DeclaredType × Scopes
  | .enter => (none, scopes.enter)
  | .leave => (none, scopes.leave)
  | .declare name type => scopes.declare name type
  | .lookup name => (scopes.lookup? name, scopes)

def after (scopes : Scopes) : List Operation → Scopes
  | [] => scopes
  | operation :: later => after (operation.perform scopes).2 later

def Stays (operations : List Operation) : Prop :=
  ∀ part, part <+: operations → part.count .leave ≤ part.count .enter

instance (operations : List Operation) : Decidable (Stays operations) :=
  decidable_of_iff (∀ part ∈ operations.inits, part.count .leave ≤ part.count .enter)
    (by simp only [List.mem_inits, Stays])

def rise (operations : List Operation) : Nat := operations.count .enter - operations.count .leave

structure Made (history : List Operation) (name : String) (type : DeclaredType) (later : List Operation) :
    Prop where
  split : ∃ before, history = before ++ .declare name type :: later
  stays : Stays later

/- The most recent declaration in the open scope that so many others lie inside of. -/
structure Latest (history : List Operation) (name : String) (inner : Nat) (type : DeclaredType)
    (later : List Operation) : Prop where
  made : Made history name type later
  within : rise later = inner
  recent : ∀ type' later', Made history name type' later' → rise later' = inner → later.length ≤ later'.length

theorem afterAppend (scopes : Scopes) (first second : List Operation) :
    after scopes (first ++ second) = after (after scopes first) second := by
  induction first generalizing scopes with
  | nil => rfl
  | cons operation rest ih => exact ih _

theorem staysNil : Stays [] := by
  intro part starts
  rw [List.prefix_nil.mp starts]
  exact Nat.le_refl _

theorem staysLast (operations : List Operation) (last : Operation) :
    Stays (operations ++ [last]) ↔ Stays operations ∧ (last = .leave → 0 < rise operations) := by
  constructor
  · intro stays
    refine ⟨fun part starts => stays part (starts.trans (List.prefix_append _ _)), ?_⟩
    intro leaves
    have whole := stays _ List.prefix_rfl
    subst leaves
    simp [List.count_append] at whole
    unfold rise
    omega
  · intro both part starts
    obtain ⟨stays, leaves⟩ := both
    rcases List.prefix_concat_iff.mp starts with whole | shorter
    · have before := stays _ List.prefix_rfl
      subst whole
      by_cases left : last = .leave
      · have more := leaves left
        subst left
        unfold rise at more
        simp [List.count_append]
        omega
      · simp [List.count_append, List.count_singleton, left]
        omega
    · exact stays part shorter

section
variable (operations : List Operation)

theorem riseEnter (stays : Stays operations) : rise (operations ++ [.enter]) = rise operations + 1 := by
  have whole := stays _ List.prefix_rfl
  simp [rise, List.count_append]
  omega

theorem riseLeave : rise (operations ++ [.leave]) = rise operations - 1 := by
  simp [rise, List.count_append]
  omega

theorem riseOther {operation : Operation} (noEnter : operation ≠ .enter) (noLeave : operation ≠ .leave) :
    rise (operations ++ [operation]) = rise operations := by
  simp [rise, List.count_append, noEnter, noLeave]

end

theorem madeLast {history : List Operation} {last : Operation} {name : String} {type : DeclaredType}
    {later : List Operation} :
    Made (history ++ [last]) name type later ↔
      (last = .declare name type ∧ later = []) ∨
      ∃ earlier, later = earlier ++ [last] ∧ Made history name type earlier ∧
        (last = .leave → 0 < rise earlier) := by
  constructor
  · intro made
    obtain ⟨⟨before, split⟩, stays⟩ := made
    rcases List.eq_nil_or_concat later with rfl | ⟨earlier, final, rfl⟩
    · have same := List.append_inj' split rfl
      exact .inl ⟨List.singleton_inj.mp same.2, rfl⟩
    · rw [List.concat_eq_append] at stays split ⊢
      rw [← List.cons_append, ← List.append_assoc] at split
      have same := List.append_inj' split rfl
      obtain rfl := List.singleton_inj.mp same.2
      obtain ⟨kept, leaves⟩ := (staysLast earlier last).mp stays
      exact .inr ⟨earlier, rfl, ⟨⟨before, same.1⟩, kept⟩, leaves⟩
  · intro either
    rcases either with ⟨rfl, rfl⟩ | ⟨earlier, rfl, ⟨⟨before, rfl⟩, kept⟩, leaves⟩
    · exact ⟨⟨history, rfl⟩, staysNil⟩
    · exact ⟨⟨before, by simp⟩, (staysLast earlier last).mpr ⟨kept, leaves⟩⟩

theorem madeUnique {history : List Operation} {name : String} {type type' : DeclaredType}
    {later later' : List Operation} (made : Made history name type later)
    (made' : Made history name type' later') (same : later.length = later'.length) : type = type' := by
  obtain ⟨before, rfl⟩ := made.split
  obtain ⟨before', split⟩ := made'.split
  have tails := (List.append_inj' split (by simp [same])).2
  cases tails
  rfl

def Recorded (history : List Operation) (name : String) (inner : Nat) : Option DeclaredType → Prop
  | some type => ∃ later, Latest history name inner type later
  | none => ∀ type later, Made history name type later → rise later ≠ inner

section
variable {history : List Operation} {operation : Operation} {name : String} {found : Option DeclaredType}

theorem recordedMoved {inner outer : Nat}
    (moved : ∀ type later, Made (history ++ [operation]) name type later ∧ rise later = outer ↔
      ∃ earlier, later = earlier ++ [operation] ∧ Made history name type earlier ∧ rise earlier = inner)
    (recorded : Recorded history name inner found) : Recorded (history ++ [operation]) name outer found := by
  cases found with
  | none =>
    intro type later made same
    obtain ⟨earlier, _, before, here⟩ := (moved type later).mp ⟨made, same⟩
    exact recorded type earlier before here
  | some type =>
    obtain ⟨earlier, made, within, recent⟩ := recorded
    obtain ⟨made', within'⟩ := (moved type _).mpr ⟨earlier, rfl, made, within⟩
    refine ⟨_, made', within', ?_⟩
    intro type' later' other same
    obtain ⟨earlier', rfl, before, here⟩ := (moved type' later').mp ⟨other, same⟩
    have shorter := recent type' earlier' before here
    simpa using shorter

theorem recordedEnter {inner : Nat} (recorded : Recorded history name inner found) :
    Recorded (history ++ [.enter]) name (inner + 1) found := by
  apply recordedMoved _ recorded
  intro type later
  rw [madeLast]
  constructor
  · intro both
    obtain ⟨⟨declares, _⟩ | ⟨earlier, rfl, made, _⟩, same⟩ := both
    · cases declares
    · rw [riseEnter earlier made.stays] at same
      exact ⟨earlier, rfl, made, by omega⟩
  · intro exist
    obtain ⟨earlier, rfl, made, rfl⟩ := exist
    exact ⟨.inr ⟨earlier, rfl, made, by simp⟩, riseEnter earlier made.stays⟩

theorem recordedFresh : Recorded (history ++ [.enter]) name 0 none := by
  intro type later made same
  rcases madeLast.mp made with ⟨declares, _⟩ | ⟨earlier, rfl, before, _⟩
  · cases declares
  · rw [riseEnter earlier before.stays] at same
    cases same

theorem recordedLeave {inner : Nat} (recorded : Recorded history name (inner + 1) found) :
    Recorded (history ++ [.leave]) name inner found := by
  apply recordedMoved _ recorded
  intro type later
  rw [madeLast]
  constructor
  · intro both
    obtain ⟨⟨declares, _⟩ | ⟨earlier, rfl, made, leaves⟩, same⟩ := both
    · cases declares
    · have some := leaves rfl
      rw [riseLeave] at same
      exact ⟨earlier, rfl, made, by omega⟩
  · intro exist
    obtain ⟨earlier, rfl, made, same⟩ := exist
    refine ⟨.inr ⟨earlier, rfl, made, fun _ => by omega⟩, ?_⟩
    rw [riseLeave]
    omega

theorem recordedDeclared (type : DeclaredType) :
    Recorded (history ++ [.declare name type]) name 0 (some type) :=
  ⟨[], ⟨⟨history, rfl⟩, staysNil⟩, rfl, fun _ _ _ _ => Nat.zero_le _⟩

theorem recordedKept {inner : Nat} (noEnter : operation ≠ .enter) (noLeave : operation ≠ .leave)
    (elsewhere : ∀ type, operation = .declare name type → inner ≠ 0)
    (recorded : Recorded history name inner found) : Recorded (history ++ [operation]) name inner found := by
  apply recordedMoved _ recorded
  intro type later
  rw [madeLast]
  constructor
  · intro both
    obtain ⟨⟨declares, rfl⟩ | ⟨earlier, rfl, made, _⟩, same⟩ := both
    · exact absurd same.symm (elsewhere type declares)
    · rw [riseOther earlier noEnter noLeave] at same
      exact ⟨earlier, rfl, made, same⟩
  · intro exist
    obtain ⟨earlier, rfl, made, same⟩ := exist
    rw [riseOther earlier noEnter noLeave]
    exact ⟨.inr ⟨earlier, rfl, made, fun leaves => absurd leaves noLeave⟩, same⟩

end

def entry (scopes : Scopes) (inner : Nat) (name : String) : Option DeclaredType :=
  scopes.stack[inner]?.bind fun scope => scope.lookup name

theorem entryDeclare (scopes : Scopes) (name other : String) (type : DeclaredType) (inner : Nat) :
    (scopes.declare name type).2.entry inner other =
      if other = name ∧ inner = 0 then some type else scopes.entry inner other := by
  obtain ⟨stack⟩ := scopes
  by_cases same : other = name
  · subst same
    cases stack <;> cases inner <;> simp [declare, entry]
  · have other : (other == name) = false := beq_false_of_ne same
    cases stack <;> cases inner <;> simp [declare, entry, List.lookup_cons, same, other]

theorem afterRecorded (history : List Operation) (name : String) (inner : Nat) :
    Recorded history name inner ((after {} history).entry inner name) := by
  induction history using List.reverseRecOn generalizing inner with
  | nil =>
    intro type later made
    obtain ⟨before, split⟩ := made.split
    simp at split
  | append_singleton history operation ih =>
    rw [afterAppend]
    cases operation with
    | enter =>
      cases inner with
      | zero => exact recordedFresh
      | succ inner => exact recordedEnter (ih inner)
    | leave =>
      have moved : ((after {} history).leave).entry inner name = (after {} history).entry (inner + 1) name := by
        simp [entry, leave]
      simp only [after, Operation.perform, moved]
      exact recordedLeave (ih (inner + 1))
    | declare declared type =>
      simp only [after, Operation.perform, entryDeclare]
      split
      · rename_i here
        obtain ⟨rfl, rfl⟩ := here
        exact recordedDeclared type
      · rename_i elsewhere
        apply recordedKept (by simp) (by simp) _ (ih inner)
        intro type' same
        cases same
        exact fun zero => elsewhere ⟨rfl, zero⟩
    | lookup other => exact recordedKept (by simp) (by simp) (by simp) (ih inner)

theorem lookupMissing {scopes : Scopes} {name : String} (missing : scopes.lookup? name = none) (inner : Nat) :
    scopes.entry inner name = none := by
  rw [lookup?, List.findSome?_eq_none_iff] at missing
  rw [entry, Option.bind_eq_none_iff]
  intro scope located
  exact missing scope (List.mem_of_getElem? located)

theorem lookupFound {scopes : Scopes} {name : String} {type : DeclaredType}
    (found : scopes.lookup? name = some type) :
    ∃ inner, scopes.entry inner name = some type ∧ ∀ nearer < inner, scopes.entry nearer name = none := by
  obtain ⟨stack⟩ := scopes
  induction stack with
  | nil => cases found
  | cons scope outer ih =>
    cases here : scope.lookup name with
    | some first =>
      have same : lookup? ⟨scope :: outer⟩ name = some first := by simp [lookup?, here]
      cases same.symm.trans found
      exact ⟨0, here, fun _ less => absurd less (Nat.not_lt_zero _)⟩
    | none =>
      have further : lookup? ⟨outer⟩ name = some type := by simpa [lookup?, here] using found
      obtain ⟨inner, there, nearer⟩ := ih further
      refine ⟨inner + 1, there, ?_⟩
      intro nearby less
      cases nearby with
      | zero => exact here
      | succ nearby => exact nearer nearby (by omega)

theorem lookupLatest {history : List Operation} {name : String} {type : DeclaredType}
    (found : (after {} history).lookup? name = some type) :
    ∃ inner later, Latest history name inner type later ∧
      ∀ type' later', Made history name type' later' → inner ≤ rise later' := by
  obtain ⟨inner, here, nearer⟩ := lookupFound found
  have recorded := afterRecorded history name inner
  rw [here] at recorded
  obtain ⟨later, latest⟩ := recorded
  refine ⟨inner, later, latest, ?_⟩
  intro type' later' made
  apply Nat.le_of_not_lt
  intro less
  have none := afterRecorded history name (rise later')
  rw [nearer _ less] at none
  exact none type' later' made rfl

theorem lookupNone {history : List Operation} {name : String}
    (missing : (after {} history).lookup? name = none) (type : DeclaredType) (later : List Operation) :
    ¬ Made history name type later := by
  intro made
  have recorded := afterRecorded history name (rise later)
  rw [lookupMissing missing] at recorded
  exact recorded type later made rfl

theorem latestUnique {history : List Operation} {name : String} {inner : Nat} {type type' : DeclaredType}
    {later later' : List Operation} (latest : Latest history name inner type later)
    (latest' : Latest history name inner type' later') : type = type' := by
  have first := latest.recent type' later' latest'.made latest'.within
  have second := latest'.recent type later latest.made latest.within
  exact madeUnique latest.made latest'.made (by omega)

theorem recordedExact {history : List Operation} {name : String} {inner : Nat} {found : Option DeclaredType}
    (recorded : Recorded history name inner found) :
    (∀ type, found = some type ↔ ∃ later, Latest history name inner type later) ∧
      (found = none ↔ ∀ type later, Made history name type later → rise later ≠ inner) := by
  cases found with
  | none =>
    refine ⟨fun type => ⟨by simp, ?_⟩, ⟨fun _ => recorded, fun _ => rfl⟩⟩
    intro exist
    obtain ⟨later, latest⟩ := exist
    exact absurd latest.within (recorded type later latest.made)
  | some known =>
    obtain ⟨later, latest⟩ := recorded
    constructor
    · intro type
      constructor
      · intro same
        cases same
        exact ⟨later, latest⟩
      · intro exist
        obtain ⟨later', latest'⟩ := exist
        rw [latestUnique latest latest']
    · constructor
      · intro same
        cases same
      · intro none
        exact absurd latest.within (none known later latest.made)

theorem lookupExact (history : List Operation) (name : String) :
    (∀ type, (after {} history).lookup? name = some type ↔
      ∃ inner later, Latest history name inner type later ∧
        ∀ type' later', Made history name type' later' → inner ≤ rise later') ∧
    ((after {} history).lookup? name = none ↔ ∀ type later, ¬ Made history name type later) := by
  constructor
  · intro type
    constructor
    · exact lookupLatest
    · intro exist
      obtain ⟨inner, later, latest, innermost⟩ := exist
      cases answer : (after {} history).lookup? name with
      | none => exact absurd latest.made (lookupNone answer type later)
      | some type' =>
        obtain ⟨inner', later', latest', innermost'⟩ := lookupLatest answer
        have first := innermost type' later' latest'.made
        have second := innermost' type later latest.made
        rw [latest'.within] at first
        rw [latest.within] at second
        obtain rfl : inner = inner' := Nat.le_antisymm first second
        rw [latestUnique latest latest']
  · constructor
    · exact lookupNone
    · intro none
      cases answer : (after {} history).lookup? name with
      | none => rfl
      | some type =>
        obtain ⟨inner, later, latest, _⟩ := lookupLatest answer
        exact absurd latest.made (none type later)

theorem declarePrevious (scopes : Scopes) (name : String) (type : DeclaredType) :
    (scopes.declare name type).1 = scopes.entry 0 name := by
  obtain ⟨stack⟩ := scopes
  cases stack <;> rfl

theorem declareDepth (scopes : Scopes) (name : String) (type : DeclaredType) :
    (scopes.declare name type).2.depth = if scopes.depth = 0 then 1 else scopes.depth := by
  obtain ⟨stack⟩ := scopes
  cases stack <;> simp [declare, depth]

theorem declareElsewhere (scopes : Scopes) (name : String) (type : DeclaredType) {other : String}
    (different : other ≠ name) : (scopes.declare name type).2.lookup? other = scopes.lookup? other := by
  obtain ⟨stack⟩ := scopes
  have unequal : (other == name) = false := beq_false_of_ne different
  cases stack <;> simp [declare, lookup?, List.findSome?_cons, List.lookup_cons, unequal]

theorem staysAbove (scopes : Scopes) {inside : List Operation} (stays : Stays inside) :
    ∃ top, top.length = rise inside + 1 ∧ (after scopes.enter inside).stack = top ++ scopes.stack := by
  induction inside using List.reverseRecOn with
  | nil => exact ⟨[[]], rfl, rfl⟩
  | append_singleton inside operation ih =>
    obtain ⟨kept, leaves⟩ := (staysLast inside operation).mp stays
    obtain ⟨top, size, stack⟩ := ih kept
    obtain ⟨scope, rest, rfl⟩ := List.exists_cons_of_length_eq_add_one size
    rw [afterAppend]
    cases operation with
    | enter =>
      refine ⟨[] :: scope :: rest, ?_, congrArg ([] :: ·) stack⟩
      rw [riseEnter inside kept, List.length_cons, size]
    | leave =>
      have some := leaves rfl
      refine ⟨rest, ?_, congrArg List.tail stack⟩
      rw [List.length_cons] at size
      rw [riseLeave]
      omega
    | declare name type =>
      refine ⟨((name, type) :: scope) :: rest, ?_, ?_⟩
      · rw [riseOther inside (by simp) (by simp)]
        exact size
      · simp [after, Operation.perform, declare, stack]
    | lookup name =>
      refine ⟨scope :: rest, ?_, stack⟩
      rw [riseOther inside (by simp) (by simp)]
      exact size

theorem leaveRestores (scopes : Scopes) {inside : List Operation} (stays : Stays inside)
    (even : inside.count .leave = inside.count .enter) :
    after scopes (.enter :: inside ++ [.leave]) = scopes := by
  obtain ⟨top, size, stack⟩ := staysAbove scopes stays
  have level : rise inside = 0 := by
    rw [rise, even, Nat.sub_self]
  rw [level] at size
  obtain ⟨scope, rfl⟩ := List.length_eq_one_iff.mp size
  have left : after scopes (.enter :: inside ++ [.leave]) = (after scopes.enter inside).leave :=
    afterAppend scopes.enter inside [.leave]
  rw [left, leave, stack]
  rfl

theorem scopesAnswer :
    (∀ (history : List Operation) (name : String),
      let scopes := after {} history
      let found := ((Operation.lookup name).perform scopes).1
      (∀ type, found = some type ↔
        ∃ inner later, Latest history name inner type later ∧
          ∀ type' later', Made history name type' later' → inner ≤ rise later') ∧
      (found = none ↔ ∀ type later, ¬ Made history name type later) ∧
      ∀ type,
        let previous := ((Operation.declare name type).perform scopes).1
        (∀ type', previous = some type' ↔ ∃ later, Latest history name 0 type' later) ∧
        (previous = none ↔ ∀ type' later, Made history name type' later → rise later ≠ 0)) ∧
    (∀ (scopes : Scopes) (name : String) (type : DeclaredType),
      let declared := ((Operation.declare name type).perform scopes).2
      declared.depth = (if scopes.depth = 0 then 1 else scopes.depth) ∧
      ∀ other, other ≠ name → declared.lookup? other = scopes.lookup? other) ∧
    ∀ (scopes : Scopes) (inside : List Operation),
      Stays inside → inside.count .leave = inside.count .enter →
      after scopes (.enter :: inside ++ [.leave]) = scopes := by
  refine ⟨?_, ?_, ?_⟩
  · intro history name scopes found
    obtain ⟨known, unknown⟩ := lookupExact history name
    refine ⟨known, unknown, ?_⟩
    intro type previous
    have same : previous = scopes.entry 0 name := declarePrevious scopes name type
    rw [same]
    exact recordedExact (afterRecorded history name 0)
  · intro scopes name type declared
    exact ⟨declareDepth scopes name type, fun other => declareElsewhere scopes name type⟩
  · intro scopes inside stays even
    exact leaveRestores scopes stays even

/- A scope is left that was never entered, a name is declared with no scope open, again inside of it, and once
more in the same scope. What is then nested shadows both names and is forgotten. -/
theorem scopesAnswerSample :
    let history : List Operation :=
      [.leave, .declare "x" .int, .enter, .declare "x" .string, .declare "x" .char, .enter]
    let inside : List Operation :=
      [.declare "x" .float, .enter, .declare "y" .int, .leave, .declare "x" .boolean]
    let scopes := after {} history
    scopes.lookup? "x" = some .char ∧
    (∃ inner later, Latest history "x" inner .char later) ∧
    scopes.lookup? "y" = none ∧
    (∀ type later, ¬ Made history "y" type later) ∧
    (Stays inside ∧ inside.count .leave = inside.count .enter) ∧
    after scopes (.enter :: inside ++ [.leave]) = scopes := by
  intro history inside scopes
  obtain ⟨answers, _, restores⟩ := scopesAnswer
  have found : scopes.lookup? "x" = some .char := by decide +kernel
  have missing : scopes.lookup? "y" = none := by decide +kernel
  have stays : Stays inside := by decide +kernel
  obtain ⟨inner, later, latest, _⟩ := ((answers history "x").1 .char).mp found
  have even : inside.count .leave = inside.count .enter := by decide +kernel
  exact ⟨found, ⟨inner, later, latest⟩, missing, (answers history "y").2.1.mp missing, ⟨stays, even⟩,
    restores scopes inside stays even⟩

end Linewise.Scopes
