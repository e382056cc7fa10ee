import Linewise.Viewer.Session

/-! Sessions of the viewer: keys and frames in any order, each frame with a layout of its own. A key may carry an
offset as far as a machine word goes, and the next frame brings it back to where the last page starts. -/
namespace Linewise.Viewer

inductive Event where
  | key (key : Key)
  | frame (layout : Layout)
  deriving DecidableEq, Repr

def Layout.area (layout : Layout) : Focus → Area
  | .source => layout.source
  | .output => layout.output

/- Where a key wants the offset in focus, whether or not an offset can be there. -/
def Key.goal? (offset : Int) : Key → Option Int
  | .up => some (offset - 1)
  | .down => some (offset + 1)
  | .pageUp => some (offset - Session.page)
  | .pageDown => some (offset + Session.page)
  | .home => some 0
  | .bottom => some Session.maxScroll
  | _ => none

namespace Session

def handle (session : Session) : Event → Session
  | .key key => session.press key
  | .frame layout => (session.draw layout).2

def after (session : Session) : List Event → Session
  | [] => session
  | event :: later => after (session.handle event) later

def text (session : Session) : Focus → String
  | .source => session.source
  | .output => session.output

def offset (session : Session) : Focus → Nat
  | .source => session.sourceScroll
  | .output => session.outputScroll

def window (session : Session) (pane : Focus) (visible : Nat) : List String :=
  ((Text.lines (session.text pane)).drop (session.offset pane)).take visible

def rows (session : Session) (visible : Nat) : Focus → List (List Span)
  | .source => numberedLines session.rule (Text.lines session.source) session.sourceScroll visible
  | .output => (session.window .output visible).map styleOutput

def content (session : Session) (visible : Nat) : Focus → Content
  | .source => sourceContent session.rule (Text.lines session.source) session.sourceScroll visible
  | .output => outputContent (Text.lines session.output) session.outputScroll visible

def switches (events : List Event) : Nat := events.count (.key .tab) + events.count (.key .backTab)

structure Kept (start session : Session) : Prop where
  source : session.source = start.source
  output : session.output = start.output
  summary : session.summary = start.summary
  rule : session.rule = start.rule
  status : session.status = start.status

theorem Kept.refl (session : Session) : Kept session session := ⟨rfl, rfl, rfl, rfl, rfl⟩

theorem Kept.trans {first second third : Session} (left : Kept first second) (right : Kept second third) :
    Kept first third where
  source := right.source.trans left.source
  output := right.output.trans left.output
  summary := right.summary.trans left.summary
  rule := right.rule.trans left.rule
  status := right.status.trans left.status

section
variable (session : Session) (change : Nat → Nat)

theorem scrollByKept : Kept session (session.scrollBy change) := by
  unfold scrollBy
  split <;> exact ⟨rfl, rfl, rfl, rfl, rfl⟩

theorem scrollByFocus : (session.scrollBy change).focus = session.focus := by
  unfold scrollBy
  split <;> rfl

theorem scrollByQuit : (session.scrollBy change).quit = session.quit := by
  unfold scrollBy
  split <;> rfl

theorem scrollByFocused : (session.scrollBy change).offset session.focus =
    min (change (session.offset session.focus)) maxScroll := by
  unfold scrollBy
  split
  next focused => simp only [focused, offset]
  next focused => simp only [focused, offset]

theorem scrollByOther : (session.scrollBy change).offset session.focus.other =
    session.offset session.focus.other := by
  unfold scrollBy
  split
  next focused => simp only [focused, Focus.other, offset]
  next focused => simp only [focused, Focus.other, offset]

end

theorem eitherPane (session : Session) (pane : Focus) : pane = session.focus ∨ pane = session.focus.other := by
  cases pane <;> cases session.focus <;> simp [Focus.other]

inductive Pressed (session : Session) (key : Key) : Session → Prop
  | quits (stays : key ≠ .tab ∧ key ≠ .backTab) (rests : ∀ offset, key.goal? offset = none) :
      Pressed session key { session with quit := true }
  | switches (turns : key = .tab ∨ key = .backTab) (rests : ∀ offset, key.goal? offset = none) :
      Pressed session key { session with focus := session.focus.other }
  | moves (change : Nat → Nat) (stays : key ≠ .tab ∧ key ≠ .backTab)
      (reaches : ∀ offset : Nat, ∃ goal : Int, key.goal? offset = some goal ∧
        ((min (change offset) maxScroll : Nat) : Int) = max 0 (min goal maxScroll)) :
      Pressed session key (session.scrollBy change)
  | ignored (stays : key ≠ .tab ∧ key ≠ .backTab) (rests : ∀ offset, key.goal? offset = none) :
      Pressed session key session

theorem pressed (session : Session) (key : Key) : Pressed session key (session.press key) := by
  cases key with
  | escape => exact .quits (by simp) fun _ => rfl
  | tab | backTab => exact .switches (by simp) fun _ => rfl
  | up => exact .moves (· - 1) (by simp) fun offset => ⟨_, rfl, by omega⟩
  | down => exact .moves (· + 1) (by simp) fun offset => ⟨_, rfl, by omega⟩
  | pageUp => exact .moves (· - page) (by simp) fun offset => ⟨_, rfl, by omega⟩
  | pageDown => exact .moves (· + page) (by simp) fun offset => ⟨_, rfl, by omega⟩
  | home => exact .moves (fun _ => 0) (by simp) fun offset => ⟨_, rfl, by omega⟩
  | bottom => exact .moves (fun _ => maxScroll) (by simp) fun offset => ⟨_, rfl, by omega⟩
  | left | right | enter | other => exact .ignored (by simp) fun _ => rfl
  | char c =>
    unfold press
    split
    all_goals first
      | contradiction
      | exact .quits (by simp) fun _ => rfl
      | exact .ignored (by simp) fun _ => rfl

section
variable {session next : Session} {key : Key}

theorem Pressed.kept (able : Pressed session key next) : Kept session next := by
  cases able with
  | quits | switches => exact ⟨rfl, rfl, rfl, rfl, rfl⟩
  | moves change => exact scrollByKept session change
  | ignored => exact .refl session

theorem Pressed.quit (able : Pressed session key next) (quit : session.quit = true) : next.quit = true := by
  cases able with
  | quits => rfl
  | switches | ignored => exact quit
  | moves change => rw [scrollByQuit, quit]

theorem Pressed.focus (able : Pressed session key next) :
    next.focus = if key = .tab ∨ key = .backTab then session.focus.other else session.focus := by
  cases able with
  | quits stays => simp [stays]
  | switches turns => simp [turns]
  | moves change stays => simp [stays, scrollByFocus]
  | ignored stays => simp [stays]

theorem Pressed.bounded (able : Pressed session key next) (bounded : ∀ pane, session.offset pane ≤ maxScroll) :
    ∀ pane, next.offset pane ≤ maxScroll := by
  intro pane
  cases able with
  | quits | switches | ignored => exact bounded pane
  | moves change =>
    rcases eitherPane session pane with rfl | rfl
    · rw [scrollByFocused]
      exact Nat.min_le_right _ _
    · rw [scrollByOther]
      exact bounded _

theorem Pressed.moved (able : Pressed session key next) {goal : Int}
    (aims : key.goal? (session.offset session.focus) = some goal) :
    (next.offset session.focus : Int) = max 0 (min goal maxScroll) ∧
      next.offset session.focus.other = session.offset session.focus.other ∧
      next.focus = session.focus ∧ next.quit = session.quit := by
  cases able with
  | quits _ rests | switches _ rests | ignored _ rests => cases (rests _).symm.trans aims
  | moves change _ reaches =>
    obtain ⟨_, found, reached⟩ := reaches (session.offset session.focus)
    cases found.symm.trans aims
    rw [scrollByFocused]
    exact ⟨reached, scrollByOther session change, scrollByFocus session change, scrollByQuit session change⟩

theorem Pressed.rested (able : Pressed session key next)
    (rests : key.goal? (session.offset session.focus) = none) (pane : Focus) :
    next.offset pane = session.offset pane := by
  cases able with
  | quits | switches | ignored => rfl
  | moves change _ reaches =>
    obtain ⟨_, found, _⟩ := reaches (session.offset session.focus)
    cases rests.symm.trans found

end

theorem layoutHeight {width height : Nat} (small : width * height ≤ Area.maxCells) (pane : Focus) :
    ((Layout.ofSize width height).area pane).height = height - 1 := by
  cases pane <;> simp [Layout.ofSize, Layout.area, Area.halves, Screen.blank, Area.sized, small]

theorem visibleMax (area : Area) : visibleLines area = max 1 (area.height - 2) := Nat.max_comm _ _

theorem clampMin (offset total visible : Nat) : clampScroll offset total visible = min offset (total - visible) := by
  unfold clampScroll
  split <;> omega

section
variable (session : Session) (layout : Layout)

theorem drawSession : (session.draw layout).2 =
    { session with
      sourceScroll := min session.sourceScroll
        ((Text.lines session.source).length - visibleLines layout.source)
      outputScroll := min session.outputScroll
        ((Text.lines session.output).length - visibleLines layout.output) } := by
  rw [← clampMin, ← clampMin]
  rfl

theorem drawKept : Kept session (session.draw layout).2 := by
  rw [drawSession]
  exact ⟨rfl, rfl, rfl, rfl, rfl⟩

theorem drawAgain : (session.draw layout).2.draw layout = session.draw layout := by
  simp only [draw, drawSource, drawOutput, clampMin, Nat.min_assoc, Nat.min_self]

theorem drawOffset (pane : Focus) : (session.draw layout).2.offset pane =
    min (session.offset pane) ((Text.lines (session.text pane)).length - visibleLines (layout.area pane)) := by
  rw [drawSession]
  cases pane <;> rfl

theorem drawText (pane : Focus) : (session.draw layout).2.text pane = session.text pane := by
  rw [drawSession]
  cases pane <;> rfl

theorem drawFrame : (session.draw layout).1 = drawStatus
    (drawPane
      (drawPane layout.screen layout.source (session.focus = .source)
        ((session.draw layout).2.content (visibleLines layout.source) .source))
      layout.output (session.focus = .output)
      ((session.draw layout).2.content (visibleLines layout.output) .output))
    layout.bar session.status session.summary session.rule := rfl

theorem windowFull (pane : Focus) :
    ((session.draw layout).2.window pane (visibleLines (layout.area pane))).length =
      min (Text.lines (session.text pane)).length (visibleLines (layout.area pane)) := by
  rw [window, drawText, drawOffset, List.length_take, List.length_drop]
  omega

end

theorem rowsLength (session : Session) (visible : Nat) (pane : Focus) :
    (session.rows visible pane).length = (session.window pane visible).length := by
  cases pane with
  | source => exact List.length_mapIdx
  | output => exact List.length_map _

theorem contentLines (session : Session) (visible : Nat) (pane : Focus) :
    (session.content visible pane).lines =
      if pane = .output ∧ Text.lines (session.text pane) = [] then [[⟨"(no output)", {}⟩]]
      else session.rows visible pane := by
  cases pane with
  | source => rfl
  | output =>
    simp only [content, outputContent, text, List.isEmpty_iff, true_and]
    split <;> rfl

theorem afterAppend (session : Session) (first second : List Event) :
    session.after (first ++ second) = (session.after first).after second := by
  induction first generalizing session with
  | nil => rfl
  | cons event rest ih => exact ih _

theorem handleKept (session : Session) (event : Event) : Kept session (session.handle event) := by
  cases event with
  | key key => exact (pressed session key).kept
  | frame layout => exact drawKept session layout

theorem handleQuit {session : Session} (event : Event) (quit : session.quit = true) :
    (session.handle event).quit = true := by
  cases event with
  | key key => exact (pressed session key).quit quit
  | frame layout => rwa [handle, drawSession]

theorem handleFocus (session : Session) (event : Event) :
    (session.handle event).focus =
      if event = .key .tab ∨ event = .key .backTab then session.focus.other else session.focus := by
  cases event with
  | key key => simpa only [Event.key.injEq, handle] using (pressed session key).focus
  | frame layout => simp [handle, drawSession]

theorem handleBounded {session : Session} (event : Event) (bounded : ∀ pane, session.offset pane ≤ maxScroll) :
    ∀ pane, (session.handle event).offset pane ≤ maxScroll := by
  cases event with
  | key key => exact (pressed session key).bounded bounded
  | frame layout =>
    intro pane
    rw [handle, drawOffset]
    exact Nat.le_trans (Nat.min_le_left _ _) (bounded pane)

section
variable (session : Session) (events : List Event)

theorem afterKept : Kept session (session.after events) := by
  induction events generalizing session with
  | nil => exact .refl session
  | cons event later ih => exact (handleKept session event).trans (ih _)

theorem afterQuit (quit : session.quit = true) : (session.after events).quit = true := by
  induction events generalizing session with
  | nil => exact quit
  | cons event later ih => exact ih _ (handleQuit event quit)

theorem afterBounded (bounded : ∀ pane, session.offset pane ≤ maxScroll) :
    ∀ pane, (session.after events).offset pane ≤ maxScroll := by
  induction events generalizing session with
  | nil => exact bounded
  | cons event later ih => exact ih _ (handleBounded event bounded)

theorem afterFocus : (session.after events).focus =
    if switches events % 2 = 0 then session.focus else session.focus.other := by
  induction events generalizing session with
  | nil => rfl
  | cons event later ih =>
    rw [after, ih, handleFocus]
    by_cases turns : event = .key .tab ∨ event = .key .backTab
    · have more : switches (event :: later) = switches later + 1 := by
        rcases turns with rfl | rfl <;> simp [switches] <;> omega
      have twice : session.focus.other.other = session.focus := by cases session.focus <;> rfl
      rw [more, if_pos turns, twice]
      by_cases even : switches later % 2 = 0
      · rw [if_pos even, if_neg (by omega)]
      · rw [if_neg even, if_pos (by omega)]
    · have same : switches (event :: later) = switches later := by
        rw [not_or] at turns
        simp [switches, turns]
      rw [same, if_neg turns]

end

theorem sessionRuns (source output : String) (summary : Summary) (rule : WordRule) (events : List Event) :
    let start := Session.start source output summary rule
    let session := start.after events
    Kept start session ∧
    (session.quit = true → ∀ later, (start.after (events ++ later)).quit = true) ∧
    (session.focus = .source ↔ switches events % 2 = 0) ∧
    (∀ pane, session.offset pane ≤ maxScroll) ∧
    (∀ key (goal : Int), key.goal? (session.offset session.focus) = some goal →
      ((session.press key).offset session.focus : Int) = max 0 (min goal maxScroll) ∧
      (session.press key).offset session.focus.other = session.offset session.focus.other ∧
      (session.press key).focus = session.focus ∧ (session.press key).quit = session.quit) ∧
    (∀ key, key.goal? (session.offset session.focus) = none →
      ∀ pane, (session.press key).offset pane = session.offset pane) ∧
    (∀ width height, session.render width height = session.draw (.ofSize width height) ∧
      (width * height ≤ Area.maxCells → ∀ pane, ((Layout.ofSize width height).area pane).height = height - 1)) ∧
    ∀ layout : Layout,
      let drawn := session.draw layout
      let visible pane := max 1 ((layout.area pane).height - 2)
      let source := drawn.2.content (visible .source) .source
      let output := drawn.2.content (visible .output) .output
      drawn.1 = drawStatus
        (drawPane (drawPane layout.screen layout.source (session.focus = .source) source) layout.output
          (session.focus = .output) output)
        layout.bar session.status session.summary session.rule ∧
      drawn.2.draw layout = drawn ∧
      ∀ pane,
        let lines := Text.lines (session.text pane)
        drawn.2.offset pane ≤ lines.length - visible pane ∧
        (session.offset pane ≤ lines.length - visible pane → drawn.2.offset pane = session.offset pane) ∧
        (drawn.2.rows (visible pane) pane).length = min lines.length (visible pane) ∧
        (drawn.2.content (visible pane) pane).lines =
          if pane = .output ∧ lines = [] then [[⟨"(no output)", {}⟩]] else drawn.2.rows (visible pane) pane := by
  intro start session
  refine ⟨afterKept start events, ?_, ?_, ?_, ?_, ?_, fun _ _ => ⟨rfl, layoutHeight⟩, ?_⟩
  · intro quit later
    rw [afterAppend]
    exact afterQuit session later quit
  · have focused : session.focus = if switches events % 2 = 0 then .source else .output := afterFocus start events
    rw [focused]
    split <;> simp_all
  · apply afterBounded
    intro pane
    cases pane <;> exact Nat.zero_le _
  · intro key goal aims
    exact (pressed session key).moved aims
  · intro key rests
    exact (pressed session key).rested rests
  · intro layout drawn visible source output
    have room (pane : Focus) : visible pane = visibleLines (layout.area pane) := (visibleMax _).symm
    refine ⟨?_, drawAgain session layout, ?_⟩
    · simp only [source, output, room]
      exact drawFrame session layout
    · intro pane lines
      have placed : drawn.2.offset pane = min (session.offset pane) (lines.length - visible pane) := by
        rw [room]
        exact drawOffset session layout pane
      refine ⟨by omega, by omega, ?_, ?_⟩
      · rw [rowsLength, room]
        exact windowFull session layout pane
      · rw [contentLines, drawText]

/- The source is scrolled past its end, a frame with room for one line cuts that back, and a taller one cuts it
back further. The output has the focus by then, and the session is over. -/
theorem sessionRunsSample :
    let start := Session.start "int a\nint b\nint c" "a = 0\nb = 0\nc = 0\n" {} .whole
    let events : List Event := [.key .bottom, .frame (.ofSize 20 4), .key .tab, .key .escape]
    let session := start.after events
    (session.quit = true ∧ (start.after (events ++ [.key .up])).quit = true) ∧
    (Key.pageUp.goal? (session.offset session.focus) = some (-10 : Int) ∧
      ((session.press .pageUp).offset session.focus : Int) = max 0 (min (-10 : Int) maxScroll)) ∧
    (Key.enter.goal? (session.offset session.focus) = none ∧
      (session.press .enter).offset .source = session.offset .source) ∧
    (20 * 4 ≤ Area.maxCells ∧ ((Layout.ofSize 20 4).area .source).height = 3) ∧
    (session.offset .source = 2 ∧ (session.draw (.ofSize 20 4)).2.offset .source = 2) ∧
    (session.render 20 5).2.offset .source ≤ 1 := by
  intro start events session
  obtain ⟨_, quits, _, _, moves, rests, sized, frames⟩ :=
    sessionRuns "int a\nint b\nint c" "a = 0\nb = 0\nc = 0\n" {} .whole events
  have quit : session.quit = true := by decide +kernel
  have aims : Key.pageUp.goal? (session.offset session.focus) = some (-10 : Int) := by decide +kernel
  have still : Key.enter.goal? (session.offset session.focus) = none := rfl
  have small : 20 * 4 ≤ Area.maxCells := by decide
  have lines : (Text.lines (session.text .source)).length = 3 := by decide +kernel
  have scrolled : session.offset .source = 2 := by decide +kernel
  have height : ((Layout.ofSize 20 4).area .source).height = 3 := (sized 20 4).2 small .source
  have taller : ((Layout.ofSize 20 5).area .source).height = 4 := (sized 20 5).2 (by decide) .source
  have kept : session.offset .source ≤ (Text.lines (session.text .source)).length -
      max 1 (((Layout.ofSize 20 4).area .source).height - 2) →
        (session.draw (.ofSize 20 4)).2.offset .source = session.offset .source :=
    ((frames (.ofSize 20 4)).2.2 .source).2.1
  have within : (session.draw (.ofSize 20 5)).2.offset .source ≤ (Text.lines (session.text .source)).length -
      max 1 (((Layout.ofSize 20 5).area .source).height - 2) := ((frames (.ofSize 20 5)).2.2 .source).1
  rw [lines, height] at kept
  rw [lines, taller] at within
  exact ⟨⟨quit, quits quit _⟩, ⟨aims, (moves _ _ aims).1⟩, ⟨still, rests _ still _⟩, ⟨small, height⟩,
    ⟨scrolled, (kept (Nat.le_of_eq scrolled)).trans scrolled⟩, within⟩

end Session

end Linewise.Viewer
