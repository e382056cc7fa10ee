import Linewise.CompileFile
import Linewise.Proofs.Preservation

/-! What compiling a file does to the file tree. Nothing happens before the source is read and there is a place
for the output; after that the output holds what a compilation in memory writes, and nothing else has changed.
The file that is written stands in the way of no path that led anywhere before: a path goes through
directories, and a directory is never written. -/
namespace Linewise

theorem bindOk {ε α β : Type} {first : Except ε α} {later : α → Except ε β} {value : β} :
    (first >>= later) = .ok value ↔ ∃ middle, first = .ok middle ∧ later middle = .ok value := by
  cases first with
  | error error => exact ⟨nofun, nofun⟩
  | ok middle => exact ⟨fun ok => ⟨middle, rfl, ok⟩, fun ⟨_, rfl, ok⟩ => ok⟩

namespace FileTree

section
variable (tree : FileTree)

theorem lookupFilter {place other : Place} (apart : other ≠ place) (entries : List (Place × Entry)) :
    (entries.filter fun old => old.1 ≠ place).lookup other = entries.lookup other := by
  induction entries with
  | nil => rfl
  | cons entry rest ih =>
    obtain ⟨here, entry⟩ := entry
    by_cases same : here = place
    · rw [List.filter_cons_of_neg (by simpa using same), ih, List.lookup_cons, same, beq_false_of_ne apart]
    · rw [List.filter_cons_of_pos (by simpa using same), List.lookup_cons, List.lookup_cons, ih]

theorem getPut {place : Place} (below : place ≠ []) (entry : Entry) (other : Place) :
    (tree.put place entry).get? other = if other = place then some entry else tree.get? other := by
  by_cases same : other = place
  · subst same
    simp [get?, put, below]
  · simp only [get?, put, List.lookup_cons, beq_false_of_ne same, lookupFilter same, if_neg same]

def target (path : String) : Except IoError Place :=
  tree.resolve path (Path.pieces path.toList)

theorem readOk (path : String) (content : ByteArray) :
    tree.read path = .ok content ↔
      ∃ place, tree.target path = .ok place ∧ tree.get? place = some (.file content) := by
  unfold read
  rw [bindOk]
  refine exists_congr fun place => and_congr_right fun _ => ?_
  cases tree.get? place with
  | none => exact ⟨nofun, nofun⟩
  | some entry =>
    cases entry with
    | directory => exact ⟨nofun, nofun⟩
    | file found => simp [pure, Except.pure]

theorem decodeIff (content : ByteArray) (text : String) :
    String.fromUTF8? content = some text ↔ content = text.toUTF8 := by
  constructor
  · intro decoded
    unfold String.fromUTF8? at decoded
    split at decoded
    · cases decoded
      rfl
    · cases decoded
  · rintro rfl
    exact dif_pos text.isValidUTF8

theorem readTextOk (path text : String) :
    tree.readText path = .ok text ↔ tree.read path = .ok text.toUTF8 := by
  unfold readText
  rw [bindOk]
  constructor
  · rintro ⟨content, read, ok⟩
    cases decoded : String.fromUTF8? content with
    | none => simp [decoded] at ok
    | some found =>
      simp only [decoded] at ok
      cases ok
      rw [read, (decodeIff content text).mp decoded]
  · intro read
    have decoded := (decodeIff _ text).mpr rfl
    exact ⟨_, read, by simp only [decoded, pure, Except.pure]⟩

theorem followCons (place found : Place) (piece : String) (rest : List String) :
    tree.follow place (piece :: rest) = .ok found ↔
      tree.get? place = some .directory ∧ piece.utf8ByteSize ≤ maxName ∧
        tree.follow (enter place piece) rest = .ok found := by
  rw [follow]
  cases tree.get? place with
  | none => exact ⟨nofun, nofun⟩
  | some entry =>
    cases entry with
    | file content => exact ⟨nofun, nofun⟩
    | directory =>
      by_cases long : maxName < piece.utf8ByteSize
      · simp only [if_pos long]
        exact ⟨nofun, fun ⟨_, short, _⟩ => absurd long (Nat.not_lt.mpr short)⟩
      · simp only [if_neg long, true_and]
        exact (and_iff_right (Nat.not_lt.mp long)).symm

theorem followClosing {place found : Place} (lead : List String)
    (ok : tree.follow place (lead ++ [""]) = .ok found) : tree.get? found = some .directory := by
  induction lead generalizing place with
  | nil =>
    obtain ⟨directory, _, last⟩ := (tree.followCons _ _ _ _).mp ok
    cases last
    exact directory
  | cons piece rest ih => exact ih ((tree.followCons _ _ _ _).mp ok).2.2

def IsPassable (path : String) : Prop :=
  path ≠ "" ∧ path.toList.contains '\x00' = false ∧ path.utf8ByteSize ≤ maxPath

theorem resolveOk (path : String) (pieces : List (List Char)) (place : Place) :
    tree.resolve path pieces = .ok place ↔
      IsPassable path ∧
        tree.follow (tree.startOf path.toList) (pieces.map String.ofList) = .ok place := by
  unfold resolve IsPassable
  split
  · rename_i empty
    exact ⟨nofun, fun ⟨⟨filled, _⟩, _⟩ => absurd empty filled⟩
  split
  · rename_i zero
    exact ⟨nofun, fun ⟨⟨_, plain, _⟩, _⟩ => absurd (zero.symm.trans plain) nofun⟩
  split
  · rename_i long
    exact ⟨nofun, fun ⟨⟨_, _, short⟩, _⟩ => absurd long (Nat.not_lt.mpr short)⟩
  · rename_i filled plain short
    exact (and_iff_right ⟨filled, Bool.eq_false_iff.mpr plain, Nat.not_lt.mp short⟩).symm

theorem writableAt (path : String) (place : Place) :
    tree.writable path = .ok place ↔
      tree.resolve path (Path.targetPieces (Path.pieces path.toList)) = .ok place ∧
        tree.get? place ≠ some .directory := by
  unfold writable
  rw [bindOk]
  constructor
  · rintro ⟨found, resolved, ok⟩
    cases entry : tree.get? found with
    | none =>
      simp only [entry] at ok
      cases ok
      exact ⟨resolved, by simp [entry]⟩
    | some kind =>
      cases kind with
      | directory => simp [entry] at ok
      | file content =>
        simp only [entry] at ok
        cases ok
        exact ⟨resolved, by simp [entry]⟩
  · rintro ⟨resolved, file⟩
    refine ⟨place, resolved, ?_⟩
    split
    · rename_i directory
      exact absurd directory file
    · rfl
    · rfl

/- A closing slash asks for a directory, which is not written; without one both ways to read a path agree. -/
theorem writableOk (path : String) (place : Place) :
    tree.writable path = .ok place ↔ tree.target path = .ok place ∧ tree.get? place ≠ some .directory := by
  rw [writableAt]
  refine and_congr_left fun file => ?_
  have unclosed (lead : List (List Char)) : tree.resolve path (lead ++ [[]]) ≠ .ok place := by
    rw [Ne, resolveOk, List.map_append]
    exact fun ⟨_, followed⟩ => file (tree.followClosing _ followed)
  unfold Path.targetPieces target
  split
  · rename_i last
    obtain ⟨lead, closed⟩ := List.getLast?_eq_some_iff.mp last
    rw [closed]
    exact iff_of_false (unclosed _) (unclosed lead)
  · rfl

theorem belowRoot {tree : FileTree} {place : Place} (file : tree.get? place ≠ some .directory) : place ≠ [] := by
  rintro rfl
  exact file rfl

theorem followPut {place : Place} {content : ByteArray} (file : tree.get? place ≠ some .directory)
    (start found : Place) (pieces : List String) :
    (tree.put place (.file content)).follow start pieces = .ok found ↔ tree.follow start pieces = .ok found := by
  have directory (other : Place) : (tree.put place (.file content)).get? other = some .directory ↔
      tree.get? other = some .directory := by
    rw [getPut tree (belowRoot file)]
    split
    · rename_i same
      rw [same]
      exact ⟨nofun, fun directory => absurd directory file⟩
    · rfl
  induction pieces generalizing start with
  | nil => rfl
  | cons piece rest ih =>
    rw [followCons, followCons]
    exact and_congr (directory start) (and_congr_right fun _ => ih _)

end

structure Replaced (tree after : FileTree) (place : Place) (content : ByteArray) : Prop where
  home : after.home = tree.home
  here : after.get? place = some (.file content)
  others : ∀ other, other ≠ place → after.get? other = tree.get? other
  leads : ∀ path found, after.target path = .ok found ↔ tree.target path = .ok found

theorem putReplaces {tree : FileTree} {place : Place} (content : ByteArray)
    (file : tree.get? place ≠ some .directory) :
    tree.Replaced (tree.put place (.file content)) place content := by
  refine ⟨rfl, ?_, ?_, ?_⟩
  · rw [getPut tree (belowRoot file), if_pos rfl]
  · intro other apart
    rw [getPut tree (belowRoot file), if_neg apart]
  · intro path found
    rw [target, target, resolveOk, resolveOk]
    exact and_congr_right fun _ => followPut tree file _ _ _

section
variable {tree after : FileTree} {place : Place} {content : ByteArray}
  (replaced : tree.Replaced after place content)
include replaced

theorem replacedRead {path : String} (here : tree.target path = .ok place) : after.read path = .ok content :=
  (after.readOk path content).mpr ⟨place, (replaced.leads path place).mpr here, replaced.here⟩

theorem otherRead {path : String} (elsewhere : tree.target path ≠ .ok place) (found : ByteArray) :
    after.read path = .ok found ↔ tree.read path = .ok found := by
  rw [readOk, readOk]
  refine exists_congr fun other => ?_
  rw [replaced.leads]
  refine and_congr_right fun led => ?_
  rw [replaced.others]
  rintro rfl
  exact elsewhere led

end

end FileTree

theorem compileTextIs (options : Options) (source : String) :
    compileText options source = (compile options source .unlimited).1.map fun summary =>
      (Text.decodeLossy (compile options source .unlimited).2.bytes, summary) := rfl

theorem compileTextOk {options : Options} {source : String} {summary : Summary}
    (ok : (compile options source .unlimited).1 = .ok summary) :
    ∃ text : String, compileText options source = .ok (text, summary) ∧
      (compile options source .unlimited).2.bytes = text.toUTF8 := by
  obtain ⟨file, read⟩ := (compiledIff options source .empty).mp ⟨summary, ok⟩
  have compiled : compile options source .unlimited = _ := compiledFile .empty read
  rw [compileTextIs, ok, compiled, ByteArray.empty_append]
  exact ⟨_, by rw [decodeText]; rfl, rfl⟩

theorem compileFileExact (options : Options) (tree : FileTree) (source output : String) :
    let result := compileFile options tree source output
    (∀ text, tree.readText source = .ok text ↔
      ∃ place, tree.target source = .ok place ∧ tree.get? place = some (.file text.toUTF8)) ∧
    (∀ place, tree.writable output = .ok place ↔
      tree.target output = .ok place ∧ tree.get? place ≠ some .directory) ∧
    (∀ error, tree.readText source = .error error → result = (.error (.io error), tree)) ∧
    (∀ text error, tree.readText source = .ok text → tree.writable output = .error error →
      result = (.error (.io error), tree)) ∧
    ∀ text place, tree.readText source = .ok text → tree.writable output = .ok place →
      let memory := compile options text .unlimited
      result.1 = memory.1 ∧ tree.Replaced result.2 place memory.2.bytes ∧
      result.2.read output = .ok memory.2.bytes ∧
      (∀ path content, tree.target path ≠ .ok place →
        (result.2.read path = .ok content ↔ tree.read path = .ok content)) ∧
      (∀ error, memory.1 = .error error → compileText options text = .error error) ∧
      ∀ summary, memory.1 = .ok summary →
        ∃ written : String, compileText options text = .ok (written, summary) ∧
          memory.2.bytes = written.toUTF8 := by
  intro result
  refine ⟨?_, tree.writableOk output, ?_, ?_, ?_⟩
  · intro text
    rw [FileTree.readTextOk, FileTree.readOk]
  · intro error failed
    simp [result, compileFile, FileTree.acquire, failed, bind, Except.bind]
  · intro text error read failed
    simp [result, compileFile, FileTree.acquire, read, failed, bind, Except.bind]
  · intro text place read found memory
    have acquired : tree.acquire source output = .ok (text, place) := by
      simp [FileTree.acquire, read, found, bind, Except.bind, pure, Except.pure]
    have same : result = (memory.1, tree.put place (.file memory.2.bytes)) := by
      simp only [result, compileFile, acquired]
      rfl
    obtain ⟨led, file⟩ := (tree.writableOk output place).mp found
    have replaced := FileTree.putReplaces memory.2.bytes file
    rw [same]
    refine ⟨rfl, replaced, FileTree.replacedRead replaced led, ?_, ?_, ?_⟩
    · exact fun path content elsewhere => FileTree.otherRead replaced elsewhere content
    · intro error failed
      rw [compileTextIs, failed]
      rfl
    · exact fun summary ok => compileTextOk ok

def sampleTree : FileTree where
  entries := [(["main"], .file "print 1 print".toUTF8), (["out"], .directory)]

/- The output takes the place of its own source, which is read before. -/
theorem compileFileExactSample :
    compileFile {} sampleTree "missing" "main" = (.error (.io .notFound), sampleTree) ∧
    compileFile {} sampleTree "main" "out" = (.error (.io .isDirectory), sampleTree) ∧
    (compileFile {} sampleTree "main" "main").2.read "main" =
      .ok (compile {} "print 1 print" .unlimited).2.bytes := by
  obtain ⟨reads, writes, _, _, written⟩ := compileFileExact {} sampleTree "main" "main"
  have read := (reads "print 1 print").mpr ⟨["main"], rfl, rfl⟩
  obtain ⟨_, _, unread, _⟩ := compileFileExact {} sampleTree "missing" "main"
  obtain ⟨_, _, _, unwritten, _⟩ := compileFileExact {} sampleTree "main" "out"
  obtain ⟨_, _, here, _⟩ := written _ ["main"] read ((writes _).mpr ⟨rfl, by simp [sampleTree, FileTree.get?]⟩)
  exact ⟨unread _ rfl, unwritten _ _ read rfl, here⟩

end Linewise
