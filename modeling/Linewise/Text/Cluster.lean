import Linewise.Text.Conjunct
import Linewise.Text.Extending
import Linewise.Text.Leading
import Linewise.Text.Pictograph
import Linewise.Text.Separating
import Linewise.Text.Spacing

/-!
Clusters: what a reader takes for one character. A cluster is a character with its marks, a Hangul
syllable spelled out, a flag, or a picture made of several. A text is cut in front of every
character that does not join the cluster before it, and no character is lost.
-/

namespace Linewise.Text

def joiner : Char := '\u200d'

inductive Role where
  | carriageReturn
  | lineFeed
  | separator
  | extender
  | joiner
  | spacing
  | leading
  | indicator
  | initial
  | medial
  | final
  | openSyllable
  | closedSyllable
  | other
  deriving DecidableEq, Repr

namespace Role

def isInitial (code : Nat) : Bool := inRanges [(0x1100, 0x115f), (0xa960, 0xa97c)] code

def isMedial (code : Nat) : Bool :=
  inRanges [(0x1160, 0x11a7), (0xd7b0, 0xd7c6), (0x16d63, 0x16d63), (0x16d67, 0x16d6a)] code

def isFinal (code : Nat) : Bool := inRanges [(0x11a8, 0x11ff), (0xd7cb, 0xd7fb)] code

def isSyllable (code : Nat) : Bool := inRanges [(0xac00, 0xd7a3)] code

def ofChar (c : Char) : Role :=
  let code := c.toNat
  if c = '\r' then .carriageReturn
  else if c = '\n' then .lineFeed
  else if isSeparating c then .separator
  else if code < 128 then .other
  else if c = Text.joiner then .joiner
  else if isExtending c || isTone c then .extender
  else if isSpacing c then .spacing
  else if isLeading c then .leading
  else if inRanges [(0x1f1e6, 0x1f1ff)] code then .indicator
  else if isInitial code then .initial
  else if isMedial code then .medial
  else if isFinal code then .final
  else if isSyllable code then
    -- Each open syllable is followed by its 27 closed ones.
    if (code - 0xac00) % 28 = 0 then .openSyllable else .closedSyllable
  else .other

def separates : Role → Bool
  | .carriageReturn | .lineFeed | .separator => true
  | _ => false

def attaches : Role → Bool
  | .extender | .joiner | .spacing => true
  | _ => false

def spells : Role → Role → Bool
  | .initial, .initial | .initial, .medial => true
  | .initial, .openSyllable | .initial, .closedSyllable => true
  | .openSyllable, .medial | .openSyllable, .final => true
  | .medial, .medial | .medial, .final => true
  | .closedSyllable, .final | .final, .final => true
  | _, _ => false

end Role

inductive Picture where
  | none
  | shown
  | joined
  deriving DecidableEq, Repr

inductive Conjunct where
  | none
  | consonant
  | linked
  deriving DecidableEq, Repr

structure Tail where
  role : Role := .other
  picture : Picture := .none
  conjunct : Conjunct := .none
  halfFlag : Bool := false
  deriving DecidableEq, Repr

namespace Tail

def nextPicture (tail : Tail) (c : Char) : Picture :=
  if isPictograph c then .shown
  else match tail.picture, Role.ofChar c with
    | .shown, .extender => .shown
    | .shown, .joiner => .joined
    | _, _ => .none

def nextConjunct (tail : Tail) (c : Char) : Conjunct :=
  if isConsonant c then .consonant
  else if tail.conjunct = .none ∨ c = '\u200c' then .none
  else if isLinker c then .linked
  else match Role.ofChar c with
    | .extender | .joiner => tail.conjunct
    | _ => .none

def push (tail : Tail) (c : Char) : Tail where
  role := Role.ofChar c
  picture := tail.nextPicture c
  conjunct := tail.nextConjunct c
  halfFlag := Role.ofChar c = .indicator && !tail.halfFlag

def joins (tail : Tail) (c : Char) : Bool :=
  let next := Role.ofChar c
  if tail.role.separates || next.separates then
    tail.role == .carriageReturn && next == .lineFeed
  else
    next.attaches || tail.role == .leading || tail.role.spells next ||
      tail.halfFlag && next == .indicator ||
      tail.picture == .joined && isPictograph c ||
      tail.conjunct == .linked && isConsonant c

end Tail

def clustersFrom (cluster : List Char) (tail : Tail) : List Char → List (List Char)
  | [] => [cluster.reverse]
  | c :: rest =>
    if tail.joins c then clustersFrom (c :: cluster) (tail.push c) rest
    else cluster.reverse :: clustersFrom [c] (Tail.push {} c) rest

def clusters : List Char → List (List Char)
  | [] => []
  | c :: rest => clustersFrom [c] (Tail.push {} c) rest

theorem clustersFromFlatten (cluster : List Char) (tail : Tail) (rest : List Char) :
    (clustersFrom cluster tail rest).flatten = cluster.reverse ++ rest := by
  induction rest generalizing cluster tail with
  | nil => simp [clustersFrom]
  | cons c rest ih =>
    unfold clustersFrom
    split <;> simp [ih]

theorem clustersFlatten (text : List Char) : (clusters text).flatten = text := by
  cases text with
  | nil => rfl
  | cons c rest => simp [clusters, clustersFromFlatten]

end Linewise.Text
