import Linewise.Text.Cluster
import Linewise.Text.Wide
import Linewise.Text.Widthless

/-!
How many cells of a terminal a character or a cluster fills. A picture made of several characters
fills two, whatever they fill apart.
-/

namespace Linewise.Text

def charWidth (c : Char) : Nat :=
  if c = '\u17d8' then 3
  else if c = '\u17a4' then 2
  else if isWidthless c then 0
  else if isWide c then 2
  else 1

/-- What stands before a character: a picture can take a tone, a selector, or a joiner with another
picture. -/
inductive Before where
  | text
  | toneless
  | picture
  | joined
  deriving DecidableEq, Repr

def selector : Char := '\ufe0f'

def showsPicture (c : Char) (next : Option Char) : Bool :=
  isPictograph c && isWide c || isTone c || isSelectable c && next == some selector ||
    takesTone c && next.any isTone

def widthAfter (before : Before) : List Char → Nat
  | [] => 0
  | c :: rest =>
    if before = .toneless ∧ isTone c then widthAfter .picture rest
    else if showsPicture c rest.head? then
      (if before = .joined then 0 else 2) +
        widthAfter (if takesTone c then .toneless else .picture) rest
    else if before = .text then charWidth c + widthAfter .text rest
    else if c = selector then widthAfter .picture rest
    else if c = joiner then widthAfter .joined rest
    else charWidth c + widthAfter .text rest

def clusterWidth (cluster : List Char) : Nat :=
  if cluster = ['\r', '\n'] then 1 else widthAfter .text cluster

theorem clusterWidthSingleton (c : Char) (plain : showsPicture c none = false) :
    clusterWidth [c] = charWidth c := by
  simp [clusterWidth, widthAfter, plain]

end Linewise.Text
