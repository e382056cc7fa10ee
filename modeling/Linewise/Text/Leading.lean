import Linewise.Text.CodeRange

/-!
The characters that join the one after them into a single written unit (property
`Grapheme_Cluster_Break`, value `Prepend`).
-/

namespace Linewise.Text

def leadingRanges : List (Nat × Nat) :=
  [(0x600, 0x605), (0x6dd, 0x6dd), (0x70f, 0x70f), (0x890, 0x891), (0x8e2, 0x8e2), (0xd4e, 0xd4e),
    (0x110bd, 0x110bd), (0x110cd, 0x110cd), (0x111c2, 0x111c3), (0x113d1, 0x113d1),
    (0x1193f, 0x1193f), (0x11941, 0x11941), (0x11a84, 0x11a89), (0x11d46, 0x11d46),
    (0x11f02, 0x11f02)]

def isLeading (c : Char) : Bool :=
  if c.toNat < 128 then false else inRanges leadingRanges c.toNat

end Linewise.Text
