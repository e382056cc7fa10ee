/-!
Colours and styles. A style says only what it changes.
-/

namespace Linewise.Viewer

inductive Colour where
  | reset
  | black
  | rgb (red green blue : UInt8)
  deriving DecidableEq, Repr

namespace Colour

def hexByte (byte : UInt8) : String :=
  let digits := Nat.toDigits 16 byte.toNat
  String.ofList (List.replicate (2 - digits.length) '0' ++ digits)

def text : Colour → String
  | .reset => "reset"
  | .black => "black"
  | .rgb red green blue => "#" ++ hexByte red ++ hexByte green ++ hexByte blue

end Colour

structure Style where
  fg : Option Colour := none
  bg : Option Colour := none
  bold : Bool := false
  deriving DecidableEq, Repr

namespace Style

def coloured (colour : Colour) : Style := { fg := some colour }

def bolded (style : Style) : Style := { style with bold := true }

end Style

structure Span where
  text : String
  style : Style := {}
  deriving DecidableEq, Repr

end Linewise.Viewer
