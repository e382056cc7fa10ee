import Linewise.Text.Extending
import Linewise.Text.Unprintable

/-!
A text between double quotes, written so that every character can be seen. Common controls, the
quote and the backslash have short escapes. A character that joins its neighbour or has no shape is
written by its code point in lower-case hexadecimal. The halfwidth voicing marks join their
neighbour too, but have a shape of their own.
-/

namespace Linewise.Text

def escapeCode (c : Char) : List Char :=
  ['\\', 'u', '\x7b'] ++ Nat.toDigits 16 c.toNat ++ ['\x7d']

def isVoicingMark (c : Char) : Bool := c == '\uff9e' || c == '\uff9f'

def escape (c : Char) : List Char :=
  if c = '\x00' then ['\\', '0']
  else if c = '\t' then ['\\', 't']
  else if c = '\r' then ['\\', 'r']
  else if c = '\n' then ['\\', 'n']
  else if c = '"' then ['\\', '"']
  else if c = '\\' then ['\\', '\\']
  else if isExtending c && !isVoicingMark c || isUnprintable c then escapeCode c
  else [c]

def quoted (text : String) : String :=
  String.ofList (['"'] ++ text.toList.flatMap escape ++ ['"'])

end Linewise.Text
