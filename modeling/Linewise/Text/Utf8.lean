/-!
Bytes read as UTF-8. Bytes that are no UTF-8 can still be shown: each longest run of bytes that
begins a character and is not completed becomes one replacement character.
-/

namespace Linewise.Text

def replacement : Char := '�'

/-- A character whose first bytes are read: how many are missing, between which bounds the next one
has to lie, and the bits so far. -/
structure OpenSequence where
  missing : Nat
  low : Nat
  high : Nat
  code : Nat
  deriving DecidableEq, Repr

/-- What a first byte opens. The bounds exclude overlong forms, surrogates and what lies beyond the
last code point. -/
def openSequence? (byte : Nat) : Option OpenSequence :=
  if byte < 0xc2 then none
  else if byte < 0xe0 then some ⟨1, 0x80, 0xbf, byte - 0xc0⟩
  else if byte = 0xe0 then some ⟨2, 0xa0, 0xbf, 0⟩
  else if byte = 0xed then some ⟨2, 0x80, 0x9f, 0xd⟩
  else if byte < 0xf0 then some ⟨2, 0x80, 0xbf, byte - 0xe0⟩
  else if byte = 0xf0 then some ⟨3, 0x90, 0xbf, 0⟩
  else if byte < 0xf4 then some ⟨3, 0x80, 0xbf, byte - 0xf0⟩
  else if byte = 0xf4 then some ⟨3, 0x80, 0x8f, 4⟩
  else none

def startByte (byte : Nat) : List Char × Option OpenSequence :=
  if byte < 0x80 then ([Char.ofNat byte], none)
  else match openSequence? byte with
    | some sequence => ([], some sequence)
    | none => ([replacement], none)

def continueByte (sequence : OpenSequence) (byte : Nat) : List Char × Option OpenSequence :=
  if sequence.low ≤ byte ∧ byte ≤ sequence.high then
    let code := sequence.code * 64 + (byte - 0x80)
    if sequence.missing ≤ 1 then ([Char.ofNat code], none)
    else ([], some ⟨sequence.missing - 1, 0x80, 0xbf, code⟩)
  else
    let (done, opened) := startByte byte
    (replacement :: done, opened)

def showBytes : Option OpenSequence → List UInt8 → List Char
  | none, [] => []
  | some _, [] => [replacement]
  | none, byte :: rest =>
    let (done, opened) := startByte byte.toNat
    done ++ showBytes opened rest
  | some sequence, byte :: rest =>
    let (done, opened) := continueByte sequence byte.toNat
    done ++ showBytes opened rest

def decodeLossy (bytes : ByteArray) : String :=
  match String.fromUTF8? bytes with
  | some text => text
  | none => String.ofList (showBytes none bytes.toList)

end Linewise.Text
