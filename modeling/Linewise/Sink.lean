import Linewise.Error
import Linewise.Step

/-!
Where output goes. A sink may hold no more than a number of bytes: of a write that does not fit it
keeps what fits, and the write fails. An empty write always fits.
-/

namespace Linewise

structure Sink where
  bytes : ByteArray := .empty
  limit : Option Nat := none
  flushFails : Bool := false

abbrev Write := Step IoError Sink

namespace Sink

def unlimited : Sink := {}

def fitting (sink : Sink) (count : Nat) : Nat :=
  match sink.limit with
  | none => count
  | some limit => min count (limit - sink.bytes.size)

def store (sink : Sink) (added : ByteArray) : Sink :=
  { sink with bytes := sink.bytes ++ added.extract 0 (sink.fitting added.size) }

def write (text : String) : Write Unit := do
  let sink ← get
  set (sink.store text.toUTF8)
  if sink.fitting text.toUTF8.size < text.toUTF8.size then .fail .sinkFull

def flush : Write Unit := do
  if (← get).flushFails then .fail .flushFailed

end Sink

end Linewise
