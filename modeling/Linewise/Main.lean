import Linewise.Command
import Linewise.Viewer.Terminal

/-!
The program: it reads and writes files and standard streams and leaves every decision to the command.
-/

namespace Linewise.Main

/-- Some calls report the negated code. -/
def hasCode (code wanted : UInt32) : Bool := code == wanted || code == 0 - wanted

def faultOf (error : IO.Error) : IoError :=
  match error with
  | .noFileOrDirectory _ _ _ => .notFound
  | .inappropriateType _ code _ =>
    if hasCode code 20 then .notDirectory
    else if hasCode code 21 then .isDirectory
    else .other (toString error)
  | .invalidArgument _ code _ =>
    if hasCode code 36 then .nameTooLong else .other (toString error)
  | _ => .other (toString error)

def attempt {α : Type} (action : IO α) : IO (Except IoError α) := do
  try return .ok (← action)
  catch error => return .error (faultOf error)

def readText (path : String) : IO (Except IoError String) := do
  match ← attempt (IO.FS.readBinFile path) with
  | .error error => return .error error
  | .ok bytes => return match String.fromUTF8? bytes with
    | some text => .ok text
    | none => .error .notUtf8

def acquire (source output : String) : IO (Except IoError String) := do
  match ← readText source with
  | .error error => return .error error
  | .ok text =>
    match ← attempt (IO.FS.writeBinFile output .empty) with
    | .error error => return .error error
    | .ok () => return .ok text

def compilePath (options : Options) (source output : String) : IO Command.Outcome := do
  match ← acquire source output with
  | .error error => return .ofResult (.error (.io error))
  | .ok text =>
    let (outcome, sink) := compile options text .unlimited
    IO.FS.writeBinFile output sink.bytes
    return .ofResult outcome

partial def display (session : Viewer.Session) : IO Unit := do
  let stdout ← IO.getStdout
  let (screen, session) := session.render 100 30
  stdout.putStr screen.sequence
  stdout.flush
  if session.quit then return
  let line ← (← IO.getStdin).getLine
  if line.isEmpty then return
  display ((Viewer.keysOf line.toList).foldl Viewer.Session.press session)

def finish (outcome : Command.Outcome) : IO UInt32 := do
  match outcome with
  | .exit status out err =>
    (← IO.getStdout).putStr out
    (← IO.getStderr).putStr err
    return status.toUInt32
  | .view session =>
    display session
    return 0

def run (arguments : List String) : IO UInt32 := do
  match Command.parse arguments with
  | .error error => finish (.usage error)
  | .ok .version => finish (.exit 0 Command.versionText "")
  | .ok .help => finish (.exit 0 Command.helpText "")
  | .ok (.view input options) => finish (Command.view options (← readText input))
  | .ok (.compile input output options) => finish (← compilePath options input output)

end Linewise.Main

def main (arguments : List String) : IO UInt32 := Linewise.Main.run arguments
