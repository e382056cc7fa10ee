import Linewise.Diagnostic
import Linewise.Number
import Linewise.Sink
import Linewise.Target.Name
import Linewise.Vocabulary

/-!
The pieces of Python text that the output is written with. Each piece goes to the sink at once.
A line is counted when its end is due, so a line whose end could not be written counts.
-/

namespace Linewise.Target

structure Writer where
  sink : Sink := .unlimited
  annotate : Bool := true
  lines : Nat := 0

abbrev Emit := Step IoError Writer

def initialValue : DeclaredType → String
  | .boolean => "False"
  | .char => "\"\""
  | .int => "0"
  | .float => "0.0"
  | .string => "\"\""

def headerText : String := "# Generated by transpyle. Do not edit."

def declarationNote (name : String) (type : DeclaredType) : String :=
  "  # declare " ++ name ++ ": " ++ type.text

def warningNote (diagnostic : Diagnostic) : String := "  # warning: " ++ diagnostic.text

namespace Writer

def toSink (write : Write Unit) : Emit Unit :=
  write.onPart { of := Writer.sink, replace := fun writer sink => { writer with sink } } id

def text (text : String) : Emit Unit := toSink (Sink.write text)

def newline : Emit Unit := do
  modify fun writer => { writer with lines := writer.lines + 1 }
  text "\n"

def header : Emit Unit := do
  text headerText
  newline

def openPrint : Emit Unit := text "print("

def closePrint : Emit Unit := text ")"

def inputCall : Emit Unit := text "input()"

def equals : Emit Unit := text " = "

def name (name : String) : Emit Unit := text (safeName name)

def number (number : Number) : Emit Unit := text number.literal

def declaration (name : String) (type : DeclaredType) : Emit Unit := do
  text (safeName name ++ " = " ++ initialValue type)
  if (← get).annotate then text (declarationNote name type)

def warnings : List Diagnostic → Emit Unit
  | [] => return
  | diagnostic :: rest => do
    text (warningNote diagnostic)
    warnings rest

def endLine (diagnostics : List Diagnostic) : Emit Unit := do
  warnings diagnostics
  newline

def flush : Emit Unit := toSink Sink.flush

end Writer

end Linewise.Target
