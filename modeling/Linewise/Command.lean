import Linewise.CompileFile
import Linewise.Viewer.Session

/-!
The command line. Arguments are read from left to right: the first that is wrong decides, and a
request for the version or for help decides as soon as it is met.
-/

namespace Linewise.Command

inductive UsageError where
  | missingInput
  | extraInput (text : String)
  | emptyInput
  | unknownOption (text : String)
  | repeated (option : String)
  | missingValue (option : String)
  | unwantedValue (option : String)
  | invalidValue (option text : String)
  deriving DecidableEq, Repr

def UsageError.message : UsageError → String
  | .missingInput => "the input file is missing"
  | .extraInput text => "unexpected argument '" ++ text ++ "'"
  | .emptyInput => "the input file has an empty name"
  | .unknownOption text => "unknown option '" ++ text ++ "'"
  | .repeated option => "option '--" ++ option ++ "' is given twice"
  | .missingValue option => "option '--" ++ option ++ "' needs a value"
  | .unwantedValue option => "option '--" ++ option ++ "' takes no value"
  | .invalidValue option text => "invalid value '" ++ text ++ "' for option '--" ++ option ++ "'"

inductive Flag where
  | literalKeywords
  | noHeader
  | noAnnotations
  | view
  deriving DecidableEq, Repr

namespace Flag

def all : List Flag := [.literalKeywords, .noHeader, .noAnnotations, .view]

def text : Flag → String
  | .literalKeywords => "literal-keywords"
  | .noHeader => "no-header"
  | .noAnnotations => "no-annotations"
  | .view => "view"

end Flag

inductive Setting where
  | output
  | errorContext
  deriving DecidableEq, Repr

namespace Setting

def all : List Setting := [.output, .errorContext]

def text : Setting → String
  | .output => "output"
  | .errorContext => "error-context"

end Setting

inductive Argument where
  | input (text : String)
  | endOfOptions
  | flag (flag : Flag)
  | setting (setting : Setting) (value : Option String)
  | version
  | help
  | wrong (error : UsageError)
  deriving DecidableEq, Repr

namespace Argument

def ofLong (name : List Char) (value : Option String) : Argument :=
  let name := String.ofList name
  match Setting.all.find? fun wanted => wanted.text = name with
  | some wanted => .setting wanted value
  | none =>
    let plain : Option Argument :=
      if name = "version" then some .version
      else if name = "help" then some .help
      else (Flag.all.find? fun flag => flag.text = name).map .flag
    match plain, value with
    | some argument, none => argument
    | some _, some _ => .wrong (.unwantedValue name)
    | none, _ => .wrong (.unknownOption ("--" ++ name))

/-- The text after a one-letter setting is its value, with or without an equals sign. -/
def attachedValue : List Char → Option String
  | [] => none
  | '=' :: value => some (String.ofList value)
  | value => some (String.ofList value)

def ofChars : List Char → Argument
  | ['-', '-'] => .endOfOptions
  | '-' :: '-' :: long =>
    match long.dropWhile (· != '=') with
    | '=' :: value => ofLong (long.takeWhile (· != '=')) (some (String.ofList value))
    | _ => ofLong long none
  | '-' :: 'o' :: rest => .setting .output (attachedValue rest)
  | '-' :: 'V' :: _ => .version
  | '-' :: 'h' :: _ => .help
  | '-' :: c :: _ => .wrong (.unknownOption (String.ofList ['-', c]))
  | text => .input (String.ofList text)

def ofText (text : String) : Argument := ofChars text.toList

end Argument

/-- A number of tokens: decimal digits, perhaps after a plus sign, no larger than a machine word. -/
def parseCount? (text : String) : Option Nat :=
  let digits := match text.toList with
    | '+' :: rest => rest
    | chars => chars
  if digits ≠ [] ∧ digits.all Char.isDigit then
    let value := digits.foldl (fun value c => value * 10 + (c.toNat - '0'.toNat)) 0
    if value < UInt64.size then some value else none
  else none

structure Request where
  input : Option String := none
  output : Option String := none
  errorContext : Option Nat := none
  flags : List Flag := []
  deriving DecidableEq, Repr

namespace Request

def withInput (request : Request) (text : String) : Except UsageError Request :=
  if request.input.isSome then .error (.extraInput text)
  else if text = "" then .error .emptyInput
  else .ok { request with input := some text }

def withFlag (request : Request) (flag : Flag) : Except UsageError Request :=
  if flag ∈ request.flags then .error (.repeated flag.text)
  else .ok { request with flags := flag :: request.flags }

def withSetting (request : Request) (setting : Setting) (value : String) :
    Except UsageError Request :=
  match setting with
  | .output =>
    if request.output.isSome then .error (.repeated setting.text)
    else if value = "" then .error (.invalidValue setting.text value)
    else .ok { request with output := some value }
  | .errorContext =>
    if request.errorContext.isSome then .error (.repeated setting.text)
    else match parseCount? value with
      | some count => .ok { request with errorContext := some count }
      | none => .error (.invalidValue setting.text value)

def options (request : Request) : Options where
  rule := if .literalKeywords ∈ request.flags then .leading else .whole
  header := .noHeader ∉ request.flags
  annotate := .noAnnotations ∉ request.flags
  context := request.errorContext.getD ({} : Options).context

end Request

inductive Task where
  | compile (input output : String) (options : Options)
  | view (input : String) (options : Options)
  | version
  | help
  deriving DecidableEq, Repr

def Request.task (request : Request) : Except UsageError Task :=
  match request.input with
  | none => .error .missingInput
  | some input =>
    if .view ∈ request.flags then .ok (.view input request.options)
    else .ok (.compile input (request.output.getD (Path.defaultOutput input)) request.options)

def parseInputs (request : Request) : List String → Except UsageError Task
  | [] => request.task
  | text :: rest => do parseInputs (← request.withInput text) rest

def isOption (text : String) : Bool :=
  match Argument.ofText text with
  | .input _ => false
  | _ => true

def parseFrom (request : Request) : List String → Except UsageError Task
  | [] => request.task
  | text :: rest =>
    match Argument.ofText text with
    | .input text => do parseFrom (← request.withInput text) rest
    | .endOfOptions => parseInputs request rest
    | .flag flag => do parseFrom (← request.withFlag flag) rest
    | .setting setting (some value) => do parseFrom (← request.withSetting setting value) rest
    | .setting setting none =>
      match rest with
      | [] => .error (.missingValue setting.text)
      | value :: rest =>
        if isOption value then .error (.missingValue setting.text)
        else do parseFrom (← request.withSetting setting value) rest
    | .version => .ok .version
    | .help => .ok .help
    | .wrong error => .error error

def parse (arguments : List String) : Except UsageError Task := parseFrom {} arguments

def versionText : String := "transpyle 0.1.0\n"

def helpText : String :=
  "Translate a program into Python\n\n" ++
  "Usage: transpyle [OPTIONS] <INPUT>\n\n" ++
  "Arguments:\n" ++
  "  <INPUT>  Source file to translate\n\n" ++
  "Options:\n" ++
  "  -o, --output <OUTPUT>                Output file (the input with the extension .py if left out)\n" ++
  "      --literal-keywords               Read keywords and type names wherever their letters stand\n" ++
  "      --no-header                      Do not write the header comment\n" ++
  "      --no-annotations                 Do not repeat declarations as comments\n" ++
  "      --error-context <ERROR_CONTEXT>  Number of tokens shown after a misplaced one [default: 7]\n" ++
  "      --view                           Show source and output instead of writing a file\n" ++
  "  -h, --help                           Print help\n" ++
  "  -V, --version                        Print version\n"

inductive Outcome where
  | exit (status : Nat) (stdout stderr : String)
  | view (session : Viewer.Session)
  deriving DecidableEq, Repr

namespace Outcome

def success : Outcome := .exit 0 "" ""

def failure (message : String) : Outcome := .exit 1 "" ("Error: " ++ message ++ "\n")

def usage (error : UsageError) : Outcome := .exit 2 "" ("error: " ++ error.message ++ "\n")

def ofResult : Except CompileError Summary → Outcome
  | .ok _ => success
  | .error error => failure error.message

end Outcome

def view (options : Options) (source : Except IoError String) : Outcome :=
  match source with
  | .error error => .failure error.message
  | .ok text =>
    match compileText options text with
    | .error error => .failure error.message
    | .ok (output, summary) => .view (.start text output summary options.rule)

def run (arguments : List String) (tree : FileTree) : Outcome × FileTree :=
  match parse arguments with
  | .error error => (.usage error, tree)
  | .ok .version => (.exit 0 versionText "", tree)
  | .ok .help => (.exit 0 helpText "", tree)
  | .ok (.view input options) => (view options (tree.readText input), tree)
  | .ok (.compile input output options) =>
    let (outcome, tree) := compileFile options tree input output
    (.ofResult outcome, tree)

end Linewise.Command
