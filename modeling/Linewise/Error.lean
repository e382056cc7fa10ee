import Linewise.Text.Quoted
import Linewise.Token

/-!
Everything that stops the compiler, as causes. The wording of each cause is its `message`.
-/

namespace Linewise

inductive LexError where
  | unrecognized (rest : String) (pos : Position)
  /-- The scanner was asked to move to `index`, past the end of the source. -/
  | prematureEnd (index stop : Nat)
  deriving DecidableEq, Repr

def LexError.message : LexError → String
  | .unrecognized rest pos => "unrecognized input at " ++ pos.text ++ ": " ++ Text.quoted rest
  | .prematureEnd index stop =>
    s!"lexer reached end of input too soon (index {index}, end {stop})"

inductive Expected where
  | token (kind : Option TokenKind) (text : Option String)
  | rule (description : String)
  deriving DecidableEq, Repr

def Expected.describe : Expected → String
  | .rule description => description
  | .token (some kind) (some text) => kind.label ++ " '" ++ text ++ "'"
  | .token (some kind) none => "any " ++ kind.label
  | .token none (some text) => "'" ++ text ++ "'"
  | .token none none => "any token"

structure Violation where
  expected : Expected
  found : Token
  context : List Token := []
  deriving DecidableEq, Repr

namespace Violation

def contextLine (token : Token) : String :=
  "\n    " ++ token.describe ++ " (" ++ token.pos.text ++ ")"

def contextText : List Token → String
  | [] => ""
  | tokens => "\n  upcoming:" ++ String.join (tokens.map contextLine)

def message (violation : Violation) : String :=
  "Parse error at " ++ violation.found.pos.text ++ ": expected " ++ violation.expected.describe ++
    ", found " ++ violation.found.describe ++ contextText violation.context

end Violation

inductive IoError where
  | sinkFull
  | flushFailed
  | notFound
  | notDirectory
  | isDirectory
  | nameTooLong
  | zeroInName
  | notUtf8
  | other (text : String)
  deriving DecidableEq, Repr

def IoError.message : IoError → String
  | .sinkFull => "sink full"
  | .flushFailed => "flush failed"
  | .notFound => "No such file or directory (os error 2)"
  | .notDirectory => "Not a directory (os error 20)"
  | .isDirectory => "Is a directory (os error 21)"
  | .nameTooLong => "File name too long (os error 36)"
  | .zeroInName => "file name contained an unexpected NUL byte"
  | .notUtf8 => "stream did not contain valid UTF-8"
  | .other text => text

inductive CompileError where
  | lex (error : LexError)
  | grammar (violation : Violation)
  | io (error : IoError)
  deriving DecidableEq, Repr

namespace CompileError

def message : CompileError → String
  | .lex error => error.message
  | .grammar violation => violation.message
  | .io error => "I/O error: " ++ error.message

def pos? : CompileError → Option Position
  | .lex (.unrecognized _ pos) => some pos
  | .lex (.prematureEnd _ _) => none
  | .grammar violation => some violation.found.pos
  | .io _ => none

end CompileError

end Linewise
