import Linewise.Number
import Linewise.Text.Position
import Linewise.Vocabulary

/-!
Tokens: what a stretch of source text stands for, and where it starts. Two further tokens mark the
start and the end of the stream.
-/

namespace Linewise

inductive TokenKind where
  | streamStart
  | streamEnd
  | blank
  | symbol
  | keyword
  | typeName
  | name
  | number
  deriving DecidableEq, Repr

def TokenKind.label : TokenKind → String
  | .streamStart => "start of stream"
  | .streamEnd => "end of stream"
  | .blank => "whitespace"
  | .symbol => "symbol"
  | .keyword => "keyword"
  | .typeName => "type name"
  | .name => "variable name"
  | .number => "number"

inductive Lexeme where
  | streamStart
  | streamEnd
  | blank (text : String)
  | symbol (sign : Symbol)
  | keyword (word : Keyword)
  | typeName (type : DeclaredType)
  | name (text : String)
  | number (value : Number)
  deriving DecidableEq, Repr

namespace Lexeme

def kind : Lexeme → TokenKind
  | .streamStart => .streamStart
  | .streamEnd => .streamEnd
  | .blank _ => .blank
  | .symbol _ => .symbol
  | .keyword _ => .keyword
  | .typeName _ => .typeName
  | .name _ => .name
  | .number _ => .number

def text? : Lexeme → Option String
  | .blank text => some text
  | .symbol sign => some sign.text
  | .keyword word => some word.text
  | .typeName type => some type.text
  | .name text => some text
  | .streamStart | .streamEnd | .number _ => none

def describe (lexeme : Lexeme) : String :=
  match lexeme with
  | .number value => "number " ++ value.literal
  | _ =>
    match lexeme.text? with
    | some text => lexeme.kind.label ++ " '" ++ text ++ "'"
    | none => lexeme.kind.label

end Lexeme

structure Token where
  lexeme : Lexeme
  pos : Position
  deriving DecidableEq, Repr

namespace Token

def kind (token : Token) : TokenKind := token.lexeme.kind

def text? (token : Token) : Option String := token.lexeme.text?

/-- A token without a text is spelled with nothing. -/
def spelling (token : Token) : String := token.text?.getD ""

def describe (token : Token) : String := token.lexeme.describe

def isStreamEnd (token : Token) : Bool := token.kind == .streamEnd

def matchesText (token : Token) (kind : TokenKind) (text : Option String) : Bool :=
  token.kind == kind && (text.isNone || token.text? == text)

end Token

end Linewise
