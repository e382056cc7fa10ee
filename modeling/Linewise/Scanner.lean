import Linewise.Error
import Linewise.Step
import Linewise.Text.Alphanumeric

/-!
The scanner cuts a source text into tokens, from left to right. At each place the kinds of token are
tried in a fixed order, and the first that fits decides; within its kind a token is as long as it can
be. A scanner that finds no token stays where it is.
-/

namespace Linewise

inductive WordRule where
  | whole
  | leading
  deriving DecidableEq, Repr

namespace WordRule

def allows : WordRule → List Char → Bool
  | .leading, _ => true
  | .whole, [] => true
  | .whole, c :: _ => !Text.isAlphanumeric c

end WordRule

namespace Lexeme

def isBlank (c : Char) : Bool := c == ' ' || c == '\t' || c == '\n' || c == '\r'

abbrev Found := Lexeme × Nat

def blank? (text : List Char) : Option Found :=
  match text.takeWhile isBlank with
  | [] => none
  | run => some (.blank (String.ofList run), run.length)

def symbol? (text : List Char) : Option Found := do
  let sign ← Symbol.ofChar? (← text.head?)
  return (.symbol sign, 1)

def startsWord (rule : WordRule) (word : List Char) (text : List Char) : Bool :=
  word.isPrefixOf text && rule.allows (text.drop word.length)

def keyword? (rule : WordRule) (text : List Char) : Option Found := do
  let word ← Keyword.all.find? fun word => startsWord rule word.text.toList text
  return (.keyword word, word.text.length)

def typeName? (rule : WordRule) (text : List Char) : Option Found := do
  let type ← DeclaredType.all.find? fun type => startsWord rule type.text.toList text
  return (.typeName type, type.text.length)

def name? : List Char → Option Found
  | [] => none
  | c :: rest =>
    if Text.isAlphabetic c then
      let word := c :: rest.takeWhile Text.isAlphanumeric
      some (.name (String.ofList word), word.length)
    else none

def numberText (text : List Char) : List Char :=
  match text.takeWhile Char.isDigit, text.dropWhile Char.isDigit with
  | [], '.' :: rest =>
    match rest.takeWhile Char.isDigit with
    | [] => []
    | digits => '.' :: digits
  | [], _ => []
  | digits, '.' :: rest => digits ++ '.' :: rest.takeWhile Char.isDigit
  | digits, _ => digits

def number? (text : List Char) : Option Found :=
  match numberText text with
  | [] => none
  | digits => some (.number (Number.ofText (String.ofList digits)), digits.length)

def ofText? (rule : WordRule) (text : List Char) : Option Found :=
  blank? text <|> symbol? text <|> keyword? rule text <|> typeName? rule text <|>
    name? text <|> number? text

end Lexeme

structure Scanner where
  rule : WordRule
  rest : List Char
  offset : Nat := 0
  pos : Position := {}
  started : Bool := false
  deriving DecidableEq, Repr

abbrev Scan := Step LexError Scanner

namespace Scanner

def ofSource (rule : WordRule) (source : String) : Scanner := { rule, rest := source.toList }

def advance (scanner : Scanner) (count : Nat) : Except LexError Scanner :=
  let read := scanner.rest.take count
  if read.length = count then
    .ok { scanner with
      rest := scanner.rest.drop count
      offset := scanner.offset + count
      pos := scanner.pos.advance read }
  else
    .error (.prematureEnd (scanner.offset + count) (scanner.offset + read.length))

def step (scanner : Scanner) : Except LexError (Token × Scanner) :=
  if scanner.started then
    match scanner.rest with
    | [] => .ok (⟨.streamEnd, scanner.pos⟩, scanner)
    | rest =>
      match Lexeme.ofText? scanner.rule rest with
      | some (lexeme, count) => do
        let next ← scanner.advance count
        return (⟨lexeme, scanner.pos⟩, next)
      | none => .error (.unrecognized (String.ofList rest) scanner.pos)
  else .ok (⟨.streamStart, scanner.pos⟩, { scanner with started := true })

def scan : Scan Token := do
  match (← get).step with
  | .ok (token, next) => set next; return token
  | .error error => .fail error

/-- The next token that is not blank. A run of blanks is one token, so a blank token is followed by
one of another kind. -/
def next : Scan Token := do
  let token ← scan
  if token.kind = .blank then scan else return token

/-- Each token covers a character, the marks of start and end apart. -/
def bound (scanner : Scanner) : Nat := scanner.rest.length + 2

def tokensWithin : Nat → Scan (List Token)
  | 0 => return []
  | bound + 1 => do
    let token ← next
    if token.isStreamEnd then return [token]
    else return token :: (← tokensWithin bound)

def writtenWithin : Nat → Scan (List Token)
  | 0 => return []
  | bound + 1 => do
    let token ← scan
    match token.kind with
    | .streamEnd => return []
    | .streamStart => writtenWithin bound
    | _ => return token :: (← writtenWithin bound)

def tokens : Scan (List Token) := do tokensWithin (← get).bound

def writtenTokens : Scan (List Token) := do writtenWithin (← get).bound

end Scanner

end Linewise
