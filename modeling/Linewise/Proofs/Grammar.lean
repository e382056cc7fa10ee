import Linewise.Token

/-! The grammar, with a tree for every derivation. The tokens of a tree are the sentence that it derives,
places included, so that a sentence has one derivation exactly when trees with the same tokens are the
same. The optional parentheses of `input` do not spoil this: nothing that can follow an expression or a
statement starts with an opening parenthesis. -/
namespace Linewise.Grammar

inductive Input where
  | bare (pos : Position)
  | call (pos openPos closePos : Position)
  deriving DecidableEq, Repr

def Input.tokens : Input → List Token
  | .bare pos => [⟨.keyword .input, pos⟩]
  | .call pos openPos closePos =>
    [⟨.keyword .input, pos⟩, ⟨.symbol .openParen, openPos⟩, ⟨.symbol .closeParen, closePos⟩]

inductive Expr where
  | input (call : Input)
  | group (openPos : Position) (inner : Expr) (closePos : Position)
  | name (text : String) (pos : Position)
  | number (value : Number) (pos : Position)
  deriving DecidableEq, Repr

def Expr.tokens : Expr → List Token
  | .input call => call.tokens
  | .group openPos inner closePos =>
    ⟨.symbol .openParen, openPos⟩ :: inner.tokens ++ [⟨.symbol .closeParen, closePos⟩]
  | .name text pos => [⟨.name text, pos⟩]
  | .number value pos => [⟨.number value, pos⟩]

inductive Statement where
  | print (pos : Position) (value : Expr)
  | input (call : Input)
  | declaration (type : DeclaredType) (typePos : Position) (name : String) (namePos : Position)
  | declared (wordPos : Position) (type : DeclaredType) (typePos : Position) (name : String)
      (namePos : Position)
  | assignment (name : String) (namePos equalsPos : Position) (value : Expr)
  deriving DecidableEq, Repr

def Statement.tokens : Statement → List Token
  | .print pos value => ⟨.keyword .print, pos⟩ :: value.tokens
  | .input call => call.tokens
  | .declaration type typePos name namePos => [⟨.typeName type, typePos⟩, ⟨.name name, namePos⟩]
  | .declared wordPos type typePos name namePos =>
    [⟨.keyword .declare, wordPos⟩, ⟨.typeName type, typePos⟩, ⟨.name name, namePos⟩]
  | .assignment name namePos equalsPos value =>
    ⟨.name name, namePos⟩ :: ⟨.symbol .equals, equalsPos⟩ :: value.tokens

structure File where
  startPos : Position
  statements : List Statement
  endPos : Position
  deriving DecidableEq, Repr

def File.tokens (file : File) : List Token :=
  ⟨.streamStart, file.startPos⟩ :: file.statements.flatMap Statement.tokens ++
    [⟨.streamEnd, file.endPos⟩]

def Sentence (tokens : List Token) : Prop := ∃ file : File, file.tokens = tokens

def Viable (tokens : List Token) : Prop := ∃ rest, Sentence (tokens ++ rest)

def NoOpen (tokens : List Token) : Prop :=
  ∀ token ∈ tokens.head?, token.lexeme ≠ .symbol .openParen

theorem noOpenCons {token : Token} {rest : List Token} (other : token.lexeme ≠ .symbol .openParen) :
    NoOpen (token :: rest) := by
  intro first member
  obtain rfl : token = first := by simpa using member
  exact other

theorem noOpenNot {pos : Position} {rest : List Token} :
    ¬ NoOpen (⟨.symbol .openParen, pos⟩ :: rest) :=
  fun noOpen => noOpen _ rfl rfl

theorem inputUnique {a b : Input} {rest rest' : List Token} (noOpen : NoOpen rest)
    (noOpen' : NoOpen rest') (same : a.tokens ++ rest = b.tokens ++ rest') : a = b ∧ rest = rest' := by
  cases a <;> cases b <;> simp only [Input.tokens, List.cons_append, List.nil_append, List.cons.injEq,
    Token.mk.injEq, true_and] at same
  · obtain ⟨rfl, rfl⟩ := same
    exact ⟨rfl, rfl⟩
  · obtain ⟨_, rfl⟩ := same
    exact absurd noOpen noOpenNot
  · obtain ⟨_, rfl⟩ := same
    exact absurd noOpen' noOpenNot
  · obtain ⟨rfl, rfl, rfl, rfl⟩ := same
    exact ⟨rfl, rfl⟩

theorem exprUnique {a b : Expr} {rest rest' : List Token} (noOpen : NoOpen rest)
    (noOpen' : NoOpen rest') (same : a.tokens ++ rest = b.tokens ++ rest') : a = b ∧ rest = rest' := by
  induction a generalizing b rest rest' with
  | input call =>
    cases b with
    | input call' =>
      obtain ⟨rfl, rfl⟩ := inputUnique noOpen noOpen' same
      exact ⟨rfl, rfl⟩
    | group | name | number => cases call <;> simp [Expr.tokens, Input.tokens] at same
  | group openPos inner closePos ih =>
    cases b with
    | group openPos' inner' closePos' =>
      simp only [Expr.tokens, List.cons_append, List.append_assoc, List.cons.injEq, Token.mk.injEq,
        true_and] at same
      obtain ⟨rfl, same⟩ := same
      obtain ⟨rfl, last⟩ := ih (noOpenCons (by simp)) (noOpenCons (by simp)) same
      simp only [List.nil_append, List.cons.injEq, Token.mk.injEq, true_and] at last
      obtain ⟨rfl, rfl⟩ := last
      exact ⟨rfl, rfl⟩
    | input call => cases call <;> simp [Expr.tokens, Input.tokens] at same
    | name | number => simp [Expr.tokens] at same
  | name text pos =>
    cases b with
    | name =>
      simp only [Expr.tokens, List.cons_append, List.nil_append, List.cons.injEq, Token.mk.injEq,
        Lexeme.name.injEq] at same
      obtain ⟨⟨rfl, rfl⟩, rfl⟩ := same
      exact ⟨rfl, rfl⟩
    | input call => cases call <;> simp [Expr.tokens, Input.tokens] at same
    | group | number => simp [Expr.tokens] at same
  | number value pos =>
    cases b with
    | number =>
      simp only [Expr.tokens, List.cons_append, List.nil_append, List.cons.injEq, Token.mk.injEq,
        Lexeme.number.injEq] at same
      obtain ⟨⟨rfl, rfl⟩, rfl⟩ := same
      exact ⟨rfl, rfl⟩
    | input call => cases call <;> simp [Expr.tokens, Input.tokens] at same
    | group | name => simp [Expr.tokens] at same

theorem statementUnique {a b : Statement} {rest rest' : List Token} (noOpen : NoOpen rest)
    (noOpen' : NoOpen rest') (same : a.tokens ++ rest = b.tokens ++ rest') : a = b ∧ rest = rest' := by
  cases a with
  | print pos value =>
    cases b with
    | print =>
      simp only [Statement.tokens, List.cons_append, List.cons.injEq, Token.mk.injEq, true_and] at same
      obtain ⟨rfl, same⟩ := same
      obtain ⟨rfl, rfl⟩ := exprUnique noOpen noOpen' same
      exact ⟨rfl, rfl⟩
    | input call => cases call <;> simp [Statement.tokens, Input.tokens] at same
    | declaration | declared | assignment => simp [Statement.tokens] at same
  | input call =>
    cases b with
    | input call' =>
      obtain ⟨rfl, rfl⟩ := inputUnique noOpen noOpen' same
      exact ⟨rfl, rfl⟩
    | print | declaration | declared | assignment =>
      cases call <;> simp [Statement.tokens, Input.tokens] at same
  | declaration type typePos name namePos =>
    cases b with
    | declaration =>
      simp only [Statement.tokens, List.cons_append, List.nil_append, List.cons.injEq, Token.mk.injEq,
        Lexeme.typeName.injEq, Lexeme.name.injEq] at same
      obtain ⟨⟨rfl, rfl⟩, ⟨rfl, rfl⟩, rfl⟩ := same
      exact ⟨rfl, rfl⟩
    | input call => cases call <;> simp [Statement.tokens, Input.tokens] at same
    | print | declared | assignment => simp [Statement.tokens] at same
  | declared wordPos type typePos name namePos =>
    cases b with
    | declared =>
      simp only [Statement.tokens, List.cons_append, List.nil_append, List.cons.injEq, Token.mk.injEq,
        Lexeme.typeName.injEq, Lexeme.name.injEq, true_and] at same
      obtain ⟨rfl, ⟨rfl, rfl⟩, ⟨rfl, rfl⟩, rfl⟩ := same
      exact ⟨rfl, rfl⟩
    | input call => cases call <;> simp [Statement.tokens, Input.tokens] at same
    | print | declaration | assignment => simp [Statement.tokens] at same
  | assignment name namePos equalsPos value =>
    cases b with
    | assignment =>
      simp only [Statement.tokens, List.cons_append, List.cons.injEq, Token.mk.injEq,
        Lexeme.name.injEq, true_and] at same
      obtain ⟨⟨rfl, rfl⟩, rfl, same⟩ := same
      obtain ⟨rfl, rfl⟩ := exprUnique noOpen noOpen' same
      exact ⟨rfl, rfl⟩
    | input call => cases call <;> simp [Statement.tokens, Input.tokens] at same
    | print | declaration | declared => simp [Statement.tokens] at same

def body (statements : List Statement) (endPos : Position) : List Token :=
  statements.flatMap Statement.tokens ++ [⟨.streamEnd, endPos⟩]

theorem bodyCons (statement : Statement) (statements : List Statement) (endPos : Position) :
    body (statement :: statements) endPos = statement.tokens ++ body statements endPos := by
  simp [body]

theorem fileTokens (file : File) :
    file.tokens = ⟨.streamStart, file.startPos⟩ :: body file.statements file.endPos := rfl

theorem statementHead (statement : Statement) :
    ∃ token rest, statement.tokens = token :: rest ∧ token.lexeme ≠ .symbol .openParen ∧
      token.lexeme ≠ .streamEnd := by
  cases statement with
  | input call => cases call <;> exact ⟨_, _, rfl, by simp, by simp⟩
  | print | declaration | declared | assignment => exact ⟨_, _, rfl, by simp, by simp⟩

theorem bodyNoOpen (statements : List Statement) (endPos : Position) :
    NoOpen (body statements endPos) := by
  cases statements with
  | nil => exact noOpenCons (by simp)
  | cons statement rest =>
    obtain ⟨token, more, head, noOpen, _⟩ := statementHead statement
    rw [bodyCons, head]
    exact noOpenCons noOpen

theorem bodyUnique {a b : List Statement} {endPos endPos' : Position}
    (same : body a endPos = body b endPos') : a = b ∧ endPos = endPos' := by
  induction a generalizing b with
  | nil =>
    cases b with
    | nil => exact ⟨rfl, by simpa [body] using same⟩
    | cons statement rest =>
      obtain ⟨token, more, head, _, noEnd⟩ := statementHead statement
      rw [bodyCons, head] at same
      have first := (List.cons.inj same).1
      exact absurd (congrArg Token.lexeme first).symm noEnd
  | cons statement rest ih =>
    cases b with
    | nil =>
      obtain ⟨token, more, head, _, noEnd⟩ := statementHead statement
      rw [bodyCons, head] at same
      have first := (List.cons.inj same).1
      exact absurd (congrArg Token.lexeme first) noEnd
    | cons statement' rest' =>
      rw [bodyCons, bodyCons] at same
      obtain ⟨rfl, after⟩ := statementUnique (bodyNoOpen _ _) (bodyNoOpen _ _) same
      obtain ⟨rfl, rfl⟩ := ih after
      exact ⟨rfl, rfl⟩

theorem tokensInjective : Function.Injective File.tokens := by
  intro a b same
  obtain ⟨startPos, statements, endPos⟩ := a
  obtain ⟨startPos', statements', endPos'⟩ := b
  rw [fileTokens, fileTokens] at same
  obtain ⟨start, same⟩ := List.cons.inj same
  obtain ⟨rfl, rfl⟩ := bodyUnique same
  cases start
  rfl

end Linewise.Grammar
