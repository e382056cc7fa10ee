import Linewise.Scanner

/-!
Reading ahead. Tokens that were looked at and not yet consumed wait in a queue; the scanner moves
only when the queue is too short.
-/

namespace Linewise

structure Lookahead where
  scanner : Scanner
  queue : List Token := []
  deriving DecidableEq, Repr

namespace Lookahead

def ofSource (rule : WordRule) (source : String) : Lookahead :=
  { scanner := Scanner.ofSource rule source }

abbrev Read := Step LexError Lookahead

def fetch : Read Token :=
  Scanner.next.onPart
    { of := Lookahead.scanner, replace := fun ahead scanner => { ahead with scanner } } id

def enqueue : Read Token := do
  let token ← fetch
  modify fun ahead => { ahead with queue := ahead.queue ++ [token] }
  return token

def enqueuePast : Nat → Read Token
  | 0 => enqueue
  | skipped + 1 => do
    let _ ← enqueue
    enqueuePast skipped

/-- The `k`th token from here, counted from one; zero counts as one. It is not consumed. -/
def peek (k : Nat) : Read Token := do
  let queue := (← get).queue
  match queue[k - 1]? with
  | some token => return token
  | none => enqueuePast (k - 1 - queue.length)

def consume : Read Token := do
  match (← get).queue with
  | token :: queue =>
    modify fun ahead => { ahead with queue }
    return token
  | [] => fetch

def upcoming : Nat → Lookahead → List Token
  | 0, _ => []
  | count + 1, ahead =>
    match consume.runFrom ahead with
    | (.ok token, rest) => if token.isStreamEnd then [token] else token :: upcoming count rest
    | (.error _, _) => []

def bound (ahead : Lookahead) : Nat := ahead.queue.length + ahead.scanner.bound

end Lookahead

end Linewise
