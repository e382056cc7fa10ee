/-!
Names in the written Python. A name that Python reserves gets a trailing underscore. No name of the
source language has an underscore, so the result is no other name.
-/

namespace Linewise.Target

def reservedWords : List String :=
  ["False", "None", "True", "and", "as", "assert", "async", "await", "break", "class", "continue",
    "def", "del", "elif", "else", "except", "finally", "for", "from", "global", "if", "import", "in",
    "is", "lambda", "nonlocal", "not", "or", "pass", "raise", "return", "try", "while", "with",
    "yield"]

def safeName (name : String) : String :=
  if name ∈ reservedWords then name ++ "_" else name

end Linewise.Target
