import Linewise.FileTree
import Linewise.Compiler

/-!
Compiling a file. The source is read whole before the output is touched, so both may be the same
file. When the pass fails the output holds what was written until then.
-/

namespace Linewise

def FileTree.acquire (tree : FileTree) (source output : String) : Except IoError (String × Place) := do
  let text ← tree.readText source
  return (text, ← tree.writable output)

def compileFile (options : Options) (tree : FileTree) (source output : String) :
    Except CompileError Summary × FileTree :=
  match tree.acquire source output with
  | .error error => (.error (.io error), tree)
  | .ok (text, place) =>
    let (outcome, sink) := compile options text .unlimited
    (outcome, tree.put place (.file sink.bytes))

end Linewise
