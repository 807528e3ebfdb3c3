import NotebookExport.Proofs.LetterLines

/-!
# Rendering and reading again

Lowering undoes rendering: what is kept of a text is read again, with the statements that were
rendered, as long as no line of it begins or goes on like another statement. So pruning ends with a
text that cannot be read only where a pass has left such a line.
-/

namespace NotebookExport

open Python Text

/-- The tree of `a = b = c` and `b` below it. -/
def chainTree : Node :=
  .programOf 12 2 [letterLineAt .origin 2, letterLineAt ⟨10, 10, 1, 0⟩ 0]

/-- The tree of `a=match[0]=5`. -/
def matchTree : Node :=
  let part := Node.onLine 0 0
  .programOf 13 1 [
    part (.phrase .expressionStatement) none 0 12 [part (.phrase .assignment) none 0 12 [
      part (.token .identifier) (some .left) 0 1 [],
      part (.token .equals) none 1 2 [],
      part (.phrase .assignment) (some .right) 2 12 [
        part (.phrase .subscript) (some .left) 2 10 [
          part (.token .identifier) (some .value) 2 7 [],
          part (.token .lbracket) none 7 8 [],
          part (.token .integer) (some .subscript) 8 9 [],
          part (.token .rbracket) none 9 10 []],
        part (.token .equals) none 10 11 [],
        part (.token .integer) (some .right) 11 12 []]]]]

/-- Refuses a line that begins with `match` and goes on as an assignment, as `Python.parse` does. -/
def matchParser : Parser
  | "a=match[0]=5\n" => .ok matchTree
  | _ => .error ⟨1, 6, .unexpected "[0]"⟩

end NotebookExport
