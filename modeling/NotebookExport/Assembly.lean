import NotebookExport.Notebook.Cell
import NotebookExport.Pruning
import NotebookExport.Text.Lines

/-!
# Assembly

A script from a notebook: the cells in order, each with a blank line behind it. Code goes in as it
is, or pruned; code that cannot be read is never pruned, and never stops the rest. Markdown goes in
line by line behind a comment mark. Other cells leave no trace.
-/

namespace NotebookExport

open Python

/-- Puts a mark before every line; no text at all counts as one empty line. -/
def commentLines (mark text : String) : String :=
  if text = "" then mark
  else String.ofList (Text.joinLines ((Text.lines text.toList).map fun line => mark.toList ++ line))

/-- What comes behind every cell of the script. -/
def cellSeparator : String := "\n\n"

/-- What becomes of a cell. -/
inductive CellOutcome where
  | pruned (result : Pruned)
  | unreadable (source : String) (fault : SyntaxFault)
  | kept (source : String)
  | comment (text : String)
  | ignored (type : String)
  deriving DecidableEq

namespace CellOutcome

/-- What the cell leaves in the script. -/
def text : CellOutcome → String
  | .pruned result => result.code ++ cellSeparator
  | .unreadable source _ => source ++ cellSeparator
  | .kept source => source ++ cellSeparator
  | .comment text => text ++ cellSeparator
  | .ignored _ => ""

def isCode : CellOutcome → Bool
  | .pruned _ | .unreadable _ _ | .kept _ => true
  | .comment _ | .ignored _ => false

def isComment : CellOutcome → Bool
  | .comment _ => true
  | _ => false

def isIgnored : CellOutcome → Bool
  | .ignored _ => true
  | _ => false

/-- The targets removed from the cell. -/
def removed : CellOutcome → List String
  | .pruned result => result.removed
  | _ => []

def fault? : CellOutcome → Option SyntaxFault
  | .unreadable _ fault => some fault
  | _ => none

end CellOutcome

/-- How scripts are put together. -/
structure Assembler where
  /-- How code is read. -/
  parser : Parser
  /-- Whether code is pruned. -/
  prunes : Bool
  /-- What comes before each line of markdown. -/
  mark : String

/-- A code cell that was left alone as it cannot be read. -/
structure SkippedCell where
  index : Nat
  fault : SyntaxFault
  deriving DecidableEq

/-- What was done, counted over the cells. -/
structure AssemblyReport where
  codeCells : Nat
  markdownCells : Nat
  ignoredCells : Nat
  /-- The number of cells from which something was removed. -/
  prunedCells : Nat
  removed : List String
  skipped : List SkippedCell
  deriving DecidableEq

/-- The outcome of each cell of a notebook. -/
structure Assembly where
  outcomes : List CellOutcome
  deriving DecidableEq

namespace Assembly

def text (a : Assembly) : String := String.join (a.outcomes.map CellOutcome.text)

/-- The cells that were left alone as they cannot be read, where the first cell of the row has the
given index. -/
def skippedFrom : Nat → List CellOutcome → List SkippedCell
  | _, [] => []
  | index, outcome :: rest =>
    (outcome.fault?.toList.map fun fault => ⟨index, fault⟩) ++ skippedFrom (index + 1) rest

def report (a : Assembly) : AssemblyReport where
  codeCells := a.outcomes.countP CellOutcome.isCode
  markdownCells := a.outcomes.countP CellOutcome.isComment
  ignoredCells := a.outcomes.countP CellOutcome.isIgnored
  prunedCells := a.outcomes.countP fun outcome => !outcome.removed.isEmpty
  removed := a.outcomes.flatMap CellOutcome.removed
  skipped := skippedFrom 0 a.outcomes

end Assembly

namespace Assembler

/-- What becomes of a cell by itself. -/
def outcome (assembler : Assembler) (cell : Cell) : CellOutcome :=
  match cell.kind with
  | .code =>
    if assembler.prunes then
      match prune assembler.parser cell.source with
      | .ok result => .pruned result
      | .error fault => .unreadable cell.source fault
    else .kept cell.source
  | .markdown => .comment (commentLines assembler.mark cell.source)
  | .other type => .ignored type

def assemble (assembler : Assembler) (cells : List Cell) : Assembly :=
  ⟨cells.map assembler.outcome⟩

end Assembler

end NotebookExport
