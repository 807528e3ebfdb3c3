/-!
# Notebooks

A notebook is its cells in order, with the major version of the format it was written in. What a
cell is for is told by its type: code, markdown, or anything else under its name.
-/

namespace NotebookExport

inductive CellKind where
  | code
  | markdown
  | other (name : String)
  deriving DecidableEq

namespace CellKind

/-- The kind with the given name. -/
def ofName (name : String) : CellKind :=
  if name = "code" then .code else if name = "markdown" then .markdown else .other name

end CellKind

structure Cell where
  kind : CellKind
  source : String
  deriving DecidableEq

structure Notebook where
  /-- The major version of the format. -/
  version : Nat
  /-- The minor version of the format. -/
  minorVersion : Nat
  cells : List Cell
  deriving DecidableEq

namespace Notebook

/-- The number of cells of a kind. -/
def count (n : Notebook) (kind : CellKind) : Nat := n.cells.countP fun cell => cell.kind = kind

end Notebook

end NotebookExport
