import NotebookExport.Names.Binding
import NotebookExport.Names.Reading

/-!
# Use of names

The names that a text reads and those that it binds, with what follows from both: the names that
are bound and never read.
-/

namespace NotebookExport

open Python

/-- The names that a text reads and binds. -/
structure NameUsage where
  read : List String
  bound : List String

namespace NameUsage

/-- The names that are bound and never read. -/
def unread (usage : NameUsage) : List String :=
  usage.bound.filter fun name => name ∉ usage.read

theorem mem_unread (usage : NameUsage) (name : String) :
    name ∈ usage.unread ↔ name ∈ usage.bound ∧ name ∉ usage.read := by
  simp [unread]

/-- The use of names in a syntax tree. -/
def ofTree (source : String) (tree : Node) : NameUsage :=
  ⟨tree.readNames source, tree.boundNames source⟩

end NameUsage

end NotebookExport
