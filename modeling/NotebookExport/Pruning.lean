import NotebookExport.Names.Usage
import NotebookExport.Python.Source
import NotebookExport.Statements.OfTree

/-!
# Pruning

Removing the assignments of a text whose names are never read. One pass removes the dead targets of
the statements at the top; as that may leave further names unread, passes follow one another until
one removes nothing, or until the result can no longer be read. Text from which nothing is removed
stays as it is.

The parser is a parameter: what is said here of the passes does not depend on how text is read.
-/

namespace NotebookExport

open Python

/-- How a text is read. -/
abbrev Parser := String → Except SyntaxFault Node

/-- The use of names in a text. -/
def analyze (parser : Parser) (source : String) : Except SyntaxFault NameUsage :=
  (parser source).map (NameUsage.ofTree source)

/-- What one pass does. -/
structure Pass where
  code : String
  /-- The texts of the targets removed. -/
  removed : List String
  /-- The names that were bound and not read before the pass. -/
  unread : List String

namespace Pass

/-- Removes the dead targets of a text with the given tree. -/
def ofTree (source : String) (tree : Node) : Pass :=
  let unread := (NameUsage.ofTree source tree).unread
  let statements := Statement.ofTree source tree
  let removed := (statements.flatMap (Statement.deadTargets unread)).map Target.text
  let code :=
    if removed.isEmpty then source
    else renderStatements (statements.filterMap (Statement.retain unread))
  ⟨code, removed, unread⟩

def run (parser : Parser) (source : String) : Except SyntaxFault Pass :=
  (parser source).map (ofTree source)

end Pass

/-- The result of pruning a text. -/
structure Pruned where
  code : String
  /-- The texts of the targets that each pass removed; the last pass, which removes nothing, is left
  out. -/
  passes : List (List String)
  /-- The names that the text as it was binds and does not read. -/
  unread : List String
  /-- Why the result could not be read again, if so. -/
  fault : Option SyntaxFault
  deriving DecidableEq

namespace Pruned

/-- All targets removed, in the order of their removal. -/
def removed (p : Pruned) : List String := p.passes.flatten

def isChanged (p : Pruned) : Bool := !p.removed.isEmpty

/-- The result of a first pass. -/
def ofPass (pass : Pass) : Pruned :=
  ⟨pass.code, if pass.removed.isEmpty then [] else [pass.removed], pass.unread, none⟩

/-- At most `fuel` further passes; `none` if there would be more. -/
def follow (parser : Parser) : Nat → Pruned → Option Pruned
  | 0, _ => none
  | fuel + 1, p =>
    match Pass.run parser p.code with
    | .error fault => some { p with fault := some fault }
    | .ok pass =>
      if pass.removed.isEmpty then some p
      else follow parser fuel { p with code := pass.code, passes := p.passes ++ [pass.removed] }

end Pruned

/-- Prunes a text in at most `fuel` passes behind the first; `none` if there would be more. -/
def pruneWithin (parser : Parser) (fuel : Nat) (source : String) :
    Except SyntaxFault (Option Pruned) :=
  (Pass.run parser source).map fun first =>
    if first.removed.isEmpty then some (.ofPass first)
    else Pruned.follow parser fuel (.ofPass first)

/-- A bound on the number of passes: each of them takes away an equals sign. -/
def passBound (source : String) : Nat := source.toList.count '=' + 1

/-- Prunes a text. -/
def prune (parser : Parser) (source : String) : Except SyntaxFault Pruned :=
  (pruneWithin parser (passBound source) source).map fun result =>
    result.getD ⟨source, [], [], none⟩

end NotebookExport
