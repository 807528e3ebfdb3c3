import NotebookExport.Formatting.Change
import NotebookExport.Text.Lines

/-!
# Blank lines around definitions

The formatting that needs no program: a line that starts with one of some markers gets an empty line
behind it, and one before it unless it is the first, or behind a blank line, or behind another such
line. Nothing else changes.
-/

namespace NotebookExport

open Text

/-- Whether a line starts with one of the markers. -/
def startsDefinition (markers : List String) (line : List Char) : Bool :=
  markers.any fun marker => marker.toList.isPrefixOf line

/-- A line and the empty lines it gets. -/
structure SpacedLine where
  line : List Char
  isSpacedBefore : Bool
  isSpacedAfter : Bool
  deriving DecidableEq

namespace SpacedLine

/-- The line with the empty lines around it. -/
def parts (s : SpacedLine) : List (List Char) :=
  (if s.isSpacedBefore then [[]] else []) ++ s.line :: (if s.isSpacedAfter then [[]] else [])

/-- What happened to the line with the given number. -/
def changes (number : Nat) (s : SpacedLine) : List FormatChange :=
  (if s.isSpacedBefore then [.blankLineBefore number] else []) ++
    (if s.isSpacedAfter then [.blankLineAfter number] else [])

end SpacedLine

/-- Spaces lines out. `isFree` tells that a definition needs no empty line before it here. -/
def spaceLines (markers : List String) : (isFree : Bool) → List (List Char) → List SpacedLine
  | _, [] => []
  | isFree, line :: rest =>
    if startsDefinition markers line then ⟨line, !isFree, true⟩ :: spaceLines markers true rest
    else ⟨line, false, false⟩ :: spaceLines markers (isBlank line) rest

/-- The changes to a row of lines whose first one has the given number. -/
def lineChanges : Nat → List SpacedLine → List FormatChange
  | _, [] => []
  | number, s :: rest => s.changes number ++ lineChanges (number + 1) rest

/-- Puts empty lines around the definitions of a text. -/
def addBlankLines (markers : List String) (text : String) : Formatted :=
  let spaced := spaceLines markers true (splitLines text.toList)
  ⟨String.ofList (joinLines (spaced.flatMap SpacedLine.parts)), lineChanges 1 spaced, none⟩

end NotebookExport
