import NotebookExport.Assembly
import NotebookExport.Formatting.External

/-!
# Configuration

What can be chosen about a conversion, what is chosen if nothing is said, and which choices make no
sense.
-/

namespace NotebookExport

structure Configuration where
  /-- Whether assignments whose names are never read are removed. -/
  prunesUnused : Bool := true
  /-- Whether a program formats the script. -/
  formatsExternally : Bool := true
  command : Invocation := ⟨"black", []⟩
  /-- What the lines begin with that get blank lines around them. -/
  markers : List String := ["def ", "class "]
  /-- What comes before each line of markdown. -/
  commentMark : String := "# "
  deriving DecidableEq

/-- A choice that makes no sense. -/
inductive SettingFault where
  | noProgram
  | noMarkers
  | emptyMarker
  /-- What would come before markdown does not make it a comment. -/
  | noCommentMark (mark : String)
  deriving DecidableEq

def SettingFault.message : SettingFault → String
  | .noProgram => "formatter.program must not be empty"
  | .noMarkers => "minimal.definition_markers must list at least one marker"
  | .emptyMarker => "minimal.definition_markers must not contain empty markers"
  | .noCommentMark mark => "markdown.comment_prefix must start with '#', got " ++ Text.quote mark

namespace Configuration

/-- The configuration if nothing is said. -/
def standard : Configuration := {}

/-- The first choice that makes no sense. -/
def fault? (c : Configuration) : Option SettingFault :=
  if Text.isBlank c.command.program.toList then some .noProgram
  else if c.markers.isEmpty then some .noMarkers
  else if c.markers.contains "" then some .emptyMarker
  else if c.commentMark.toList.head? ≠ some '#' then some (.noCommentMark c.commentMark)
  else none

/-- How the script is formatted. -/
def formatter (c : Configuration) : Formatter :=
  if c.formatsExternally then .external c.command c.markers else .minimal c.markers

/-- How the script is put together. -/
def assembler (c : Configuration) (parser : Parser) : Assembler :=
  ⟨parser, c.prunesUnused, c.commentMark⟩

end Configuration

end NotebookExport
