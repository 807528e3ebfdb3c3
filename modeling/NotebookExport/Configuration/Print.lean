import NotebookExport.Configuration.Record
import NotebookExport.Yaml.Print

/-!
# Writing configurations

A configuration as a YAML text that holds everything, nothing left out.
-/

namespace NotebookExport.Configuration

open Yaml

/-- A truth value as a word. -/
def wordOf (b : Bool) : String := if b then "true" else "false"

/-- The YAML text of a configuration. -/
def toText (c : Configuration) : String :=
  String.ofList <|
    writeWord 0 "version" (toString configurationVersion) ++
    writeWord 0 "prune_unused" (wordOf c.prunesUnused) ++
    writeWord 0 "external_format" (wordOf c.formatsExternally) ++
    writeSection 0 "formatter"
      (writeText 2 "program" c.command.program ++ writeTexts 2 "args" c.command.args) ++
    writeSection 0 "minimal" (writeTexts 2 "definition_markers" c.markers) ++
    writeSection 0 "markdown" (writeText 2 "comment_prefix" c.commentMark)

end NotebookExport.Configuration
