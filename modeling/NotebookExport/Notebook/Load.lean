import NotebookExport.Notebook.Document
import NotebookExport.Storage

/-!
# Loading notebooks

A notebook from its text, and from a file. A file that is not there is told apart from one that
cannot be read.
-/

namespace NotebookExport

/-- Why no notebook could be loaded. -/
inductive LoadFault where
  | fileNotFound (path : String)
  | unreadable (fault : FileFault)
  | content (fault : NotebookFault)
  deriving DecidableEq

namespace LoadFault

def message : LoadFault → String
  | .fileNotFound path => "File not found: " ++ path
  | .unreadable fault => "Failed to read notebook file: " ++ fault.message
  | .content (.json fault) => "Failed to parse notebook JSON: " ++ fault.message
  | .content (.format fault) => "Invalid notebook format: " ++ fault.message
  | .content (.unsupportedVersion version) =>
    "Unsupported notebook version: " ++ toString version ++ " (supported: 3, 4)"

end LoadFault

namespace Notebook

/-- The notebook in a text. -/
def ofText (text : String) : Except NotebookFault Notebook :=
  ofDocument (Json.Document.ofText text)

/-- The notebook in a file. -/
def load (files : FileSystem) (path : String) : Except LoadFault Notebook :=
  match files.readText path with
  | .error .notFound => .error (.fileNotFound path)
  | .error fault => .error (.unreadable fault)
  | .ok text =>
    match ofText text with
    | .ok notebook => .ok notebook
    | .error fault => .error (.content fault)

end Notebook

end NotebookExport
