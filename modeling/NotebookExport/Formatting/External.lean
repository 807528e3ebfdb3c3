import NotebookExport.Formatting.BlankLines
import NotebookExport.Storage

/-!
# Formatting by a program

A program that is given the path of a scratch file with the text in it and may change that file.
What such a program does is no part of this module: `Programs` is any behaviour at all. A program
that is not there is replaced by the blank lines around definitions. Whatever else goes wrong, the
text stays as it was.
-/

namespace NotebookExport

/-- Where the text stands while a program works on it. -/
def scratchPath : String := "/tmp/nbscript-000000.py"

/-- A program and what comes before the path of the scratch file. -/
structure Invocation where
  program : String
  args : List String
  deriving DecidableEq

/-- Why a program that is there cannot be started. -/
inductive StartFault where
  | permissionDenied
  | notDirectory
  | nameTooLong
  | holdsNul
  /-- Any other fault, in words. -/
  | other (reason : String)
  deriving DecidableEq

def StartFault.message : StartFault → String
  | .permissionDenied => "Permission denied (os error 13)"
  | .notDirectory => "Not a directory (os error 20)"
  | .nameTooLong => "File name too long (os error 36)"
  | .holdsNul => "nul byte found in provided data"
  | .other reason => reason

/-- How a program came to its end. -/
inductive Ending where
  | status (code : Nat)
  | signal
  deriving DecidableEq

namespace Ending

def isSuccess (ending : Ending) : Bool := ending = .status 0

def describe : Ending → String
  | .status code => "status " ++ toString code
  | .signal => "a signal"

end Ending

/-- What may happen when a program is to run on a scratch file. -/
inductive ProgramRun where
  /-- The scratch file could not be written. -/
  | unwritten (fault : FileFault)
  /-- There is no such program. -/
  | notFound
  | notStarted (fault : StartFault)
  /-- The program ran, wrote to its error output, and left this behind as the scratch file. -/
  | ended (ending : Ending) (errors : List UInt8) (file : Except FileFault (List UInt8))

/-- What each command does with each text. -/
abbrev Programs := Invocation → String → ProgramRun

/-- Why formatting by a program gave no text. -/
inductive FormatterFault where
  | toolMissing (program : String)
  | notStarted (program : String) (fault : StartFault)
  | invocationFailed (program : String) (ending : Ending) (errors : String)
  | file (fault : FileFault)
  deriving DecidableEq

def FormatterFault.message : FormatterFault → String
  | .toolMissing program => program ++ " not found"
  | .notStarted program fault => "Failed to run " ++ program ++ ": " ++ fault.message
  | .invocationFailed program ending errors =>
    program ++ " exited with " ++ ending.describe ++ ": " ++ errors
  | .file fault => "Formatter I/O error: " ++ fault.message

/-- An error output as text, without white space at its ends. -/
def errorText (bytes : List UInt8) : String :=
  String.ofList (Text.trim (Text.Utf8.decodeLossy bytes).toList)

/-- The text that a program makes of a text. -/
def runFormatter (programs : Programs) (command : Invocation) (source : String) :
    Except FormatterFault String :=
  match programs command source with
  | .unwritten fault => .error (.file fault)
  | .notFound => .error (.toolMissing command.program)
  | .notStarted fault => .error (.notStarted command.program fault)
  | .ended ending errors file =>
    if ending.isSuccess then
      match file with
      | .error fault => .error (.file fault)
      | .ok bytes =>
        match Text.Utf8.decode? bytes with
        | some text => .ok text
        | none => .error (.file .notText)
    else .error (.invocationFailed command.program ending (errorText errors))

/-- Formats by a program, or by blank lines where there is no such program. -/
def formatByProgram (programs : Programs) (command : Invocation) (markers : List String)
    (source : String) : Formatted :=
  match runFormatter programs command source with
  | .ok code => ⟨code, [.formattedBy command.program], some command.program⟩
  | .error (.toolMissing _) => addBlankLines markers source
  | .error fault => ⟨source, [.failed command.program fault.message], some command.program⟩

/-- How a script is formatted. -/
inductive Formatter where
  | external (command : Invocation) (markers : List String)
  | minimal (markers : List String)
  deriving DecidableEq

namespace Formatter

def name : Formatter → String
  | .external command _ => command.program
  | .minimal _ => "minimal"

def format (programs : Programs) : Formatter → String → Formatted
  | .external command markers => formatByProgram programs command markers
  | .minimal markers => addBlankLines markers

end Formatter

end NotebookExport
