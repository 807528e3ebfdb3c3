/-!
# Changes by formatting

What formatting did to a text, as a list to be shown, and the text that came out of it.
-/

namespace NotebookExport

/-- One thing that formatting did. Lines are those of the text as it was, counted from one. -/
inductive FormatChange where
  | blankLineBefore (line : Nat)
  | blankLineAfter (line : Nat)
  | formattedBy (program : String)
  | failed (program : String) (reason : String)
  deriving DecidableEq

def FormatChange.message : FormatChange → String
  | .blankLineBefore line =>
    "Added newline before function/class definition at line " ++ toString line
  | .blankLineAfter line =>
    "Added newline after function/class definition at line " ++ toString line
  | .formattedBy program => "Formatted using " ++ program
  | .failed program reason => program ++ " formatting failed: " ++ reason

/-- The result of formatting. -/
structure Formatted where
  code : String
  changes : List FormatChange
  /-- The program that ran, whether it failed or not. -/
  tool : Option String
  deriving DecidableEq

end NotebookExport
