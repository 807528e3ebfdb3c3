import NotebookExport.CommandLine
import NotebookExport.Formatting.Installed
import NotebookExport.Python.Source

/-!
# The program

The outer layer of the command: it looks at the files that the arguments name, runs the command on
them, writes the script that came out, and prints.
-/

namespace NotebookExport.Main

/-- All paths that lead to a path, itself included. -/
def leadingPaths (path : String) : List String :=
  let parts := path.splitOn "/"
  (List.range parts.length).map fun n => String.intercalate "/" (parts.take (n + 1))

/-- What stands at a path now. -/
def lookAt (path : String) : IO (Option FileEntry) := do
  try
    let data ← IO.FS.readBinFile path
    return some (.file data.toList)
  catch
    | .noFileOrDirectory .. => return none
    | _ => return some .directory

/-- The files that some paths name, and the directories that lead to them. -/
def snapshot (paths : List String) : IO FileSystem :=
  (paths.flatMap leadingPaths).foldlM (fun files path => do
    if path.isEmpty then return files
    else return files.set (FilePath.ofText path) (← lookAt path)) FileSystem.empty

/-- Runs the command on the files that are there. -/
def run (texts : List String) : IO UInt32 := do
  let named := match Request.ofTexts texts with
    | .ok (.convert input output options) => [input, output] ++ options.configuration.toList
    | _ => []
  let before ← snapshot named
  let outcome := Command.run ⟨Python.parse, Installed.programs⟩ before texts
  IO.print outcome.output
  for event in outcome.log do
    IO.eprintln event.text
  for fault in outcome.usageFault do
    IO.eprintln ("error: " ++ fault.message ++ "\n\n" ++ Command.helpText)
  if outcome.exitCode = 0 then
    match named with
    | _ :: output :: _ =>
      match outcome.files.find output with
      | some (.file bytes) => IO.FS.writeBinFile output ⟨bytes.toArray⟩
      | _ => pure ()
    | _ => pure ()
  return UInt32.ofNat outcome.exitCode

end NotebookExport.Main

def main (texts : List String) : IO UInt32 := NotebookExport.Main.run texts
