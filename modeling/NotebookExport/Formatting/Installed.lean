import NotebookExport.Formatting.External
import NotebookExport.Shell.Run

/-!
# Installed programs

The programs that are always there: the shell, and the tools that it can call. They are started by
their names, or by their paths, and work on the scratch file and on nothing that lasts.
-/

namespace NotebookExport

open Shell

namespace Installed

/-- The files that are there besides the scratch file. -/
def systemFiles : FileSystem :=
  let files := FileSystem.ofTexts
    [("/etc/passwd", "root:x:0:0:root:/root:/bin/sh\n"), ("/dev/null", ""), ("/usr/bin/sh", ""),
      ("/usr/bin/cat", ""), ("/usr/bin/true", ""), ("/usr/bin/false", ""), ("/bin/sh", ""),
      ("/bin/cat", ""), ("/bin/true", ""), ("/bin/false", "")]
  files.set ["tmp"] (some .directory)

def isShell (name : String) : Bool := name = "sh" || name = "dash"

/-- Whether there is a program of a name. -/
def isInstalled (name : String) : Bool := isShell name || Tool.isProgram (Octets.ofText name)

/-- Runs a program of a name on a text. -/
def run (name : String) (args : List String) (source : String) : ProgramRun :=
  match systemFiles.writeText scratchPath source with
  | .error fault => .unwritten fault
  | .ok files =>
    let arguments := (args ++ [scratchPath]).map Octets.ofText
    let act : Act Unit :=
      if isShell name then Act.apart (runShell runSteps arguments)
      else
        match Tool.ofName? (Octets.ofText name) with
        | some tool => tool arguments
        | none => pure ()
    let (result, m) := act.run.run { name := Octets.ofText name, files := files }
    let ending := match result with
      | .error (.signal _) | .error .exhausted => .signal
      | .error _ | .ok _ => .status m.status
    .ended ending (Octets.toBytes (m.kept.head?.getD [])) (m.files.read scratchPath)

/-- Starts what stands at a path. -/
def startAt (path : String) (args : List String) (source : String) : ProgramRun :=
  match systemFiles.read path with
  | .error .notFound => .notFound
  | .error .notDirectory => .notStarted .notDirectory
  | .error .nameTooLong => .notStarted .nameTooLong
  | .error .holdsNul => .notStarted .holdsNul
  | .error _ => .notStarted .permissionDenied
  | .ok _ =>
    match toolAtPath? (Octets.ofText path) with
    | some name => run (Octets.toText name) args source
    | none => .notStarted .permissionDenied

/-- What the installed programs do. -/
def programs : Programs := fun command source =>
  let holdsNul (text : String) : Bool := text.toList.contains '\x00'
  if (command.program :: command.args).any holdsNul then .notStarted .holdsNul
  else if command.program.toList.contains '/' then startAt command.program command.args source
  else if FileSystem.maxNameLength < command.program.utf8ByteSize then .notStarted .nameTooLong
  else if isInstalled command.program then run command.program command.args source
  else .notFound

end Installed

end NotebookExport
