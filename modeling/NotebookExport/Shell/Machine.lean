import NotebookExport.Shell.Script
import NotebookExport.Storage

/-!
# The state of a shell

What commands read and change: parameters, files, the input that is left, and where output goes.
What an action writes is kept, or goes to a file, or is lost.
-/

namespace NotebookExport.Shell

/-- Where output goes. -/
inductive Sink where
  | nowhere
  /-- It is kept, in the given row. -/
  | kept (row : Nat)
  | file (path : String)

structure Machine where
  /-- The name under which the shell runs. -/
  name : Octets
  /-- The line of the current command. -/
  line : Nat := 1
  arguments : List Octets := []
  bindings : List (Octets × Octets) := []
  functions : List (Octets × Command) := []
  /-- The status of the last command. -/
  status : Nat := 0
  /-- The status of the last script in a word of the current command. -/
  wordStatus : Option Nat := none
  files : FileSystem
  /-- What is left to be read. -/
  input : Octets := []
  outputs : List (Nat × Sink) := [(1, .nowhere), (2, .kept 0)]
  /-- The rows of output that is kept; the first holds the errors. -/
  kept : List Octets := [[]]
  stopsOnFailure : Bool := false
  refusesUnset : Bool := false
  showsCommands : Bool := false
  /-- Whether the status of the current command is only asked for. -/
  isCondition : Bool := false
  /-- Whether the current script is an argument of a command. -/
  isEvaluating : Bool := false
  /-- The scripts to be run on signals; zero stands for the end of the shell. -/
  traps : List (Nat × Octets) := []
  /-- The script of a signal that has come. -/
  pendingTrap : Option Octets := none

/-- Why what follows is not run. -/
inductive Stop where
  | exit
  | signal (number : Nat)
  | leaveLoop (levels : Nat)
  | nextRound (levels : Nat)
  | leaveFunction
  /-- The steps that are allowed have been used up. -/
  | exhausted

/-- What commands do: they change the state, and may stop. -/
abbrev Act := ExceptT Stop (StateM Machine)

namespace Act

def setStatus (status : Nat) : Act Unit := modify fun m => { m with status := status }

/-- The file system with more at the end of a file that is there. -/
def appended (files : FileSystem) (path : String) (octets : Octets) : FileSystem :=
  match files.find path with
  | some (.file bytes) =>
    files.set (FilePath.ofText path) (some (.file (bytes ++ Octets.toBytes octets)))
  | _ => files

/-- Writes to the output with a number. -/
def writeTo (descriptor : Nat) (octets : Octets) : Act Unit :=
  modify fun m =>
    match m.outputs.lookup descriptor with
    | some (.kept row) => { m with kept := m.kept.modify row (· ++ octets) }
    | some (.file path) => { m with files := appended m.files path octets }
    | some .nowhere | none => m

def write (octets : Octets) : Act Unit := writeTo 1 octets

/-- Writes a line to the errors. -/
def complain (text : String) : Act Unit := writeTo 2 (Octets.ofText text ++ ['\n'])

/-- Fails with a complaint in the name of the shell. -/
def fail (status : Nat) (text : String) : Act Unit := do
  let m ← get
  complain (Octets.toText m.name ++ ": " ++ toString m.line ++ ": " ++ text)
  setStatus status

/-- Fails, and ends the shell. -/
def failForGood {α : Type} (text : String) : Act α := do
  fail 2 text
  throw .exit

/-- All input that is left. -/
def takeInput : Act Octets := do
  let m ← get
  set { m with input := [] }
  return m.input

/-- The octets of a file, one of the files that stand for something else included. -/
def readFile (path : Octets) : Act (Except FileFault Octets) := do
  if path = "/dev/null".toList then return .ok []
  else if path = "/dev/stdin".toList then return .ok (← takeInput)
  else
    match (← get).files.read (Octets.toText path) with
    | .ok bytes => return .ok (Octets.ofBytes bytes)
    | .error fault => return .error fault

/-- Makes a file hold some octets. -/
def writeFile (path : Octets) (octets : Octets) : Act (Except FileFault Unit) := do
  if path = "/dev/null".toList then return .ok ()
  else
    match (← get).files.write (Octets.toText path) (Octets.toBytes octets) with
    | .ok files =>
      modify fun m => { m with files := files }
      return .ok ()
    | .error fault => return .error fault

/-- Where output to a path goes; the file is made empty unless it is kept. -/
def openOutput (path : Octets) (keeps : Bool) : Act (Except FileFault Sink) := do
  let m ← get
  let sink (descriptor : Nat) : Except FileFault Sink :=
    .ok ((m.outputs.lookup descriptor).getD .nowhere)
  if path = "/dev/null".toList then return .ok .nowhere
  else if path = "/dev/stdout".toList then return sink 1
  else if path = "/dev/stderr".toList then return sink 2
  else
    let text := Octets.toText path
    let isThere := match m.files.find text with
      | some (.file _) => true
      | _ => false
    if keeps && isThere then return .ok (.file text)
    else return (← writeFile path []).map fun _ => .file text

/-- Runs an action whose output is kept apart. -/
def capture (act : Act Unit) : Act Octets := do
  let before ← get
  let row := before.kept.length
  set { before with
    kept := before.kept ++ [[]]
    outputs := (1, .kept row) :: before.outputs }
  act
  let m ← get
  set { m with kept := m.kept.take row, outputs := before.outputs }
  return (m.kept[row]?).getD []

/-- Runs an action in a shell of its own, of which only the files, the status, the output and the
input that is left remain. -/
def apart (act : Act Unit) : Act Unit := do
  let before ← get
  try act
  catch
    | .signal number => throw (.signal number)
    | .exhausted => throw .exhausted
    | _ => pure ()
  modify fun m =>
    { before with
      files := m.files, status := m.status, input := m.input, kept := m.kept }

end Act

/-! ### Parameters -/

/-- The number by which the shell is known as a process. -/
def processNumber : Octets := "4242".toList

/-- Reads digits. -/
def natural? (octets : Octets) : Option Nat :=
  if !octets.isEmpty && octets.all Char.isDigit then
    some (octets.foldl (fun n c => 10 * n + (c.toNat - '0'.toNat)) 0)
  else none

namespace Machine

def valueOf? (m : Machine) (name : Octets) : Option Octets := m.bindings.lookup name

def assign (m : Machine) (name value : Octets) : Machine :=
  { m with bindings := (name, value) :: m.bindings.filter fun v => v.1 ≠ name }

/-- The arguments as one text. -/
def joined (m : Machine) : Octets := List.intercalate [' '] m.arguments

/-- The value of a parameter, if it is set. -/
def parameter? (m : Machine) (name : Octets) : Option Octets :=
  match name with
  | ['0'] => some m.name
  | ['#'] => some (toString m.arguments.length).toList
  | ['?'] => some (toString m.status).toList
  | ['$'] => some processNumber
  | ['-'] => some (if m.stopsOnFailure then ['e'] else [])
  | ['@'] | ['*'] => if m.arguments.isEmpty then none else some m.joined
  | _ =>
    match natural? name with
    | some n => if n = 0 then some m.name else m.arguments[n - 1]?
    | none => m.valueOf? name

/-- Whether a character separates the fields of a value. -/
def splitsAt (m : Machine) (c : Char) : Bool :=
  ((m.valueOf? "IFS".toList).getD [' ', '\t', '\n']).contains c

end Machine

end NotebookExport.Shell
