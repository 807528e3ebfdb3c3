import NotebookExport.Shell.Tools

/-!
# Commands of the shell

The commands that change the shell itself: its arguments, its variables and its options, and those
that leave what is running.
-/

namespace NotebookExport.Shell

open Act

/-- The commands whose faults end the shell, and before which assignments stay. -/
def isSpecial (name : Octets) : Bool :=
  [":", ".", "break", "continue", "eval", "exec", "exit", "export", "readonly", "return", "set",
    "shift", "times", "trap", "unset"].contains (Octets.toText name)

/-- The number that an argument must be, a word of 32 bits with a sign. -/
def numberFor (command : String) (argument : Octets) : Act Nat := do
  let illegal : Act Nat :=
    failForGood (command ++ ": Illegal number: " ++ Octets.toText argument)
  match natural? argument with
  | some n => if n < Nat.pow 2 31 then return n else illegal
  | none => illegal

/-- Ends the shell. -/
def exitShell : Tool := fun arguments => do
  match arguments.head? with
  | some argument => setStatus ((← numberFor "exit" argument) % 256)
  | none => pure ()
  throw .exit

def shiftArguments : Tool := fun arguments => do
  let n ← match arguments.head? with
    | some argument => numberFor "shift" argument
    | none => pure 1
  if (← get).arguments.length < n then failForGood "shift: can't shift that many"
  else modify fun m => { m with arguments := m.arguments.drop n, status := 0 }

/-- Turns options of the shell on or off by their letters. -/
def setOptions (isOn : Bool) (letters : Octets) : Act Unit :=
  modify fun m =>
    { m with
      stopsOnFailure := if letters.contains 'e' then isOn else m.stopsOnFailure
      refusesUnset := if letters.contains 'u' then isOn else m.refusesUnset
      showsCommands := if letters.contains 'x' then isOn else m.showsCommands }

/-- Sets options and arguments. -/
def setArguments : Nat → Tool
  | 0, _ | _, [] => setStatus 0
  | _ + 1, ['-', '-'] :: rest => modify fun m => { m with arguments := rest, status := 0 }
  | fuel + 1, ('-' :: c :: cs) :: rest => do
    setOptions true (c :: cs)
    setArguments fuel rest
  | fuel + 1, ('+' :: c :: cs) :: rest => do
    setOptions false (c :: cs)
    setArguments fuel rest
  | _ + 1, arguments => modify fun m => { m with arguments := arguments, status := 0 }

/-- Gives variables the values in texts such as `name=value`. -/
def assignTexts : Tool := fun arguments => do
  setStatus 0
  arguments.forM fun argument => do
    let name := argument.takeWhile (· ≠ '=')
    if argument.contains '=' then
      modify fun m => m.assign name (argument.drop (name.length + 1))

def unsetVariables : Tool := fun arguments => do
  modify fun m =>
    { m with
      bindings := m.bindings.filter fun v => !arguments.contains v.1
      functions := m.functions.filter fun f => !arguments.contains f.1
      status := 0 }

/-- Reads a line into variables, the last of which takes what is left. -/
def readVariables : Tool := fun arguments => do
  let names := arguments.filter fun argument => argument.head? ≠ some '-'
  let m ← get
  let line := m.input.takeWhile (· ≠ '\n')
  let isWhole := m.input.contains '\n'
  let trimmed (text : Octets) : Octets :=
    ((text.dropWhile m.splitsAt).reverse.dropWhile m.splitsAt).reverse
  let rec values : List Octets → Octets → List (Octets × Octets)
    | [], _ => []
    | [name], text => [(name, trimmed text)]
    | name :: names, text =>
      let text := text.dropWhile m.splitsAt
      let field := text.takeWhile fun c => !m.splitsAt c
      (name, field) :: values names (text.drop field.length)
  set { m with input := m.input.drop (line.length + 1) }
  (values names line).forM fun (name, value) => modify fun m => m.assign name value
  setStatus (if isWhole then 0 else 1)

/-- Leaves some of the loops that run. -/
def leaveLoops (command : String) (stop : Nat → Stop) : Tool := fun arguments => do
  let n ← match arguments.head? with
    | some argument => numberFor command argument
    | none => pure 1
  setStatus 0
  throw (stop n)

/-- Sets what is done on signals. -/
def setTraps : Tool := fun arguments => do
  setStatus 0
  let number? (name : Octets) : Option Nat :=
    if name = "EXIT".toList then some 0 else Tool.signal? name
  match arguments with
  | [] => pure ()
  | script :: names =>
    names.forM fun name => do
      match number? name with
      | none =>
        complain ("trap: " ++ Octets.toText name ++ ": bad trap")
        setStatus 1
      | some n =>
        modify fun m =>
          let others := m.traps.filter fun t => t.1 ≠ n
          { m with traps := if script = ['-'] then others else (n, script) :: others }

/-- Goes to a directory, which has no effect but that it must be there. -/
def changeDirectory : Tool := fun arguments => do
  setStatus 0
  match arguments with
  | [] => pure ()
  | path :: _ =>
    match (← get).files.find (Octets.toText path) with
    | some .directory => pure ()
    | _ => fail 2 ("cd: can't cd to " ++ Octets.toText path)

/-- The command of the shell with a name, if it runs no other. -/
def builtin? (name : Octets) : Option Tool :=
  match Octets.toText name with
  | "exit" => some exitShell
  | "shift" => some shiftArguments
  | "set" => some fun arguments => setArguments (arguments.length + 1) arguments
  | "export" | "readonly" | "local" => some assignTexts
  | "unset" => some unsetVariables
  | "read" => some readVariables
  | "break" => some (leaveLoops "break" .leaveLoop)
  | "continue" => some (leaveLoops "continue" .nextRound)
  | "return" => some fun arguments => do
    match arguments.head? with
    | some argument => setStatus ((← numberFor "return" argument) % 256)
    | none => pure ()
    throw .leaveFunction
  | "trap" => some setTraps
  | "cd" => some changeDirectory
  | "pwd" => some fun _ => do
    write "/\n".toList
    setStatus 0
  | "wait" | "umask" | "ulimit" | "times" => some fun _ => setStatus 0
  | _ => Tool.ofName? name

/-- The name of a tool at a path. -/
def toolAtPath? (path : Octets) : Option Octets :=
  match FilePath.ofText (Octets.toText path) with
  | ["bin", name] | ["usr", "bin", name] => some (Octets.ofText name)
  | _ => none

/-- Fails as there is no such command. -/
def failNotFound (name : Octets) : Act Unit := do
  let m ← get
  let isThere := name.contains '/' && (m.files.find (Octets.toText name)).isSome
  let shown := (if m.isEvaluating then "eval: " else "") ++ Octets.toText name
  if isThere then fail 126 (shown ++ ": Permission denied")
  else if name.isEmpty then fail 127 (shown ++ ": Permission denied")
  else fail 127 (shown ++ ": not found")

end NotebookExport.Shell
