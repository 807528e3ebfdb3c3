import NotebookExport.Shell.Condition
import NotebookExport.Shell.Filter
import NotebookExport.Shell.Machine

/-!
# Tools

The commands that run nothing else: each reads its arguments, its input and files, and leaves
output, files and a status. What goes wrong with one file does not keep a tool from the others.
-/

namespace NotebookExport.Shell

/-- What a command does with its arguments. -/
abbrev Tool := List Octets → Act Unit

namespace Tool

open Act

/-- A name in single quotes. -/
def quoted (name : Octets) : String := "'" ++ Octets.toText name ++ "'"

/-- A name as it stands in a complaint, in quotes if it could be misread. -/
def shown (name : Octets) : String :=
  let isPlain (c : Char) : Bool := c.isAlphanum || "%+,-./:=@_".toList.contains c
  if !name.isEmpty && name.all isPlain then Octets.toText name else quoted name

/-- A tool's own complaint. -/
def complainAs (tool text : String) : Act Unit := do
  complain (tool ++ ": " ++ text)
  setStatus 1

/-- A complaint about how a tool is used. -/
def misused (tool text : String) : Act Unit := do
  complainAs tool text
  complain ("Try '" ++ tool ++ " --help' for more information.")

/-- The letters of all options, and the arguments that are none. -/
def splitOptions : List Octets → List Octets × List Octets
  | [] => ([], [])
  | ['-', '-'] :: rest => ([], rest)
  | ('-' :: c :: cs) :: rest =>
    let (options, operands) := splitOptions rest
    ((c :: cs) :: options, operands)
  | operand :: rest =>
    let (options, operands) := splitOptions rest
    (options, operand :: operands)

/-- Runs a tool whose options are single letters. -/
def withLetters (tool known : String) (arguments : List Octets)
    (run : Octets → List Octets → Act Unit) : Act Unit := do
  let (options, operands) := splitOptions arguments
  setStatus 0
  match options.find? fun option => option.head? = some '-' with
  | some option =>
    if option = "-help".toList || option = "-version".toList then pure ()
    else misused tool ("unrecognized option '-" ++ Octets.toText option ++ "'")
  | none =>
    match options.flatten.find? fun c => !known.toList.contains c with
    | some c => misused tool ("invalid option -- '" ++ c.toString ++ "'")
    | none => run options.flatten operands

/-- Does something with each file, or with the input if there is none or a dash is named. -/
def eachInput (complaint : Octets → FileFault → Act Unit) (use : Octets → Octets → Act Unit)
    (operands : List Octets) : Act Unit :=
  (if operands.isEmpty then [['-']] else operands).forM fun operand => do
    if operand = ['-'] then use operand (← takeInput)
    else
      match ← readFile operand with
      | .ok text => use operand text
      | .error fault => complaint operand fault

/-- The usual complaint about a file. -/
def aboutFile (tool : String) (operand : Octets) (fault : FileFault) : Act Unit :=
  complainAs tool (shown operand ++ ": " ++ fault.reason)

/-! ### Filters -/

/-- The lines with their numbers in front. -/
def numbered (text : Octets) : Octets :=
  ((fullLines text).zipIdx 1).flatMap fun (line, n) =>
    let digits := (toString n).toList
    List.replicate (6 - digits.length) ' ' ++ digits ++ '\t' :: line

def cat : Tool := fun arguments =>
  withLetters "cat" "AbeEnstTuv" arguments fun letters =>
    eachInput (aboutFile "cat") fun operand text => do
      let isOutput := match (← get).outputs.lookup 1 with
        | some (.file path) => FilePath.ofText path = FilePath.ofText (Octets.toText operand)
        | _ => false
      if isOutput && !text.isEmpty then
        complainAs "cat" (shown operand ++ ": input file is output file")
      else write (if letters.contains 'n' then numbered text else text)

def tac : Tool := fun arguments =>
  withLetters "tac" "" arguments fun _ =>
    eachInput (aboutFile "tac") fun _ text => write (fullLines text).reverse.flatten

def tr : Tool := fun arguments =>
  withLetters "tr" "cCdst" arguments fun letters operands => do
    let exchange : OctetExchange :=
      ⟨letters.contains 'd', letters.contains 's', letters.contains 'c' || letters.contains 'C'⟩
    match operands with
    | [] => misused "tr" "missing operand"
    | [first] =>
      if exchange.deletes && exchange.squeezes then
        complainAs "tr" ("missing operand after " ++ quoted first)
        complain "Two strings must be given when both deleting and squeezing repeats."
        complain "Try 'tr --help' for more information."
      else if exchange.deletes || exchange.squeezes then
        write (exchange.run first none (← takeInput))
      else
        complainAs "tr" ("missing operand after " ++ quoted first)
        complain "Two strings must be given when translating."
        complain "Try 'tr --help' for more information."
    | [first, second] => write (exchange.run first (some second) (← takeInput))
    | _ :: _ :: third :: _ => misused "tr" ("extra operand " ++ quoted third)

def wc : Tool := fun arguments =>
  withLetters "wc" "lwcm" arguments fun letters operands => do
    let letters := if letters.isEmpty then ['l', 'w', 'c'] else letters
    let counts (text : Octets) : List Nat :=
      (if letters.contains 'l' then [text.count '\n'] else []) ++
      (if letters.contains 'w' then [wordCount false text] else []) ++
      (if letters.contains 'm' then [text.length] else []) ++
      (if letters.contains 'c' then [text.length] else [])
    let texts ← operands.filterMapM fun operand => do
      match ← readFile operand with
      | .ok text => return some text
      | .error _ => return none
    let width :=
      if operands.length ≤ 1 && (counts []).length = 1 then 1
      else if operands.isEmpty then 7
      else (toString texts.flatten.length).length
    let print (name : Octets) (counts : List Nat) : Act Unit :=
      let numbers := counts.map fun n =>
        let digits := (toString n).toList
        List.replicate (width - digits.length) ' ' ++ digits
      let name := if name = ['-'] then [] else ' ' :: name
      write (List.intercalate [' '] numbers ++ name ++ ['\n'])
    eachInput (aboutFile "wc") (fun operand text => print operand (counts text)) operands
    if 1 < operands.length then print "total".toList (counts texts.flatten)

/-- The count that the options of `head` and `tail` ask for: its text, and whether it counts octets.
-/
def countOption : List Octets → Octets × Bool × List Octets
  | [] => ("10".toList, false, [])
  | ['-', 'n'] :: count :: rest => (count, false, rest)
  | ['-', 'c'] :: count :: rest => (count, true, rest)
  | ('-' :: 'n' :: count) :: rest => (count, false, rest)
  | ('-' :: 'c' :: count) :: rest => (count, true, rest)
  | ('-' :: c :: cs) :: rest =>
    if c.isDigit then (c :: cs, false, rest) else ("10".toList, false, ('-' :: c :: cs) :: rest)
  | operands => ("10".toList, false, operands)

/-- Runs a tool that takes a part of each file. -/
def cutting (tool : String) (sign : Char) (part : Bool → Bool → Nat → Octets → Octets) : Tool :=
  fun arguments => do
    let (count, countsOctets, operands) := countOption arguments
    let isSigned := count.head? = some sign
    let digits := if isSigned || (tool = "tail" && count.head? = some '-') then count.tail
      else count
    setStatus 0
    match natural? digits with
    | none =>
      complainAs tool ("invalid number of " ++ (if countsOctets then "bytes" else "lines") ++
        ": " ++ quoted count)
    | some n =>
      let complaint (operand : Octets) (fault : FileFault) : Act Unit :=
        if fault = .isDirectory then
          complainAs tool ("error reading " ++ quoted operand ++ ": " ++ fault.reason)
        else
          complainAs tool
            ("cannot open " ++ quoted operand ++ " for reading: " ++ fault.reason)
      let use (operand text : Octets) : Act Unit := do
        if 1 < operands.length then
          let isFirst := operands.head? = some operand
          write ((if isFirst then [] else ['\n']) ++ "==> ".toList ++ operand ++ " <==\n".toList)
        write (part countsOctets isSigned n text)
      eachInput complaint use operands

def head : Tool := cutting "head" '-' headOf

def tail : Tool := cutting "tail" '+' tailOf

/-- Takes the option of `sort` that names its output out of the arguments. -/
def outputOption : List Octets → Option Octets × List Octets
  | [] => (none, [])
  | ['-', 'o'] :: path :: rest => (some path, (outputOption rest).2)
  | argument :: rest =>
    let (path, others) := outputOption rest
    (path, argument :: others)

def sort : Tool := fun arguments => do
  let (output, arguments) := outputOption arguments
  withLetters "sort" "runfbds" arguments fun letters operands => do
    let complaint (operand : Octets) (fault : FileFault) : Act Unit := do
      complainAs "sort" ("cannot read: " ++ shown operand ++ ": " ++ fault.reason)
      setStatus 2
    let order : SortOrder := ⟨letters.contains 'r', letters.contains 'u', letters.contains 'n'⟩
    let texts ← (if operands.isEmpty then [['-']] else operands).filterMapM fun operand => do
      if operand = ['-'] then return some (← takeInput)
      else
        match ← readFile operand with
        | .ok text => return some text
        | .error fault =>
          complaint operand fault
          return none
    if (← get).status = 0 then
      let sorted := order.sort (texts.flatMap fun text => ofLines (bareLines text))
      match output with
      | none => write sorted
      | some path =>
        match ← writeFile path sorted with
        | .ok () => pure ()
        | .error fault =>
          complainAs "sort" ("open failed: " ++ shown path ++ ": " ++ fault.reason)
          setStatus 2

def uniq : Tool := fun arguments =>
  withLetters "uniq" "" arguments fun _ operands =>
    eachInput (aboutFile "uniq")
      (fun _ text => write (ofLines (distinctLines (· = ·) (bareLines text))))
      (operands.take 1)

def tee : Tool := fun arguments =>
  withLetters "tee" "ai" arguments fun letters operands => do
    let text ← takeInput
    write text
    operands.forM fun operand => do
      match ← openOutput operand (letters.contains 'a') with
      | .ok (.file path) => modify fun m => { m with files := appended m.files path text }
      | .ok _ => pure ()
      | .error fault => aboutFile "tee" operand fault

/-! ### Files -/

/-- Complains if no file is named. -/
def needsFiles (tool missing : String) (operands : List Octets) (run : Act Unit) : Act Unit :=
  if operands.isEmpty then misused tool missing else run

/-- Why nothing can be found at a path. -/
def whyAbsent (files : FileSystem) (path : Octets) : FileFault :=
  match files.read (Octets.toText path) with
  | .error fault => fault
  | .ok _ => .notFound

def rm : Tool := fun arguments =>
  withLetters "rm" "firRvd" arguments fun letters operands =>
    if operands.isEmpty && letters.contains 'f' then pure ()
    else needsFiles "rm" "missing operand" operands do
      operands.forM fun operand => do
        let files := (← get).files
        let names := FilePath.ofText (Octets.toText operand)
        match files.find (Octets.toText operand) with
        | none =>
          if !letters.contains 'f' then
            complainAs "rm" ("cannot remove " ++ quoted operand ++ ": " ++
              (whyAbsent files operand).reason)
        | some .directory =>
          if letters.contains 'r' || letters.contains 'R' then
            modify fun m => { m with
              files := ⟨fun p => if names.isPrefixOf p then none else m.files.entry p⟩ }
          else complainAs "rm" ("cannot remove " ++ quoted operand ++ ": Is a directory")
        | some (.file _) => modify fun m => { m with files := m.files.set names none }

/-- The last name of a path. -/
def lastName (path : Octets) : Octets :=
  let cut := (path.reverse.dropWhile (· = '/')).reverse
  if cut.isEmpty then path.take 1 else (cut.reverse.takeWhile (· ≠ '/')).reverse

/-- Where a file goes that is put to a path: into it, if it is a directory. -/
def destination (files : FileSystem) (source target : Octets) : Octets :=
  match files.find (Octets.toText target) with
  | some .directory => target ++ '/' :: lastName source
  | _ => target

/-- Puts one file to another path; the first is taken away if it moves. -/
def put (tool : String) (moves : Bool) (source target : Octets) : Act Unit := do
  let files := (← get).files
  let target := destination files source target
  let names := FilePath.ofText (Octets.toText source)
  match files.find (Octets.toText source) with
  | none =>
    complainAs tool ("cannot stat " ++ quoted source ++ ": " ++ (whyAbsent files source).reason)
  | some .directory =>
    if moves then
      complainAs tool ("cannot move " ++ quoted source ++ " to " ++ quoted target ++
        ": Device or resource busy")
    else complainAs tool ("-r not specified; omitting directory " ++ quoted source)
  | some (.file bytes) =>
    if names = FilePath.ofText (Octets.toText target) then
      complainAs tool (quoted source ++ " and " ++ quoted target ++ " are the same file")
    else
      match files.write (Octets.toText target) bytes with
      | .error fault =>
        if moves then
          complainAs tool ("cannot move " ++ quoted source ++ " to " ++ quoted target ++ ": " ++
            fault.reason)
        else
          complainAs tool ("cannot create regular file " ++ quoted target ++ ": " ++ fault.reason)
      | .ok files =>
        modify fun m => { m with files := if moves then files.set names none else files }

/-- Moves or copies files. -/
def putting (tool : String) (moves : Bool) : Tool := fun arguments =>
  withLetters tool "abdfilnprRuvT" arguments fun _ operands => do
    match operands.getLast? with
    | none => misused tool "missing file operand"
    | some target =>
      match operands.dropLast with
      | [] => misused tool ("missing destination file operand after " ++ quoted target)
      | [source] => put tool moves source target
      | sources =>
        match (← get).files.find (Octets.toText target) with
        | some .directory => sources.forM fun source => put tool moves source target
        | _ => complainAs tool ("target " ++ quoted target ++ ": Not a directory")

def touch : Tool := fun arguments =>
  withLetters "touch" "acm" arguments fun letters operands =>
    needsFiles "touch" "missing file operand" operands do
      operands.forM fun operand => do
        let isThere := ((← get).files.find (Octets.toText operand)).isSome
        if !isThere && !letters.contains 'c' then
          match ← writeFile operand [] with
          | .ok () => pure ()
          | .error fault =>
            complainAs "touch" ("cannot touch " ++ quoted operand ++ ": " ++ fault.reason)

def mkdir : Tool := fun arguments =>
  withLetters "mkdir" "pv" arguments fun letters operands =>
    needsFiles "mkdir" "missing operand" operands do
      operands.forM fun operand => do
        let files := (← get).files
        let names := FilePath.ofText (Octets.toText operand)
        let cannot (reason : String) : Act Unit :=
          complainAs "mkdir" ("cannot create directory " ++ quoted operand ++ ": " ++ reason)
        let make : Act Unit := (List.range names.length).forM fun n =>
          modify fun m => { m with files := m.files.set (names.take (n + 1)) (some .directory) }
        match files.get names with
        | some .directory => if letters.contains 'p' then pure () else cannot "File exists"
        | some (.file _) => cannot "File exists"
        | none =>
          match files.enterFault [] (FilePath.steps (Octets.toText operand)) with
          | none => make
          | some fault => if letters.contains 'p' then make else cannot fault.reason

def rmdir : Tool := fun arguments =>
  withLetters "rmdir" "pv" arguments fun _ operands =>
    needsFiles "rmdir" "missing operand" operands do
      operands.forM fun operand => do
        let files := (← get).files
        match files.find (Octets.toText operand) with
        | some .directory =>
          modify fun m => { m with
            files := m.files.set (FilePath.ofText (Octets.toText operand)) none }
        | some (.file _) =>
          complainAs "rmdir" ("failed to remove " ++ quoted operand ++ ": Not a directory")
        | none =>
          complainAs "rmdir" ("failed to remove " ++ quoted operand ++ ": " ++
            (whyAbsent files operand).reason)

/-- Permissions are not kept; a file must be there all the same. -/
def chmod : Tool := fun arguments => do
  setStatus 0
  match arguments with
  | [] => misused "chmod" "missing operand"
  | [mode] => misused "chmod" ("missing operand after " ++ quoted mode)
  | _ :: operands =>
    operands.forM fun operand => do
      let files := (← get).files
      if (files.find (Octets.toText operand)).isNone then
        complainAs "chmod" ("cannot access " ++ quoted operand ++ ": " ++
          (whyAbsent files operand).reason)

/-! ### Others -/

def sleep : Tool := fun arguments => do
  setStatus 0
  let isTime (argument : Octets) : Bool :=
    let digits := match argument.getLast? with
      | some unit => if "smhd".toList.contains unit then argument.dropLast else argument
      | none => argument
    digits.any Char.isDigit && digits.all fun c => c.isDigit || c = '.'
  match arguments.find? fun argument => !isTime argument with
  | some argument => misused "sleep" ("invalid time interval " ++ quoted argument)
  | none => if arguments.isEmpty then misused "sleep" "missing operand"

def basename : Tool := fun arguments => do
  setStatus 0
  match arguments with
  | [] => misused "basename" "missing operand"
  | [path] => write (lastName path ++ ['\n'])
  | path :: ending :: _ =>
    let name := lastName path
    let cut := name.take (name.length - ending.length)
    write ((if name ≠ ending && cut ++ ending = name then cut else name) ++ ['\n'])

def dirname : Tool := fun arguments => do
  setStatus 0
  let directory (path : Octets) : Octets :=
    let cut := (path.reverse.dropWhile (· = '/')).reverse
    let rest := (cut.reverse.dropWhile (· ≠ '/')).dropWhile (· = '/')
    if !rest.isEmpty then rest.reverse else if path.head? = some '/' then ['/'] else ['.']
  if arguments.isEmpty then misused "dirname" "missing operand"
  else arguments.forM fun path => write (directory path ++ ['\n'])

def echo : Tool := fun arguments => do
  write (echoText arguments)
  setStatus 0

def printf : Tool := fun arguments => do
  let print (operands : List Octets) : Act Unit := do
    match operands with
    | [] => fail 2 "printf: usage: printf format [arg ...]"
    | format :: arguments =>
      let (text, complaints, isBad) := printfText format arguments
      setStatus 0
      write text
      complaints.forM fun complaint => fail (if isBad then 2 else 1) ("printf: " ++ complaint)
  match arguments with
  | ['-', '-'] :: operands => print operands
  | ('-' :: c :: _) :: _ => fail 2 ("printf: Illegal option -" ++ c.toString)
  | operands => print operands

def seq : Tool := fun arguments => do
  setStatus 0
  match arguments.map natural? with
  | [some last] => write (ofLines ((List.range last).map fun n => (toString (n + 1)).toList))
  | [some first, some last] =>
    write (ofLines ((List.range (last + 1 - first)).map fun n => (toString (n + first)).toList))
  | _ => misused "seq" "missing operand"

/-- Finds out whether a condition holds. -/
def condition (isBracket : Bool) : Tool := fun arguments => do
  match Condition.evaluate (← get).files isBracket arguments with
  | .ok holds => setStatus (if holds then 0 else 1)
  | .error fault => fail 2 ((if isBracket then "[: " else "test: ") ++ fault.message)

/-- The signals by name. -/
def signals : List (String × Nat) :=
  [("HUP", 1), ("INT", 2), ("QUIT", 3), ("ILL", 4), ("TRAP", 5), ("ABRT", 6), ("BUS", 7),
    ("FPE", 8), ("KILL", 9), ("USR1", 10), ("SEGV", 11), ("USR2", 12), ("PIPE", 13), ("ALRM", 14),
    ("TERM", 15), ("STKFLT", 16), ("CHLD", 17), ("CONT", 18), ("STOP", 19), ("TSTP", 20),
    ("TTIN", 21), ("TTOU", 22), ("URG", 23), ("XCPU", 24), ("XFSZ", 25), ("VTALRM", 26),
    ("PROF", 27), ("WINCH", 28), ("POLL", 29), ("PWR", 30), ("SYS", 31)]

/-- The signals that end no process. -/
def harmlessSignals : List Nat := [0, 17, 18, 19, 20, 21, 22, 23, 28]

/-- The number of a signal. -/
def signal? (text : Octets) : Option Nat :=
  match natural? text with
  | some n => if n ≤ 64 then some n else none
  | none => signals.lookup (Octets.toText (text.map Char.toUpper))

/-- Sends a signal to processes, of which only the shell itself is there. -/
def send (signal : Nat) (processes : List Octets) : Act Unit := do
  setStatus 0
  if processes.isEmpty then
    fail 2 ("kill: Usage: kill [-s sigspec | -signum | -sigspec] [pid | job]... or\n" ++
      "kill -l [exitstatus]")
  else
    processes.forM fun process => do
      if process = processNumber then
        match (← get).traps.lookup signal with
        | some [] => pure ()
        | some script => modify fun m => { m with pendingTrap := some script }
        | none => if !harmlessSignals.contains signal then throw (.signal signal)
      else
        match natural? process with
        | some _ => fail 1 "kill: No such process\n"
        | none => fail 2 ("kill: Illegal number: " ++ Octets.toText process)

def kill : Tool := fun arguments => do
  match arguments with
  | ['-', 's'] :: name :: processes =>
    match signal? name with
    | some signal => send signal processes
    | none => fail 2 ("kill: invalid signal number or name: " ++ Octets.toText name)
  | ['-', '-'] :: processes => send 15 processes
  | ['-', 'l'] :: _ => setStatus 0
  | ('-' :: letter :: name) :: processes =>
    match signal? (letter :: name) with
    | some signal => send signal processes
    | none => fail 2 ("kill: Illegal option -" ++ letter.toString)
  | processes => send 15 processes

/-- The tool with a name. -/
def ofName? (name : Octets) : Option Tool :=
  match Octets.toText name with
  | "true" | ":" => some fun _ => setStatus 0
  | "false" => some fun _ => setStatus 1
  | "cat" => some cat
  | "tac" => some tac
  | "tr" => some tr
  | "wc" => some wc
  | "head" => some head
  | "tail" => some tail
  | "sort" => some sort
  | "uniq" => some uniq
  | "tee" => some tee
  | "rm" => some rm
  | "mv" => some (putting "mv" true)
  | "cp" => some (putting "cp" false)
  | "touch" => some touch
  | "mkdir" => some mkdir
  | "rmdir" => some rmdir
  | "chmod" => some chmod
  | "sleep" => some sleep
  | "basename" => some basename
  | "dirname" => some dirname
  | "echo" => some echo
  | "printf" => some printf
  | "test" => some (condition false)
  | "[" => some (condition true)
  | "kill" => some kill
  | "seq" => some seq
  | _ => none

/-- The tools that are there as programs too. -/
def isProgram (name : Octets) : Bool := name ≠ [':'] && (ofName? name).isSome

end Tool

end NotebookExport.Shell
