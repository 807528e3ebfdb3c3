import NotebookExport.Text.Utf8

/-!
# Files

The state of a file system as a value: what stands at each path. A path is a row of names between
slashes; empty names and `.` do not count, and `..` takes the name before it back. The empty row is
the directory in which everything happens. A path can be followed only through directories, also
where it turns back.
-/

namespace NotebookExport

open Text

/-- What may stand at a path. -/
inductive FileEntry where
  | file (bytes : List UInt8)
  | directory
  deriving DecidableEq

/-- Why a file cannot be read or written. -/
inductive FileFault where
  | notFound
  | permissionDenied
  | notDirectory
  | isDirectory
  | nameTooLong
  | notText
  | holdsNul
  /-- Any other fault, in words. -/
  | other (reason : String)
  deriving DecidableEq

/-- What is wrong, in words. -/
def FileFault.reason : FileFault → String
  | .notFound => "No such file or directory"
  | .permissionDenied => "Permission denied"
  | .notDirectory => "Not a directory"
  | .isDirectory => "Is a directory"
  | .nameTooLong => "File name too long"
  | .notText => "stream did not contain valid UTF-8"
  | .holdsNul => "file name contained an unexpected NUL byte"
  | .other reason => reason

/-- The number that the system has for a fault, if the fault is its own. -/
def FileFault.number? : FileFault → Option Nat
  | .notFound => some 2
  | .permissionDenied => some 13
  | .notDirectory => some 20
  | .isDirectory => some 21
  | .nameTooLong => some 36
  | .notText | .holdsNul | .other _ => none

def FileFault.message (fault : FileFault) : String :=
  match fault.number? with
  | some number => fault.reason ++ " (os error " ++ toString number ++ ")"
  | none => fault.reason

/-- The names of a path. -/
abbrev FilePath := List String

namespace FilePath

/-- The parts between the slashes. -/
def split : List Char → List (List Char)
  | [] => [[]]
  | c :: cs =>
    if c = '/' then [] :: split cs
    else
      match split cs with
      | [] => [[c]]
      | name :: names => (c :: name) :: names

/-- The names and dots of a path. -/
def steps (text : String) : List String :=
  ((split text.toList).filter fun name => !name.isEmpty).map String.ofList

/-- Takes a step behind others. -/
def enter (path : FilePath) (step : String) : FilePath :=
  if step = "." then path else if step = ".." then path.dropLast else path ++ [step]

def ofText (text : String) : FilePath := (steps text).foldl enter []

/-- Whether a path ends in a slash or a dot, so that it can only be a directory. -/
def wantsDirectory (text : String) : Bool :=
  match (split text.toList).getLast? with
  | some last => last = [] || last = ['.'] || last = ['.', '.']
  | none => false

end FilePath

/-- What stands at each path but the empty one, which is a directory. -/
structure FileSystem where
  entry : FilePath → Option FileEntry

namespace FileSystem

def empty : FileSystem := ⟨fun _ => none⟩

/-- The file system with something else at one path. -/
def set (files : FileSystem) (path : FilePath) (entry : Option FileEntry) : FileSystem :=
  ⟨fun p => if p = path then entry else files.entry p⟩

/-- The file system with a file and the directories that it stands in, where the path goes on from
a directory. -/
def put (files : FileSystem) (before : FilePath) (bytes : List UInt8) : FilePath → FileSystem
  | [] => files
  | [name] => files.set (before ++ [name]) (some (.file bytes))
  | name :: names =>
    (files.set (before ++ [name]) (some .directory)).put (before ++ [name]) bytes names

/-- The file system that holds some texts. -/
def ofTexts (texts : List (String × String)) : FileSystem :=
  texts.foldl
    (fun files (path, text) => files.put [] (Utf8.encode text) (FilePath.ofText path)) empty

def get (files : FileSystem) (path : FilePath) : Option FileEntry :=
  if path = [] then some .directory else files.entry path

/-- The largest number of bytes in a name. -/
def maxNameLength : Nat := 255

/-- The largest number of bytes in a path. -/
def maxPathLength : Nat := 4095

/-- Why a path cannot be followed up to its last step, if so: it leads through something that is no
directory. Its first step is taken in `here`. -/
def enterFault (files : FileSystem) : (here : FilePath) → (steps : List String) → Option FileFault
  | _, [] => none
  | here, step :: steps =>
    match files.get here with
    | some .directory =>
      if maxNameLength < step.utf8ByteSize then some .nameTooLong
      else enterFault files (here.enter step) steps
    | some (.file _) => some .notDirectory
    | none => some .notFound

/-- Why nothing can be looked up at a path, if so. -/
def pathFault (files : FileSystem) (path : String) : Option FileFault :=
  if path.toList.contains '\x00' then some .holdsNul
  else if path = "" then some .notFound
  else if maxPathLength < path.utf8ByteSize then some .nameTooLong
  else files.enterFault [] (FilePath.steps path)

/-- The bytes of a file. -/
def read (files : FileSystem) (path : String) : Except FileFault (List UInt8) :=
  match files.pathFault path with
  | some fault => .error fault
  | none =>
    match files.get (FilePath.ofText path) with
    | none => .error .notFound
    | some .directory => .error .isDirectory
    | some (.file bytes) =>
      if FilePath.wantsDirectory path then .error .notDirectory else .ok bytes

/-- The text of a file. -/
def readText (files : FileSystem) (path : String) : Except FileFault String :=
  match files.read path with
  | .error fault => .error fault
  | .ok bytes =>
    match Utf8.decode? bytes with
    | some text => .ok text
    | none => .error .notText

/-- What stands at a path, if anything does. -/
def find (files : FileSystem) (path : String) : Option FileEntry :=
  match files.pathFault path with
  | some _ => none
  | none =>
    match files.get (FilePath.ofText path) with
    | some (.file bytes) => if FilePath.wantsDirectory path then none else some (.file bytes)
    | entry => entry

/-- Makes a file hold some bytes, whether there is one or not. -/
def write (files : FileSystem) (path : String) (bytes : List UInt8) :
    Except FileFault FileSystem :=
  match files.pathFault path with
  | some fault => .error fault
  | none =>
    let names := FilePath.ofText path
    match files.get names with
    | some .directory => .error .isDirectory
    | some (.file _) =>
      if FilePath.wantsDirectory path then .error .notDirectory
      else .ok (files.set names (some (.file bytes)))
    | none =>
      if FilePath.wantsDirectory path then .error .isDirectory
      else .ok (files.set names (some (.file bytes)))

/-- Makes a file hold a text. -/
def writeText (files : FileSystem) (path : String) (text : String) :
    Except FileFault FileSystem :=
  files.write path (Utf8.encode text)

end FileSystem

end NotebookExport
