import NotebookExport.Configuration.Record
import NotebookExport.Log

/-!
# Requests

What the arguments of the command line ask for. An argument is a switch, the path of a
configuration, or one of the two paths of a conversion. Arguments count from left to right: the
first that is wrong, or that asks for help or the version, decides.
-/

namespace NotebookExport

/-- An option that takes no value. -/
inductive Switch where
  | keepUnused
  | skipProgram
  | verbose
  | quiet
  | help
  | version
  deriving DecidableEq

namespace Switch

/-- The switch behind two dashes. -/
def ofName (name : String) : Option Switch :=
  if name = "no-remove-unused" then some .keepUnused
  else if name = "no-format" || name = "no-black" then some .skipProgram
  else if name = "verbose" then some .verbose
  else if name = "quiet" then some .quiet
  else if name = "help" then some .help
  else if name = "version" then some .version
  else none

/-- The switch behind one dash. -/
def ofLetter (letter : Char) : Option Switch :=
  if letter = 'v' then some .verbose
  else if letter = 'q' then some .quiet
  else if letter = 'h' then some .help
  else if letter = 'V' then some .version
  else none

end Switch

/-- Why arguments ask for nothing. -/
inductive UsageFault where
  | unexpected (argument : String)
  | missingValue (option : String)
  | unexpectedValue (option : String)
  | repeated (option : String)
  | missingPath
  | verboseAndQuiet
  deriving DecidableEq

def UsageFault.message : UsageFault → String
  | .unexpected argument => "unexpected argument " ++ Text.quote argument
  | .missingValue option => option ++ " needs a value"
  | .unexpectedValue option => option ++ " takes no value"
  | .repeated option => option ++ " is given twice"
  | .missingPath => "both the notebook and the script must be named"
  | .verboseAndQuiet => "--verbose and --quiet exclude each other"

/-- The argument as it is understood. -/
inductive Argument where
  | path (text : String)
  | switch (s : Switch)
  | configuration (path : String)
  | wrong (fault : UsageFault)
  deriving DecidableEq

namespace Argument

/-- The name of the option that takes a configuration. -/
def configurationName : String := "config"

def configurationLetter : Char := 'c'

/-- The value of an option, which must not be empty. -/
def ofConfiguration (path : String) : Argument :=
  if path = "" then .wrong (.missingValue "--config") else .configuration path

/-- Whether a text is an option rather than a value. -/
def isOption (text : String) : Bool :=
  text.toList.head? = some '-' && text ≠ "-"

/-- The options in a row of letters behind one dash, and whether the last of them awaits its value
in the next argument. -/
def ofLetters : List Char → List Argument × Bool
  | [] => ([], false)
  | letter :: rest =>
    if letter = configurationLetter then
      match rest with
      | [] => ([], true)
      | '=' :: value => ([.ofConfiguration (String.ofList value)], false)
      | value => ([.ofConfiguration (String.ofList value)], false)
    else
      match Switch.ofLetter letter with
      | some s =>
        let (others, awaits) := ofLetters rest
        (.switch s :: others, awaits)
      | none => ([.wrong (.unexpected (String.ofList ['-', letter]))], false)

/-- The option behind two dashes, and whether it awaits its value in the next argument. -/
def ofWord (word : List Char) : List Argument × Bool :=
  let name := String.ofList (word.takeWhile (· ≠ '='))
  let value := (word.dropWhile (· ≠ '=')).tail
  let hasValue := word.contains '='
  if name = configurationName then
    if hasValue then ([.ofConfiguration (String.ofList value)], false) else ([], true)
  else
    match Switch.ofName name with
    | some s =>
      if hasValue then ([.wrong (.unexpectedValue ("--" ++ name))], false)
      else ([.switch s], false)
    | none => ([.wrong (.unexpected ("--" ++ name))], false)

/-- The arguments in texts, where the first text is a value if one is awaited. Behind two dashes
alone there are only paths. -/
def ofTexts : Bool → List String → List Argument
  | awaits, [] => if awaits then [.wrong (.missingValue "--config")] else []
  | true, text :: rest =>
    if isOption text then [.wrong (.missingValue "--config")]
    else .ofConfiguration text :: ofTexts false rest
  | false, text :: rest =>
    match text.toList with
    | ['-', '-'] => rest.map .path
    | '-' :: '-' :: word => (ofWord word).1 ++ ofTexts (ofWord word).2 rest
    | ['-'] => .path text :: ofTexts false rest
    | '-' :: letters => (ofLetters letters).1 ++ ofTexts (ofLetters letters).2 rest
    | _ => .path text :: ofTexts false rest

end Argument

/-- What has been asked for so far. -/
structure Options where
  /-- The paths in order: the notebook and the script. -/
  paths : List String := []
  keepsUnused : Bool := false
  skipsProgram : Bool := false
  configuration : Option String := none
  verbosity : Nat := 0
  isQuiet : Bool := false
  deriving DecidableEq

namespace Options

/-- Turns on what must not be on yet. -/
def once (isOn : Bool) (name : String) (options : Options) : Except UsageFault Options :=
  if isOn then .error (.repeated name) else .ok options

/-- Takes one more argument. -/
def take (o : Options) : Argument → Except UsageFault Options
  | .wrong fault => .error fault
  | .path text =>
    if text = "" then .error .missingPath
    else if o.paths.length < 2 then .ok { o with paths := o.paths ++ [text] }
    else .error (.unexpected text)
  | .configuration path =>
    once o.configuration.isSome "--config" { o with configuration := some path }
  | .switch .keepUnused => once o.keepsUnused "--no-remove-unused" { o with keepsUnused := true }
  | .switch .skipProgram => once o.skipsProgram "--no-format" { o with skipsProgram := true }
  | .switch .quiet => once o.isQuiet "--quiet" { o with isQuiet := true }
  | .switch .verbose => .ok { o with verbosity := o.verbosity + 1 }
  | .switch .help | .switch .version => .ok o

/-- The level up to which events are shown. -/
def logLevel (o : Options) : LogLevel :=
  if o.isQuiet then .error
  else
    match o.verbosity with
    | 0 => .info
    | 1 => .debug
    | _ => .trace

/-- A configuration with the switches on top. -/
def adjust (o : Options) (c : Configuration) : Configuration :=
  { c with
    prunesUnused := c.prunesUnused && !o.keepsUnused
    formatsExternally := c.formatsExternally && !o.skipsProgram }

end Options

/-- What the command line asks for. -/
inductive Request where
  | help
  | version
  | convert (input output : String) (options : Options)
  deriving DecidableEq

namespace Request

/-- The request when there are no more arguments. -/
def ofOptions (o : Options) : Except UsageFault Request :=
  match o.paths with
  | [input, output] =>
    if o.isQuiet && 0 < o.verbosity then .error .verboseAndQuiet
    else .ok (.convert input output o)
  | _ => .error .missingPath

/-- The request of arguments behind others. -/
def ofArguments (o : Options) : List Argument → Except UsageFault Request
  | [] => ofOptions o
  | .switch .help :: _ => .ok .help
  | .switch .version :: _ => .ok .version
  | argument :: rest => (o.take argument).bind fun o => ofArguments o rest

/-- The request in the texts of a command line. -/
def ofTexts (texts : List String) : Except UsageFault Request :=
  ofArguments {} (Argument.ofTexts false texts)

end Request

end NotebookExport
