import NotebookExport.CommandLine.Request

/-!
# The command line

One run of the command: the arguments and the files go in, and the exit code, the output, the log
and the files as they are afterwards come out. A request that cannot be understood ends with code 2
and does nothing; a conversion that fails ends with code 1. The files are those that the conversion
leaves.
-/

namespace NotebookExport

/-- What a run of the command leaves behind. -/
structure CommandOutcome where
  exitCode : Nat
  output : String
  /-- The events shown. -/
  log : List LogEvent
  /-- Why the arguments could not be understood, if so. -/
  usageFault : Option UsageFault
  files : FileSystem

namespace Command

def name : String := "nbscript"

def versionText : String := name ++ " 0.1.0\n"

def helpText : String :=
  "Convert a Jupyter notebook into a Python script\n\n" ++
  "Usage: " ++ name ++ " [OPTIONS] <INPUT> <OUTPUT>\n\n" ++
  "Arguments:\n" ++
  "  <INPUT>   Notebook to convert (.ipynb)\n" ++
  "  <OUTPUT>  Script to write (.py)\n\n" ++
  "Options:\n" ++
  "      --no-remove-unused  Keep unused variable assignments\n" ++
  "      --no-format         Skip the external formatter and use the built-in one " ++
    "[aliases: --no-black]\n" ++
  "  -c, --config <FILE>     YAML configuration file\n" ++
  "  -v, --verbose...        More log output (-v debug, -vv trace)\n" ++
  "  -q, --quiet             Only log errors\n" ++
  "  -h, --help              Print help\n" ++
  "  -V, --version           Print version\n"

/-- The configuration that is asked for: that of a file or the standard one, with the switches on
top. -/
def configuration (files : FileSystem) (options : Options) :
    Except ConfigurationFault Configuration :=
  let chosen :=
    match options.configuration with
    | some path => Configuration.load files path
    | none => .ok .standard
  chosen.map options.adjust

/-- A conversion with all that is told of it. -/
def convert (surroundings : Surroundings) (files : FileSystem) (input output : String)
    (options : Options) : Conversion × List LogEvent :=
  match configuration files options with
  | .error fault =>
    let fault := ConversionFault.configuration fault
    (⟨none, none, .error fault, files⟩, [fault.event])
  | .ok configuration =>
    let conversion := NotebookExport.convert surroundings configuration files input output
    (conversion, conversion.events surroundings configuration input output)

/-- Runs the command. -/
def run (surroundings : Surroundings) (files : FileSystem) (texts : List String) :
    CommandOutcome :=
  match Request.ofTexts texts with
  | .error fault => ⟨2, "", [], some fault, files⟩
  | .ok .help => ⟨0, helpText, [], none, files⟩
  | .ok .version => ⟨0, versionText, [], none, files⟩
  | .ok (.convert input output options) =>
    let (conversion, events) := convert surroundings files input output options
    let exitCode :=
      match conversion.result with
      | .ok _ => 0
      | .error _ => 1
    ⟨exitCode, "", shownUpTo options.logLevel events, none, conversion.files⟩

end Command

end NotebookExport
