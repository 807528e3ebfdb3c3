import NotebookExport.Configuration.Record
import NotebookExport.Notebook.Load

/-!
# Conversion

From a notebook to a script: the cells are put together, the result is formatted, and the script is
written in one go. Nothing is written before all else has succeeded.
-/

namespace NotebookExport

/-- What a conversion works with. -/
structure Surroundings where
  /-- How code is read. -/
  parser : Parser
  /-- What the programs do. -/
  programs : Programs

/-- A script that has been made of cells. -/
structure Rendered where
  assembly : Assembly
  formatted : Formatted

namespace Rendered

def script (r : Rendered) : String := r.formatted.code

def report (r : Rendered) : AssemblyReport := r.assembly.report

end Rendered

/-- Makes a script of cells. -/
def renderCells (surroundings : Surroundings) (configuration : Configuration)
    (cells : List Cell) : Rendered :=
  let assembly := (configuration.assembler surroundings.parser).assemble cells
  ⟨assembly, configuration.formatter.format surroundings.programs assembly.text⟩

/-- Why there is no script. -/
inductive ConversionFault where
  | configuration (fault : ConfigurationFault)
  | load (fault : LoadFault)
  | write (path : String) (fault : FileFault)
  deriving DecidableEq

namespace ConversionFault

def message : ConversionFault → String
  | .configuration fault => "Configuration error: " ++ fault.message
  | .load fault => fault.message
  | .write path fault => "Failed to write " ++ path ++ ": " ++ fault.message

/-- Whether the notebook is not there. -/
def isFileNotFound : ConversionFault → Bool
  | .load (.fileNotFound _) => true
  | _ => false

end ConversionFault

/-- A stage of a conversion: it comes to a result or to a fault, and either way it leaves files. -/
abbrev Stage (α : Type) := FileSystem → Except ConversionFault α × FileSystem

namespace Stage

/-- Lets only a configuration through that makes sense. -/
def check (configuration : Configuration) : Stage Configuration := fun files =>
  (configuration.validate.mapError .configuration, files)

/-- Reads a notebook. -/
def load (input : String) : Stage Notebook := fun files =>
  ((Notebook.load files input).mapError .load, files)

/-- Writes a script in one go. A file that cannot be written is left as it is. -/
def write (output script : String) : Stage Unit := fun files =>
  match files.writeText output script with
  | .ok after => (.ok (), after)
  | .error fault => (.error (.write output fault), files)

end Stage

/-- How far a conversion got, and what it leaves. -/
structure Conversion where
  notebook : Option Notebook
  rendered : Option Rendered
  /-- What stopped the conversion, if anything did. -/
  result : Except ConversionFault Unit
  /-- The files afterwards. -/
  files : FileSystem

/-- Converts a notebook into a script. -/
def convert (surroundings : Surroundings) (configuration : Configuration) (files : FileSystem)
    (input output : String) : Conversion :=
  match Stage.check configuration files with
  | (.error fault, files) => ⟨none, none, .error fault, files⟩
  | (.ok configuration, files) =>
    match Stage.load input files with
    | (.error fault, files) => ⟨none, none, .error fault, files⟩
    | (.ok notebook, files) =>
      let rendered := renderCells surroundings configuration notebook.cells
      let (result, files) := Stage.write output rendered.script files
      ⟨some notebook, some rendered, result, files⟩

end NotebookExport
