import NotebookExport.Conversion

/-!
# The log

What is told about a conversion, in the order in which it happens. Each event has a level, and only
the events up to a chosen level are shown. The log is read off the results of the stages and takes
no part in them.
-/

namespace NotebookExport

/-- How much an event matters. -/
inductive LogLevel where
  | error
  | warning
  | info
  | debug
  | trace
  deriving DecidableEq

namespace LogLevel

def rank : LogLevel → Nat
  | .error => 0
  | .warning => 1
  | .info => 2
  | .debug => 3
  | .trace => 4

def name : LogLevel → String
  | .error => "ERROR"
  | .warning => "WARN"
  | .info => "INFO"
  | .debug => "DEBUG"
  | .trace => "TRACE"

/-- Whether events of a level are shown up to another. -/
def isShownUpTo (level limit : LogLevel) : Bool := level.rank ≤ limit.rank

end LogLevel

structure LogEvent where
  level : LogLevel
  message : String
  deriving DecidableEq

namespace LogEvent

/-- The control characters to which a terminal would listen: bell, backspace, form feed, escape,
delete and those of the second block. -/
def isTerminalControl (c : Char) : Bool :=
  [0x07, 0x08, 0x0C, 0x1B, 0x7F].contains c.toNat || (0x80 ≤ c.toNat && c.toNat ≤ 0x9F)

/-- A character as it is shown. -/
def showChar (c : Char) : List Char :=
  if isTerminalControl c then
    let digits := Nat.toDigits 16 c.toNat
    if c.toNat < 0x80 then
      ['\\', 'x'] ++ List.replicate (2 - digits.length) '0' ++ digits
    else ['\\', 'u', '\x7b'] ++ digits ++ ['\x7d']
  else [c]

/-- An event as it is shown. -/
def text (event : LogEvent) : String :=
  event.level.name ++ " " ++ String.ofList (event.message.toList.flatMap showChar)

end LogEvent

/-- The events up to a level. -/
def shownUpTo (limit : LogLevel) (events : List LogEvent) : List LogEvent :=
  events.filter fun event => event.level.isShownUpTo limit

/-! ### What is told of each stage -/

/-- Each pass but the first is told, and so is a result that cannot be read again. -/
def Pruned.events (p : Pruned) : List LogEvent :=
  (p.passes.tail.map fun removed =>
    ⟨.debug, "Follow-up pass removed " ++ Text.quoteAll removed⟩) ++
  p.fault.toList.map fun fault =>
    ⟨.warning, "Re-parse of pruned cell failed, keeping last result: " ++ fault.message⟩

/-- What is told of the cell at an index. -/
def CellOutcome.events (index : Nat) : CellOutcome → List LogEvent
  | .pruned result =>
    if result.isChanged then
      result.events ++
        [⟨.debug, "Cell " ++ toString index ++ ": removed " ++ Text.quoteAll result.removed⟩]
    else result.events
  | .unreadable _ fault =>
    [⟨.warning, "Syntax error, skipping variable removal: " ++ fault.message⟩]
  | .ignored type =>
    [⟨.debug, "Ignoring " ++ type ++ " cell at index " ++ toString index⟩]
  | .kept _ | .comment _ => []

namespace Assembly

/-- What is told of cells, the first of which has the given index. -/
def eventsFrom : Nat → List CellOutcome → List LogEvent
  | _, [] => []
  | index, outcome :: rest => outcome.events index ++ eventsFrom (index + 1) rest

def events (a : Assembly) : List LogEvent := eventsFrom 0 a.outcomes

end Assembly

/-- What is told while a text is formatted. -/
def Formatter.events (programs : Programs) (source : String) : Formatter → List LogEvent
  | .minimal _ => []
  | .external command _ =>
    let running : LogEvent := ⟨.debug, "Running " ++ command.program ++ " on " ++ scratchPath⟩
    let start :=
      match programs command source with
      | .unwritten _ => []
      | _ => [running]
    match runFormatter programs command source with
    | .ok _ => start
    | .error (.toolMissing program) =>
      start ++ [⟨.warning, program ++ " not found. Using basic formatter."⟩]
    | .error fault =>
      start ++ [⟨.warning, command.program ++ " formatting failed: " ++ fault.message⟩]

/-- What is told of the changes to a script, if there are any. -/
def Formatted.events (input : String) (f : Formatted) : List LogEvent :=
  if f.changes.isEmpty then []
  else
    let tool :=
      match f.tool with
      | some tool => " (using " ++ tool ++ ")"
      | none => ""
    ⟨.info, "Formatting changes applied to: " ++ input ++ tool⟩ ::
      f.changes.map fun change => ⟨.info, "  " ++ change.message⟩

/-- What is told of a notebook that has been loaded. -/
def Notebook.events (path : String) (n : Notebook) : List LogEvent :=
  let total := toString n.cells.length
  let count (kind : CellKind) := toString (n.count kind)
  [⟨.debug, "nbformat " ++ toString n.version ++ "." ++ toString n.minorVersion⟩,
    ⟨.debug, "Loaded " ++ path ++ " (" ++ total ++ " cells, nbformat " ++
      toString n.version ++ ")"⟩,
    ⟨.debug, path ++ ": " ++ count .code ++ " code, " ++ count .markdown ++ " markdown, " ++
      total ++ " cells total"⟩]

/-- What is told of cells that have been made a script. -/
def Rendered.events (surroundings : Surroundings) (configuration : Configuration) (r : Rendered) :
    List LogEvent :=
  let formatter := configuration.formatter
  r.assembly.events ++
    ⟨.debug, "Assembled " ++ toString r.report.codeCells ++ " code / " ++
      toString r.report.markdownCells ++ " markdown cells with " ++ formatter.name⟩ ::
    formatter.events surroundings.programs r.assembly.text

/-- The last event of a conversion that failed. -/
def ConversionFault.event (fault : ConversionFault) : LogEvent := ⟨.error, fault.message⟩

/-- All that is told of a conversion. -/
def Conversion.events (surroundings : Surroundings) (configuration : Configuration)
    (input output : String) (c : Conversion) : List LogEvent :=
  let loaded := (c.notebook.toList).flatMap (Notebook.events input)
  let rendered := (c.rendered.toList).flatMap fun r =>
    r.events surroundings configuration ++ r.formatted.events input
  let last : LogEvent :=
    match c.result with
    | .ok _ => ⟨.info, "Successfully converted " ++ input ++ " to " ++ output⟩
    | .error fault => fault.event
  loaded ++ rendered ++ [last]

end NotebookExport
