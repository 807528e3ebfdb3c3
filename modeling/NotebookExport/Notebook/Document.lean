import NotebookExport.Json.Decode
import NotebookExport.Json.Reader
import NotebookExport.Notebook.Cell

/-!
# Notebook documents

The form of a notebook as a JSON document, and the notebook that a document holds. Version 4 has
its cells in one list; version 3 has them on worksheets, keeps the text of code cells elsewhere, and
knows headings. A version 3 document is read as the version 4 document that it would be.
-/

namespace NotebookExport

open Json

/-- The text of a cell, which is written as one string or as a list of strings. -/
inductive CellText where
  | whole (text : String)
  | pieces (texts : List String)
  deriving DecidableEq

namespace CellText

/-- The text itself. -/
def join : CellText → String
  | .whole text => text
  | .pieces texts => String.join texts

/-- The strings among elements, if there is nothing else. -/
def strings? : Elements → Option (List String)
  | .stop _ => some []
  | .next _ (.string (.ok s) _) _ rest => (strings? rest).map (s :: ·)
  | .next _ _ _ _ => none

/-- The text that a value is, if it has one of the two forms. -/
def ofValue? : Value → Option CellText
  | .string (.ok s) _ => some (.whole s)
  | .array _ values => (strings? values).map .pieces
  | _ => none

/-- Decodes the text of a cell. In `room` stands how deep the value may be nested; `left` is where
the reader stands if it is no text. -/
def decode (room : Nat) (left : Place) (value : Value) : Except Fault CellText :=
  match value.keep room with
  | some fault => .error fault
  | none =>
    match ofValue? value with
    | some text => .ok text
    | none => .error ⟨.noForm "MultilineText", left⟩

/-- `decode`, for a text that may be `null`. -/
def decodeOptional (room : Nat) (left : Place) : Value → Except Fault (Option CellText)
  | .null _ => .ok none
  | value => (decode room left value).map some

end CellText

/-- A cell as it stands in a document. -/
structure CellRecord where
  cellType : String := ""
  source : Option CellText := none
  /-- The text of a code cell of version 3. -/
  input : Option CellText := none
  /-- The level of a heading of version 3. -/
  level : Option Nat := none
  deriving DecidableEq

namespace CellRecord

/-- Decodes a cell whose texts may be nested `room` deep. -/
def form (room : Nat) : RecordForm CellRecord where
  name := "struct RawCell"
  fields := ["cell_type", "source", "input", "level"]
  empty := {}
  required := some "cell_type"
  set := fun field value left cell =>
    if field = "cell_type" then
      (Decoder.string value).map fun cellType => { cell with cellType := cellType }
    else if field = "source" then
      (CellText.decodeOptional room left value).map fun source => { cell with source := source }
    else if field = "input" then
      (CellText.decodeOptional room left value).map fun input => { cell with input := input }
    else
      (Decoder.optional Decoder.natural32 value).map fun level => { cell with level := level }

def decode (room : Nat) : Decoder CellRecord := (form room).decode

end CellRecord

/-- A worksheet of version 3. -/
structure WorksheetRecord where
  cells : List CellRecord := []
  deriving DecidableEq

namespace WorksheetRecord

def form (room : Nat) : RecordForm WorksheetRecord where
  name := "struct RawWorksheet"
  fields := ["cells"]
  empty := {}
  required := none
  set := fun _ value _ _ =>
    (Decoder.list (CellRecord.decode room) value).map fun cells => ⟨cells⟩

end WorksheetRecord

/-- A notebook as it stands in a document. -/
structure NotebookRecord where
  version : Nat := 0
  minorVersion : Nat := 0
  cells : Option (List CellRecord) := none
  worksheets : Option (List WorksheetRecord) := none
  deriving DecidableEq

namespace NotebookRecord

/-- How deep the text of a cell may be nested: 127 levels, less those of the document, the list of
cells and the cell. -/
def roomInCells : Nat := 124

/-- The same on a worksheet, which takes two levels more. -/
def roomOnWorksheets : Nat := 122

def form : RecordForm NotebookRecord where
  name := "struct RawNotebook"
  fields := ["nbformat", "nbformat_minor", "cells", "worksheets"]
  empty := {}
  required := some "nbformat"
  set := fun field value _ notebook =>
    if field = "nbformat" then
      (Decoder.natural32 value).map fun version => { notebook with version := version }
    else if field = "nbformat_minor" then
      (Decoder.natural32 value).map fun minor => { notebook with minorVersion := minor }
    else if field = "cells" then
      (Decoder.optional (Decoder.list (CellRecord.decode roomInCells)) value).map fun cells =>
        { notebook with cells := cells }
    else
      (Decoder.optional (Decoder.list (WorksheetRecord.form roomOnWorksheets).decode) value).map
        fun worksheets => { notebook with worksheets := worksheets }

/-- Decodes a whole document. -/
def ofDocument (document : Document) : Except Fault NotebookRecord :=
  (form.decode document.value).bind fun record =>
    match document.trailing with
    | some fault => .error fault
    | none => .ok record

end NotebookRecord

/-! ### From documents to notebooks -/

/-- Why a document of the right form is no notebook. -/
inductive FormatFault where
  /-- A version 4 document without a list of cells. -/
  | noCells
  /-- A version 3 document without worksheets. -/
  | noWorksheets
  /-- A version 4 cell without a text. -/
  | noSource (index : Nat) (cellType : String)
  deriving DecidableEq

def FormatFault.message : FormatFault → String
  | .noCells => "nbformat 4 document has no `cells` array"
  | .noWorksheets => "nbformat 3 document has no `worksheets` array"
  | .noSource index cellType =>
    "cell " ++ toString index ++ " (" ++ cellType ++ ") has no `source`"

/-- Why a text is no notebook. -/
inductive NotebookFault where
  | json (fault : Fault)
  | format (fault : FormatFault)
  | unsupportedVersion (version : Nat)
  deriving DecidableEq

namespace CellRecord

/-- The cell of version 4 at an index. -/
def toCell (index : Nat) (record : CellRecord) : Except FormatFault Cell :=
  match record.source with
  | some source => .ok ⟨.ofName record.cellType, source.join⟩
  | none => .error (.noSource index record.cellType)

/-- The cells of version 4 from an index on. -/
def toCells : Nat → List CellRecord → Except FormatFault (List Cell)
  | _, [] => .ok []
  | index, record :: records =>
    (record.toCell index).bind fun cell =>
      (toCells (index + 1) records).map fun cells => cell :: cells

/-- A missing text is an empty one. -/
def textOrEmpty (text : Option CellText) : String := (text.map CellText.join).getD ""

/-- A text on one line. -/
def onOneLine (text : String) : String :=
  String.ofList (text.toList.map fun c => if c = '\n' then ' ' else c)

/-- The cell that a cell of version 3 becomes. A heading becomes markdown. -/
def upgrade (record : CellRecord) : Cell :=
  if record.cellType = "code" then ⟨.code, textOrEmpty record.input⟩
  else if record.cellType = "heading" then
    let level := max (record.level.getD 1) 1
    let marks := String.ofList (List.replicate level '#')
    ⟨.markdown, marks ++ " " ++ onOneLine (textOrEmpty record.source)⟩
  else ⟨.ofName record.cellType, textOrEmpty record.source⟩

end CellRecord

namespace Notebook

/-- The notebook that a document holds. -/
def ofRecord (record : NotebookRecord) : Except NotebookFault Notebook :=
  let notebook (cells : List Cell) : Notebook := ⟨record.version, record.minorVersion, cells⟩
  if record.version = 4 then
    match record.cells with
    | none => .error (.format .noCells)
    | some cells =>
      match CellRecord.toCells 0 cells with
      | .ok cells => .ok (notebook cells)
      | .error fault => .error (.format fault)
  else if record.version = 3 then
    match record.worksheets with
    | none => .error (.format .noWorksheets)
    | some sheets =>
      .ok (notebook ((sheets.flatMap WorksheetRecord.cells).map CellRecord.upgrade))
  else .error (.unsupportedVersion record.version)

/-- The notebook that a JSON document holds. -/
def ofDocument (document : Document) : Except NotebookFault Notebook :=
  match NotebookRecord.ofDocument document with
  | .ok record => ofRecord record
  | .error fault => .error (.json fault)

end Notebook

end NotebookExport
