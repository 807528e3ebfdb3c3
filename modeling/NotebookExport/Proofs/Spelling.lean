import NotebookExport.Proofs.Records
import NotebookExport.Proofs.Versions

/-!
# Spellings of a notebook

The same notebook can be written in many ways: the text of a cell as one string or in pieces, a
record as an object or as an array of its fields, the fields of an object in any order and with
others between them, and what is not said as `null` or not at all. The main statement is that none
of this can be seen in the notebook that is read: it has the cells that were written, in their
order. The usual way of writing, with the lines of each text apart, is one of these.
-/

namespace NotebookExport

open Json Text

variable {value : Value} {datum : Datum}

/-! ### Texts -/

/-- The ways of writing a text: as one string, or in pieces. -/
inductive SpellsText (text : String) : Datum → Prop
  | whole : SpellsText text (.string text)
  | pieces {texts : List String} (h : String.join texts = text) :
      SpellsText text (.array (texts.map .string))

namespace CellText

lemma strings?_of_data? {elements : Elements} {texts : List String} (room : Nat)
    (h : elements.data? = some (texts.map .string)) :
    strings? elements = some texts ∧ elements.keep room = none := by
  induction texts generalizing elements with
  | nil =>
    obtain ⟨place, rfl⟩ := Elements.data?_eq_nil_iff.mp h
    exact ⟨rfl, rfl⟩
  | cons text texts ih =>
    obtain ⟨start, value, left, rest, rfl, hvalue, hrest⟩ := Elements.data?_eq_cons_iff.mp h
    obtain ⟨place, rfl⟩ := Value.form_of_datum? hvalue
    obtain ⟨hstrings, hkeep⟩ := ih hrest
    exact ⟨by simp [strings?, hstrings], by simp [Elements.keep, Value.keep, hkeep]⟩

/-- A text is read in whatever way it is written. -/
lemma exists_decodeOptional {room : Nat} (left : Place) {text : String} (hroom : room ≠ 0)
    (hspells : SpellsText text datum) (hvalue : value.datum? = some datum) :
    ∃ source, decodeOptional room left value = .ok (some source) ∧ source.join = text := by
  cases hspells with
  | whole =>
    obtain ⟨place, rfl⟩ := Value.form_of_datum? hvalue
    exact ⟨.whole text, rfl, rfl⟩
  | @pieces texts hjoin =>
    obtain ⟨start, elements, rfl, hdata⟩ := Value.form_of_datum? hvalue
    obtain ⟨hstrings, hkeep⟩ := strings?_of_data? (room - 1) hdata
    refine ⟨.pieces texts, ?_, hjoin⟩
    simp [decodeOptional, decode, Value.keep, hroom, hkeep, ofValue?, hstrings, Except.map]

end CellText

/-! ### Cells -/

/-- Nothing is said about a field: it is left out, or `null`. -/
def IsUnsaid (said : Option Datum) : Prop := said = none ∨ said = some .null

/-- What may stand in the fields of a cell with a type and a text. -/
def IsCellField (cell : String × String) (field : String) (said : Option Datum) : Prop :=
  if field = "cell_type" then said = some (.string cell.1)
  else if field = "source" then ∃ datum, said = some datum ∧ SpellsText cell.2 datum
  else IsUnsaid said

/-- The ways of writing a cell. -/
def SpellsCell (cell : String × String) : Datum → Prop :=
  SpellsRecord ["cell_type", "source", "input", "level"] (IsCellField cell)

/-- A field of which nothing is said is read as one that is left out. -/
lemma exists_null_of_isUnsaid (hsaid : IsUnsaid (some datum)) (hvalue : value.datum? = some datum) :
    ∃ place, value = .null place := by
  obtain heq | heq := hsaid
  · cases heq
  · cases heq
    exact Value.form_of_datum? hvalue

namespace CellRecord

/-- What is known of a cell when some of its fields have been read. -/
def Known (cell : String × String) (seen : List String) (record : CellRecord) : Prop :=
  ("cell_type" ∈ seen → record.cellType = cell.1) ∧
    ("source" ∈ seen → record.source.map CellText.join = some cell.2)

lemma takesIn {room : Nat} (hroom : room ≠ 0) (cell : String × String) :
    (form room).TakesIn (IsCellField cell) (Known cell) where
  empty := ⟨by simp, by simp⟩
  set := by
    rintro seen record field value datum left hfield - ⟨htype, hsource⟩ hvalue hsaid
    have hnames : field = "cell_type" ∨ field = "source" ∨ field = "input" ∨ field = "level" := by
      simpa [form] using hfield
    rcases hnames with rfl | rfl | rfl | rfl
    · obtain rfl : datum = .string cell.1 := by simpa [IsCellField] using hsaid
      obtain ⟨place, rfl⟩ := Value.form_of_datum? hvalue
      exact ⟨{ record with cellType := cell.1 }, rfl, fun _ => rfl, by simpa using hsource⟩
    · have hspells : SpellsText cell.2 datum := by simpa [IsCellField] using hsaid
      obtain ⟨source, hdecode, hjoin⟩ := CellText.exists_decodeOptional left hroom hspells hvalue
      refine ⟨{ record with source := some source }, ?_, by simpa using htype, fun _ => ?_⟩
      · simp [form, hdecode, Except.map]
      · simp [hjoin]
    · obtain ⟨place, rfl⟩ := exists_null_of_isUnsaid (by simpa [IsCellField] using hsaid) hvalue
      exact ⟨{ record with input := none }, rfl, by simpa using htype, by simpa using hsource⟩
    · obtain ⟨place, rfl⟩ := exists_null_of_isUnsaid (by simpa [IsCellField] using hsaid) hvalue
      exact ⟨{ record with level := none }, rfl, by simpa using htype, by simpa using hsource⟩
  required := by
    intro field hrequired
    obtain rfl : "cell_type" = field := by simpa [form] using hrequired
    exact ⟨by simp [form], by simp [IsCellField]⟩

/-- A cell is read in whatever way it is written. -/
lemma exists_decode {room : Nat} (hroom : room ≠ 0) {cell : String × String}
    (hspells : SpellsCell cell datum) (hvalue : value.datum? = some datum) :
    ∃ record, decode room value = .ok record ∧ record.Says cell := by
  have honce : (form room).fields.Nodup := by simp [form]
  obtain ⟨record, hdecode, seen, ⟨htype, hsource⟩, hseen⟩ :=
    (takesIn hroom cell).exists_decode honce hspells hvalue
  refine ⟨record, hdecode, htype ?_, hsource ?_⟩
  · simpa [IsCellField] using hseen "cell_type" (by simp [form])
  · simpa [IsCellField] using hseen "source" (by simp [form])

end CellRecord

/-! ### Notebooks -/

/-- What may stand in the fields of a notebook of version 4. -/
def IsNotebookField (minor : Nat) (cells : List (String × String)) (field : String)
    (said : Option Datum) : Prop :=
  if field = "nbformat" then said = some (.number (.natural 4))
  else if field = "nbformat_minor" then
    said = some (.number (.natural minor)) ∨ said = none ∧ minor = 0
  else if field = "cells" then
    ∃ data, said = some (.array data) ∧ List.Forall₂ SpellsCell cells data
  else IsUnsaid said

/-- The ways of writing a notebook of version 4. -/
def SpellsNotebook (minor : Nat) (cells : List (String × String)) : Datum → Prop :=
  SpellsRecord ["nbformat", "nbformat_minor", "cells", "worksheets"] (IsNotebookField minor cells)

namespace NotebookRecord

/-- What is known of a notebook when some of its fields have been read. -/
def Known (minor : Nat) (cells : List (String × String)) (seen : List String)
    (record : NotebookRecord) : Prop :=
  ("nbformat" ∈ seen → record.version = 4) ∧
    (record.minorVersion = if "nbformat_minor" ∈ seen then minor else 0) ∧
    ("cells" ∈ seen → ∃ records, record.cells = some records ∧
      List.Forall₂ (fun cell record => CellRecord.Says record cell) cells records)

lemma takesIn {minor : Nat} (hminor : minor < Nat.pow 2 32) (cells : List (String × String)) :
    form.TakesIn (IsNotebookField minor cells) (Known minor cells) where
  empty := ⟨by simp, rfl, by simp⟩
  set := by
    rintro seen record field value datum left hfield - ⟨hversion, hminorOf, hcells⟩ hvalue hsaid
    have hnames : field = "nbformat" ∨ field = "nbformat_minor" ∨ field = "cells" ∨
        field = "worksheets" := by
      simpa [form] using hfield
    rcases hnames with rfl | rfl | rfl | rfl
    · obtain rfl : datum = .number (.natural 4) := by simpa [IsNotebookField] using hsaid
      obtain ⟨place, rfl⟩ := Value.form_of_datum? hvalue
      exact ⟨{ record with version := 4 }, rfl, fun _ => rfl, by simpa using hminorOf,
        by simpa using hcells⟩
    · obtain rfl : datum = .number (.natural minor) := by simpa [IsNotebookField] using hsaid
      obtain ⟨place, rfl⟩ := Value.form_of_datum? hvalue
      refine ⟨{ record with minorVersion := minor }, ?_, by simpa using hversion, by simp,
        by simpa using hcells⟩
      simp [form, Decoder.natural32, hminor, Except.map]
    · obtain ⟨data, rfl, hspells⟩ :
          ∃ data, datum = .array data ∧ List.Forall₂ SpellsCell cells data := by
        simpa [IsNotebookField] using hsaid
      obtain ⟨start, elements, rfl, hdata⟩ := Value.form_of_datum? hvalue
      have hroom : roomInCells ≠ 0 := by decide
      obtain ⟨records, hrecords, htold⟩ := Decoder.exists_elements
        (fun hcell hvalue => CellRecord.exists_decode hroom hcell hvalue) hspells hdata
      refine ⟨{ record with cells := some records }, ?_, by simpa using hversion,
        by simpa using hminorOf, fun _ => ⟨records, rfl, htold⟩⟩
      simp [form, Decoder.optional, Decoder.list, hrecords, Except.map]
    · obtain ⟨place, rfl⟩ := exists_null_of_isUnsaid (by simpa [IsNotebookField] using hsaid) hvalue
      exact ⟨{ record with worksheets := none }, rfl, by simpa using hversion,
        by simpa using hminorOf, by simpa using hcells⟩
  required := by
    intro field hrequired
    obtain rfl : "nbformat" = field := by simpa [form] using hrequired
    exact ⟨by simp [form], by simp [IsNotebookField]⟩

end NotebookRecord

namespace Notebook

variable {minor : Nat} {cells : List (String × String)}

/-- A notebook is read in whatever way it is written. -/
theorem ofDocument_of_spells {document : Document} (hminor : minor < Nat.pow 2 32)
    (hdatum : document.datum? = some datum) (hspells : SpellsNotebook minor cells datum) :
    ofDocument document = .ok ⟨4, minor, cells.map .ofPair⟩ := by
  obtain ⟨htrailing, hvalue⟩ := Document.datum?_eq_some_iff.mp hdatum
  have honce : NotebookRecord.form.fields.Nodup := by simp [NotebookRecord.form]
  obtain ⟨record, hdecode, seen, ⟨hversion, hminorOf, hcells⟩, hseen⟩ :=
    (NotebookRecord.takesIn hminor cells).exists_decode honce hspells hvalue
  have hfour : record.version = 4 := hversion <| by
    simpa [IsNotebookField] using hseen "nbformat" (by simp [NotebookRecord.form])
  have hminorVersion : record.minorVersion = minor := by
    rw [hminorOf]
    split_ifs with hthere
    · rfl
    · have hzero := hseen "nbformat_minor" (by simp [NotebookRecord.form])
      simp only [hthere, IsNotebookField, false_or] at hzero
      simpa [eq_comm] using hzero.symm
  obtain ⟨records, hrecords, htold⟩ := hcells <| by
    simpa [IsNotebookField] using hseen "cells" (by simp [NotebookRecord.form])
  have hrecord : NotebookRecord.ofDocument document = .ok record := by
    simp [NotebookRecord.ofDocument, hdecode, htrailing, Except.bind]
  rw [ofDocument, hrecord, ← hminorVersion]
  simp [ofRecord_of_cells hfour hrecords, CellRecord.toCells_of_says htold.flip, Except.map,
    Except.mapError]

end Notebook

/-! ### The usual way of writing -/

/-- The lines of a text, each with the line feed that ends it. -/
def linesWithFeeds : List Char → List (List Char)
  | [] => []
  | c :: cs =>
    if c = '\n' then [c] :: linesWithFeeds cs
    else
      match linesWithFeeds cs with
      | [] => [[c]]
      | line :: rest => (c :: line) :: rest

lemma flatten_linesWithFeeds (text : List Char) : (linesWithFeeds text).flatten = text := by
  induction text with
  | nil => rfl
  | cons c cs ih =>
    unfold linesWithFeeds
    split_ifs
    · simp [ih]
    · split
      · next hnone => simpa [hnone] using ih
      · next hlines => simpa [hlines] using ih

/-- The pieces in which a text is usually written. -/
def usualPieces (text : String) : List String := (linesWithFeeds text.toList).map String.ofList

lemma join_usualPieces (text : String) : String.join (usualPieces text) = text := by
  rw [← String.toList_inj, usualPieces, String.toList_join, List.flatMap_map]
  simp [flatten_linesWithFeeds]

/-- The usual way of writing the text of a cell. Raw text is not cut into pieces. -/
def usualSource (cell : String × String) : Datum :=
  if cell.1 = "raw" then .string cell.2 else .array ((usualPieces cell.2).map .string)

/-- The usual way of writing a cell. -/
def usualCell (cell : String × String) : Datum :=
  let outputs :=
    if cell.1 = "code" then [("execution_count", .null), ("outputs", .array [])] else []
  .object (("cell_type", .string cell.1) :: ("metadata", .object []) ::
    ("source", usualSource cell) :: outputs)

/-- The usual way of writing a notebook. -/
def usualNotebook (minor : Nat) (cells : List (String × String)) : Datum :=
  .object [("nbformat", .number (.natural 4)), ("nbformat_minor", .number (.natural minor)),
    ("metadata", .object [("kernelspec", .object [("name", .string "python3"),
      ("display_name", .string "Python 3"), ("language", .string "python")])]),
    ("cells", .array (cells.map usualCell))]

lemma spellsText_usual (cell : String × String) : SpellsText cell.2 (usualSource cell) := by
  unfold usualSource
  split_ifs
  · exact .whole
  · exact .pieces (join_usualPieces cell.2)

lemma spellsCell_usual (cell : String × String) : SpellsCell cell (usualCell cell) := by
  unfold usualCell
  split_ifs <;> refine .object (by simp) ?_ <;>
    simp [IsCellField, IsUnsaid, List.lookup_cons, spellsText_usual]

lemma spellsNotebook_usual (minor : Nat) (cells : List (String × String)) :
    SpellsNotebook minor cells (usualNotebook minor cells) := by
  have hcells : List.Forall₂ SpellsCell cells (cells.map usualCell) := by
    simpa [List.forall₂_map_right_iff, List.forall₂_same] using fun a b _ => spellsCell_usual (a, b)
  exact .object (by simp) (by simp [IsNotebookField, IsUnsaid, List.lookup_cons, hcells])

/-- From a text that spells a notebook its cells are read, in their order. -/
theorem ofText_of_spelling {minor : Nat} {cells : List (String × String)} {text : String}
    (hminor : minor < Nat.pow 2 32) (hdatum : (Document.ofText text).datum? = some datum)
    (hspells : SpellsNotebook minor cells datum ∨ datum = usualNotebook minor cells) :
    Notebook.ofText text =
      .ok ⟨4, minor, cells.map fun (cellType, source) => ⟨.ofName cellType, source⟩⟩ := by
  apply Notebook.ofDocument_of_spells hminor hdatum
  rcases hspells with hspells | rfl
  · exact hspells
  · exact spellsNotebook_usual minor cells

/-- A cell in an array and one in an object, with a member that nobody knows. -/
theorem ofText_of_array_and_object :
    let text := "\x7b\"cells\":[[\"code\",[\"a\\n\",\"\"]],\x7b\"id\":\"\\ud800\"," ++
      "\"source\":\"b\",\"level\":null,\"cell_type\":\"raw\"\x7d],\"nbformat\":4\x7d"
    let code : Datum := .array [.string "code", .array [.string "a\n", .string ""]]
    let raw : Datum := .object [("id", .unusable), ("source", .string "b"), ("level", .null),
      ("cell_type", .string "raw")]
    let datum : Datum := .object [("cells", .array [code, raw]), ("nbformat", .number (.natural 4))]
    let cells := [("code", "a\n"), ("raw", "b")]
    0 < Nat.pow 2 32 ∧ (Document.ofText text).datum? = some datum ∧ SpellsNotebook 0 cells datum ∧
      Notebook.ofText text = .ok ⟨4, 0, [⟨.code, "a\n"⟩, ⟨.other "raw", "b"⟩]⟩ := by
  intro text code raw datum cells
  have hdatum : (Document.ofText text).datum? = some datum := by
    simp only [text, datum, code, raw]
    rfl
  have hcode : SpellsCell ("code", "a\n") code := by
    have hpieces : SpellsText "a\n" (.array (["a\n", ""].map .string)) :=
      .pieces (by decide +kernel)
    refine .array (.next (by simp [IsCellField]) (.next ?_ (.left ?_)))
    · simpa [IsCellField] using hpieces
    · simp [IsCellField, IsUnsaid]
  have hraw : SpellsCell ("raw", "b") raw :=
    .object (by simp) (by simp [IsCellField, IsUnsaid, List.lookup_cons, SpellsText.whole])
  have hspells : SpellsNotebook 0 cells datum :=
    .object (by simp) (by simp [IsNotebookField, IsUnsaid, List.lookup_cons, cells, hcode, hraw])
  refine ⟨by decide, hdatum, hspells, ?_⟩
  exact (ofText_of_spelling (by decide) hdatum (.inl hspells)).trans (by decide +kernel)

end NotebookExport
