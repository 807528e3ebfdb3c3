import Mathlib.Data.List.Forall2
import NotebookExport.Proofs.CellByCell
import NotebookExport.Proofs.Lines

/-!
# Both versions of the format

A notebook of version 3 is read as the notebook of version 4 that says the same, and its headings
become markdown of one line. Version 4 is strict where version 3 is not: a cell without a text is a
fault there, and the first such cell is the one that is named. Before any of this a document has to
have the form of a notebook, of whatever version it is.
-/

namespace NotebookExport

open Json Text

/-! ### Cells of version 4 -/

/-- A cell in a document has a type and a text. -/
def CellRecord.Says (record : CellRecord) (cell : String × String) : Prop :=
  record.cellType = cell.1 ∧ record.source.map CellText.join = some cell.2

/-- The cell with a type and a text. -/
def Cell.ofPair (cell : String × String) : Cell := ⟨.ofName cell.1, cell.2⟩

namespace CellRecord

variable {record : CellRecord} {records : List CellRecord} {index : Nat}

lemma toCell_of_says {cell : String × String} (h : record.Says cell) :
    record.toCell index = .ok (.ofPair cell) := by
  obtain ⟨htype, hsource⟩ := h
  obtain ⟨source, hsome, hjoin⟩ := Option.map_eq_some_iff.mp hsource
  simp [toCell, hsome, Cell.ofPair, htype, hjoin]

lemma toCells_of_says {cells : List (String × String)} (h : List.Forall₂ Says records cells) :
    toCells index records = .ok (cells.map .ofPair) := by
  induction h generalizing index with
  | nil => rfl
  | cons hfirst _ ih => simp [toCells, toCell_of_says hfirst, ih, Except.bind, Except.map]

lemma exists_says (h : ∀ record ∈ records, record.source ≠ none) :
    ∃ cells, List.Forall₂ Says records cells := by
  induction records with
  | nil => exact ⟨[], .nil⟩
  | cons record records ih =>
    obtain ⟨source, hsource⟩ := Option.ne_none_iff_exists'.mp (h record List.mem_cons_self)
    obtain ⟨cells, hcells⟩ := ih fun r hr => h r (List.mem_cons_of_mem _ hr)
    exact ⟨(record.cellType, source.join) :: cells, .cons ⟨rfl, by simp [hsource]⟩ hcells⟩

lemma toCells_of_first {before behind : List CellRecord}
    (hbefore : ∀ r ∈ before, r.source ≠ none) (hnone : record.source = none) :
    toCells index (before ++ record :: behind) =
      .error (.noSource (index + before.length) record.cellType) := by
  induction before generalizing index with
  | nil => simp [toCells, toCell, hnone, Except.bind]
  | cons first before ih =>
    obtain ⟨source, hsource⟩ := Option.ne_none_iff_exists'.mp (hbefore first List.mem_cons_self)
    have hrest : toCells (index + 1) (before ++ record :: behind) =
        .error (.noSource (index + 1 + before.length) record.cellType) :=
      ih fun r hr => hbefore r (List.mem_cons_of_mem _ hr)
    have hlength : index + 1 + before.length = index + (before.length + 1) := by omega
    simp [toCells, toCell, hsource, hrest, hlength, Except.bind, Except.map]

/-- Either every cell has a text, or there is a first one without. -/
lemma forall_or_exists_first (records : List CellRecord) :
    (∀ r ∈ records, r.source ≠ none) ∨
      ∃ before record behind, records = before ++ record :: behind ∧
        (∀ r ∈ before, r.source ≠ none) ∧ record.source = none := by
  cases hfind : records.find? fun r => r.source.isNone with
  | none =>
    refine .inl fun r hr hnone => ?_
    have hsome := List.find?_eq_none.mp hfind r hr
    simp [hnone] at hsome
  | some record =>
    obtain ⟨hnone, before, behind, rfl, hbefore⟩ := List.find?_eq_some_iff_append.mp hfind
    refine .inr ⟨before, record, behind, rfl, ?_, by simpa using hnone⟩
    intro r hr
    simpa [Option.isSome_iff_ne_none] using hbefore r hr

/-- Cells are read exactly if each of them has a text. -/
lemma exists_toCells_eq_ok_iff :
    (∃ cells, toCells index records = .ok cells) ↔ ∀ r ∈ records, r.source ≠ none := by
  constructor
  · rintro ⟨cells, hcells⟩
    rcases forall_or_exists_first records with h | ⟨before, record, behind, rfl, hbefore, hnone⟩
    · exact h
    · rw [toCells_of_first hbefore hnone] at hcells
      cases hcells
  · intro h
    obtain ⟨cells, hcells⟩ := exists_says h
    exact ⟨_, toCells_of_says hcells⟩

/-- The fault is in the first cell without a text. -/
lemma toCells_eq_error_iff {fault : FormatFault} :
    toCells index records = .error fault ↔
      ∃ before record behind, records = before ++ record :: behind ∧
        (∀ r ∈ before, r.source ≠ none) ∧ record.source = none ∧
        fault = .noSource (index + before.length) record.cellType := by
  constructor
  · intro hfault
    rcases forall_or_exists_first records with h | ⟨before, record, behind, rfl, hbefore, hnone⟩
    · obtain ⟨cells, hcells⟩ := exists_toCells_eq_ok_iff.mpr h
      rw [hcells] at hfault
      cases hfault
    · rw [toCells_of_first hbefore hnone] at hfault
      cases hfault
      exact ⟨before, record, behind, rfl, hbefore, hnone, rfl⟩
  · rintro ⟨before, record, behind, rfl, hbefore, hnone, rfl⟩
    exact toCells_of_first hbefore hnone

end CellRecord

/-! ### Cells of version 3 -/

namespace CellRecord

/-- The type and the text that a cell of version 3 has in version 4. -/
def upgraded (record : CellRecord) : String × String :=
  if record.cellType = "code" then ("code", textOrEmpty record.input)
  else if record.cellType = "heading" then
    let marks := List.replicate (max (record.level.getD 1) 1) '#'
    let lines := splitLines (textOrEmpty record.source).toList
    ("markdown", String.ofList (marks ++ ' ' :: List.intercalate [' '] lines))
  else (record.cellType, textOrEmpty record.source)

/-- A text on one line is its lines with a blank between any two. -/
lemma intercalate_splitLines (text : List Char) :
    List.intercalate [' '] (splitLines text) = text.map fun c => if c = '\n' then ' ' else c := by
  induction text with
  | nil => rfl
  | cons c cs ih =>
    obtain ⟨line, lines, hlines⟩ := List.exists_cons_of_ne_nil (splitLines_ne_nil cs)
    rw [hlines] at ih
    by_cases hc : c = '\n'
    · simp [hc, ← ih, hlines]
    · cases lines with
      | nil => simpa [splitLines, hc, hlines] using ih
      | cons next lines =>
        rw [List.intercalate_cons_cons] at ih
        simp [splitLines, hc, hlines, List.intercalate_cons_cons, ← ih]

lemma upgrade_eq (record : CellRecord) : record.upgrade = .ofPair record.upgraded := by
  unfold upgrade upgraded
  split_ifs with hcode hheading
  · rfl
  · have hname : CellKind.ofName "markdown" = .markdown := by decide
    simp [Cell.ofPair, intercalate_splitLines, onOneLine, hname, ← String.toList_inj]
  · rfl

end CellRecord

/-! ### Headings -/

lemma feed_notMem_heading {record : CellRecord} (h : record.cellType = "heading") :
    record.upgraded.1 = "markdown" ∧ record.upgraded.2 ≠ "" ∧ '\n' ∉ record.upgraded.2.toList := by
  have hcode : record.cellType ≠ "code" := by rw [h]; decide
  simp only [CellRecord.upgraded, if_neg hcode, if_pos h, CellRecord.intercalate_splitLines]
  refine ⟨trivial, ?_, ?_⟩
  · simp [← String.toList_inj]
  · simp only [String.toList_ofList, List.mem_append, List.mem_cons, List.mem_replicate,
      List.mem_map]
    rintro (⟨-, heq⟩ | heq | ⟨c, -, heq⟩)
    · cases heq
    · cases heq
    · split_ifs at heq with hfeed
      · cases heq
      · exact hfeed heq

/-- A heading becomes one marked line. -/
lemma commentLines_heading {record : CellRecord} (mark : String)
    (h : record.cellType = "heading") :
    commentLines mark record.upgraded.2 = mark ++ record.upgraded.2 := by
  obtain ⟨-, hne, hfeed⟩ := feed_notMem_heading h
  have hchars : record.upgraded.2.toList ≠ [] := by simpa using hne
  simp [commentLines, hne, lines_of_feed_notMem hchars hfeed, joinLines]

/-- Among other cells, a heading is one line of the script. -/
lemma splitLines_text_heading {assembler : Assembler} {record : CellRecord}
    (hmark : '\n' ∉ assembler.mark.toList) (h : record.cellType = "heading")
    (before behind : List Cell) :
    splitLines (assembler.assemble (before ++ record.upgrade :: behind)).text.toList =
      (splitLines (assembler.assemble before).text.toList).dropLast ++
        (assembler.mark ++ record.upgraded.2).toList :: [] ::
          splitLines (assembler.assemble behind).text.toList := by
  obtain ⟨hkind, -, hfeed⟩ := feed_notMem_heading h
  have hname : CellKind.ofName "markdown" = .markdown := by decide
  have hline : '\n' ∉ (assembler.mark ++ record.upgraded.2).toList := by simp [hmark, hfeed]
  have houtcome : (assembler.outcome record.upgrade).text =
      assembler.mark ++ record.upgraded.2 ++ cellSeparator := by
    simp [record.upgrade_eq, Cell.ofPair, hkind, hname, Assembler.outcome, CellOutcome.text,
      commentLines_heading assembler.mark h]
  simp only [Assembler.assemble, List.map_append, List.map_cons, Assembly.text_append,
    Assembly.text_cons, houtcome, String.toList_append]
  rw [(Assembly.endsBlank_text _).splitLines_append, cellSeparator, ← String.toList_append,
    List.append_assoc]
  exact congrArg _ (splitLines_line_feed hline _)

/-! ### Documents -/

namespace Notebook

variable {document : Document} {record : NotebookRecord}

lemma ofDocument_eq_json_iff {fault : Fault} :
    ofDocument document = .error (.json fault) ↔
      NotebookRecord.ofDocument document = .error fault := by
  unfold ofDocument
  cases NotebookRecord.ofDocument document with
  | error fault' => simp
  | ok record =>
    simp only [reduceCtorEq, iff_false]
    unfold ofRecord
    grind

lemma ofRecord_of_cells (h : record.version = 4) {records : List CellRecord}
    (hrecords : record.cells = some records) :
    ofRecord record = ((CellRecord.toCells 0 records).map fun cells =>
      ⟨4, record.minorVersion, cells⟩).mapError .format := by
  cases hcells : CellRecord.toCells 0 records <;>
    simp [ofRecord, h, hrecords, hcells, Except.map, Except.mapError]

lemma ofRecord_of_sheets (h : record.version = 3) {sheets : List WorksheetRecord}
    (hsheets : record.worksheets = some sheets) :
    ofRecord record =
      .ok ⟨3, record.minorVersion,
        (sheets.flatMap WorksheetRecord.cells).map CellRecord.upgrade⟩ := by
  simp [ofRecord, h, hsheets]

lemma exists_ofRecord_four_iff (h : record.version = 4) :
    (∃ notebook, ofRecord record = .ok notebook) ↔
      ∃ records, record.cells = some records ∧ ∀ r ∈ records, r.source ≠ none := by
  cases hrecords : record.cells with
  | none => simp [ofRecord, h, hrecords]
  | some records =>
    rw [ofRecord_of_cells h hrecords]
    have hcells : (∃ cells, CellRecord.toCells 0 records = .ok cells) ↔ _ :=
      CellRecord.exists_toCells_eq_ok_iff
    cases htoCells : CellRecord.toCells 0 records <;>
      simp_all [Except.map, Except.mapError]

lemma ofRecord_eq_noCells_iff (h : record.version = 4) :
    ofRecord record = .error (.format .noCells) ↔ record.cells = none := by
  cases hrecords : record.cells with
  | none => simp [ofRecord, h, hrecords]
  | some records =>
    rw [ofRecord_of_cells h hrecords]
    cases hcells : CellRecord.toCells 0 records with
    | ok cells => simp [Except.map, Except.mapError]
    | error fault =>
      obtain ⟨before, first, behind, -, -, -, rfl⟩ := CellRecord.toCells_eq_error_iff.mp hcells
      simp [Except.map, Except.mapError]

lemma ofRecord_eq_noSource_iff (h : record.version = 4) {index : Nat} {cellType : String} :
    ofRecord record = .error (.format (.noSource index cellType)) ↔
      ∃ before first behind, record.cells = some (before ++ first :: behind) ∧
        (∀ r ∈ before, r.source ≠ none) ∧ first.source = none ∧
        before.length = index ∧ first.cellType = cellType := by
  cases hrecords : record.cells with
  | none => simp [ofRecord, h, hrecords]
  | some records =>
    have hfault : ofRecord record = .error (.format (.noSource index cellType)) ↔
        CellRecord.toCells 0 records = .error (.noSource index cellType) := by
      rw [ofRecord_of_cells h hrecords]
      cases CellRecord.toCells 0 records <;> simp [Except.map, Except.mapError]
    rw [hfault, CellRecord.toCells_eq_error_iff]
    constructor
    · rintro ⟨before, first, behind, rfl, hbefore, hnone, heq⟩
      cases heq
      exact ⟨before, first, behind, rfl, hbefore, hnone, (Nat.zero_add _).symm, rfl⟩
    · rintro ⟨before, first, behind, heq, hbefore, hnone, rfl, rfl⟩
      cases heq
      exact ⟨before, first, behind, rfl, hbefore, hnone, by rw [Nat.zero_add]⟩

lemma exists_ofRecord_three_iff (h : record.version = 3) :
    (∃ notebook, ofRecord record = .ok notebook) ↔ record.worksheets ≠ none := by
  cases hsheets : record.worksheets <;> simp [ofRecord, h, hsheets]

lemma ofRecord_eq_noWorksheets_iff (h : record.version = 3) :
    ofRecord record = .error (.format .noWorksheets) ↔ record.worksheets = none := by
  cases hsheets : record.worksheets <;> simp [ofRecord, h, hsheets]

/-- The same cells are read from version 3 as from version 4. -/
lemma ofRecord_of_upgraded {new : NotebookRecord} {sheets : List WorksheetRecord}
    {records : List CellRecord} (hthree : record.version = 3)
    (hsheets : record.worksheets = some sheets) (hfour : new.version = 4)
    (hrecords : new.cells = some records)
    (htold : List.Forall₂ CellRecord.Says records
      ((sheets.flatMap WorksheetRecord.cells).map CellRecord.upgraded)) :
    ∃ cells, ofRecord record = .ok ⟨3, record.minorVersion, cells⟩ ∧
      ofRecord new = .ok ⟨4, new.minorVersion, cells⟩ := by
  refine ⟨_, ofRecord_of_sheets hthree hsheets, ?_⟩
  rw [ofRecord_of_cells hfour hrecords, CellRecord.toCells_of_says htold, List.map_map]
  simp only [Function.comp_def, ← CellRecord.upgrade_eq]
  rfl

end Notebook

/-! ### Texts -/

/-- A text has the form of a notebook, with this record in it. -/
def HoldsRecord (text : String) (record : NotebookRecord) : Prop :=
  NotebookRecord.ofDocument (Document.ofText text) = .ok record

instance (text : String) (record : NotebookRecord) : Decidable (HoldsRecord text record) :=
  inferInstanceAs (Decidable (_ = _))

lemma Notebook.ofText_of_holdsRecord {text : String} {record : NotebookRecord}
    (h : HoldsRecord text record) : ofText text = ofRecord record := by
  rw [ofText, ofDocument, h]

/-- A text of version 3 is read as any text of version 4 that says the same. What cannot be read is
told by the form first, then by the version, and then by what is missing. A heading is one line of
the script. -/
theorem ofText_of_version :
    (∀ old new oldRecord newRecord sheets records,
      HoldsRecord old oldRecord → oldRecord.version = 3 → oldRecord.worksheets = some sheets →
      HoldsRecord new newRecord → newRecord.version = 4 → newRecord.cells = some records →
      List.Forall₂ CellRecord.Says records
        ((sheets.flatMap WorksheetRecord.cells).map CellRecord.upgraded) →
      ∃ cells, Notebook.ofText old = .ok ⟨3, oldRecord.minorVersion, cells⟩ ∧
        Notebook.ofText new = .ok ⟨4, newRecord.minorVersion, cells⟩) ∧
    (∀ text, (∃ fault, Notebook.ofText text = .error (.json fault)) ↔
      ¬∃ record, HoldsRecord text record) ∧
    (∀ text record, HoldsRecord text record → record.version = 4 →
      ((∃ notebook, Notebook.ofText text = .ok notebook) ↔
        ∃ records, record.cells = some records ∧ ∀ r ∈ records, r.source ≠ none) ∧
      (Notebook.ofText text = .error (.format .noCells) ↔ record.cells = none) ∧
      ∀ index cellType,
        Notebook.ofText text = .error (.format (.noSource index cellType)) ↔
          ∃ before first behind, record.cells = some (before ++ first :: behind) ∧
            (∀ r ∈ before, r.source ≠ none) ∧ first.source = none ∧
            before.length = index ∧ first.cellType = cellType) ∧
    (∀ text record, HoldsRecord text record → record.version = 3 →
      ((∃ notebook, Notebook.ofText text = .ok notebook) ↔ record.worksheets ≠ none) ∧
      (Notebook.ofText text = .error (.format .noWorksheets) ↔ record.worksheets = none)) ∧
    (∀ text record, HoldsRecord text record → record.version ≠ 3 → record.version ≠ 4 →
      Notebook.ofText text = .error (.unsupportedVersion record.version)) ∧
    (∀ (assembler : Assembler) (heading : CellRecord) (before behind : List Cell),
      '\n' ∉ assembler.mark.toList → heading.cellType = "heading" →
      splitLines (assembler.assemble (before ++ heading.upgrade :: behind)).text.toList =
        (splitLines (assembler.assemble before).text.toList).dropLast ++
          (assembler.mark ++ heading.upgraded.2).toList :: [] ::
            splitLines (assembler.assemble behind).text.toList) := by
  refine ⟨?_, ?_, ?_, ?_, ?_, ?_⟩
  · intro old new oldRecord newRecord sheets records hold hthree hsheets hnew hfour hrecords htold
    rw [Notebook.ofText_of_holdsRecord hold, Notebook.ofText_of_holdsRecord hnew]
    exact Notebook.ofRecord_of_upgraded hthree hsheets hfour hrecords htold
  · intro text
    simp only [Notebook.ofText, Notebook.ofDocument_eq_json_iff, HoldsRecord]
    cases NotebookRecord.ofDocument (Document.ofText text) <;> simp
  · intro text record hholds hfour
    rw [Notebook.ofText_of_holdsRecord hholds]
    exact ⟨Notebook.exists_ofRecord_four_iff hfour, Notebook.ofRecord_eq_noCells_iff hfour,
      fun index cellType => Notebook.ofRecord_eq_noSource_iff hfour⟩
  · intro text record hholds hthree
    rw [Notebook.ofText_of_holdsRecord hholds]
    exact ⟨Notebook.exists_ofRecord_three_iff hthree,
      Notebook.ofRecord_eq_noWorksheets_iff hthree⟩
  · intro text record hholds hthree hfour
    rw [Notebook.ofText_of_holdsRecord hholds, Notebook.ofRecord, if_neg hfour, if_neg hthree]
  · intro assembler heading before behind hmark hheading
    exact splitLines_text_heading hmark hheading before behind

/-- A heading of two lines before code, a cell without a text, and a version that is not read. -/
theorem ofText_of_three_versions :
    let old :=
      "[3, 0, null, [[[[\"heading\", [\"a\\n\", \"b\"], null, 0], [\"code\", null, \"x\"]]]]]"
    let new := "[4, 5, [[\"markdown\", \"# a b\"], [\"code\", [\"x\", \"\"]]]]"
    let heading : CellRecord := ⟨"heading", some (.pieces ["a\n", "b"]), none, some 0⟩
    let code : CellRecord := ⟨"code", none, some (.whole "x"), none⟩
    let records : List CellRecord :=
      [⟨"markdown", some (.whole "# a b"), none, none⟩,
        ⟨"code", some (.pieces ["x", ""]), none, none⟩]
    let assembler : Assembler := ⟨refusingParser, false, "# "⟩
    HoldsRecord old ⟨3, 0, none, some [⟨[heading, code]⟩]⟩ ∧
      HoldsRecord new ⟨4, 5, some records, none⟩ ∧
      List.Forall₂ CellRecord.Says records ([heading, code].map CellRecord.upgraded) ∧
      (∃ cells, Notebook.ofText old = .ok ⟨3, 0, cells⟩ ∧
        Notebook.ofText new = .ok ⟨4, 5, cells⟩) ∧
      Notebook.ofText "[4, 5, [[\"code\", \"x\"], [\"raw\"]]]" =
        .error (.format (.noSource 1 "raw")) ∧
      Notebook.ofText "[2, 0, [[\"code\", \"x\"]]]" = .error (.unsupportedVersion 2) ∧
      ¬(∃ record, HoldsRecord "[2, 0, [[\"code\", 1]]]" record) ∧
      splitLines (assembler.assemble [heading.upgrade]).text.toList =
        ["# # a b".toList, [], []] := by
  intro old new heading code records assembler
  obtain ⟨hload, hform, hfour, -, hother, hheading⟩ := ofText_of_version
  have hold : HoldsRecord old ⟨3, 0, none, some [⟨[heading, code]⟩]⟩ := by decide +kernel
  have hnew : HoldsRecord new ⟨4, 5, some records, none⟩ := by decide +kernel
  have htold : List.Forall₂ CellRecord.Says records ([heading, code].map CellRecord.upgraded) :=
    .cons ⟨by decide +kernel, by decide +kernel⟩
      (.cons ⟨by decide +kernel, by decide +kernel⟩ .nil)
  refine ⟨hold, hnew, htold, ?_, ?_, ?_, ?_, ?_⟩
  · exact hload old new _ _ _ _ hold rfl rfl hnew rfl rfl htold
  · obtain ⟨-, -, hsource⟩ := hfour "[4, 5, [[\"code\", \"x\"], [\"raw\"]]]"
      ⟨4, 5, some [⟨"code", some (.whole "x"), none, none⟩, ⟨"raw", none, none, none⟩], none⟩
      (by decide +kernel) rfl
    exact (hsource 1 "raw").mpr ⟨[_], _, [], rfl, by simp, rfl, rfl, rfl⟩
  · exact hother _ ⟨2, 0, some [⟨"code", some (.whole "x"), none, none⟩], none⟩
      (by decide +kernel) (by decide) (by decide)
  · exact (hform _).mp ⟨⟨.noForm "MultilineText", ⟨1, 19⟩⟩, by decide +kernel⟩
  · exact (hheading assembler heading [] [] (by decide +kernel) rfl).trans (by decide +kernel)

end NotebookExport
