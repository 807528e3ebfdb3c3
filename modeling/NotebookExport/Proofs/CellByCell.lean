import NotebookExport.Conversion
import NotebookExport.Proofs.BlankLines

/-!
# Cells one by one

A notebook is converted cell by cell. What becomes of a cell depends on no other cell, and what a
cell leaves in the script ends with an empty line, behind which definitions are spaced out as at the
beginning of a text. So the script of two notebooks in a row is the one script behind the other, the
changes to the second have their lines counted on from the first, and the report is that of both,
with the places of skipped cells counted on.
-/

namespace NotebookExport

/-! ### Assembled texts -/

lemma CellOutcome.endsBlank_text (outcome : CellOutcome) : EndsBlank outcome.text := by
  cases outcome with
  | ignored type => exact .inl rfl
  | _ => exact .inr ⟨_, rfl⟩

lemma EndsBlank.append {first second : String} (hfirst : EndsBlank first)
    (hsecond : EndsBlank second) : EndsBlank (first ++ second) := by
  rcases hsecond with rfl | ⟨before, rfl⟩
  · simpa using hfirst
  · exact .inr ⟨first ++ before, String.append_assoc.symm⟩

namespace Assembly

variable {first second : List CellOutcome}

lemma text_append : text ⟨first ++ second⟩ = text ⟨first⟩ ++ text ⟨second⟩ := by
  simp [text, String.join_append]

lemma text_cons (outcome : CellOutcome) (outcomes : List CellOutcome) :
    text ⟨outcome :: outcomes⟩ = outcome.text ++ text ⟨outcomes⟩ := by
  simp [text, String.join_cons]

/-- Every assembled text ends with an empty line, unless it is empty. -/
lemma endsBlank_text (outcomes : List CellOutcome) : EndsBlank (text ⟨outcomes⟩) := by
  induction outcomes with
  | nil => exact .inl (by simp [text, String.join_nil])
  | cons outcome outcomes ih =>
    rw [text_cons]
    exact outcome.endsBlank_text.append ih

end Assembly

/-! ### Reports -/

/-- A skipped cell as it is counted in a notebook with more cells before it. -/
def SkippedCell.later (cells : Nat) (skipped : SkippedCell) : SkippedCell :=
  { skipped with index := skipped.index + cells }

/-- The report on a notebook with some number of cells, and on another one behind it. -/
def AssemblyReport.followedBy (first : AssemblyReport) (cells : Nat) (second : AssemblyReport) :
    AssemblyReport where
  codeCells := first.codeCells + second.codeCells
  markdownCells := first.markdownCells + second.markdownCells
  ignoredCells := first.ignoredCells + second.ignoredCells
  prunedCells := first.prunedCells + second.prunedCells
  removed := first.removed ++ second.removed
  skipped := first.skipped ++ second.skipped.map (SkippedCell.later cells)

namespace Assembly

variable {first second : List CellOutcome}

lemma skippedFrom_add (index cells : Nat) (outcomes : List CellOutcome) :
    skippedFrom (index + cells) outcomes =
      (skippedFrom index outcomes).map (SkippedCell.later cells) := by
  induction outcomes generalizing index with
  | nil => rfl
  | cons outcome outcomes ih =>
    have hnext : index + cells + 1 = index + 1 + cells := by omega
    simp [skippedFrom, hnext, ih, SkippedCell.later, Function.comp_def]

lemma skippedFrom_append (index : Nat) (first second : List CellOutcome) :
    skippedFrom index (first ++ second) =
      skippedFrom index first ++ skippedFrom (index + first.length) second := by
  induction first generalizing index with
  | nil => rfl
  | cons outcome outcomes ih =>
    have hnext : index + 1 + outcomes.length = index + (outcomes.length + 1) := by omega
    simp only [List.cons_append, skippedFrom, List.length_cons, ih, hnext, List.append_assoc]

lemma report_append :
    report ⟨first ++ second⟩ = (report ⟨first⟩).followedBy first.length (report ⟨second⟩) := by
  have hskipped := skippedFrom_append 0 first second
  rw [skippedFrom_add] at hskipped
  simp [report, AssemblyReport.followedBy, List.countP_append, hskipped]

end Assembly

/-! ### Scripts -/

/-- Without a program, blank lines are put around definitions. -/
lemma Configuration.formatter_of_minimal {c : Configuration}
    (hminimal : c.formatsExternally = false) : c.formatter = .minimal c.markers := by
  simp [formatter, hminimal]

/-- The conversion of two notebooks in a row is that of the first and that of the second. -/
theorem renderCells_append (surroundings : Surroundings) {c : Configuration}
    (hminimal : c.formatsExternally = false) (hmarkers : "" ∉ c.markers)
    (first second : List Cell) :
    let before := renderCells surroundings c first
    let behind := renderCells surroundings c second
    let whole := renderCells surroundings c (first ++ second)
    whole.script = before.script ++ behind.script ∧
      whole.formatted.changes = before.formatted.changes ++
        behind.formatted.changes.map
          (FormatChange.later (before.assembly.text.toList.count '\n')) ∧
      whole.report = before.report.followedBy first.length behind.report := by
  simp only [renderCells, Rendered.script, Rendered.report, Assembler.assemble, List.map_append,
    Assembly.text_append, Assembly.report_append, List.length_map,
    Configuration.formatter_of_minimal hminimal, Formatter.format]
  obtain ⟨hcode, hchanges⟩ := addBlankLines_append hmarkers (Assembly.endsBlank_text
    (first.map (c.assembler surroundings.parser).outcome))
    (Assembly.text ⟨second.map (c.assembler surroundings.parser).outcome⟩)
  exact ⟨hcode, hchanges, trivial⟩

/-- Reads no text at all. -/
def refusingParser : Parser := fun _ => .error ⟨1, 1, .unexpected ""⟩

/-- Two cells that cannot be read, each with a definition. -/
theorem renderCells_append_definitions :
    let surroundings : Surroundings := ⟨refusingParser, fun _ _ => .notFound⟩
    let c : Configuration := { formatsExternally := false }
    let whole := renderCells surroundings c ([⟨.code, "x\ndef f"⟩] ++ [⟨.code, "def g"⟩])
    c.formatsExternally = false ∧ "" ∉ c.markers ∧
      whole.script = "x\n\ndef f\n\n\n" ++ "def g\n\n\n" ∧
      whole.formatted.changes = [.blankLineBefore 2, .blankLineAfter 2, .blankLineAfter 4] ∧
      whole.report.skipped.map SkippedCell.index = [0, 1] := by
  intro surroundings c whole
  have hmarkers : "" ∉ c.markers := by decide
  obtain ⟨hscript, hchanges, hreport⟩ :=
    renderCells_append surroundings (c := c) rfl hmarkers [⟨.code, "x\ndef f"⟩] [⟨.code, "def g"⟩]
  refine ⟨rfl, hmarkers, ?_, ?_, ?_⟩
  · rw [hscript]
    decide
  · rw [hchanges]
    decide
  · rw [hreport]
    decide

end NotebookExport
