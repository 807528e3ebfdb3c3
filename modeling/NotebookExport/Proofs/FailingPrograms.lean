import NotebookExport.Conversion
import NotebookExport.Proofs.Utf8

/-!
# Programs that fail

Formatting by a program comes to one of three ends, and what the program did tells which. Its text
is taken only if it ran, succeeded and left text behind. If there is no such program, then blank
lines are put around definitions, as if no program had been asked for. In every other case the text
stays as it was, be it the program or the scratch file that failed: that a file is not found is not
taken for a program that is not found.
-/

namespace NotebookExport

open Text

variable {programs : Programs} {command : Invocation} {markers : List String} {source : String}

/-- A program ran, succeeded, and left a text behind. -/
def ProgramRun.Leaves (run : ProgramRun) (text : String) : Prop :=
  ∃ errors, run = .ended (.status 0) errors (.ok (Utf8.encode text))

lemma runFormatter_eq_ok_iff {text : String} :
    runFormatter programs command source = .ok text ↔ (programs command source).Leaves text := by
  unfold runFormatter ProgramRun.Leaves
  cases programs command source with
  | unwritten fault => simp
  | notFound => simp
  | notStarted fault => simp
  | ended ending errors file =>
    by_cases hsuccess : ending = .status 0
    · cases file with
      | error fault => simp [Ending.isSuccess, hsuccess]
      | ok bytes =>
        simp only [Ending.isSuccess, hsuccess, decide_true, if_true, ProgramRun.ended.injEq,
          Except.ok.injEq, true_and, exists_and_right, exists_eq', ← Utf8.decode?_eq_some_iff]
        cases Utf8.decode? bytes <;> simp
    · simp [Ending.isSuccess, hsuccess]

/-- Only a program that is not there counts as missing. -/
lemma runFormatter_eq_toolMissing_iff :
    (∃ program, runFormatter programs command source = .error (.toolMissing program)) ↔
      programs command source = .notFound := by
  unfold runFormatter
  cases programs command source with
  | unwritten fault => simp
  | notFound => simp
  | notStarted fault => simp
  | ended ending errors file =>
    cases hsuccess : ending.isSuccess with
    | false => simp [hsuccess]
    | true =>
      cases file with
      | error fault => simp [hsuccess]
      | ok bytes => cases hdecode : Utf8.decode? bytes <;> simp [hsuccess, hdecode]

/-! ### Results -/

lemma formatByProgram_eq_formatted_iff {text : String} :
    formatByProgram programs command markers source =
        ⟨text, [.formattedBy command.program], some command.program⟩ ↔
      (programs command source).Leaves text := by
  rw [← runFormatter_eq_ok_iff, formatByProgram]
  split
  case h_1 code hrun => simp [hrun]
  case h_2 program hrun => simp [hrun, addBlankLines]
  case h_3 fault _ hrun => simp [hrun]

lemma formatByProgram_eq_addBlankLines_iff :
    formatByProgram programs command markers source = addBlankLines markers source ↔
      programs command source = .notFound := by
  rw [← runFormatter_eq_toolMissing_iff, formatByProgram]
  split
  case h_1 code hrun => simp [hrun, addBlankLines]
  case h_2 program hrun => simp [hrun]
  case h_3 fault hfault hrun => simpa [hrun, addBlankLines] using hfault

lemma exists_formatByProgram_eq_failed_iff :
    (∃ reason, formatByProgram programs command markers source =
        ⟨source, [.failed command.program reason], some command.program⟩) ↔
      programs command source ≠ .notFound ∧ ¬∃ text, (programs command source).Leaves text := by
  simp only [ne_eq, ← runFormatter_eq_toolMissing_iff, ← runFormatter_eq_ok_iff, formatByProgram]
  split
  case h_1 code hrun => simp [hrun]
  case h_2 program hrun => simp [hrun, addBlankLines]
  case h_3 fault hfault hrun => simpa [hrun] using hfault

/-- What formatting by a program returns is told by what the program did; and a script whose program
is missing is the one that is made without a program. -/
theorem format_of_run (surroundings : Surroundings) :
    (∀ command markers source,
      let run := surroundings.programs command source
      let result := Formatter.format surroundings.programs (.external command markers) source
      (∀ text, result = ⟨text, [.formattedBy command.program], some command.program⟩ ↔
        ∃ errors, run = .ended (.status 0) errors (.ok (Utf8.encode text))) ∧
      (result = addBlankLines markers source ↔ run = .notFound) ∧
      ((∃ reason, result =
          ⟨source, [.failed command.program reason], some command.program⟩) ↔
        run ≠ .notFound ∧
          ¬∃ text errors, run = .ended (.status 0) errors (.ok (Utf8.encode text)))) ∧
    ∀ (c : Configuration) (cells : List Cell),
      surroundings.programs c.command
          ((c.assembler surroundings.parser).assemble cells).text = .notFound →
        renderCells surroundings c cells =
            renderCells surroundings { c with formatsExternally := false } cells ∧
          (renderCells surroundings c cells).formatted.tool = none := by
  refine ⟨fun command markers source => ⟨fun text => formatByProgram_eq_formatted_iff,
    formatByProgram_eq_addBlankLines_iff, exists_formatByProgram_eq_failed_iff⟩, ?_⟩
  intro c cells hmissing
  have hformat : c.formatter.format surroundings.programs
      ((c.assembler surroundings.parser).assemble cells).text =
        addBlankLines c.markers ((c.assembler surroundings.parser).assemble cells).text := by
    unfold Configuration.formatter
    split
    · exact formatByProgram_eq_addBlankLines_iff.mpr hmissing
    · rfl
  have hrender : renderCells surroundings c cells =
      renderCells surroundings { c with formatsExternally := false } cells :=
    congrArg (Rendered.mk _) hformat
  exact ⟨hrender, by rw [hrender]; rfl⟩

/-- A program that is missing, one whose scratch file is not found, and one that leaves a text. -/
theorem format_of_three_programs :
    let programs : Programs := fun command _ =>
      if command.program = "black" then .notFound
      else if command.program = "lost" then .unwritten .notFound
      else .ended (.status 0) [] (.ok [0xC3, 0xA9])
    let surroundings : Surroundings := ⟨fun _ => .error ⟨1, 1, .unexpected ""⟩, programs⟩
    let c : Configuration := {}
    let cells : List Cell := [⟨.code, "x\ndef f"⟩]
    programs c.command ((c.assembler surroundings.parser).assemble cells).text = .notFound ∧
      (renderCells surroundings c cells).script = "x\n\ndef f\n\n\n" ∧
      (renderCells surroundings c cells).formatted.tool = none ∧
      (∃ reason, Formatter.format programs (.external ⟨"lost", []⟩ c.markers) "e" =
        ⟨"e", [.failed "lost" reason], some "lost"⟩) ∧
      Formatter.format programs (.external ⟨"clean", []⟩ c.markers) "e" =
        ⟨"é", [.formattedBy "clean"], some "clean"⟩ := by
  intro programs surroundings c cells
  obtain ⟨hformat, hrender⟩ := format_of_run surroundings
  obtain ⟨hscript, htool⟩ := hrender c cells rfl
  obtain ⟨-, -, hfailed⟩ := hformat ⟨"lost", []⟩ c.markers "e"
  obtain ⟨hformatted, -, -⟩ := hformat ⟨"clean", []⟩ c.markers "e"
  refine ⟨rfl, ?_, htool, hfailed.mpr ⟨?_, ?_⟩, (hformatted "é").mpr ⟨[], ?_⟩⟩
  · rw [hscript]
    decide
  · simp [surroundings, programs]
  · simp [surroundings, programs]
  · rfl

end NotebookExport
