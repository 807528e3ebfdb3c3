import NotebookExport.Conversion
import NotebookExport.Proofs.Files

/-!
# All or nothing

A conversion checks the configuration, loads the notebook, makes the script and writes it. It
succeeds exactly if the configuration makes sense, the notebook loads and the script can be written;
neither cells that cannot be read nor programs that fail can stop it. Every stage passes files on.
All but the last leave them as they are, and the last one changes the script or nothing. The
notebook counts as not found exactly if reading it is what fails, and nothing is found at its path.
-/

namespace NotebookExport

open Text

variable {surroundings : Surroundings} {c : Configuration} {files : FileSystem}
  {input output : String}

/-! ### Stages -/

namespace Stage

variable {α : Type}

/-- The files are left as they were, whatever comes of the stage. -/
def KeepsFiles (stage : Stage α) : Prop := ∀ files, (stage files).2 = files

lemma keepsFiles_check (c : Configuration) : (check c).KeepsFiles := fun _ => rfl

lemma keepsFiles_load (input : String) : (load input).KeepsFiles := fun _ => rfl

lemma write_of_ok {script : String} {after : FileSystem}
    (h : files.writeText output script = .ok after) :
    write output script files = (.ok (), after) := by
  rw [write, h]

lemma write_of_error {script : String} {fault : FileFault}
    (h : files.writeText output script = .error fault) :
    write output script files = (.error (.write output fault), files) := by
  rw [write, h]

lemma write_eq_ok_iff {script : String} :
    (write output script files).1 = .ok () ↔ files.CanWrite output := by
  cases h : files.writeText output script with
  | ok after => simp [write_of_ok h, (FileSystem.write_eq_ok_iff.mp h).1]
  | error fault =>
    have hnot : ¬ files.CanWrite output := by
      intro hcan
      have hok : files.writeText output script = .ok _ := FileSystem.write_eq_ok_iff.mpr ⟨hcan, rfl⟩
      rw [h] at hok
      cases hok
    simp [write_of_error h, hnot]

/-- Writing changes nothing but the file, and nothing at all if it fails. -/
lemma files_write {script : String} :
    (∀ place ≠ FilePath.ofText output, (write output script files).2.get place = files.get place) ∧
      ((write output script files).1 ≠ .ok () → (write output script files).2 = files) := by
  cases h : files.writeText output script with
  | ok after =>
    rw [write_of_ok h]
    exact ⟨fun place hplace => FileSystem.get_of_write h hplace, fun hne => absurd rfl hne⟩
  | error fault =>
    rw [write_of_error h]
    exact ⟨fun place _ => rfl, fun _ => rfl⟩

end Stage

/-- What stops a conversion: the first stage that fails. -/
inductive StopsWith (surroundings : Surroundings) (c : Configuration) (files : FileSystem)
    (input output : String) : ConversionFault → Prop
  | configuration {fault : SettingFault} (hfault : c.fault? = some fault) :
      StopsWith surroundings c files input output (.configuration (.invalid fault))
  | load {fault : LoadFault} (hvalid : c.fault? = none)
      (hload : Notebook.load files input = .error fault) :
      StopsWith surroundings c files input output (.load fault)
  | write {notebook : Notebook} {fault : FileFault} (hvalid : c.fault? = none)
      (hload : Notebook.load files input = .ok notebook)
      (hwrite : files.writeText output (renderCells surroundings c notebook.cells).script =
        .error fault) :
      StopsWith surroundings c files input output (.write output fault)

lemma convert_of_fault {fault : SettingFault} (h : c.fault? = some fault) :
    convert surroundings c files input output =
      ⟨none, none, .error (.configuration (.invalid fault)), files⟩ := by
  simp [convert, Stage.check, Configuration.validate, h, Except.mapError]

lemma convert_of_load_error {fault : LoadFault} (hvalid : c.fault? = none)
    (hload : Notebook.load files input = .error fault) :
    convert surroundings c files input output = ⟨none, none, .error (.load fault), files⟩ := by
  simp [convert, Stage.check, Stage.load, Configuration.validate, hvalid, hload, Except.mapError]

lemma convert_of_load {notebook : Notebook} (hvalid : c.fault? = none)
    (hload : Notebook.load files input = .ok notebook) :
    convert surroundings c files input output =
      let rendered := renderCells surroundings c notebook.cells
      let written := Stage.write output rendered.script files
      ⟨some notebook, some rendered, written.1, written.2⟩ := by
  simp [convert, Stage.check, Stage.load, Configuration.validate, hvalid, hload, Except.mapError]

/-- Only the last stage changes files, and it changes none but the script. -/
theorem files_convert (surroundings : Surroundings) (c : Configuration) (files : FileSystem)
    (input output : String) :
    (∀ place ≠ FilePath.ofText output,
      (convert surroundings c files input output).files.get place = files.get place) ∧
    ((convert surroundings c files input output).result ≠ .ok () →
      (convert surroundings c files input output).files = files) := by
  unfold convert
  rcases hcheck : Stage.check c files with ⟨checked, files'⟩
  obtain rfl : files' = files := by simpa [hcheck] using Stage.keepsFiles_check c files
  rcases checked with fault | c'
  · exact ⟨fun place _ => rfl, fun _ => rfl⟩
  · dsimp only
    rcases hload : Stage.load input files' with ⟨loaded, files⟩
    obtain rfl : files = files' := by simpa [hload] using Stage.keepsFiles_load input files'
    rcases loaded with fault | notebook
    · exact ⟨fun place _ => rfl, fun _ => rfl⟩
    · exact Stage.files_write

/-- A conversion comes to its last stage, or is stopped before it. -/
lemma convert_cases (surroundings : Surroundings) (c : Configuration) (files : FileSystem)
    (input output : String) :
    (∃ notebook, c.fault? = none ∧ Notebook.load files input = .ok notebook) ∨
      ∃ fault, (convert surroundings c files input output).result = .error fault ∧
        StopsWith surroundings c files input output fault := by
  cases hvalid : c.fault? with
  | some fault =>
    rw [convert_of_fault hvalid]
    exact .inr ⟨_, rfl, .configuration hvalid⟩
  | none =>
    cases hload : Notebook.load files input with
    | error fault =>
      rw [convert_of_load_error hvalid hload]
      exact .inr ⟨_, rfl, .load hvalid hload⟩
    | ok notebook => exact .inl ⟨notebook, rfl, rfl⟩

lemma convert_result_eq_ok_iff :
    (convert surroundings c files input output).result = .ok () ↔
      c.fault? = none ∧ (∃ notebook, Notebook.load files input = .ok notebook) ∧
        files.CanWrite output := by
  cases hvalid : c.fault? with
  | some fault => simp [convert_of_fault hvalid]
  | none =>
    cases hload : Notebook.load files input with
    | error fault => simp [convert_of_load_error hvalid hload]
    | ok notebook =>
      rw [convert_of_load hvalid hload]
      simp [Stage.write_eq_ok_iff]

/-- A conversion that fails is stopped by the first stage that fails, and by nothing else. -/
lemma convert_result_eq_error_iff {fault : ConversionFault} :
    (convert surroundings c files input output).result = .error fault ↔
      StopsWith surroundings c files input output fault := by
  constructor
  · intro h
    rcases convert_cases surroundings c files input output with
      ⟨notebook, hvalid, hload⟩ | ⟨fault', hresult, hstop⟩
    · rw [convert_of_load hvalid hload] at h
      cases hwrite :
          files.writeText output (renderCells surroundings c notebook.cells).script with
      | ok after => simp [Stage.write_of_ok hwrite] at h
      | error fault' =>
        simp only [Stage.write_of_error hwrite, Except.error.injEq] at h
        exact h ▸ .write hvalid hload hwrite
    · rw [hresult] at h
      exact Except.error.inj h ▸ hstop
  · rintro (hfault | ⟨hvalid, hload⟩ | ⟨hvalid, hload, hwrite⟩)
    · rw [convert_of_fault hfault]
    · rw [convert_of_load_error hvalid hload]
    · rw [convert_of_load hvalid hload]
      exact congrArg Prod.fst (Stage.write_of_error hwrite)

/-! ### Notebooks that are not found -/

lemma load_eq_fileNotFound_iff {path : String} :
    Notebook.load files input = .error (.fileNotFound path) ↔
      path = input ∧ files.IsMissing input := by
  rw [← FileSystem.read_eq_notFound_iff, Notebook.load, FileSystem.readText]
  cases files.read input with
  | error fault => cases fault <;> simp [eq_comm]
  | ok bytes =>
    cases hdecode : Utf8.decode? bytes with
    | none => simp [hdecode]
    | some text => cases hnotebook : Notebook.ofText text <;> simp [hdecode, hnotebook]

lemma ConversionFault.isFileNotFound_iff {fault : ConversionFault} :
    fault.isFileNotFound ↔ ∃ path, fault = .load (.fileNotFound path) := by
  cases fault with
  | configuration fault => simp [isFileNotFound]
  | load fault => cases fault <;> simp [isFileNotFound]
  | write path fault => simp [isFileNotFound]

/-- The notebook counts as not found if the configuration makes sense and nothing is found at its
path; that nothing is found at the path of the script does not count. -/
lemma convert_isFileNotFound_iff :
    (∃ fault, (convert surroundings c files input output).result = .error fault ∧
        fault.isFileNotFound) ↔ c.fault? = none ∧ files.IsMissing input := by
  simp only [convert_result_eq_error_iff, ConversionFault.isFileNotFound_iff]
  constructor
  · rintro ⟨_, hstop, path, rfl⟩
    obtain _ | ⟨hvalid, hload⟩ := hstop
    exact ⟨hvalid, (load_eq_fileNotFound_iff.mp hload).2⟩
  · rintro ⟨hvalid, hmissing⟩
    exact ⟨_, .load hvalid (load_eq_fileNotFound_iff.mpr ⟨rfl, hmissing⟩), input, rfl⟩

/-! ### The result -/

/-- A conversion is loading, rendering and one write, and it changes the script or nothing. The
notebook counts as not found if the configuration makes sense and nothing is found at its path; as
long as the system does not refuse the path itself, this is to say that nothing stands there. -/
theorem convert_all_or_nothing (surroundings : Surroundings) (c : Configuration)
    (files : FileSystem) (input output : String) :
    let conversion := convert surroundings c files input output
    let notFound := ∃ fault, conversion.result = .error fault ∧ fault.isFileNotFound
    (conversion.result = .ok () ↔ c.fault? = none ∧
      (∃ notebook, Notebook.load files input = .ok notebook) ∧ files.CanWrite output) ∧
    (conversion.result = .ok () →
      ∃ notebook, Notebook.load files input = .ok notebook ∧
        let rendered := renderCells surroundings c notebook.cells
        conversion.notebook = some notebook ∧ conversion.rendered = some rendered ∧
        conversion.files.read output = .ok (Utf8.encode rendered.script) ∧
        ∀ place ≠ FilePath.ofText output, conversion.files.get place = files.get place) ∧
    (∀ fault, conversion.result = .error fault ↔
      StopsWith surroundings c files input output fault) ∧
    (∀ fault, conversion.result = .error fault → conversion.files = files) ∧
    (notFound ↔ c.fault? = none ∧ files.IsMissing input) ∧
    (¬ files.Refuses input → (notFound ↔ c.fault? = none ∧ files.find input = none)) := by
  intro conversion notFound
  obtain ⟨hplaces, hfailed⟩ := files_convert surroundings c files input output
  refine ⟨convert_result_eq_ok_iff, ?_, fun fault => convert_result_eq_error_iff, ?_,
    convert_isFileNotFound_iff, fun hpath => ?_⟩
  · intro hresult
    obtain ⟨hvalid, ⟨notebook, hload⟩, hcan⟩ := convert_result_eq_ok_iff.mp hresult
    obtain ⟨after, hwrite⟩ := FileSystem.exists_writeText hcan
      (renderCells surroundings c notebook.cells).script
    have hconversion : conversion = _ := convert_of_load hvalid hload
    have hfiles : conversion.files = after := by
      simp only [hconversion, Stage.write_of_ok hwrite]
    refine ⟨notebook, hload, ?_, ?_, ?_, hplaces⟩
    · rw [hconversion]
    · rw [hconversion]
    · rw [hfiles]
      exact FileSystem.read_of_write hwrite
  · intro fault hresult
    refine hfailed ?_
    intro hok
    cases hresult.symm.trans hok
  · rw [← FileSystem.isMissing_iff_find_eq_none hpath]
    exact convert_isFileNotFound_iff

/-- A notebook made a script in place of an older one, a notebook that is missing, and a script that
would stand in a directory that is missing. -/
theorem convert_three_times :
    let surroundings : Surroundings :=
      ⟨fun _ => .error ⟨1, 1, .unexpected ""⟩, fun _ _ => .notFound⟩
    let files := FileSystem.ofTexts
      [("nb.ipynb", "[4,5,[[\"markdown\",\"hi\"]]]"), ("out.py", "old")]
    let written := convert surroundings .standard files "nb.ipynb" "out.py"
    let missing := convert surroundings .standard files "gone.ipynb" "out.py"
    let refused := convert surroundings .standard files "nb.ipynb" "lost/out.py"
    written.result = .ok () ∧ written.files.read "out.py" = .ok (Utf8.encode "# hi\n\n") ∧
    written.files.get ["nb.ipynb"] = files.get ["nb.ipynb"] ∧
    (∃ fault, missing.result = .error fault ∧ fault.isFileNotFound) ∧
    missing.files = files ∧
    refused.result = .error (.write "lost/out.py" .notFound) ∧
    refused.files = files := by
  intro surroundings files written missing refused
  have hload : Notebook.load files "nb.ipynb" = .ok ⟨4, 5, [⟨.markdown, "hi"⟩]⟩ := by
    decide +kernel
  have hcan : files.CanWrite "out.py" := by
    have hfault : files.pathFault "out.py" = none := by decide +kernel
    obtain ⟨hpath, hne, hleads⟩ := FileSystem.pathFault_eq_none_iff.mp hfault
    exact ⟨hpath, hne, hleads, by decide +kernel, by decide +kernel⟩
  have hgone : files.read "gone.ipynb" = .error .notFound := by decide +kernel
  have hpath : ¬ files.Refuses "gone.ipynb" := by simp [FileSystem.Refuses, hgone]
  obtain ⟨hok, hafter, -⟩ := convert_all_or_nothing surroundings .standard files "nb.ipynb" "out.py"
  obtain ⟨-, -, -, hmissing, -, hnotFound⟩ :=
    convert_all_or_nothing surroundings .standard files "gone.ipynb" "out.py"
  obtain ⟨-, -, hstopped, hrefused, -⟩ :=
    convert_all_or_nothing surroundings .standard files "nb.ipynb" "lost/out.py"
  have hlost : refused.result = .error (.write "lost/out.py" .notFound) := by
    have hfault : files.pathFault "lost/out.py" = some .notFound := by decide +kernel
    refine (hstopped _).mpr (.write rfl hload ?_)
    rw [FileSystem.writeText, FileSystem.write, hfault]
  have hresult : written.result = .ok () := hok.mpr ⟨rfl, ⟨_, hload⟩, hcan⟩
  obtain ⟨notebook, hnotebook, -, -, hread, hsame⟩ := hafter hresult
  obtain ⟨fault, hfault, hmissed⟩ :=
    (hnotFound hpath).mpr ⟨rfl, (FileSystem.read_eq_notFound_iff.mp hgone).find_eq_none⟩
  obtain rfl : notebook = ⟨4, 5, [⟨.markdown, "hi"⟩]⟩ := by
    rw [hload] at hnotebook
    exact (Except.ok.inj hnotebook).symm
  exact ⟨hresult, hread.trans (by decide +kernel), hsame _ (by decide +kernel),
    ⟨fault, hfault, hmissed⟩, hmissing fault hfault, hlost, hrefused _ hlost⟩

/-- Nothing stands behind a file, but a notebook there does not count as not found. -/
theorem behind_file_not_missing :
    let surroundings : Surroundings :=
      ⟨fun _ => .error ⟨1, 1, .unexpected ""⟩, fun _ _ => .notFound⟩
    let files := FileSystem.ofTexts [("nb.ipynb", "")]
    let conversion := convert surroundings .standard files "nb.ipynb/x" "out.py"
    conversion.result = .error (.load (.unreadable .notDirectory)) ∧
      ¬((∃ fault, conversion.result = .error fault ∧ fault.isFileNotFound) ↔
        files.find "nb.ipynb/x" = none ∧ Configuration.standard.fault? = none) := by
  intro surroundings files conversion
  have hload : Notebook.load files "nb.ipynb/x" = .error (.unreadable .notDirectory) := by
    decide +kernel
  have hresult : conversion.result = .error (.load (.unreadable .notDirectory)) :=
    convert_result_eq_error_iff.mpr (.load rfl hload)
  refine ⟨hresult, fun hiff => ?_⟩
  obtain ⟨fault, hfault, hmissed⟩ := hiff.mpr ⟨by decide +kernel, rfl⟩
  rw [hresult] at hfault
  cases hfault
  exact absurd hmissed (by decide)

end NotebookExport
