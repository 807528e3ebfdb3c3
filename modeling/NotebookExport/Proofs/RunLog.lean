import NotebookExport.CommandLine
import NotebookExport.Proofs.Accounting
import NotebookExport.Proofs.AllOrNothing
import NotebookExport.Proofs.FailingPrograms
import NotebookExport.Proofs.Switches

/-!
# What a run of the command tells

The log of a run is told stage by stage, while the exit code, the script and the report are made
apart from it. They agree: a run succeeds exactly if it tells of no error, and a run that fails
tells of what stopped it at the very end, whatever level is shown. In between, each cell that is
skipped or cannot be read again and a program that fails are warned of, cells first, and the changes
to the script are listed as they were made.
-/

namespace NotebookExport

/-! ### Events by level -/

/-- The messages of a level, in order. -/
def messagesAt (level : LogLevel) (events : List LogEvent) : List String :=
  (events.filter fun event => event.level = level).map LogEvent.message

section Levels

variable {level limit : LogLevel} {events later : List LogEvent}

@[simp] lemma messagesAt_nil : messagesAt level [] = [] := rfl

@[simp] lemma messagesAt_cons (event : LogEvent) :
    messagesAt level (event :: events) =
      if event.level = level then event.message :: messagesAt level events
      else messagesAt level events := by
  by_cases h : event.level = level <;> simp [messagesAt, h]

@[simp] lemma messagesAt_append :
    messagesAt level (events ++ later) = messagesAt level events ++ messagesAt level later := by
  simp [messagesAt]

lemma messagesAt_shownUpTo (h : level.isShownUpTo limit) :
    messagesAt level (shownUpTo limit events) = messagesAt level events := by
  simp only [messagesAt, shownUpTo, List.filter_filter]
  congr 1
  refine List.filter_congr fun event _ => ?_
  by_cases hlevel : event.level = level <;> simp [hlevel, h]

/-- What is not quiet shows all that matters as much as information does. -/
lemma Options.isShownUpTo_logLevel (o : Options) (hlevel : level.rank ≤ LogLevel.info.rank)
    (h : o.isQuiet = false) : level.isShownUpTo o.logLevel := by
  simp only [LogLevel.isShownUpTo, decide_eq_true_eq, Options.logLevel, h]
  refine hlevel.trans ?_
  simp only [Bool.false_eq_true, if_false]
  split <;> decide

lemma messagesAt_eq_nil_of_forall (h : ∀ event ∈ events, event.level ≠ level) :
    messagesAt level events = [] := by
  simpa [messagesAt] using h

lemma messagesAt_map_mk (messages : List String) :
    messagesAt level (messages.map (LogEvent.mk level)) = messages := by
  induction messages with
  | nil => rfl
  | cons message messages ih => simp [ih]

end Levels

/-! ### Stages -/

namespace CellOutcome

/-- Why the result of pruning the cell could not be read again. -/
def rereadFault? : CellOutcome → Option Python.SyntaxFault
  | .pruned result => result.fault
  | _ => none

/-- What is warned of the cell. -/
def warnings (outcome : CellOutcome) : List String :=
  (outcome.fault?.toList.map fun fault =>
    "Syntax error, skipping variable removal: " ++ fault.message) ++
  outcome.rereadFault?.toList.map fun fault =>
    "Re-parse of pruned cell failed, keeping last result: " ++ fault.message

lemma messagesAt_warning_events (index : Nat) (outcome : CellOutcome) :
    messagesAt .warning (outcome.events index) = outcome.warnings := by
  cases outcome with
  | pruned result =>
    have hpasses (passes : List (List String)) : messagesAt .warning (passes.map fun removed =>
        ⟨.debug, "Follow-up pass removed " ++ Text.quoteAll removed⟩) = [] :=
      messagesAt_eq_nil_of_forall (by simp)
    have hresult : messagesAt .warning result.events = (pruned result).warnings := by
      rw [Pruned.events, messagesAt_append, hpasses]
      cases hfault : result.fault <;> simp [warnings, fault?, rereadFault?, hfault]
    simp only [events]
    split_ifs <;> simp [hresult]
  | _ => simp [events, warnings, fault?, rereadFault?]

lemma level_of_mem_events {index : Nat} {outcome : CellOutcome} {event : LogEvent}
    (h : event ∈ outcome.events index) : event.level = .debug ∨ event.level = .warning := by
  cases outcome with
  | pruned result =>
    have hresult : ∀ event ∈ result.events, event.level = .debug ∨ event.level = .warning := by
      simp only [Pruned.events, List.mem_append, List.mem_map]
      rintro event (⟨removed, -, rfl⟩ | ⟨fault, -, rfl⟩) <;> simp
    simp only [events] at h
    split_ifs at h
    · rcases List.mem_append.mp h with h | h
      · exact hresult event h
      · obtain rfl := List.mem_singleton.mp h
        exact .inl rfl
    · exact hresult event h
  | unreadable source fault =>
    obtain rfl := List.mem_singleton.mp h
    exact .inr rfl
  | ignored type =>
    obtain rfl := List.mem_singleton.mp h
    exact .inl rfl
  | kept source => simp [events] at h
  | comment text => simp [events] at h

end CellOutcome

namespace Assembly

lemma messagesAt_warning_eventsFrom (index : Nat) (outcomes : List CellOutcome) :
    messagesAt .warning (eventsFrom index outcomes) = outcomes.flatMap CellOutcome.warnings := by
  induction outcomes generalizing index with
  | nil => rfl
  | cons outcome outcomes ih =>
    rw [eventsFrom, messagesAt_append, outcome.messagesAt_warning_events, ih, List.flatMap_cons]

lemma level_of_mem_eventsFrom {index : Nat} {outcomes : List CellOutcome} {event : LogEvent}
    (h : event ∈ eventsFrom index outcomes) : event.level = .debug ∨ event.level = .warning := by
  induction outcomes generalizing index with
  | nil => simp [eventsFrom] at h
  | cons outcome outcomes ih =>
    rcases List.mem_append.mp h with h | h
    · exact CellOutcome.level_of_mem_events h
    · exact ih h

/-- A cell that is skipped has one warning, and so has a cell that cannot be read again. -/
lemma length_warnings (outcomes : List CellOutcome) :
    (outcomes.flatMap CellOutcome.warnings).length = (skippedFrom 0 outcomes).length +
      outcomes.countP fun outcome => outcome.rereadFault?.isSome := by
  rw [length_skippedFrom]
  induction outcomes with
  | nil => rfl
  | cons outcome outcomes ih =>
    have hown : outcome.warnings.length =
        (if outcome.fault?.isSome then 1 else 0) +
          if outcome.rereadFault?.isSome then 1 else 0 := by
      rw [CellOutcome.warnings, List.length_append]
      cases outcome.fault? <;> cases outcome.rereadFault? <;> rfl
    rw [List.flatMap_cons, List.length_append, ih, hown, List.countP_cons, List.countP_cons]
    omega

end Assembly

namespace Formatter

variable {programs : Programs} {source : String}

/-- What is warned of while a text is formatted. -/
def warnings (programs : Programs) (source : String) : Formatter → List String
  | .minimal _ => []
  | .external command _ =>
    match runFormatter programs command source with
    | .ok _ => []
    | .error (.toolMissing program) => [program ++ " not found. Using basic formatter."]
    | .error fault => [command.program ++ " formatting failed: " ++ fault.message]

/-- Warnings come behind all else that is told while a text is formatted. -/
lemma exists_events_eq (formatter : Formatter) (programs : Programs) (source : String) :
    ∃ running : List LogEvent, (∀ event ∈ running, event.level = .debug) ∧
      formatter.events programs source =
        running ++ (formatter.warnings programs source).map (LogEvent.mk .warning) := by
  cases formatter with
  | minimal markers => exact ⟨[], by simp, rfl⟩
  | external command markers =>
    simp only [events, warnings]
    cases runFormatter programs command source with
    | ok text =>
      refine ⟨_, ?_, (List.append_nil _).symm⟩
      dsimp only
      split <;> simp
    | error fault =>
      cases fault
      all_goals
        refine ⟨_, ?_, rfl⟩
        split <;> simp

lemma messagesAt_warning_events (formatter : Formatter) :
    messagesAt .warning (formatter.events programs source) =
      formatter.warnings programs source := by
  obtain ⟨running, hrunning, hevents⟩ := formatter.exists_events_eq programs source
  have hnone : messagesAt .warning running = [] :=
    messagesAt_eq_nil_of_forall fun event hmem => by simp [hrunning event hmem]
  rw [hevents, messagesAt_append, hnone, messagesAt_map_mk, List.nil_append]

lemma level_of_mem_events {formatter : Formatter} {event : LogEvent}
    (h : event ∈ formatter.events programs source) :
    event.level = .debug ∨ event.level = .warning := by
  obtain ⟨running, hrunning, hevents⟩ := formatter.exists_events_eq programs source
  rw [hevents] at h
  rcases List.mem_append.mp h with h | h
  · exact .inl (hrunning event h)
  · obtain ⟨message, -, rfl⟩ := List.mem_map.mp h
    exact .inr rfl

lemma length_warnings_le (formatter : Formatter) :
    (formatter.warnings programs source).length ≤ 1 := by
  cases formatter with
  | minimal markers => simp [warnings]
  | external command markers =>
    simp only [warnings]
    split <;> simp

/-- Nothing is warned of if a program that was to format the text left one behind. -/
lemma warnings_eq_nil_iff (c : Configuration) :
    c.formatter.warnings programs source = [] ↔
      (c.formatsExternally → ∃ text, (programs c.command source).Leaves text) := by
  simp only [← runFormatter_eq_ok_iff, Configuration.formatter]
  by_cases hexternal : c.formatsExternally
  · simp only [hexternal, if_true, warnings, true_implies]
    split
    case h_1 text hrun => simp [hrun]
    case h_2 program hrun => simp [hrun]
    case h_3 fault _ hrun => simp [hrun]
  · simp [hexternal, warnings]

end Formatter

/-- What is told first of the changes to the script made of a notebook. -/
def Formatted.header (input : String) (f : Formatted) : String :=
  "Formatting changes applied to: " ++ input ++
    match f.tool with
    | some tool => " (using " ++ tool ++ ")"
    | none => ""

/-- What is told of the changes to a script, in words. -/
def Formatted.lines (input : String) (f : Formatted) : List String :=
  if f.changes = [] then []
  else f.header input :: f.changes.map fun change => "  " ++ change.message

lemma Formatted.events_eq (input : String) (f : Formatted) :
    f.events input = (f.lines input).map (LogEvent.mk .info) := by
  simp only [Formatted.events, Formatted.lines, List.isEmpty_iff]
  split_ifs with hchanges
  · rfl
  · have htail : (f.changes.map fun change => (⟨.info, "  " ++ change.message⟩ : LogEvent)) =
      f.changes.map (LogEvent.mk .info ∘ fun change => "  " ++ change.message) := rfl
    rw [List.map_cons, List.map_map, htail]
    rfl

/-! ### Conversions -/

section Conversions

variable {surroundings : Surroundings} {c : Configuration} {notebook : Notebook} {input : String}

/-- What is told of a notebook that is made a script, up to the writing. -/
def eventsOf (surroundings : Surroundings) (c : Configuration) (input : String)
    (notebook : Notebook) : List LogEvent :=
  let rendered := renderCells surroundings c notebook.cells
  notebook.events input ++ (rendered.events surroundings c ++ rendered.formatted.events input)

lemma level_of_mem_notebook_events {event : LogEvent} (h : event ∈ notebook.events input) :
    event.level = .debug := by
  simp only [Notebook.events, List.mem_cons, List.not_mem_nil, or_false] at h
  rcases h with rfl | rfl | rfl <;> rfl

lemma level_of_mem_rendered_events {rendered : Rendered} {event : LogEvent}
    (h : event ∈ rendered.events surroundings c) :
    event.level = .debug ∨ event.level = .warning := by
  rcases List.mem_append.mp h with h | h
  · exact Assembly.level_of_mem_eventsFrom h
  · rcases List.mem_cons.mp h with rfl | h
    · exact .inl rfl
    · exact Formatter.level_of_mem_events h

lemma level_of_mem_formatted_events {f : Formatted} {event : LogEvent}
    (h : event ∈ f.events input) : event.level = .info := by
  rw [Formatted.events_eq] at h
  obtain ⟨line, -, rfl⟩ := List.mem_map.mp h
  rfl

lemma level_of_mem_eventsOf {event : LogEvent}
    (h : event ∈ eventsOf surroundings c input notebook) : event.level ≠ .error := by
  rcases List.mem_append.mp h with h | h
  · simp [level_of_mem_notebook_events h]
  · rcases List.mem_append.mp h with h | h
    · rcases level_of_mem_rendered_events h with h | h <;> simp [h]
    · simp [level_of_mem_formatted_events h]

lemma messagesAt_info_eventsOf :
    messagesAt .info (eventsOf surroundings c input notebook) =
      (renderCells surroundings c notebook.cells).formatted.lines input := by
  have hnotebook : messagesAt .info (notebook.events input) = [] :=
    messagesAt_eq_nil_of_forall fun event h => by simp [level_of_mem_notebook_events h]
  have hrendered : messagesAt .info
      ((renderCells surroundings c notebook.cells).events surroundings c) = [] :=
    messagesAt_eq_nil_of_forall fun event h => by
      rcases level_of_mem_rendered_events h with h | h <;> simp [h]
  simp only [eventsOf, messagesAt_append, hnotebook, hrendered, List.nil_append,
    Formatted.events_eq, messagesAt_map_mk]

lemma messagesAt_warning_eventsOf :
    messagesAt .warning (eventsOf surroundings c input notebook) =
      (renderCells surroundings c notebook.cells).assembly.outcomes.flatMap CellOutcome.warnings ++
        c.formatter.warnings surroundings.programs
          (renderCells surroundings c notebook.cells).assembly.text := by
  have hnotebook : messagesAt .warning (notebook.events input) = [] :=
    messagesAt_eq_nil_of_forall fun event h => by simp [level_of_mem_notebook_events h]
  have hformatted : messagesAt .warning
      ((renderCells surroundings c notebook.cells).formatted.events input) = [] :=
    messagesAt_eq_nil_of_forall fun event h => by simp [level_of_mem_formatted_events h]
  simp only [eventsOf, messagesAt_append, hnotebook, hformatted, List.nil_append, List.append_nil,
    Rendered.events, Assembly.events, Assembly.messagesAt_warning_eventsFrom, messagesAt_cons,
    reduceCtorEq, if_false, Formatter.messagesAt_warning_events]

end Conversions

/-! ### Configurations with switches -/

namespace Configuration

variable {c c' : Configuration} {files : FileSystem}

lemma fault?_of_validate (h : c.validate = .ok c') : c'.fault? = none := by
  unfold validate at h
  split at h
  · cases h
  · cases h
    assumption

lemma fault?_of_load {path : String} (h : load files path = .ok c) : c.fault? = none := by
  unfold load ofText ofRecord at h
  split at h
  · cases h
  · split at h
    · cases h
    · split at h
      · cases h
      · split at h
        · exact fault?_of_validate h
        · cases h

end Configuration

namespace Command

variable {surroundings : Surroundings} {files : FileSystem} {texts : List String}
  {input output : String} {options : Options} {c : Configuration} {notebook : Notebook}

/-- The configuration in a file, or the standard one. -/
def chosen (files : FileSystem) : Option String → Except ConfigurationFault Configuration
  | some path => Configuration.load files path
  | none => .ok .standard

lemma configuration_eq_map_adjust :
    configuration files options = (chosen files options.configuration).map options.adjust := by
  cases hpath : options.configuration <;> simp only [configuration, chosen, hpath]

/-- Switches make no configuration senseless. -/
lemma fault?_of_configuration (h : configuration files options = .ok c) : c.fault? = none := by
  rw [configuration_eq_map_adjust] at h
  cases hchosen : chosen files options.configuration with
  | error fault => simp [hchosen, Except.map] at h
  | ok c' =>
    rw [hchosen] at h
    obtain rfl := Except.ok.inj h
    have hfault : c'.fault? = none := by
      cases hpath : options.configuration with
      | none =>
        rw [hpath] at hchosen
        obtain rfl := Except.ok.inj hchosen
        rfl
      | some path =>
        rw [hpath] at hchosen
        exact Configuration.fault?_of_load hchosen
    exact hfault

/-! ### Runs -/

/-- What stops a run: the first stage that fails. -/
inductive StopsWith (surroundings : Surroundings) (files : FileSystem) (options : Options)
    (input output : String) : ConversionFault → Prop
  | configuration {fault : ConfigurationFault}
      (hchosen : chosen files options.configuration = .error fault) :
      StopsWith surroundings files options input output (.configuration fault)
  | load {c : Configuration} {fault : LoadFault} (hc : configuration files options = .ok c)
      (hload : Notebook.load files input = .error fault) :
      StopsWith surroundings files options input output (.load fault)
  | write {c : Configuration} {notebook : Notebook} {fault : FileFault}
      (hc : configuration files options = .ok c)
      (hload : Notebook.load files input = .ok notebook)
      (hwrite : files.writeText output (renderCells surroundings c notebook.cells).script =
        .error fault) :
      StopsWith surroundings files options input output (.write output fault)

lemma shownUpTo_append_error (limit : LogLevel) (events : List LogEvent) (message : String) :
    shownUpTo limit (events ++ [⟨.error, message⟩]) =
      shownUpTo limit events ++ [⟨.error, message⟩] := by
  simp [shownUpTo, LogLevel.isShownUpTo, LogLevel.rank]

lemma run_of_chosen_error {fault : ConfigurationFault}
    (hrequest : Request.ofTexts texts = .ok (.convert input output options))
    (hchosen : chosen files options.configuration = .error fault) :
    run surroundings files texts =
      ⟨1, "", [⟨.error, (ConversionFault.configuration fault).message⟩], none, files⟩ := by
  have hc : configuration files options = .error fault := by
    rw [configuration_eq_map_adjust, hchosen]
    rfl
  simp only [run, hrequest, convert, hc, ConversionFault.event]
  rw [← List.nil_append [_], shownUpTo_append_error]
  rfl

lemma run_of_load_error {fault : LoadFault}
    (hrequest : Request.ofTexts texts = .ok (.convert input output options))
    (hc : configuration files options = .ok c)
    (hload : Notebook.load files input = .error fault) :
    run surroundings files texts =
      ⟨1, "", [⟨.error, (ConversionFault.load fault).message⟩], none, files⟩ := by
  simp only [run, hrequest, convert, hc, convert_of_load_error (fault?_of_configuration hc) hload,
    Conversion.events, ConversionFault.event, Option.toList_none, List.flatMap_nil]
  rw [shownUpTo_append_error]
  rfl

lemma run_of_write_error {fault : FileFault}
    (hrequest : Request.ofTexts texts = .ok (.convert input output options))
    (hc : configuration files options = .ok c)
    (hload : Notebook.load files input = .ok notebook)
    (hwrite : files.writeText output (renderCells surroundings c notebook.cells).script =
      .error fault) :
    run surroundings files texts =
      ⟨1, "", shownUpTo options.logLevel (eventsOf surroundings c input notebook) ++
        [⟨.error, (ConversionFault.write output fault).message⟩], none, files⟩ := by
  simp only [run, hrequest, convert, hc, convert_of_load (fault?_of_configuration hc) hload,
    Stage.write_of_error hwrite, Conversion.events, ConversionFault.event, Option.toList_some,
    List.flatMap_singleton]
  rw [shownUpTo_append_error]
  rfl

lemma run_of_write {after : FileSystem}
    (hrequest : Request.ofTexts texts = .ok (.convert input output options))
    (hc : configuration files options = .ok c)
    (hload : Notebook.load files input = .ok notebook)
    (hwrite : files.writeText output (renderCells surroundings c notebook.cells).script =
      .ok after) :
    run surroundings files texts =
      ⟨0, "", shownUpTo options.logLevel (eventsOf surroundings c input notebook ++
        [⟨.info, "Successfully converted " ++ input ++ " to " ++ output⟩]), none, after⟩ := by
  simp only [run, hrequest, convert, hc, convert_of_load (fault?_of_configuration hc) hload,
    Stage.write_of_ok hwrite, Conversion.events, Option.toList_some, List.flatMap_singleton]
  rfl

/-- A run that does not succeed leaves the files as they were, whatever was asked for. -/
theorem files_run_of_exitCode_ne_zero (h : (run surroundings files texts).exitCode ≠ 0) :
    (run surroundings files texts).files = files := by
  cases hrequest : Request.ofTexts texts with
  | error fault => simp only [run, hrequest]
  | ok request =>
    cases request with
    | help => simp [run, hrequest] at h
    | version => simp [run, hrequest] at h
    | convert input output options =>
      cases hc : configuration files options with
      | error fault => simp only [run, hrequest, convert, hc]
      | ok c =>
        simp only [run, hrequest, convert, hc] at h ⊢
        refine (files_convert surroundings c files input output).2 ?_
        intro hok
        simp [hok] at h

/-- A run succeeds, or the first stage that fails stops it. -/
lemma exists_write_or_stopsWith (surroundings : Surroundings) (files : FileSystem)
    (options : Options) (input output : String) :
    (∃ c notebook after, configuration files options = .ok c ∧
      Notebook.load files input = .ok notebook ∧
      files.writeText output (renderCells surroundings c notebook.cells).script = .ok after) ∨
    ∃ fault, StopsWith surroundings files options input output fault := by
  cases hchosen : chosen files options.configuration with
  | error fault => exact .inr ⟨_, .configuration hchosen⟩
  | ok c =>
    have hc : configuration files options = .ok (options.adjust c) := by
      rw [configuration_eq_map_adjust, hchosen]
      rfl
    cases hload : Notebook.load files input with
    | error fault => exact .inr ⟨_, .load hc hload⟩
    | ok notebook =>
      cases hwrite : files.writeText output
          (renderCells surroundings (options.adjust c) notebook.cells).script with
      | error fault => exact .inr ⟨_, .write hc hload hwrite⟩
      | ok after => exact .inl ⟨_, notebook, after, hc, rfl, hwrite⟩

/-- A run that is stopped has code 1, leaves the files as they were, and tells of what stopped it
at the very end. -/
lemma StopsWith.run_eq {fault : ConversionFault}
    (hrequest : Request.ofTexts texts = .ok (.convert input output options))
    (h : StopsWith surroundings files options input output fault) :
    ∃ told, run surroundings files texts =
        ⟨1, "", told ++ [⟨.error, fault.message⟩], none, files⟩ ∧
      ∀ event ∈ told, event.level ≠ .error := by
  cases h with
  | configuration hchosen => exact ⟨[], run_of_chosen_error hrequest hchosen, by simp⟩
  | load hc hload => exact ⟨[], run_of_load_error hrequest hc hload, by simp⟩
  | write hc hload hwrite =>
    refine ⟨_, run_of_write_error hrequest hc hload hwrite, fun event hmem => ?_⟩
    exact level_of_mem_eventsOf (List.mem_of_mem_filter hmem)

section

variable (hrequest : Request.ofTexts texts = .ok (.convert input output options))
include hrequest

lemma exitCode_eq_zero_iff :
    (run surroundings files texts).exitCode = 0 ↔
      ∃ c notebook, configuration files options = .ok c ∧
        Notebook.load files input = .ok notebook ∧
        files.writeText output (renderCells surroundings c notebook.cells).script =
          .ok (run surroundings files texts).files := by
  constructor
  · intro hzero
    rcases exists_write_or_stopsWith surroundings files options input output with
      ⟨c, notebook, after, hc, hload, hwrite⟩ | ⟨fault, hstop⟩
    · exact ⟨c, notebook, hc, hload, by rw [hwrite, run_of_write hrequest hc hload hwrite]⟩
    · obtain ⟨told, hrun, -⟩ := hstop.run_eq hrequest
      rw [hrun] at hzero
      cases hzero
  · rintro ⟨c, notebook, hc, hload, hwrite⟩
    rw [run_of_write hrequest hc hload hwrite]

lemma exitCode_eq_one_iff :
    (run surroundings files texts).exitCode = 1 ↔
      ∃ fault, StopsWith surroundings files options input output fault := by
  constructor
  · intro hone
    rcases exists_write_or_stopsWith surroundings files options input output with
      ⟨c, notebook, after, hc, hload, hwrite⟩ | hstop
    · rw [run_of_write hrequest hc hload hwrite] at hone
      cases hone
    · exact hstop
  · rintro ⟨fault, hstop⟩
    obtain ⟨told, hrun, -⟩ := hstop.run_eq hrequest
    rw [hrun]

lemma exitCode_eq_zero_or_one :
    (run surroundings files texts).exitCode = 0 ∨ (run surroundings files texts).exitCode = 1 := by
  rw [exitCode_eq_one_iff hrequest]
  refine (exists_write_or_stopsWith surroundings files options input output).imp_left ?_
  rintro ⟨c, notebook, after, hc, hload, hwrite⟩
  rw [run_of_write hrequest hc hload hwrite]

variable (surroundings) in
/-- Once a notebook has been loaded, all is told of it, and then how the run ended. -/
lemma exists_log_eq (hc : configuration files options = .ok c)
    (hload : Notebook.load files input = .ok notebook) :
    ∃ last : LogEvent, (run surroundings files texts).log =
        shownUpTo options.logLevel (eventsOf surroundings c input notebook ++ [last]) ∧
      if (run surroundings files texts).exitCode = 0 then
        last = ⟨.info, "Successfully converted " ++ input ++ " to " ++ output⟩
      else last.level = .error := by
  cases hwrite : files.writeText output (renderCells surroundings c notebook.cells).script with
  | ok after =>
    rw [run_of_write hrequest hc hload hwrite]
    exact ⟨_, rfl, rfl⟩
  | error fault =>
    rw [run_of_write_error hrequest hc hload hwrite]
    exact ⟨_, (shownUpTo_append_error _ _ _).symm, rfl⟩

lemma messagesAt_error_of_exitCode (hzero : (run surroundings files texts).exitCode = 0) :
    messagesAt .error (run surroundings files texts).log = [] := by
  obtain ⟨c, notebook, hc, hload, -⟩ := (exitCode_eq_zero_iff hrequest).mp hzero
  obtain ⟨last, hlog, hlast⟩ := exists_log_eq surroundings hrequest hc hload
  rw [if_pos hzero] at hlast
  refine messagesAt_eq_nil_of_forall fun event hmem => ?_
  rw [hlog, hlast] at hmem
  rcases List.mem_append.mp (List.mem_of_mem_filter hmem) with hmem | hmem
  · exact level_of_mem_eventsOf hmem
  · simp [List.mem_singleton.mp hmem]

lemma messagesAt_info_run (hc : configuration files options = .ok c)
    (hload : Notebook.load files input = .ok notebook) (hquiet : options.isQuiet = false) :
    messagesAt .info (run surroundings files texts).log =
      (renderCells surroundings c notebook.cells).formatted.lines input ++
        if (run surroundings files texts).exitCode = 0 then
          ["Successfully converted " ++ input ++ " to " ++ output]
        else [] := by
  obtain ⟨last, hlog, hlast⟩ := exists_log_eq surroundings hrequest hc hload
  rw [hlog, messagesAt_shownUpTo (options.isShownUpTo_logLevel (by decide) hquiet),
    messagesAt_append, messagesAt_info_eventsOf]
  split_ifs at hlast ⊢ <;> simp [hlast]

lemma messagesAt_warning_run (hc : configuration files options = .ok c)
    (hload : Notebook.load files input = .ok notebook) (hquiet : options.isQuiet = false) :
    messagesAt .warning (run surroundings files texts).log =
      (renderCells surroundings c notebook.cells).assembly.outcomes.flatMap CellOutcome.warnings ++
        c.formatter.warnings surroundings.programs
          (renderCells surroundings c notebook.cells).assembly.text := by
  obtain ⟨last, hlog, hlast⟩ := exists_log_eq surroundings hrequest hc hload
  rw [hlog, messagesAt_shownUpTo (options.isShownUpTo_logLevel (by decide) hquiet),
    messagesAt_append, messagesAt_warning_eventsOf]
  split_ifs at hlast <;> simp [hlast]

end

/-- Only errors are told by a run that is to be quiet. -/
lemma level_of_mem_log (hrequest : Request.ofTexts texts = .ok (.convert input output options))
    (hquiet : options.isQuiet) {event : LogEvent}
    (h : event ∈ (run surroundings files texts).log) : event.level = .error := by
  simp only [run, hrequest] at h
  have hshown : event.level.isShownUpTo .error := by
    simpa [Options.logLevel, hquiet] using List.of_mem_filter h
  cases hlevel : event.level <;> simp_all [LogLevel.isShownUpTo, LogLevel.rank]

end Command

/-- The exit code, the log and the switches of a run agree with its stages. -/
theorem run_agrees (surroundings : Surroundings) (files : FileSystem) {texts : List String}
    {input output : String} {options : Options}
    (hrequest : Request.ofTexts texts = .ok (.convert input output options)) :
    let outcome := Command.run surroundings files texts
    let given (switch : String) := switch ∈ texts.takeWhile (· ≠ "--")
    let chosen := Command.chosen files options.configuration
    let messages (level : LogLevel) := messagesAt level outcome.log
    -- the switches and the configuration
    (options.keepsUnused ↔ given "--no-remove-unused") ∧
    (options.skipsProgram ↔ given "--no-format" ∨ given "--no-black") ∧
    (∀ argument, options.Holds argument ↔ argument ∈ Argument.ofTexts false texts) ∧
    (Command.configuration files options = chosen.map fun c =>
      { c with
        prunesUnused := c.prunesUnused && !options.keepsUnused
        formatsExternally := c.formatsExternally && !options.skipsProgram }) ∧
    (∀ c, Command.configuration files options = .ok c → c.fault? = none) ∧
    -- the exit code and the files
    (outcome.exitCode = 0 ↔ ∃ c notebook, Command.configuration files options = .ok c ∧
      Notebook.load files input = .ok notebook ∧
      files.writeText output (renderCells surroundings c notebook.cells).script =
        .ok outcome.files) ∧
    (outcome.exitCode = 1 ↔
      ∃ fault, Command.StopsWith surroundings files options input output fault) ∧
    (outcome.exitCode = 0 ∨ outcome.exitCode = 1) ∧
    -- errors
    (outcome.exitCode = 0 → messages .error = []) ∧
    (∀ fault, Command.StopsWith surroundings files options input output fault →
      outcome.files = files ∧ ∃ told, outcome.log = told ++ [⟨.error, fault.message⟩] ∧
        ∀ event ∈ told, event.level ≠ .error) ∧
    (∀ fault, chosen = .error fault →
      outcome.log = [⟨.error, "Configuration error: " ++ fault.message⟩]) ∧
    (∀ c fault, Command.configuration files options = .ok c →
      Notebook.load files input = .error fault → outcome.log = [⟨.error, fault.message⟩]) ∧
    (options.isQuiet → ∀ event ∈ outcome.log, event.level = .error) ∧
    -- what is told of a notebook that has been loaded
    ∀ c notebook, Command.configuration files options = .ok c →
      Notebook.load files input = .ok notebook → options.isQuiet = false →
      let rendered := renderCells surroundings c notebook.cells
      messages .info = (rendered.formatted.lines input ++
        if outcome.exitCode = 0 then ["Successfully converted " ++ input ++ " to " ++ output]
        else []) ∧
      ∃ cells formatter, messages .warning = cells ++ formatter ∧
        cells = rendered.assembly.outcomes.flatMap CellOutcome.warnings ∧
        cells.length = rendered.report.skipped.length +
          rendered.assembly.outcomes.countP (fun outcome => outcome.rereadFault?.isSome) ∧
        formatter = c.formatter.warnings surroundings.programs rendered.assembly.text ∧
        formatter.length ≤ 1 ∧
        (formatter = [] ↔ (c.formatsExternally →
          ∃ text, (surroundings.programs c.command rendered.assembly.text).Leaves text)) := by
  refine ⟨Request.keepsUnused_iff hrequest, Request.skipsProgram_iff hrequest,
    Request.holds_of_ofTexts hrequest, Command.configuration_eq_map_adjust,
    fun c => Command.fault?_of_configuration, Command.exitCode_eq_zero_iff hrequest,
    Command.exitCode_eq_one_iff hrequest, Command.exitCode_eq_zero_or_one hrequest,
    Command.messagesAt_error_of_exitCode hrequest, ?_, ?_, ?_,
    fun hquiet event => Command.level_of_mem_log hrequest hquiet, ?_⟩
  · intro fault hstop
    obtain ⟨told, hrun, htold⟩ := hstop.run_eq hrequest
    rw [hrun]
    exact ⟨rfl, told, rfl, htold⟩
  · intro fault hchosen
    rw [Command.run_of_chosen_error hrequest hchosen]
    rfl
  · intro c fault hc hload
    rw [Command.run_of_load_error hrequest hc hload]
    rfl
  · intro c notebook hc hload hquiet rendered
    exact ⟨Command.messagesAt_info_run hrequest hc hload hquiet, _, _,
      Command.messagesAt_warning_run hrequest hc hload hquiet, rfl,
      Assembly.length_warnings _, rfl, Formatter.length_warnings_le _,
      Formatter.warnings_eq_nil_iff c⟩

/-- A notebook with a cell that cannot be read, and a program that is missing. -/
theorem run_agrees_with_two_warnings :
    let surroundings : Surroundings :=
      ⟨fun _ => .error ⟨1, 1, .unexpected ""⟩, fun _ _ => .notFound⟩
    let files := FileSystem.ofTexts [("nb.ipynb", "[4,5,[[\"code\",\"x =\"]]]")]
    let texts := ["-v", "nb.ipynb", "out.py"]
    let options : Options := { paths := ["nb.ipynb", "out.py"], verbosity := 1 }
    let outcome := Command.run surroundings files texts
    Request.ofTexts texts = .ok (.convert "nb.ipynb" "out.py" options) ∧
      outcome.exitCode = 0 ∧ messagesAt .error outcome.log = [] ∧
      messagesAt .info outcome.log = ["Successfully converted nb.ipynb to out.py"] ∧
      (messagesAt .warning outcome.log).length = 2 := by
  intro surroundings files texts options outcome
  have hrequest : Request.ofTexts texts = .ok (.convert "nb.ipynb" "out.py" options) := by
    decide +kernel
  have hload : Notebook.load files "nb.ipynb" = .ok ⟨4, 5, [⟨.code, "x ="⟩]⟩ := by
    decide +kernel
  have hc : Command.configuration files options = .ok .standard := rfl
  have hlines : (renderCells surroundings .standard [⟨.code, "x ="⟩]).formatted.lines
      "nb.ipynb" = [] := by
    decide +kernel
  have hzero : outcome.exitCode = 0 := by decide +kernel
  obtain ⟨-, -, -, -, -, -, -, -, herror, -, -, -, -, htold⟩ :=
    run_agrees surroundings files hrequest
  obtain ⟨hinfo, cells, formatter, hwarning, -, hcells, -, hle, hformatter⟩ :=
    htold _ _ hc hload rfl
  have hmissing : formatter ≠ [] := by
    rw [Ne, hformatter]
    rintro hleaves
    obtain ⟨text, errors, hrun⟩ := hleaves rfl
    cases hrun
  rw [hlines, if_pos hzero] at hinfo
  refine ⟨hrequest, hzero, herror hzero, hinfo.trans ?_, ?_⟩
  · decide +kernel
  · have hone : formatter.length = 1 :=
      le_antisymm hle (List.length_pos_iff.mpr hmissing)
    have hskipped : cells.length = 1 := hcells.trans (by decide +kernel)
    exact (congrArg List.length hwarning).trans (by rw [List.length_append, hskipped, hone])

end NotebookExport
