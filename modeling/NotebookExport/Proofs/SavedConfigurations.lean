import NotebookExport.Configuration.Print
import NotebookExport.Proofs.Yaml.Decoding

/-!
# Saved configurations

What is written of a configuration is read as that configuration, whatever texts it holds: texts
that look like something else, that go over several lines, or that do not show. The only thing that
may be wrong with it is the configuration itself.
-/

namespace NotebookExport

open Yaml

variable {α σ : Type} {decode : Decoder α} {kinds : List EventKind} {value : α}

lemma decodes_setting (h : Decodes decode kinds value) (set : α → σ → σ) :
    Decodes (setting decode set) kinds (set value) := by
  intro document path found rest hfound
  simp [setting, h document path found rest hfound, Except.map]

namespace Configuration

variable (c : Configuration)

/-- What a document says that holds everything of a configuration. -/
def record : ConfigurationRecord where
  version := some configurationVersion
  prunesUnused := some c.prunesUnused
  formatsExternally := some c.formatsExternally
  formatter := some ⟨some c.command.program, some c.command.args⟩
  minimal := some ⟨some c.markers⟩
  markdown := some ⟨some c.commentMark⟩

lemma configuration_record : c.record.configuration = c := rfl

/-- Every key of a configuration is a name. -/
lemma isKey_of_mem : ∀ key ∈ ["version", "prune_unused", "external_format", "formatter", "program",
    "args", "minimal", "definition_markers", "markdown", "comment_prefix"], IsKey key.toList := by
  have hnames : ∀ key ∈ ["version", "prune_unused", "external_format", "formatter", "program",
      "args", "minimal", "definition_markers", "markdown", "comment_prefix"],
      key.toList ≠ [] ∧ key.toList.length ≤ Scan.maxKeyLength ∧
        key.toList.all fun x => x.isAlphanum ∨ x = '_' := by decide +kernel
  intro key hkey
  obtain ⟨hne, hlength, hall⟩ := hnames key hkey
  exact ⟨hne, hlength, List.all_iff_forall_prop.mp hall⟩

/-! ### Members -/

/-- The members of the record about the program that formats. -/
def formatterMembers : List (RecordForm.Member FormatterRecord) :=
  [⟨"program", [textEvent c.command.program],
      fun r => { r with program := some c.command.program }⟩,
    ⟨"args", .sequenceStart :: c.command.args.map textEvent ++ [.sequenceEnd],
      fun r => { r with args := some c.command.args }⟩]

/-- The members of the record about formatting without a program. -/
def minimalMembers : List (RecordForm.Member MinimalRecord) :=
  [⟨"definition_markers", .sequenceStart :: c.markers.map textEvent ++ [.sequenceEnd],
    fun _ => ⟨some c.markers⟩⟩]

/-- The members of the record about markdown. -/
def markdownMembers : List (RecordForm.Member MarkdownRecord) :=
  [⟨"comment_prefix", [textEvent c.commentMark], fun _ => ⟨some c.commentMark⟩⟩]

/-- The members of a configuration. -/
def members : List (RecordForm.Member ConfigurationRecord) :=
  [⟨"version", [wordEvent (toString configurationVersion)],
      fun r => { r with version := some configurationVersion }⟩,
    ⟨"prune_unused", [wordEvent (wordOf c.prunesUnused)],
      fun r => { r with prunesUnused := some c.prunesUnused }⟩,
    ⟨"external_format", [wordEvent (wordOf c.formatsExternally)],
      fun r => { r with formatsExternally := some c.formatsExternally }⟩,
    ⟨"formatter", RecordForm.mappingEvents c.formatterMembers,
      fun r => { r with formatter := c.record.formatter }⟩,
    ⟨"minimal", RecordForm.mappingEvents c.minimalMembers,
      fun r => { r with minimal := c.record.minimal }⟩,
    ⟨"markdown", RecordForm.mappingEvents c.markdownMembers,
      fun r => { r with markdown := c.record.markdown }⟩]

/-! ### Writing -/

lemma isWritten_word (column : Nat) {key word : String} (hkey : IsKey key.toList)
    (hword : word ∈ ["1", "true", "false"]) :
    IsWritten column (writeWord column key word) [wordEvent key, wordEvent word] := by
  have hwords : ∀ word ∈ ["1", "true", "false"], allowsPlain word.toList ∧ word ≠ "" := by
    decide +kernel
  exact isWritten_writeWord column hkey (hwords word hword).1 (hwords word hword).2

lemma isWritten_toText :
    IsWritten 0 c.toText.toList (c.members.flatMap RecordForm.Member.allKinds) := by
  have hbool (b : Bool) : wordOf b ∈ ["1", "true", "false"] := by cases b <;> decide
  have hformatter :=
    (isWritten_writeText 2 (isKey_of_mem "program" (by simp)) c.command.program).append
      (isWritten_writeTexts 2 (isKey_of_mem "args" (by simp)) c.command.args)
  have hminimal := isWritten_writeTexts 2 (isKey_of_mem "definition_markers" (by simp)) c.markers
  have hmarkdown := isWritten_writeText 2 (isKey_of_mem "comment_prefix" (by simp)) c.commentMark
  have hversion := isWritten_word 0 (isKey_of_mem "version" (by simp))
    (show toString configurationVersion ∈ _ by decide)
  have hprunes := isWritten_word 0 (isKey_of_mem "prune_unused" (by simp)) (hbool c.prunesUnused)
  have hformats :=
    isWritten_word 0 (isKey_of_mem "external_format" (by simp)) (hbool c.formatsExternally)
  have hall := ((((hversion.append hprunes).append hformats).append
    (hformatter.writeSection (isKey_of_mem "formatter" (by simp)))).append
    (hminimal.writeSection (isKey_of_mem "minimal" (by simp)))).append
    (hmarkdown.writeSection (isKey_of_mem "markdown" (by simp)))
  rw [toText, String.toList_ofList]
  simpa [members, formatterMembers, minimalMembers, markdownMembers, RecordForm.mappingEvents,
    RecordForm.Member.allKinds, wordEvent] using hall

/-! ### Decoding -/

lemma decodes_formatter :
    Decodes FormatterRecord.form.decode (RecordForm.mappingEvents c.formatterMembers)
      ⟨some c.command.program, some c.command.args⟩ := by
  refine RecordForm.decodes (List.forall_mem_cons.mpr ⟨⟨by simp [FormatterRecord.form], ?_⟩,
    List.forall_mem_singleton.mpr ⟨by simp [FormatterRecord.form], ?_⟩⟩)
    (by simp [formatterMembers])
  · simpa [FormatterRecord.form] using decodes_setting (Decoder.decodes_string _) _
  · simpa [FormatterRecord.form] using decodes_setting (Decoder.decodes_texts _) _

lemma decodes_minimal : Decodes MinimalRecord.form.decode
    (RecordForm.mappingEvents c.minimalMembers) ⟨some c.markers⟩ := by
  refine RecordForm.decodes (List.forall_mem_singleton.mpr ⟨by simp [MinimalRecord.form], ?_⟩)
    (by simp [minimalMembers])
  exact decodes_setting (Decoder.decodes_texts c.markers) fun markers _ =>
    MinimalRecord.mk (some markers)

lemma decodes_markdown : Decodes MarkdownRecord.form.decode
    (RecordForm.mappingEvents c.markdownMembers) ⟨some c.commentMark⟩ := by
  refine RecordForm.decodes (List.forall_mem_singleton.mpr ⟨by simp [MarkdownRecord.form], ?_⟩)
    (by simp [markdownMembers])
  exact decodes_setting (Decoder.decodes_string c.commentMark) fun mark _ =>
    MarkdownRecord.mk (some mark)

lemma decodes_flag (b : Bool) :
    Decodes (Decoder.optional Decoder.bool) [wordEvent (wordOf b)] (some b) := by
  have hword : bool? (wordOf b) = some b ∧ wordOf b ≠ "" ∧ isNull (wordOf b) = false := by
    cases b <;> decide +kernel
  exact Decoder.decodes_optional (Decoder.decodes_bool hword.1) (.inr ⟨_, rfl, hword.2⟩)

lemma decodes_version : Decodes (Decoder.optional Decoder.natural32)
    [wordEvent (toString configurationVersion)] (some configurationVersion) :=
  Decoder.decodes_optional (Decoder.decodes_natural32 (by decide +kernel) (by decide))
    (.inr ⟨_, rfl, by decide +kernel⟩)

lemma decodes_record : Decodes ConfigurationRecord.form.decode
    (RecordForm.mappingEvents c.members) c.record := by
  suffices hmembers : ∀ m ∈ c.members, m.name ∈ ConfigurationRecord.form.fields ∧
      Decodes (ConfigurationRecord.form.set m.name) m.kinds m.change from
    RecordForm.decodes hmembers (by simp [members])
  simp only [members, List.forall_mem_cons]
  refine ⟨⟨by simp [ConfigurationRecord.form], ?_⟩, ⟨by simp [ConfigurationRecord.form], ?_⟩,
    ⟨by simp [ConfigurationRecord.form], ?_⟩, ⟨by simp [ConfigurationRecord.form], ?_⟩,
    ⟨by simp [ConfigurationRecord.form], ?_⟩, ⟨by simp [ConfigurationRecord.form], ?_⟩, by simp⟩
  · simpa [ConfigurationRecord.form] using decodes_setting decodes_version _
  · simpa [ConfigurationRecord.form] using decodes_setting (decodes_flag c.prunesUnused) _
  · simpa [ConfigurationRecord.form] using decodes_setting (decodes_flag c.formatsExternally) _
  · simpa [ConfigurationRecord.form, record] using
      decodes_setting (Decoder.decodes_optional c.decodes_formatter (.inl ⟨_, rfl⟩)) _
  · simpa [ConfigurationRecord.form, record] using
      decodes_setting (Decoder.decodes_optional c.decodes_minimal (.inl ⟨_, rfl⟩)) _
  · simpa [ConfigurationRecord.form, record] using
      decodes_setting (Decoder.decodes_optional c.decodes_markdown (.inl ⟨_, rfl⟩)) _

/-! ### Reading what has been written -/

lemma ofDocument_toText :
    ConfigurationRecord.form.ofDocument (Document.ofText c.toText) = .ok c.record := by
  obtain ⟨found, hfound, hdocument⟩ := c.isWritten_toText.exists_document_eq
  rw [String.ofList_toList] at hdocument
  rw [hdocument]
  exact RecordForm.ofDocument_eq c.decodes_record hfound.1

/-- What is written of a configuration is read as that configuration, if it makes sense, and refused
as it is itself refused, if it does not. -/
theorem ofText_toText :
    ofText c.toText = c.validate ∧
      (∀ found, ofText c.toText = .ok found ↔ found = c ∧ c.fault? = none) ∧
      ∀ fault, ofText c.toText = .error fault ↔
        ∃ reason, c.fault? = some reason ∧ fault = .invalid reason := by
  have htext : ofText c.toText = c.validate := by
    -- the equation of `ofText` takes long to make
    delta ofText
    rw [c.ofDocument_toText]
    exact congrArg validate c.configuration_record
  refine ⟨htext, fun found => ?_, fun fault => ?_⟩
  all_goals
    rw [htext, validate]
    cases c.fault? with
    | none => simp [eq_comm]
    | some reason => simp [eq_comm]

end Configuration

end NotebookExport
