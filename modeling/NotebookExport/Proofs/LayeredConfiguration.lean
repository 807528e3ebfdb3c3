import Mathlib.Data.List.Induction
import NotebookExport.Conversion
import NotebookExport.Proofs.Yaml.Fields

/-!
# Layers of a configuration

A configuration comes about in layers: what a document says, field by field and also inside of its
sections, lies over the standard configuration, and what is set afterwards lies over both. Whether a
configuration makes sense is asked when a document is read and again before a conversion begins,
with the same answer; the two switches have no part in it.
-/

namespace NotebookExport

open Yaml

variable {α β σ : Type}

/-! ### Fields of documents -/

lemma exists_of_setting {decode : Decoder α} {set : α → σ → σ} {p : Place} {change : σ → σ}
    {rest : List (Event × Option Nat)} (h : setting decode set p = .ok (change, rest)) :
    ∃ value, decode p = .ok (value, rest) ∧ change = set value := by
  unfold setting at h
  cases hresult : decode p with
  | error fault => simp [hresult, Except.map] at h
  | ok result =>
    simp only [hresult, Except.map, Except.ok.injEq, Prod.mk.injEq] at h
    obtain ⟨rfl, rfl⟩ := h
    exact ⟨result.1, rfl, rfl⟩

namespace FormatterRecord

/-- Each field sets its own part of the record. -/
lemma set_cases {name : String} {p : Place} {change : FormatterRecord → FormatterRecord}
    {rest : List (Event × Option Nat)} (hname : name ∈ form.fields)
    (h : form.set name p = .ok (change, rest)) :
    (name = "program" ∧ ∃ v, Decoder.string p = .ok (v, rest) ∧
      change = fun r => { r with program := some v }) ∨
    name = "args" ∧ ∃ v, Decoder.list .string p = .ok (v, rest) ∧
      change = fun r => { r with args := some v } := by
  simp only [form, List.mem_cons, List.not_mem_nil, or_false] at hname
  rcases hname with rfl | rfl
  · exact .inl ⟨rfl, exists_of_setting (by simpa [form] using h)⟩
  · exact .inr ⟨rfl, exists_of_setting (by simpa [form] using h)⟩

lemma takesNode_set : ∀ name ∈ form.fields, (form.set name).TakesNode := by
  intro name hname p change rest hp h
  obtain ⟨rfl, v, hv, -⟩ | ⟨rfl, v, hv, -⟩ := set_cases hname h
  · exact Decoder.takesNode_ofScalar p v rest hp hv
  · exact Decoder.takesNode_list Decoder.takesNode_ofScalar p v rest hp hv

lemma isField_program : form.IsField "program" .string program some where
  own h := by
    obtain ⟨-, v, hv, rfl⟩ | ⟨hname, -⟩ := set_cases (by simp [form]) h
    · exact ⟨v, hv, fun _ => rfl⟩
    · simp at hname
  other hname hne h record := by
    obtain ⟨rfl, -⟩ | ⟨-, v, -, rfl⟩ := set_cases hname h
    · exact absurd rfl hne
    · rfl

lemma isField_args : form.IsField "args" (.list .string) args some where
  own h := by
    obtain ⟨hname, -⟩ | ⟨-, v, hv, rfl⟩ := set_cases (by simp [form]) h
    · simp at hname
    · exact ⟨v, hv, fun _ => rfl⟩
  other hname hne h record := by
    obtain ⟨-, v, -, rfl⟩ | ⟨rfl, -⟩ := set_cases hname h
    · rfl
    · exact absurd rfl hne

end FormatterRecord

namespace MinimalRecord

lemma exists_of_set {name : String} {p : Place} {change : MinimalRecord → MinimalRecord}
    {rest : List (Event × Option Nat)} (h : form.set name p = .ok (change, rest)) :
    ∃ v, Decoder.list .string p = .ok (v, rest) ∧ change = fun _ => ⟨some v⟩ :=
  exists_of_setting h

lemma takesNode_set : ∀ name ∈ form.fields, (form.set name).TakesNode := by
  intro name _ p change rest hp h
  obtain ⟨v, hv, -⟩ := exists_of_set h
  exact Decoder.takesNode_list Decoder.takesNode_ofScalar p v rest hp hv

lemma isField_markers : form.IsField "definition_markers" (.list .string) markers some where
  own h := by
    obtain ⟨v, hv, rfl⟩ := exists_of_set h
    exact ⟨v, hv, fun _ => rfl⟩
  other hname hne _ := absurd (List.mem_singleton.mp hname) hne

end MinimalRecord

namespace MarkdownRecord

lemma exists_of_set {name : String} {p : Place} {change : MarkdownRecord → MarkdownRecord}
    {rest : List (Event × Option Nat)} (h : form.set name p = .ok (change, rest)) :
    ∃ v, Decoder.string p = .ok (v, rest) ∧ change = fun _ => ⟨some v⟩ :=
  exists_of_setting h

lemma takesNode_set : ∀ name ∈ form.fields, (form.set name).TakesNode := by
  intro name _ p change rest hp h
  obtain ⟨v, hv, -⟩ := exists_of_set h
  exact Decoder.takesNode_ofScalar p v rest hp hv

lemma isField_commentMark : form.IsField "comment_prefix" .string commentMark some where
  own h := by
    obtain ⟨v, hv, rfl⟩ := exists_of_set h
    exact ⟨v, hv, fun _ => rfl⟩
  other hname hne _ := absurd (List.mem_singleton.mp hname) hne

end MarkdownRecord

namespace ConfigurationRecord

/-- Each field sets its own part of the record. -/
lemma set_cases {name : String} {p : Place} {change : ConfigurationRecord → ConfigurationRecord}
    {rest : List (Event × Option Nat)} (hname : name ∈ form.fields)
    (h : form.set name p = .ok (change, rest)) :
    (name = "version" ∧ ∃ v, Decoder.natural32.optional p = .ok (v, rest) ∧
      change = fun r => { r with version := v }) ∨
    (name = "prune_unused" ∧ ∃ v, Decoder.bool.optional p = .ok (v, rest) ∧
      change = fun r => { r with prunesUnused := v }) ∨
    (name = "external_format" ∧ ∃ v, Decoder.bool.optional p = .ok (v, rest) ∧
      change = fun r => { r with formatsExternally := v }) ∨
    (name = "formatter" ∧ ∃ v, FormatterRecord.form.decode.optional p = .ok (v, rest) ∧
      change = fun r => { r with formatter := v }) ∨
    (name = "minimal" ∧ ∃ v, MinimalRecord.form.decode.optional p = .ok (v, rest) ∧
      change = fun r => { r with minimal := v }) ∨
    name = "markdown" ∧ ∃ v, MarkdownRecord.form.decode.optional p = .ok (v, rest) ∧
      change = fun r => { r with markdown := v } := by
  simp only [form, List.mem_cons, List.not_mem_nil, or_false] at hname
  rcases hname with rfl | rfl | rfl | rfl | rfl | rfl
  · exact .inl ⟨rfl, exists_of_setting (by simpa [form] using h)⟩
  · exact .inr (.inl ⟨rfl, exists_of_setting (by simpa [form] using h)⟩)
  · exact .inr (.inr (.inl ⟨rfl, exists_of_setting (by simpa [form] using h)⟩))
  · exact .inr (.inr (.inr (.inl ⟨rfl, exists_of_setting (by simpa [form] using h)⟩)))
  · exact .inr (.inr (.inr (.inr (.inl ⟨rfl, exists_of_setting (by simpa [form] using h)⟩))))
  · exact .inr (.inr (.inr (.inr (.inr ⟨rfl, exists_of_setting (by simpa [form] using h)⟩))))

lemma takesNode_set : ∀ name ∈ form.fields, (form.set name).TakesNode := by
  intro name hname p change rest hp h
  have hscalar {α : Type} {expected : String} {read : Scalar → Except Misfit α} :
      (Decoder.ofScalar expected read).optional.TakesNode :=
    Decoder.takesNode_optional Decoder.takesNode_ofScalar
  have hrecord {σ : Type} {form : RecordForm σ}
      (htakes : ∀ name ∈ form.fields, (form.set name).TakesNode) :
      form.decode.optional.TakesNode :=
    Decoder.takesNode_optional (RecordForm.takesNode_decode htakes)
  obtain ⟨-, v, hv, -⟩ | ⟨-, v, hv, -⟩ | ⟨-, v, hv, -⟩ | ⟨-, v, hv, -⟩ | ⟨-, v, hv, -⟩ |
    ⟨-, v, hv, -⟩ := set_cases hname h
  · exact hscalar p v rest hp hv
  · exact hscalar p v rest hp hv
  · exact hscalar p v rest hp hv
  · exact hrecord FormatterRecord.takesNode_set p v rest hp hv
  · exact hrecord MinimalRecord.takesNode_set p v rest hp hv
  · exact hrecord MarkdownRecord.takesNode_set p v rest hp hv

/-- Each part of the record is read off as the field of its name. -/
lemma isField_parts :
    form.IsField "version" (.optional .natural32) version id ∧
    form.IsField "prune_unused" (.optional .bool) prunesUnused id ∧
    form.IsField "external_format" (.optional .bool) formatsExternally id ∧
    form.IsField "formatter" FormatterRecord.form.decode.optional formatter id ∧
    form.IsField "minimal" MinimalRecord.form.decode.optional minimal id ∧
    form.IsField "markdown" MarkdownRecord.form.decode.optional markdown id := by
  refine ⟨?_, ?_, ?_, ?_, ?_, ?_⟩
  all_goals
    constructor
    · intro p change rest h
      obtain ⟨hname, v, hv, rfl⟩ | ⟨hname, v, hv, rfl⟩ | ⟨hname, v, hv, rfl⟩ | ⟨hname, v, hv, rfl⟩ |
        ⟨hname, v, hv, rfl⟩ | ⟨hname, v, hv, rfl⟩ := set_cases (by simp [form]) h
      all_goals first | exact ⟨v, hv, fun _ => rfl⟩ | simp at hname
    · intro name p change rest hname hne h record
      obtain ⟨rfl, v, -, rfl⟩ | ⟨rfl, v, -, rfl⟩ | ⟨rfl, v, -, rfl⟩ | ⟨rfl, v, -, rfl⟩ |
        ⟨rfl, v, -, rfl⟩ | ⟨rfl, v, -, rfl⟩ := set_cases hname h
      all_goals first | rfl | exact absurd rfl hne

end ConfigurationRecord

/-! ### Layers of documents -/

namespace Yaml.Document

/-- The place where a document begins. -/
def root (document : Document) : Place := ⟨document, .root, document.events⟩

/-- What a document gives for a field that may also be there without a value. -/
def given? (document : Document) (name : String) (decode : Decoder α) : Option α :=
  (ConfigurationRecord.form.given? document.root name decode.optional).join

/-- What a document gives for a field of one of its sections. -/
def givenIn? (document : Document) (key : String) (form : RecordForm σ) (name : String)
    (decode : Decoder α) : Option α :=
  ((ConfigurationRecord.form.fieldsAt document.root).lookup key).bind fun place =>
    form.given? place name decode

end Yaml.Document

namespace Configuration

/-- The configuration in which each field is as a document has it, or else as it is in the standard
configuration. -/
def layered (document : Document) : Configuration where
  prunesUnused := (document.given? "prune_unused" .bool).getD standard.prunesUnused
  formatsExternally := (document.given? "external_format" .bool).getD standard.formatsExternally
  command :=
    ⟨(document.givenIn? "formatter" FormatterRecord.form "program" .string).getD
        standard.command.program,
      (document.givenIn? "formatter" FormatterRecord.form "args" (.list .string)).getD
        standard.command.args⟩
  markers := (document.givenIn? "minimal" MinimalRecord.form "definition_markers"
    (.list .string)).getD standard.markers
  commentMark := (document.givenIn? "markdown" MarkdownRecord.form "comment_prefix" .string).getD
    standard.commentMark

end Configuration

namespace ConfigurationRecord

variable {record : ConfigurationRecord} {document : Document}

/-- A decoded record holds what the document gives. -/
lemma configuration_eq_layered (hresolved : AreResolved document.events)
    (h : form.ofDocument document = .ok record) :
    record.version = document.given? "version" .natural32 ∧
      record.configuration = .layered document := by
  obtain ⟨hevents, rfl⟩ | ⟨rest, hdecode⟩ := RecordForm.decode_of_ofDocument h
  · have hnone : form.fieldsAt document.root = [] := by
      simp [RecordForm.fieldsAt, Place.node?, Document.root, hevents]
    have hgiven {α : Type} (name : String) (decode : Decoder α) :
        document.given? name decode = none := by
      simp [Document.given?, RecordForm.given?, hnone]
    have hgivenIn {α σ : Type} (key : String) (inner : RecordForm σ) (name : String)
        (decode : Decoder α) : document.givenIn? key inner name decode = none := by
      simp [Document.givenIn?, hnone]
    exact ⟨(hgiven _ _).symm, by simp only [Configuration.layered, hgiven, hgivenIn]; rfl⟩
  · obtain ⟨hversion, hprunes, hformats, hformatter, hminimal, hmarkdown⟩ := isField_parts
    have hp : document.root.IsResolved := ⟨hresolved, hresolved⟩
    have hfield {α : Type} {name : String} {decode : Decoder (Option α)}
        {get : ConfigurationRecord → Option α} (hget : form.IsField name decode get id)
        (hempty : get form.empty = none) :
        get record = (form.given? document.root name decode).join :=
      RecordForm.get_eq_given? takesNode_set hget hempty hp hdecode
    have hprogram : record.formatter.bind FormatterRecord.program =
        document.givenIn? "formatter" FormatterRecord.form "program" .string :=
      RecordForm.get_of_section takesNode_set hformatter rfl
        FormatterRecord.takesNode_set FormatterRecord.isField_program rfl hp hdecode
    have hargs : record.formatter.bind FormatterRecord.args =
        document.givenIn? "formatter" FormatterRecord.form "args" (.list .string) :=
      RecordForm.get_of_section takesNode_set hformatter rfl
        FormatterRecord.takesNode_set FormatterRecord.isField_args rfl hp hdecode
    have hmarkers : record.minimal.bind MinimalRecord.markers =
        document.givenIn? "minimal" MinimalRecord.form "definition_markers" (.list .string) :=
      RecordForm.get_of_section takesNode_set hminimal rfl
        MinimalRecord.takesNode_set MinimalRecord.isField_markers rfl hp hdecode
    have hmark : record.markdown.bind MarkdownRecord.commentMark =
        document.givenIn? "markdown" MarkdownRecord.form "comment_prefix" .string :=
      RecordForm.get_of_section takesNode_set hmarkdown rfl
        MarkdownRecord.takesNode_set MarkdownRecord.isField_commentMark rfl hp hdecode
    have hformatterParts : (record.formatter.getD {}).program =
          record.formatter.bind FormatterRecord.program ∧
        (record.formatter.getD {}).args = record.formatter.bind FormatterRecord.args := by
      cases record.formatter <;> exact ⟨rfl, rfl⟩
    refine ⟨hfield hversion rfl, ?_⟩
    simp only [configuration, Configuration.layered, hformatterParts.1, hformatterParts.2, hprogram,
      hargs, hmarkers, hmark, hfield hprunes rfl, hfield hformats rfl, Document.given?]

end ConfigurationRecord

/-! ### What is set afterwards -/

/-- A part of a configuration that is set. -/
inductive Choice where
  | pruning (isOn : Bool)
  | external (isOn : Bool)
  | formatter (command : Invocation)
  | minimal (markers : List String)
  | markdown (mark : String)

namespace Choice

def apply (c : Configuration) : Choice → Configuration
  | pruning isOn => { c with prunesUnused := isOn }
  | external isOn => { c with formatsExternally := isOn }
  | formatter command => { c with command := command }
  | minimal markers => { c with markers := markers }
  | markdown mark => { c with commentMark := mark }

def isSwitch : Choice → Bool
  | pruning _ | external _ => true
  | _ => false

def pruning? : Choice → Option Bool
  | pruning isOn => some isOn
  | _ => none

def external? : Choice → Option Bool
  | external isOn => some isOn
  | _ => none

def formatter? : Choice → Option Invocation
  | formatter command => some command
  | _ => none

def minimal? : Choice → Option (List String)
  | minimal markers => some markers
  | _ => none

def markdown? : Choice → Option String
  | markdown mark => some mark
  | _ => none

/-- The last choice of a kind, if there is one. -/
def last? (select : Choice → Option α) (choices : List Choice) : Option α :=
  (choices.filterMap select).getLast?

@[simp] lemma last?_concat (select : Choice → Option α) (choices : List Choice) (choice : Choice) :
    last? select (choices ++ [choice]) = (select choice).or (last? select choices) := by
  unfold last?
  cases h : select choice <;> simp [h]

end Choice

namespace Configuration

variable {c : Configuration}

/-- A configuration after one choice after the other. -/
def adjusted (c : Configuration) (choices : List Choice) : Configuration :=
  choices.foldl Choice.apply c

/-- Each part is as it has been chosen last. -/
lemma adjusted_eq (c : Configuration) (choices : List Choice) :
    c.adjusted choices =
      ⟨(Choice.last? Choice.pruning? choices).getD c.prunesUnused,
        (Choice.last? Choice.external? choices).getD c.formatsExternally,
        (Choice.last? Choice.formatter? choices).getD c.command,
        (Choice.last? Choice.minimal? choices).getD c.markers,
        (Choice.last? Choice.markdown? choices).getD c.commentMark⟩ := by
  induction choices using List.reverseRec with
  | nil => rfl
  | append_singleton choices choice ih =>
    have hlast : c.adjusted (choices ++ [choice]) = Choice.apply (c.adjusted choices) choice := by
      simp [adjusted]
    rw [hlast, ih]
    cases choice <;> simp [Choice.apply, Choice.pruning?, Choice.external?, Choice.formatter?,
      Choice.minimal?, Choice.markdown?]

/-- Switches change neither the other parts nor what is wrong with them. -/
lemma adjusted_of_isSwitch {choices : List Choice} (h : ∀ choice ∈ choices, choice.isSwitch) :
    (c.adjusted choices).command = c.command ∧ (c.adjusted choices).markers = c.markers ∧
      (c.adjusted choices).commentMark = c.commentMark ∧
      (c.adjusted choices).fault? = c.fault? := by
  induction choices generalizing c with
  | nil => exact ⟨rfl, rfl, rfl, rfl⟩
  | cons choice choices ih =>
    obtain ⟨hswitch, hrest⟩ := List.forall_mem_cons.mp h
    cases choice with
    | pruning isOn => exact ih (c := { c with prunesUnused := isOn }) hrest
    | external isOn => exact ih (c := { c with formatsExternally := isOn }) hrest
    | _ => cases hswitch

lemma validate_eq_error_iff {fault : ConfigurationFault} :
    c.validate = .error fault ↔ ∃ reason, c.fault? = some reason ∧ fault = .invalid reason := by
  unfold validate
  cases c.fault? <;> simp [eq_comm]

lemma validate_eq_ok_iff {found : Configuration} :
    c.validate = .ok found ↔ found = c ∧ c.fault? = none := by
  unfold validate
  cases c.fault? <;> simp [eq_comm]

/-- The version is looked at before anything else. -/
lemma ofRecord_cases (record : ConfigurationRecord) :
    (ofRecord record = .error .missingVersion ↔ record.version = none) ∧
    (∀ found, ofRecord record = .error (.unsupportedVersion found) ↔
      record.version = some found ∧ found ≠ configurationVersion) ∧
    (∀ fault, ofRecord record = .error (.invalid fault) ↔
      record.version = some configurationVersion ∧ record.configuration.fault? = some fault) ∧
    ∀ c, ofRecord record = .ok c ↔ record.version = some configurationVersion ∧
      c = record.configuration ∧ c.validate = .ok c := by
  unfold ofRecord
  cases hversion : record.version with
  | none => simp
  | some version =>
    by_cases heq : version = configurationVersion
    · simp only [if_pos heq, validate_eq_ok_iff]
      refine ⟨?_, fun found => ?_, fun fault => ?_, fun c => ?_⟩
      · simp [validate_eq_error_iff]
      · simpa [validate_eq_error_iff] using fun h => h ▸ heq
      · simp [validate_eq_error_iff, heq]
      · simp only [heq, true_and]
        exact and_congr_right fun hc => by rw [hc]
    · simp only [if_neg heq]
      refine ⟨by simp, fun found => ?_, by simp [heq], by simp [heq]⟩
      simpa using fun h => h ▸ heq

lemma formatter_eq_external_iff {command : Invocation} {markers : List String} :
    c.formatter = .external command markers ↔
      c.formatsExternally ∧ command = c.command ∧ markers = c.markers := by
  unfold formatter
  split_ifs with h <;> simp [h, eq_comm]

lemma formatter_eq_minimal_iff {markers : List String} :
    c.formatter = .minimal markers ↔ c.formatsExternally = false ∧ markers = c.markers := by
  unfold formatter
  split_ifs with h <;> simp [h, eq_comm]

end Configuration

/-- A conversion is refused for its configuration exactly if this makes no sense. -/
lemma convert_eq_configuration_iff (surroundings : Surroundings) (c : Configuration)
    (files : FileSystem) (input output : String) {fault : ConfigurationFault} :
    (convert surroundings c files input output).result = .error (.configuration fault) ↔
      c.validate = .error fault := by
  unfold convert Stage.check Stage.load Stage.write
  cases c.validate with
  | error reason => simp [Except.mapError]
  | ok c' =>
    cases hload : Notebook.load files input with
    | error reason => simp [hload, Except.mapError]
    | ok notebook =>
      cases hwrite : files.writeText output (renderCells surroundings c' notebook.cells).script <;>
        simp [hload, hwrite, Except.mapError]

/-! ### All layers -/

/-- A text has the form of a configuration, with this record in it. -/
def HoldsConfiguration (text : String) (record : ConfigurationRecord) : Prop :=
  ConfigurationRecord.form.ofDocument (Document.ofText text) = .ok record

instance (text : String) (record : ConfigurationRecord) :
    Decidable (HoldsConfiguration text record) :=
  inferInstanceAs (Decidable (_ = _))

lemma Configuration.ofText_of_holdsConfiguration {text : String} {record : ConfigurationRecord}
    (h : HoldsConfiguration text record) : ofText text = ofRecord record := by
  -- the equation of `ofText` takes long to make
  delta ofText
  rw [h]

open NotebookExport.Configuration Choice

/-- What a text says about a configuration lies over the standard configuration, and is refused for
the version first and then for what makes no sense. What is chosen afterwards lies over that. A
conversion is refused exactly if the configuration makes no sense, and tells so in the same words
behind a heading; the switches have no part in it. -/
theorem layers_of_configuration :
    (∀ text record, HoldsConfiguration text record →
      let document := Document.ofText text
      let version := document.given? "version" .natural32
      (ofText text = .error .missingVersion ↔ version = none) ∧
      (∀ found, ofText text = .error (.unsupportedVersion found) ↔
        version = some found ∧ found ≠ configurationVersion) ∧
      (∀ fault, ofText text = .error (.invalid fault) ↔
        version = some configurationVersion ∧ (layered document).fault? = some fault) ∧
      (∀ c, ofText text = .ok c ↔ version = some configurationVersion ∧ c = layered document ∧
        c.validate = .ok c)) ∧
    ∀ (c : Configuration) (choices : List Choice),
      c.adjusted choices =
        ⟨(last? pruning? choices).getD c.prunesUnused,
          (last? external? choices).getD c.formatsExternally,
          (last? formatter? choices).getD c.command, (last? minimal? choices).getD c.markers,
          (last? markdown? choices).getD c.commentMark⟩ ∧
      (∀ surroundings files input output fault,
        ((convert surroundings (c.adjusted choices) files input output).result =
          .error (.configuration fault) ↔ (c.adjusted choices).validate = .error fault) ∧
        (ConversionFault.configuration fault).message =
          "Configuration error: " ++ fault.message) ∧
      (∀ switches : List Choice, (∀ switch ∈ switches, switch.isSwitch) →
        let switched := c.adjusted (choices ++ switches)
        switched.command = (c.adjusted choices).command ∧
        switched.markers = (c.adjusted choices).markers ∧
        switched.commentMark = (c.adjusted choices).commentMark ∧
        ∀ fault, switched.validate = .error fault ↔ (c.adjusted choices).validate = .error fault) ∧
      (∀ command markers, (c.adjusted choices).formatter = .external command markers ↔
        (c.adjusted choices).formatsExternally ∧ command = (c.adjusted choices).command ∧
          markers = (c.adjusted choices).markers) ∧
      ∀ markers, (c.adjusted choices).formatter = .minimal markers ↔
        (c.adjusted choices).formatsExternally = false ∧
          markers = (c.adjusted choices).markers := by
  refine ⟨fun text record h => ?_, fun c choices => ⟨c.adjusted_eq choices, ?_, ?_, ?_, ?_⟩⟩
  · intro document version
    obtain ⟨hversion, hlayered⟩ :=
      ConfigurationRecord.configuration_eq_layered (Document.areResolved_ofText text) h
    rw [ofText_of_holdsConfiguration h, ← hlayered]
    exact (show record.version = version from hversion) ▸ ofRecord_cases record
  · intro surroundings files input output fault
    exact ⟨convert_eq_configuration_iff surroundings _ files input output, rfl⟩
  · intro switches hswitches switched
    have happend : switched = (c.adjusted choices).adjusted switches := List.foldl_append
    obtain ⟨hcommand, hmarkers, hmark, hfault⟩ :=
      adjusted_of_isSwitch (c := c.adjusted choices) hswitches
    rw [happend]
    refine ⟨hcommand, hmarkers, hmark, fun fault => ?_⟩
    rw [validate_eq_error_iff, validate_eq_error_iff, hfault]
  · exact fun command markers => formatter_eq_external_iff
  · exact fun markers => formatter_eq_minimal_iff

/-- Sections that are given in part, one that is there without a value, and the same without a
version, with a later one, and with no program; then choices with switches between them. -/
theorem layers_of_partial_sections :
    let given := "formatter: {args: [-q]}\nminimal:\nprune_unused: false\n"
    let c : Configuration := { prunesUnused := false, command := ⟨"black", ["-q"]⟩ }
    let choices : List Choice := [.formatter ⟨" ", []⟩, .external false, .formatter ⟨"ruff", []⟩]
    ofText (given ++ "version: 1\n") = .ok c ∧
      ofText given = .error .missingVersion ∧
      ofText (given ++ "version: 2\n") = .error (.unsupportedVersion 2) ∧
      ofText "formatter:\n  program: ''\nversion: 1\n" = .error (.invalid .noProgram) ∧
      c.adjusted choices =
        { c with formatsExternally := false, command := ⟨"ruff", []⟩ } ∧
      (c.adjusted choices).formatter = .minimal ["def ", "class "] := by
  intro given c choices
  obtain ⟨hread, hchosen⟩ := layers_of_configuration
  obtain ⟨-, -, -, hok⟩ := hread (given ++ "version: 1\n")
    ⟨some 1, some false, none, some ⟨none, some ["-q"]⟩, none, none⟩ (by decide +kernel)
  obtain ⟨hmissing, -⟩ := hread given
    ⟨none, some false, none, some ⟨none, some ["-q"]⟩, none, none⟩ (by decide +kernel)
  obtain ⟨-, hunsupported, -⟩ := hread (given ++ "version: 2\n")
    ⟨some 2, some false, none, some ⟨none, some ["-q"]⟩, none, none⟩ (by decide +kernel)
  obtain ⟨-, -, hinvalid, -⟩ := hread "formatter:\n  program: ''\nversion: 1\n"
    ⟨some 1, none, none, some ⟨some "", none⟩, none, none⟩ (by decide +kernel)
  obtain ⟨hadjusted, -, -, -, hminimal⟩ := hchosen c choices
  refine ⟨(hok c).mpr (by decide +kernel), hmissing.mpr (by decide +kernel),
    (hunsupported 2).mpr (by decide +kernel), (hinvalid _).mpr (by decide +kernel),
    hadjusted.trans (by decide), ?_⟩
  exact (hminimal ["def ", "class "]).mpr (by decide)

/-- The words of a refused conversion are those of the refused configuration, but with a heading
before them. -/
theorem refusal_has_heading :
    let c : Configuration := { command := ⟨"", []⟩ }
    let surroundings : Surroundings :=
      ⟨fun _ => .error ⟨1, 1, .unexpected ""⟩, fun _ _ => .notFound⟩
    c.validate = .error (.invalid .noProgram) ∧
      (convert surroundings c .empty "a" "b").result =
        .error (.configuration (.invalid .noProgram)) ∧
      (ConfigurationFault.invalid .noProgram).message =
        "Validation error: formatter.program must not be empty" ∧
      (ConversionFault.configuration (.invalid .noProgram)).message =
        "Configuration error: Validation error: formatter.program must not be empty" ∧
      (ConversionFault.configuration (.invalid .noProgram)).message ≠
        (ConfigurationFault.invalid .noProgram).message := by
  intro c surroundings
  have hinvalid : c.validate = .error (.invalid .noProgram) := by decide +kernel
  exact ⟨hinvalid, (convert_eq_configuration_iff surroundings c .empty "a" "b").mpr hinvalid, rfl,
    rfl, by decide +kernel⟩

end NotebookExport
