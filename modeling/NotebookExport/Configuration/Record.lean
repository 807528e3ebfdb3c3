import NotebookExport.Configuration
import NotebookExport.Yaml.Decode

/-!
# Configuration documents

The form of a configuration as a YAML document, and the configuration that a document holds.
Everything may be left out but the version. What is left out, also inside of a section, is as it is
in the standard configuration.
-/

namespace NotebookExport

open Yaml

/-- What a document says about the program that formats. -/
structure FormatterRecord where
  program : Option String := none
  args : Option (List String) := none
  deriving DecidableEq

/-- What a document says about formatting without a program. -/
structure MinimalRecord where
  markers : Option (List String) := none
  deriving DecidableEq

/-- What a document says about markdown. -/
structure MarkdownRecord where
  commentMark : Option String := none
  deriving DecidableEq

/-- What a document says. -/
structure ConfigurationRecord where
  version : Option Nat := none
  prunesUnused : Option Bool := none
  formatsExternally : Option Bool := none
  formatter : Option FormatterRecord := none
  minimal : Option MinimalRecord := none
  markdown : Option MarkdownRecord := none
  deriving DecidableEq

/-- Decodes a value, and puts it into a record. -/
def setting {α σ : Type} (decode : Decoder α) (set : α → σ → σ) : Decoder (σ → σ) := fun p =>
  (decode p).map fun (value, rest) => (set value, rest)

def FormatterRecord.form : RecordForm FormatterRecord where
  name := "FormatterConfig"
  fields := ["program", "args"]
  empty := {}
  set := fun field =>
    if field = "program" then
      setting .string fun program record => { record with program := some program }
    else setting (.list .string) fun args record => { record with args := some args }

def MinimalRecord.form : RecordForm MinimalRecord where
  name := "MinimalConfig"
  fields := ["definition_markers"]
  empty := {}
  set := fun _ => setting (.list .string) fun markers _ => ⟨some markers⟩

def MarkdownRecord.form : RecordForm MarkdownRecord where
  name := "MarkdownConfig"
  fields := ["comment_prefix"]
  empty := {}
  set := fun _ => setting .string fun mark _ => ⟨some mark⟩

namespace ConfigurationRecord

def form : RecordForm ConfigurationRecord where
  name := "ConfigFileV1"
  fields := ["version", "prune_unused", "external_format", "formatter", "minimal", "markdown"]
  empty := {}
  set := fun field =>
    if field = "version" then
      setting (.optional .natural32) fun version record => { record with version := version }
    else if field = "prune_unused" then
      setting (.optional .bool) fun prunes record => { record with prunesUnused := prunes }
    else if field = "external_format" then
      setting (.optional .bool) fun formats record => { record with formatsExternally := formats }
    else if field = "formatter" then
      setting (.optional FormatterRecord.form.decode) fun formatter record =>
        { record with formatter := formatter }
    else if field = "minimal" then
      setting (.optional MinimalRecord.form.decode) fun minimal record =>
        { record with minimal := minimal }
    else
      setting (.optional MarkdownRecord.form.decode) fun markdown record =>
        { record with markdown := markdown }

/-- The configuration that a document asks for, its version aside. -/
def configuration (r : ConfigurationRecord) : Configuration :=
  let standard := Configuration.standard
  let formatter := r.formatter.getD {}
  { prunesUnused := r.prunesUnused.getD standard.prunesUnused
    formatsExternally := r.formatsExternally.getD standard.formatsExternally
    command :=
      ⟨formatter.program.getD standard.command.program, formatter.args.getD standard.command.args⟩
    markers := (r.minimal.bind MinimalRecord.markers).getD standard.markers
    commentMark := (r.markdown.bind MarkdownRecord.commentMark).getD standard.commentMark }

end ConfigurationRecord

/-- Why there is no configuration. -/
inductive ConfigurationFault where
  | missingVersion
  | unsupportedVersion (found : Nat)
  | unreadable (fault : FileFault)
  | yaml (fault : Fault)
  | invalid (fault : SettingFault)
  deriving DecidableEq

/-- The version of the form. -/
def configurationVersion : Nat := 1

def ConfigurationFault.message : ConfigurationFault → String
  | .missingVersion =>
    "Missing 'version' field in configuration file. " ++
      "Add 'version: 1' to the top of your YAML file."
  | .unsupportedVersion found =>
    "Unsupported configuration version " ++ toString found ++ ". Supported versions: " ++
      toString configurationVersion
  | .unreadable fault => "IO error: " ++ fault.message
  | .yaml fault => "YAML parsing error: " ++ fault.message
  | .invalid fault => "Validation error: " ++ fault.message

namespace Configuration

/-- Refuses a configuration that makes no sense. -/
def validate (c : Configuration) : Except ConfigurationFault Configuration :=
  match c.fault? with
  | some fault => .error (.invalid fault)
  | none => .ok c

/-- The configuration in a document. -/
def ofRecord (record : ConfigurationRecord) : Except ConfigurationFault Configuration :=
  match record.version with
  | none => .error .missingVersion
  | some version =>
    if version = configurationVersion then record.configuration.validate
    else .error (.unsupportedVersion version)

/-- The configuration in a YAML text. -/
def ofText (text : String) : Except ConfigurationFault Configuration :=
  match ConfigurationRecord.form.ofDocument (Document.ofText text) with
  | .error fault => .error (.yaml fault)
  | .ok record => ofRecord record

/-- The configuration in a file. -/
def load (files : FileSystem) (path : String) : Except ConfigurationFault Configuration :=
  match files.readText path with
  | .error fault => .error (.unreadable fault)
  | .ok text => ofText text

end Configuration

end NotebookExport
