import NotebookExport.Yaml.Document
import NotebookExport.Yaml.Resolved

/-!
# Decoding YAML documents

From documents to values of a certain form. Decoding goes along the events, so that of a value that
does not fit and a break in the syntax the one that comes first is reported. Texts take any scalar
as it is written; truth values and numbers take plain scalars only; a record is a mapping.
-/

namespace NotebookExport.Yaml

/-- Where a decoder stands: the document, the way to the value, and the events from there on. -/
structure Place where
  document : Document
  path : Path
  rest : List (Event × Option Nat)

/-- A value that does not fit. Where that is may be left to what is around it. -/
inductive DecodeFault where
  | fault (reason : Fault)
  | unplaced (reason : Misfit)

/-- What a decoder does: a value and the events behind it, or the first fault. -/
abbrev Decoder (α : Type) := Place → Except DecodeFault (α × List (Event × Option Nat))

namespace DecodeFault

/-- Gives a fault a place, if it has none. -/
def place (mark : Mark) (path : Path) : DecodeFault → DecodeFault
  | .unplaced reason => .fault (.misfit reason mark path)
  | other => other

def toFault : DecodeFault → Fault
  | .fault reason => reason
  | .unplaced reason => .misfit reason .origin .root

end DecodeFault

namespace Place

/-- The fault of a document that ends too early. -/
def endFault (p : Place) : DecodeFault := .fault (p.document.fault.getD .endOfText)

/-- A misfit at an event. -/
def misfit (p : Place) (reason : Misfit) (event : Event) : DecodeFault :=
  .fault (.misfit reason event.mark p.path)

end Place

/-! ### What values are called -/

def boolTag : String := "tag:yaml.org,2002:bool"

def integerTag : String := "tag:yaml.org,2002:int"

def floatTag : String := "tag:yaml.org,2002:float"

def nullTag : String := "tag:yaml.org,2002:null"

namespace Scalar

/-- What a scalar without a tag of the standard says. -/
def resolve (s : Scalar) : Resolved :=
  if s.style = .plain then .ofPlain s.text else .text s.text

/-- A scalar whose tag asks for something that its text does not say. -/
def wrongText (s : Scalar) (expected : String) : Misfit :=
  .wrongValue ("string " ++ Text.quote s.text) expected

/-- Why a scalar is not of an expected type. -/
def mismatch (s : Scalar) (expected : String) : Misfit :=
  let wrong (found : Resolved) : Misfit := .wrongType found.describe expected
  let asked (found? : Option Resolved) (type : String) : Misfit :=
    (found?.map wrong).getD (s.wrongText type)
  match s.tag with
  | none => wrong s.resolve
  | some tag =>
    if tag = boolTag then asked ((bool? s.text).map .bool) "a boolean"
    else if tag = integerTag then asked ((integer? s.text.toList).map .integer) "an integer"
    else if tag = floatTag then
      let named := (named? s.text.toList).map Resolved.named
      asked (named.or ((float? s.text.toList).map fun (sign, digits, power) =>
        .float sign digits power)) "a float"
    else if tag = nullTag then asked (if isNull s.text then some .null else none) "null"
    else if tag.startsWith "!" then wrong s.resolve
    else wrong (.text s.text)

/-- Whether a scalar may be read as something else than text: it is plain, or it is tagged so. -/
def isOpen (s : Scalar) (tag : String) : Bool :=
  s.style = .plain || (s.style = .literal && s.tag = some tag)

/-- Whether a scalar is left out. -/
def isLeftOut (s : Scalar) : Bool := s.style = .plain && s.text = ""

end Scalar

/-- Why the node that begins with an event is not of an expected type. -/
def EventKind.mismatch (expected : String) : EventKind → Misfit
  | .scalar s => s.mismatch expected
  | .sequenceStart => .wrongType "sequence" expected
  | .mappingStart => .wrongType "map" expected
  | _ => .wrongType "" expected

namespace Decoder

variable {α : Type}

/-- Decodes what begins with the next event. A reference is followed once: what it leads to is no
reference. -/
def ofEvent (decode : Place → Event → Except DecodeFault (α × List (Event × Option Nat))) :
    Decoder α := fun p =>
  match p.rest with
  | [] => .error p.endFault
  | (event, none) :: rest => decode { p with rest := rest } event
  | (_, some target) :: rest =>
    match p.document.events.drop target with
    | (event, none) :: inner =>
      (decode { p with rest := inner } event).map fun (value, _) => (value, rest)
    | _ => .error p.endFault

/-- Decodes a scalar by what it says. -/
def ofScalar (expected : String) (read : Scalar → Except Misfit α) : Decoder α :=
  ofEvent fun p event =>
    match event.kind with
    | .scalar s =>
      match read s with
      | .ok value => .ok (value, p.rest)
      | .error reason => .error (p.misfit reason event)
    | kind => .error (p.misfit (kind.mismatch expected) event)

/-- A natural number of 32 bits. -/
def natural32 : Decoder Nat := ofScalar "u32" fun s =>
  match if s.isOpen integerTag then natural? s.text.toList else none with
  | some n =>
    if n < Nat.pow 2 32 then .ok n
    else if n < Nat.pow 2 64 then .error (.wrongValue (Resolved.integer n).describe "u32")
    else .error (s.mismatch "u32")
  | none => .error (s.mismatch "u32")

def bool : Decoder Bool := ofScalar "a boolean" fun s =>
  match if s.isOpen boolTag then bool? s.text else none with
  | some b => .ok b
  | none => .error (s.mismatch "a boolean")

def string : Decoder String := ofScalar "a string" fun s => .ok s.text

/-- Nothing, or a value. -/
def optional (decode : Decoder α) : Decoder (Option α) := fun p =>
  let value : Except DecodeFault (Option α × List (Event × Option Nat)) :=
    (decode p).map fun (value, rest) => (some value, rest)
  let nothing : Except DecodeFault (Option α × List (Event × Option Nat)) :=
    .ok (none, p.rest.drop 1)
  let target := match p.rest with
    | (_, some target) :: _ => p.document.events.drop target
    | rest => rest
  match target with
  | (⟨.scalar s, _, _⟩, none) :: _ =>
    if s.style = .plain then
      match s.tag with
      | some tag =>
        if tag = nullTag then
          if isNull s.text then nothing else .error (.unplaced (s.wrongText "null"))
        else value
      | none => if s.text = "" || isNull s.text then nothing else value
    else value
  | _ => value

/-- The entries of a sequence from an index on. -/
def entries (decode : Decoder α) : Nat → Nat → Decoder (List α)
  | 0, _, p => .error p.endFault
  | fuel + 1, index, p =>
    match p.rest with
    | [] => .error p.endFault
    | (⟨.sequenceEnd, _, _⟩, _) :: rest => .ok ([], rest)
    | _ =>
      match decode { p with path := Path.item p.path index } with
      | .error fault => .error fault
      | .ok (value, rest) =>
        (entries decode fuel (index + 1) { p with rest := rest }).map fun (values, rest) =>
          (value :: values, rest)

def list (decode : Decoder α) : Decoder (List α) := ofEvent fun p event =>
  match event.kind with
  | .sequenceStart => (entries decode (p.rest.length + 1) 0 p).mapError (·.place event.mark p.path)
  | .scalar s =>
    if s.isLeftOut then .ok ([], p.rest)
    else .error (p.misfit (s.mismatch "a sequence") event)
  | kind => .error (p.misfit (kind.mismatch "a sequence") event)

end Decoder

/-- How a record is decoded: its fields in order, and what to do with the value of one of them. -/
structure RecordForm (σ : Type) where
  name : String
  fields : List String
  /-- The record before any field is known. -/
  empty : σ
  set : (field : String) → Decoder (σ → σ)

namespace RecordForm

variable {σ : Type}

/-- The key of a member, and the way to its value. -/
def key (form : RecordForm σ) : Decoder (String × Path) := fun p =>
  let isReference := match p.rest with
    | (_, some _) :: _ => true
    | _ => false
  let read : Decoder String := Decoder.ofScalar "field identifier" fun s =>
    if s.text ∈ form.fields then .ok s.text else .error (.unknownField s.text form.fields)
  (read p).map fun (name, rest) =>
    ((name, Path.field p.path (if isReference then "?" else name)), rest)

/-- Decodes the members of a mapping; `seen` holds the fields that are known already. -/
def members (form : RecordForm σ) : Nat → List String → σ → Decoder σ
  | 0, _, _, p => .error p.endFault
  | fuel + 1, seen, record, p =>
    match p.rest with
    | [] => .error p.endFault
    | (⟨.mappingEnd, _, _⟩, _) :: rest => .ok (record, rest)
    | _ =>
      match form.key p with
      | .error fault => .error fault
      | .ok ((name, path), rest) =>
        if name ∈ seen then .error (.unplaced (.repeatedField name))
        else
          match form.set name { p with path := path, rest := rest } with
          | .error fault => .error fault
          | .ok (change, rest) =>
            members form fuel (name :: seen) (change record) { p with rest := rest }

/-- Decodes a record. What is left out counts as a mapping without members. -/
def decode (form : RecordForm σ) : Decoder σ := Decoder.ofEvent fun p event =>
  let expected := "struct " ++ form.name
  match event.kind with
  | .mappingStart =>
    (form.members (p.rest.length + 1) [] form.empty p).mapError (·.place event.mark p.path)
  | .scalar s =>
    if s.isLeftOut then .ok (form.empty, p.rest)
    else .error (p.misfit (s.mismatch expected) event)
  | kind => .error (p.misfit (kind.mismatch expected) event)

/-- Decodes a document, which has to be the only one of its text. An empty text counts as a record
without fields. -/
def ofDocument (form : RecordForm σ) (document : Document) : Except Fault σ :=
  let decoded : Except DecodeFault σ :=
    if document.events.isEmpty && document.fault.isNone then .ok form.empty
    else (form.decode ⟨document, .root, document.events⟩).map Prod.fst
  match decoded with
  | .error fault => .error fault.toFault
  | .ok record =>
    match document.fault with
    | some fault => .error fault
    | none => if document.isOnly then .ok record else .error .moreDocuments

end RecordForm

end NotebookExport.Yaml
