import NotebookExport.Json.Value

/-!
# Decoding JSON values

From JSON values to values of a certain form. A record may be written as an object, with its fields
in any order and other members between them, or as an array of its fields in their order, of which
the last may be left out.
-/

namespace NotebookExport.Json

/-- What a decoder does: a value of the form, or the first fault. -/
abbrev Decoder (α : Type) := Value → Except Fault α

namespace Decoder

/-- A natural number of 32 bits. -/
def natural32 : Decoder Nat
  | .number (.ok (.natural n)) stop =>
    if n < Nat.pow 2 32 then .ok n
    else .error ⟨.wrongValue (Number.natural n).describe "u32", stop⟩
  | .number (.ok (.negative n)) stop =>
    .error ⟨.wrongValue (Number.negative n).describe "u32", stop⟩
  | value => .error (value.mismatch "u32")

def string : Decoder String
  | .string (.ok s) _ => .ok s
  | value => .error (value.mismatch "a string")

/-- `null`, or a value. -/
def optional {α : Type} (decode : Decoder α) : Decoder (Option α)
  | .null _ => .ok none
  | value => (decode value).map some

/-- The elements of an array. -/
def elements {α : Type} (decode : Decoder α) : Elements → Except Fault (List α)
  | .stop (.ok _) => .ok []
  | .stop (.error reason) => .error reason.wanted
  | .next _ value _ rest =>
    (decode value).bind fun x => (elements decode rest).map fun xs => x :: xs

def list {α : Type} (decode : Decoder α) : Decoder (List α)
  | .array _ values => elements decode values
  | value => .error (value.mismatch "a sequence")

end Decoder

/-- How a record is decoded: its fields in order, and what to do with the value of one of them.
`left` is where the reader stands if the value cannot be used. -/
structure RecordForm (σ : Type) where
  name : String
  fields : List String
  /-- The record before any field is known. -/
  empty : σ
  set : (field : String) → (value : Value) → (left : Place) → σ → Except Fault σ
  /-- The field that has to be there. -/
  required : Option String

namespace RecordForm

variable {σ : Type}

/-- Decodes the members of an object; `seen` holds the fields that are known already. -/
def members (form : RecordForm σ) : List String → σ → Members → Except Fault σ
  | seen, record, .stop (.ok stop) =>
    match form.required with
    | some field => if field ∈ seen then .ok record else .error ⟨.missingField field, stop⟩
    | none => .ok record
  | _, _, .stop (.error reason) => .error reason.wanted
  | _, _, .next (.error fault) _ _ _ _ => .error fault
  | seen, record, .next (.ok key) keyLeft value left rest =>
    if key ∈ form.fields then
      if key ∈ seen then .error ⟨.repeatedField key, keyLeft⟩
      else
        match form.set key value left record with
        | .ok record => members form (key :: seen) record rest
        | .error fault => .error fault
    else
      match value.passOver with
      | some fault => .error fault
      | none => members form seen record rest

/-- What is wrong behind the last field of a record that is written as an array. -/
def causeBehindLast : Cause → Cause
  | .expectedListCommaOrEnd | .endInValue => .trailingCharacters
  | cause => cause

/-- The name of a record form with the number of its fields. -/
def description (form : RecordForm σ) : String :=
  let plural := if form.fields.length = 1 then "" else "s"
  form.name ++ " with " ++ toString form.fields.length ++ " element" ++ plural

/-- Decodes the elements of an array as the remaining fields. -/
def elements (form : RecordForm σ) : List String → σ → Elements → Except Fault σ
  | [], record, .stop (.ok _) => .ok record
  | [], _, .stop (.error reason) =>
    .error { reason.wanted with cause := causeBehindLast reason.wanted.cause }
  | [], _, .next start _ _ _ => .error ⟨.trailingCharacters, start⟩
  | field :: _, record, .stop (.ok stop) =>
    if form.required = some field then .error ⟨.wrongLength 0 form.description, stop⟩
    else .ok record
  | _ :: _, _, .stop (.error reason) => .error reason.wanted
  | field :: fields, record, .next _ value left rest =>
    match form.set field value left record with
    | .ok record => elements form fields record rest
    | .error fault => .error fault

/-- Decodes a record. -/
def decode (form : RecordForm σ) : Decoder σ
  | .object _ values => form.members [] form.empty values
  | .array _ values => form.elements form.fields form.empty values
  | value => .error (value.mismatch form.name)

end RecordForm

end NotebookExport.Json
