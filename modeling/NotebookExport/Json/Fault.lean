import NotebookExport.Text.Cursor

/-!
# Faults in JSON text

What can be wrong with a text that should be a JSON document of a certain form, and where. The place
is a line and the number of bytes of that line that lie before the place.
-/

namespace NotebookExport.Json

open Text

/-- A line, counted from one, and the bytes of it that come before. -/
structure Place where
  line : Nat
  column : Nat
  deriving DecidableEq

/-- The place of a cursor. -/
def placeOf (c : Cursor) : Place := ⟨c.position.row + 1, c.position.column⟩

/-- The place one byte further on: the next byte is to blame. -/
def placeAfter (c : Cursor) : Place :=
  match c.rest with
  | [] => placeOf c
  | x :: _ =>
    if x = '\n' then ⟨c.position.row + 2, 0⟩ else ⟨c.position.row + 1, c.position.column + 1⟩

/-- What is wrong. -/
inductive Cause where
  | endInList | endInObject | endInString | endInValue
  | expectedColon | expectedListCommaOrEnd | expectedObjectCommaOrEnd
  | expectedWord | expectedValue
  | invalidEscape | invalidNumber | numberOutOfRange
  | controlCharacter | keyIsNoString
  | loneSurrogate | unfinishedSurrogate
  | trailingComma | trailingCharacters | tooDeep
  /-- A value of another type than the expected one. -/
  | wrongType (found expected : String)
  /-- A number that the expected type does not hold. -/
  | wrongValue (found expected : String)
  | wrongLength (length : Nat) (expected : String)
  | missingField (name : String)
  | repeatedField (name : String)
  /-- A value that has none of the forms that a type allows. -/
  | noForm (type : String)
  deriving DecidableEq

def Cause.message : Cause → String
  | .endInList => "EOF while parsing a list"
  | .endInObject => "EOF while parsing an object"
  | .endInString => "EOF while parsing a string"
  | .endInValue => "EOF while parsing a value"
  | .expectedColon => "expected `:`"
  | .expectedListCommaOrEnd => "expected `,` or `]`"
  | .expectedObjectCommaOrEnd => "expected `,` or `\x7d`"
  | .expectedWord => "expected ident"
  | .expectedValue => "expected value"
  | .invalidEscape => "invalid escape"
  | .invalidNumber => "invalid number"
  | .numberOutOfRange => "number out of range"
  | .controlCharacter => "control character (\\u0000-\\u001F) found while parsing a string"
  | .keyIsNoString => "key must be a string"
  | .loneSurrogate => "lone leading surrogate in hex escape"
  | .unfinishedSurrogate => "unexpected end of hex escape"
  | .trailingComma => "trailing comma"
  | .trailingCharacters => "trailing characters"
  | .tooDeep => "recursion limit exceeded"
  | .wrongType found expected => "invalid type: " ++ found ++ ", expected " ++ expected
  | .wrongValue found expected => "invalid value: " ++ found ++ ", expected " ++ expected
  | .wrongLength length expected =>
    "invalid length " ++ toString length ++ ", expected " ++ expected
  | .missingField name => "missing field `" ++ name ++ "`"
  | .repeatedField name => "duplicate field `" ++ name ++ "`"
  | .noForm type => "data did not match any variant of untagged enum " ++ type

structure Fault where
  cause : Cause
  place : Place
  deriving DecidableEq

def Fault.message (fault : Fault) : String :=
  fault.cause.message ++ " at line " ++ toString fault.place.line ++ " column " ++
    toString fault.place.column

/-- A break in the syntax, as it is reported where the value is wanted and where it is passed over.
-/
structure Break where
  wanted : Fault
  passedOver : Fault
  deriving DecidableEq

/-- A break that is reported in one way. -/
def Break.plain (cause : Cause) (place : Place) : Break := ⟨⟨cause, place⟩, ⟨cause, place⟩⟩

/-- A break at one place that is reported in two ways. -/
def Break.either (wanted passedOver : Cause) (place : Place) : Break :=
  ⟨⟨wanted, place⟩, ⟨passedOver, place⟩⟩

end NotebookExport.Json
