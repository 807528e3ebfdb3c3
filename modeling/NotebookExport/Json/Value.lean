import NotebookExport.Json.Fault
import NotebookExport.Text.Quoted
import NotebookExport.Text.Shortest

/-!
# JSON values

A JSON document as it was read: values with the places at which they end, and the first break in
its syntax, if there is one, as part of the tree. What comes before the break can be looked at as if
the text were whole, so that whoever decodes a document finds the first fault in it, be it one of
syntax or of meaning.

A value that is not wanted is passed over, and then only its syntax counts: its numbers may be of
any size, and its strings may hold halves of surrogate pairs.
-/

namespace NotebookExport.Json

open Text

/-- A number, as far as it is told apart: naturals and negative integers of 64 bits, and all others,
which are kept as `± digits · 10 ^ exponent`. -/
inductive Number where
  | natural (n : Nat)
  /-- The negative of a number. -/
  | negative (n : Nat)
  | fraction (isNegative : Bool) (digits : Nat) (exponent : Int)
  deriving DecidableEq

mutual

inductive Value where
  | null (stop : Place)
  | bool (value : Bool) (stop : Place)
  /-- A number, or why it cannot be used. -/
  | number (value : Except Fault Number) (stop : Place)
  /-- A text, or why it cannot be used. -/
  | string (value : Except Fault String) (stop : Place)
  | array (start : Place) (elements : Elements)
  | object (start : Place) (members : Members)
  /-- The text breaks off, or no value begins here. -/
  | broken (reason : Break)

/-- The elements of an array up to its end, or to a break in the syntax. `left` is where the reader
stands after an element that turns out to be unusable. -/
inductive Elements where
  | stop (stop : Except Break Place)
  | next (start : Place) (value : Value) (left : Place) (rest : Elements)

/-- The members of an object up to its end, or to a break in the syntax. `keyLeft` and `left` are
where the reader stands after a key or a value that turns out to be unusable. -/
inductive Members where
  | stop (stop : Except Break Place)
  | next (key : Except Fault String) (keyLeft : Place) (value : Value) (left : Place)
      (rest : Members)

end

/-! ### Numbers -/

namespace Number

/-- The power of ten by which a step of the conversion can multiply. -/
def largestPower : Nat := 308

/-- The binary number for `digits · 10 ^ exponent`, in steps of at most the largest power; `none` if
it is too large. -/
def scale : Nat → Float → Int → Option Float
  | 0, x, _ => some x
  | fuel + 1, x, exponent =>
    if exponent.natAbs ≤ largestPower then
      let power := Float.ofScientific 1 false exponent.natAbs
      if 0 ≤ exponent then
        let y := x * power
        if y.isInf then none else some y
      else some (x / power)
    else if x == 0.0 then some x
    else if 0 ≤ exponent then none
    else scale fuel (x / Float.ofScientific 1 false largestPower) (exponent + largestPower)

/-- The binary number for a fraction; `none` if it is too large. -/
def toFloat? (isNegative : Bool) (digits : Nat) (exponent : Int) : Option Float :=
  (scale 12 (Float.ofNat digits) exponent).map fun x => if isNegative then -x else x

/-- What a number is called in a message. -/
def describe : Number → String
  | .natural n => "integer `" ++ toString n ++ "`"
  | .negative n => "integer `-" ++ toString n ++ "`"
  | .fraction isNegative digits exponent =>
    "floating point `" ++ Shortest.text ((toFloat? isNegative digits exponent).getD 0.0) ++ "`"

end Number

/-! ### Faults -/

namespace Value

/-- The fault in a value that is not of the expected type. -/
def mismatch (expected : String) : Value → Fault
  | .null stop => ⟨.wrongType "null" expected, stop⟩
  | .bool b stop =>
    ⟨.wrongType (if b then "boolean `true`" else "boolean `false`") expected, stop⟩
  | .number (.ok n) stop => ⟨.wrongType n.describe expected, stop⟩
  | .number (.error fault) _ => fault
  | .string (.ok s) stop => ⟨.wrongType ("string " ++ quote s) expected, stop⟩
  | .string (.error fault) _ => fault
  | .array start _ => ⟨.wrongType "sequence" expected, start⟩
  | .object start _ => ⟨.wrongType "map" expected, start⟩
  | .broken reason => reason.wanted

end Value

mutual

/-- The first break in a value that is passed over. -/
def Value.passOver : Value → Option Fault
  | .array _ elements => elements.passOver
  | .object _ members => members.passOver
  | .broken reason => some reason.passedOver
  | _ => none

def Elements.passOver : Elements → Option Fault
  | .stop (.ok _) => none
  | .stop (.error reason) => some reason.passedOver
  | .next _ value _ rest => value.passOver.or rest.passOver

def Members.passOver : Members → Option Fault
  | .stop (.ok _) => none
  | .stop (.error reason) => some reason.passedOver
  | .next _ _ value _ rest => value.passOver.or rest.passOver

end

mutual

/-- The first fault in a value that is kept as it is. Arrays and objects may be nested `room` deep.
-/
def Value.keep (room : Nat) : Value → Option Fault
  | .null _ => none
  | .bool _ _ => none
  | .number (.ok _) _ => none
  | .number (.error fault) _ => some fault
  | .string (.ok _) _ => none
  | .string (.error fault) _ => some fault
  | .array start elements =>
    if room = 0 then some ⟨.tooDeep, ⟨start.line, start.column + 1⟩⟩ else elements.keep (room - 1)
  | .object start members =>
    if room = 0 then some ⟨.tooDeep, ⟨start.line, start.column + 1⟩⟩ else members.keep (room - 1)
  | .broken reason => some reason.wanted

def Elements.keep (room : Nat) : Elements → Option Fault
  | .stop (.ok _) => none
  | .stop (.error reason) => some reason.wanted
  | .next _ value _ rest => (value.keep room).or (rest.keep room)

def Members.keep (room : Nat) : Members → Option Fault
  | .stop (.ok _) => none
  | .stop (.error reason) => some reason.wanted
  | .next (.error fault) _ _ _ _ => some fault
  | .next (.ok _) _ value _ rest => (value.keep room).or (rest.keep room)

end

end NotebookExport.Json
