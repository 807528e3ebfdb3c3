import NotebookExport.Text.Shortest
import NotebookExport.Text.Quoted
import NotebookExport.Yaml.Event

/-!
# What plain scalars say

A plain scalar is nothing, a truth value, a number, or else the text it is. Numbers may be signed,
and whole numbers may be written to the base two, eight or sixteen. Digits that begin with a zero
are no number.
-/

namespace NotebookExport.Yaml

open Text

/-- What a scalar says. -/
inductive Resolved where
  | null
  | bool (value : Bool)
  | integer (value : Int)
  | float (isNegative : Bool) (digits : Nat) (power : Int)
  /-- A number without bounds, or none at all, by its name. -/
  | named (name : String)
  | text (value : String)
  deriving DecidableEq

def isNull (text : String) : Bool := text = "null" || text = "Null" || text = "NULL" || text = "~"

def bool? (text : String) : Option Bool :=
  if text = "true" || text = "True" || text = "TRUE" then some true
  else if text = "false" || text = "False" || text = "FALSE" then some false
  else none

/-! ### Whole numbers -/

/-- A text without a sign in front of it. -/
def dropSign : List Char → List Char
  | '+' :: rest => rest
  | '-' :: rest => rest
  | text => text

/-- Digits of which the first is a zero and not the last. -/
def hasLeadingZero (text : List Char) : Bool :=
  match dropSign text with
  | '0' :: next :: rest => (next :: rest).all Char.isDigit
  | _ => false

/-- The number that digits to a base stand for. -/
def digits? (base : Nat) (text : List Char) : Option Nat :=
  if text.isEmpty then none
  else text.foldl (fun n? c => do
    let n ← n?
    let digit ← hexValue? c
    if digit < base then some (base * n + digit) else none) (some 0)

/-- The size of a number without its sign. -/
def magnitude? : List Char → Option Nat
  | '0' :: 'x' :: rest => digits? 16 rest
  | '0' :: 'o' :: rest => digits? 8 rest
  | '0' :: 'b' :: rest => digits? 2 rest
  | text => if hasLeadingZero text then none else digits? 10 text

/-- A natural number, which may have a plus sign. -/
def natural? (text : List Char) : Option Nat :=
  match text with
  | '+' :: rest => magnitude? rest
  | _ => magnitude? text

/-- A number with a minus sign, by its size. -/
def negative? (text : List Char) : Option Nat :=
  match text with
  | '-' :: rest => magnitude? rest
  | _ => none

/-- A whole number of 128 bits. -/
def integer? (text : List Char) : Option Int :=
  match natural? text, negative? text with
  | some n, _ => if n < Nat.pow 2 128 then some n else none
  | none, some n => if n ≤ Nat.pow 2 127 then some (-n) else none
  | none, none => none

/-! ### Numbers with a point -/

/-- Digits, and what is behind them. -/
def takeDigits (text : List Char) : List Char × List Char :=
  (text.takeWhile Char.isDigit, text.dropWhile Char.isDigit)

/-- The number behind the letter of an exponent. -/
def exponent? : List Char → Option Int
  | [] => some 0
  | e :: rest =>
    if e = 'e' || e = 'E' then
      match rest with
      | '-' :: digits => (digits? 10 digits).map fun n => -(n : Int)
      | '+' :: digits => (digits? 10 digits).map fun n => (n : Int)
      | digits => (digits? 10 digits).map fun n => (n : Int)
    else none

/-- A decimal number without its sign, as digits and a power of ten. -/
def decimal? (text : List Char) : Option (Nat × Int) := do
  let (whole, rest) := takeDigits text
  let (fraction, rest) := match rest with
    | '.' :: rest => takeDigits rest
    | _ => ([], rest)
  let power ← exponent? rest
  let digits ← digits? 10 (whole ++ fraction)
  return (digits, power - fraction.length)

/-- The bound from which on numbers are no longer rounded to a binary number of 64 bits. -/
def floatBound : Nat := Nat.pow 2 1024 - Nat.pow 2 970

/-- Whether `digits · 10 ^ power` is below the bound. Where the size of the power tells, the power
itself is not computed. -/
def isFinite (digits : Nat) (power : Int) : Bool :=
  let places := (Nat.toDigits 10 digits).length + power
  digits = 0 || places ≤ 308 ||
    (places ≤ 310 &&
      digits * Nat.pow 10 power.toNat < floatBound * Nat.pow 10 (-power).toNat)

/-- A number with a point or an exponent, if it is in bounds. -/
def float? (text : List Char) : Option (Bool × Nat × Int) :=
  let (isNegative, size) := match text with
    | '+' :: rest => (false, rest)
    | '-' :: rest => (true, rest)
    | _ => (false, text)
  (decimal? size).bind fun (digits, power) =>
    if isFinite digits power then some (isNegative, digits, power) else none

/-- What is not a number, or not a finite one, by its name. -/
def named? (text : List Char) : Option String :=
  let unsigned := match text with
    | '+' :: rest => rest
    | _ => text
  if [".inf", ".Inf", ".INF"].contains (String.ofList unsigned) then some "inf"
  else if ["-.inf", "-.Inf", "-.INF"].contains (String.ofList text) then some "-inf"
  else if [".nan", ".NaN", ".NAN"].contains (String.ofList text) then some "NaN"
  else none

/-! ### Scalars -/

/-- What a plain scalar with this text says. -/
def Resolved.ofPlain (text : String) : Resolved :=
  let chars := text.toList
  if text = "" || isNull text then .null
  else
    match bool? text, integer? chars with
    | some value, _ => .bool value
    | none, some value => .integer value
    | none, none =>
      if hasLeadingZero chars then .text text
      else
        match named? chars, float? chars with
        | some name, _ => .named name
        | none, some (isNegative, digits, power) => .float isNegative digits power
        | none, none => .text text

/-- The binary number of 64 bits nearest to a decimal one. -/
def nearestFloat (isNegative : Bool) (digits : Nat) (power : Int) : Float :=
  let lowest : Int := -(((Nat.toDigits 10 digits).length + 400 : Nat) : Int)
  let near := max lowest power
  let size := Float.ofScientific (digits * Nat.pow 10 near.toNat) true (-near).toNat
  if isNegative then -size else size

/-- What something of a kind is called in messages. -/
def Resolved.describe : Resolved → String
  | .null => "unit value"
  | .bool value => "boolean `" ++ toString value ++ "`"
  | .integer value =>
    let number := "integer `" ++ toString value ++ "`"
    if (Nat.pow 2 64 : Nat) ≤ value then number ++ " as u128"
    else if value < -(Nat.pow 2 63 : Nat) then number ++ " as i128"
    else number
  | .float isNegative digits power =>
    "floating point `" ++ Shortest.positionalText (nearestFloat isNegative digits power) ++ "`"
  | .named name => "floating point `" ++ name ++ "`"
  | .text value => "string " ++ quote value

end NotebookExport.Yaml
