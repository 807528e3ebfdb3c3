import NotebookExport.Json.Value

/-!
# Numbers and strings

Reading the numbers and strings of JSON text. Each is read twice: as it is where the value is
wanted, and as it is where it is passed over. The two differ in what they refuse and in how they
report it, never in where a value ends.
-/

namespace NotebookExport.Json

open Text

def isBlank (c : Char) : Bool := c = ' ' || c = '\n' || c = '\t' || c = '\r'

def skipBlanks (c : Cursor) : Cursor := c.skipWhile isBlank

/-! ### Numbers -/

/-- The digits in front of a cursor, and the cursor behind them. -/
def spanDigits (c : Cursor) : List Char × Cursor :=
  (c.rest.takeWhile Char.isDigit, c.skipWhile Char.isDigit)

/-- The value of a row of digits. -/
def digitsValue (digits : List Char) : Nat :=
  digits.foldl (fun n c => 10 * n + (c.toNat - '0'.toNat)) 0

/-- The largest number that digits are collected into. -/
def maxDigits : Nat := Nat.pow 2 64 - 1

/-- The largest power of ten that an exponent is collected into. -/
def maxExponent : Nat := Nat.pow 2 31 - 1

/-- Collects digits as long as the number stays in its bounds; the rest is left over. -/
def collectDigits (n : Nat) : List Char → Nat × List Char
  | [] => (n, [])
  | c :: cs =>
    let next := 10 * n + (c.toNat - '0'.toNat)
    if maxDigits < next then (n, c :: cs) else collectDigits next cs

/-- How many digits of an exponent are read until it is too large. -/
def exponentOverflow (n : Nat) (count : Nat) : List Char → Option Nat
  | [] => none
  | c :: cs =>
    let next := 10 * n + (c.toNat - '0'.toNat)
    if maxExponent < next then some (count + 1) else exponentOverflow next (count + 1) cs

/-- The parts of a number. -/
structure NumberText where
  isNegative : Bool
  whole : List Char
  /-- The digits behind the point. -/
  fraction : Option (List Char)
  /-- The sign and the digits behind the `e`, and the cursor in front of these digits. -/
  exponent : Option (Bool × List Char × Cursor)
  stop : Cursor

/-- Splits a number into its parts. -/
def scanNumber (c : Cursor) : Except Break NumberText :=
  let isNegative := c.sees '-'
  let start := if isNegative then c.next else c
  match start.rest with
  | [] => .error (.either .endInValue .invalidNumber (placeOf start))
  | first :: _ =>
    if !first.isDigit then .error (.plain .invalidNumber (placeAfter start))
    else if first = '0' && (start.next.rest.head?.any Char.isDigit) then
      .error (.plain .invalidNumber (placeAfter start.next))
    else
      let (whole, afterWhole) := spanDigits start
      let withFraction : Except Break (Option (List Char) × Cursor) :=
        if afterWhole.sees '.' then
          let (digits, stop) := spanDigits afterWhole.next
          if digits.isEmpty then
            if stop.atEnd then .error (.either .endInValue .invalidNumber (placeAfter stop))
            else .error (.plain .invalidNumber (placeAfter stop))
          else .ok (some digits, stop)
        else .ok (none, afterWhole)
      withFraction.bind fun (fraction, c) =>
        if c.sees 'e' || c.sees 'E' then
          let sign := c.next
          let start := if sign.sees '+' || sign.sees '-' then sign.next else sign
          let (digits, stop) := spanDigits start
          if digits.isEmpty then
            if start.atEnd then .error (.either .endInValue .invalidNumber (placeOf start))
            else .error (.plain .invalidNumber (placeAfter start))
          else .ok ⟨isNegative, whole, fraction, some (sign.sees '-', digits, start), stop⟩
        else .ok ⟨isNegative, whole, fraction, none, c⟩

/-- The value of a number, if it can be had. -/
def NumberText.value (t : NumberText) : Except Fault Number :=
  let (n, overflow) := collectDigits 0 t.whole
  if overflow.isEmpty && t.fraction.isNone && t.exponent.isNone then
    if !t.isNegative then .ok (.natural n)
    else if 0 < n && n ≤ Nat.pow 2 63 then .ok (.negative n)
    else .ok (.fraction true n 0)
  else
    let fraction := t.fraction.getD []
    let (digits, left) := collectDigits n fraction
    let taken := fraction.length - left.length
    let shift : Int := (overflow.length : Int) - taken
    let ready (exponent : Int) : Except Fault Number :=
      if (Number.toFloat? t.isNegative digits exponent).isSome then
        .ok (.fraction t.isNegative digits exponent)
      else .error ⟨.numberOutOfRange, placeOf t.stop⟩
    match t.exponent with
    | none => ready shift
    | some (isNegative, exponent, start) =>
      match exponentOverflow 0 0 exponent with
      | some count =>
        if digits != 0 && !isNegative then
          .error ⟨.numberOutOfRange, placeOf (start.skip count)⟩
        else .ok (.fraction t.isNegative 0 0)
      | none =>
        let power : Int := digitsValue exponent
        ready (if isNegative then shift - power else shift + power)

/-! ### Strings -/

def hexValue? (c : Char) : Option Nat :=
  if c.isDigit then some (c.toNat - '0'.toNat)
  else if 'a' ≤ c && c ≤ 'f' then some (c.toNat - 'a'.toNat + 10)
  else if 'A' ≤ c && c ≤ 'F' then some (c.toNat - 'A'.toNat + 10)
  else none

/-- The place so many bytes behind a cursor. -/
def placeAfterBytes : Nat → Cursor → Place
  | 0, c => placeOf c
  | n + 1, c =>
    match c.rest with
    | [] => placeOf c
    | x :: _ =>
      if x.utf8Size ≤ n + 1 then placeAfterBytes (n + 1 - x.utf8Size) c.next
      else ⟨c.position.row + 1, c.position.column + n + 1⟩
  termination_by n => n
  decreasing_by
    have := Char.utf8Size_pos x
    omega

def byteLength (text : List Char) : Nat := (text.map Char.utf8Size).foldr (· + ·) 0

/-- Reads the four digits of a numeric escape. -/
def readHex (c : Cursor) : Except Fault (Nat × Cursor) :=
  if byteLength (c.rest.take 4) < 4 then .error ⟨.endInString, placeOf (c.skip c.rest.length)⟩
  else
    match (c.rest.take 4).mapM hexValue? with
    | some digits => .ok (digits.foldl (fun n d => 16 * n + d) 0, c.skip 4)
    | none => .error ⟨.invalidEscape, placeAfterBytes 4 c⟩

/-- The character that a letter behind a backslash stands for. -/
def simpleEscape? (c : Char) : Option Char :=
  match c with
  | '"' => some '"'
  | '\\' => some '\\'
  | '/' => some '/'
  | 'b' => some '\x08'
  | 'f' => some '\x0c'
  | 'n' => some '\n'
  | 'r' => some '\r'
  | 't' => some '\t'
  | _ => none

/-- Reads the character of a numeric escape, `c` being behind its `u`. Two surrogates make one
character; one alone makes none. -/
def readUnicode (c : Cursor) : Except Fault (Char × Cursor) := do
  let (n, c) ← readHex c
  if 0xDC00 ≤ n && n ≤ 0xDFFF then throw ⟨.loneSurrogate, placeOf c⟩
  else if n < 0xD800 || 0xDBFF < n then return (.ofNat n, c)
  else
    if c.atEnd then throw ⟨.endInString, placeOf c⟩
    if !c.sees '\\' then throw ⟨.unfinishedSurrogate, placeAfter c⟩
    let c := c.next
    if c.atEnd then throw ⟨.endInString, placeOf c⟩
    if !c.sees 'u' then throw ⟨.unfinishedSurrogate, placeAfter c⟩
    let (m, c) ← readHex c.next
    if m < 0xDC00 || 0xDFFF < m then throw ⟨.loneSurrogate, placeOf c⟩
    return (.ofNat ((n - 0xD800) * 1024 + (m - 0xDC00) + 0x10000), c)

/-- Reads a string up to its closing quote. -/
def readString : Nat → List Char → Cursor → Except Fault (List Char × Cursor)
  | 0, _, c => .error ⟨.endInString, placeOf c⟩
  | fuel + 1, found, c =>
    match c.rest with
    | [] => .error ⟨.endInString, placeOf c⟩
    | x :: _ =>
      if x = '"' then .ok (found.reverse, c.next)
      else if x = '\\' then
        match c.next.rest with
        | [] => .error ⟨.endInString, placeOf c.next⟩
        | e :: _ =>
          match simpleEscape? e with
          | some y => readString fuel (y :: found) c.next.next
          | none =>
            if e = 'u' then
              match readUnicode c.next.next with
              | .ok (y, c) => readString fuel (y :: found) c
              | .error fault => .error fault
            else .error ⟨.invalidEscape, placeAfter c.next⟩
      else if x.toNat < 0x20 then .error ⟨.controlCharacter, placeAfter c⟩
      else readString fuel (x :: found) c.next

/-- Passes over a string up to its closing quote. -/
def skipString : Nat → Cursor → Except Fault Cursor
  | 0, c => .error ⟨.endInString, placeOf c⟩
  | fuel + 1, c =>
    match c.rest with
    | [] => .error ⟨.endInString, placeOf c⟩
    | x :: _ =>
      if x = '"' then .ok c.next
      else if x = '\\' then
        match c.next.rest with
        | [] => .error ⟨.endInString, placeOf c.next⟩
        | e :: _ =>
          if (simpleEscape? e).isSome then skipString fuel c.next.next
          else if e = 'u' then
            match readHex c.next.next with
            | .ok (_, c) => skipString fuel c
            | .error fault => .error fault
          else .error ⟨.invalidEscape, placeAfter c.next⟩
      else if x.toNat < 0x20 then .error ⟨.controlCharacter, placeOf c⟩
      else skipString fuel c.next

/-- A string, `c` being behind its opening quote: what it says, if it can be used, and where it
ends, if it does. -/
def scanString (c : Cursor) : Except Break (Except Fault String × Cursor) :=
  let fuel := c.rest.length + 1
  let said := readString fuel [] c
  match skipString fuel c with
  | .ok stop => .ok (said.map fun found => String.ofList found.1, stop)
  | .error passedOver =>
    match said with
    | .ok _ => .error ⟨passedOver, passedOver⟩
    | .error wanted => .error ⟨wanted, passedOver⟩

end NotebookExport.Json
