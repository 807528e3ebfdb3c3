import NotebookExport.Json.Scalar

/-!
# Reading JSON

From text to JSON values. Reading never fails: at the first break in the syntax it stops, and the
break becomes part of the value.
-/

namespace NotebookExport.Json

open Text

/-- Reads a word, of which the first letter has been seen. -/
def scanWord (word : List Char) (c : Cursor) : Except Break Cursor :=
  match word with
  | [] => .ok c
  | x :: xs =>
    match c.rest with
    | [] => .error (.plain .endInValue (placeOf c))
    | y :: _ => if x = y then scanWord xs c.next else .error (.plain .expectedWord (placeAfter c))

/-- Where the reader stands if it gives up the member of an object that ends here. -/
def placeLeavingMember (c : Cursor) : Place :=
  let c := skipBlanks c
  if c.sees '\x7d' then placeOf c.next else placeOf c

/-- Where the reader stands if it gives up the element of an array that ends here. -/
def placeLeavingElement (c : Cursor) : Place :=
  let c := skipBlanks c
  if c.sees ']' then placeOf c.next
  else if c.sees ',' then placeOf (skipBlanks c.next)
  else placeOf c

/-- The end of an array or object at a break. There is nothing behind it. -/
def brokenElements (reason : Break) : Elements × Option Cursor := (.stop (.error reason), none)

def brokenMembers (reason : Break) : Members × Option Cursor := (.stop (.error reason), none)

mutual

/-- Reads a value, and says where it ends if there is no break in it. -/
def readValue : Nat → Cursor → Value × Option Cursor
  | 0, c => (.broken (.plain .endInValue (placeOf c)), none)
  | fuel + 1, c =>
    let c := skipBlanks c
    let ofWord (word : String) (value : Place → Value) : Value × Option Cursor :=
      match scanWord word.toList c.next with
      | .ok stop => (value (placeOf stop), some stop)
      | .error reason => (.broken reason, none)
    match c.rest with
    | [] => (.broken (.plain .endInValue (placeAfter c)), none)
    | x :: _ =>
      if x = 'n' then ofWord "ull" .null
      else if x = 't' then ofWord "rue" (.bool true)
      else if x = 'f' then ofWord "alse" (.bool false)
      else if x = '-' || x.isDigit then
        match scanNumber c with
        | .ok number => (.number number.value (placeOf number.stop), some number.stop)
        | .error reason => (.broken reason, none)
      else if x = '"' then
        match scanString c.next with
        | .ok (said, stop) => (.string said (placeOf stop), some stop)
        | .error reason => (.broken reason, none)
      else if x = '[' then
        let (elements, stop) := readElements fuel true c.next
        (.array (placeOf c) elements, stop)
      else if x = '\x7b' then
        let (members, stop) := readMembers fuel true c.next
        (.object (placeOf c) members, stop)
      else (.broken (.plain .expectedValue (placeAfter c)), none)

/-- Reads the elements of an array. -/
def readElements : Nat → Bool → Cursor → Elements × Option Cursor
  | 0, _, c => brokenElements (.plain .endInList (placeOf c))
  | fuel + 1, isFirst, c =>
    let c := skipBlanks c
    let element (c : Cursor) : Elements × Option Cursor :=
      match readValue fuel c with
      | (value, none) =>
        (.next (placeAfter c) value (placeOf c) (.stop (.ok (placeOf c))), none)
      | (value, some stop) =>
        let (rest, last) := readElements fuel false stop
        (.next (placeAfter c) value (placeLeavingElement stop) rest, last)
    match c.rest with
    | [] => brokenElements (.plain .endInList (placeAfter c))
    | x :: _ =>
      if x = ']' then (.stop (.ok (placeOf c.next)), some c.next)
      else if isFirst then element c
      else if x = ',' then
        let c := skipBlanks c.next
        if c.atEnd then brokenElements (.plain .endInValue (placeAfter c))
        else if c.sees ']' then
          brokenElements (.either .trailingComma .expectedValue (placeAfter c))
        else element c
      else brokenElements (.plain .expectedListCommaOrEnd (placeAfter c))

/-- Reads the members of an object. -/
def readMembers : Nat → Bool → Cursor → Members × Option Cursor
  | 0, _, c => brokenMembers (.plain .endInObject (placeOf c))
  | fuel + 1, isFirst, c =>
    let c := skipBlanks c
    let member (c : Cursor) : Members × Option Cursor :=
      match scanString c.next with
      | .error reason => brokenMembers reason
      | .ok (key, stop) =>
        let keyLeft := placeLeavingMember stop
        let broken (reason : Break) : Members × Option Cursor :=
          (.next key keyLeft (.broken reason) keyLeft (.stop (.error reason)), none)
        let colon := skipBlanks stop
        if colon.atEnd then broken (.plain .endInObject (placeAfter colon))
        else if !colon.sees ':' then broken (.plain .expectedColon (placeAfter colon))
        else
          match readValue fuel colon.next with
          | (value, none) => (.next key keyLeft value keyLeft (.stop (.ok keyLeft)), none)
          | (value, some stop) =>
            let (rest, last) := readMembers fuel false stop
            (.next key keyLeft value (placeLeavingMember stop) rest, last)
    match c.rest with
    | [] => brokenMembers (.plain .endInObject (placeAfter c))
    | x :: _ =>
      if x = '\x7d' then (.stop (.ok (placeOf c.next)), some c.next)
      else if isFirst then
        if x = '"' then member c else brokenMembers (.plain .keyIsNoString (placeAfter c))
      else if x = ',' then
        let c := skipBlanks c.next
        if c.atEnd then brokenMembers (.either .endInValue .endInObject (placeAfter c))
        else if c.sees '\x7d' then
          brokenMembers (.either .trailingComma .keyIsNoString (placeAfter c))
        else if c.sees '"' then member c
        else brokenMembers (.plain .keyIsNoString (placeAfter c))
      else brokenMembers (.plain .expectedObjectCommaOrEnd (placeAfter c))

end

/-- A document: a value, and what is wrong with the text behind it, if anything. -/
structure Document where
  value : Value
  trailing : Option Fault

/-- Reads a whole text. -/
def Document.ofText (text : String) : Document :=
  let chars := text.toList
  let (value, stop) := readValue (2 * chars.length + 2) (.ofText chars)
  let trailing := stop.bind fun stop =>
    let c := skipBlanks stop
    if c.atEnd then none else some ⟨.trailingCharacters, placeAfter c⟩
  ⟨value, trailing⟩

end NotebookExport.Json
