import NotebookExport.Yaml.Fault
import NotebookExport.Yaml.Token

/-!
# The text of scalars

Reading scalars of each style. Where a quoted or plain scalar goes over several lines, the white
space around each line end is dropped, one line end counts as a space, and of several the first does
not count. A block scalar keeps its lines, or joins them in the same way if it is folded.
-/

namespace NotebookExport.Yaml

/-- A scalar that has been read. -/
structure ScannedScalar where
  text : List Char
  /-- The cursor behind the scalar. -/
  stop : Cursor
  /-- Whether line ends come before the cursor. -/
  endsLine : Bool

def SyntaxBreak.during (activity : Activity) (start : Mark) (problem : Problem) (c : Cursor) :
    SyntaxBreak :=
  ⟨problem, c.mark, some (activity, start)⟩

/-! ### White space in scalars -/

/-- White space between two parts of a scalar: blanks, or line ends with the blanks dropped. -/
structure Gap where
  blanks : List Char
  /-- What the first line end counts as, if there is a line end. -/
  firstBreak : Option (List Char)
  /-- What the other line ends count as. -/
  otherBreaks : List Char

namespace Gap

def empty : Gap := ⟨[], none, []⟩

/-- A gap behind an escaped line end, which counts as nothing. -/
def escaped : Gap := ⟨[], some [], []⟩

/-- What a gap counts as. -/
def text (g : Gap) : List Char :=
  match g.firstBreak with
  | none => g.blanks
  | some ['\n'] => if g.otherBreaks.isEmpty then [' '] else g.otherBreaks
  | some first => first ++ g.otherBreaks

def hasBreak (g : Gap) : Bool := g.firstBreak.isSome

end Gap

/-- Reads the white space at a place. Where `tabLimit` is given, a tab in front of that column of a
further line is a fault. -/
def scanGap (tabLimit : Option Int) : Nat → Gap → Cursor → Except Cursor (Gap × Cursor)
  | 0, gap, c => .ok (gap, c)
  | fuel + 1, gap, c =>
    if c.seesBlank then
      if gap.hasBreak then
        if tabLimit.any (fun limit => (c.mark.column : Int) < limit) && c.sees '\t' then .error c
        else scanGap tabLimit fuel gap c.skip
      else scanGap tabLimit fuel { gap with blanks := gap.blanks ++ c.rest.take 1 } c.skip
    else if c.seesBreak then
      let (counted, c) := c.passBreak
      if gap.hasBreak then
        scanGap tabLimit fuel { gap with otherBreaks := gap.otherBreaks ++ counted } c
      else scanGap tabLimit fuel { gap with blanks := [], firstBreak := some counted } c
    else .ok (gap, c)

/-! ### Plain scalars -/

def isFlowMark (c : Char) : Bool := c = ',' || c = '[' || c = ']' || c = '\x7b' || c = '\x7d'

/-- Whether a plain scalar ends in front of this character. -/
def endsPlain (inFlow : Bool) (c : Cursor) : Bool :=
  c.seesGap 0 || (c.sees ':' && c.seesGap 1) || (inFlow && c.ahead isFlowMark 0)

/-- Reads the characters of a plain scalar up to white space or its end. -/
def scanPlainPart (start : Mark) (inFlow : Bool) :
    Nat → Cursor → Except SyntaxBreak (List Char × Cursor)
  | 0, c => .ok ([], c)
  | fuel + 1, c =>
    if !c.seesGap 0 && inFlow && c.sees ':' && c.ahead (fun x => isFlowMark x || x = '?') 1 then
      .error (.during .plainScalar start .colonInFlow c)
    else if endsPlain inFlow c then .ok ([], c)
    else
      (scanPlainPart start inFlow fuel c.skip).map fun (found, stop) =>
        (c.rest.take 1 ++ found, stop)

/-- Reads the rest of a plain scalar: `text` comes before, then `gap`. -/
def scanPlainRest (start : Mark) (inFlow : Bool) (indent : Int) :
    Nat → List Char → Gap → Cursor → Except SyntaxBreak ScannedScalar
  | 0, text, gap, c => .ok ⟨text, c, gap.hasBreak⟩
  | fuel + 1, text, gap, c =>
    if c.seesDocumentEdge || c.sees '#' then .ok ⟨text, c, gap.hasBreak⟩
    else
      match scanPlainPart start inFlow c.rest.length c with
      | .error reason => .error reason
      | .ok (part, stop) =>
        let (text, gap) :=
          if part.isEmpty then (text, gap) else (text ++ gap.text ++ part, Gap.empty)
        if !(stop.seesBlank || stop.seesBreak) then .ok ⟨text, stop, gap.hasBreak⟩
        else
          match scanGap (some indent) stop.rest.length gap stop with
          | .error tab => .error (.during .plainScalar start .tabInPlain tab)
          | .ok (gap, next) =>
            if !inFlow && (next.mark.column : Int) < indent then .ok ⟨text, next, gap.hasBreak⟩
            else scanPlainRest start inFlow indent fuel text gap next

/-- Reads a plain scalar, whose further lines have at least the given indentation. -/
def scanPlain (inFlow : Bool) (indent : Int) (c : Cursor) : Except SyntaxBreak ScannedScalar :=
  scanPlainRest c.mark inFlow indent (c.rest.length + 1) [] .empty c

/-! ### Quoted scalars -/

/-- The character that a letter behind a backslash stands for. -/
def escapedCharacter? (c : Char) : Option Char :=
  match c with
  | '0' => some '\x00'
  | 'a' => some '\x07'
  | 'b' => some '\x08'
  | 't' => some '\t'
  | '\t' => some '\t'
  | 'n' => some '\n'
  | 'v' => some '\x0b'
  | 'f' => some '\x0c'
  | 'r' => some '\r'
  | 'e' => some '\x1b'
  | ' ' => some ' '
  | '"' => some '"'
  | '/' => some '/'
  | '\\' => some '\\'
  | 'N' => some '\u0085'
  | '_' => some '\u00a0'
  | 'L' => some '\u2028'
  | 'P' => some '\u2029'
  | _ => none

/-- The number of digits behind a letter that begins a numeric escape. -/
def escapeLength? (c : Char) : Option Nat :=
  match c with
  | 'x' => some 2
  | 'u' => some 4
  | 'U' => some 8
  | _ => none

def hexValue? (c : Char) : Option Nat :=
  if '0' ≤ c && c ≤ '9' then some (c.toNat - '0'.toNat)
  else if 'a' ≤ c && c ≤ 'f' then some (c.toNat - 'a'.toNat + 10)
  else if 'A' ≤ c && c ≤ 'F' then some (c.toNat - 'A'.toNat + 10)
  else none

/-- Reads an escape, at its backslash. -/
def scanEscape (start : Mark) (c : Cursor) : Except SyntaxBreak (Char × Cursor) :=
  let fail (problem : Problem) (c : Cursor) : Except SyntaxBreak (Char × Cursor) :=
    .error (.during .quotedEscape start problem c)
  match c.rest[1]? with
  | none => fail .unknownEscape c
  | some letter =>
    let behind := c.skip.skip
    match escapedCharacter? letter, escapeLength? letter with
    | some x, _ => .ok (x, behind)
    | none, none => fail .unknownEscape c
    | none, some length =>
      let digits := behind.rest.take length
      match digits.mapM hexValue? with
      | none => fail .noHexNumber behind
      | some values =>
        let code := values.foldl (fun n d => 16 * n + d) 0
        if digits.length < length then fail .noHexNumber behind
        else if code < 0xD800 || (0xDFFF < code && code ≤ 0x10FFFF) then
          .ok (.ofNat code, Cursor.skipMany length behind)
        else fail .badEscapeCode behind

/-- Reads the characters of a quoted scalar up to white space or its closing quote, and an escaped
line end if one follows. -/
def scanQuotedPart (start : Mark) (quote : Char) :
    Nat → Cursor → Except SyntaxBreak (List Char × Gap × Cursor)
  | 0, c => .ok ([], .empty, c)
  | fuel + 1, c =>
    let behind (x : Char) (next : Cursor) : Except SyntaxBreak (List Char × Gap × Cursor) :=
      (scanQuotedPart start quote fuel next).map fun (found, gap, stop) => (x :: found, gap, stop)
    match c.rest with
    | [] => .ok ([], .empty, c)
    | x :: _ =>
      if c.seesGap 0 then .ok ([], .empty, c)
      else if x = quote then
        if quote = '\'' && c.ahead (· == quote) 1 then behind quote c.skip.skip
        else .ok ([], .empty, c)
      else if quote = '"' && x = '\\' then
        if c.ahead isBreak 1 then .ok ([], .escaped, c.skip.passBreak.2)
        else
          match scanEscape start c with
          | .error reason => .error reason
          | .ok (y, next) => behind y next
      else behind x c.skip

/-- Reads the rest of a quoted scalar; `text` comes before. -/
def scanQuotedRest (start : Mark) (quote : Char) :
    Nat → List Char → Cursor → Except SyntaxBreak ScannedScalar
  | 0, _, c => .error (.during .quotedScalar start .endInQuotes c)
  | fuel + 1, text, c =>
    if c.seesDocumentEdge then .error (.during .quotedScalar start .documentMarkInQuotes c)
    else if c.atEnd then .error (.during .quotedScalar start .endInQuotes c)
    else
      match scanQuotedPart start quote c.rest.length c with
      | .error reason => .error reason
      | .ok (part, gap, stop) =>
        if stop.sees quote then .ok ⟨text ++ part, stop.skip, false⟩
        else
          match scanGap none stop.rest.length gap stop with
          | .error c => .error (.during .quotedScalar start .endInQuotes c)
          | .ok (gap, next) => scanQuotedRest start quote fuel (text ++ part ++ gap.text) next

/-- Reads a quoted scalar, at its opening quote. -/
def scanQuoted (quote : Char) (c : Cursor) : Except SyntaxBreak ScannedScalar :=
  scanQuotedRest c.mark quote (c.rest.length + 1) [] c.skip

/-! ### Block scalars -/

/-- What becomes of the line ends at the end of a block scalar. -/
inductive Chomping where
  | strip
  | clip
  | keep
  deriving DecidableEq

/-- The header of a block scalar: what its first line says. -/
structure BlockHeader where
  chomping : Chomping
  /-- The indentation beyond that of the block around it. -/
  increment : Option Nat

/-- Reads a chomping mark, if there is one. -/
def scanChomping (c : Cursor) : Option Chomping × Cursor :=
  if c.sees '+' then (some .keep, c.skip)
  else if c.sees '-' then (some .strip, c.skip)
  else (none, c)

/-- Reads an indentation mark, if there is one. -/
def scanIncrement (start : Mark) (c : Cursor) : Except SyntaxBreak (Option Nat × Cursor) :=
  match c.rest with
  | [] => .ok (none, c)
  | x :: _ =>
    if x = '0' then .error (.during .blockScalar start .zeroIndentation c)
    else if x.isDigit then .ok (some (x.toNat - '0'.toNat), c.skip)
    else .ok (none, c)

/-- Reads the header of a block scalar up to the end of its line. The two marks come in any order.
-/
def scanBlockHeader (start : Mark) (c : Cursor) : Except SyntaxBreak (BlockHeader × Cursor) := do
  let (first, c) := scanChomping c
  let (increment, c) ← scanIncrement start c
  let (chomping, c) := if first.isNone && increment.isSome then scanChomping c else (first, c)
  let c := c.skipBlanks.skipComment
  if c.seesLineEnd then return (⟨chomping.getD .clip, increment⟩, c.passBreak.2)
  else throw (.during .blockScalar start .blockHeaderTail c)

/-- Whether a cursor is in front of the given column, if one is given. -/
def isBefore (limit : Option Nat) (c : Cursor) : Bool :=
  limit.all fun limit => c.mark.column < limit

/-- Passes over spaces in front of the given column. -/
def skipIndentation (limit : Option Nat) : Nat → Cursor → Cursor
  | 0, c => c
  | fuel + 1, c => if isBefore limit c && c.sees ' ' then skipIndentation limit fuel c.skip else c

/-- The empty lines of a block scalar at a place. -/
structure EmptyLines where
  /-- What the line ends count as. -/
  breaks : List Char
  /-- The deepest column that was reached. -/
  deepest : Nat
  /-- The cursor behind the indentation of the next line. -/
  stop : Cursor

/-- Reads empty lines and the indentation of the line behind them. -/
def scanEmptyLines (start : Mark) (limit : Option Nat) :
    Nat → EmptyLines → Except SyntaxBreak EmptyLines
  | 0, found => .ok found
  | fuel + 1, found =>
    let c := skipIndentation limit found.stop.rest.length found.stop
    let deepest := max found.deepest c.mark.column
    if isBefore limit c && c.sees '\t' then
      .error (.during .blockScalar start .tabInIndentation c)
    else if c.seesBreak then
      let (counted, c) := c.passBreak
      scanEmptyLines start limit fuel ⟨found.breaks ++ counted, deepest, c⟩
    else .ok { found with deepest := deepest, stop := c }

/-- Reads the lines of a block scalar. `text` comes before, then the line end `lastBreak` and the
empty lines `found`; `afterBlank` tells whether the line before began with a blank. -/
def scanBlockLines (start : Mark) (isLiteral : Bool) (chomping : Chomping) (indent : Nat) :
    Nat → List Char → List Char → Bool → EmptyLines → Except SyntaxBreak ScannedScalar
  | 0, text, _, _, found => .ok ⟨text, found.stop, true⟩
  | fuel + 1, text, lastBreak, afterBlank, found =>
    let c := found.stop
    if c.mark.column = indent && !c.atEnd then
      let startsBlank := c.seesBlank
      let joint :=
        if !isLiteral && lastBreak = ['\n'] && !afterBlank && !startsBlank then
          if found.breaks.isEmpty then [' '] else found.breaks
        else lastBreak ++ found.breaks
      let (line, c) := c.span fun x => !isBreak x
      let (counted, c) := c.passBreak
      match scanEmptyLines start (some indent) (c.rest.length + 1) ⟨[], 0, c⟩ with
      | .error reason => .error reason
      | .ok next =>
        scanBlockLines start isLiteral chomping indent fuel (text ++ joint ++ line) counted
          startsBlank next
    else
      let tail := match chomping with
        | .strip => []
        | .clip => lastBreak
        | .keep => lastBreak ++ found.breaks
      .ok ⟨text ++ tail, c, true⟩

/-- Reads a block scalar at its mark, inside a block with the given indentation. -/
def scanBlock (isLiteral : Bool) (indent : Int) (c : Cursor) :
    Except SyntaxBreak ScannedScalar := do
  let start := c.mark
  let (header, c) ← scanBlockHeader start c.skip
  let given := header.increment.map fun increment =>
    if 0 ≤ indent then indent.toNat + increment else increment
  let found ← scanEmptyLines start given (c.rest.length + 1) ⟨[], 0, c⟩
  let column := given.getD (max (max found.deepest (indent + 1).toNat) 1)
  scanBlockLines start isLiteral header.chomping column (c.rest.length + 1) [] [] false found

end NotebookExport.Yaml
