import NotebookExport.Python.Token
import NotebookExport.Text.Cursor

/-!
# Layout

The tokens that depend on more than the characters in front of the parser: line ends, changes of
indentation, and the parts of strings. `Layout` is what has to be remembered between tokens, the
enclosing indentations and the open strings; `Layout.scan` finds the next such token.

Which of these tokens are possible depends on what the grammar allows at the point, given as the
set `valid`. A line break where no statement can end is a blank. A line indented less than its
block ends the block, also in the middle of a statement, unless a bracket can be closed there.
-/

namespace NotebookExport.Python

open Text

/-- An open string: its closing quote and the letters in front of it. -/
structure Delimiter where
  quote : Char
  isFormat : Bool := false
  isRaw : Bool := false
  isBytes : Bool := false
  isTriple : Bool := false
  deriving DecidableEq

/-- The enclosing indentations beyond the margin and the open strings, innermost first. -/
structure Layout where
  indents : List Nat := []
  strings : List Delimiter := []
  inFormat : Bool := false
  deriving DecidableEq

/-- A token found by the scanner. `start` does not count the blanks in front of it. -/
structure LayoutToken where
  token : Token
  start : Position
  stop : Cursor
  layout : Layout

namespace Layout

def indentation (layout : Layout) : Nat := layout.indents.headD 0

/-- The layout after the innermost string is closed. -/
def closeString (layout : Layout) : Layout :=
  { layout with strings := layout.strings.tail, inFormat := false }

/-- What reading the text of a string ends with. -/
inductive StringStop where
  /-- The text up to here, which may be empty and then is none. -/
  | text (stop : Cursor) (isEmpty : Bool)
  /-- The closing quote, up to here. -/
  | closed (stop : Cursor)
  /-- The end of the line, in a string that may not go over it. -/
  | brokenLine
  /-- The end of the input, or a NUL. -/
  | exhausted (stop : Cursor)

/-- Behind the backslash of a raw string: a quote or backslash, then a line break, belong to it. -/
def afterRawBackslash (d : Delimiter) (c : Cursor) : Cursor :=
  let c := if c.sees d.quote || c.sees '\\' then c.next else c
  if c.sees '\r' then
    let c := c.next
    if c.sees '\n' then c.next else c
  else if c.sees '\n' then c.next
  else c

/-- Reads the text of the string `d` from `c` on. `mark` is where the text would end, `hasText`
says whether there is any before `c`. -/
def readString (d : Delimiter) : Nat → Cursor → Bool → StringStop
  | 0, c, _ => .exhausted c
  | fuel + 1, c, hasText =>
    match c.rest with
    | [] => .exhausted c
    | x :: _ =>
      if x = '\x00' then .exhausted c
      else if (x = '\x7b' || x = '\x7d') && d.isFormat then .text c (!hasText)
      else if x = '\\' then
        if d.isRaw then readString d fuel (afterRawBackslash d c.next) hasText
        else if d.isBytes && (c.next.sees 'N' || c.next.sees 'u' || c.next.sees 'U') then
          readString d fuel c.next.next.next true
        else .text c (!hasText)
      else if x = d.quote then
        if !d.isTriple then
          if hasText then .text c false else .closed c.next
        else if !c.next.sees d.quote then .text c.next false
        else if !c.next.next.sees d.quote then .text c.next.next false
        else if hasText then .text c false
        else .closed c.next.next.next
      else if x = '\n' && hasText && !d.isTriple then .brokenLine
      else readString d fuel c.next true

/-- What lies in front of the next line of code. -/
structure Gap where
  stop : Cursor
  /-- Where the last blank ends. -/
  start : Position
  crossedLine : Bool
  indentation : Nat
  /-- The indentation of the first comment that stands on a line of its own. -/
  firstComment : Option Nat

/-- The cursor behind the rest of the line and its end; a NUL ends a line, too. -/
def skipLine : Nat → Cursor → Cursor
  | 0, c => c
  | fuel + 1, c =>
    match c.rest with
    | [] => c
    | x :: _ => if x = '\n' || x = '\x00' then c.next else skipLine fuel c.next

/-- Skips blanks and, if `layoutMatters`, lines that hold only a comment. `none` if a comment
stands behind code on the same line, or a backslash does not continue a line. -/
def skipGap (layoutMatters : Bool) : Nat → Gap → Option Gap
  | 0, gap => some gap
  | fuel + 1, gap =>
    let c := gap.stop
    let goOn (gap : Gap) (stop : Cursor) : Option Gap :=
      skipGap layoutMatters fuel { gap with stop := stop, start := stop.position }
    match c.rest with
    | [] => some { gap with indentation := 0, crossedLine := true }
    | x :: _ =>
      if x = '\n' then goOn { gap with crossedLine := true, indentation := 0 } c.next
      else if x = ' ' then goOn { gap with indentation := gap.indentation + 1 } c.next
      else if x = '\r' || x = '\x0c' then goOn { gap with indentation := 0 } c.next
      else if x = '\t' then goOn { gap with indentation := gap.indentation + 8 } c.next
      else if x = '#' && layoutMatters then
        if gap.crossedLine then
          let first := gap.firstComment.getD gap.indentation
          goOn { gap with firstComment := some first, indentation := 0 } (skipLine c.rest.length c)
        else none
      else if x = '\\' then
        let d := if c.next.sees '\r' then c.next.next else c.next
        if d.sees '\n' || d.atEnd then goOn gap d.next else none
      else some gap

/-- Reads the letters in front of an opening quote. -/
def readFlags : Nat → Delimiter → Cursor → Delimiter × Cursor
  | 0, d, c => (d, c)
  | fuel + 1, d, c =>
    match c.rest with
    | [] => (d, c)
    | x :: _ =>
      if x = 'f' || x = 'F' then readFlags fuel { d with isFormat := true } c.next
      else if x = 'r' || x = 'R' then readFlags fuel { d with isRaw := true } c.next
      else if x = 'b' || x = 'B' then readFlags fuel { d with isBytes := true } c.next
      else if x = 'u' || x = 'U' then readFlags fuel d c.next
      else (d, c)

/-- The opening quote of a string, with its letters; a backquote is never tripled. -/
def openString (layout : Layout) (c : Cursor) (start : Position) : Option LayoutToken :=
  let (flags, c) := readFlags c.rest.length ⟨' ', false, false, false, false⟩ c
  match c.rest with
  | [] => none
  | q :: _ =>
    if q = '`' || q = '\'' || q = '"' then
      let isTriple := q != '`' && c.next.sees q && c.next.next.sees q
      let d := { flags with quote := q, isTriple := isTriple }
      let stop := if isTriple then c.next.next.next else c.next
      some ⟨.stringStart, start, stop,
        { layout with strings := d :: layout.strings, inFormat := d.isFormat }⟩
    else none

/-- Whether the place is one from which the parser has to recover: nothing is excluded there. -/
def isRecovering (valid : TokenSet) : Bool :=
  valid.contains .stringContent && valid.contains .indent

/-- A line end, a change of indentation or the beginning of a string. A token without a text of its
own stands at `mark`; what lies between `start` and `mark` has been read already. -/
def scanLine (layout : Layout) (valid : TokenSet) (start : Position) (mark : Cursor) :
    Option LayoutToken :=
  let layoutMatters := valid.contains .indent || valid.contains .dedent ||
    valid.contains .newline || valid.contains .kwExcept
  match skipGap layoutMatters (mark.rest.length + 1) ⟨mark, start, false, 0, none⟩ with
  | none => none
  | some gap =>
    let c := gap.stop
    let start := if gap.start.index < mark.position.index then gap.start else mark.position
    let atQuote := c.sees '"' || c.sees '\'' || c.sees '`'
    let inBrackets := valid.contains .rbrace || valid.contains .rparen || valid.contains .rbracket
    let mayDedent := valid.contains .dedent ||
      (!valid.contains .newline && !(valid.contains .stringStart && atQuote) && !inBrackets)
    let commentOutside := match gap.firstComment with
      | none => true
      | some column => column < layout.indentation
    if gap.crossedLine && valid.contains .indent && layout.indentation < gap.indentation then
      some ⟨.indent, start, mark, { layout with indents := gap.indentation :: layout.indents }⟩
    else if gap.crossedLine && mayDedent && gap.indentation < layout.indentation &&
        !layout.inFormat && commentOutside then
      some ⟨.dedent, start, mark, { layout with indents := layout.indents.tail }⟩
    else if gap.crossedLine && valid.contains .newline && !isRecovering valid then
      some ⟨.newline, start, mark, layout⟩
    else if gap.firstComment.isNone && valid.contains .stringStart then
      openString layout c gap.start
    else none

/-- The next layout token at `c`, of those in `valid`. -/
def scan (layout : Layout) (valid : TokenSet) (c : Cursor) : Option LayoutToken :=
  let start := c.position
  let inString := layout.strings.head?.filter fun _ => !isRecovering valid
  let atBrace := c.sees '\x7b' || c.sees '\x7d'
  match inString with
  | none => scanLine layout valid start c
  | some d =>
    if valid.contains .escapeInterpolation && atBrace && d.isFormat then
      if (c.sees '\x7b' && c.next.sees '\x7b') || (c.sees '\x7d' && c.next.sees '\x7d') then
        some ⟨.escapeInterpolation, start, c.next.next, layout⟩
      else none
    else if valid.contains .stringContent then
      match readString d c.rest.length c false with
      | .text _ true => none
      | .text stop false => some ⟨.stringContent, start, stop, layout⟩
      | .closed stop => some ⟨.stringEnd, start, stop, layout.closeString⟩
      | .brokenLine => none
      | .exhausted stop => scanLine layout valid start stop
    else scanLine layout valid start c

end Layout

end NotebookExport.Python
