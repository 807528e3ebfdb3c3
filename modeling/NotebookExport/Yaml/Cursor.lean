/-!
# Positions in YAML text

A place in a YAML text together with what follows it. YAML knows five characters that end a line; a
carriage return and the line feed behind it end one line together.
-/

namespace NotebookExport.Yaml

/-- A place: the characters, the line ends and the characters of its line that come before it. -/
structure Mark where
  index : Nat
  line : Nat
  column : Nat
  deriving DecidableEq

namespace Mark

def origin : Mark := ⟨0, 0, 0⟩

def isOrigin (m : Mark) : Bool := m.line = 0 && m.column = 0

/-- A place in words. -/
def describe (m : Mark) : String :=
  "line " ++ toString (m.line + 1) ++ " column " ++ toString (m.column + 1)

end Mark

/-- Whether a character ends a line. -/
def isBreak (c : Char) : Bool :=
  c = '\n' || c = '\r' || c = '\u0085' || c = '\u2028' || c = '\u2029'

def isBlank (c : Char) : Bool := c = ' ' || c = '\t'

/-- The letters, digits and marks that names are made of. -/
def isNameCharacter (c : Char) : Bool := c.isAlphanum || c = '_' || c = '-'

/-- A place with the text behind it. -/
structure Cursor where
  mark : Mark
  rest : List Char

namespace Cursor

def ofText (text : List Char) : Cursor := ⟨.origin, text⟩

def atEnd (c : Cursor) : Bool := c.rest.isEmpty

/-- Whether the character `n` places further on satisfies `p`. -/
def ahead (p : Char → Bool) (n : Nat) (c : Cursor) : Bool := c.rest[n]?.any p

/-- The same, or the text ends before that place. -/
def aheadOrEnd (p : Char → Bool) (n : Nat) (c : Cursor) : Bool := c.rest[n]?.all p

def sees (c : Cursor) (x : Char) : Bool := c.ahead (· == x) 0

def seesBlank (c : Cursor) : Bool := c.ahead isBlank 0

def seesBreak (c : Cursor) : Bool := c.ahead isBreak 0

/-- Whether a line ends here. -/
def seesLineEnd (c : Cursor) : Bool := c.aheadOrEnd isBreak 0

/-- Whether a blank or the end of the line is `n` places further on. -/
def seesGap (n : Nat) (c : Cursor) : Bool := c.aheadOrEnd (fun x => isBlank x || isBreak x) n

/-- The cursor behind the next character, which is on the same line. -/
def skip (c : Cursor) : Cursor :=
  match c.rest with
  | [] => c
  | _ :: rest => ⟨⟨c.mark.index + 1, c.mark.line, c.mark.column + 1⟩, rest⟩

def skipMany : Nat → Cursor → Cursor
  | 0, c => c
  | n + 1, c => skipMany n c.skip

/-- What the end of a line at this place counts as in a text, and the cursor behind it. -/
def passBreak (c : Cursor) : List Char × Cursor :=
  match c.rest with
  | '\r' :: '\n' :: rest => (['\n'], ⟨⟨c.mark.index + 2, c.mark.line + 1, 0⟩, rest⟩)
  | x :: rest =>
    if isBreak x then
      (if x = '\u2028' || x = '\u2029' then [x] else ['\n'],
        ⟨⟨c.mark.index + 1, c.mark.line + 1, 0⟩, rest⟩)
    else ([], c)
  | [] => ([], c)

/-- The leading characters of a class, and the cursor behind them. -/
def spanWithin (p : Char → Bool) : Nat → Cursor → List Char × Cursor
  | 0, c => ([], c)
  | fuel + 1, c =>
    match c.rest with
    | [] => ([], c)
    | x :: _ =>
      if p x then
        let (found, stop) := spanWithin p fuel c.skip
        (x :: found, stop)
      else ([], c)

def span (p : Char → Bool) (c : Cursor) : List Char × Cursor := spanWithin p c.rest.length c

/-- The cursor behind the blanks. -/
def skipBlanks (c : Cursor) : Cursor := (c.span isBlank).2

/-- The cursor at the end of the line. -/
def skipLineText (c : Cursor) : Cursor := (c.span fun x => !isBreak x).2

/-- The cursor behind a comment, if one starts here. -/
def skipComment (c : Cursor) : Cursor := if c.sees '#' then c.skipLineText else c

/-- Whether three marks of one kind make up a line of their own here, or its beginning. -/
def seesDocumentMark (x : Char) (c : Cursor) : Bool :=
  c.mark.column = 0 && c.rest.take 3 = [x, x, x] && c.seesGap 3

/-- Whether a document begins or ends here. -/
def seesDocumentEdge (c : Cursor) : Bool := c.seesDocumentMark '-' || c.seesDocumentMark '.'

end Cursor

end NotebookExport.Yaml
