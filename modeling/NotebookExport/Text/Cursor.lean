/-!
# Positions and cursors

A position counts what lies before it: characters, bytes of UTF-8, line breaks, and the bytes since
the last line break. A cursor is a position together with the text that follows it.
-/

namespace NotebookExport.Text

/-- A place in a text. -/
structure Position where
  index : Nat
  byte : Nat
  row : Nat
  column : Nat
  deriving DecidableEq

namespace Position

def origin : Position := ⟨0, 0, 0, 0⟩

/-- The position behind a character. Only a line feed begins a new row. -/
def after (p : Position) (c : Char) : Position :=
  if c = '\n' then ⟨p.index + 1, p.byte + c.utf8Size, p.row + 1, 0⟩
  else ⟨p.index + 1, p.byte + c.utf8Size, p.row, p.column + c.utf8Size⟩

end Position

/-- A place in a text with the text behind it. -/
structure Cursor where
  position : Position
  rest : List Char

namespace Cursor

/-- The cursor before a text. -/
def ofText (text : List Char) : Cursor := ⟨.origin, text⟩

/-- The cursor behind the next character; the end of the text stays where it is. -/
def next (c : Cursor) : Cursor :=
  match c.rest with
  | [] => c
  | x :: xs => ⟨c.position.after x, xs⟩

/-- The cursor behind the next `n` characters. -/
def skip (c : Cursor) : Nat → Cursor
  | 0 => c
  | n + 1 => c.next.skip n

/-- The cursor behind the leading characters of a class. -/
def skipWhile (p : Char → Bool) (c : Cursor) : Cursor := c.skip (c.rest.takeWhile p).length

def atEnd (c : Cursor) : Bool := c.rest.isEmpty

/-- Whether the next character is `x`. -/
def sees (c : Cursor) (x : Char) : Bool :=
  match c.rest with
  | [] => false
  | y :: _ => y == x

end Cursor

end NotebookExport.Text
