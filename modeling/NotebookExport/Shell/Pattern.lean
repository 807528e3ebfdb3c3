import NotebookExport.Shell.Script

/-!
# Patterns

Patterns of the shell: `*` stands for any text, `?` for any octet, and brackets for the octets in
them. What was quoted stands for itself.
-/

namespace NotebookExport.Shell

/-- An octet, and whether it was quoted. -/
abbrev Glyph := Char × Bool

inductive PatternPart where
  | anyText
  | anyOctet
  | oneOf (isNegated : Bool) (ranges : List (Char × Char))
  | octet (c : Char)

abbrev Pattern := List PatternPart

namespace Pattern

/-- The ranges of octets between brackets. -/
def ranges : List Glyph → List (Char × Char)
  | (a, _) :: ('-', false) :: (b, _) :: rest => (a, b) :: ranges rest
  | (a, _) :: rest => (a, a) :: ranges rest
  | [] => []

/-- What stands in brackets, of which the first is already read, and the rest behind them. -/
def bracket? (glyphs : List Glyph) : Option (PatternPart × List Glyph) :=
  let isNegated := match glyphs with
    | ('!', false) :: _ | ('^', false) :: _ => true
    | _ => false
  let inner := if isNegated then glyphs.tail else glyphs
  let isEnd (g : Glyph) : Bool := g = (']', false)
  match inner with
  | [] => none
  | first :: others =>
    let members := first :: others.takeWhile fun g => !isEnd g
    match others.dropWhile fun g => !isEnd g with
    | [] => none
    | _ :: rest => some (.oneOf isNegated (ranges members), rest)

/-- The pattern that some octets write. -/
def ofGlyphs : Nat → List Glyph → Pattern
  | 0, _ | _, [] => []
  | fuel + 1, ('*', false) :: rest => .anyText :: ofGlyphs fuel rest
  | fuel + 1, ('?', false) :: rest => .anyOctet :: ofGlyphs fuel rest
  | fuel + 1, ('[', false) :: rest =>
    match bracket? rest with
    | some (part, rest) => part :: ofGlyphs fuel rest
    | none => .octet '[' :: ofGlyphs fuel rest
  | fuel + 1, (c, _) :: rest => .octet c :: ofGlyphs fuel rest

def read (glyphs : List Glyph) : Pattern := ofGlyphs glyphs.length glyphs

/-- All ends of a text, the longest first. -/
def ends : Octets → List Octets
  | [] => [[]]
  | c :: cs => (c :: cs) :: ends cs

/-- Whether a pattern matches the whole of a text. -/
def isMatch : Pattern → Octets → Bool
  | [], text => text.isEmpty
  | .anyText :: rest, text => (ends text).any (isMatch rest)
  | .anyOctet :: rest, _ :: cs => isMatch rest cs
  | .oneOf isNegated ranges :: rest, c :: cs =>
    (isNegated != ranges.any fun (a, b) => a ≤ c && c ≤ b) && isMatch rest cs
  | .octet x :: rest, c :: cs => x = c && isMatch rest cs
  | _ :: _, [] => false

/-- A text without what a pattern matches at its end or at its start. -/
def without (p : Pattern) (atEnd isLongest : Bool) (text : Octets) : Octets :=
  let cuts := (List.range (text.length + 1)).filter fun n =>
    p.isMatch (if atEnd then text.drop n else text.take n)
  let cut := if atEnd = isLongest then cuts.head? else cuts.getLast?
  match cut with
  | some n => if atEnd then text.take n else text.drop n
  | none => text

end Pattern

end NotebookExport.Shell
