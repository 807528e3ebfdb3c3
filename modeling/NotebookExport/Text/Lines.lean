/-!
# Lines

Two ways of cutting a text into lines. `splitLines` cuts at every line feed and loses nothing else:
joining its parts gives the text back. `lines` takes a line feed, or a carriage return with a line
feed, for the end of a line, so that a final one begins no further line.

Blanks are the white space of Unicode.
-/

namespace NotebookExport.Text

/-- The white space of Unicode. -/
def isWhiteSpace (c : Char) : Bool :=
  let n := c.toNat
  (9 ≤ n && n ≤ 13) || n = 0x20 || n = 0x85 || n = 0xA0 || n = 0x1680 ||
    (0x2000 ≤ n && n ≤ 0x200A) || n = 0x2028 || n = 0x2029 || n = 0x202F || n = 0x205F || n = 0x3000

/-- A text without the white space at its ends. -/
def trim (text : List Char) : List Char :=
  ((text.dropWhile isWhiteSpace).reverse.dropWhile isWhiteSpace).reverse

/-- Whether there is nothing but white space. -/
def isBlank (text : List Char) : Bool := text.all isWhiteSpace

/-- The parts between the line feeds, one more than there are line feeds. -/
def splitLines : List Char → List (List Char)
  | [] => [[]]
  | c :: cs =>
    if c = '\n' then [] :: splitLines cs
    else
      match splitLines cs with
      | [] => [[c]]
      | line :: rest => (c :: line) :: rest

/-- Lines with a line feed between any two. -/
def joinLines (lines : List (List Char)) : List Char := List.intercalate ['\n'] lines

/-- A line without the carriage return in front of its line feed. -/
def dropReturn (line : List Char) : List Char :=
  if line.getLast? = some '\r' then line.dropLast else line

/-- The lines of a text without what ends them. -/
def lines (text : List Char) : List (List Char) :=
  let parts := splitLines text
  let last := parts.getLast?.getD []
  parts.dropLast.map dropReturn ++ (if last.isEmpty then [] else [last])

/-! ### Laws -/

theorem splitLines_ne_nil (text : List Char) : splitLines text ≠ [] := by
  cases text with
  | nil => simp [splitLines]
  | cons c cs =>
    unfold splitLines
    split
    · simp
    · split <;> simp

@[simp] theorem splitLines_nil : splitLines [] = [[]] := rfl

@[simp] theorem splitLines_feed (cs : List Char) :
    splitLines ('\n' :: cs) = [] :: splitLines cs := by
  simp [splitLines]

theorem joinLines_cons (line : List Char) {rest : List (List Char)} (h : rest ≠ []) :
    joinLines (line :: rest) = line ++ '\n' :: joinLines rest := by
  cases rest with
  | nil => exact absurd rfl h
  | cons next rest => simp [joinLines]

/-- Cutting at line feeds loses nothing. -/
theorem joinLines_splitLines (text : List Char) : joinLines (splitLines text) = text := by
  induction text with
  | nil => rfl
  | cons c cs ih =>
    unfold splitLines
    split
    · rename_i h
      rw [joinLines_cons _ (splitLines_ne_nil cs), ih, h]
      rfl
    · have hne := splitLines_ne_nil cs
      split
      · contradiction
      · rename_i line rest hs
        rw [hs] at ih
        cases rest with
        | nil => simpa [joinLines] using ih
        | cons next rest =>
          rw [joinLines_cons _ (by simp)] at ih ⊢
          simpa using ih

end NotebookExport.Text
