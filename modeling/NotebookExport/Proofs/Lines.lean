import NotebookExport.Proofs.BlankLines

/-!
# Lines of a text

Lines without line feeds in them can be joined and split again. What `lines` gives is told by a
relation that goes along the text: a line ends at a line feed, or at a carriage return with a line
feed, and what is behind the last of them is a line unless it is empty.
-/

namespace NotebookExport

namespace Text

variable {line text : List Char} {parts : List (List Char)}

/-! ### Splitting and joining -/

/-- A text without a line feed is one line. -/
lemma splitLines_of_feed_notMem (h : '\n' ∉ text) : splitLines text = [text] := by
  induction text with
  | nil => rfl
  | cons c cs ih =>
    rw [List.mem_cons, not_or] at h
    simp [splitLines, Ne.symm h.1, ih h.2]

lemma splitLines_line_feed (h : '\n' ∉ line) (rest : List Char) :
    splitLines (line ++ '\n' :: rest) = line :: splitLines rest := by
  rw [splitLines_append_feed, splitLines_of_feed_notMem h]
  rfl

lemma feed_notMem_splitLines (h : line ∈ splitLines text) : '\n' ∉ line := by
  induction text generalizing line with
  | nil =>
    rw [splitLines_nil, List.mem_singleton] at h
    simp [h]
  | cons char chars ih =>
    by_cases hchar : char = '\n'
    · subst hchar
      rw [splitLines_feed, List.mem_cons] at h
      rcases h with rfl | h
      · simp
      · exact ih h
    · obtain ⟨first, rest, hlines⟩ := List.exists_cons_of_ne_nil (splitLines_ne_nil chars)
      simp only [splitLines, if_neg hchar, hlines, List.mem_cons] at h
      rcases h with rfl | h
      · have hfirst : '\n' ∉ first := ih (by simp [hlines])
        simp [Ne.symm hchar, hfirst]
      · exact ih (by simp [hlines, h])

/-- Splitting takes joining back. -/
lemma splitLines_joinLines (hne : parts ≠ []) (h : ∀ line ∈ parts, '\n' ∉ line) :
    splitLines (joinLines parts) = parts := by
  induction parts with
  | nil => exact absurd rfl hne
  | cons line rest ih =>
    have hline : '\n' ∉ line := h line List.mem_cons_self
    by_cases hlast : rest = []
    · subst hlast
      simpa [joinLines] using splitLines_of_feed_notMem hline
    · rw [joinLines_cons line hlast, splitLines_line_feed hline,
        ih hlast fun line' hmem => h line' (List.mem_cons_of_mem _ hmem)]

/-! ### Lines and what ends them -/

/-- How a text is cut into lines. -/
inductive IsCutInto : List Char → List (List Char) → Prop
  | nothing : IsCutInto [] []
  | last {line : List Char} (hne : line ≠ []) (hfeed : '\n' ∉ line) : IsCutInto line [line]
  | feed {line rest : List Char} {parts : List (List Char)} (hfeed : '\n' ∉ line)
      (hreturn : line.getLast? ≠ some '\r') (hrest : IsCutInto rest parts) :
      IsCutInto (line ++ '\n' :: rest) (line :: parts)
  | returnFeed {line rest : List Char} {parts : List (List Char)} (hfeed : '\n' ∉ line)
      (hrest : IsCutInto rest parts) :
      IsCutInto (line ++ '\r' :: '\n' :: rest) (line :: parts)

lemma lines_of_feed_notMem (hne : text ≠ []) (h : '\n' ∉ text) : lines text = [text] := by
  simp [lines, splitLines_of_feed_notMem h, hne]

lemma lines_line_feed (h : '\n' ∉ line) (rest : List Char) :
    lines (line ++ '\n' :: rest) = dropReturn line :: lines rest := by
  have hne := splitLines_ne_nil rest
  rw [lines, lines, splitLines_line_feed h, List.dropLast_cons_of_ne_nil hne,
    List.getLast?_cons_of_ne_nil hne]
  rfl

lemma dropReturn_append_return (line : List Char) : dropReturn (line ++ ['\r']) = line := by
  simp [dropReturn]

/-- Every text is cut into its lines, and into nothing else. -/
theorem isCutInto_iff : IsCutInto text parts ↔ parts = lines text := by
  constructor
  · intro h
    induction h with
    | nothing => rfl
    | last hne hfeed => exact (lines_of_feed_notMem hne hfeed).symm
    | feed hfeed hreturn _ ih => rw [lines_line_feed hfeed, dropReturn, if_neg hreturn, ih]
    | @returnFeed line rest _ hfeed _ ih =>
      have hmarked : '\n' ∉ line ++ ['\r'] := by simp [hfeed]
      have hcut := lines_line_feed hmarked rest
      rw [dropReturn_append_return, ← ih, List.append_assoc] at hcut
      exact hcut.symm
  · rintro rfl
    induction hlength : text.length using Nat.strongRecOn generalizing text with
    | ind n ih =>
      by_cases hmem : '\n' ∈ text
      · obtain ⟨line, rest, rfl, hfeed⟩ := List.eq_append_cons_of_mem hmem
        have hshort : rest.length < n := by
          rw [← hlength, List.length_append, List.length_cons]
          omega
        have hrest := ih rest.length hshort rfl
        rw [lines_line_feed hfeed]
        by_cases hreturn : line.getLast? = some '\r'
        · obtain ⟨before, rfl⟩ := List.getLast?_eq_some_iff.mp hreturn
          rw [dropReturn_append_return, List.append_assoc]
          exact .returnFeed (fun h => hfeed (List.mem_append_left _ h)) hrest
        · rw [dropReturn, if_neg hreturn]
          exact .feed hfeed hreturn hrest
      · by_cases hne : text = []
        · subst hne
          exact .nothing
        · rw [lines_of_feed_notMem hne hmem]
          exact .last hne hmem

end Text

/-- Behind an empty line a text is split as if it stood alone. -/
lemma EndsBlank.splitLines_append {first : String} (h : EndsBlank first) (second : List Char) :
    Text.splitLines (first.toList ++ second) =
      (Text.splitLines first.toList).dropLast ++ Text.splitLines second := by
  rcases h with rfl | ⟨before, rfl⟩
  · simp
  · have hchars : (before ++ "\n\n").toList ++ second =
      before.toList ++ '\n' :: '\n' :: second := by simp
    have halone : (before ++ "\n\n").toList = before.toList ++ '\n' :: ['\n'] := by simp
    rw [hchars, halone, Text.splitLines_append_feed, Text.splitLines_append_feed,
      Text.splitLines_feed]
    simp

end NotebookExport
