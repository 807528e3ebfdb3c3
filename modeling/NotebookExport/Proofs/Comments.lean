import NotebookExport.Proofs.CellByCell
import NotebookExport.Proofs.Lines

/-!
# Markdown as comments

A script is read in lines that end at a line feed, at a carriage return, or at both together. Every
line of it that is not empty comes from one line of a cell with the mark before it, and the blank
lines around definitions change nothing about this. So markdown stays a comment as long as no line
end is left inside a marked line with text behind it that is no comment, and this is exactly when it
does: a carriage return alone does not end a line of markdown, and neither does a mark have to be
one line.
-/

namespace NotebookExport

open Text

namespace Text

/-! ### Lines of a script -/

/-- The lines of a script: they end at a line feed, at a carriage return, or at both together. -/
def scriptLines : List Char → List (List Char)
  | [] => [[]]
  | '\r' :: '\n' :: cs => [] :: scriptLines cs
  | c :: cs =>
    if c = '\n' ∨ c = '\r' then [] :: scriptLines cs
    else (scriptLines cs).modifyHead (c :: ·)

/-- Whether a character ends a line of a script. -/
def endsLine (c : Char) : Bool := c = '\n' || c = '\r'

/-- Cutting at every line feed and carriage return gives the same lines and some more empty ones. -/
lemma exists_scriptLines (text : List Char) :
    ∃ line rest rest', scriptLines text = line :: rest ∧ text.splitOnP endsLine = line :: rest' ∧
      ∀ x ≠ [], x ∈ rest ↔ x ∈ rest' := by
  induction text using scriptLines.induct with
  | case1 => exact ⟨[], [], [], rfl, by simp, by simp⟩
  | case2 cs ih =>
    obtain ⟨line, rest, rest', hlines, hpieces, hsame⟩ := ih
    refine ⟨[], line :: rest, [] :: line :: rest', ?_, ?_, ?_⟩
    · rw [scriptLines, hlines]
    · simp [List.splitOnP_cons_eq_if_modifyHead, endsLine, hpieces]
    · intro x hx
      simp [hx, hsame x hx]
  | case3 c cs hpair hends ih =>
    obtain ⟨line, rest, rest', hlines, hpieces, hsame⟩ := ih
    refine ⟨[], line :: rest, line :: rest', ?_, ?_, ?_⟩
    · rw [scriptLines, if_pos hends, hlines]
      exact hpair
    · simp [List.splitOnP_cons_eq_if_modifyHead, endsLine, hends, hpieces]
    · intro x hx
      simp [hsame x hx]
  | case4 c cs hpair hends ih =>
    obtain ⟨line, rest, rest', hlines, hpieces, hsame⟩ := ih
    refine ⟨c :: line, rest, rest', ?_, ?_, hsame⟩
    · rw [scriptLines, if_neg hends, hlines]
      · rfl
      · exact hpair
    · simp [List.splitOnP_cons_eq_if_modifyHead, endsLine, hends, hpieces]

lemma mem_scriptLines {x text : List Char} (hx : x ≠ []) :
    x ∈ scriptLines text ↔ x ∈ text.splitOnP endsLine := by
  obtain ⟨line, rest, rest', hlines, hpieces, hsame⟩ := exists_scriptLines text
  simp [hlines, hpieces, hsame x hx]

lemma mem_scriptLines_append_feed {x : List Char} (hx : x ≠ []) (first second : List Char) :
    x ∈ scriptLines (first ++ '\n' :: second) ↔ x ∈ scriptLines first ∨ x ∈ scriptLines second := by
  have hfeed : endsLine '\n' := rfl
  simp only [mem_scriptLines hx, List.splitOnP_append_cons first second hfeed, List.mem_append]

/-- The lines of some lines one below the other. -/
lemma mem_scriptLines_joinLines {x : List Char} (hx : x ≠ []) (lines : List (List Char)) :
    x ∈ scriptLines (joinLines lines) ↔ ∃ line ∈ lines, x ∈ scriptLines line := by
  induction lines with
  | nil => simp [joinLines, scriptLines, hx]
  | cons line lines ih =>
    by_cases hnone : lines = []
    · simp [hnone, joinLines]
    · rw [joinLines_cons line hnone, mem_scriptLines_append_feed hx, ih]
      simp

end Text

/-! ### Lines that blank lines leave alone -/

lemma SpacedLine.mem_scriptLines_parts {x : List Char} (hx : x ≠ []) (s : SpacedLine) :
    (∃ line ∈ s.parts, x ∈ scriptLines line) ↔ x ∈ scriptLines s.line := by
  obtain ⟨line, isSpacedBefore, isSpacedAfter⟩ := s
  cases isSpacedBefore <;> cases isSpacedAfter <;> simp [parts, scriptLines, hx]

/-- Blank lines around definitions add no line that is not empty, and take none away. -/
theorem mem_scriptLines_addBlankLines {x : List Char} (hx : x ≠ []) (markers : List String)
    (text : String) :
    x ∈ scriptLines (addBlankLines markers text).code.toList ↔ x ∈ scriptLines text.toList := by
  have hlines : (spaceLines markers true (splitLines text.toList)).map SpacedLine.line =
      splitLines text.toList := map_line_spaceLines true _
  calc x ∈ scriptLines (addBlankLines markers text).code.toList
    _ ↔ ∃ s ∈ spaceLines markers true (splitLines text.toList),
        ∃ line ∈ s.parts, x ∈ scriptLines line := by
      simp only [addBlankLines, String.toList_ofList, mem_scriptLines_joinLines hx,
        List.mem_flatMap]
      grind
    _ ↔ ∃ s ∈ spaceLines markers true (splitLines text.toList), x ∈ scriptLines s.line := by
      simp only [SpacedLine.mem_scriptLines_parts hx]
    _ ↔ ∃ line ∈ splitLines text.toList, x ∈ scriptLines line := by
      conv_rhs => rw [← hlines]
      simp
    _ ↔ x ∈ scriptLines text.toList := by
      rw [← mem_scriptLines_joinLines hx, joinLines_splitLines]

/-! ### Lines of marked text -/

/-- The lines of a text that get a mark; no text at all counts as one empty line. -/
def markedLines (text : String) : List (List Char) :=
  if text = "" then [[]] else lines text.toList

lemma mem_scriptLines_commentLines {x : List Char} (hx : x ≠ []) (mark text : String) :
    x ∈ scriptLines (commentLines mark text).toList ↔
      ∃ line ∈ markedLines text, x ∈ scriptLines (mark.toList ++ line) := by
  by_cases hempty : text = ""
  · simp [commentLines, markedLines, hempty]
  · simp [commentLines, markedLines, hempty, mem_scriptLines_joinLines hx]

lemma EndsBlank.mem_scriptLines_append {x : List Char} (hx : x ≠ []) {first : String}
    (h : EndsBlank first) (second : String) :
    x ∈ scriptLines (first ++ second).toList ↔
      x ∈ scriptLines first.toList ∨ x ∈ scriptLines second.toList := by
  rcases h with rfl | ⟨before, rfl⟩
  · simp [scriptLines, hx]
  · have halone := mem_scriptLines_append_feed hx (before.toList ++ ['\n']) []
    have hwhole := mem_scriptLines_append_feed hx (before.toList ++ ['\n']) second.toList
    simp only [scriptLines, List.mem_singleton, hx, or_false] at halone
    simpa [← halone] using hwhole

lemma Assembly.mem_scriptLines_text {x : List Char} (hx : x ≠ []) (outcomes : List CellOutcome) :
    x ∈ scriptLines (text ⟨outcomes⟩).toList ↔
      ∃ outcome ∈ outcomes, x ∈ scriptLines outcome.text.toList := by
  induction outcomes with
  | nil => simp [text, String.join_nil, scriptLines, hx]
  | cons outcome outcomes ih =>
    rw [text_cons, outcome.endsBlank_text.mem_scriptLines_append hx, ih]
    simp

/-! ### Scripts of markdown -/

/-- Whether a line of a script does nothing: it is blank or a comment. -/
def isIdle (line : List Char) : Bool := isBlank line || line.head? = some '#'

/-- A script that is nothing but comments. -/
def IsCommented (script : String) : Prop := ∀ line ∈ scriptLines script.toList, isIdle line

instance (script : String) : Decidable (IsCommented script) :=
  inferInstanceAs (Decidable (∀ line ∈ scriptLines script.toList, isIdle line))

lemma isIdle_nil : isIdle [] := rfl

variable {surroundings : Surroundings} {c : Configuration} {cells : List Cell}

/-- Every line of the script that is not empty comes from a line of markdown with the mark before
it. -/
lemma mem_scriptLines_script {x : List Char} (hx : x ≠ []) (hminimal : c.formatsExternally = false)
    (hcells : ∀ cell ∈ cells, cell.kind ≠ .code) :
    x ∈ scriptLines (renderCells surroundings c cells).script.toList ↔
      ∃ cell ∈ cells, cell.kind = .markdown ∧
        ∃ line ∈ markedLines cell.source, x ∈ scriptLines (c.commentMark.toList ++ line) := by
  have hcell : ∀ cell ∈ cells,
      (x ∈ scriptLines ((c.assembler surroundings.parser).outcome cell).text.toList ↔
        cell.kind = .markdown ∧
          ∃ line ∈ markedLines cell.source, x ∈ scriptLines (c.commentMark.toList ++ line)) := by
    rintro ⟨kind, source⟩ hmem
    cases kind with
    | code => exact absurd rfl (hcells _ hmem)
    | markdown =>
      have hend := mem_scriptLines_append_feed hx (commentLines c.commentMark source).toList ['\n']
      have hfeed : x ∉ scriptLines ['\n'] := by simp [scriptLines, hx]
      simpa [Assembler.outcome, Configuration.assembler, CellOutcome.text, cellSeparator, hfeed,
        mem_scriptLines_commentLines hx] using hend
    | other name => simp [Assembler.outcome, CellOutcome.text, scriptLines, hx]
  simp only [renderCells, Rendered.script, Configuration.formatter_of_minimal hminimal,
    Formatter.format, mem_scriptLines_addBlankLines hx, Assembler.assemble,
    Assembly.mem_scriptLines_text hx, List.mem_map, exists_exists_and_eq_and]
  exact exists_congr fun cell => and_congr_right fun hmem => hcell cell hmem

/-- The first line of a text that begins with a number sign is a comment. -/
lemma isIdle_head {line : List Char} {lines : List (List Char)} {text : List Char}
    (h : scriptLines ('#' :: text) = line :: lines) : isIdle line := by
  have hcons : scriptLines ('#' :: text) = (scriptLines text).modifyHead ('#' :: ·) := by
    rw [scriptLines]
    · simp
    · intro cs heq
      cases heq
  rw [hcons] at h
  cases hlines : scriptLines text with
  | nil => simp [hlines] at h
  | cons head rest =>
    obtain ⟨rfl, -⟩ : '#' :: head = line ∧ rest = lines := by simpa [hlines] using h
    simp [isIdle]

/-- The mark of a configuration that makes sense begins with a number sign. -/
lemma Configuration.exists_commentMark (hvalid : c.fault? = none) :
    ∃ rest, c.commentMark.toList = '#' :: rest := by
  unfold fault? at hvalid
  split_ifs at hvalid with _ _ _ hmark
  obtain ⟨rest, hrest⟩ := List.head?_eq_some_iff.mp (not_not.mp hmark)
  exact ⟨rest, hrest⟩

/-- A marked line is a comment up to the first line end in it. -/
lemma isIdle_or_mem_tail {x line : List Char} (hvalid : c.fault? = none)
    (h : x ∈ scriptLines (c.commentMark.toList ++ line)) :
    isIdle x ∨ x ∈ (scriptLines (c.commentMark.toList ++ line)).tail := by
  obtain ⟨rest, hmark⟩ := Configuration.exists_commentMark hvalid
  rw [hmark, List.cons_append] at h ⊢
  cases hlines : scriptLines ('#' :: (rest ++ line)) with
  | nil => simp [hlines] at h
  | cons first begun =>
    rw [hlines] at h
    rcases List.mem_cons.mp h with rfl | hbegun
    · exact .inl (isIdle_head hlines)
    · exact .inr hbegun

/-- A script of markdown is nothing but comments exactly if no marked line of it holds the end of a
line with text behind it that is no comment. -/
theorem isCommented_script_iff (surroundings : Surroundings) (hvalid : c.fault? = none)
    (hminimal : c.formatsExternally = false) (hcells : ∀ cell ∈ cells, cell.kind ≠ .code) :
    IsCommented (renderCells surroundings c cells).script ↔
      ∀ cell ∈ cells, cell.kind = .markdown → ∀ line ∈ markedLines cell.source,
        ∀ begun ∈ (scriptLines (c.commentMark.toList ++ line)).tail, isIdle begun := by
  constructor
  · intro h cell hcell hkind line hline begun hbegun
    by_cases hx : begun = []
    · exact hx ▸ isIdle_nil
    · exact h begun ((mem_scriptLines_script hx hminimal hcells).mpr
        ⟨cell, hcell, hkind, line, hline, List.mem_of_mem_tail hbegun⟩)
  · intro h x hmem
    by_cases hx : x = []
    · exact hx ▸ isIdle_nil
    · obtain ⟨cell, hcell, hkind, line, hline, hmem⟩ :=
        (mem_scriptLines_script hx hminimal hcells).mp hmem
      rcases isIdle_or_mem_tail hvalid hmem with hidle | hbegun
      · exact hidle
      · exact h cell hcell hkind line hline x hbegun

/-- Lines that end with both characters become comments, and what is no markdown is left out. -/
theorem isCommented_script_of_pairs :
    let surroundings : Surroundings := ⟨refusingParser, fun _ _ => .notFound⟩
    let c : Configuration := { formatsExternally := false }
    let cells : List Cell := [⟨.markdown, "a\r\nb\r\n"⟩, ⟨.other "raw", "c"⟩, ⟨.markdown, ""⟩]
    c.fault? = none ∧ c.formatsExternally = false ∧ (∀ cell ∈ cells, cell.kind ≠ .code) ∧
      IsCommented (renderCells surroundings c cells).script := by
  intro surroundings c cells
  have hvalid : c.fault? = none := by decide
  have hcells : ∀ cell ∈ cells, cell.kind ≠ .code := by decide
  refine ⟨hvalid, rfl, hcells, ?_⟩
  rw [isCommented_script_iff surroundings hvalid rfl hcells]
  decide

/-- A carriage return alone, a heading of two lines and a mark of two lines each put a line into the
script that is no comment. -/
theorem markdown_becomes_code :
    let surroundings : Surroundings := ⟨refusingParser, fun _ _ => .notFound⟩
    let c : Configuration := { formatsExternally := false }
    let heading : CellRecord := { cellType := "heading", source := some (.whole "a\r\nb") }
    c.fault? = none ∧
      (renderCells surroundings c [⟨.markdown, "a\rb"⟩]).script = "# a\rb\n\n" ∧
      ¬ IsCommented "# a\rb\n\n" ∧
      (renderCells surroundings c [heading.upgrade]).script = "# # a\r b\n\n" ∧
      ¬ IsCommented "# # a\r b\n\n" ∧
      ({ c with commentMark := "#\n" } : Configuration).fault? = none ∧
      (renderCells surroundings { c with commentMark := "#\n" } [⟨.markdown, "a"⟩]).script =
        "#\na\n\n" ∧
      ¬ IsCommented "#\na\n\n" := by
  decide

/-! ### Texts with well-formed line ends -/

lemma feed_notMem_lines {line text : List Char} (h : line ∈ lines text) : '\n' ∉ line := by
  simp only [lines, List.mem_append, List.mem_map] at h
  rcases h with ⟨part, hpart, rfl⟩ | hlast
  · have hfeed := feed_notMem_splitLines (List.dropLast_subset _ hpart)
    unfold dropReturn
    split_ifs
    · exact fun hmem => hfeed (List.dropLast_subset _ hmem)
    · exact hfeed
  · split_ifs at hlast with hnone
    · simp at hlast
    · rw [List.mem_singleton.mp hlast]
      obtain ⟨last, hlast⟩ := Option.ne_none_iff_exists'.mp
        (mt List.getLast?_eq_none_iff.mp (splitLines_ne_nil text))
      rw [hlast]
      exact feed_notMem_splitLines (List.mem_of_getLast? hlast)

/-- A text without line ends is one line. -/
lemma eq_nil_of_mem_tail_scriptLines {text begun : List Char} (h : ∀ char ∈ text, ¬ endsLine char)
    (hbegun : begun ∈ (scriptLines text).tail) : begun = [] := by
  obtain ⟨line, rest, rest', hlines, hpieces, hsame⟩ := exists_scriptLines text
  rw [List.splitOnP_eq_singleton (by simpa using h), List.cons.injEq] at hpieces
  by_contra hne
  rw [hlines, List.tail_cons, hsame begun hne, ← hpieces.2] at hbegun
  cases hbegun

/-- If the mark holds no line end and no line of markdown a carriage return, then a script of
markdown is nothing but comments. -/
theorem isCommented_script (surroundings : Surroundings) (hvalid : c.fault? = none)
    (hminimal : c.formatsExternally = false) (hcells : ∀ cell ∈ cells, cell.kind ≠ .code)
    (hmark : ∀ char ∈ c.commentMark.toList, ¬ endsLine char)
    (hlines : ∀ cell ∈ cells, ∀ line ∈ lines cell.source.toList, '\r' ∉ line) :
    IsCommented (renderCells surroundings c cells).script := by
  intro x hmem
  by_cases hx : x = []
  · exact hx ▸ isIdle_nil
  obtain ⟨cell, hcell, _, line, hline, hmem⟩ := (mem_scriptLines_script hx hminimal hcells).mp hmem
  rcases isIdle_or_mem_tail hvalid hmem with hidle | hbegun
  · exact hidle
  -- nothing begins inside a marked line, as no line end is in it
  have hends : ∀ char ∈ c.commentMark.toList ++ line, ¬ endsLine char := by
    intro char hchar hend
    rcases List.mem_append.mp hchar with hchar | hchar
    · exact hmark char hchar hend
    · unfold markedLines at hline
      split_ifs at hline with hnone
      · rw [List.mem_singleton.mp hline] at hchar
        cases hchar
      · rcases (by simpa [endsLine] using hend : char = '\n' ∨ char = '\r') with rfl | rfl
        · exact feed_notMem_lines hline hchar
        · exact hlines cell hcell line hline hchar
  exact absurd (eq_nil_of_mem_tail_scriptLines hends hbegun) hx

end NotebookExport
