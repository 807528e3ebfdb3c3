import Mathlib.Data.List.Basic
import Mathlib.Data.List.Forall2
import NotebookExport.Proofs.Comments
import NotebookExport.Proofs.FailingPrograms
import NotebookExport.Proofs.Lines

/-!
# Scripts of markdown

A notebook of markdown becomes a script of its lines, each behind the mark, and two line feeds
behind every cell. None of these lines starts a definition, so there is nothing to format, and there
is no code to prune: what is chosen about either makes no difference. The lines of a cell can be
read off its part of the script again.
-/

namespace NotebookExport

open Text

variable {mark source text : String} {parts : List (List Char)}

/-! ### Lines of a source -/

/-- The lines of markdown: those of the text, or one empty line if there is no text. -/
def IsSourceLines (source : String) (parts : List (List Char)) : Prop :=
  if source = "" then parts = [[]] else IsCutInto source.toList parts

lemma isSourceLines_iff : IsSourceLines source parts ↔ parts = markedLines source := by
  unfold IsSourceLines markedLines
  split_ifs
  · rfl
  · exact isCutInto_iff

lemma forall₂_isSourceLines_iff {cells : List Cell} {parts : List (List (List Char))} :
    List.Forall₂ (fun cell lines => IsSourceLines cell.source lines) cells parts ↔
      parts = cells.map fun cell => markedLines cell.source := by
  simp only [isSourceLines_iff, eq_comm (b := markedLines _)]
  rw [← List.forall₂_map_left_iff (f := fun cell : Cell => markedLines cell.source),
    List.forall₂_eq_eq_eq, eq_comm]

lemma markedLines_ne_nil (source : String) : markedLines source ≠ [] := by
  unfold markedLines
  split_ifs with hempty
  · simp
  · intro hnone
    have hcut : IsCutInto source.toList [] := isCutInto_iff.mpr hnone.symm
    have hchars : source.toList = [] := by
      generalize source.toList = chars at hcut
      cases hcut
      rfl
    exact hempty (by simpa using hchars)

lemma feed_notMem_markedLines {line : List Char} (h : line ∈ markedLines source) : '\n' ∉ line := by
  unfold markedLines at h
  split_ifs at h
  · simp_all
  · exact feed_notMem_lines h

/-! ### Marked text -/

/-- Lines below one another, each behind a mark. -/
def markedText (mark : String) (parts : List (List Char)) : String :=
  String.ofList (joinLines (parts.map fun line => mark.toList ++ line))

lemma commentLines_eq (mark source : String) :
    commentLines mark source = markedText mark (markedLines source) := by
  unfold commentLines markedText markedLines
  split_ifs
  · simp [joinLines]
  · rfl

/-- The lines of a marked text are those that were marked. -/
lemma splitLines_markedText (hmark : '\n' ∉ mark.toList) (hne : parts ≠ [])
    (hfeed : ∀ line ∈ parts, '\n' ∉ line) :
    splitLines (markedText mark parts).toList = parts.map fun line => mark.toList ++ line := by
  rw [markedText, String.toList_ofList]
  apply splitLines_joinLines
  · simpa using hne
  · intro line hline
    obtain ⟨own, hown, rfl⟩ := List.mem_map.mp hline
    simp [hmark, hfeed own hown]

/-- Taking the mark off every line gives the lines back. -/
lemma dropPrefix?_splitLines_markedText (hmark : '\n' ∉ mark.toList) (source : String) :
    (splitLines (markedText mark (markedLines source)).toList).map
        (fun line => line.dropPrefix? mark.toList) = (markedLines source).map some := by
  rw [splitLines_markedText hmark (markedLines_ne_nil source) fun _ => feed_notMem_markedLines,
    List.map_map]
  refine List.map_congr_left fun line _ => ?_
  exact List.dropPrefix?_append_of_beq line (by simp)

/-! ### Scripts -/

variable {surroundings : Surroundings} {c : Configuration} {cells : List Cell}

lemma Assembler.outcome_of_markdown {assembler : Assembler} {cell : Cell}
    (h : cell.kind = .markdown) :
    assembler.outcome cell = .comment (commentLines assembler.mark cell.source) := by
  simp [outcome, h]

/-- The part of the script that a cell of markdown becomes. -/
lemma splitLines_text_outcome {assembler : Assembler} {cell : Cell}
    (hmark : '\n' ∉ assembler.mark.toList) (h : cell.kind = .markdown) :
    splitLines (assembler.outcome cell).text.toList =
      ((markedLines cell.source).map fun line => assembler.mark.toList ++ line) ++ [[], []] := by
  rw [Assembler.outcome_of_markdown h, CellOutcome.text, cellSeparator, String.toList_append,
    commentLines_eq]
  change splitLines (_ ++ '\n' :: ['\n']) = _
  rw [splitLines_append_feed, splitLines_markedText hmark (markedLines_ne_nil cell.source)
    fun _ => feed_notMem_markedLines]
  rfl

/-- A script of markdown has marked lines and empty lines only. -/
lemma startsMarked_of_mem_splitLines {assembler : Assembler} {line : List Char}
    (hmark : '\n' ∉ assembler.mark.toList) (hcells : ∀ cell ∈ cells, cell.kind = .markdown)
    (h : line ∈ splitLines (assembler.assemble cells).text.toList) :
    line = [] ∨ assembler.mark.toList <+: line := by
  induction cells with
  | nil => exact .inl (by simpa [Assembler.assemble, Assembly.text, String.join_nil] using h)
  | cons cell cells ih =>
    simp only [Assembler.assemble, List.map_cons, Assembly.text_cons, String.toList_append] at h
    rw [(CellOutcome.endsBlank_text _).splitLines_append, List.mem_append] at h
    rcases h with h | h
    · have hown := List.dropLast_subset _ h
      rw [splitLines_text_outcome hmark (hcells cell List.mem_cons_self), List.mem_append] at hown
      rcases hown with hown | hown
      · obtain ⟨own, -, rfl⟩ := List.mem_map.mp hown
        exact .inr (List.prefix_append _ _)
      · exact .inl (by simpa using hown)
    · exact ih (fun cell' hmem => hcells cell' (List.mem_cons_of_mem _ hmem)) h

/-- No marked line starts a definition. -/
lemma startsDefinition_of_marked {line : List Char} (hvalid : c.fault? = none)
    (hmarkers : ∀ marker ∈ c.markers, marker.toList.head? ≠ some '#')
    (h : line = [] ∨ c.commentMark.toList <+: line) : startsDefinition c.markers line = false := by
  have hempty : "" ∉ c.markers := by
    unfold Configuration.fault? at hvalid
    split_ifs at hvalid with _ _ hempty
    simpa using hempty
  rcases h with rfl | ⟨rest, rfl⟩
  · exact startsDefinition_nil hempty
  · obtain ⟨behind, hmark⟩ := Configuration.exists_commentMark hvalid
    rw [hmark, startsDefinition, List.any_eq_false]
    intro marker hmem hprefix
    cases hchars : marker.toList with
    | nil => exact hempty ((by simpa using hchars : marker = "") ▸ hmem)
    | cons char chars =>
      have hhead : char = '#' := by
        rw [hchars, List.cons_append, List.isPrefixOf_cons_cons, Bool.and_eq_true] at hprefix
        exact beq_iff_eq.mp hprefix.1
      exact hmarkers marker hmem (by simp [hchars, hhead])

/-! ### The result -/

lemma Assembly.skippedFrom_of_no_fault {outcomes : List CellOutcome}
    (h : ∀ outcome ∈ outcomes, outcome.fault? = none) (index : Nat) :
    skippedFrom index outcomes = [] := by
  induction outcomes generalizing index with
  | nil => rfl
  | cons outcome rest ih =>
    rw [List.forall_mem_cons] at h
    simp [skippedFrom, h.1, ih h.2]

/-- Nothing is pruned from markdown, and none of it is left out. -/
lemma report_of_markdown {assembler : Assembler} (hcells : ∀ cell ∈ cells, cell.kind = .markdown) :
    (assembler.assemble cells).report.removed = [] ∧
      (assembler.assemble cells).report.skipped = [] := by
  have hcomment : ∀ outcome ∈ (assembler.assemble cells).outcomes,
      ∃ text, outcome = .comment text := by
    intro outcome hmem
    obtain ⟨cell, hcell, rfl⟩ := List.mem_map.mp hmem
    exact ⟨_, Assembler.outcome_of_markdown (hcells cell hcell)⟩
  constructor
  · refine List.flatMap_eq_nil_iff.mpr fun outcome hmem => ?_
    obtain ⟨text, rfl⟩ := hcomment outcome hmem
    rfl
  · refine Assembly.skippedFrom_of_no_fault (fun outcome hmem => ?_) 0
    obtain ⟨text, rfl⟩ := hcomment outcome hmem
    rfl

/-- The script before it is formatted. -/
lemma text_of_markdown {assembler : Assembler} (hcells : ∀ cell ∈ cells, cell.kind = .markdown) :
    (assembler.assemble cells).text = String.join (cells.map fun cell =>
      markedText assembler.mark (markedLines cell.source) ++ cellSeparator) := by
  rw [Assembly.text, Assembler.assemble, List.map_map]
  congr 1
  refine List.map_congr_left fun cell hmem => ?_
  rw [Function.comp_apply, Assembler.outcome_of_markdown (hcells cell hmem), CellOutcome.text,
    commentLines_eq]

/-- What is formatted without a program, or with one that is missing. -/
lemma format_eq_addBlankLines (h : c.formatsExternally = false ∨
      surroundings.programs c.command text = .notFound) :
    c.formatter.format surroundings.programs text = addBlankLines c.markers text := by
  unfold Configuration.formatter
  split
  case isTrue hexternal =>
    exact formatByProgram_eq_addBlankLines_iff.mpr (h.resolve_left (by simp [hexternal]))
  case isFalse => rfl

/-- Cells of markdown with the same text in the script have the same lines. -/
lemma markedLines_of_same_text {mark source source' : String} (hmark : '\n' ∉ mark.toList)
    (h : commentLines mark source = commentLines mark source') :
    markedLines source = markedLines source' := by
  rw [commentLines_eq, commentLines_eq] at h
  have hlines := dropPrefix?_splitLines_markedText hmark source
  rw [h, dropPrefix?_splitLines_markedText hmark source'] at hlines
  exact (List.map_injective_iff.mpr (fun _ _ => Option.some.inj) hlines).symm

/-- A notebook of markdown becomes a script of its lines, each behind the mark, with two line feeds
behind every cell; nothing is formatted, removed or skipped. Taking the mark off the lines of a cell
gives the lines of its source, so cells that have other lines do not become the same text. -/
theorem script_of_markdown (surroundings : Surroundings) (c : Configuration) (cells : List Cell)
    (hvalid : c.fault? = none) (hmark : '\n' ∉ c.commentMark.toList)
    (hmarkers : ∀ marker ∈ c.markers, marker.toList.head? ≠ some '#')
    (hcells : ∀ cell ∈ cells, cell.kind = .markdown)
    (hformat : c.formatsExternally = false ∨ surroundings.programs c.command
      ((c.assembler surroundings.parser).assemble cells).text = .notFound) :
    let rendered := renderCells surroundings c cells
    (∃ parts : List (List (List Char)),
      List.Forall₂ (fun cell lines => IsSourceLines cell.source lines) cells parts ∧
        rendered.script =
          String.join (parts.map fun lines => markedText c.commentMark lines ++ "\n\n") ∧
        ∀ lines ∈ parts, (splitLines (markedText c.commentMark lines).toList).map
          (fun line => line.dropPrefix? c.commentMark.toList) = lines.map some) ∧
      rendered.formatted.changes = [] ∧ rendered.formatted.tool = none ∧
      rendered.report.removed = [] ∧ rendered.report.skipped = [] ∧
      ∀ cell cell' : Cell, cell.kind = .markdown → cell'.kind = .markdown →
        ((c.assembler surroundings.parser).outcome cell).text =
          ((c.assembler surroundings.parser).outcome cell').text →
        ∀ lines, IsSourceLines cell.source lines ↔ IsSourceLines cell'.source lines := by
  set assembler := c.assembler surroundings.parser
  have hformatted : (renderCells surroundings c cells).formatted =
      ⟨(assembler.assemble cells).text, [], none⟩ := by
    change c.formatter.format surroundings.programs (assembler.assemble cells).text = _
    rw [format_eq_addBlankLines hformat]
    refine addBlankLines_of_no_definition fun line hline => ?_
    have hmarked : line = [] ∨ c.commentMark.toList <+: line :=
      startsMarked_of_mem_splitLines hmark hcells hline
    exact startsDefinition_of_marked hvalid hmarkers hmarked
  have hreport : (assembler.assemble cells).report.removed = [] ∧
      (assembler.assemble cells).report.skipped = [] := report_of_markdown hcells
  refine ⟨⟨cells.map fun cell => markedLines cell.source, ?_, ?_, ?_⟩, by rw [hformatted],
    by rw [hformatted], hreport.1, hreport.2, ?_⟩
  · exact forall₂_isSourceLines_iff.mpr rfl
  · rw [Rendered.script, hformatted, List.map_map]
    exact text_of_markdown hcells
  · intro lines hmem
    obtain ⟨cell, -, rfl⟩ := List.mem_map.mp hmem
    exact dropPrefix?_splitLines_markedText hmark cell.source
  · intro cell cell' hkind hkind' hsame lines
    rw [Assembler.outcome_of_markdown hkind, Assembler.outcome_of_markdown hkind'] at hsame
    have hcomments : commentLines c.commentMark cell.source =
        commentLines c.commentMark cell'.source := String.append_left_inj _ |>.mp hsame
    rw [isSourceLines_iff, isSourceLines_iff, markedLines_of_same_text hmark hcomments]

/-- Two cells, one of them empty, with a program that is missing. -/
theorem script_of_two_markdown_cells :
    let surroundings : Surroundings := ⟨refusingParser, fun _ _ => .notFound⟩
    let c : Configuration := {}
    let cells : List Cell := [⟨.markdown, "a\r\n\nb\n"⟩, ⟨.markdown, ""⟩]
    c.fault? = none ∧ '\n' ∉ c.commentMark.toList ∧
      (∀ marker ∈ c.markers, marker.toList.head? ≠ some '#') ∧
      (renderCells surroundings c cells).script = "# a\n# \n# b\n\n# \n\n" ∧
      (renderCells surroundings c cells).formatted.changes = [] := by
  intro surroundings c cells
  have hvalid : c.fault? = none := by decide
  have hmark : '\n' ∉ c.commentMark.toList := by decide
  have hmarkers : ∀ marker ∈ c.markers, marker.toList.head? ≠ some '#' := by decide
  obtain ⟨⟨parts, hparts, hscript, -⟩, hchanges, -⟩ := script_of_markdown surroundings c cells
    hvalid hmark hmarkers (by simp [cells]) (.inr rfl)
  refine ⟨hvalid, hmark, hmarkers, ?_, hchanges⟩
  rw [hscript, forall₂_isSourceLines_iff.mp hparts]
  decide

end NotebookExport
