import Mathlib.Tactic.Common
import NotebookExport.Formatting.BlankLines

/-!
# Blank lines in a text of two parts

Spacing out the definitions of a text looks back one line and no further, so what comes behind a
blank line is spaced out as if it stood alone. If the first part of a text is empty or ends with a
blank line, then the whole is formatted part by part: the texts stand one behind the other, and the
changes to the second part have their numbers counted on from the lines of the first.
-/

namespace NotebookExport

open Text

namespace Text

/-! ### Lines of two texts -/

/-- The lines on both sides of a line feed. -/
lemma splitLines_append_feed (first second : List Char) :
    splitLines (first ++ '\n' :: second) = splitLines first ++ splitLines second := by
  induction first with
  | nil => simp
  | cons c cs ih =>
    by_cases hc : c = '\n'
    · subst hc
      simp [ih]
    · simp only [List.cons_append, splitLines, if_neg hc, ih]
      obtain ⟨line, lines, hlines⟩ := List.exists_cons_of_ne_nil (splitLines_ne_nil cs)
      simp [hlines]

lemma length_splitLines (text : List Char) : (splitLines text).length = text.count '\n' + 1 := by
  induction text with
  | nil => rfl
  | cons c cs ih =>
    by_cases hc : c = '\n'
    · subst hc
      simp [ih]
    · obtain ⟨line, lines, hlines⟩ := List.exists_cons_of_ne_nil (splitLines_ne_nil cs)
      rw [hlines] at ih
      simp only [splitLines, if_neg hc, hlines, List.count_cons_of_ne hc]
      exact ih

/-- Lines below others: what is above them ends with a line feed. -/
lemma joinLines_append (first : List (List Char)) {second : List (List Char)} (h : second ≠ []) :
    joinLines (first ++ second) = joinLines (first ++ [[]]) ++ joinLines second := by
  induction first with
  | nil => simp [joinLines]
  | cons line lines ih =>
    rw [List.cons_append, List.cons_append, joinLines_cons line (by simp [h]), ih,
      joinLines_cons line (by simp)]
    simp

end Text

/-! ### Spacing out -/

variable {markers : List String}

lemma startsDefinition_nil (hmarkers : "" ∉ markers) : startsDefinition markers [] = false := by
  rw [startsDefinition, List.any_eq_false]
  intro marker hmem hprefix
  have hempty : marker = "" := by simpa using hprefix
  exact hmarkers (hempty ▸ hmem)

/-- What comes behind an empty line does not depend on what comes before it. -/
lemma spaceLines_append_nil (hmarkers : "" ∉ markers) (isFree : Bool)
    (before behind : List (List Char)) :
    spaceLines markers isFree (before ++ [] :: behind) =
      spaceLines markers isFree before ++ ⟨[], false, false⟩ :: spaceLines markers true behind := by
  induction before generalizing isFree with
  | nil => simp [spaceLines, startsDefinition_nil hmarkers, isBlank]
  | cons line lines ih =>
    simp only [List.cons_append, spaceLines]
    split <;> rw [ih, List.cons_append]

/-- A definition gets its empty lines by itself and by what stands before it. -/
lemma spaceLines_cons (isFree : Bool) (line : List Char) (rest : List (List Char)) :
    spaceLines markers isFree (line :: rest) =
      ⟨line, startsDefinition markers line && !isFree, startsDefinition markers line⟩ ::
        spaceLines markers (startsDefinition markers line || isBlank line) rest := by
  cases hline : startsDefinition markers line <;> simp [spaceLines, hline]

lemma map_line_spaceLines (isFree : Bool) (lines : List (List Char)) :
    (spaceLines markers isFree lines).map SpacedLine.line = lines := by
  induction lines generalizing isFree with
  | nil => rfl
  | cons line lines ih => simp [spaceLines_cons, ih]

lemma length_spaceLines (isFree : Bool) (lines : List (List Char)) :
    (spaceLines markers isFree lines).length = lines.length := by
  rw [← List.length_map, map_line_spaceLines]

lemma SpacedLine.parts_ne_nil (s : SpacedLine) : s.parts ≠ [] := by
  simp [parts]

lemma flatMap_parts_ne_nil (isFree : Bool) (text : List Char) :
    (spaceLines markers isFree (splitLines text)).flatMap SpacedLine.parts ≠ [] := by
  obtain ⟨line, lines, hlines⟩ := List.exists_cons_of_ne_nil (splitLines_ne_nil text)
  rw [hlines]
  simp only [spaceLines]
  split <;> simp [SpacedLine.parts_ne_nil]

/-- Lines of which none starts a definition are left alone. -/
lemma spaceLines_of_no_definition {lines : List (List Char)} (isFree : Bool)
    (h : ∀ line ∈ lines, startsDefinition markers line = false) :
    spaceLines markers isFree lines = lines.map fun line => ⟨line, false, false⟩ := by
  induction lines generalizing isFree with
  | nil => rfl
  | cons line lines ih =>
    have hline := h line List.mem_cons_self
    simp [spaceLines, hline, ih _ fun line' hmem => h line' (List.mem_cons_of_mem _ hmem)]

/-! ### Changes -/

lemma lineChanges_of_no_definition (number : Nat) (lines : List (List Char)) :
    lineChanges number (lines.map fun line => ⟨line, false, false⟩) = [] := by
  induction lines generalizing number with
  | nil => rfl
  | cons line lines ih => simp [lineChanges, SpacedLine.changes, ih]

/-- A text in which no line starts a definition stays as it is. -/
theorem addBlankLines_of_no_definition {text : String}
    (h : ∀ line ∈ splitLines text.toList, startsDefinition markers line = false) :
    addBlankLines markers text = ⟨text, [], none⟩ := by
  rw [addBlankLines, spaceLines_of_no_definition true h, lineChanges_of_no_definition]
  simp [List.flatMap_map, SpacedLine.parts, joinLines_splitLines]

/-- A change as it is numbered in a text with more lines before it. -/
def FormatChange.later (lines : Nat) : FormatChange → FormatChange
  | .blankLineBefore line => .blankLineBefore (line + lines)
  | .blankLineAfter line => .blankLineAfter (line + lines)
  | change => change

lemma SpacedLine.changes_add (number lines : Nat) (s : SpacedLine) :
    s.changes (number + lines) = (s.changes number).map (FormatChange.later lines) := by
  obtain ⟨line, isSpacedBefore, isSpacedAfter⟩ := s
  cases isSpacedBefore <;> cases isSpacedAfter <;> rfl

lemma lineChanges_add (number lines : Nat) (spaced : List SpacedLine) :
    lineChanges (number + lines) spaced =
      (lineChanges number spaced).map (FormatChange.later lines) := by
  induction spaced generalizing number with
  | nil => rfl
  | cons s spaced ih =>
    have hnext : number + lines + 1 = number + 1 + lines := by omega
    simp only [lineChanges, List.map_append, SpacedLine.changes_add, hnext, ih]

lemma lineChanges_append (number : Nat) (first second : List SpacedLine) :
    lineChanges number (first ++ second) =
      lineChanges number first ++ lineChanges (number + first.length) second := by
  induction first generalizing number with
  | nil => rfl
  | cons s first ih =>
    have hnext : number + 1 + first.length = number + (first.length + 1) := by omega
    simp only [List.cons_append, lineChanges, List.length_cons, ih, hnext, List.append_assoc]

/-! ### Two parts -/

/-- A text that is empty or ends with an empty line. -/
def EndsBlank (text : String) : Prop := text = "" ∨ ∃ before, text = before ++ "\n\n"

/-- Before an empty line the lines of a text are spaced out in the same way whatever follows. -/
lemma EndsBlank.exists_spaced (hmarkers : "" ∉ markers) {first : String} (h : EndsBlank first) :
    ∃ spaced : List SpacedLine, spaced.length = first.toList.count '\n' ∧
      ∀ text, spaceLines markers true (splitLines (first.toList ++ text)) =
        spaced ++ spaceLines markers true (splitLines text) := by
  rcases h with rfl | ⟨before, rfl⟩
  · exact ⟨[], by simp, by simp⟩
  · refine ⟨spaceLines markers true (splitLines before.toList) ++ [⟨[], false, false⟩], ?_, ?_⟩
    · simp [length_spaceLines, length_splitLines]
    · intro text
      have hchars : (before ++ "\n\n").toList ++ text =
        before.toList ++ '\n' :: '\n' :: text := by simp
      rw [hchars, splitLines_append_feed, splitLines_feed, spaceLines_append_nil hmarkers]
      simp

/-- Behind an empty line a text is formatted as if it stood alone. -/
theorem addBlankLines_append (hmarkers : "" ∉ markers) {first : String} (h : EndsBlank first)
    (second : String) :
    (addBlankLines markers (first ++ second)).code =
        (addBlankLines markers first).code ++ (addBlankLines markers second).code ∧
      (addBlankLines markers (first ++ second)).changes =
        (addBlankLines markers first).changes ++
          (addBlankLines markers second).changes.map
            (FormatChange.later (first.toList.count '\n')) := by
  obtain ⟨spaced, hlength, hspaced⟩ := h.exists_spaced hmarkers
  have halone := hspaced []
  have hnone : spaceLines markers true (splitLines []) = [⟨[], false, false⟩] := by
    simp [spaceLines, startsDefinition_nil hmarkers]
  rw [List.append_nil, hnone] at halone
  constructor
  · apply String.toList_injective
    simp only [addBlankLines, String.toList_append, String.toList_ofList, hspaced, halone,
      List.flatMap_append]
    exact joinLines_append _ (flatMap_parts_ne_nil true second.toList)
  · simp only [addBlankLines, String.toList_append, hspaced, halone, lineChanges_append, hlength,
      lineChanges_add]
    simp [lineChanges, SpacedLine.changes]

end NotebookExport
