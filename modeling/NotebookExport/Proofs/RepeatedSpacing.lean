import Mathlib.Logic.Function.Iterate
import NotebookExport.Proofs.EditScript

/-!
# Formatting again and again

Formatting leaves every definition behind a blank line, or at the beginning, and before an empty
line. Where this is so, no definition gets an empty line before it any more; but each of them gets
one behind it every time. So formatting does not come to rest: every run but the first adds one
empty line behind each definition, and nothing else.

Markers may not be empty here, as then an empty line, too, would count as a definition.
-/

namespace NotebookExport

open Text

variable {markers : List String} {lines : List (List Char)} {isFree : Bool}

/-! ### Lines that are spaced out -/

/-- Every definition stands where it needs no empty line before it, and has one behind it. The flag
tells whether the first line stands so. -/
inductive IsSpacedOut (markers : List String) : (isFree : Bool) → List (List Char) → Prop
  | nil {isFree : Bool} : IsSpacedOut markers isFree []
  | definition {line : List Char} {rest : List (List Char)}
      (hline : startsDefinition markers line = true) (hrest : IsSpacedOut markers true rest) :
      IsSpacedOut markers true (line :: [] :: rest)
  | other {isFree : Bool} {line : List Char} {rest : List (List Char)}
      (hline : startsDefinition markers line = false)
      (hrest : IsSpacedOut markers (isBlank line) rest) :
      IsSpacedOut markers isFree (line :: rest)

namespace IsSpacedOut

/-- Empty lines are free, and so is the line behind them. -/
lemma empties_append (hmarkers : "" ∉ markers) (count : Nat)
    (h : IsSpacedOut markers true lines) :
    IsSpacedOut markers true (List.replicate count [] ++ lines) := by
  induction count with
  | zero => exact h
  | succ count ih =>
    rw [List.replicate_succ, List.cons_append]
    exact .other (startsDefinition_nil hmarkers) ih

/-- What spacing out means for a single definition. -/
lemma getElem?_of_definition (hmarkers : "" ∉ markers) (h : IsSpacedOut markers isFree lines)
    {k : Nat} {line : List Char} (hget : lines[k]? = some line)
    (hstarts : startsDefinition markers line = true) :
    (k = 0 ∧ isFree = true ∨ ∃ i before, k = i + 1 ∧ lines[i]? = some before ∧ isBlank before) ∧
      lines[k + 1]? = some [] := by
  induction h generalizing k with
  | nil => cases hget
  | @definition first rest hfirst _ ih =>
    match k with
    | 0 => exact ⟨.inl ⟨rfl, rfl⟩, rfl⟩
    | 1 =>
      -- an empty line is no definition
      obtain rfl : [] = line := by simpa using hget
      simp [startsDefinition_nil hmarkers] at hstarts
    | k + 2 =>
      obtain ⟨hbefore, hbehind⟩ := ih hget
      refine ⟨.inr ?_, hbehind⟩
      rcases hbefore with ⟨rfl, -⟩ | ⟨i, before, rfl, hbefore, hblank⟩
      · exact ⟨1, [], rfl, rfl, rfl⟩
      · exact ⟨i + 2, before, rfl, hbefore, hblank⟩
  | @other isFree first rest hfirst _ ih =>
    match k with
    | 0 =>
      obtain rfl : first = line := by simpa using hget
      simp [hfirst] at hstarts
    | k + 1 =>
      obtain ⟨hbefore, hbehind⟩ := ih hget
      refine ⟨.inr ?_, hbehind⟩
      rcases hbefore with ⟨rfl, hblank⟩ | ⟨i, before, rfl, hbefore, hblank⟩
      · exact ⟨0, first, rfl, rfl, hblank⟩
      · exact ⟨i + 1, before, rfl, hbefore, hblank⟩

end IsSpacedOut

/-- Formatting spaces lines out. -/
lemma isSpacedOut_flatMap_parts (hmarkers : "" ∉ markers) (isFree : Bool)
    (lines : List (List Char)) :
    IsSpacedOut markers isFree ((spaceLines markers isFree lines).flatMap SpacedLine.parts) := by
  induction lines generalizing isFree with
  | nil => exact .nil
  | cons line rest ih =>
    rw [spaceLines_cons, List.flatMap_cons]
    cases hline : startsDefinition markers line with
    | false => exact .other hline (ih (isBlank line))
    | true =>
      have hown := IsSpacedOut.definition hline (ih true)
      cases isFree with
      | true => exact hown
      | false => exact .other (startsDefinition_nil hmarkers) hown

lemma isSpacedOut_addBlankLines (hmarkers : "" ∉ markers) (text : String) :
    IsSpacedOut markers true (splitLines (addBlankLines markers text).code.toList) := by
  rw [splitLines_code]
  exact isSpacedOut_flatMap_parts hmarkers true _

/-! ### Formatting lines that are spaced out -/

/-- Lines with some more empty lines behind every definition. -/
def padLines (markers : List String) (count : Nat) (lines : List (List Char)) :
    List (List Char) :=
  lines.flatMap fun line =>
    line :: (if startsDefinition markers line then List.replicate count [] else [])

/-- The numbers of the lines that are definitions, if the first line has the given number. -/
def definitionNumbers (markers : List String) (number : Nat) (lines : List (List Char)) :
    List Nat :=
  ((lines.zipIdx number).filter fun (line, _) => startsDefinition markers line).map Prod.snd

/-- No line gets an empty line before it where all is spaced out. -/
lemma IsSpacedOut.spaceLines_eq (hmarkers : "" ∉ markers) (h : IsSpacedOut markers isFree lines) :
    spaceLines markers isFree lines =
      lines.map fun line => ⟨line, false, startsDefinition markers line⟩ := by
  have hempty := startsDefinition_nil hmarkers
  induction h with
  | nil => rfl
  | definition hline _ ih => simp [spaceLines_cons, hline, hempty, isBlank, ih]
  | other hline _ ih => simp [spaceLines_cons, hline, ih]

lemma flatMap_parts_of_behind (lines : List (List Char)) :
    (lines.map fun line => (⟨line, false, startsDefinition markers line⟩ : SpacedLine)).flatMap
      SpacedLine.parts = padLines markers 1 lines := by
  simp [padLines, List.flatMap_map, SpacedLine.parts, List.replicate_one]

lemma lineChanges_of_behind (number : Nat) (lines : List (List Char)) :
    lineChanges number (lines.map fun line => ⟨line, false, startsDefinition markers line⟩) =
      (definitionNumbers markers number lines).map .blankLineAfter := by
  induction lines generalizing number with
  | nil => rfl
  | cons line rest ih =>
    cases hline : startsDefinition markers line <;>
      simp [lineChanges, SpacedLine.changes, definitionNumbers, hline, ih]

/-- Formatting a text that is spaced out adds an empty line behind each definition. -/
lemma addBlankLines_of_isSpacedOut (hmarkers : "" ∉ markers) {text : String}
    (h : IsSpacedOut markers true (splitLines text.toList)) :
    splitLines (addBlankLines markers text).code.toList =
        padLines markers 1 (splitLines text.toList) ∧
      (addBlankLines markers text).changes =
        (definitionNumbers markers 1 (splitLines text.toList)).map .blankLineAfter := by
  constructor
  · rw [splitLines_code, h.spaceLines_eq hmarkers, flatMap_parts_of_behind]
  · rw [addBlankLines, h.spaceLines_eq hmarkers, lineChanges_of_behind]

/-! ### Further runs -/

lemma padLines_zero (lines : List (List Char)) : padLines markers 0 lines = lines := by
  simp [padLines]

lemma padLines_append (count : Nat) (first second : List (List Char)) :
    padLines markers count (first ++ second) =
      padLines markers count first ++ padLines markers count second := by
  simp [padLines]

lemma padLines_empties (hmarkers : "" ∉ markers) (count number : Nat) :
    padLines markers count (List.replicate number []) = List.replicate number [] := by
  simp [padLines, startsDefinition_nil hmarkers, List.flatMap_replicate]

/-- One more empty line stands before those that were added already. -/
lemma padLines_one_padLines (hmarkers : "" ∉ markers) (count : Nat) (lines : List (List Char)) :
    padLines markers 1 (padLines markers count lines) = padLines markers (count + 1) lines := by
  induction lines with
  | nil => rfl
  | cons line rest ih =>
    rw [← List.singleton_append, padLines_append, padLines_append, padLines_append, ih]
    congr 1
    cases hline : startsDefinition markers line with
    | false => simp [padLines, hline]
    | true =>
      have hempties := padLines_empties hmarkers 1 count
      simpa [padLines, hline, List.replicate_succ] using hempties

/-- Lines stay spaced out with more empty lines behind the definitions. -/
lemma IsSpacedOut.pad (hmarkers : "" ∉ markers) (count : Nat)
    (h : IsSpacedOut markers isFree lines) :
    IsSpacedOut markers isFree (padLines markers count lines) := by
  induction h with
  | nil => exact .nil
  | @definition line rest hline _ ih =>
    have hcons : padLines markers count (line :: [] :: rest) =
        line :: [] :: (List.replicate count [] ++ padLines markers count rest) := by
      have hempties : List.replicate count [] ++ [] :: padLines markers count rest =
          [] :: (List.replicate count [] ++ padLines markers count rest) := by
        rw [← List.cons_append, ← List.replicate_succ, List.replicate_succ', List.append_assoc]
        rfl
      simpa [padLines, hline, startsDefinition_nil hmarkers] using hempties
    rw [hcons]
    exact .definition hline (ih.empties_append hmarkers count)
  | @other isFree line rest hline _ ih =>
    have hcons : padLines markers count (line :: rest) = line :: padLines markers count rest := by
      simp [padLines, hline]
    rw [hcons]
    exact .other hline ih

/-- The text that comes out of formatting some number of times. -/
def formatTimes (markers : List String) (count : Nat) (text : String) : String :=
  (fun text => (addBlankLines markers text).code)^[count] text

lemma formatTimes_one (text : String) :
    formatTimes markers 1 text = (addBlankLines markers text).code := by
  rw [formatTimes, Function.iterate_one]

lemma formatTimes_succ (count : Nat) (text : String) :
    formatTimes markers (count + 1) text =
      (addBlankLines markers (formatTimes markers count text)).code := by
  rw [formatTimes, Function.iterate_succ_apply', formatTimes]

/-- Every run behind the first adds an empty line behind each definition. -/
lemma splitLines_formatTimes (hmarkers : "" ∉ markers) (text : String) (count : Nat) :
    splitLines (formatTimes markers (count + 1) text).toList =
      padLines markers count (splitLines (addBlankLines markers text).code.toList) := by
  induction count with
  | zero => rw [padLines_zero, formatTimes_one]
  | succ count ih =>
    have hspaced : IsSpacedOut markers true
        (splitLines (formatTimes markers (count + 1) text).toList) := by
      rw [ih]
      exact (isSpacedOut_addBlankLines hmarkers text).pad hmarkers count
    obtain ⟨hlines, -⟩ := addBlankLines_of_isSpacedOut hmarkers hspaced
    rw [formatTimes_succ, hlines, ih, padLines_one_padLines hmarkers]

/-- In the result each definition is the first line or stands behind a blank line, and before an
empty one. Formatting it again puts one empty line behind each definition and none before any; and
some number of runs give the text of the first of them with as many more empty lines right behind
each definition as there are further runs. -/
theorem spacing_of_repeated_runs (hmarkers : "" ∉ markers) (text : String) :
    let result := addBlankLines markers text
    let lines := splitLines result.code.toList
    let again := addBlankLines markers result.code
    (∀ k line, lines[k]? = some line → StartsWithMarker markers line →
      (k = 0 ∨ ∃ i before, k = i + 1 ∧ lines[i]? = some before ∧ IsWhite before) ∧
        lines[k + 1]? = some []) ∧
    (∀ i, .blankLineBefore i ∉ again.changes) ∧
    again.changes = (definitionNumbers markers 1 lines).map .blankLineAfter ∧
    ∀ count, formatTimes markers (count + 1) text =
      String.ofList (joinLines (padLines markers count lines)) := by
  intro result lines again
  have hspaced : IsSpacedOut markers true lines := isSpacedOut_addBlankLines hmarkers text
  have hagain : again.changes = (definitionNumbers markers 1 lines).map .blankLineAfter :=
    (addBlankLines_of_isSpacedOut hmarkers hspaced).2
  refine ⟨?_, ?_, hagain, ?_⟩
  · intro k line hget hstarts
    simpa [isBlank_iff_isWhite] using
      hspaced.getElem?_of_definition hmarkers hget (startsDefinition_iff.mpr hstarts)
  · intro i hmem
    rw [hagain, List.mem_map] at hmem
    obtain ⟨_, _, heq⟩ := hmem
    cases heq
  · intro count
    rw [← splitLines_formatTimes hmarkers text count, joinLines_splitLines, String.ofList_toList]

/-- Three runs over two definitions, the second of which follows the first at once. -/
theorem spacing_of_three_runs :
    "" ∉ ["def ", "class "] ∧
      (addBlankLines ["def ", "class "] "x\ndef f\nclass A").code = "x\n\ndef f\n\nclass A\n" ∧
      (addBlankLines ["def ", "class "] "x\n\ndef f\n\nclass A\n").changes =
        [.blankLineAfter 3, .blankLineAfter 5] ∧
      formatTimes ["def ", "class "] 3 "x\ndef f\nclass A" =
        "x\n\ndef f\n\n\n\nclass A\n\n\n" := by
  have hmarkers : "" ∉ ["def ", "class "] := by decide
  have hcode : (addBlankLines ["def ", "class "] "x\ndef f\nclass A").code =
      "x\n\ndef f\n\nclass A\n" := by decide +kernel
  obtain ⟨-, -, hagain, htimes⟩ := spacing_of_repeated_runs hmarkers "x\ndef f\nclass A"
  refine ⟨hmarkers, hcode, ?_, ?_⟩
  · rw [hcode] at hagain
    exact hagain.trans (by decide +kernel)
  · exact (htimes 2).trans (by decide +kernel)

end NotebookExport
