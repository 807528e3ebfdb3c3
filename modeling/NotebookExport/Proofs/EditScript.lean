import NotebookExport.Proofs.Lines

/-!
# Changes as an edit script

The changes that are listed say exactly what was done to a text. Whether a line gets an empty line
before it or behind it can be told from the line itself and the one before it in the text as it was.
The result has the lines of the text in their order and the empty lines that are listed, and no
others, so taking these out again gives the text back.
-/

namespace NotebookExport

open Text

variable {markers : List String} {text : String} {lines : List (List Char)}
  {spaced : List SpacedLine} {change : FormatChange}

/-! ### What a line gets -/

/-- A line starts with a marker. -/
def StartsWithMarker (markers : List String) (line : List Char) : Prop :=
  ∃ marker ∈ markers, marker.toList <+: line

lemma startsDefinition_iff {line : List Char} :
    startsDefinition markers line = true ↔ StartsWithMarker markers line := by
  simp [startsDefinition, StartsWithMarker]

/-- A line is made of white space only, if of anything. -/
def IsWhite (line : List Char) : Prop := ∀ c ∈ line, isWhiteSpace c

lemma isBlank_iff_isWhite {line : List Char} : isBlank line = true ↔ IsWhite line := by
  simp [isBlank, IsWhite]

lemma getElem?_spaceLines_zero (isFree : Bool) (lines : List (List Char)) :
    (spaceLines markers isFree lines)[0]? = lines[0]?.map fun line =>
      ⟨line, startsDefinition markers line && !isFree, startsDefinition markers line⟩ := by
  cases lines with
  | nil => rfl
  | cons line rest => simp [spaceLines_cons]

/-- What a line gets that has another one before it. -/
lemma getElem?_spaceLines_succ (isFree : Bool) {k : Nat} {before : List Char}
    (h : lines[k]? = some before) :
    (spaceLines markers isFree lines)[k + 1]? = lines[k + 1]?.map fun line =>
      ⟨line, startsDefinition markers line &&
        !(startsDefinition markers before || isBlank before), startsDefinition markers line⟩ := by
  induction lines generalizing isFree k with
  | nil => cases h
  | cons line rest ih =>
    rw [spaceLines_cons, List.getElem?_cons_succ, List.getElem?_cons_succ]
    cases k with
    | zero =>
      obtain rfl : line = before := by simpa using h
      exact getElem?_spaceLines_zero _ rest
    | succ k => exact ih _ (by simpa using h)

/-- Every line is there, and gets an empty line behind it exactly if it starts a definition. -/
lemma exists_getElem?_spaceLines_iff {isFree : Bool} {k : Nat} :
    (∃ s, (spaceLines markers isFree lines)[k]? = some s ∧ s.isSpacedAfter) ↔
      ∃ line, lines[k]? = some line ∧ startsDefinition markers line := by
  have hafter : (spaceLines markers isFree lines).map SpacedLine.isSpacedAfter =
      lines.map (startsDefinition markers) := by
    induction lines generalizing isFree with
    | nil => rfl
    | cons line rest ih => simp [spaceLines_cons, ih]
  have hget := congrArg (fun flags : List Bool => flags[k]? = some true) hafter
  simpa using hget

/-! ### What is listed -/

lemma mem_lineChanges_iff {number : Nat} :
    change ∈ lineChanges number spaced ↔
      ∃ (k : Nat) (s : SpacedLine), spaced[k]? = some s ∧ change ∈ s.changes (number + k) := by
  induction spaced generalizing number with
  | nil => simp [lineChanges]
  | cons s rest ih =>
    rw [lineChanges, List.mem_append, ih]
    constructor
    · rintro (h | ⟨k, t, hget, h⟩)
      · exact ⟨0, s, rfl, h⟩
      · refine ⟨k + 1, t, hget, ?_⟩
        rwa [Nat.add_right_comm, Nat.add_assoc] at h
    · rintro ⟨k, t, hget, h⟩
      cases k with
      | zero =>
        obtain rfl : s = t := by simpa using hget
        exact .inl h
      | succ k =>
        refine .inr ⟨k, t, hget, ?_⟩
        rwa [Nat.add_right_comm, Nat.add_assoc]

namespace SpacedLine

lemma blankLineBefore_mem_changes {s : SpacedLine} {i number : Nat} :
    .blankLineBefore i ∈ s.changes number ↔ i = number ∧ s.isSpacedBefore := by
  obtain ⟨line, isSpacedBefore, isSpacedAfter⟩ := s
  cases isSpacedBefore <;> cases isSpacedAfter <;> simp [changes]

lemma blankLineAfter_mem_changes {s : SpacedLine} {i number : Nat} :
    .blankLineAfter i ∈ s.changes number ↔ i = number ∧ s.isSpacedAfter := by
  obtain ⟨line, isSpacedBefore, isSpacedAfter⟩ := s
  cases isSpacedBefore <;> cases isSpacedAfter <;> simp [changes]

lemma exists_of_mem_changes {s : SpacedLine} {number : Nat} (h : change ∈ s.changes number) :
    change = .blankLineBefore number ∨ change = .blankLineAfter number := by
  rw [changes, List.mem_append] at h
  rcases h with h | h <;> split_ifs at h
  · exact .inl (List.mem_singleton.mp h)
  · cases h
  · exact .inr (List.mem_singleton.mp h)
  · cases h

end SpacedLine

/-- A line is listed with an empty line behind it exactly if it starts with a marker. -/
lemma blankLineAfter_mem_iff {i : Nat} :
    .blankLineAfter i ∈ (addBlankLines markers text).changes ↔
      ∃ k line, i = k + 1 ∧ (splitLines text.toList)[k]? = some line ∧
        StartsWithMarker markers line := by
  simp only [addBlankLines, mem_lineChanges_iff, SpacedLine.blankLineAfter_mem_changes,
    ← startsDefinition_iff]
  constructor
  · rintro ⟨k, s, hget, rfl, hafter⟩
    obtain ⟨line, hline, hstarts⟩ := exists_getElem?_spaceLines_iff.mp ⟨s, hget, hafter⟩
    exact ⟨k, line, Nat.add_comm 1 k, hline, hstarts⟩
  · rintro ⟨k, line, rfl, hline, hstarts⟩
    obtain ⟨s, hget, hafter⟩ := exists_getElem?_spaceLines_iff.mpr ⟨line, hline, hstarts⟩
    exact ⟨k, s, hget, Nat.add_comm k 1, hafter⟩

/-- A line is listed with an empty line before it exactly if it starts with a marker and stands
behind a line that does not, and that is not made of white space. -/
lemma blankLineBefore_mem_iff {i : Nat} :
    .blankLineBefore i ∈ (addBlankLines markers text).changes ↔
      ∃ k before line, i = k + 2 ∧ (splitLines text.toList)[k]? = some before ∧
        (splitLines text.toList)[k + 1]? = some line ∧ StartsWithMarker markers line ∧
        ¬ StartsWithMarker markers before ∧ ¬ IsWhite before := by
  simp only [addBlankLines, mem_lineChanges_iff, SpacedLine.blankLineBefore_mem_changes,
    ← startsDefinition_iff, ← isBlank_iff_isWhite]
  constructor
  · rintro ⟨k, s, hget, rfl, hbefore⟩
    cases k with
    | zero =>
      -- nothing stands before the first line, and it is free
      rw [getElem?_spaceLines_zero, Option.map_eq_some_iff] at hget
      obtain ⟨line, -, rfl⟩ := hget
      simp at hbefore
    | succ k =>
      have hlength : (spaceLines markers true (splitLines text.toList)).length = _ :=
        length_spaceLines true _
      have hlt : k + 1 < (splitLines text.toList).length := by
        rw [← hlength]
        exact (List.getElem?_eq_some_iff.mp hget).1
      have hprevious := List.getElem?_eq_getElem (Nat.lt_of_succ_lt hlt)
      rw [getElem?_spaceLines_succ true hprevious, Option.map_eq_some_iff] at hget
      obtain ⟨line, hline, rfl⟩ := hget
      simp only [Bool.and_eq_true, Bool.not_eq_true', Bool.or_eq_false_iff] at hbefore
      obtain ⟨hstarts, hmarked, hblank⟩ := hbefore
      exact ⟨k, _, line, by omega, hprevious, hline, hstarts, by simp [hmarked], by simp [hblank]⟩
  · rintro ⟨k, before, line, rfl, hprevious, hline, hstarts, hmarked, hblank⟩
    have hget : (spaceLines markers true (splitLines text.toList))[k + 1]? = _ :=
      getElem?_spaceLines_succ true hprevious
    rw [hline, Option.map_some] at hget
    exact ⟨k + 1, _, hget, by omega, by simp [hstarts, hmarked, hblank]⟩

/-! ### The lines of the result -/

/-- Lines with numbers and the empty lines that are listed for them. -/
def listedLines (changes : List FormatChange) (number : Nat) (lines : List (List Char)) :
    List (List Char) :=
  (lines.zipIdx number).flatMap fun (line, i) =>
    (if .blankLineBefore i ∈ changes then [[]] else []) ++ line ::
      (if .blankLineAfter i ∈ changes then [[]] else [])

/-- What a line has got can be told from the list. -/
lemma spaced_eq_map_zipIdx (number : Nat) (spaced : List SpacedLine) :
    spaced = ((spaced.map SpacedLine.line).zipIdx number).map fun (line, i) =>
      ⟨line, .blankLineBefore i ∈ lineChanges number spaced,
        .blankLineAfter i ∈ lineChanges number spaced⟩ := by
  apply List.ext_getElem?
  intro k
  cases hget : spaced[k]? with
  | none => simp [hget]
  | some s =>
    have hbefore : .blankLineBefore (number + k) ∈ lineChanges number spaced ↔
        s.isSpacedBefore := by
      simp [mem_lineChanges_iff, SpacedLine.blankLineBefore_mem_changes, hget]
    have hafter : .blankLineAfter (number + k) ∈ lineChanges number spaced ↔
        s.isSpacedAfter := by
      simp [mem_lineChanges_iff, SpacedLine.blankLineAfter_mem_changes, hget]
    simp [hget, hbefore, hafter]

lemma flatMap_parts_eq_listedLines (number : Nat) (spaced : List SpacedLine) :
    spaced.flatMap SpacedLine.parts =
      listedLines (lineChanges number spaced) number (spaced.map SpacedLine.line) := by
  conv_lhs => rw [spaced_eq_map_zipIdx number spaced]
  simp [listedLines, List.flatMap_map, SpacedLine.parts]

/-- A line stands in the result with nothing but empty lines. -/
lemma SpacedLine.eq_of_mem_parts {s : SpacedLine} {line : List Char} (h : line ∈ s.parts) :
    line = [] ∨ line = s.line := by
  simp only [parts, List.mem_append, List.mem_cons] at h
  rcases h with h | h | h
  · split_ifs at h
    · exact .inl (List.mem_singleton.mp h)
    · cases h
  · exact .inr h
  · split_ifs at h
    · exact .inl (List.mem_singleton.mp h)
    · cases h

/-- The lines of the result are the lines of the text and the empty lines that are listed. -/
lemma splitLines_code (markers : List String) (text : String) :
    splitLines (addBlankLines markers text).code.toList =
      (spaceLines markers true (splitLines text.toList)).flatMap SpacedLine.parts := by
  rw [addBlankLines, String.toList_ofList]
  apply splitLines_joinLines (flatMap_parts_ne_nil true text.toList)
  intro line hline
  obtain ⟨s, hs, hpart⟩ := List.mem_flatMap.mp hline
  have hown : s.line ∈ splitLines text.toList := by
    have hlines : (spaceLines markers true (splitLines text.toList)).map SpacedLine.line = _ :=
      map_line_spaceLines true _
    rw [← hlines]
    exact List.mem_map_of_mem hs
  rcases SpacedLine.eq_of_mem_parts hpart with rfl | rfl
  · exact List.not_mem_nil
  · exact feed_notMem_splitLines hown

/-! ### The order of the list -/

/-- Changes are listed by their lines, and before a line ahead of behind it. -/
def FormatChange.Precedes : FormatChange → FormatChange → Prop
  | .blankLineBefore i, .blankLineBefore j => i < j
  | .blankLineBefore i, .blankLineAfter j => i ≤ j
  | .blankLineAfter i, .blankLineBefore j => i < j
  | .blankLineAfter i, .blankLineAfter j => i < j
  | _, _ => False

lemma FormatChange.Precedes.ne {c d : FormatChange} (h : c.Precedes d) : c ≠ d := by
  rintro rfl
  cases c <;> simp [Precedes] at h

lemma pairwise_precedes_lineChanges (number : Nat) (spaced : List SpacedLine) :
    (lineChanges number spaced).Pairwise FormatChange.Precedes := by
  induction spaced generalizing number with
  | nil => exact .nil
  | cons s rest ih =>
    rw [lineChanges, List.pairwise_append]
    refine ⟨?_, ih (number + 1), ?_⟩
    · obtain ⟨line, isSpacedBefore, isSpacedAfter⟩ := s
      cases isSpacedBefore <;> cases isSpacedAfter <;>
        simp [SpacedLine.changes, FormatChange.Precedes]
    · -- the changes to the other lines have larger numbers
      intro c hc d hd
      obtain ⟨k, t, -, hd⟩ := mem_lineChanges_iff.mp hd
      have hlt : number < number + 1 + k := by omega
      rcases SpacedLine.exists_of_mem_changes hc with rfl | rfl <;>
        rcases SpacedLine.exists_of_mem_changes hd with rfl | rfl
      · exact hlt
      · exact Nat.le_of_lt hlt
      · exact hlt
      · exact hlt

/-! ### Taking the listed lines out again -/

/-- The number that an empty line has in the result if it is listed behind some others: that of the
line it belongs to and one for each of the others, and one more if it is behind its line. -/
def FormatChange.numberInResult (others : Nat) : FormatChange → Option Nat
  | .blankLineBefore line => some (line + others)
  | .blankLineAfter line => some (line + others + 1)
  | _ => none

/-- The numbers in the result of all that is listed. -/
def addedNumbers (others : Nat) (changes : List FormatChange) : List Nat :=
  (changes.zipIdx others).filterMap fun (change, others) => change.numberInResult others

/-- Lines, the first of which has the given number, without those that have certain numbers. -/
def withoutNumbers (numbers : List Nat) (number : Nat) (lines : List (List Char)) :
    List (List Char) :=
  ((lines.zipIdx number).filter fun (_, i) => i ∉ numbers).map Prod.fst

lemma withoutNumbers_append (numbers : List Nat) (number : Nat)
    (first second : List (List Char)) :
    withoutNumbers numbers number (first ++ second) =
      withoutNumbers numbers number first ++
        withoutNumbers numbers (number + first.length) second := by
  simp [withoutNumbers, List.zipIdx_append]

lemma addedNumbers_append (others : Nat) (first second : List FormatChange) :
    addedNumbers others (first ++ second) =
      addedNumbers others first ++ addedNumbers (others + first.length) second := by
  simp [addedNumbers, List.zipIdx_append]

lemma withoutNumbers_congr {numbers numbers' : List Nat} {number : Nat}
    {lines : List (List Char)}
    (h : ∀ i, number ≤ i → i < number + lines.length → (i ∈ numbers ↔ i ∈ numbers')) :
    withoutNumbers numbers number lines = withoutNumbers numbers' number lines := by
  refine congrArg (List.map Prod.fst) (List.filter_congr fun entry hentry => ?_)
  obtain ⟨line, i⟩ := entry
  obtain ⟨hle, hlt, -⟩ := List.mem_zipIdx hentry
  simp [h i hle hlt]

namespace SpacedLine

lemma length_parts (s : SpacedLine) (number : Nat) :
    s.parts.length = (s.changes number).length + 1 := by
  obtain ⟨line, isSpacedBefore, isSpacedAfter⟩ := s
  cases isSpacedBefore <;> cases isSpacedAfter <;> rfl

/-- What a line gets stands next to it in the result. -/
lemma mem_addedNumbers_changes {s : SpacedLine} {number others i : Nat}
    (h : i ∈ addedNumbers others (s.changes number)) :
    number + others ≤ i ∧ i < number + others + s.parts.length := by
  obtain ⟨line, isSpacedBefore, isSpacedAfter⟩ := s
  cases isSpacedBefore <;> cases isSpacedAfter <;>
    simp [addedNumbers, changes, parts, FormatChange.numberInResult] at h ⊢ <;> omega

lemma withoutNumbers_parts (s : SpacedLine) (number others : Nat) :
    withoutNumbers (addedNumbers others (s.changes number)) (number + others) s.parts =
      [s.line] := by
  obtain ⟨line, isSpacedBefore, isSpacedAfter⟩ := s
  cases isSpacedBefore <;> cases isSpacedAfter <;>
    simp [withoutNumbers, addedNumbers, changes, parts, FormatChange.numberInResult, Nat.add_assoc]

end SpacedLine

lemma length_flatMap_parts (number : Nat) (spaced : List SpacedLine) :
    (spaced.flatMap SpacedLine.parts).length =
      spaced.length + (lineChanges number spaced).length := by
  induction spaced generalizing number with
  | nil => rfl
  | cons s rest ih =>
    rw [List.flatMap_cons, lineChanges, List.length_append, List.length_append, List.length_cons,
      ih (number + 1), s.length_parts number]
    omega

lemma le_of_mem_addedNumbers {number others i : Nat}
    (h : i ∈ addedNumbers others (lineChanges number spaced)) : number + others ≤ i := by
  induction spaced generalizing number others with
  | nil => cases h
  | cons s rest ih =>
    rw [lineChanges, addedNumbers_append, List.mem_append] at h
    rcases h with h | h
    · exact (SpacedLine.mem_addedNumbers_changes h).1
    · have hle := ih h
      omega

/-- Without what is listed, spaced lines are the lines themselves. -/
lemma withoutNumbers_flatMap_parts (number others : Nat) (spaced : List SpacedLine) :
    withoutNumbers (addedNumbers others (lineChanges number spaced)) (number + others)
      (spaced.flatMap SpacedLine.parts) = spaced.map SpacedLine.line := by
  induction spaced generalizing number others with
  | nil => rfl
  | cons s rest ih =>
    have hnext : number + others + s.parts.length =
        number + 1 + (others + (s.changes number).length) := by
      rw [s.length_parts number]
      omega
    rw [List.flatMap_cons, lineChanges, addedNumbers_append, withoutNumbers_append, List.map_cons,
      ← List.singleton_append]
    congr 1
    · rw [← s.withoutNumbers_parts number others]
      refine withoutNumbers_congr fun i _ hlt => ?_
      rw [List.mem_append, or_iff_left]
      intro hi
      have hle := le_of_mem_addedNumbers hi
      omega
    · rw [← ih (number + 1) (others + (s.changes number).length), hnext]
      refine withoutNumbers_congr fun i hle _ => ?_
      rw [List.mem_append, or_iff_right]
      intro hi
      have hlt := (SpacedLine.mem_addedNumbers_changes hi).2
      omega

/-! ### Results -/

/-- The changes that are listed are an exact edit script from a text to its result. -/
theorem addBlankLines_edit_script (markers : List String) (text : String) :
    let lines := splitLines text.toList
    let result := addBlankLines markers text
    let resultLines := splitLines result.code.toList
    result.code.toList = joinLines (listedLines result.changes 1 lines) ∧
    resultLines = listedLines result.changes 1 lines ∧
    (∀ i, .blankLineAfter i ∈ result.changes ↔
      ∃ k line, i = k + 1 ∧ lines[k]? = some line ∧ StartsWithMarker markers line) ∧
    (∀ i, .blankLineBefore i ∈ result.changes ↔
      ∃ k before line, i = k + 2 ∧ lines[k]? = some before ∧ lines[k + 1]? = some line ∧
        StartsWithMarker markers line ∧ ¬ StartsWithMarker markers before ∧ ¬ IsWhite before) ∧
    (∀ change ∈ result.changes, ∃ i, change = .blankLineBefore i ∨ change = .blankLineAfter i) ∧
    result.changes.Pairwise FormatChange.Precedes ∧ result.changes.Nodup ∧
    resultLines.length = lines.length + result.changes.length ∧
    joinLines (withoutNumbers (addedNumbers 0 result.changes) 1 resultLines) = text.toList ∧
    (result.code = text ↔ ∀ line ∈ lines, ¬ StartsWithMarker markers line) := by
  intro lines result resultLines
  have hspaced : resultLines = _ := splitLines_code markers text
  have hlines : (spaceLines markers true lines).map SpacedLine.line = lines :=
    map_line_spaceLines true lines
  have hlisted : resultLines = listedLines result.changes 1 lines := by
    rw [hspaced, flatMap_parts_eq_listedLines 1, hlines]
    rfl
  have hordered : result.changes.Pairwise FormatChange.Precedes :=
    pairwise_precedes_lineChanges 1 _
  have hlength : resultLines.length = lines.length + result.changes.length := by
    rw [hspaced, length_flatMap_parts 1, length_spaceLines]
    rfl
  refine ⟨?_, hlisted, fun i => blankLineAfter_mem_iff, fun i => blankLineBefore_mem_iff, ?_,
    hordered, hordered.imp FormatChange.Precedes.ne, hlength, ?_, ?_⟩
  · rw [← hlisted]
    exact (joinLines_splitLines _).symm
  · intro change hchange
    obtain ⟨k, s, -, hchange⟩ := mem_lineChanges_iff.mp hchange
    exact ⟨1 + k, SpacedLine.exists_of_mem_changes hchange⟩
  · calc joinLines (withoutNumbers (addedNumbers 0 result.changes) 1 resultLines)
      _ = joinLines ((spaceLines markers true lines).map SpacedLine.line) := by
        rw [hspaced]
        exact congrArg joinLines (withoutNumbers_flatMap_parts 1 0 _)
      _ = joinLines lines := by rw [hlines]
      _ = text.toList := joinLines_splitLines _
  · constructor
    · intro hsame line hline hstarts
      -- a definition is listed, so the result would have more lines than the text
      obtain ⟨k, hk⟩ := List.mem_iff_getElem?.mp hline
      have hmem : .blankLineAfter (k + 1) ∈ result.changes :=
        blankLineAfter_mem_iff.mpr ⟨k, line, rfl, hk, hstarts⟩
      have hpos := List.length_pos_of_mem hmem
      have heq : resultLines.length = lines.length := by
        simp only [resultLines, hsame, lines]
      omega
    · intro hnone
      have hresult : result = ⟨text, [], none⟩ := by
        apply addBlankLines_of_no_definition
        intro line hline
        simpa [← startsDefinition_iff] using hnone line hline
      rw [hresult]

end NotebookExport
