import NotebookExport.Proofs.Yaml.Gaps

/-!
# Texts written line by line

A text behind a bar keeps its lines: the indentation of each line is taken away, and the line ends
stay as they are. What becomes of the line ends at its end is told by the mark behind the bar. If
the text begins with white space, then its indentation is told there too, as it could not be seen.
-/

namespace NotebookExport.Yaml

variable {start m : Mark} {fuel column next : Nat} {limit : Option Nat}
  {text line breaks behind rest : List Char} {x : Char} {isNew : Bool}

/-! ### Writing lines -/

lemma writeLines_line (hline : ∀ x ∈ line, isBreak x = false) :
    writeLines column false (line ++ behind) = line ++ writeLines column false behind := by
  induction line with
  | nil => rfl
  | cons x line ih =>
    have htail := ih fun y hy => hline y (List.mem_cons_of_mem _ hy)
    simp [writeLines, hline x List.mem_cons_self, htail]

lemma writeLines_of_line (hline : ∀ x ∈ line, isBreak x = false) :
    writeLines column false line = line := by
  have hlines : writeLines column false (line ++ []) = line ++ writeLines column false [] :=
    writeLines_line hline
  simpa [writeLines] using hlines

lemma writeLines_breaks (hbreaks : ∀ x ∈ breaks, isBreak x) (hne : breaks ≠ []) :
    writeLines column isNew (breaks ++ behind) = breaks ++ writeLines column true behind := by
  induction breaks generalizing isNew with
  | nil => exact absurd rfl hne
  | cons x breaks ih =>
    have hbreak := hbreaks x List.mem_cons_self
    cases breaks with
    | nil => simp [writeLines, hbreak]
    | cons y breaks =>
      have htail : writeLines column true (y :: breaks ++ behind) =
          y :: breaks ++ writeLines column true behind :=
        ih (fun z hz => hbreaks z (List.mem_cons_of_mem _ hz)) (by simp)
      rw [List.cons_append, writeLines, if_pos hbreak, htail]
      rfl

/-- A line that is not empty begins with its indentation. -/
lemma writeLines_new (hne : text ≠ []) (hhead : ∀ x ∈ text.head?, isBreak x = false) :
    writeLines column true text = indentation column ++ writeLines column false text := by
  obtain ⟨x, text, rfl⟩ := List.exists_cons_of_ne_nil hne
  simp [writeLines, hhead x rfl]

/-- Empty lines are written as they are. The first line that is not empty begins with its
indentation. -/
lemma writeLines_leading (hbreaks : ∀ x ∈ breaks, isBreak x) (hne : text ≠ [])
    (hhead : ∀ x ∈ text.head?, isBreak x = false) :
    writeLines column true (breaks ++ text) =
      breaks ++ (indentation column ++ writeLines column false text) := by
  by_cases hnil : breaks = []
  · rw [hnil, List.nil_append, List.nil_append, writeLines_new hne hhead]
  · rw [writeLines_breaks hbreaks hnil, writeLines_new hne hhead]

lemma length_le_writeLines (column : Nat) (isNew : Bool) (text : List Char) :
    text.length ≤ (writeLines column isNew text).length := by
  induction text generalizing isNew with
  | nil => simp
  | cons x text ih =>
    have hbreak := ih true
    have hother := ih false
    simp only [writeLines]
    split_ifs <;> simp <;> omega

/-- What ends the last line, unless the text does so itself. -/
def lastLineEnd (text : List Char) : List Char := if endsWith isBreak text then [] else ['\n']

lemma isPrintable_of_mem_writeLines (h : ∀ x ∈ text, isPrintable x) :
    ∀ x ∈ writeLines column isNew text, isPrintable x := by
  induction text generalizing isNew with
  | nil => simp [writeLines]
  | cons y text ih =>
    obtain ⟨hy, htext⟩ := List.forall_mem_cons.mp h
    simp only [writeLines]
    split_ifs
    all_goals simp only [List.nil_append, List.forall_mem_cons, List.forall_mem_append]
    · exact ⟨hy, ih htext⟩
    · exact ⟨fun x => isPrintable_of_mem_indentation, hy, ih htext⟩
    · exact ⟨hy, ih htext⟩

lemma isPrintable_of_mem_lastLineEnd : ∀ x ∈ lastLineEnd text, isPrintable x := by
  unfold lastLineEnd
  split_ifs <;> exact List.all_eq_true.mp rfl

/-! ### Indentation -/

lemma skipIndentation_of_stop (h : limit = some m.column ∨ ∀ x ∈ rest.head?, x ≠ ' ') :
    skipIndentation limit fuel ⟨m, rest⟩ = ⟨m, rest⟩ := by
  cases fuel with
  | zero => rfl
  | succ fuel =>
    rcases h with rfl | h
    · simp [skipIndentation, isBefore]
    · cases rest with
      | nil => simp [skipIndentation]
      | cons x rest => simp [skipIndentation, h x rfl]

/-- Spaces are passed over up to a column, where the limit is reached or something else stands. -/
lemma skipIndentation_spaces (hlimit : ∀ bound ∈ limit, m.column + column ≤ bound)
    (hstop : limit = some (m.column + column) ∨ ∀ x ∈ rest.head?, x ≠ ' ')
    (hfuel : column ≤ fuel) :
    skipIndentation limit fuel ⟨m, indentation column ++ rest⟩ = ⟨m.forward column, rest⟩ := by
  induction column generalizing m fuel with
  | zero => exact skipIndentation_of_stop hstop
  | succ column ih =>
    cases fuel with
    | zero => simp at hfuel
    | succ fuel =>
      have hbefore : isBefore limit ⟨m, ' ' :: (indentation column ++ rest)⟩ = true := by
        cases limit with
        | none => rfl
        | some bound =>
          have hle := hlimit bound rfl
          simp only [isBefore, Option.all_some, decide_eq_true_eq]
          omega
      have hcolumn : m.column + (column + 1) = (m.forward 1).column + column := by
        rw [Mark.forward_column]
        omega
      have htail := ih (m := m.forward 1) (hcolumn ▸ hlimit) (hcolumn ▸ hstop)
        (Nat.le_of_succ_le_succ hfuel)
      have hwritten : indentation (column + 1) ++ rest = ' ' :: (indentation column ++ rest) := by
        simp [indentation, List.replicate_succ]
      rw [hwritten, skipIndentation, hbefore, Cursor.sees_cons, beq_self_eq_true, Bool.and_self,
        if_pos rfl, Cursor.skip_cons, htail, Mark.forward_forward, Nat.add_comm]

/-- In front of a line that is not empty, only its indentation is read. -/
lemma scanEmptyLines_indentation (start : Mark) (before : List Char) (deepest : Nat)
    (hm : m.column = 0) (hlimit : ∀ bound ∈ limit, column ≤ bound)
    (hstop : limit = some column ∨ ∀ x ∈ rest.head?, isBlank x = false)
    (hrest : ∀ x ∈ rest.head?, isBreak x = false) :
    scanEmptyLines start limit (fuel + 1) ⟨before, deepest, ⟨m, indentation column ++ rest⟩⟩ =
      .ok ⟨before, max deepest column, ⟨m.below 0 column, rest⟩⟩ := by
  have hskip : skipIndentation limit (indentation column ++ rest).length
      ⟨m, indentation column ++ rest⟩ = ⟨m.below 0 column, rest⟩ := by
    have hmark : m.forward column = m.below 0 column := by simp [Mark.forward, Mark.below, hm]
    rw [← hmark]
    refine skipIndentation_spaces (by simpa [hm] using hlimit) ?_ (by simp [indentation])
    refine hstop.imp (by simp [hm]) fun h x hx => ?_
    rintro rfl
    exact absurd (h ' ' hx) (by decide)
  have htab : (isBefore limit ⟨m.below 0 column, rest⟩ &&
      Cursor.sees ⟨m.below 0 column, rest⟩ '\t') = false := by
    rcases hstop with rfl | h
    · simp [isBefore]
    · cases rest with
      | nil => simp
      | cons y rest =>
        have hy : y ≠ '\t' := by
          rintro rfl
          exact absurd (h '\t' rfl) (by decide)
        simp [hy]
  have hbreak : Cursor.seesBreak ⟨m.below 0 column, rest⟩ = false := by
    cases rest with
    | nil => simp
    | cons y rest => simpa using hrest y rfl
  simp only [scanEmptyLines, hskip, htab, hbreak, Bool.false_eq_true, if_false, Mark.below_column]

/-- Empty lines are read with the indentation of the line behind them. -/
lemma scanEmptyLines_breaks (start : Mark) (before : List Char) (deepest : Nat)
    (hbreaks : ∀ x ∈ breaks, isBreak x ∧ isPrintable x) (hm : m.column = 0)
    (hlimit : ∀ bound ∈ limit, column ≤ bound)
    (hstop : limit = some column ∨ ∀ x ∈ rest.head?, isBlank x = false)
    (hrest : ∀ x ∈ rest.head?, isBreak x = false) (hfuel : breaks.length < fuel) :
    scanEmptyLines start limit fuel ⟨before, deepest, ⟨m, breaks ++ (indentation column ++ rest)⟩⟩ =
      .ok ⟨before ++ breaks, max deepest column, ⟨m.below breaks.length column, rest⟩⟩ := by
  induction breaks generalizing before deepest m fuel with
  | nil =>
    obtain ⟨fuel, rfl⟩ := Nat.exists_eq_add_one.mpr (Nat.zero_lt_of_lt hfuel)
    rw [List.append_nil]
    exact scanEmptyLines_indentation start before deepest hm hlimit hstop hrest
  | cons x breaks ih =>
    cases fuel with
    | zero => simp at hfuel
    | succ fuel =>
      obtain ⟨hbreak, hprintable⟩ := hbreaks x List.mem_cons_self
      have hblank := not_isBlank_of_isBreak hbreak
      have hspace : x ≠ ' ' := by
        rintro rfl
        exact absurd hblank (by decide)
      have htab : x ≠ '\t' := by
        rintro rfl
        exact absurd hblank (by decide)
      have htail : scanEmptyLines start limit fuel
          ⟨before ++ [x], max deepest 0, ⟨m.below 1 0, breaks ++ (indentation column ++ rest)⟩⟩ =
          .ok ⟨before ++ [x] ++ breaks, max (max deepest 0) column,
            ⟨(m.below 1 0).below breaks.length column, rest⟩⟩ :=
        ih _ _ (fun y hy => hbreaks y (List.mem_cons_of_mem _ hy)) rfl
          (Nat.lt_of_succ_lt_succ hfuel)
      have hskip (fuel : Nat) (rest : List Char) :
          skipIndentation limit fuel ⟨m, x :: rest⟩ = ⟨m, x :: rest⟩ :=
        skipIndentation_of_stop (.inr (by simpa using hspace))
      rw [List.cons_append]
      simp only [scanEmptyLines, hskip, hm, Cursor.sees_cons, Cursor.seesBreak_cons, hbreak,
        if_true, Cursor.passBreak_cons hbreak hprintable, beq_eq_false_iff_ne.mpr htab,
        Bool.and_false, Bool.false_eq_true, if_false, htail]
      simp [Nat.add_comm]

/-! ### Lines -/

/-- What the mark behind the bar says agrees with the line ends at the end of a text. -/
def Chomps (text : List Char) : Chomping → Prop
  | .strip => endsWith isBreak text = false
  | .clip => endsWith isBreak text ∧
      ∀ a b, [a, b] <:+ text → isBreak a = true → isBreak b = true → False
  | .keep => endsWith isBreak text

/-- What counts of the line ends at the end of a text. -/
def Chomping.kept (chomping : Chomping) (first others : List Char) : List Char :=
  match chomping with
  | .strip => []
  | .clip => first
  | .keep => first ++ others

lemma endsWith_append {p : Char → Bool} (hne : behind ≠ []) :
    endsWith p (text ++ behind) = endsWith p behind := by
  simp [endsWith, List.getLast?_eq_some_getLast hne]

lemma endsWith_of_forall {p : Char → Bool} (h : ∀ x ∈ text, p x) (hne : text ≠ []) :
    endsWith p text := by
  simp [endsWith, List.getLast?_eq_some_getLast hne, h _ (List.getLast_mem hne)]

lemma lastLineEnd_append (hne : behind ≠ []) :
    lastLineEnd (text ++ behind) = lastLineEnd behind := by
  simp only [lastLineEnd, endsWith_append hne]

lemma lastLineEnd_of_breaks (hbreaks : ∀ x ∈ breaks, isBreak x) (hne : breaks ≠ []) :
    lastLineEnd breaks = [] :=
  if_pos (endsWith_of_forall hbreaks hne)

lemma Chomps.of_append {chomping : Chomping} (h : Chomps (text ++ behind) chomping)
    (hne : behind ≠ []) : Chomps behind chomping := by
  cases chomping with
  | strip => exact (endsWith_append hne).symm.trans h
  | keep => exact (endsWith_append hne).symm.trans h
  | clip =>
    exact ⟨(endsWith_append hne).symm.trans h.1,
      fun a b hab => h.2 a b (hab.trans (List.suffix_append _ _))⟩

lemma Chomps.eq_strip {chomping : Chomping} (h : Chomps text chomping)
    (hends : endsWith isBreak text = false) : chomping = .strip := by
  cases chomping with
  | strip => rfl
  | clip => exact absurd h.1 (by simp [hends])
  | keep => exact absurd h (by simp [Chomps, hends])

lemma exists_last_two (a b : Char) (text : List Char) : ∃ c d, [c, d] <:+ a :: b :: text := by
  induction text generalizing a b with
  | nil => exact ⟨a, b, List.suffix_refl _⟩
  | cons x text ih =>
    obtain ⟨c, d, h⟩ := ih b x
    exact ⟨c, d, h.trans (List.suffix_cons a _)⟩

/-- The line ends at the end of a text count as the mark behind the bar says. -/
lemma Chomps.kept_eq {chomping : Chomping} (h : Chomps (text ++ x :: breaks) chomping)
    (hbreaks : ∀ y ∈ x :: breaks, isBreak y) : chomping.kept [x] breaks = x :: breaks := by
  cases chomping with
  | keep => rfl
  | strip =>
    have hends : endsWith isBreak (x :: breaks) = false := (endsWith_append (by simp)).symm.trans h
    rw [endsWith_of_forall hbreaks (by simp)] at hends
    cases hends
  | clip =>
    cases breaks with
    | nil => rfl
    | cons y breaks =>
      obtain ⟨a, b, hsuffix⟩ := exists_last_two x y breaks
      exact (h.2 a b (hsuffix.trans (List.suffix_append _ _)) (hbreaks a (hsuffix.mem (by simp)))
        (hbreaks b (hsuffix.mem (by simp)))).elim

/-- One line is read, with the line ends behind it and the indentation of the next line. -/
lemma scanBlockLines_line {chomping : Chomping} {before lastBreak found : List Char}
    {afterBlank : Bool} {deepest : Nat} (hm : m.column = column)
    (hline : ∀ y ∈ line, isBreak y = false)
    (hbreaks : ∀ y ∈ x :: breaks, isBreak y ∧ isPrintable y) (hnext : next ≤ column)
    (hstop : next = column ∨ ∀ y ∈ rest.head?, isBlank y = false)
    (hrest : ∀ y ∈ rest.head?, isBreak y = false) :
    scanBlockLines start true chomping column (fuel + 1) before lastBreak afterBlank
        ⟨found, deepest, ⟨m, line ++ (x :: breaks ++ (indentation next ++ rest))⟩⟩ =
      scanBlockLines start true chomping column fuel (before ++ (lastBreak ++ found) ++ line) [x]
        (Cursor.seesBlank ⟨m, line ++ (x :: breaks ++ (indentation next ++ rest))⟩)
        ⟨breaks, next, ⟨(m.forward line.length).below (x :: breaks).length next, rest⟩⟩ := by
  obtain ⟨hbreak, hprintable⟩ := hbreaks x List.mem_cons_self
  have hspan : Cursor.span (fun x => !isBreak x)
      ⟨m, line ++ x :: (breaks ++ (indentation next ++ rest))⟩ =
      (line, ⟨m.forward line.length, x :: (breaks ++ (indentation next ++ rest))⟩) :=
    Cursor.span_append (fun y hy => by simp [hline y hy]) (by simp [hbreak])
  have hempty := scanEmptyLines_breaks (m := (m.forward line.length).below 1 0) start [] 0
    (fun y hy => hbreaks y (List.mem_cons_of_mem _ hy)) rfl
    (show ∀ bound ∈ some column, next ≤ bound by simpa using hnext)
    (hstop.imp_left (congrArg some ·.symm)) hrest
    (show breaks.length < (breaks ++ (indentation next ++ rest)).length + 1 from
      Nat.lt_succ_of_le (by simp))
  have hend : Cursor.atEnd ⟨m, line ++ x :: (breaks ++ (indentation next ++ rest))⟩ = false := by
    simp [Cursor.atEnd]
  rw [List.cons_append]
  simp only [scanBlockLines, hm, hend, hspan, Cursor.passBreak_cons hbreak hprintable, hempty,
    decide_true, Bool.not_false, Bool.and_self, if_true, Bool.not_true, Bool.false_and,
    Bool.false_eq_true, if_false, List.nil_append, Nat.zero_max]
  simp [Nat.add_comm]

/-- Behind the last line, the line ends at the end of the text are counted. -/
lemma scanBlockLines_end {chomping : Chomping} {before lastBreak : List Char} {afterBlank : Bool}
    {found : EmptyLines} (h : found.stop.mark.column ≠ column) :
    scanBlockLines start true chomping column (fuel + 1) before lastBreak afterBlank found =
      .ok ⟨before ++ chomping.kept lastBreak found.breaks, found.stop, true⟩ := by
  simp only [scanBlockLines, h, decide_false, Bool.false_and, Bool.false_eq_true, if_false]
  cases chomping <;> rfl

/-- The last line is read with the line ends at the end of the text. -/
lemma scanBlockLines_lastLine (start : Mark) (fuel : Nat) (chomping : Chomping)
    (before lastBreak found : List Char) (afterBlank : Bool) (deepest : Nat)
    (hm : m.column = column) (hline : ∀ y ∈ line, isBreak y = false)
    (hbreaks : ∀ y ∈ x :: breaks, isBreak y ∧ isPrintable y) (hnext : next < column)
    (hrest : GoesOn rest) :
    scanBlockLines start true chomping column (fuel + 2) before lastBreak afterBlank
        ⟨found, deepest, ⟨m, line ++ (x :: breaks ++ (indentation next ++ rest))⟩⟩ =
      .ok ⟨before ++ (lastBreak ++ found) ++ line ++ chomping.kept [x] breaks,
        ⟨(m.forward line.length).below (x :: breaks).length next, rest⟩, true⟩ := by
  rw [scanBlockLines_line hm hline hbreaks (Nat.le_of_lt hnext)
    (.inr fun y hy => (hrest y hy).1) fun y hy => (hrest y hy).2]
  exact scanBlockLines_end (Nat.ne_of_lt hnext)

/-- The lines of a text are read as they were, the first of them from its first character on. -/
lemma scanBlockLines_lines (start : Mark) {chomping : Chomping} (before lastBreak found : List Char)
    (afterBlank : Bool) (deepest : Nat) (hchomps : Chomps text chomping)
    (hprintable : ∀ x ∈ text, isPrintable x) (hne : text ≠ [])
    (hhead : ∀ x ∈ text.head?, isBreak x = false) (hm : m.column = column) (hnext : next < column)
    (hrest : GoesOn rest) (hfuel : text.length + 1 < fuel) :
    ∃ m', scanBlockLines start true chomping column fuel before lastBreak afterBlank
        ⟨found, deepest, ⟨m, writeLines column false text ++
          (lastLineEnd text ++ (indentation next ++ rest))⟩⟩ =
      .ok ⟨before ++ (lastBreak ++ found) ++ text, ⟨m', rest⟩, true⟩ ∧
        m'.column = next ∧ m.line < m'.line := by
  induction text using wordsInduction isBreak generalizing m fuel before lastBreak found afterBlank
    deepest with
  | last line hline =>
    obtain ⟨fuel, rfl⟩ : ∃ f, fuel = f + 2 := ⟨fuel - 2, by omega⟩
    have hends : endsWith isBreak line = false := by
      simpa [endsWith, List.getLast?_eq_some_getLast hne] using hline _ (List.getLast_mem hne)
    refine ⟨(m.forward line.length).below 1 next, ?_, rfl, Nat.lt_succ_self _⟩
    have hscan := scanBlockLines_lastLine (x := '\n') start fuel chomping before lastBreak found
      afterBlank deepest hm hline (List.forall_mem_singleton.mpr ⟨rfl, rfl⟩) hnext hrest
    rw [writeLines_of_line hline, lastLineEnd, hends]
    refine hscan.trans ?_
    simp [hchomps.eq_strip hends, Chomping.kept]
  | cons line breaks rest' hline hbreaks hbreaksNe hrest' ih =>
    obtain ⟨fuel, rfl⟩ : ∃ f, fuel = f + 2 := ⟨fuel - 2, by omega⟩
    obtain ⟨b, breaks, rfl⟩ := List.exists_cons_of_ne_nil hbreaksNe
    have hprintables : ∀ x ∈ b :: breaks, isBreak x ∧ isPrintable x := fun x hx =>
      ⟨hbreaks x hx, hprintable x (List.mem_append_right _ (List.mem_append_left _ hx))⟩
    rw [writeLines_line hline, writeLines_breaks hbreaks hbreaksNe]
    by_cases hnil : rest' = []
    · subst hnil
      have hends : lastLineEnd (line ++ (b :: breaks ++ [])) = [] := by
        rw [List.append_nil, lastLineEnd_append hbreaksNe, lastLineEnd_of_breaks hbreaks hbreaksNe]
      rw [List.append_nil] at hchomps
      refine ⟨(m.forward line.length).below (b :: breaks).length next, ?_, rfl, by simp⟩
      rw [hends]
      simp only [writeLines, List.append_nil, List.nil_append, List.append_assoc]
      refine (scanBlockLines_lastLine _ _ _ _ _ _ _ _ hm hline hprintables hnext hrest).trans ?_
      rw [hchomps.kept_eq hbreaks]
      simp
    · have hends : lastLineEnd (line ++ (b :: breaks ++ rest')) = lastLineEnd rest' := by
        rw [← List.append_assoc, lastLineEnd_append hnil]
      have hbehind : ∀ y ∈ (writeLines column false rest' ++
          (lastLineEnd rest' ++ (indentation next ++ rest))).head?, isBreak y = false := by
        obtain ⟨y, rest', rfl⟩ := List.exists_cons_of_ne_nil hnil
        simp [writeLines, hrest' y rfl]
      obtain ⟨m', hscan, hcolumn, hline'⟩ := ih
        (before ++ (lastBreak ++ found) ++ line) [b] breaks
        (Cursor.seesBlank ⟨m, line ++ (b :: breaks ++ (indentation column ++
          (writeLines column false rest' ++ (lastLineEnd rest' ++ (indentation next ++ rest)))))⟩)
        column ((hchomps.of_append (by simp)).of_append hnil)
        (fun x hx => hprintable x (List.mem_append_right _ (List.mem_append_right _ hx))) hnil
        hrest'
        (Mark.below_column : ((m.forward line.length).below (b :: breaks).length column).column = _)
        (show rest'.length + 1 < fuel + 1 by
          simp only [List.length_append, List.length_cons] at hfuel
          omega)
      refine ⟨m', ?_, hcolumn, ?_⟩
      · rw [hends, writeLines_new hnil hrest']
        simp only [List.append_assoc] at hscan ⊢
        refine (scanBlockLines_line hm hline hprintables (Nat.le_refl column) (.inl rfl)
          hbehind).trans ?_
        simp only [List.append_assoc]
        refine hscan.trans ?_
        simp
      · simp only [Mark.below_line, Mark.forward_line, List.length_cons] at hline'
        omega

/-! ### Headers -/

/-- The mark behind the bar. -/
def Chomping.mark : Chomping → List Char
  | .strip => ['-']
  | .clip => []
  | .keep => ['+']

/-- The mark that tells the indentation of a text. -/
def incrementMark (hasHint : Bool) : List Char := if hasHint then ['2'] else []

lemma scanBlockHeader_marks (start m : Mark) (rest : List Char) (hasHint : Bool)
    (chomping : Chomping) :
    ∃ m', scanBlockHeader start ⟨m, incrementMark hasHint ++ (chomping.mark ++ '\n' :: rest)⟩ =
      .ok (⟨chomping, if hasHint then some 2 else none⟩, ⟨m', rest⟩) ∧
        m'.column = 0 ∧ m'.line = m.line + 1 := by
  cases hasHint <;> cases chomping <;> exact ⟨_, rfl, rfl, rfl⟩

/-- The header agrees with the text. -/
lemma exists_literalHeader_eq (hne : text ≠ []) : ∃ hasHint chomping,
    literalHeader text = '|' :: (incrementMark hasHint ++ chomping.mark) ∧
      Chomps text chomping ∧
      (hasHint = false → ∀ x ∈ text.head?, x ≠ ' ' ∧ isBreak x = false) ∧
      ((∀ x ∈ text, isBreak x) → hasHint = true ∧ chomping = .keep) := by
  obtain ⟨front, last, rfl⟩ : ∃ front last, text = front ++ [last] :=
    ⟨text.dropLast, text.getLast hne, (List.dropLast_concat_getLast hne).symm⟩
  have hhint : ∀ hasHint, startsWith (fun c => c = ' ' || isBreak c) (front ++ [last]) = hasHint →
      (hasHint = false → ∀ x ∈ (front ++ [last]).head?, x ≠ ' ' ∧ isBreak x = false) ∧
        ((∀ x ∈ front ++ [last], isBreak x) → hasHint = true) := by
    rintro _ rfl
    obtain ⟨first, behind, hfirst⟩ := List.exists_cons_of_ne_nil hne
    rw [hfirst]
    simp +contextual [startsWith]
  have hends : endsWith isBreak (front ++ [last]) = isBreak last := by simp [endsWith]
  obtain ⟨hhead, hall⟩ := hhint _ rfl
  refine ⟨_, if !isBreak last then .strip
    else if front.reverse.head?.all isBreak then .keep else .clip, ?_, ?_, hhead,
    fun h => ⟨hall h, ?_⟩⟩
  · rw [literalHeader, List.reverse_append, List.reverse_singleton, List.singleton_append]
    simp only [incrementMark]
    split_ifs <;> rfl
  · split_ifs with hlast hfront
    · simpa [Chomps, hends] using hlast
    · simpa [Chomps, hends] using hlast
    · refine ⟨by simpa [hends] using hlast, fun a b hab ha _ => hfront ?_⟩
      obtain ⟨before, hbefore⟩ := hab
      have hsplit : (before ++ [a]) ++ [b] = front ++ [last] := by simpa using hbefore
      obtain ⟨rfl, -⟩ := List.append_inj' hsplit rfl
      simpa using ha
  · have hlast : isBreak last := h last (by simp)
    have hfront : front.reverse.head?.all isBreak := by
      cases hhead : front.reverse.head? with
      | none => rfl
      | some x =>
        have hmem : x ∈ front := List.mem_reverse.mp (List.mem_of_mem_head? hhead)
        exact h x (List.mem_append_left _ hmem)
    rw [if_neg (by simp [hlast]), if_pos hfront]

lemma isPrintable_of_mem_literalHeader (hne : text ≠ []) :
    ∀ x ∈ literalHeader text, isPrintable x := by
  obtain ⟨hasHint, chomping, hheader, -⟩ := exists_literalHeader_eq hne
  rw [hheader]
  cases hasHint <;> cases chomping <;> exact List.all_eq_true.mp rfl

/-- Behind the header come the empty lines, and then the other lines. -/
lemma scanBlock_of_header {hasHint : Bool} {chomping : Chomping} {m' : Mark} {body : List Char}
    {found : EmptyLines}
    (hheader : scanBlockHeader m ⟨m.forward 1, text⟩ =
      .ok (⟨chomping, if hasHint then some 2 else none⟩, ⟨m', body⟩))
    (hfound : scanEmptyLines m (if hasHint then some (column + 2) else none) (body.length + 1)
      ⟨[], 0, ⟨m', body⟩⟩ = .ok found)
    (hcolumn : hasHint = false → found.deepest = column + 2) :
    scanBlock true column ⟨m, '|' :: text⟩ =
      scanBlockLines m true chomping (column + 2) (body.length + 1) [] [] false found := by
  cases hasHint with
  | true =>
    simp only [if_true] at hheader hfound
    simp [scanBlock, hheader, hfound, bind, Except.bind]
  | false =>
    simp only [Bool.false_eq_true, if_false] at hheader hfound
    have hmax : max found.deepest (column + 1) = column + 2 := by
      rw [hcolumn rfl]
      omega
    simp [scanBlock, hheader, hfound, bind, Except.bind, hmax]

/-- A text whose lines are all empty is read as it was: its line ends are those at its end. -/
lemma scanBlock_breaks (hbreaks : ∀ x ∈ text, isBreak x ∧ isPrintable x) (hne : text ≠ [])
    (hnext : next ≤ column) (hrest : GoesOn rest) :
    ∃ m', scanBlock true column ⟨m, literalHeader text ++ '\n' ::
        (writeLines (column + 2) true text ++ (lastLineEnd text ++
          (indentation next ++ rest)))⟩ = .ok ⟨text, ⟨m', rest⟩, true⟩ ∧
      m'.column = next ∧ m.line < m'.line := by
  obtain ⟨hasHint, chomping, hheader, -, -, hall⟩ := exists_literalHeader_eq hne
  obtain ⟨rfl, rfl⟩ := hall fun x hx => (hbreaks x hx).1
  have hwritten : writeLines (column + 2) true text ++ (lastLineEnd text ++
      (indentation next ++ rest)) = text ++ (indentation next ++ rest) := by
    have hends := lastLineEnd_of_breaks (fun x hx => (hbreaks x hx).1) hne
    have hlines : writeLines (column + 2) true (text ++ []) =
        text ++ writeLines (column + 2) true [] :=
      writeLines_breaks (fun x hx => (hbreaks x hx).1) hne
    rw [List.append_nil] at hlines
    simp [hends, hlines, writeLines]
  obtain ⟨m₁, hscan, hcolumn, hline⟩ :=
    scanBlockHeader_marks m (m.forward 1) (text ++ (indentation next ++ rest)) true .keep
  have hfound := scanEmptyLines_breaks m [] 0 hbreaks hcolumn
    (show ∀ bound ∈ some (column + 2), next ≤ bound by simp; omega)
    (.inr fun x hx => (hrest x hx).1) (fun x hx => (hrest x hx).2)
    (show text.length < (text ++ (indentation next ++ rest)).length + 1 from
      Nat.lt_succ_of_le (by simp))
  refine ⟨m₁.below text.length next, ?_, rfl, ?_⟩
  · rw [hwritten, hheader]
    simp only [List.cons_append, List.append_assoc]
    rw [scanBlock_of_header hscan hfound (by simp), scanBlockLines_end (by simp; omega)]
    simp [Chomping.kept]
  · simp only [Mark.below_line, hline, Mark.forward_line]
    omega

/-- A text with a line that is not empty is read as it was, whether it tells its indentation or
shows it. -/
lemma scanBlock_lines {y : Char} (hbreaks : ∀ x ∈ breaks, isBreak x) (hy : isBreak y = false)
    (hprintable : ∀ x ∈ breaks ++ y :: behind, isPrintable x) (hnext : next ≤ column)
    (hrest : GoesOn rest) :
    ∃ m', scanBlock true column ⟨m, literalHeader (breaks ++ y :: behind) ++ '\n' ::
        (writeLines (column + 2) true (breaks ++ y :: behind) ++
          (lastLineEnd (breaks ++ y :: behind) ++ (indentation next ++ rest)))⟩ =
        .ok ⟨breaks ++ y :: behind, ⟨m', rest⟩, true⟩ ∧
      m'.column = next ∧ m.line < m'.line := by
  obtain ⟨hasHint, chomping, hheader, hchomps, hhead, -⟩ :=
    exists_literalHeader_eq (List.append_ne_nil_of_right_ne_nil breaks (List.cons_ne_nil y behind))
  have hne : y :: behind ≠ [] := List.cons_ne_nil y behind
  have hfirst : ∀ x ∈ (y :: behind).head?, isBreak x = false := by simpa using hy
  generalize hlines : writeLines (column + 2) false (y :: behind) ++
    (lastLineEnd (y :: behind) ++ (indentation next ++ rest)) = lines
  have hlinesHead : ∀ x ∈ lines.head?, x = y := by
    rw [← hlines, writeLines, if_neg (by simp [hy])]
    simp
  -- a text that does not tell its indentation begins with a line that shows it
  have hblank (h : hasHint = false) : isBlank y = false := by
    cases breaks with
    | nil =>
      simpa [← Bool.not_eq_true, isBlank_iff (hprintable y (by simp))] using (hhead h y rfl).1
    | cons x breaks =>
      have hx := (hhead h x rfl).2
      rw [hbreaks x List.mem_cons_self] at hx
      exact absurd hx (by decide)
  have hstop : (if hasHint then some (column + 2) else none) = some (column + 2) ∨
      ∀ x ∈ lines.head?, isBlank x = false := by
    cases hasHint with
    | true => exact .inl rfl
    | false => exact .inr fun x hx => hlinesHead x hx ▸ hblank rfl
  have hfuel : (y :: behind).length + 1 <
      (breaks ++ (indentation (column + 2) ++ lines)).length + 1 := by
    have hle := length_le_writeLines (column + 2) false (y :: behind)
    rw [← hlines]
    simp only [List.length_append, indentation, List.length_replicate]
    omega
  obtain ⟨m₁, hscan, hcolumn, hline⟩ :=
    scanBlockHeader_marks m (m.forward 1) (breaks ++ (indentation (column + 2) ++ lines)) hasHint
      chomping
  have hfound := scanEmptyLines_breaks m [] 0
    (fun x hx => ⟨hbreaks x hx, hprintable x (List.mem_append_left _ hx)⟩) hcolumn
    (by cases hasHint <;> simp) hstop (fun x hx => hlinesHead x hx ▸ hy)
    (show breaks.length < (breaks ++ (indentation (column + 2) ++ lines)).length + 1 from
      Nat.lt_succ_of_le (by simp))
  obtain ⟨m', hblock, hcolumn', hline'⟩ := scanBlockLines_lines m [] [] breaks false (column + 2)
    (hchomps.of_append hne) (fun x hx => hprintable x (List.mem_append_right _ hx)) hne hfirst
    (Mark.below_column : (m₁.below breaks.length (column + 2)).column = column + 2)
    (show next < column + 2 by omega) hrest hfuel
  refine ⟨m', ?_, hcolumn', ?_⟩
  · rw [writeLines_leading hbreaks hne hfirst, hheader, lastLineEnd_append hne]
    simp only [List.cons_append, List.append_assoc, hlines]
    rw [scanBlock_of_header hscan hfound (by simp)]
    rw [hlines] at hblock
    simpa using hblock
  · simp only [Mark.below_line] at hline'
    simp only [Mark.forward_line] at hline
    omega

/-- A text that is written line by line is read as it was, up to the next line. -/
theorem scanBlock_literal (hprintable : ∀ x ∈ text, isPrintable x) (hne : text ≠ [])
    (hnext : next ≤ column) (hrest : GoesOn rest) :
    ∃ m', scanBlock true column ⟨m, literalHeader text ++ '\n' ::
        (writeLines (column + 2) true text ++ (lastLineEnd text ++
          (indentation next ++ rest)))⟩ = .ok ⟨text, ⟨m', rest⟩, true⟩ ∧
      m'.column = next ∧ m.line < m'.line := by
  obtain ⟨breaks, behind, rfl, hbreaks, hbehind⟩ := exists_leading isBreak text
  cases behind with
  | nil =>
    rw [List.append_nil] at hprintable hne ⊢
    exact scanBlock_breaks (fun x hx => ⟨hbreaks x hx, hprintable x hx⟩) hne hnext hrest
  | cons y behind => exact scanBlock_lines hbreaks (hbehind y rfl) hprintable hnext hrest

end NotebookExport.Yaml
