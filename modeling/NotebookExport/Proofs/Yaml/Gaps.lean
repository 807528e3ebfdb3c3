import NotebookExport.Proofs.Yaml.Positions

/-!
# Reading white space in scalars

White space in a scalar is a row of spaces, or a row of line ends with the indentation of the next
line behind them. Either counts as what was written, apart from the indentation, unless the first
line end is a line feed.
-/

namespace NotebookExport.Yaml

variable {limit : Option Int} {m : Mark} {fuel : Nat} {rest : List Char}

/-- A text goes on with something that is no white space, or ends. -/
def GoesOn (rest : List Char) : Prop := ∀ x ∈ rest.head?, isBlank x = false ∧ isBreak x = false

@[simp] lemma goesOn_cons {x : Char} :
    GoesOn (x :: rest) ↔ isBlank x = false ∧ isBreak x = false := by
  simp [GoesOn]

lemma GoesOn.isGap_cons {x : Char} (h : GoesOn (x :: rest)) : isGap (x :: rest) = false := by
  simpa [isGap] using goesOn_cons.mp h

/-- A text goes on with the beginning of a token, or ends. -/
def StartsToken (rest : List Char) : Prop :=
  ∀ x ∈ rest.head?, isBlank x = false ∧ isBreak x = false ∧ x ≠ '#' ∧ x ≠ '\ufeff'

lemma StartsToken.goesOn (h : StartsToken rest) : GoesOn rest :=
  fun x hx => ⟨(h x hx).1, (h x hx).2.1⟩

lemma scanGap_of_goesOn (hrest : GoesOn rest) (gap : Gap) :
    scanGap limit fuel gap ⟨m, rest⟩ = .ok (gap, ⟨m, rest⟩) := by
  cases fuel with
  | zero => rfl
  | succ fuel =>
    cases rest with
    | nil => simp [scanGap]
    | cons x rest =>
      obtain ⟨hblank, hbreak⟩ := goesOn_cons.mp hrest
      simp [scanGap, hblank, hbreak]

lemma scanGap_spaces {spaces : List Char} (blanks : List Char) (hspaces : ∀ x ∈ spaces, x = ' ')
    (hrest : GoesOn rest) (hfuel : spaces.length ≤ fuel) :
    scanGap limit fuel ⟨blanks, none, []⟩ ⟨m, spaces ++ rest⟩ =
      .ok (⟨blanks ++ spaces, none, []⟩, ⟨m.forward spaces.length, rest⟩) := by
  induction spaces generalizing blanks m fuel with
  | nil => simpa using scanGap_of_goesOn hrest _
  | cons x spaces ih =>
    obtain rfl := hspaces x List.mem_cons_self
    cases fuel with
    | zero => simp at hfuel
    | succ fuel =>
      have htail := ih (m := m.forward 1) (blanks ++ [' '])
        (fun y hy => hspaces y (List.mem_cons_of_mem _ hy)) (Nat.le_of_succ_le_succ hfuel)
      have hspace : isBlank ' ' = true := by decide
      simp [scanGap, Gap.hasBreak, hspace, htail, Nat.add_comm]

lemma scanGap_indentation {first : List Char} {others : List Char} {column : Nat}
    (hrest : GoesOn rest) (hfuel : column ≤ fuel) :
    scanGap limit fuel ⟨[], some first, others⟩ ⟨m, indentation column ++ rest⟩ =
      .ok (⟨[], some first, others⟩, ⟨m.forward column, rest⟩) := by
  induction column generalizing m fuel with
  | zero => simpa [indentation] using scanGap_of_goesOn hrest _
  | succ column ih =>
    cases fuel with
    | zero => simp at hfuel
    | succ fuel =>
      have htail := ih (m := m.forward 1) (Nat.le_of_succ_le_succ hfuel)
      have hspace : isBlank ' ' = true := by decide
      rw [indentation] at htail
      simp [scanGap, Gap.hasBreak, hspace, indentation, List.replicate_succ, htail, Nat.add_comm]

/-- Further line ends, and the indentation of the next line. -/
lemma scanGap_breaks {breaks : List Char} {column : Nat} (first others : List Char)
    (hbreaks : ∀ x ∈ breaks, isBreak x ∧ isPrintable x) (hrest : GoesOn rest)
    (hcolumn : m.column = 0) (hfuel : breaks.length + column ≤ fuel) :
    scanGap limit fuel ⟨[], some first, others⟩ ⟨m, breaks ++ (indentation column ++ rest)⟩ =
      .ok (⟨[], some first, others ++ breaks⟩, ⟨m.below breaks.length column, rest⟩) := by
  induction breaks generalizing others m fuel with
  | nil =>
    have hmark : m.forward column = m.below 0 column := by
      simp [Mark.forward, Mark.below, hcolumn]
    rw [List.nil_append, List.append_nil, List.length_nil, ← hmark]
    exact scanGap_indentation hrest (by simpa using hfuel)
  | cons x breaks ih =>
    obtain ⟨hbreak, hprintable⟩ := hbreaks x List.mem_cons_self
    cases fuel with
    | zero => simp at hfuel
    | succ fuel =>
      have hfuel' : breaks.length + column ≤ fuel := by
        simp only [List.length_cons] at hfuel
        omega
      have htail := ih (m := m.below 1 0) (others ++ [x])
        (fun y hy => hbreaks y (List.mem_cons_of_mem _ hy)) rfl hfuel'
      simp [scanGap, Gap.hasBreak, hbreak, not_isBlank_of_isBreak hbreak,
        Cursor.passBreak_cons hbreak hprintable, htail, Nat.add_comm]

/-- Line ends and the indentation of the next line, from the first line end on. -/
lemma scanGap_lines {x : Char} {breaks : List Char} {column : Nat}
    (hbreaks : ∀ y ∈ x :: breaks, isBreak y ∧ isPrintable y) (hrest : GoesOn rest)
    (hfuel : breaks.length + column < fuel) :
    scanGap limit fuel .empty ⟨m, x :: breaks ++ (indentation column ++ rest)⟩ =
      .ok (⟨[], some [x], breaks⟩, ⟨m.below (x :: breaks).length column, rest⟩) := by
  obtain ⟨hbreak, hprintable⟩ := hbreaks x List.mem_cons_self
  cases fuel with
  | zero => simp at hfuel
  | succ fuel =>
    have htail := @scanGap_breaks limit (m.below 1 0) fuel rest breaks column [x] []
      (fun y hy => hbreaks y (List.mem_cons_of_mem _ hy)) hrest rfl (Nat.le_of_lt_succ hfuel)
    simp [scanGap, Gap.empty, Gap.hasBreak, hbreak, not_isBlank_of_isBreak hbreak,
      Cursor.passBreak_cons hbreak hprintable, htail, Nat.add_comm]

/-- Line ends count as themselves, unless the first of them is a line feed. -/
lemma Gap.text_of_break {x : Char} (hx : x ≠ '\n') (others : List Char) :
    Gap.text ⟨[], some [x], others⟩ = x :: others := by
  unfold Gap.text
  split
  case h_1 h => cases h
  case h_2 h => simp [hx] at h
  case h_3 first _ h =>
    obtain rfl := Option.some.inj h
    rfl

end NotebookExport.Yaml
