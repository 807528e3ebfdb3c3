import Mathlib.Data.List.TakeWhile
import NotebookExport.Yaml.Print

/-!
# Going on in YAML text

What a cursor sees of a text that is written out in front of it, and where it comes to be behind a
part of that text. The parts are those that writing makes: characters of one line, line ends, and
the indentation of the line behind them.
-/

namespace NotebookExport.Yaml

/-! ### Places -/

namespace Mark

/-- The place so many characters further on in the same line. -/
def forward (n : Nat) (m : Mark) : Mark := ⟨m.index + n, m.line, m.column + n⟩

/-- The place at a column of the line so many lines below, where the lines between are empty. -/
def below (lines column : Nat) (m : Mark) : Mark :=
  ⟨m.index + lines + column, m.line + lines, column⟩

variable {m : Mark} {n k : Nat}

@[simp] lemma forward_index : (m.forward n).index = m.index + n := rfl

@[simp] lemma forward_line : (m.forward n).line = m.line := rfl

@[simp] lemma forward_column : (m.forward n).column = m.column + n := rfl

@[simp] lemma forward_zero : m.forward 0 = m := rfl

@[simp] lemma forward_forward : (m.forward n).forward k = m.forward (n + k) := by
  simp [forward, Nat.add_assoc]

@[simp] lemma below_line : (m.below n k).line = m.line + n := rfl

@[simp] lemma below_column : (m.below n k).column = k := rfl

@[simp] lemma below_zero_below {l : Nat} : (m.below n 0).below k l = m.below (n + k) l := by
  simp [below, Nat.add_assoc]

@[simp] lemma below_forward {l : Nat} : (m.below n k).forward l = m.below n (k + l) := by
  simp [below, forward, Nat.add_assoc]

end Mark

/-! ### Characters -/

section Characters

variable {x : Char}

lemma isPrintable_feed : isPrintable '\n' := by decide

lemma isPrintable_of_mem_indentation {column : Nat} (h : x ∈ indentation column) :
    isPrintable x := by
  rw [List.eq_of_mem_replicate h]
  decide

lemma isPrintable_of_isAlphanum (h : x.isAlphanum) : isPrintable x := by
  have hranges : (decide ('A'.val ≤ x.val ∧ x.val ≤ 'Z'.val) ||
      decide ('a'.val ≤ x.val) && decide (x.val ≤ 'z'.val) ||
      decide ('0'.val ≤ x.val) && decide (x.val ≤ '9'.val)) = true := h
  have hbounds : 0x20 ≤ x.toNat ∧ x.toNat ≤ 0x7E := by
    simp only [Bool.or_eq_true, Bool.and_eq_true, decide_eq_true_eq, UInt32.le_iff_toNat_le]
      at hranges
    simp at hranges
    omega
  simp [isPrintable, hbounds]

/-- The line ends that show as they are. -/
lemma eq_of_isBreak (hbreak : isBreak x) (hprintable : isPrintable x) :
    x = '\n' ∨ x = '\u2028' ∨ x = '\u2029' := by
  simp only [isBreak, Bool.or_eq_true, decide_eq_true_eq] at hbreak
  rcases hbreak with (((rfl | rfl) | rfl) | rfl) | rfl
  · exact .inl rfl
  · exact absurd hprintable (by decide)
  · exact absurd hprintable (by decide)
  · exact .inr (.inl rfl)
  · exact .inr (.inr rfl)

lemma isBlank_iff (hprintable : isPrintable x) : isBlank x ↔ x = ' ' := by
  simp only [isBlank, Bool.or_eq_true, decide_eq_true_eq, or_iff_left_iff_imp]
  rintro rfl
  exact absurd hprintable (by decide)

lemma not_isBlank_of_isBreak (hbreak : isBreak x) : isBlank x = false := by
  simp only [isBreak, Bool.or_eq_true, decide_eq_true_eq] at hbreak
  rcases hbreak with (((rfl | rfl) | rfl) | rfl) | rfl <;> decide

lemma hasPair_append_eq_false {first second : Char → Bool} {before behind : List Char}
    (h : hasPair first second (before ++ behind) = false) :
    hasPair first second before = false ∧ hasPair first second behind = false := by
  induction before with
  | nil => exact ⟨rfl, h⟩
  | cons x before ih =>
    cases before with
    | nil =>
      cases behind with
      | nil => exact ⟨rfl, rfl⟩
      | cons y behind =>
        simp only [List.cons_append, List.nil_append, hasPair, Bool.or_eq_false_iff] at h
        exact ⟨rfl, h.2⟩
    | cons y before =>
      simp only [List.cons_append, hasPair, Bool.or_eq_false_iff] at h ⊢
      obtain ⟨hbefore, hbehind⟩ := ih h.2
      exact ⟨⟨h.1, hbefore⟩, hbehind⟩

end Characters

/-! ### Cursors -/

namespace Cursor

variable {m : Mark} {x y : Char} {rest part : List Char} {p : Char → Bool}

@[simp] lemma skip_cons : skip ⟨m, x :: rest⟩ = ⟨m.forward 1, rest⟩ := rfl

@[simp] lemma atEnd_cons : atEnd ⟨m, x :: rest⟩ = false := rfl

@[simp] lemma ahead_zero_cons : ahead p 0 ⟨m, x :: rest⟩ = p x := by simp [ahead]

@[simp] lemma ahead_one_cons : ahead p 1 ⟨m, x :: y :: rest⟩ = p y := by simp [ahead]

@[simp] lemma sees_cons : sees ⟨m, x :: rest⟩ y = (x == y) := by simp [sees]

@[simp] lemma sees_nil : sees ⟨m, []⟩ y = false := by simp [sees, ahead]

@[simp] lemma seesBlank_cons : seesBlank ⟨m, x :: rest⟩ = isBlank x := by simp [seesBlank]

@[simp] lemma seesBlank_nil : seesBlank ⟨m, []⟩ = false := by simp [seesBlank, ahead]

@[simp] lemma seesBreak_cons : seesBreak ⟨m, x :: rest⟩ = isBreak x := by simp [seesBreak]

@[simp] lemma seesBreak_nil : seesBreak ⟨m, []⟩ = false := by simp [seesBreak, ahead]

@[simp] lemma seesGap_zero : seesGap 0 ⟨m, rest⟩ = isGap rest := by
  cases rest <;> simp [seesGap, aheadOrEnd, isGap]

@[simp] lemma seesGap_one : seesGap 1 ⟨m, x :: rest⟩ = isGap rest := by
  cases rest <;> simp [seesGap, aheadOrEnd, isGap]

lemma seesDocumentEdge_of_column (h : m.column ≠ 0) : seesDocumentEdge ⟨m, rest⟩ = false := by
  simp [seesDocumentEdge, seesDocumentMark, h]

lemma skipMany_append : skipMany part.length ⟨m, part ++ rest⟩ = ⟨m.forward part.length, rest⟩ := by
  induction part generalizing m with
  | nil => rfl
  | cons x part ih => simp [skipMany, ih, Nat.add_comm]

/-- A line end that shows counts as itself. -/
lemma passBreak_cons (hbreak : isBreak x) (hprintable : isPrintable x) :
    passBreak ⟨m, x :: rest⟩ = ([x], ⟨m.below 1 0, rest⟩) := by
  rcases eq_of_isBreak hbreak hprintable with rfl | rfl | rfl <;> rfl

lemma spanWithin_append {fuel : Nat} (hpart : ∀ x ∈ part, p x)
    (hrest : ∀ x ∈ rest.head?, p x = false) (hfuel : part.length ≤ fuel) :
    spanWithin p fuel ⟨m, part ++ rest⟩ = (part, ⟨m.forward part.length, rest⟩) := by
  induction part generalizing m fuel with
  | nil =>
    cases fuel with
    | zero => rfl
    | succ fuel =>
      cases rest with
      | nil => rfl
      | cons y rest => simp [spanWithin, hrest y rfl]
  | cons x part ih =>
    obtain ⟨fuel, rfl⟩ := Nat.exists_eq_add_one.mpr (Nat.zero_lt_of_lt hfuel)
    have htail := ih (m := m.forward 1) (fun y hy => hpart y (List.mem_cons_of_mem _ hy))
      (Nat.le_of_succ_le_succ hfuel)
    simp [spanWithin, hpart x List.mem_cons_self, htail, Nat.add_comm]

lemma span_append (hpart : ∀ x ∈ part, p x) (hrest : ∀ x ∈ rest.head?, p x = false) :
    span p ⟨m, part ++ rest⟩ = (part, ⟨m.forward part.length, rest⟩) :=
  spanWithin_append hpart hrest (by simp)

lemma span_of_head (hrest : ∀ x ∈ rest.head?, p x = false) :
    span p ⟨m, rest⟩ = ([], ⟨m, rest⟩) :=
  span_append (List.forall_mem_nil _) hrest

end Cursor

/-! ### Rows of words -/

lemma exists_leading (p : Char → Bool) (text : List Char) :
    ∃ part rest, text = part ++ rest ∧ (∀ x ∈ part, p x) ∧ ∀ x ∈ rest.head?, p x = false := by
  refine ⟨text.takeWhile p, text.dropWhile p, List.takeWhile_append_dropWhile.symm,
    fun x => List.mem_takeWhile_imp, fun x hx => ?_⟩
  have hhead := List.head?_dropWhile_not p text
  rw [Option.mem_def.mp hx] at hhead
  simpa using hhead

/-- Goes through a text word by word: what stands between two words is a gap. -/
theorem wordsInduction (isInGap : Char → Bool) {motive : List Char → Prop}
    (last : ∀ word, (∀ x ∈ word, isInGap x = false) → motive word)
    (cons : ∀ word gap rest, (∀ x ∈ word, isInGap x = false) → (∀ x ∈ gap, isInGap x) →
      gap ≠ [] → (∀ x ∈ rest.head?, isInGap x = false) → motive rest →
      motive (word ++ (gap ++ rest)))
    (text : List Char) : motive text := by
  induction hlength : text.length using Nat.strong_induction_on generalizing text with
  | _ n ih =>
    obtain ⟨word, behind, rfl, hword, hbehind⟩ := exists_leading (fun x => !isInGap x) text
    obtain ⟨gap, rest, rfl, hgap, hrest⟩ := exists_leading isInGap behind
    have hwords : ∀ x ∈ word, isInGap x = false := fun x hx => by simpa using hword x hx
    cases gap with
    | nil =>
      -- what stands behind the word is neither of the word nor of a gap, so nothing is left
      have hnil : rest = [] := by
        cases rest with
        | nil => rfl
        | cons x rest => simp [hrest x rfl] at hbehind
      subst hnil
      simpa using last word hwords
    | cons x gap =>
      refine cons word (x :: gap) rest hwords hgap (by simp) hrest (ih _ ?_ rest rfl)
      simp only [List.length_append, List.length_cons] at hlength
      omega

end NotebookExport.Yaml
