import Mathlib.Algebra.Group.Nat.Defs
import Mathlib.Data.List.Basic
import NotebookExport.Proofs.Yaml.Gaps

/-!
# Quoted texts

A quoted text is read word by word, with the white space between two words counted by itself. What
writing makes of a text is such a row: between single quotes each quote is doubled and line ends are
followed by indentation; between double quotes whatever does not show is escaped. So the text that
is read is the one that was written.
-/

namespace NotebookExport.Yaml

variable {start m : Mark} {quote x : Char} {fuel : Nat} {rest text written word : List Char}

/-! ### Words -/

/-- A word of a quoted text ends here, with white space or with the closing quote. -/
def EndsWord (quote : Char) (rest : List Char) : Prop :=
  ∀ start m fuel, scanQuotedPart start quote fuel ⟨m, rest⟩ = .ok ([], .empty, ⟨m, rest⟩)

lemma endsWord_of_gap (hx : isBlank x ∨ isBreak x) : EndsWord quote (x :: rest) := by
  intro start m fuel
  cases fuel with
  | zero => rfl
  | succ fuel => simp [scanQuotedPart, isGap, hx]

lemma endsWord_quote (hquote : quote = '"' ∨ quote = '\'') :
    EndsWord quote (quote :: '\n' :: rest) := by
  intro start m fuel
  cases fuel with
  | zero => rfl
  | succ fuel => rcases hquote with rfl | rfl <;> simp [scanQuotedPart, isGap, isBlank, isBreak]

/-- What is written between quotes stands for a character. -/
def StandsFor (quote : Char) (written : List Char) (x : Char) : Prop :=
  ∀ (start m : Mark) (fuel : Nat) (rest : List Char),
    scanQuotedPart start quote (fuel + 1) ⟨m, written ++ rest⟩ =
      (scanQuotedPart start quote fuel ⟨m.forward written.length, rest⟩).map
        fun (found, gap, stop) => (x :: found, gap, stop)

lemma standsFor_self (hblank : isBlank x = false) (hbreak : isBreak x = false) (hquote : x ≠ quote)
    (hescape : quote = '"' → x ≠ '\\') : StandsFor quote [x] x := by
  intro start m fuel rest
  have hplain : ¬(quote = '"' ∧ x = '\\') := fun h => hescape h.1 h.2
  simp [scanQuotedPart, isGap, hblank, hbreak, hquote, hplain]

lemma standsFor_doubled : StandsFor '\'' ['\'', '\''] '\'' := by
  intro start m fuel rest
  simp [scanQuotedPart, isGap, isBlank, isBreak]

/-- What is written stands for a word, read up to where the word ends. -/
structure WordStandsFor (quote : Char) (written word : List Char) : Prop where
  length_le : word.length ≤ written.length
  scan : ∀ (start m : Mark) (fuel : Nat) (rest : List Char), EndsWord quote rest →
    word.length ≤ fuel → scanQuotedPart start quote fuel ⟨m, written ++ rest⟩ =
      .ok (word, .empty, ⟨m.forward written.length, rest⟩)

/-- A word is written character by character. -/
lemma wordStandsFor_flatMap {encode : Char → List Char}
    (h : ∀ x ∈ word, encode x ≠ [] ∧ StandsFor quote (encode x) x) :
    WordStandsFor quote (word.flatMap encode) word := by
  induction word with
  | nil => exact ⟨Nat.le_refl _, fun start m fuel rest hrest _ => hrest start m fuel⟩
  | cons x word ih =>
    obtain ⟨hne, hx⟩ := h x List.mem_cons_self
    obtain ⟨hle, hscan⟩ := ih fun y hy => h y (List.mem_cons_of_mem _ hy)
    constructor
    · have hpos : 0 < (encode x).length := List.length_pos_iff.mpr hne
      simp only [List.flatMap_cons, List.length_append, List.length_cons]
      omega
    · intro start m fuel rest hrest hfuel
      cases fuel with
      | zero => simp at hfuel
      | succ fuel =>
        rw [List.flatMap_cons, List.append_assoc, hx,
          hscan start _ fuel rest hrest (Nat.le_of_succ_le_succ hfuel)]
        simp [Except.map]

/-! ### Gaps -/

/-- What is written stands for the white space between two words. -/
structure GapStandsFor (written gap : List Char) : Prop where
  ne_nil : gap ≠ []
  length_le : gap.length ≤ written.length
  exists_head : ∃ x tail, written = x :: tail ∧ (isBlank x ∨ isBreak x)
  scan : ∀ (m : Mark) (fuel : Nat) (rest : List Char), GoesOn rest → written.length ≤ fuel →
    m.column ≠ 0 → ∃ found m', scanGap none fuel .empty ⟨m, written ++ rest⟩ =
      .ok (found, ⟨m', rest⟩) ∧ found.text = gap ∧ m.line ≤ m'.line ∧ m'.column ≠ 0

lemma gapStandsFor_spaces {gap : List Char} (hne : gap ≠ []) (hspaces : ∀ x ∈ gap, x = ' ') :
    GapStandsFor gap gap where
  ne_nil := hne
  length_le := Nat.le_refl _
  exists_head := by
    cases gap with
    | nil => exact absurd rfl hne
    | cons x tail =>
      obtain rfl := hspaces x List.mem_cons_self
      exact ⟨' ', tail, rfl, .inl rfl⟩
  scan := by
    intro m fuel rest hrest hfuel hcolumn
    refine ⟨⟨gap, none, []⟩, m.forward gap.length, ?_, rfl, Nat.le_refl _, ?_⟩
    · exact scanGap_spaces [] hspaces hrest hfuel
    · rw [Mark.forward_column]
      omega

/-- Line ends count as themselves, and the indentation behind them does not count. -/
lemma gapStandsFor_breaks {gap : List Char} {column : Nat} (hne : gap ≠ [])
    (hbreaks : ∀ x ∈ gap, isBreak x ∧ isPrintable x) (hfeed : '\n' ∉ gap) (hcolumn : column ≠ 0) :
    GapStandsFor (gap ++ indentation column) gap where
  ne_nil := hne
  length_le := by simp
  exists_head := by
    cases gap with
    | nil => exact absurd rfl hne
    | cons x tail => exact ⟨x, _, rfl, .inr (hbreaks x List.mem_cons_self).1⟩
  scan := by
    intro m fuel rest hrest hfuel _
    cases gap with
    | nil => exact absurd rfl hne
    | cons x tail =>
      have hx : x ≠ '\n' := fun h => hfeed (h ▸ List.mem_cons_self)
      refine ⟨⟨[], some [x], tail⟩, m.below (x :: tail).length column, ?_,
        Gap.text_of_break hx tail, Nat.le_add_right _ _, hcolumn⟩
      rw [List.append_assoc]
      refine scanGap_lines hbreaks hrest ?_
      simp only [List.length_append, List.length_cons, indentation, List.length_replicate] at hfuel
      omega

/-! ### Texts -/

/-- What is written between quotes stands for a text: for a word, or for a word, a gap, and a text
that begins with another word. -/
inductive Quoted (quote : Char) : (written text : List Char) → Prop
  | last {written word : List Char} (hword : WordStandsFor quote written word) :
      Quoted quote written word
  | cons {writtenWord word writtenGap gap written text : List Char}
      (hword : WordStandsFor quote writtenWord word) (hgap : GapStandsFor writtenGap gap)
      (hnext : GoesOn (written ++ [quote])) (htext : Quoted quote written text) :
      Quoted quote (writtenWord ++ (writtenGap ++ written)) (word ++ (gap ++ text))

/-- What stands for a text is read as that text, up to the closing quote. -/
theorem Quoted.scan (h : Quoted quote written text) (hquote : quote = '"' ∨ quote = '\'')
    (before : List Char) (hcolumn : m.column ≠ 0) (hfuel : text.length < fuel) :
    ∃ m', scanQuotedRest start quote fuel before ⟨m, written ++ quote :: '\n' :: rest⟩ =
      .ok ⟨before ++ text, ⟨m', '\n' :: rest⟩, false⟩ ∧ m.line ≤ m'.line := by
  induction h generalizing m fuel before with
  | @last written word hword =>
    cases fuel with
    | zero => simp at hfuel
    | succ fuel =>
      have hpart := hword.scan start m (written ++ quote :: '\n' :: rest).length
        (quote :: '\n' :: rest) (endsWord_quote hquote)
        (hword.length_le.trans (by simp))
      have hend : Cursor.atEnd ⟨m, written ++ quote :: '\n' :: rest⟩ = false := by
        simp [Cursor.atEnd]
      refine ⟨(m.forward written.length).forward 1, ?_, Nat.le_refl _⟩
      simp only [scanQuotedRest, Cursor.seesDocumentEdge_of_column hcolumn, hend, hpart,
        Cursor.sees_cons, beq_self_eq_true, Cursor.skip_cons, Bool.false_eq_true, if_false, if_true]
  | @cons writtenWord word writtenGap gap written text hword hgap hnext _ ih =>
    cases fuel with
    | zero => simp at hfuel
    | succ fuel =>
      obtain ⟨x, tail, hhead, hx⟩ := hgap.exists_head
      have hgapLength : 0 < gap.length := List.length_pos_iff.mpr hgap.ne_nil
      set behind := written ++ quote :: '\n' :: rest with hbehind
      have hwhole : writtenWord ++ (writtenGap ++ written) ++ quote :: '\n' :: rest =
          writtenWord ++ (writtenGap ++ behind) := by
        simp [hbehind]
      have hpart := hword.scan start m (writtenWord ++ (writtenGap ++ behind)).length
        (writtenGap ++ behind) (by rw [hhead]; exact endsWord_of_gap hx)
        (hword.length_le.trans (by simp))
      have hgoesOn : GoesOn behind := by
        cases written with
        | nil => simpa [hbehind] using hnext
        | cons y written => simpa [hbehind] using hnext
      obtain ⟨found, m', hscan, htext, hline, hcolumn'⟩ := hgap.scan
        (m.forward writtenWord.length) (writtenGap ++ behind).length behind hgoesOn (by simp)
        (by rw [Mark.forward_column]; omega)
      have hfuel' : text.length < fuel := by
        simp only [List.length_append] at hfuel
        omega
      obtain ⟨m'', hrest, hline'⟩ := ih (before ++ word ++ gap) hcolumn' hfuel'
      have hend : Cursor.atEnd ⟨m, writtenWord ++ (writtenGap ++ behind)⟩ = false := by
        simp [Cursor.atEnd, hhead]
      have hsees : Cursor.sees ⟨m.forward writtenWord.length, writtenGap ++ behind⟩ quote =
          false := by
        rw [hhead, List.cons_append, Cursor.sees_cons, beq_eq_false_iff_ne]
        rintro rfl
        rcases hquote with rfl | rfl <;> revert hx <;> decide
      refine ⟨m'', ?_, hline.trans hline'⟩
      rw [hwhole, ← List.append_assoc word, ← List.append_assoc before, ← List.append_assoc before]
      simp only [scanQuotedRest, Cursor.seesDocumentEdge_of_column hcolumn, hend, hpart, hsees,
        hscan, htext, hrest, Bool.false_eq_true, if_false]

lemma Quoted.length_le (h : Quoted quote written text) : text.length ≤ written.length := by
  induction h with
  | last hword => exact hword.length_le
  | cons hword hgap _ _ ih =>
    have hle := hword.length_le
    have hgapLe := hgap.length_le
    simp only [List.length_append]
    omega

lemma Quoted.scanQuoted (h : Quoted quote written text) (m : Mark) (rest : List Char)
    (hquote : quote = '"' ∨ quote = '\'') :
    ∃ m', scanQuoted quote ⟨m, quote :: (written ++ quote :: '\n' :: rest)⟩ =
      .ok ⟨text, ⟨m', '\n' :: rest⟩, false⟩ ∧ m.line ≤ m'.line := by
  have hle := h.length_le
  exact h.scan hquote [] (by simp) (by simp; omega)

/-! ### Between single quotes -/

section SingleQuotes

variable {column : Nat} {isNew : Bool}

/-- What is written for a character that is no white space. -/
def doubleQuote (x : Char) : List Char := if x = '\'' then ['\'', '\''] else [x]

lemma standsFor_doubleQuote (hblank : isBlank x = false) (hbreak : isBreak x = false) :
    StandsFor '\'' (doubleQuote x) x := by
  unfold doubleQuote
  split_ifs with hx
  · exact hx ▸ standsFor_doubled
  · exact standsFor_self hblank hbreak hx (by simp)

/-- Whether a character belongs to the white space between words. -/
def isInGap (x : Char) : Bool := isSpace x || isBreak x

lemma isInGap_eq_false : isInGap x = false ↔ x ≠ ' ' ∧ isBreak x = false := by
  simp [isInGap, isSpace]

lemma writeSingleQuoted_word (hword : ∀ x ∈ word, isInGap x = false) :
    writeSingleQuoted column false (word ++ rest) =
      word.flatMap doubleQuote ++ writeSingleQuoted column false rest := by
  induction word with
  | nil => rfl
  | cons x word ih =>
    obtain ⟨hspace, hbreak⟩ := isInGap_eq_false.mp (hword x List.mem_cons_self)
    have htail := ih fun y hy => hword y (List.mem_cons_of_mem _ hy)
    simp [writeSingleQuoted, hspace, hbreak, htail, doubleQuote]

lemma writeSingleQuoted_spaces {spaces : List Char} (hspaces : ∀ x ∈ spaces, x = ' ') :
    writeSingleQuoted column isNew (spaces ++ rest) =
      spaces ++ writeSingleQuoted column isNew rest := by
  induction spaces with
  | nil => rfl
  | cons x spaces ih =>
    obtain rfl := hspaces x List.mem_cons_self
    have htail := ih fun y hy => hspaces y (List.mem_cons_of_mem _ hy)
    simp [writeSingleQuoted, htail]

lemma writeSingleQuoted_breaks {breaks : List Char} (hbreaks : ∀ x ∈ breaks, isBreak x)
    (hne : breaks ≠ []) : writeSingleQuoted column isNew (breaks ++ rest) =
      breaks ++ writeSingleQuoted column true rest := by
  induction breaks generalizing isNew with
  | nil => exact absurd rfl hne
  | cons x breaks ih =>
    have hbreak := hbreaks x List.mem_cons_self
    have hspace : x ≠ ' ' := by
      rintro rfl
      exact absurd hbreak (by decide)
    cases breaks with
    | nil => simp [writeSingleQuoted, hspace, hbreak]
    | cons y breaks =>
      have htail : writeSingleQuoted column true (y :: breaks ++ rest) =
          y :: breaks ++ writeSingleQuoted column true rest :=
        ih (fun z hz => hbreaks z (List.mem_cons_of_mem _ hz)) (by simp)
      rw [List.cons_append, writeSingleQuoted, if_neg hspace, if_pos hbreak, htail]
      rfl

lemma writeSingleQuoted_new (hrest : ∀ x ∈ rest.head?, isInGap x = false) :
    writeSingleQuoted column true rest =
      indentation column ++ writeSingleQuoted column false rest := by
  cases rest with
  | nil => simp [writeSingleQuoted]
  | cons x rest =>
    obtain ⟨hspace, hbreak⟩ := isInGap_eq_false.mp (hrest x rfl)
    simp [writeSingleQuoted, hspace, hbreak]

lemma goesOn_writeSingleQuoted (hrest : ∀ x ∈ rest.head?, isInGap x = false ∧ isPrintable x) :
    GoesOn (writeSingleQuoted column false rest ++ ['\'']) := by
  cases rest with
  | nil => simp [writeSingleQuoted, isBlank, isBreak]
  | cons x rest =>
    obtain ⟨hgap, hprintable⟩ := hrest x rfl
    obtain ⟨hspace, hbreak⟩ := isInGap_eq_false.mp hgap
    have hblank : isBlank x = false := by
      simpa [← Bool.not_eq_true, isBlank_iff hprintable] using hspace
    simp only [writeSingleQuoted, hspace, hbreak, Bool.false_eq_true, if_false]
    split_ifs with hx
    · simp [isBlank, isBreak]
    · simp [hblank, hbreak]

/-- Without a space beside a line end, the white space between two words is of one kind. -/
lemma spaces_or_breaks {gap : List Char} (hgap : ∀ x ∈ gap, isInGap x)
    (hspace : hasPair isSpace isBreak gap = false) (hbreak : hasPair isBreak isSpace gap = false) :
    (∀ x ∈ gap, x = ' ') ∨ ∀ x ∈ gap, isBreak x := by
  induction gap with
  | nil => simp
  | cons x gap ih =>
    have hx : x = ' ' ∨ isBreak x := by simpa [isInGap, isSpace] using hgap x List.mem_cons_self
    cases gap with
    | nil => simpa using hx
    | cons y gap =>
      simp only [hasPair, Bool.or_eq_false_iff, Bool.and_eq_false_imp] at hspace hbreak
      have htail := ih (fun z hz => hgap z (List.mem_cons_of_mem _ hz)) hspace.2 hbreak.2
      simp only [List.forall_mem_cons] at htail ⊢
      rcases hx with rfl | hx
      · refine htail.imp (⟨rfl, ·⟩) fun h => ?_
        exact absurd h.1 (by simpa using hspace.1 rfl)
      · refine htail.imp (fun h => ?_) (⟨hx, ·⟩)
        exact absurd h.1 (by simpa [isSpace] using hbreak.1 hx)

lemma isPrintable_of_mem_writeSingleQuoted (h : ∀ x ∈ text, isPrintable x) :
    ∀ x ∈ writeSingleQuoted column isNew text, isPrintable x := by
  induction text generalizing isNew with
  | nil =>
    simp only [writeSingleQuoted]
    split_ifs
    · exact fun x => isPrintable_of_mem_indentation
    · simp
  | cons y text ih =>
    obtain ⟨hy, htext⟩ := List.forall_mem_cons.mp h
    have hnew : ∀ x ∈ if isNew then indentation column else [], isPrintable x := by
      split_ifs
      · exact fun x => isPrintable_of_mem_indentation
      · simp
    have hquote : ∀ x ∈ if y = '\'' then ['\'', '\''] else [y], isPrintable x := by
      split_ifs
      · exact List.all_eq_true.mp rfl
      · simpa using hy
    rw [writeSingleQuoted]
    split
    · exact List.forall_mem_cons.mpr ⟨hy, ih htext⟩
    · split
      · exact List.forall_mem_cons.mpr ⟨hy, ih htext⟩
      · rw [List.forall_mem_append, List.forall_mem_append]
        exact ⟨⟨hnew, hquote⟩, ih htext⟩

/-- What is written between single quotes stands for a text that allows them. -/
theorem quoted_writeSingleQuoted (hcolumn : column ≠ 0) (hfeed : '\n' ∉ text)
    (hprintable : ∀ x ∈ text, isPrintable x) (hspace : hasPair isSpace isBreak text = false)
    (hbreak : hasPair isBreak isSpace text = false) :
    Quoted '\'' (writeSingleQuoted column false text) text := by
  have hwords (word : List Char) (hword : ∀ x ∈ word, isInGap x = false)
      (hprintable : ∀ x ∈ word, isPrintable x) :
      WordStandsFor '\'' (word.flatMap doubleQuote) word := by
    refine wordStandsFor_flatMap fun x hx => ?_
    obtain ⟨hspace, hbreak⟩ := isInGap_eq_false.mp (hword x hx)
    refine ⟨by unfold doubleQuote; split_ifs <;> simp, standsFor_doubleQuote ?_ hbreak⟩
    simpa [← Bool.not_eq_true, isBlank_iff (hprintable x hx)] using hspace
  induction text using wordsInduction isInGap with
  | last word hword =>
    have hwritten : writeSingleQuoted column false (word ++ []) =
        word.flatMap doubleQuote ++ writeSingleQuoted column false [] :=
      writeSingleQuoted_word hword
    simp only [List.append_nil, writeSingleQuoted, Bool.false_eq_true, if_false] at hwritten
    rw [hwritten]
    exact .last (hwords word hword hprintable)
  | cons word gap rest hword hgap hne hrest ih =>
    simp only [List.mem_append, not_or] at hfeed hprintable
    obtain ⟨-, hspaceBehind⟩ := hasPair_append_eq_false hspace
    obtain ⟨-, hbreakBehind⟩ := hasPair_append_eq_false hbreak
    obtain ⟨hspaceGap, hspaceRest⟩ := hasPair_append_eq_false hspaceBehind
    obtain ⟨hbreakGap, hbreakRest⟩ := hasPair_append_eq_false hbreakBehind
    have htext := ih hfeed.2.2 (fun x hx => hprintable x (.inr (.inr hx))) hspaceRest hbreakRest
    have hnext : GoesOn (writeSingleQuoted column false rest ++ ['\'']) :=
      goesOn_writeSingleQuoted fun x hx =>
        ⟨hrest x hx, hprintable x (.inr (.inr (List.mem_of_mem_head? hx)))⟩
    have hfirst := hwords word hword fun x hx => hprintable x (.inl hx)
    rw [writeSingleQuoted_word hword]
    rcases spaces_or_breaks hgap hspaceGap hbreakGap with hspaces | hbreaks
    · rw [writeSingleQuoted_spaces hspaces]
      exact .cons hfirst (gapStandsFor_spaces hne hspaces) hnext htext
    · rw [writeSingleQuoted_breaks hbreaks hne, writeSingleQuoted_new hrest,
        ← List.append_assoc gap]
      exact .cons hfirst (gapStandsFor_breaks hne
        (fun x hx => ⟨hbreaks x hx, hprintable x (.inr (.inl hx))⟩) hfeed.2.1 hcolumn) hnext htext

end SingleQuotes

/-! ### Between double quotes -/

/-- The values of digits to the base sixteen. -/
def hexValues : Nat → Nat → List Nat
  | 0, _ => []
  | width + 1, n => hexValues width (n / 16) ++ [n % 16]

lemma hexValue?_hexDigit {n : Nat} (h : n < 16) : hexValue? (hexDigit n) = some n := by
  have hall : ∀ n < 16, hexValue? (hexDigit n) = some n := by decide
  exact hall n h

lemma length_hexDigits (width n : Nat) : (hexDigits width n).length = width := by
  induction width generalizing n with
  | zero => rfl
  | succ width ih => simp [hexDigits, ih]

lemma mapM_hexDigits (width n : Nat) :
    (hexDigits width n).mapM hexValue? = some (hexValues width n) := by
  induction width generalizing n with
  | zero => rfl
  | succ width ih =>
    simp [hexDigits, hexValues, List.mapM_append, ih, hexValue?_hexDigit (Nat.mod_lt n (by decide))]

/-- The digits of a number give it back if they are enough. -/
lemma foldl_hexValues {width n : Nat} (h : n < 16 ^ width) :
    (hexValues width n).foldl (fun n d => 16 * n + d) 0 = n := by
  induction width generalizing n with
  | zero => simpa [hexValues] using (Nat.lt_one_iff.mp h).symm
  | succ width ih =>
    have hquotient : n / 16 < 16 ^ width := by
      rw [Nat.div_lt_iff_lt_mul (by decide)]
      rwa [Nat.pow_succ] at h
    rw [hexValues, List.foldl_append, ih hquotient, List.foldl_cons, List.foldl_nil,
      Nat.div_add_mod]

lemma scanEscape_letter {letter : Char} (h : escapedCharacter? letter = some x) :
    scanEscape start ⟨m, '\\' :: letter :: rest⟩ = .ok (x, ⟨m.forward 2, rest⟩) := by
  simp [scanEscape, h]

lemma scanEscape_number {letter : Char} {width : Nat} (hletter : escapedCharacter? letter = none)
    (hwidth : escapeLength? letter = some width) (hx : x.toNat < 16 ^ width) :
    scanEscape start ⟨m, '\\' :: letter :: (hexDigits width x.toNat ++ rest)⟩ =
      .ok (x, ⟨m.forward (2 + width), rest⟩) := by
  have hdigits : (hexDigits width x.toNat ++ rest).take width = hexDigits width x.toNat :=
    List.take_left' (length_hexDigits _ _)
  have hskip : Cursor.skipMany width ⟨m.forward 2, hexDigits width x.toNat ++ rest⟩ =
      ⟨m.forward (2 + width), rest⟩ := by
    have h := @Cursor.skipMany_append (m.forward 2) rest (hexDigits width x.toNat)
    rwa [length_hexDigits, Mark.forward_forward] at h
  have hvalid : x.toNat < 0xD800 ∨ 0xDFFF < x.toNat ∧ x.toNat ≤ 0x10FFFF := by
    have h : x.toNat < 0xD800 ∨ 0xDFFF < x.toNat ∧ x.toNat < 0x110000 := x.valid
    omega
  simp [scanEscape, hletter, hwidth, hdigits, mapM_hexDigits, foldl_hexValues hx,
    length_hexDigits, hvalid, hskip]

/-- A character is escaped by a letter of its own, or by its number. -/
lemma escapeOf_cases (x : Char) :
    (∃ letter, escapeOf x = [letter] ∧ escapedCharacter? letter = some x) ∨
      ∃ letter width, escapeOf x = letter :: hexDigits width x.toNat ∧
        escapedCharacter? letter = none ∧ escapeLength? letter = some width ∧
        x.toNat < 16 ^ width := by
  have hbound : x.toNat < 16 ^ 8 := by
    have h : x.toNat < 0xD800 ∨ 0xDFFF < x.toNat ∧ x.toNat < 0x110000 := x.valid
    omega
  unfold escapeOf
  split
  case h_16 =>
    dsimp only
    split_ifs
    · exact .inr ⟨'x', 2, rfl, rfl, rfl, by omega⟩
    · exact .inr ⟨'u', 4, rfl, rfl, rfl, by omega⟩
    · exact .inr ⟨'U', 8, rfl, rfl, rfl, hbound⟩
  all_goals exact .inl ⟨_, rfl, rfl⟩

lemma scanEscape_escapeOf (x : Char) :
    scanEscape start ⟨m, '\\' :: (escapeOf x ++ rest)⟩ =
      .ok (x, ⟨m.forward (1 + (escapeOf x).length), rest⟩) := by
  obtain ⟨letter, hx, hletter⟩ | ⟨letter, width, hx, hletter, hwidth, hbound⟩ := escapeOf_cases x
  · rw [hx]
    exact scanEscape_letter hletter
  · have hlength : 1 + (letter :: hexDigits width x.toNat).length = 2 + width := by
      rw [List.length_cons, length_hexDigits]
      omega
    rw [hx, hlength]
    exact scanEscape_number hletter hwidth hbound

/-- No line end is escaped as such. -/
lemma exists_escapeOf_eq (x : Char) :
    ∃ letter tail, escapeOf x = letter :: tail ∧ isBreak letter = false := by
  have hletters (letter : Char) (h : isBreak letter) :
      escapedCharacter? letter = none ∧ escapeLength? letter = none := by
    simp only [isBreak, Bool.or_eq_true, decide_eq_true_eq] at h
    rcases h with (((rfl | rfl) | rfl) | rfl) | rfl <;> exact ⟨rfl, rfl⟩
  obtain ⟨letter, hx, hletter⟩ | ⟨letter, width, hx, -, hwidth, -⟩ := escapeOf_cases x
  · refine ⟨letter, [], hx, Bool.eq_false_iff.mpr fun h => ?_⟩
    simp [(hletters letter h).1] at hletter
  · refine ⟨letter, _, hx, Bool.eq_false_iff.mpr fun h => ?_⟩
    simp [(hletters letter h).2] at hwidth

lemma isPrintable_of_mem_hexDigits (width n : Nat) : ∀ x ∈ hexDigits width n, isPrintable x := by
  have hdigit : ∀ k < 16, isPrintable (hexDigit k) := by decide
  induction width generalizing n with
  | zero => simp [hexDigits]
  | succ width ih =>
    rw [hexDigits, List.forall_mem_append]
    exact ⟨ih _, by simpa using hdigit _ (Nat.mod_lt n (by decide))⟩

lemma isPrintable_of_mem_escapeOf (y : Char) : ∀ x ∈ escapeOf y, isPrintable x := by
  unfold escapeOf
  split
  case h_16 =>
    dsimp only
    split_ifs <;> rw [List.forall_mem_cons] <;>
      exact ⟨by decide, isPrintable_of_mem_hexDigits _ _⟩
  all_goals exact List.all_eq_true.mp rfl

lemma isPrintable_of_mem_writeDoubleQuoted (text : List Char) :
    ∀ x ∈ text.flatMap writeDoubleQuotedCharacter, isPrintable x := by
  intro x hx
  obtain ⟨y, -, hmem⟩ := List.mem_flatMap.mp hx
  unfold writeDoubleQuotedCharacter at hmem
  split_ifs at hmem with hescaped
  · rcases List.mem_cons.mp hmem with rfl | hmem
    · decide
    · exact isPrintable_of_mem_escapeOf y x hmem
  · obtain rfl := List.mem_singleton.mp hmem
    simp only [Bool.or_eq_true, Bool.not_eq_true', not_or, Bool.not_eq_false] at hescaped
    exact hescaped.1.1.1

lemma standsFor_escape (x : Char) : StandsFor '"' ('\\' :: escapeOf x) x := by
  intro start m fuel rest
  obtain ⟨letter, tail, hhead, hbreak⟩ := exists_escapeOf_eq x
  have hescape := @scanEscape_escapeOf start m rest x
  rw [hhead, Nat.add_comm] at hescape
  rw [hhead]
  simp only [List.cons_append] at hescape ⊢
  have hgap : isGap ('\\' :: letter :: (tail ++ rest)) = false := rfl
  simp [scanQuotedPart, hgap, hbreak, hescape]

lemma standsFor_writeDoubleQuotedCharacter (hx : x ≠ ' ') :
    StandsFor '"' (writeDoubleQuotedCharacter x) x := by
  unfold writeDoubleQuotedCharacter
  split_ifs with hescaped
  · exact standsFor_escape x
  · simp only [Bool.or_eq_true, Bool.not_eq_true', decide_eq_true_eq, not_or,
      Bool.not_eq_false, Bool.not_eq_true] at hescaped
    obtain ⟨⟨⟨hprintable, hbreak⟩, hquote⟩, hbackslash⟩ := hescaped
    have hblank : isBlank x = false := by
      simpa [← Bool.not_eq_true, isBlank_iff hprintable] using hx
    exact standsFor_self hblank hbreak hquote fun _ => hbackslash

lemma goesOn_writeDoubleQuotedCharacter (hx : x ≠ ' ') :
    GoesOn (writeDoubleQuotedCharacter x ++ rest) := by
  unfold writeDoubleQuotedCharacter
  split_ifs with hescaped
  · simp [isBlank, isBreak]
  · simp only [Bool.or_eq_true, Bool.not_eq_true', decide_eq_true_eq, not_or,
      Bool.not_eq_false, Bool.not_eq_true] at hescaped
    obtain ⟨⟨⟨hprintable, hbreak⟩, -⟩, -⟩ := hescaped
    simpa [hbreak, ← Bool.not_eq_true, isBlank_iff hprintable] using hx

/-- What is written between double quotes stands for the text, whatever that is. -/
theorem quoted_writeDoubleQuoted (text : List Char) :
    Quoted '"' (text.flatMap writeDoubleQuotedCharacter) text := by
  have hwords (word : List Char) (hword : ∀ x ∈ word, isSpace x = false) :
      WordStandsFor '"' (word.flatMap writeDoubleQuotedCharacter) word := by
    refine wordStandsFor_flatMap fun x hx => ⟨?_, standsFor_writeDoubleQuotedCharacter ?_⟩
    · unfold writeDoubleQuotedCharacter
      split_ifs <;> simp
    · simpa [isSpace] using hword x hx
  induction text using wordsInduction isSpace with
  | last word hword => exact .last (hwords word hword)
  | cons word gap rest hword hgap hne hrest ih =>
    have hspaces : ∀ x ∈ gap, x = ' ' := fun x hx => by simpa [isSpace] using hgap x hx
    have hwritten : gap.flatMap writeDoubleQuotedCharacter = gap := by
      have hspace : ∀ x ∈ gap, writeDoubleQuotedCharacter x = [x] := fun x hx => by
        rw [hspaces x hx]
        rfl
      rw [List.flatMap_congr hspace, List.flatMap_singleton']
    have hnext : GoesOn (rest.flatMap writeDoubleQuotedCharacter ++ ['"']) := by
      cases rest with
      | nil => simp [isBlank, isBreak]
      | cons x rest =>
        rw [List.flatMap_cons, List.append_assoc]
        exact goesOn_writeDoubleQuotedCharacter (by simpa [isSpace] using hrest x rfl)
    rw [List.flatMap_append, List.flatMap_append, hwritten]
    exact .cons (hwords word hword) (gapStandsFor_spaces hne hspaces) hnext ih

end NotebookExport.Yaml
