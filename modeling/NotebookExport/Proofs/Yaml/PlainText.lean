import NotebookExport.Proofs.Yaml.Gaps
import NotebookExport.Yaml.Tokens

/-!
# Plain texts

A text that stands as it is goes up to the end of its line, as long as it has no colon in front of
white space and no number sign behind it; and a key goes up to its colon. A line end ends a plain
text because the next line does not stand further to the right than the block around it.
-/

namespace NotebookExport.Yaml

variable {start m : Mark} {fuel : Nat} {rest text word : List Char}

/-! ### Words -/

lemma isGap_append (h : isGap text = false) : isGap (text ++ rest) = false := by
  cases text with
  | nil => simp [isGap] at h
  | cons x text => simpa [isGap] using h

/-- A word of a plain text ends here, with white space or with a colon in front of it. -/
def EndsPlainWord (rest : List Char) : Prop :=
  isGap rest ∨ ∃ behind, rest = ':' :: behind ∧ isGap behind

lemma scanPlainPart_word (hword : ∀ x ∈ word, isBlank x = false ∧ isBreak x = false)
    (hcolon : ∀ tail, ':' :: tail <:+ word → isGap (tail ++ rest) = false)
    (hrest : EndsPlainWord rest) (hfuel : word.length ≤ fuel) :
    scanPlainPart start false fuel ⟨m, word ++ rest⟩ =
      .ok (word, ⟨m.forward word.length, rest⟩) := by
  induction word generalizing m fuel with
  | nil =>
    cases fuel with
    | zero => rfl
    | succ fuel =>
      have hends : endsPlain false ⟨m, rest⟩ = true := by
        rcases hrest with h | ⟨behind, rfl, h⟩ <;> simp [endsPlain, h]
      simp [scanPlainPart, hends]
  | cons x word ih =>
    cases fuel with
    | zero => simp at hfuel
    | succ fuel =>
      obtain ⟨hblank, hbreak⟩ := hword x List.mem_cons_self
      have hends : endsPlain false ⟨m, x :: (word ++ rest)⟩ = false := by
        have hgap : isGap (x :: (word ++ rest)) = false := by simp [isGap, hblank, hbreak]
        by_cases hx : x = ':'
        · subst hx
          simp [endsPlain, hgap, hcolon word (List.suffix_refl _)]
        · simp [endsPlain, hgap, hx]
      have htail := ih (m := m.forward 1)
        (fun y hy => hword y (List.mem_cons_of_mem _ hy))
        (fun tail h => hcolon tail (h.trans (List.suffix_cons _ _)))
        (Nat.le_of_succ_le_succ hfuel)
      simp [scanPlainPart, hends, htail, Except.map, Nat.add_comm]

/-- What is read of a plain text word by word. -/
lemma scanPlainRest_word {limit : Int} {before : List Char} {gap : Gap} {behind : List Char}
    (hne : word ≠ []) (hword : ∀ x ∈ word, isBlank x = false ∧ isBreak x = false)
    (hsign : word.head? ≠ some '#')
    (hcolon : ∀ tail, ':' :: tail <:+ word → isGap (tail ++ behind) = false)
    (hbehind : EndsPlainWord behind)
    (hedge : Cursor.seesDocumentEdge ⟨m, word ++ behind⟩ = false) :
    scanPlainRest start false limit (fuel + 1) before gap ⟨m, word ++ behind⟩ =
      let text := before ++ gap.text ++ word
      let stop : Cursor := ⟨m.forward word.length, behind⟩
      if !(stop.seesBlank || stop.seesBreak) then .ok ⟨text, stop, false⟩
      else
        match scanGap (some limit) behind.length .empty stop with
        | .error tab => .error (.during .plainScalar start .tabInPlain tab)
        | .ok (gap, next) =>
          if (next.mark.column : Int) < limit then .ok ⟨text, next, gap.hasBreak⟩
          else scanPlainRest start false limit fuel text gap next := by
  have hpart : scanPlainPart start false (word ++ behind).length ⟨m, word ++ behind⟩ =
      .ok (word, ⟨m.forward word.length, behind⟩) :=
    scanPlainPart_word hword hcolon hbehind (by simp)
  have hsees : Cursor.sees ⟨m, word ++ behind⟩ '#' = false := by
    cases word with
    | nil => exact absurd rfl hne
    | cons x word => simpa using hsign
  have hempty : word.isEmpty = false := by simpa using hne
  simp only [scanPlainRest, hedge, hsees, hpart, hempty,
    Bool.or_self, Bool.false_eq_true, if_false, Bool.not_false, Bool.true_and, decide_eq_true_eq]
  rfl

/-! ### Texts -/

/-- A text that stands as it is. -/
structure Plain (text : List Char) : Prop where
  ne_nil : text ≠ []
  printable : ∀ x ∈ text, isPrintable x ∧ isBreak x = false
  head : ∀ x ∈ text.head?, x ≠ ' ' ∧ x ≠ '#'
  last : ¬[' '] <:+ text
  colon : ∀ tail, ':' :: tail <:+ text → isGap tail = false
  numberSign : ∀ tail, ' ' :: '#' :: tail <:+ text → False

namespace Plain

lemma goesOn (h : Plain text) : GoesOn (text ++ rest) := by
  obtain ⟨x, tail, rfl⟩ := List.exists_cons_of_ne_nil h.ne_nil
  obtain ⟨hprintable, hbreak⟩ := h.printable x List.mem_cons_self
  simpa [hbreak, ← Bool.not_eq_true, isBlank_iff hprintable] using (h.head x rfl).1

lemma startsToken (h : Plain text) : StartsToken (text ++ rest) := by
  intro y hy
  obtain ⟨hblank, hbreak⟩ := h.goesOn y hy
  obtain ⟨x, tail, rfl⟩ := List.exists_cons_of_ne_nil h.ne_nil
  obtain rfl := Option.some.inj hy
  refine ⟨hblank, hbreak, (h.head x rfl).2, ?_⟩
  rintro rfl
  exact absurd (h.printable _ List.mem_cons_self).1 (by decide)

/-- Behind white space a plain text goes on as another. -/
lemma tail {gap : List Char} (h : Plain (word ++ (gap ++ rest))) (hne : gap ≠ [])
    (hgap : ∀ x ∈ gap, x = ' ') (hrest : ∀ x ∈ rest.head?, x ≠ ' ') : Plain rest := by
  have hspace : ' ' :: rest <:+ word ++ (gap ++ rest) := by
    obtain ⟨front, hfront⟩ : ∃ front, gap = front ++ [' '] :=
      ⟨gap.dropLast, by
        rw [← hgap _ (List.getLast_mem hne), List.dropLast_concat_getLast]⟩
    rw [hfront, List.append_assoc]
    exact (List.suffix_append front _).trans (List.suffix_append word _)
  have hsuffix : rest <:+ word ++ (gap ++ rest) := (List.suffix_cons ' ' rest).trans hspace
  refine ⟨?_, fun x hx => h.printable x (hsuffix.mem hx), fun x hx => ⟨hrest x hx, ?_⟩,
    fun hlast => h.last (hlast.trans hsuffix), fun tail htail => h.colon tail (htail.trans hsuffix),
    fun tail htail => h.numberSign tail (htail.trans hsuffix)⟩
  · rintro rfl
    exact h.last hspace
  · rintro rfl
    obtain ⟨tail, rfl⟩ := List.head?_eq_some_iff.mp hx
    exact h.numberSign tail hspace

/-- The words of a plain text can be read as such. -/
lemma word_prefix {behind : List Char} (h : Plain (word ++ behind))
    (hword : ∀ x ∈ word, isSpace x = false) :
    (∀ x ∈ word, isBlank x = false ∧ isBreak x = false) ∧
      ∀ tail, ':' :: tail <:+ word → isGap (tail ++ behind) = false := by
  constructor
  · intro x hx
    obtain ⟨hprintable, hbreak⟩ := h.printable x (List.mem_append_left _ hx)
    have hspace : x ≠ ' ' := by simpa [isSpace] using hword x hx
    exact ⟨by simpa [← Bool.not_eq_true, isBlank_iff hprintable] using hspace, hbreak⟩
  · rintro tail ⟨front, hfront⟩
    exact h.colon _ ⟨front, by rw [← hfront, List.append_assoc, List.cons_append]⟩

/-- The last word of a plain text is read up to the next line, which does not stand further to the
right than the block around it. -/
lemma scanPlainRest_lastWord (h : Plain word) (hword : ∀ x ∈ word, isSpace x = false) {limit : Int}
    {column : Nat} (before : List Char) (gap : Gap) (hm : m.column ≠ 0)
    (hcolumn : (column : Int) < limit) (hrest : GoesOn rest) :
    scanPlainRest start false limit (fuel + 1) before gap
        ⟨m, word ++ '\n' :: (indentation column ++ rest)⟩ =
      .ok ⟨before ++ gap.text ++ word, ⟨(m.forward word.length).below 1 column, rest⟩, true⟩ := by
  obtain ⟨hwords, hcolon⟩ := word_prefix (show Plain (word ++ []) by simpa using h) hword
  have hline : scanGap (some limit) ('\n' :: (indentation column ++ rest)).length .empty
      ⟨m.forward word.length, ['\n'] ++ (indentation column ++ rest)⟩ =
      .ok (⟨[], some ['\n'], []⟩, ⟨(m.forward word.length).below 1 column, rest⟩) :=
    scanGap_lines (List.forall_mem_singleton.mpr ⟨rfl, rfl⟩) hrest <| by
      simp only [indentation, List.length_nil, List.length_cons, List.length_append,
        List.length_replicate]
      omega
  rw [scanPlainRest_word h.ne_nil hwords (fun hx => (h.head '#' hx).2 rfl)
    (fun tail htail => isGap_append (by simpa using hcolon tail htail)) (.inl rfl)
    (Cursor.seesDocumentEdge_of_column hm)]
  simp only [List.cons_append, List.nil_append] at hline
  simp only [Cursor.seesBlank_cons, Cursor.seesBreak_cons, hline, Mark.below_column, hcolumn,
    if_true]
  rfl

/-- A word of a plain text is read with the spaces behind it, where the text goes on. -/
lemma scanPlainRest_spaces {spaces behind : List Char} (h : Plain (word ++ (' ' :: spaces ++ rest)))
    (hword : ∀ x ∈ word, isSpace x = false) (hspaces : ∀ x ∈ ' ' :: spaces, x = ' ')
    (hrest : GoesOn (rest ++ behind)) {limit : Int} (before : List Char) (gap : Gap)
    (hlimit : limit ≤ m.column) (hm : m.column ≠ 0) :
    scanPlainRest start false limit (fuel + 1) before gap
        ⟨m, word ++ (' ' :: spaces ++ (rest ++ behind))⟩ =
      scanPlainRest start false limit fuel (before ++ gap.text ++ word) ⟨' ' :: spaces, none, []⟩
        ⟨(m.forward word.length).forward (' ' :: spaces).length, rest ++ behind⟩ := by
  obtain ⟨hwords, hcolon⟩ := word_prefix h hword
  have hne : word ≠ [] := by
    rintro rfl
    exact (h.head ' ' rfl).1 rfl
  have hsign : word.head? ≠ some '#' := by
    obtain ⟨x, tail, rfl⟩ := List.exists_cons_of_ne_nil hne
    exact fun hx => (h.head '#' (by simpa using hx)).2 rfl
  have hscan : scanGap (some limit) (' ' :: spaces ++ (rest ++ behind)).length .empty
      ⟨m.forward word.length, ' ' :: spaces ++ (rest ++ behind)⟩ =
      .ok (⟨' ' :: spaces, none, []⟩,
        ⟨(m.forward word.length).forward (' ' :: spaces).length, rest ++ behind⟩) :=
    scanGap_spaces [] hspaces hrest (by simp)
  have hcolumn : ¬(((m.forward word.length).forward (' ' :: spaces).length).column : Int) <
      limit := by
    simp only [Mark.forward_column]
    omega
  have hblank : isBlank ' ' = true := rfl
  rw [scanPlainRest_word hne hwords hsign
    (fun tail htail => by simpa using isGap_append (hcolon tail htail)) (.inl rfl)
    (Cursor.seesDocumentEdge_of_column hm)]
  simp only [List.cons_append] at hscan ⊢
  simp only [Cursor.seesBlank_cons, hblank, Bool.true_or, Bool.not_true, Bool.false_eq_true,
    if_false, hscan, hcolumn]

/-- A plain text is read up to the end of its line, if the next line does not stand further to the
right than the block around it. -/
theorem scanPlainRest (h : Plain text) {limit : Int} {column : Nat} (before : List Char) (gap : Gap)
    (hlimit : limit ≤ m.column) (hm : m.column ≠ 0) (hcolumn : (column : Int) < limit)
    (hrest : GoesOn rest) (hfuel : text.length < fuel) :
    scanPlainRest start false limit fuel before gap
        ⟨m, text ++ '\n' :: (indentation column ++ rest)⟩ =
      .ok ⟨before ++ gap.text ++ text, ⟨(m.forward text.length).below 1 column, rest⟩, true⟩ := by
  induction text using wordsInduction isSpace generalizing m fuel before gap with
  | last word hword =>
    obtain ⟨fuel, rfl⟩ := Nat.exists_eq_add_one.mpr (Nat.zero_lt_of_lt hfuel)
    exact h.scanPlainRest_lastWord hword before gap hm hcolumn hrest
  | cons word spaces rest' hword hgap hne hnext ih =>
    obtain ⟨fuel, rfl⟩ := Nat.exists_eq_add_one.mpr (Nat.zero_lt_of_lt hfuel)
    have hspaces : ∀ x ∈ spaces, x = ' ' := fun x hx => by simpa [isSpace] using hgap x hx
    have htail : Plain rest' := h.tail hne hspaces fun x hx => by
      simpa [isSpace] using hnext x hx
    obtain ⟨y, spaces', rfl⟩ := List.exists_cons_of_ne_nil hne
    obtain rfl := hspaces y List.mem_cons_self
    have hfuel' : rest'.length < fuel := by
      simp only [List.length_append, List.length_cons] at hfuel
      omega
    have hread := ih htail (before ++ gap.text ++ word) ⟨' ' :: spaces', none, []⟩
      (m := (m.forward word.length).forward (' ' :: spaces').length)
      (by simp only [Mark.forward_column]; omega) (by simp only [Mark.forward_column]; omega)
      hfuel'
    have htext : Gap.text ⟨' ' :: spaces', none, []⟩ = ' ' :: spaces' := rfl
    rw [List.append_assoc, List.append_assoc, h.scanPlainRest_spaces hword hspaces htail.goesOn
      before gap hlimit hm, hread, htext]
    simp [Nat.add_assoc, Nat.add_comm 1]

/-- A plain text is read as a value up to the end of its line. -/
theorem scanPlain (h : Plain text) {limit : Int} {column : Nat} (hlimit : limit ≤ m.column)
    (hm : m.column ≠ 0) (hcolumn : (column : Int) < limit) (hrest : GoesOn rest) :
    scanPlain false limit ⟨m, text ++ '\n' :: (indentation column ++ rest)⟩ =
      .ok ⟨text, ⟨(m.forward text.length).below 1 column, rest⟩, true⟩ :=
  h.scanPlainRest [] .empty hlimit hm hcolumn hrest (Nat.lt_succ_of_le (by simp))

end Plain

/-! ### What writing leaves as it is -/

lemma isGap_of_hasInnerIndicator {before : Char} (h : hasInnerIndicator before text = false)
    (tail : List Char) (htail : ':' :: tail <:+ text) : isGap tail = false := by
  induction text generalizing before with
  | nil => simp at htail
  | cons x text ih =>
    simp only [hasInnerIndicator, Bool.or_eq_false_iff, Bool.and_eq_false_imp] at h
    rcases List.suffix_cons_iff.mp htail with heq | hsuffix
    · obtain ⟨rfl, rfl⟩ := List.cons.inj heq
      exact h.1.1 (by simp)
    · exact ih h.2 hsuffix

lemma not_suffix_of_hasInnerIndicator {before : Char} (h : hasInnerIndicator before text = false)
    (tail : List Char) (htail : ' ' :: '#' :: tail <:+ before :: text) : False := by
  induction text generalizing before with
  | nil => simpa using htail.length_le
  | cons x text ih =>
    simp only [hasInnerIndicator, Bool.or_eq_false_iff] at h
    rcases List.suffix_cons_iff.mp htail with heq | hsuffix
    · obtain ⟨rfl, hsecond⟩ := List.cons.inj heq
      obtain ⟨rfl, rfl⟩ := List.cons.inj hsecond
      simp [isBlank] at h
    · exact ih h.2 hsuffix

lemma plain_of_allowsPlain (h : allowsPlain text) (hne : text ≠ []) : Plain text := by
  obtain ⟨first, behind, rfl⟩ := List.exists_cons_of_ne_nil hne
  simp only [allowsPlain, needsEscapes, hasIndicator, Bool.and_eq_true, Bool.not_eq_true',
    Bool.or_eq_false_iff, List.any_eq_false, Bool.not_eq_true, Bool.not_eq_false] at h
  obtain ⟨⟨⟨⟨⟨hprintable, -⟩, hbreak⟩, hstart⟩, hend⟩, ⟨⟨-, hindicator⟩, hgap⟩, hinner⟩ := h
  refine ⟨by simp, fun x hx => ⟨by simpa using hprintable x hx, by simpa using hbreak x hx⟩,
    fun x hx => ?_, ?_, fun tail htail => ?_,
    fun tail htail => not_suffix_of_hasInnerIndicator hinner tail htail⟩
  · obtain rfl := Option.some.inj hx
    refine ⟨?_, ?_⟩
    · rintro rfl
      exact absurd hstart (by simp [startsWith, isSpace])
    · rintro rfl
      exact absurd hindicator (by decide)
  · rintro ⟨front, hfront⟩
    rw [← hfront] at hend
    simp [endsWith, isSpace] at hend
  · rcases List.suffix_cons_iff.mp htail with heq | hsuffix
    · obtain ⟨rfl, rfl⟩ := List.cons.inj heq
      simpa using hgap
    · exact isGap_of_hasInnerIndicator hinner tail hsuffix

/-! ### Keys -/

/-- A text that is made up of letters, digits and low lines, and is not too long for a key. -/
structure IsKey (key : List Char) : Prop where
  ne_nil : key ≠ []
  length_le : key.length ≤ Scan.maxKeyLength
  isName : ∀ x ∈ key, x.isAlphanum ∨ x = '_'

namespace IsKey

variable {key : List Char}

lemma not_mem {x : Char} (h : IsKey key) (hx : ¬(x.isAlphanum ∨ x = '_')) : x ∉ key :=
  fun hmem => hx (h.isName x hmem)

lemma not_white (h : IsKey key) : ∀ x ∈ key, isBlank x = false ∧ isBreak x = false := by
  intro x hx
  constructor
  · refine Bool.eq_false_iff.mpr fun hblank => ?_
    simp only [isBlank, Bool.or_eq_true, decide_eq_true_eq] at hblank
    rcases hblank with rfl | rfl <;> exact h.not_mem (by decide) hx
  · refine Bool.eq_false_iff.mpr fun hbreak => ?_
    simp only [isBreak, Bool.or_eq_true, decide_eq_true_eq] at hbreak
    rcases hbreak with (((rfl | rfl) | rfl) | rfl) | rfl <;> exact h.not_mem (by decide) hx

lemma printable (h : IsKey key) : ∀ x ∈ key, isPrintable x := fun x hx =>
  (h.isName x hx).elim isPrintable_of_isAlphanum (by rintro rfl; decide)

lemma startsToken (h : IsKey key) : StartsToken (key ++ rest) := by
  intro x hx
  obtain ⟨y, tail, rfl⟩ := List.exists_cons_of_ne_nil h.ne_nil
  obtain rfl := Option.some.inj hx
  obtain ⟨hblank, hbreak⟩ := h.not_white _ List.mem_cons_self
  have hne (y : Char) (hy : ¬(y.isAlphanum ∨ y = '_')) : _ ≠ y :=
    fun heq => h.not_mem hy (heq ▸ List.mem_cons_self)
  exact ⟨hblank, hbreak, hne '#' (by decide), hne '\ufeff' (by decide)⟩

/-- A key is read up to its colon. -/
theorem scanPlain (h : IsKey key) (m : Mark) (limit : Int) (hrest : isGap rest) :
    scanPlain false limit ⟨m, key ++ ':' :: rest⟩ =
      .ok ⟨key, ⟨m.forward key.length, ':' :: rest⟩, false⟩ := by
  have hcolon : ∀ tail, ':' :: tail <:+ key → isGap (tail ++ ':' :: rest) = false :=
    fun tail htail => absurd (htail.mem List.mem_cons_self) (h.not_mem (by decide))
  have hsign : key.head? ≠ some '#' := fun hhead =>
    h.not_mem (by decide) (List.mem_of_mem_head? hhead)
  have hedge : Cursor.seesDocumentEdge ⟨m, key ++ ':' :: rest⟩ = false := by
    obtain ⟨x, key', rfl⟩ := List.exists_cons_of_ne_nil h.ne_nil
    have hdash : x ≠ '-' := by
      rintro rfl
      exact h.not_mem (by decide) List.mem_cons_self
    have hdot : x ≠ '.' := by
      rintro rfl
      exact h.not_mem (by decide) List.mem_cons_self
    simp [Cursor.seesDocumentEdge, Cursor.seesDocumentMark, hdash, hdot]
  rw [Yaml.scanPlain, scanPlainRest_word h.ne_nil h.not_white hsign hcolon
    (.inr ⟨rest, rfl, hrest⟩) hedge]
  rfl

end IsKey

end NotebookExport.Yaml
