import NotebookExport.Proofs.Yaml.Lines
import NotebookExport.Proofs.Yaml.LineText
import NotebookExport.Proofs.Yaml.PlainText
import NotebookExport.Proofs.Yaml.QuotedText

/-!
# Values in their lines

A value stands behind a key or a dash, further to the right than the block that it is in. Whatever
the style in which a text is written, it is cut off as one token that holds the text, and the scan
comes to the beginning of the next line.
-/

namespace NotebookExport.Yaml

namespace Scan

variable {m : Mark} {x : Char} {column next : Nat} {rest text : List Char} {tokens : List Token}
  {indents : List Nat} {allowsKey : Bool}

/-! ### Which token starts -/

lemma startsPlain_cons (hindicator : isIndicator x = false) (hgap : isGap (x :: rest) = false)
    (hmark : x = '?' ∨ x = ':' ∨ x = '-' → isGap rest = false) :
    startsPlain ⟨⟨m, x :: rest⟩, tokens, indents, [none], allowsKey⟩ = true := by
  by_cases hdash : x = '-'
  · have hblank : Cursor.ahead isBlank 1 ⟨m, x :: rest⟩ = false := by
      cases rest with
      | nil => simp [Cursor.ahead]
      | cons y rest =>
        have hrest := hmark (.inr (.inr hdash))
        simp only [isGap, List.head?_cons, Option.all_some, Bool.or_eq_false_iff] at hrest
        simpa using hrest.1
    simp [startsPlain, hdash, hdash ▸ hblank]
  · by_cases hsign : x = '?' ∨ x = ':'
    · have hrest := hmark (by tauto)
      simp [startsPlain, hdash, hsign, inFlow, hrest]
    · have hall : ∀ y ∈ ",[]\x7b\x7d#&*!|>'\"%@\x60".toList, isIndicator y :=
        List.all_eq_true.mp (by decide +kernel)
      have hother : ",[]\x7b\x7d#&*!|>'\"%@\x60".toList.contains x = false := by
        refine Bool.eq_false_iff.mpr fun hmem => ?_
        simpa [hindicator] using hall x (List.contains_iff_mem.mp hmem)
      simp only [startsPlain, Cursor.sees_cons, beq_eq_false_iff_ne.mpr hdash, Cursor.seesGap_zero,
        hgap, Cursor.ahead_zero_cons, hother]
      simpa using .inl (not_or.mp hsign)

lemma addToken_plain (hindicator : isIndicator x = false) (hgap : isGap (x :: rest) = false)
    (hmark : x = '?' ∨ x = ':' ∨ x = '-' → isGap rest = false)
    (hedge : m.column = 0 → x ≠ '-' ∧ x ≠ '.') :
    addToken ⟨⟨m, x :: rest⟩, tokens, indents, [none], allowsKey⟩ =
      addPlain ⟨⟨m, x :: rest⟩, tokens, indents, [none], allowsKey⟩ := by
  have hne (y : Char) (hy : isIndicator y) : (x = y) = False := by
    refine eq_false ?_
    rintro rfl
    simp [hindicator] at hy
  have hsign (y : Char) (hy : y = '?' ∨ y = ':' ∨ y = '-') :
      (x = y ∧ isGap rest = true) = False := by
    refine eq_false ?_
    rintro ⟨rfl, hrest⟩
    simp [hmark hy] at hrest
  have hdocument (y : Char) (hy : m.column = 0 → x ≠ y) :
      Cursor.seesDocumentMark y ⟨m, x :: rest⟩ = false := by
    by_cases hcolumn : m.column = 0
    · simp [Cursor.seesDocumentMark, hy hcolumn]
    · simp [Cursor.seesDocumentMark, hcolumn]
  simp [addToken, hdocument '-' fun h => (hedge h).1, hdocument '.' fun h => (hedge h).2, inFlow,
    hsign '?', hsign ':', hsign '-', startsPlain_cons hindicator hgap hmark, hne '%' rfl,
    hne '[' rfl, hne '\x7b' rfl, hne ']' rfl, hne '\x7d' rfl, hne ',' rfl, hne '*' rfl, hne '&' rfl,
    hne '!' rfl, hne '|' rfl, hne '>' rfl, hne '\'' rfl, hne '"' rfl]

/-! ### Values up to the next line -/

/-- A text behind a key or a dash of a block is cut off as one token, up to the next line. -/
structure IsValue (column : Nat) (written : List Char) (kind : TokenKind) : Prop where
  printable : ∀ x ∈ written, isPrintable x
  startsToken : ∀ rest, StartsToken (written ++ rest)
  exists_addToken : ∀ (m : Mark) (tokens : List Token) (indents : List Nat) (allowsKey : Bool)
    (next : Nat) (rest : List Char), column < m.column → next ≤ column → StartsToken rest →
    ∃ s', addToken ⟨⟨m, written ++ (indentation next ++ rest)⟩, tokens, column :: indents, [none],
        allowsKey⟩ = .ok s' ∧
      s'.AtLine (tokens.map Token.kind ++ [kind]) (column :: indents) next rest ∧
      s'.cursor.rest.length < (written ++ (indentation next ++ rest)).length

/-- What stands further to the right than the block may be a key, but does not have to. -/
lemma exists_addCandidate_eq (rest : List Char) (tokens : List Token) (indents : List Nat)
    (allowsKey : Bool) (h : column < m.column) : ∃ slot,
    addCandidate ⟨⟨m, rest⟩, tokens, column :: indents, [none], allowsKey⟩ =
        .ok ⟨⟨m, rest⟩, tokens, column :: indents, [slot], allowsKey⟩ ∧
      ∀ line, m.line < line → IsLeftBehind line slot := by
  cases allowsKey with
  | false => exact ⟨none, rfl, fun _ _ => isLeftBehind_none⟩
  | true =>
    have hne : ((column : Int) = m.column) = False := eq_false (by omega)
    refine ⟨some ⟨false, tokens.length, m⟩, ?_, fun line hline => ?_⟩
    · simp [addCandidate, dropCandidate, indent, hne, Except.map]
    · simp [IsLeftBehind, hline]

lemma isValue_plain (column : Nat) (h : Plain text) (hstart : ∀ x tail, text = x :: tail →
      isIndicator x = false ∧ (x = '?' ∨ x = ':' ∨ x = '-' → isGap tail = false)) :
    IsValue column (text ++ ['\n']) (.scalar (String.ofList text) .plain) := by
  obtain ⟨x, tail, rfl⟩ := List.exists_cons_of_ne_nil h.ne_nil
  refine ⟨?_, fun rest => by simpa using h.startsToken, ?_⟩
  · rw [List.forall_mem_append]
    exact ⟨fun y hy => (h.printable y hy).1, by simpa using isPrintable_feed⟩
  intro m tokens indents allowsKey next rest hcolumn hnext hrest
  obtain ⟨hindicator, hmark⟩ := hstart x tail rfl
  have hgap : isGap (x :: (tail ++ '\n' :: (indentation next ++ rest))) = false :=
    h.goesOn.isGap_cons
  obtain ⟨slot, hcandidate, hslot⟩ := exists_addCandidate_eq
    (x :: (tail ++ '\n' :: (indentation next ++ rest))) tokens indents allowsKey hcolumn
  have hscan : scanPlain false ((column : Int) + 1)
      ⟨m, x :: tail ++ '\n' :: (indentation next ++ rest)⟩ =
      .ok ⟨x :: tail, ⟨(m.forward (x :: tail).length).below 1 next, rest⟩, true⟩ :=
    h.scanPlain (by omega) (by omega) (by omega) hrest.goesOn
  rw [List.append_assoc, List.cons_append, List.singleton_append]
  rw [List.cons_append] at hscan
  rw [addToken_plain hindicator hgap (fun hx => isGap_append (hmark hx)) (by omega)]
  simp only [addPlain, hcandidate, bind, Except.bind, inFlow, indent, List.length_singleton,
    Nat.lt_irrefl, decide_false, hscan, pure, Except.pure]
  refine ⟨_, rfl, ?_, by simp; omega⟩
  exact atLine_of_startsToken hrest (by simp [add]) (by simp) rfl (hslot _ (by simp))

lemma isValue_quoted (column : Nat) {quote : Char} {style : ScalarStyle} {written : List Char}
    (hquote : quote = '\'' ∧ style = .singleQuoted ∨ quote = '"' ∧ style = .doubleQuoted)
    (h : Quoted quote written text) (hprintable : ∀ x ∈ written, isPrintable x) :
    IsValue column (quote :: (written ++ [quote, '\n'])) (.scalar (String.ofList text) style) := by
  refine ⟨?_, fun rest => ?_, ?_⟩
  · have hquotePrintable : isPrintable quote := by rcases hquote with ⟨rfl, -⟩ | ⟨rfl, -⟩ <;> decide
    simp only [List.forall_mem_cons, List.forall_mem_append]
    exact ⟨hquotePrintable, hprintable, hquotePrintable, isPrintable_feed, by simp⟩
  · rcases hquote with ⟨rfl, -⟩ | ⟨rfl, -⟩ <;> simp [StartsToken, isBlank, isBreak]
  intro m tokens indents allowsKey next rest hcolumn hnext hrest
  set behind := written ++ quote :: '\n' :: (indentation next ++ rest) with hbehind
  have hwritten : quote :: (written ++ [quote, '\n']) ++ (indentation next ++ rest) =
      quote :: behind := by simp [hbehind]
  obtain ⟨slot, hcandidate, hslot⟩ :=
    exists_addCandidate_eq (quote :: behind) tokens indents allowsKey hcolumn
  obtain ⟨m', hscan, hline⟩ := h.scanQuoted m (indentation next ++ rest)
    (hquote.symm.imp And.left And.left)
  rw [← hbehind] at hscan
  have hadd : addToken ⟨⟨m, quote :: behind⟩, tokens, column :: indents, [none], allowsKey⟩ =
      addQuoted quote style
        ⟨⟨m, quote :: behind⟩, tokens, column :: indents, [none], allowsKey⟩ := by
    have hne : m.column ≠ 0 := by omega
    rcases hquote with ⟨rfl, rfl⟩ | ⟨rfl, rfl⟩ <;>
      simp [addToken, Cursor.seesDocumentMark, hne]
  rw [hwritten, hadd]
  simp only [addQuoted, addPart, hcandidate, bind, Except.bind, hscan, Except.map, pure,
    Except.pure]
  refine ⟨_, rfl, ?_, by simp [hbehind]; omega⟩
  exact atLine_of_lineEnd hrest (by simp [add]) (by simp) (hslot _ (Nat.lt_succ_of_le hline))

lemma isValue_literal (column : Nat) (hprintable : ∀ x ∈ text, isPrintable x) (hne : text ≠ []) :
    IsValue column (literalHeader text ++ '\n' :: (writeLines (column + 2) true text ++
      lastLineEnd text)) (.scalar (String.ofList text) .literal) := by
  refine ⟨?_, fun rest => by simp [literalHeader, StartsToken, isBlank, isBreak], ?_⟩
  · simp only [List.forall_mem_cons, List.forall_mem_append]
    exact ⟨isPrintable_of_mem_literalHeader hne, isPrintable_feed,
      isPrintable_of_mem_writeLines hprintable, isPrintable_of_mem_lastLineEnd⟩
  intro m tokens indents allowsKey next rest hcolumn hnext hrest
  set behind := literalHeader text ++ '\n' :: (writeLines (column + 2) true text ++
    (lastLineEnd text ++ (indentation next ++ rest))) with hbehind
  obtain ⟨m', hscan, hcolumn', hline⟩ :=
    scanBlock_literal (m := m) hprintable hne hnext hrest.goesOn
  obtain ⟨tail, htail⟩ : ∃ tail, behind = '|' :: tail := ⟨_, rfl⟩
  have hadd : addToken ⟨⟨m, behind⟩, tokens, column :: indents, [none], allowsKey⟩ =
      addBlockScalar .literal ⟨⟨m, behind⟩, tokens, column :: indents, [none], allowsKey⟩ := by
    have hcolumnNe : m.column ≠ 0 := by omega
    simp [htail, addToken, Cursor.seesDocumentMark, hcolumnNe, inFlow]
  have hwritten : literalHeader text ++ '\n' :: (writeLines (column + 2) true text ++
      lastLineEnd text) ++ (indentation next ++ rest) = behind := by simp [hbehind]
  rw [← hbehind] at hscan
  rw [hwritten, hadd]
  simp only [addBlockScalar, dropCandidate, bind, Except.bind, indent, decide_true, hscan, pure,
    Except.pure]
  refine ⟨_, rfl, ?_, by simp [hbehind]; omega⟩
  exact atLine_of_startsToken hrest (by simp [add]) (by simp) hcolumn' isLeftBehind_none

/-! ### Texts and words -/

lemma start_of_allowsPlain {tail : List Char} (h : allowsPlain (x :: tail)) :
    isIndicator x = false ∧ (x = '?' ∨ x = ':' ∨ x = '-' → isGap tail = false) := by
  simp only [allowsPlain, hasIndicator, Bool.and_eq_true, Bool.not_eq_true', Bool.or_eq_false_iff,
    Bool.and_eq_false_imp, Bool.or_eq_true, decide_eq_true_eq] at h
  obtain ⟨-, ⟨⟨-, hindicator⟩, hgap⟩, -⟩ := h
  exact ⟨hindicator, fun hx => hgap (by tauto)⟩

/-- A word that allows to be plain is cut off as such. -/
theorem isValue_word {word : String} (h : allowsPlain word.toList) (hne : word ≠ "") :
    IsValue column (word.toList ++ ['\n']) (.scalar word .plain) := by
  have hvalue := isValue_plain column
    (plain_of_allowsPlain h (by simpa using hne)) fun x tail heq => start_of_allowsPlain (heq ▸ h)
  rwa [String.ofList_toList] at hvalue

/-- A text is written in a style that it allows. -/
lemma styleOf_cases (text : String) :
    (styleOf text = .plain ∧ allowsPlain text.toList ∧ text ≠ "") ∨
      (styleOf text = .singleQuoted ∧ allowsSingleQuotes text.toList ∧ '\n' ∉ text.toList) ∨
      styleOf text = .doubleQuoted ∨ (styleOf text = .literal ∧ allowsLines text.toList) := by
  simp only [styleOf, List.contains_eq_mem, decide_eq_true_eq]
  split_ifs with hfeed hlines hplain hsingle
  · simp [hlines]
  · simp
  · have hne : text ≠ "" := by
      rintro rfl
      exact absurd hplain (by decide)
    simp only [Bool.and_eq_true] at hplain
    simp [hplain.2, hne]
  · simp [hsingle, hfeed]
  · simp

/-- The kind of the token of a text. -/
def textKind (text : String) : TokenKind := .scalar text (styleOf text)

/-- What is written of a text is cut off as one token, which holds the text. -/
theorem isValue_writeScalar (column : Nat) (text : String) :
    IsValue column (writeScalar column text) (textKind text) := by
  obtain ⟨hstyle, hplain, hne⟩ | ⟨hstyle, hsingle, hfeed⟩ | hstyle | ⟨hstyle, hlines⟩ :=
    styleOf_cases text
  all_goals simp only [writeScalar, textKind, hstyle]
  · exact isValue_word hplain hne
  · simp only [allowsSingleQuotes, needsEscapes, Bool.and_eq_true, Bool.not_eq_true',
      Bool.or_eq_false_iff, List.any_eq_false] at hsingle
    obtain ⟨⟨hprintable, hspace⟩, hbreak⟩ := hsingle
    have hprintables : ∀ x ∈ text.toList, isPrintable x := fun x hx => by
      simpa using hprintable x hx
    have hvalue := isValue_quoted column (.inl ⟨rfl, rfl⟩)
      (quoted_writeSingleQuoted (Nat.succ_ne_zero (column + 1)) hfeed hprintables hspace hbreak)
      (isPrintable_of_mem_writeSingleQuoted hprintables)
    rwa [String.ofList_toList] at hvalue
  · have hvalue := isValue_quoted column (.inr ⟨rfl, rfl⟩) (quoted_writeDoubleQuoted text.toList)
      (isPrintable_of_mem_writeDoubleQuoted text.toList)
    rwa [String.ofList_toList] at hvalue
  · simp only [allowsLines, needsEscapes, Bool.and_eq_true, Bool.not_eq_true',
      Bool.or_eq_false_iff, List.any_eq_false] at hlines
    obtain ⟨⟨⟨hprintable, -⟩, -⟩, hne⟩ := hlines
    have hvalue := isValue_literal column (fun x hx => by simpa using hprintable x hx)
      (by simpa using hne)
    rw [String.ofList_toList] at hvalue
    simpa [lastLineEnd] using hvalue

end Scan

end NotebookExport.Yaml
