import Mathlib.Data.Bool.AllAny
import NotebookExport.Proofs.Yaml.Values

/-!
# Members of mappings

A key is cut off as a text at first. Only at its colon does it turn out to be a key, and only then
does a block begin in front of it, if none stands at its column. What comes behind the colon is a
value in the same line, a row of texts, or members that stand further to the right: their block ends
where the next line begins, which is known by its column alone.
-/

namespace NotebookExport.Yaml

namespace Scan

variable {s : Scan} {kinds start : List TokenKind} {column : Nat} {indents before : List Nat}
  {behind : List Char} {key : String}

/-! ### Keys -/

/-- A block stands at a column already, or it begins there. -/
inductive Opens (column : Nat) (indents : List Nat) : List Nat → List TokenKind → Prop
  | goesOn : Opens column indents (column :: indents) []
  | begins (h : ∀ d ∈ indents.head?, d < column) : Opens column indents indents [.mappingStart]

lemma Opens.head_le (h : Opens column indents before start) : ∀ d ∈ before.head?, d ≤ column := by
  cases h with
  | goesOn => simp
  | begins h => exact fun d hd => Nat.le_of_lt (h d hd)

lemma insertIdx_length_append {α : Type} (front back : List α) (x : α) :
    (front ++ back).insertIdx front.length x = front ++ x :: back := by
  induction front with
  | nil => rfl
  | cons y front ih => simp [ih]

/-- A block at the column of a key begins in front of the key, if it does not stand there. -/
lemma Opens.exists_beginBlock_eq (h : Opens column indents before start) (c : Cursor) (mark : Mark)
    (tokens behind : List Token) (slot : Option KeyCandidate) (allowsKey : Bool) :
    ∃ tokens' : List Token, tokens'.map Token.kind = tokens.map Token.kind ++ start ∧
      beginBlock .mappingStart column tokens.length mark
          ⟨c, tokens ++ behind, before, [slot], allowsKey⟩ =
        ⟨c, tokens' ++ behind, column :: indents, [slot], allowsKey⟩ := by
  cases h with
  | goesOn => exact ⟨tokens, by simp, by simp [beginBlock, inFlow, indent]⟩
  | begins h =>
    refine ⟨tokens ++ [⟨.mappingStart, mark, mark⟩], by simp, ?_⟩
    have hlt : ¬((column : Int) ≤
        (⟨c, tokens ++ behind, indents, [slot], allowsKey⟩ : Scan).indent) := by
      cases indents with
      | nil => simp [indent]; omega
      | cons d indents =>
        have hd := h d rfl
        simp only [indent]
        omega
    simp [beginBlock, inFlow, hlt, insertIdx_length_append]

/-- A key is cut off as a text at first. -/
lemma exists_addToken_key (hkey : IsKey key.toList) (hbehind : isGap behind) (m : Mark)
    (tokens : List Token) (before : List Nat) : ∃ stop isRequired,
    addToken ⟨⟨m, key.toList ++ ':' :: behind⟩, tokens, before, [none], true⟩ =
      .ok ⟨⟨m.forward key.toList.length, ':' :: behind⟩,
        tokens ++ [⟨.scalar key .plain, m, stop⟩], before,
        [some ⟨isRequired, tokens.length, m⟩], false⟩ := by
  have hscan (limit : Int) := hkey.scanPlain m limit hbehind
  have hcandidate : ∃ isRequired, addCandidate
      ⟨⟨m, key.toList ++ ':' :: behind⟩, tokens, before, [none], true⟩ =
      .ok ⟨⟨m, key.toList ++ ':' :: behind⟩, tokens, before,
        [some ⟨isRequired, tokens.length, m⟩], true⟩ := ⟨_, rfl⟩
  obtain ⟨isRequired, hcandidate⟩ := hcandidate
  obtain ⟨x, tail, htail⟩ := List.exists_cons_of_ne_nil hkey.ne_nil
  have hx : x ∈ key.toList := htail ▸ List.mem_cons_self
  have hne (y : Char) (hy : ¬(y.isAlphanum ∨ y = '_')) : x ≠ y := fun h => hkey.not_mem hy (h ▸ hx)
  have hindicator : isIndicator x = false := by
    have hall : ∀ y ∈ "#,[]\x7b\x7d&*!|>'\"%@\x60".toList, ¬(y.isAlphanum ∨ y = '_') :=
      List.all_iff_forall_prop.mp (by decide +kernel)
    exact Bool.eq_false_iff.mpr fun h => hne x (hall x (List.contains_iff_mem.mp h)) rfl
  have hgap : GoesOn (x :: (tail ++ ':' :: behind)) := goesOn_cons.mpr (hkey.not_white x hx)
  have hmark : x = '?' ∨ x = ':' ∨ x = '-' → isGap (tail ++ ':' :: behind) = false := by
    rintro (h | h | h) <;> exact absurd h (hne _ (by decide))
  refine ⟨m.forward key.toList.length, isRequired, ?_⟩
  rw [htail, List.cons_append] at hscan hcandidate ⊢
  rw [addToken_plain hindicator hgap.isGap_cons hmark
    fun _ => ⟨hne _ (by decide), hne _ (by decide)⟩]
  simp only [addPlain, hcandidate, inFlow, bind, Except.bind, List.length_singleton, Nat.lt_irrefl,
    decide_false, hscan, pure, Except.pure, add, ← htail, String.ofList_toList]

/-- At the colon, a key turns out to be one. -/
lemma Opens.exists_advances (hopens : Opens column indents before start) (hbehind : isGap behind)
    {m : Mark} {length : Nat} (hlength : length ≤ maxKeyLength) (hcolumn : m.column = column)
    (tokens : List Token) (text : String) (stop : Mark) (isRequired : Bool) : ∃ tokens',
    tokens'.map Token.kind =
        tokens.map Token.kind ++ start ++ [.key, .scalar text .plain, .value] ∧
      Advances ⟨⟨m.forward length, ':' :: behind⟩, tokens ++ [⟨.scalar text .plain, m, stop⟩],
          before, [some ⟨isRequired, tokens.length, m⟩], false⟩
        ⟨⟨m.forward (length + 1), behind⟩, tokens', column :: indents, [none], false⟩ := by
  have hstarts : StartsToken (':' :: behind) := by simp [StartsToken, isBlank, isBreak]
  have hstale : dropStale ⟨m.forward length, ':' :: behind⟩ [some ⟨isRequired, tokens.length, m⟩] =
      .ok [some ⟨isRequired, tokens.length, m⟩] := by
    have hnear : ¬(m.index + maxKeyLength < m.index + length) := by omega
    simp [dropStale, Except.bind, hnear]
  obtain ⟨tokens', hkinds, hbegin⟩ := hopens.exists_beginBlock_eq ⟨m.forward length, ':' :: behind⟩
    m tokens [⟨.key, m, m⟩, ⟨.scalar text .plain, m, stop⟩] (some ⟨isRequired, tokens.length, m⟩)
    false
  refine ⟨tokens' ++ [⟨.key, m, m⟩, ⟨.scalar text .plain, m, stop⟩] ++
    [⟨.value, m.forward length, m.forward (length + 1)⟩], by simp [hkinds], ?_⟩
  refine advances_of_prepare (isDone_eq_false rfl (by simp))
    (prepare_spaces hstarts 0 hstale fun d hd => ?_) ?_ (by simp)
  · have hle := hopens.head_le d hd
    simp only [Mark.forward_column]
    omega
  · have hadd : addToken ⟨⟨m.forward length, ':' :: behind⟩,
        tokens ++ [⟨.scalar text .plain, m, stop⟩], before,
        [some ⟨isRequired, tokens.length, m⟩], false⟩ = addValue ⟨⟨m.forward length, ':' :: behind⟩,
        tokens ++ [⟨.scalar text .plain, m, stop⟩], before,
        [some ⟨isRequired, tokens.length, m⟩], false⟩ := by
      simp [addToken, Cursor.seesDocumentMark, hbehind]
    rw [Mark.forward_zero, hadd]
    simp only [addValue, insertIdx_length_append, hcolumn, hbegin, addMark, add, Cursor.skip_cons,
      Mark.forward_forward]

/-- A key and its colon are cut off in front of the value. -/
theorem AtLine.reaches_key (h : s.AtLine kinds before column (key.toList ++ ':' :: behind))
    (hopens : Opens column indents before start) (hkey : IsKey key.toList)
    (hbehind : isGap behind) :
    ∃ m tokens, column < m.column ∧
      tokens.map Token.kind = kinds ++ start ++ [.key, .scalar key .plain, .value] ∧
      s.Reaches ⟨⟨m, behind⟩, tokens, column :: indents, [none], false⟩ := by
  obtain ⟨m, tokens, hcolumn, rfl, hprepare⟩ := h.exists_prepare hopens.head_le
  obtain ⟨stop, isRequired, hadd⟩ := exists_addToken_key hkey hbehind m tokens before
  obtain ⟨tokens', hkinds, hcolon⟩ := hopens.exists_advances hbehind hkey.length_le hcolumn
    tokens key stop isRequired
  have hkeyStep := advances_of_prepare h.isDone hprepare hadd (by
    have hpos : 0 < key.toList.length := List.length_pos_iff.mpr hkey.ne_nil
    have hlength := h.length_le
    simp only [List.length_append, List.length_cons] at hlength ⊢
    omega)
  refine ⟨_, tokens', ?_, hkinds, (Relation.ReflTransGen.single hkeyStep).tail hcolon⟩
  simp only [Mark.forward_column]
  omega

/-! ### Values behind keys and dashes -/

/-- Behind a space, a value is cut off up to the next line. -/
lemma IsValue.reaches {written : List Char} {kind : TokenKind} (h : IsValue column written kind)
    {m : Mark} {tokens : List Token} {allowsKey : Bool} {next : Nat} {rest : List Char}
    (hkinds : tokens.map Token.kind = kinds) (hlast : kinds.getLast? ≠ some .streamEnd)
    (hcolumn : column ≤ m.column) (hnext : next ≤ column) (hrest : StartsToken rest) :
    ∃ s', Reaches ⟨⟨m, ' ' :: (written ++ (indentation next ++ rest))⟩, tokens, column :: indents,
        [none], allowsKey⟩ s' ∧
      s'.AtLine (kinds ++ [kind]) (column :: indents) next rest := by
  obtain ⟨s', hadd, hline, hlength⟩ := h.exists_addToken (m.forward 1) tokens indents allowsKey next
    rest (Nat.lt_succ_of_le hcolumn) hnext hrest
  rw [hkinds] at hline
  refine ⟨s', Relation.ReflTransGen.single ?_, hline⟩
  exact advances_of_prepare (isDone_eq_false hkinds hlast)
    (prepare_spaces (h.startsToken _) 1 isLeftBehind_none.dropStale (by simp; omega)) hadd
    (hlength.trans (by simp))

/-- A text behind a key and its colon is cut up as the value of a member, up to the next line. -/
structure FollowsKey (column : Nat) (written : List Char) (kinds : List TokenKind) : Prop where
  printable : ∀ x ∈ written, isPrintable x
  isGap : ∀ rest, isGap (written ++ rest)
  reaches : ∀ (m : Mark) (tokens : List Token) (found : List TokenKind) (indents : List Nat)
    (next : Nat) (rest : List Char), tokens.map Token.kind = found →
    found.getLast? ≠ some .streamEnd → column < m.column → next ≤ column → StartsToken rest →
    ∃ s', Reaches ⟨⟨m, written ++ (indentation next ++ rest)⟩, tokens, column :: indents, [none],
        false⟩ s' ∧
      s'.AtLine (found ++ kinds) (column :: indents) next rest

lemma IsValue.followsKey {written : List Char} {kind : TokenKind}
    (h : IsValue column written kind) :
    FollowsKey column (' ' :: written) [kind] where
  printable := List.forall_mem_cons.mpr ⟨by decide, h.printable⟩
  isGap _ := rfl
  reaches _ _ _ _ _ _ hkinds hlast hcolumn hnext hrest :=
    h.reaches hkinds hlast (Nat.le_of_lt hcolumn) hnext hrest

/-! ### Members -/

/-- A text is cut up as members of a mapping whose keys stand at a column. -/
def IsMembers (column : Nat) (written : List Char) (kinds : List TokenKind) : Prop :=
  ∃ body, written = indentation column ++ body ∧ (∀ x ∈ body, isPrintable x) ∧
    (∀ rest, StartsToken (body ++ rest)) ∧
    ∀ (s : Scan) (before indents : List Nat) (start found : List TokenKind) (next : Nat)
      (rest : List Char), Opens column indents before start → next ≤ column → StartsToken rest →
      s.AtLine found before column (body ++ (indentation next ++ rest)) →
      ∃ s', s.Reaches s' ∧ s'.AtLine (found ++ start ++ kinds) (column :: indents) next rest

/-- The kinds of the tokens of a member. -/
def memberKinds (key : String) (kinds : List TokenKind) : List TokenKind :=
  [.key, .scalar key .plain, .value] ++ kinds

/-- A key with its value makes up a member. -/
theorem FollowsKey.isMembers {written : List Char} (h : FollowsKey column written kinds)
    (hkey : IsKey key.toList) :
    IsMembers column (writeKey column key ++ written) (memberKinds key kinds) := by
  refine ⟨key.toList ++ ':' :: written, by simp [writeKey], ?_, fun rest => ?_, ?_⟩
  · rw [List.forall_mem_append, List.forall_mem_cons]
    exact ⟨hkey.printable, by decide, h.printable⟩
  · rw [List.append_assoc]
    exact hkey.startsToken
  · intro s before indents start found next rest hopens hnext hrest hline
    rw [List.append_assoc, List.cons_append] at hline
    obtain ⟨m, tokens, hcolumn, hkinds, hkeyReaches⟩ :=
      hline.reaches_key hopens hkey (h.isGap (indentation next ++ rest))
    obtain ⟨s', hreaches, hline'⟩ :=
      h.reaches m tokens _ indents next rest hkinds (by simp) hcolumn hnext hrest
    refine ⟨s', hkeyReaches.trans hreaches, ?_⟩
    simpa [memberKinds] using hline'

/-- Members come after members. -/
theorem IsMembers.append {first second : List Char} {firstKinds secondKinds : List TokenKind}
    (hfirst : IsMembers column first firstKinds) (hsecond : IsMembers column second secondKinds) :
    IsMembers column (first ++ second) (firstKinds ++ secondKinds) := by
  obtain ⟨body, rfl, hprintable, hstarts, hreads⟩ := hfirst
  obtain ⟨body', rfl, hprintable', hstarts', hreads'⟩ := hsecond
  refine ⟨body ++ (indentation column ++ body'), by simp, ?_, fun rest => ?_, ?_⟩
  · rw [List.forall_mem_append, List.forall_mem_append]
    exact ⟨hprintable, fun x => isPrintable_of_mem_indentation, hprintable'⟩
  · rw [List.append_assoc]
    exact hstarts _
  · intro s before indents start found next rest hopens hnext hrest hline
    rw [List.append_assoc, List.append_assoc] at hline
    obtain ⟨s', hreaches, hline'⟩ := hreads s before indents start found column _ hopens
      (Nat.le_refl _) (hstarts' _) hline
    obtain ⟨s'', hreaches', hline''⟩ :=
      hreads' s' _ indents [] _ next rest .goesOn hnext hrest hline'
    refine ⟨s'', hreaches.trans hreaches', ?_⟩
    simpa using hline''

/-- The kinds of the tokens of a mapping further to the right. -/
def sectionKinds (kinds : List TokenKind) : List TokenKind :=
  .mappingStart :: kinds ++ [.blockEnd]

/-- Members further to the right make up a value. -/
lemma IsMembers.followsKey {written : List Char} (h : IsMembers (column + 2) written kinds) :
    FollowsKey column ('\n' :: written) (sectionKinds kinds) where
  printable := by
    obtain ⟨body, rfl, hprintable, -⟩ := h
    rw [List.forall_mem_cons, List.forall_mem_append]
    exact ⟨isPrintable_feed, fun x => isPrintable_of_mem_indentation, hprintable⟩
  isGap _ := rfl
  reaches m tokens found indents next rest hkinds hlast hcolumn hnext hrest := by
    obtain ⟨body, rfl, -, hstarts, hreads⟩ := h
    rw [List.cons_append, List.append_assoc]
    obtain ⟨s', hreaches, hline⟩ := hreads _ _ (column :: indents) _ _ next rest
      (.begins (by simp)) (by omega) hrest
      (atLine_of_lineEnd (hstarts (indentation next ++ rest)) hkinds hlast isLeftBehind_none)
    exact ⟨s', hreaches, by simpa [sectionKinds] using hline.closes (by omega)⟩

/-! ### Rows of texts -/

/-- An empty row is written in one line. -/
lemma followsKey_emptyRow :
    FollowsKey column [' ', '[', ']', '\n'] [.flowSequenceStart, .flowSequenceEnd] where
  printable := List.all_eq_true.mp rfl
  isGap _ := rfl
  reaches m tokens found indents next rest hkinds hlast hcolumn hnext hrest := by
    set behind := '\n' :: (indentation next ++ rest) with hbehind
    set opened := tokens ++ [⟨.flowSequenceStart, m.forward 1, m.forward 2⟩] with hopened
    have hopen : Advances
        ⟨⟨m, ' ' :: '[' :: ']' :: behind⟩, tokens, column :: indents, [none], false⟩
        ⟨⟨m.forward 2, ']' :: behind⟩, opened, column :: indents, [none, none], true⟩ := by
      have hstarts : StartsToken ('[' :: ']' :: behind) := by simp [StartsToken, isBlank, isBreak]
      refine advances_of_prepare (isDone_eq_false hkinds hlast)
        (prepare_spaces hstarts 1 rfl (by simp; omega)) ?_ (by simp)
      simp [addToken, Cursor.seesDocumentMark, beginFlow, addCandidate, addMark, add, bind,
        Except.bind, pure, Except.pure, hopened]
    have hclose : Advances
        ⟨⟨m.forward 2, ']' :: behind⟩, opened, column :: indents, [none, none], true⟩
        ⟨⟨m.forward 3, behind⟩, opened ++ [⟨.flowSequenceEnd, m.forward 2, m.forward 3⟩],
          column :: indents, [none], false⟩ := by
      have hstarts : StartsToken (']' :: behind) := by simp [StartsToken, isBlank, isBreak]
      refine advances_of_prepare (isDone_eq_false rfl (by simp [hopened]))
        (prepare_spaces hstarts 0 rfl (by simp; omega)) ?_ (by simp)
      simp [addToken, Cursor.seesDocumentMark, endFlow, dropCandidate, inFlow, addMark, add, bind,
        Except.bind, pure, Except.pure]
    refine ⟨_, (Relation.ReflTransGen.single hopen).tail hclose, ?_⟩
    exact atLine_of_lineEnd hrest (by simp [hopened, hkinds]) (by simp) isLeftBehind_none

/-- The entries of a row, each in lines of its own. -/
def writeEntries (column : Nat) (texts : List String) : List Char :=
  texts.flatMap fun text => indentation column ++ '-' :: ' ' :: writeScalar column text

/-- The kinds of the tokens of the entries. -/
def entryKinds (texts : List String) : List TokenKind :=
  texts.flatMap fun text => [.sequenceEntry, textKind text]

/-- A dash is cut off in front of the entry. -/
lemma AtLine.advances_dash (h : s.AtLine kinds (column :: indents) column ('-' :: ' ' :: behind)) :
    ∃ m tokens, column ≤ m.column ∧ tokens.map Token.kind = kinds ++ [.sequenceEntry] ∧
      s.Advances ⟨⟨m, ' ' :: behind⟩, tokens, column :: indents, [none], true⟩ := by
  obtain ⟨m, tokens, rfl, rfl, hprepare⟩ := h.exists_prepare (by simp)
  have hadd : addToken ⟨⟨m, '-' :: ' ' :: behind⟩, tokens, m.column :: indents, [none], true⟩ =
      .ok ⟨⟨m.forward 1, ' ' :: behind⟩, tokens ++ [⟨.sequenceEntry, m, m.forward 1⟩],
        m.column :: indents, [none], true⟩ := by
    simp [addToken, Cursor.seesDocumentMark, isGap, isBlank, addSequenceEntry, inFlow,
      beginBlockHere, beginBlock, indent, dropCandidate, addMark, add, bind, Except.bind, pure,
      Except.pure]
  exact ⟨m.forward 1, _, by simp, by simp,
    advances_of_prepare h.isDone hprepare hadd (h.length_le.trans_lt' (by simp))⟩

/-- The entries of a row stand as far to the left as the keys around it. -/
lemma AtLine.reaches_entries {next : Nat} {rest : List Char} (hnext : next ≤ column)
    (hrest : StartsToken rest) {text : String} {texts : List String}
    (h : s.AtLine kinds (column :: indents) column ('-' :: ' ' :: (writeScalar column text ++
      (writeEntries column texts ++ (indentation next ++ rest))))) :
    ∃ s', s.Reaches s' ∧
      s'.AtLine (kinds ++ entryKinds (text :: texts)) (column :: indents) next rest := by
  induction texts generalizing s kinds text with
  | nil =>
    obtain ⟨m, tokens, hcolumn, hkinds, hdash⟩ := h.advances_dash
    obtain ⟨s', hreaches, hline⟩ :=
      (isValue_writeScalar column text).reaches hkinds (by simp) hcolumn hnext hrest
    exact ⟨s', hreaches.head hdash, by simpa [entryKinds] using hline⟩
  | cons text' texts ih =>
    set entry := '-' :: ' ' :: (writeScalar column text' ++
      (writeEntries column texts ++ (indentation next ++ rest))) with hentry
    have hstarts : StartsToken entry := by simp [hentry, StartsToken, isBlank, isBreak]
    have hwritten : writeEntries column (text' :: texts) ++ (indentation next ++ rest) =
        indentation column ++ entry := by simp [writeEntries, hentry]
    rw [hwritten] at h
    obtain ⟨m, tokens, hcolumn, hkinds, hdash⟩ := h.advances_dash
    obtain ⟨s', hreaches, hline⟩ := (isValue_writeScalar column text).reaches hkinds (by simp)
      hcolumn (Nat.le_refl column) hstarts
    obtain ⟨s'', hreaches', hline'⟩ := ih hline
    exact ⟨s'', (hreaches.head hdash).trans hreaches', by simpa [entryKinds] using hline'⟩

/-- The kinds of the tokens of a row of texts. -/
def textsKinds (texts : List String) : List TokenKind :=
  if texts.isEmpty then [.flowSequenceStart, .flowSequenceEnd] else entryKinds texts

lemma followsKey_entries (column : Nat) (text : String) (texts : List String) :
    FollowsKey column ('\n' :: writeEntries column (text :: texts))
      (entryKinds (text :: texts)) where
  printable := by
    have hentry (text : String) :
        ∀ x ∈ indentation column ++ '-' :: ' ' :: writeScalar column text, isPrintable x := by
      rw [List.forall_mem_append, List.forall_mem_cons, List.forall_mem_cons]
      exact ⟨fun x => isPrintable_of_mem_indentation, by decide, by decide,
        (isValue_writeScalar column text).printable⟩
    refine List.forall_mem_cons.mpr ⟨isPrintable_feed, fun x hx => ?_⟩
    obtain ⟨text, -, hx⟩ := List.mem_flatMap.mp hx
    exact hentry text x hx
  isGap _ := rfl
  reaches m tokens found indents next rest hkinds hlast hcolumn hnext hrest := by
    have hwritten : writeEntries column (text :: texts) ++ (indentation next ++ rest) =
        indentation column ++ '-' :: ' ' :: (writeScalar column text ++
          (writeEntries column texts ++ (indentation next ++ rest))) := by simp [writeEntries]
    rw [List.cons_append, hwritten]
    refine (atLine_of_lineEnd ?_ hkinds hlast isLeftBehind_none).reaches_entries hnext hrest
    simp [StartsToken, isBlank, isBreak]

/-! ### What is written -/

theorem isMembers_writeWord (column : Nat) (hkey : IsKey key.toList) {word : String}
    (hword : allowsPlain word.toList) (hne : word ≠ "") :
    IsMembers column (writeWord column key word) (memberKinds key [.scalar word .plain]) := by
  have hvalue : IsValue column (word.toList ++ ['\n']) (.scalar word .plain) :=
    isValue_word hword hne
  simpa [writeWord] using hvalue.followsKey.isMembers hkey

theorem isMembers_writeText (column : Nat) (hkey : IsKey key.toList) (text : String) :
    IsMembers column (writeText column key text) (memberKinds key [textKind text]) :=
  (isValue_writeScalar column text).followsKey.isMembers hkey

theorem isMembers_writeTexts (column : Nat) (hkey : IsKey key.toList) (texts : List String) :
    IsMembers column (writeTexts column key texts) (memberKinds key (textsKinds texts)) := by
  cases texts with
  | nil =>
    have hvalue : FollowsKey column [' ', '[', ']', '\n'] (textsKinds []) := followsKey_emptyRow
    simpa [writeTexts, writeWord] using hvalue.isMembers hkey
  | cons text texts => exact (followsKey_entries column text texts).isMembers hkey

theorem isMembers_writeSection {members : List Char} (hkey : IsKey key.toList)
    (h : IsMembers (column + 2) members kinds) :
    IsMembers column (writeSection column key members) (memberKinds key (sectionKinds kinds)) :=
  h.followsKey.isMembers hkey

end Scan

/-! ### Whole texts -/

lemma isAllowed_of_isPrintable {x : Char} (h : isPrintable x) : Tokens.isAllowed x := by
  simp only [isPrintable, Bool.or_eq_true, Bool.and_eq_true, decide_eq_true_eq] at h
  simp only [Tokens.isAllowed, Bool.or_eq_true, Bool.and_eq_true, decide_eq_true_eq, Char.le_def,
    UInt32.le_iff_toNat_le]
  rcases h with ((h | h) | h) | h
  · have hfeed : x = '\n' := Char.ext (UInt32.toNat_inj.mp h)
    simp [hfeed]
  · exact .inl (.inl (.inl (.inr (by simpa using h))))
  · exact .inl (.inr (by simpa using h.1))
  · exact .inr h

lemma badOffset?_eq_none {text : List Char} (h : ∀ x ∈ text, isPrintable x) :
    Tokens.badOffset? text = none := by
  induction text with
  | nil => rfl
  | cons x text ih =>
    obtain ⟨hx, htext⟩ := List.forall_mem_cons.mp h
    simp [Tokens.badOffset?, isAllowed_of_isPrintable hx, ih htext]

/-- A text of members is cut up as a mapping. -/
theorem Scan.IsMembers.exists_ofText_eq {written : List Char} {kinds : List TokenKind}
    (h : IsMembers 0 written kinds) : ∃ tokens,
      Tokens.ofText (String.ofList written) = ⟨tokens, none⟩ ∧
        tokens.map Token.kind = sectionKinds kinds ++ [.streamEnd] := by
  obtain ⟨body, hwritten, hprintable, hstarts, hreads⟩ := h
  obtain rfl : written = body := hwritten
  have hstart : AtLine (.ofText (written ++ [])) [] [] 0 (written ++ (indentation 0 ++ [])) :=
    atLine_of_startsToken (hstarts []) rfl (by simp) rfl isLeftBehind_none
  obtain ⟨s', hreaches, hline⟩ := hreads _ [] [] _ [] 0 [] (.begins (by simp)) (Nat.le_refl 0)
    (by simp [StartsToken]) hstart
  obtain ⟨fuel, hfuel, hscan⟩ := hreaches.ofScan (Nat.le_refl _)
  obtain ⟨tokens, hdone, hkinds⟩ := hline.ofScan (by simp) (show 2 ≤ fuel by omega)
  refine ⟨tokens, ?_, by simpa [sectionKinds] using hkinds⟩
  rw [List.append_nil] at hscan
  simp only [Tokens.ofText, String.toList_ofList, badOffset?_eq_none hprintable]
  exact hscan.trans hdone

end NotebookExport.Yaml
