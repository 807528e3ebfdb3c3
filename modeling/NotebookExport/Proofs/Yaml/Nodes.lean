import NotebookExport.Proofs.Yaml.Members
import NotebookExport.Yaml.Document

/-!
# Nodes of written documents

The tokens of what has been written are read as the nodes that were meant: a text as a scalar, a row
of texts as a sequence, and members as a mapping. None of them has a name, so that nothing in the
document refers to anything else.
-/

namespace NotebookExport.Yaml

variable {kinds : List TokenKind} {events : List EventKind} {key : String}

/-! ### Parts of documents -/

/-- The first of some tokens is of the first of their kinds. -/
lemma Token.exists_cons_of_map {part : List Token} {kind : TokenKind}
    (h : part.map Token.kind = kind :: kinds) : ∃ start stop tail,
    part = ⟨kind, start, stop⟩ :: tail ∧ tail.map Token.kind = kinds := by
  obtain ⟨⟨_, start, stop⟩, tail, rfl, rfl, htail⟩ := List.map_eq_cons_iff.mp h
  exact ⟨start, stop, tail, rfl, htail⟩

/-- The only token is of the only kind. -/
lemma Token.exists_singleton_of_map {part : List Token} {kind : TokenKind}
    (h : part.map Token.kind = [kind]) : ∃ start stop, part = [⟨kind, start, stop⟩] := by
  obtain ⟨start, stop, tail, rfl, htail⟩ := exists_cons_of_map h
  exact ⟨start, stop, by rw [List.map_eq_nil_iff.mp htail]⟩

/-- The events are of some kinds, none of them names its node, and none refers to another. -/
def AreEvents (found : List Event) (kinds : List EventKind) : Prop :=
  found.map Event.kind = kinds ∧
    ∀ event ∈ found, event.anchor = none ∧ ∀ name, event.kind ≠ .alias name

lemma AreEvents.append {first second : List Event} {firstKinds secondKinds : List EventKind}
    (hfirst : AreEvents first firstKinds) (hsecond : AreEvents second secondKinds) :
    AreEvents (first ++ second) (firstKinds ++ secondKinds) :=
  ⟨by rw [List.map_append, hfirst.1, hsecond.1],
    List.forall_mem_append.mpr ⟨hfirst.2, hsecond.2⟩⟩

lemma areEvents_singleton {kind : EventKind} (hkind : ∀ name, kind ≠ .alias name) (mark : Mark) :
    AreEvents [⟨kind, mark, none⟩] [kind] := by
  simp [AreEvents, hkind]

/-- The value of a member ends here. -/
def EndsValue (rest : List Token) : Prop :=
  ∃ token behind, rest = token :: behind ∧ (token.kind = .key ∨ token.kind = .blockEnd)

/-- Tokens of some kinds are read as the value of a member, with events of some kinds. -/
structure IsNode (kinds : List TokenKind) (events : List EventKind) : Prop where
  head : ∃ kind tail, kinds = kind :: tail ∧ endsMember kind = false
  read : ∀ (s : Setting) (fuel : Nat) (part rest : List Token), s.isBlock → s.allowsFlush →
    part.map Token.kind = kinds → part.length < fuel → EndsValue rest →
    ∃ found, AreEvents found events ∧ readNode fuel s (part ++ rest) = ⟨found, .ok rest⟩

/-- Tokens of some kinds are read as members of a mapping, with events of some kinds. -/
structure AreMembers (kinds : List TokenKind) (events : List EventKind) : Prop where
  head : ∃ tail, kinds = .key :: tail
  read : ∀ (s : Setting) (start : Mark) (fuel : Nat) (part rest : List Token),
    part.map Token.kind = kinds → part.length < fuel → EndsValue rest →
    ∃ found fuel', AreEvents found events ∧ fuel ≤ part.length + fuel' ∧
      readMembers fuel s start (part ++ rest) =
        Part.andThen ⟨found, .ok rest⟩ (readMembers fuel' s start)

/-! ### Values -/

lemma readNode_scalar (s : Setting) (fuel : Nat) (text : String) (style : ScalarStyle)
    (start stop : Mark) (rest : List Token) :
    readNode (fuel + 1) s (⟨.scalar text style, start, stop⟩ :: rest) =
      ⟨[⟨.scalar ⟨text, style, none⟩, start, none⟩], .ok rest⟩ := by
  simp [readNode, Properties.take, scalarKind]

theorem isNode_scalar (text : String) (style : ScalarStyle) :
    IsNode [.scalar text style] [.scalar ⟨text, style, none⟩] := by
  refine ⟨⟨_, _, rfl, rfl⟩, fun s fuel part rest _ _ hpart hfuel _ => ?_⟩
  obtain ⟨start, stop, rfl⟩ := Token.exists_singleton_of_map hpart
  obtain ⟨fuel, rfl⟩ := Nat.exists_eq_add_one.mpr (Nat.zero_lt_of_lt hfuel)
  exact ⟨_, areEvents_singleton (by simp) _, readNode_scalar s fuel text style start stop rest⟩

theorem isNode_emptyRow :
    IsNode [.flowSequenceStart, .flowSequenceEnd] [.sequenceStart, .sequenceEnd] := by
  refine ⟨⟨_, _, rfl, rfl⟩, fun s fuel part rest _ _ hpart hfuel _ => ?_⟩
  obtain ⟨start, stop, tail, rfl, htail⟩ := Token.exists_cons_of_map hpart
  obtain ⟨start', stop', rfl⟩ := Token.exists_singleton_of_map htail
  obtain ⟨fuel, rfl⟩ : ∃ n, fuel = n + 2 :=
    ⟨fuel - 2, by simp only [List.length_cons] at hfuel; omega⟩
  refine ⟨[⟨.sequenceStart, start, none⟩, ⟨.sequenceEnd, start', none⟩],
    (areEvents_singleton (by simp) _).append (areEvents_singleton (by simp) _), ?_⟩
  simp [readNode, Properties.take, readFlowEntries, Part.andThen, Part.event]

lemma length_entryKinds (texts : List String) :
    (Scan.entryKinds texts).length = 2 * texts.length := by
  simp [Scan.entryKinds, List.length_flatMap, Nat.mul_comm]

lemma readFlushEntries_end (s : Setting) (fuel : Nat) {rest : List Token} (hrest : EndsValue rest) :
    ∃ mark, readFlushEntries (fuel + 1) s rest = ⟨[⟨.sequenceEnd, mark, none⟩], .ok rest⟩ := by
  obtain ⟨⟨kind, start, stop⟩, behind, rfl, hkind⟩ := hrest
  refine ⟨start, ?_⟩
  rcases hkind with hkind | hkind <;> obtain rfl : kind = _ := hkind <;>
    simp [readFlushEntries, Part.event]

/-- The entries of a row are read up to its end. -/
lemma exists_readFlushEntries_eq (texts : List String) {s : Setting} {fuel : Nat}
    {part rest : List Token} (hpart : part.map Token.kind = Scan.entryKinds texts)
    (hfuel : texts.length < fuel) (hrest : EndsValue rest) :
    ∃ found, AreEvents found
        ((texts.map fun text => .scalar ⟨text, styleOf text, none⟩) ++ [.sequenceEnd]) ∧
      readFlushEntries fuel s (part ++ rest) = ⟨found, .ok rest⟩ := by
  induction texts generalizing fuel part with
  | nil =>
    obtain rfl := List.map_eq_nil_iff.mp hpart
    obtain ⟨fuel, rfl⟩ := Nat.exists_eq_add_one.mpr (Nat.zero_lt_of_lt hfuel)
    obtain ⟨mark, hend⟩ := readFlushEntries_end s fuel hrest
    exact ⟨_, areEvents_singleton (by simp) mark, hend⟩
  | cons text texts ih =>
    obtain ⟨start, stop, tail, rfl, htail⟩ := Token.exists_cons_of_map hpart
    obtain ⟨start', stop', tail', rfl, htail'⟩ := Token.exists_cons_of_map htail
    obtain ⟨fuel, rfl⟩ : ∃ n, fuel = n + 2 :=
      ⟨fuel - 2, by simp only [List.length_cons] at hfuel; omega⟩
    obtain ⟨found, hfound, hread⟩ := ih htail' (Nat.lt_of_succ_lt_succ hfuel)
    refine ⟨⟨.scalar ⟨text, styleOf text, none⟩, start', none⟩ :: found,
      (areEvents_singleton (by simp) _).append hfound, ?_⟩
    rw [List.cons_append, List.cons_append, readFlushEntries]
    simp [Scan.textKind, endsMember, readNode_scalar, Part.andThen, hread]

theorem isNode_texts (texts : List String) :
    IsNode (Scan.textsKinds texts)
      (.sequenceStart :: (texts.map fun text => .scalar ⟨text, styleOf text, none⟩) ++
        [.sequenceEnd]) := by
  cases texts with
  | nil => exact isNode_emptyRow
  | cons text texts =>
    refine ⟨⟨_, _, rfl, rfl⟩, fun s fuel part rest _ hflush hpart hfuel hrest => ?_⟩
    have hentries : part.map Token.kind = Scan.entryKinds (text :: texts) := hpart
    obtain ⟨start, stop, tail, rfl, htail⟩ := Token.exists_cons_of_map hpart
    obtain ⟨fuel, rfl⟩ := Nat.exists_eq_add_one.mpr (Nat.zero_lt_of_lt hfuel)
    have hlength : (text :: texts).length < fuel := by
      have hkinds := congrArg List.length hentries
      rw [List.length_map, length_entryKinds] at hkinds
      simp only [List.length_cons] at hkinds hfuel ⊢
      omega
    obtain ⟨found, hfound, hread⟩ :=
      exists_readFlushEntries_eq (text :: texts) (s := s) hentries hlength hrest
    refine ⟨⟨.sequenceStart, start, none⟩ :: found,
      (areEvents_singleton (by simp) _).append hfound, ?_⟩
    simp only [List.cons_append] at hread
    simp [readNode, Properties.take, hflush, Part.andThen, hread]

/-- Members between the marks of a mapping are read as a mapping, whatever comes behind it. -/
lemma AreMembers.exists_readNode_eq (h : AreMembers kinds events) {s : Setting} {fuel : Nat}
    {part : List Token} (rest : List Token) (hblock : s.isBlock)
    (hpart : part.map Token.kind = Scan.sectionKinds kinds) (hfuel : part.length < fuel) :
    ∃ found, AreEvents found (.mappingStart :: events ++ [.mappingEnd]) ∧
      readNode fuel s (part ++ rest) = ⟨found, .ok rest⟩ := by
  obtain ⟨front, last, rfl, hfront, hlast⟩ := List.map_eq_append_iff.mp hpart
  obtain ⟨start, stop, inner, rfl, hinner⟩ := Token.exists_cons_of_map hfront
  obtain ⟨start', stop', rfl⟩ := Token.exists_singleton_of_map hlast
  obtain ⟨fuel, rfl⟩ := Nat.exists_eq_add_one.mpr (Nat.zero_lt_of_lt hfuel)
  simp only [List.length_append, List.length_cons, List.length_nil] at hfuel
  obtain ⟨found, fuel', hfound, hle, hread⟩ := h.read s start fuel inner
    (⟨.blockEnd, start', stop'⟩ :: rest) hinner (by omega) ⟨_, _, rfl, .inr rfl⟩
  obtain ⟨fuel', rfl⟩ : ∃ n, fuel' = n + 1 := ⟨fuel' - 1, by omega⟩
  refine ⟨⟨.mappingStart, start, none⟩ :: (found ++ [⟨.mappingEnd, start', none⟩]), ?_, ?_⟩
  · exact (areEvents_singleton (by simp) start).append
      (hfound.append (areEvents_singleton (by simp) start'))
  · have hopen : readNode (fuel + 1) s (⟨.mappingStart, start, stop⟩ ::
        (inner ++ ⟨.blockEnd, start', stop'⟩ :: rest)) =
        Part.andThen ⟨[⟨.mappingStart, start, none⟩],
          .ok (inner ++ ⟨.blockEnd, start', stop'⟩ :: rest)⟩ (readMembers fuel s start) := by
      simp [readNode, Properties.take, hblock]
    rw [List.append_assoc, List.cons_append, List.singleton_append, hopen]
    simp [Part.andThen, hread, readMembers, Part.event]

theorem AreMembers.isNode (h : AreMembers kinds events) :
    IsNode (Scan.sectionKinds kinds) (.mappingStart :: events ++ [.mappingEnd]) :=
  ⟨⟨_, _, rfl, rfl⟩, fun _ _ _ rest hblock _ hpart hfuel _ =>
    h.exists_readNode_eq rest hblock hpart hfuel⟩

/-! ### Members -/

theorem IsNode.areMembers (h : IsNode kinds events) (key : String) :
    AreMembers (Scan.memberKinds key kinds) (.scalar ⟨key, .plain, none⟩ :: events) := by
  refine ⟨⟨_, rfl⟩, fun s start fuel part rest hpart hfuel hrest => ?_⟩
  obtain ⟨start₁, stop₁, tail₁, rfl, htail₁⟩ := Token.exists_cons_of_map hpart
  obtain ⟨start₂, stop₂, tail₂, rfl, htail₂⟩ := Token.exists_cons_of_map htail₁
  obtain ⟨start₃, stop₃, value, rfl, hvalue⟩ := Token.exists_cons_of_map htail₂
  obtain ⟨fuel, rfl⟩ : ∃ n, fuel = n + 2 :=
    ⟨fuel - 2, by simp only [List.length_cons] at hfuel; omega⟩
  simp only [List.length_cons] at hfuel
  obtain ⟨found, hfound, hread⟩ := h.read s.member fuel value rest rfl rfl hvalue (by omega) hrest
  refine ⟨⟨.scalar ⟨key, .plain, none⟩, start₂, none⟩ :: found, fuel,
    (areEvents_singleton (by simp) _).append hfound, by simp only [List.length_cons]; omega, ?_⟩
  obtain ⟨kind, tail, htail, hends⟩ := h.head
  obtain ⟨start₄, stop₄, value, rfl, -⟩ := Token.exists_cons_of_map (hvalue.trans htail)
  simp only [List.cons_append] at hread ⊢
  have hkey : endsMember (.scalar key .plain) = false := rfl
  rw [readMembers]
  simp [hkey, readNode_scalar, Part.andThen, readMemberValue, hends, hread]

theorem AreMembers.append {firstKinds secondKinds : List TokenKind}
    {firstEvents secondEvents : List EventKind} (hfirst : AreMembers firstKinds firstEvents)
    (hsecond : AreMembers secondKinds secondEvents) :
    AreMembers (firstKinds ++ secondKinds) (firstEvents ++ secondEvents) := by
  obtain ⟨tail, htail⟩ := hfirst.head
  refine ⟨⟨tail ++ secondKinds, by rw [htail, List.cons_append]⟩,
    fun s start fuel part rest hpart hfuel hrest => ?_⟩
  obtain ⟨first, second, rfl, hfirstPart, hsecondPart⟩ := List.map_eq_append_iff.mp hpart
  have hnext : EndsValue (second ++ rest) := by
    obtain ⟨tail', htail'⟩ := hsecond.head
    obtain ⟨start', stop', behind, rfl, -⟩ :=
      Token.exists_cons_of_map (hsecondPart.trans htail')
    exact ⟨_, behind ++ rest, rfl, .inl rfl⟩
  rw [List.length_append] at hfuel
  obtain ⟨found, fuel', hfound, hle, hread⟩ :=
    hfirst.read s start fuel first (second ++ rest) hfirstPart (by omega) hnext
  obtain ⟨found', fuel'', hfound', hle', hread'⟩ :=
    hsecond.read s start fuel' second rest hsecondPart (by omega) hrest
  refine ⟨found ++ found', fuel'', hfound.append hfound', ?_, ?_⟩
  · rw [List.length_append]
    omega
  · rw [List.append_assoc, hread]
    simp [Part.andThen, hread']

/-! ### What is written -/

/-- A text is written as members of a mapping whose keys stand at a column: it is read with events
of some kinds. -/
def IsWritten (column : Nat) (written : List Char) (events : List EventKind) : Prop :=
  ∃ kinds, Scan.IsMembers column written kinds ∧ AreMembers kinds events

section Written

variable {column : Nat} {written : List Char}

/-- The event of a text as a plain key or a word. -/
def wordEvent (word : String) : EventKind := .scalar ⟨word, .plain, none⟩

/-- The event of a text that is written in its style. -/
def textEvent (text : String) : EventKind := .scalar ⟨text, styleOf text, none⟩

theorem isWritten_writeWord (column : Nat) (hkey : IsKey key.toList) {word : String}
    (hword : allowsPlain word.toList) (hne : word ≠ "") :
    IsWritten column (writeWord column key word) [wordEvent key, wordEvent word] :=
  ⟨_, Scan.isMembers_writeWord column hkey hword hne, (isNode_scalar word .plain).areMembers key⟩

theorem isWritten_writeText (column : Nat) (hkey : IsKey key.toList) (text : String) :
    IsWritten column (writeText column key text) [wordEvent key, textEvent text] :=
  ⟨_, Scan.isMembers_writeText column hkey text,
    (isNode_scalar text (styleOf text)).areMembers key⟩

theorem isWritten_writeTexts (column : Nat) (hkey : IsKey key.toList) (texts : List String) :
    IsWritten column (writeTexts column key texts)
      (wordEvent key :: .sequenceStart :: texts.map textEvent ++ [.sequenceEnd]) :=
  ⟨_, Scan.isMembers_writeTexts column hkey texts, (isNode_texts texts).areMembers key⟩

theorem IsWritten.writeSection (h : IsWritten (column + 2) written events)
    (hkey : IsKey key.toList) :
    IsWritten column (writeSection column key written)
      (wordEvent key :: .mappingStart :: events ++ [.mappingEnd]) := by
  obtain ⟨kinds, hmembers, hevents⟩ := h
  exact ⟨_, Scan.isMembers_writeSection hkey hmembers, hevents.isNode.areMembers key⟩

theorem IsWritten.append {first second : List Char} {firstEvents secondEvents : List EventKind}
    (hfirst : IsWritten column first firstEvents) (hsecond : IsWritten column second secondEvents) :
    IsWritten column (first ++ second) (firstEvents ++ secondEvents) := by
  obtain ⟨firstKinds, hfirst, hfirstEvents⟩ := hfirst
  obtain ⟨secondKinds, hsecond, hsecondEvents⟩ := hsecond
  exact ⟨firstKinds ++ secondKinds, hfirst.append hsecond, hfirstEvents.append hsecondEvents⟩

end Written

/-! ### Documents -/

lemma AreEvents.resolve {found : List Event} {events : List EventKind}
    (h : AreEvents found events) (count : Nat) :
    Document.resolve count [] found = (found.map (·, none), none) := by
  obtain ⟨-, hfound⟩ := h
  induction found generalizing count with
  | nil => rfl
  | cons event found ih =>
    obtain ⟨⟨hanchor, hkind⟩, htail⟩ := List.forall_mem_cons.mp hfound
    obtain ⟨kind, mark, anchor⟩ := event
    obtain rfl : anchor = none := hanchor
    cases kind with
    | «alias» name => exact absurd rfl (hkind name)
    | _ => simp [Document.resolve, ih _ htail]

/-- A text of members is read as a document of its own, which is a mapping. -/
theorem IsWritten.exists_document_eq {written : List Char} (h : IsWritten 0 written events) :
    ∃ found, AreEvents found (.mappingStart :: events ++ [.mappingEnd]) ∧
      Document.ofText (String.ofList written) = ⟨found.map (·, none), none, true⟩ := by
  obtain ⟨kinds, hmembers, hevents⟩ := h
  obtain ⟨tokens, htext, htokens⟩ := hmembers.exists_ofText_eq
  obtain ⟨part, behind, rfl, hpart, hbehind⟩ := List.map_eq_append_iff.mp htokens
  obtain ⟨start, stop, rfl⟩ := Token.exists_singleton_of_map hbehind
  set last : Token := ⟨.streamEnd, start, stop⟩
  have hfuel : part.length < 4 * (part ++ [last]).length + 4 := by
    rw [List.length_append]
    omega
  obtain ⟨found, hfound, hread⟩ := hevents.exists_readNode_eq
    (s := ⟨standardHandles, .endOfText, true, false⟩) [last] rfl hpart hfuel
  have hfirst : Document.readFirst .endOfText (part ++ [last]) = ⟨found, .ok [last]⟩ := by
    obtain ⟨start, stop, inner, rfl, -⟩ := Token.exists_cons_of_map hpart
    simp only [List.cons_append, Document.readFirst, Document.readRoot] at hread ⊢
    exact hread
  refine ⟨found, hfound, ?_⟩
  simp [Document.ofText, htext, hfirst, hfound.resolve, Document.isAtEnd, last]

end NotebookExport.Yaml
