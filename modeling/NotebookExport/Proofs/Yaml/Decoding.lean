import NotebookExport.Proofs.Yaml.Nodes
import NotebookExport.Yaml.Decode

/-!
# Decoding what has been written

A decoder takes the events of a value off and gives that value, wherever in a document it stands. A
record is decoded member by member: each member sets its field, and no field is set twice.
-/

namespace NotebookExport.Yaml

/-- The first of some events is of the first of their kinds. -/
lemma Event.exists_cons_of_map {found : List Event} {kind : EventKind} {kinds : List EventKind}
    (h : found.map Event.kind = kind :: kinds) : ∃ mark anchor tail,
    found = ⟨kind, mark, anchor⟩ :: tail ∧ tail.map Event.kind = kinds := by
  obtain ⟨⟨_, mark, anchor⟩, tail, rfl, rfl, htail⟩ := List.map_eq_cons_iff.mp h
  exact ⟨mark, anchor, tail, rfl, htail⟩

/-- The only event is of the only kind. -/
lemma Event.exists_singleton_of_map {found : List Event} {kind : EventKind}
    (h : found.map Event.kind = [kind]) : ∃ mark anchor, found = [⟨kind, mark, anchor⟩] := by
  obtain ⟨mark, anchor, tail, rfl, htail⟩ := exists_cons_of_map h
  exact ⟨mark, anchor, by rw [List.map_eq_nil_iff.mp htail]⟩

variable {α σ : Type} {decode : Decoder α} {kinds : List EventKind} {value : α}

/-- Events of some kinds are decoded to a value, wherever they stand. -/
def Decodes (decode : Decoder α) (kinds : List EventKind) (value : α) : Prop :=
  ∀ (document : Document) (path : Path) (found : List Event) (rest : List (Event × Option Nat)),
    found.map Event.kind = kinds →
    decode ⟨document, path, found.map (·, none) ++ rest⟩ = .ok (value, rest)

namespace Decoder

lemma decodes_ofScalar {expected : String} {read : Scalar → Except Misfit α} {s : Scalar}
    (h : read s = .ok value) : Decodes (ofScalar expected read) [.scalar s] value := by
  intro document path found rest hfound
  obtain ⟨mark, anchor, rfl⟩ := Event.exists_singleton_of_map hfound
  simp [ofScalar, ofEvent, h]

theorem decodes_string (text : String) : Decodes string [textEvent text] text :=
  decodes_ofScalar rfl

theorem decodes_bool {word : String} {b : Bool} (h : bool? word = some b) :
    Decodes bool [wordEvent word] b :=
  decodes_ofScalar (by simp [Scalar.isOpen, h])

theorem decodes_natural32 {word : String} {n : Nat} (h : natural? word.toList = some n)
    (hn : n < Nat.pow 2 32) : Decodes natural32 [wordEvent word] n :=
  decodes_ofScalar (by simp [Scalar.isOpen, h, hn])

/-- What does not stand for nothing is decoded as a value that is there. -/
theorem decodes_optional (h : Decodes decode kinds value)
    (hkinds : (∃ tail, kinds = .mappingStart :: tail) ∨
      ∃ word, kinds = [wordEvent word] ∧ word ≠ "" ∧ isNull word = false) :
    Decodes (optional decode) kinds (some value) := by
  intro document path found rest hfound
  have hdecode := h document path found rest hfound
  obtain ⟨tail, rfl⟩ | ⟨word, rfl, hne, hnull⟩ := hkinds
  all_goals
    obtain ⟨mark, anchor, tail, rfl, -⟩ := Event.exists_cons_of_map hfound
    simp only [List.map_cons, List.cons_append] at hdecode ⊢
  · simp [optional, hdecode, Except.map]
  · simp only [wordEvent] at hdecode ⊢
    simp [optional, hdecode, Except.map, hne, hnull]

/-- The entries of a row are decoded one after the other, up to the end of the row. -/
lemma entries_eq {items : List α} {kinds : α → List EventKind}
    (h : ∀ item ∈ items, Decodes decode (kinds item) item)
    (hkinds : ∀ item ∈ items, ∃ kind tail, kinds item = kind :: tail ∧ kind ≠ .sequenceEnd)
    (document : Document) (path : Path) {found : List Event} (rest : List (Event × Option Nat))
    (hfound : found.map Event.kind = items.flatMap kinds ++ [.sequenceEnd]) {fuel : Nat}
    (hfuel : found.length < fuel) (index : Nat) :
    entries decode fuel index ⟨document, path, found.map (·, none) ++ rest⟩ =
      .ok (items, rest) := by
  induction items generalizing found fuel index with
  | nil =>
    obtain ⟨mark, anchor, rfl⟩ := Event.exists_singleton_of_map hfound
    obtain ⟨fuel, rfl⟩ := Nat.exists_eq_add_one.mpr (Nat.zero_lt_of_lt hfuel)
    simp [entries]
  | cons item items ih =>
    obtain ⟨fuel, rfl⟩ := Nat.exists_eq_add_one.mpr (Nat.zero_lt_of_lt hfuel)
    rw [List.flatMap_cons, List.append_assoc] at hfound
    obtain ⟨first, others, rfl, hfirst, hothers⟩ := List.map_eq_append_iff.mp hfound
    obtain ⟨hitem, hitems⟩ := List.forall_mem_cons.mp h
    obtain ⟨⟨kind, tail, hhead, hne⟩, hheads⟩ := List.forall_mem_cons.mp hkinds
    have hdecode :=
      hitem document (Path.item path index) first (others.map (·, none) ++ rest) hfirst
    obtain ⟨mark, anchor, inner, rfl, -⟩ := Event.exists_cons_of_map (hfirst.trans hhead)
    simp only [List.length_append, List.length_cons] at hfuel
    have hrest := ih hitems hheads hothers (show others.length < fuel by omega) (index + 1)
    rw [List.map_append, List.append_assoc]
    simp only [List.map_cons, List.cons_append] at hdecode ⊢
    rw [entries]
    cases kind with
    | sequenceEnd => exact absurd rfl hne
    | _ => simp [hdecode, hrest, Except.map]

/-- A row is decoded if its entries are. -/
theorem decodes_list {items : List α} {kinds : α → List EventKind}
    (h : ∀ item ∈ items, Decodes decode (kinds item) item)
    (hkinds : ∀ item ∈ items, ∃ kind tail, kinds item = kind :: tail ∧ kind ≠ .sequenceEnd) :
    Decodes (list decode) (.sequenceStart :: items.flatMap kinds ++ [.sequenceEnd]) items := by
  intro document path found rest hfound
  obtain ⟨mark, anchor, tail, rfl, htail⟩ := Event.exists_cons_of_map hfound
  have hfuel : tail.length < (tail.map (·, (none : Option Nat)) ++ rest).length + 1 :=
    Nat.lt_succ_of_le (by simp)
  have hentries := entries_eq h hkinds document path rest htail hfuel 0
  simp only [list, ofEvent, List.map_cons, List.cons_append, hentries, Except.mapError]

theorem decodes_texts (texts : List String) :
    Decodes (list string) (.sequenceStart :: texts.map textEvent ++ [.sequenceEnd]) texts := by
  have hlist : Decodes (list string)
      (.sequenceStart :: (texts.flatMap fun text => [textEvent text]) ++ [.sequenceEnd]) texts :=
    decodes_list (fun text _ => decodes_string text) fun text _ => ⟨_, _, rfl, by simp [textEvent]⟩
  rwa [← List.map_eq_flatMap] at hlist

end Decoder

/-! ### Records -/

namespace RecordForm

variable {form : RecordForm σ}

/-- The member of a field: its name, the kinds of the events of its value, and what it changes. -/
structure Member (σ : Type) where
  name : String
  kinds : List EventKind
  change : σ → σ

/-- The kinds of the events of a member. -/
def Member.allKinds (member : Member σ) : List EventKind :=
  wordEvent member.name :: member.kinds

/-- The kinds of the events of a record with some members. -/
def mappingEvents (members : List (Member σ)) : List EventKind :=
  .mappingStart :: members.flatMap Member.allKinds ++ [.mappingEnd]

lemma key_eq {name : String} (hname : name ∈ form.fields) {document : Document} {path : Path}
    {mark : Mark} {anchor : Option String} {rest : List (Event × Option Nat)} :
    form.key ⟨document, path, (⟨.scalar ⟨name, .plain, none⟩, mark, anchor⟩, none) :: rest⟩ =
      .ok ((name, Path.field path name), rest) := by
  simp [key, Decoder.ofScalar, Decoder.ofEvent, hname, Except.map]

/-- The members of a record are decoded one after the other, up to the end of the record. -/
lemma members_eq {members : List (Member σ)}
    (h : ∀ m ∈ members, m.name ∈ form.fields ∧ Decodes (form.set m.name) m.kinds m.change)
    (document : Document) (path : Path) {found : List Event} (rest : List (Event × Option Nat))
    (hfound : found.map Event.kind = members.flatMap Member.allKinds ++ [.mappingEnd]) {fuel : Nat}
    (hfuel : found.length < fuel) {seen : List String}
    (hnames : (members.map Member.name).Nodup) (hseen : ∀ m ∈ members, m.name ∉ seen) (record : σ) :
    form.members fuel seen record ⟨document, path, found.map (·, none) ++ rest⟩ =
      .ok (members.foldl (fun record m => m.change record) record, rest) := by
  induction members generalizing found fuel seen record with
  | nil =>
    obtain ⟨mark, anchor, rfl⟩ := Event.exists_singleton_of_map hfound
    obtain ⟨fuel, rfl⟩ := Nat.exists_eq_add_one.mpr (Nat.zero_lt_of_lt hfuel)
    simp [RecordForm.members]
  | cons member members ih =>
    obtain ⟨fuel, rfl⟩ := Nat.exists_eq_add_one.mpr (Nat.zero_lt_of_lt hfuel)
    rw [List.flatMap_cons, Member.allKinds, List.cons_append, List.cons_append,
      List.append_assoc] at hfound
    obtain ⟨mark, anchor, tail, rfl, htail⟩ := Event.exists_cons_of_map hfound
    obtain ⟨value, others, rfl, hvalue, hothers⟩ := List.map_eq_append_iff.mp htail
    obtain ⟨⟨hname, hset⟩, hmembers⟩ := List.forall_mem_cons.mp h
    obtain ⟨hnew, hnews⟩ := List.forall_mem_cons.mp hseen
    obtain ⟨hdistinct, hnames⟩ := List.nodup_cons.mp hnames
    have hdecode := hset document (Path.field path member.name) value
      (others.map (·, none) ++ rest) hvalue
    have hnext : ∀ m ∈ members, m.name ∉ member.name :: seen := fun m hm hmem =>
      (List.mem_cons.mp hmem).elim (fun heq => hdistinct (heq ▸ List.mem_map_of_mem hm))
        (hnews m hm)
    simp only [List.length_append, List.length_cons] at hfuel
    have hrest := ih hmembers hothers (show others.length < fuel by omega) hnames hnext
      (member.change record)
    rw [List.map_cons, List.map_append, List.cons_append, List.append_assoc, RecordForm.members]
    simp [wordEvent, key_eq hname, hnew, hdecode, hrest]

/-- A record is decoded if its members are. -/
theorem decodes {members : List (Member σ)}
    (h : ∀ m ∈ members, m.name ∈ form.fields ∧ Decodes (form.set m.name) m.kinds m.change)
    (hnames : (members.map Member.name).Nodup) :
    Decodes form.decode (mappingEvents members)
      (members.foldl (fun record m => m.change record) form.empty) := by
  intro document path found rest hfound
  obtain ⟨mark, anchor, tail, rfl, htail⟩ := Event.exists_cons_of_map hfound
  have hfuel : tail.length < (tail.map (·, (none : Option Nat)) ++ rest).length + 1 :=
    Nat.lt_succ_of_le (by simp)
  have hmembers := members_eq h document path rest htail hfuel hnames
    (fun m _ => List.not_mem_nil) form.empty
  simp only [decode, Decoder.ofEvent, List.map_cons, List.cons_append, hmembers, Except.mapError]

/-- A document that is a record and nothing else gives that record. -/
theorem ofDocument_eq {kinds : List EventKind} {record : σ}
    (h : Decodes form.decode (.mappingStart :: kinds) record) {found : List Event}
    (hfound : found.map Event.kind = .mappingStart :: kinds) :
    form.ofDocument ⟨found.map (·, none), none, true⟩ = .ok record := by
  have hdecode := h ⟨found.map (·, none), none, true⟩ .root found [] hfound
  obtain ⟨mark, anchor, tail, rfl, -⟩ := Event.exists_cons_of_map hfound
  rw [List.append_nil, List.map_cons] at hdecode
  simp [ofDocument, hdecode, Except.map]

end RecordForm

end NotebookExport.Yaml
