import Mathlib.Data.List.Nodup
import NotebookExport.Proofs.TreeShape

/-!
# Items and states of the grammar

A state of the parser stands for what can have been read, and only for what is still to be read it
matters exactly: items that go on in the same way are one, whatever the symbols before the dot
(`Production.IsLike`). What a state has is either carried over from the state before by one symbol
or begun with that symbol (`State.mem_successor`), and all that the parser does in a state comes
from its items (`State.mem_reduces`, `State.exists_of_accepts`).
-/

namespace NotebookExport.Python

/-! ### Productions and their numbers -/

/-- The production of a text as a whole. -/
def wholeText : Production :=
  ⟨productions.length, .start, [⟨.phrase .program, none, .none, none, none⟩], 0⟩

/-- The expansions of the grammar with their heads, in order. -/
def headedExpansions : List (Symbol × Expansion) :=
  Symbol.heads.flatMap fun head => head.expansions.map fun e => (head, e)

lemma productions_eq : productions =
    headedExpansions.zipIdx.map fun ((head, e), id) => ⟨id, head, e.steps, e.weight⟩ := rfl

lemma mem_headedExpansions {head : Symbol} {e : Expansion} (h : (head, e) ∈ headedExpansions) :
    head ∈ Symbol.heads ∧ e ∈ head.expansions := by
  obtain ⟨_, hhead, h⟩ := List.mem_flatMap.mp h
  obtain ⟨_, he, heq⟩ := List.mem_map.mp h
  obtain ⟨rfl, rfl⟩ := Prod.mk.inj heq
  exact ⟨hhead, he⟩

namespace Production

/-- Whether a production is one of the grammar or that of a text as a whole. -/
def IsOfGrammar (q : Production) : Prop := q ∈ productions ∨ q = wholeText

variable {q r : Production}

lemma head_mem_of_mem (h : q ∈ productions) : q.head ∈ Symbol.heads := by
  rw [productions_eq] at h
  obtain ⟨⟨⟨head, e⟩, i⟩, hentry, rfl⟩ := List.mem_map.mp h
  exact (mem_headedExpansions (List.fst_mem_of_mem_zipIdx hentry)).1

lemma head_ne_start_of_mem (h : q ∈ productions) : q.head ≠ .start := by
  have hheads : Symbol.start ∉ Symbol.heads := by decide
  intro hstart
  exact hheads (hstart ▸ head_mem_of_mem h)

/-- The steps of a production are those of an expansion. -/
lemma IsOfGrammar.exists_expansion (h : q.IsOfGrammar) :
    ∃ e ∈ q.head.expansions, e.steps = q.steps := by
  rcases h with h | rfl
  · rw [productions_eq] at h
    obtain ⟨⟨⟨head, e⟩, i⟩, hentry, rfl⟩ := List.mem_map.mp h
    exact ⟨e, (mem_headedExpansions (List.fst_mem_of_mem_zipIdx hentry)).2, rfl⟩
  · exact ⟨_, List.mem_singleton_self _, rfl⟩

/-- A production has the number of its place. -/
lemma getElem?_id (h : q ∈ productions) : productions[q.id]? = some q := by
  rw [productions_eq] at h
  obtain ⟨⟨⟨head, e⟩, i⟩, hentry, rfl⟩ := List.mem_map.mp h
  have hget := List.mk_mem_zipIdx_iff_getElem?.mp hentry
  simp [productions_eq, hget]

lemma id_lt (h : q ∈ productions) : q.id < productions.length :=
  (List.getElem?_eq_some_iff.mp (getElem?_id h)).1

lemma IsOfGrammar.eq_of_id (hq : q.IsOfGrammar) (hr : r.IsOfGrammar) (h : q.id = r.id) :
    q = r := by
  rcases hq with hq | rfl <;> rcases hr with hr | rfl
  · exact Option.some.inj ((getElem?_id hq).symm.trans (h ▸ getElem?_id hr))
  · exact absurd h (Nat.ne_of_lt (id_lt hq))
  · exact absurd h.symm (Nat.ne_of_lt (id_lt hr))
  · rfl

/-! ### Productions that go on alike -/

/-- Two productions go on in the same way behind the dot, and say the same of all their parts. -/
structure IsLike (q r : Production) (dot : Nat) : Prop where
  head : q.head = r.head
  looks : q.steps.map Step.look = r.steps.map Step.look
  rest : q.steps.drop dot = r.steps.drop dot

lemma IsLike.refl (q : Production) (dot : Nat) : q.IsLike q dot := ⟨rfl, rfl, rfl⟩

lemma IsLike.symm {dot : Nat} (h : q.IsLike r dot) : r.IsLike q dot :=
  ⟨h.head.symm, h.looks.symm, h.rest.symm⟩

lemma IsLike.trans {p : Production} {dot : Nat} (h : q.IsLike r dot) (h' : r.IsLike p dot) :
    q.IsLike p dot :=
  ⟨h.head.trans h'.head, h.looks.trans h'.looks, h.rest.trans h'.rest⟩

lemma IsLike.length_eq {dot : Nat} (h : q.IsLike r dot) : q.steps.length = r.steps.length := by
  rw [← List.length_map Step.look, h.looks, List.length_map]

/-- What goes on alike goes on alike further on. -/
lemma IsLike.mono {dot dot' : Nat} (h : q.IsLike r dot) (hle : dot ≤ dot') : q.IsLike r dot' := by
  refine ⟨h.head, h.looks, ?_⟩
  rw [← Nat.add_sub_cancel' hle, ← List.drop_drop, ← List.drop_drop, h.rest]

lemma isLike_of_continuesLike {dot : Nat} (h : q.continuesLike r dot) : q.IsLike r dot := by
  simp only [continuesLike, Bool.and_eq_true, decide_eq_true_eq] at h
  obtain ⟨⟨⟨⟨⟨hhead, -⟩, -⟩, hrest⟩, hlooks⟩, -⟩ := h
  refine ⟨hhead, ?_, hrest⟩
  rw [← List.take_append_drop dot q.steps, ← List.take_append_drop dot r.steps, List.map_append,
    List.map_append, hrest]
  exact congrArg (· ++ _) hlooks

end Production

/-- A list that is ordered by a key is made of the parts with the same key. -/
lemma flatMap_filter_eq {α β : Type} [DecidableEq α] (key : β → α) {keys : List α}
    (hkeys : keys.Nodup) (count : α → Nat) {l : List β}
    (h : l.map key = keys.flatMap fun a => List.replicate (count a) a) :
    (keys.flatMap fun a => l.filter (key · = a)) = l := by
  induction keys generalizing l with
  | nil => exact (List.map_eq_nil_iff.mp h).symm
  | cons a keys ih =>
    obtain ⟨hnew, hkeys⟩ := List.nodup_cons.mp hkeys
    obtain ⟨own, others, rfl, hown, hothers⟩ := List.map_eq_append_iff.mp h
    have hfirst : ∀ b ∈ own, key b = a := by
      intro b hb
      exact List.eq_of_mem_replicate (hown ▸ List.mem_map_of_mem hb)
    have hlater : ∀ b ∈ others, key b ∈ keys := by
      intro b hb
      have hmem : key b ∈ keys.flatMap fun a => List.replicate (count a) a := by
        rw [List.flatMap, ← hothers]
        exact List.mem_map_of_mem hb
      obtain ⟨a', ha', hrep⟩ := List.mem_flatMap.mp hmem
      rw [List.eq_of_mem_replicate hrep]
      exact ha'
    have hself : (own ++ others).filter (key · = a) = own := by
      rw [List.filter_append, List.filter_eq_self.mpr (by simpa using hfirst),
        List.filter_eq_nil_iff.mpr, List.append_nil]
      intro b hb heq
      exact hnew (of_decide_eq_true heq ▸ hlater b hb)
    have hrest : (keys.flatMap fun a' => (own ++ others).filter (key · = a')) =
        keys.flatMap fun a' => others.filter (key · = a') := by
      refine List.flatMap_congr fun a' ha' => ?_
      rw [List.filter_append, List.filter_eq_nil_iff.mpr, List.nil_append]
      intro b hb heq
      exact hnew (hfirst b hb ▸ of_decide_eq_true heq ▸ ha')
    rw [List.flatMap_cons, hself, hrest, ih hkeys hothers]

lemma flatMap_filter_productions :
    (Symbol.heads.flatMap fun head => productions.filter (·.head = head)) = productions := by
  have hchain : (Symbol.heads.map Symbol.index).IsChain (· < ·) := by decide +kernel
  have hnodup : Symbol.heads.Nodup :=
    .of_map Symbol.index (hchain.pairwise.imp Nat.ne_of_lt)
  have hheads : headedExpansions.map Prod.fst =
      Symbol.heads.flatMap fun head => List.replicate head.expansions.length head := by
    simp [headedExpansions, List.map_flatMap, Function.comp_def, List.map_const']
  apply flatMap_filter_eq Production.head hnodup fun head => head.expansions.length
  rw [productions_eq, List.map_map, ← hheads, ← List.zipIdx_map_fst 0 headedExpansions,
    List.map_map]
  simp [Function.comp_def]

namespace Production

/-- The numbers of the productions that stand for one at each of its dots. -/
def alikes (q : Production) : Array Nat :=
  ((List.range (q.steps.length + 1)).map fun dot =>
    (((productions.filter (·.head = q.head)).find? (q.continuesLike · dot)).map
      Production.id).getD q.id).toArray

end Production

lemma firstAlike_eq : firstAlike = (productions.map Production.alikes).toArray := by
  have hlist : (Symbol.heads.flatMap fun head =>
      (productions.filter (·.head = head)).map Production.alikes) =
        productions.map Production.alikes := by
    rw [← List.map_flatMap, flatMap_filter_productions]
  rw [← hlist, firstAlike]
  refine congrArg List.toArray (List.flatMap_congr fun head _ => ?_)
  refine List.map_congr_left fun q hq => ?_
  obtain rfl : q.head = head := by simpa using (List.mem_filter.mp hq).2
  rfl

/-- What stands for a production goes on like it. -/
lemma Production.IsOfGrammar.exists_alike {q : Production} (h : q.IsOfGrammar) (dot : Nat) :
    ∃ r : Production, r.IsOfGrammar ∧ r.id = (firstAlike.getD q.id #[]).getD dot q.id ∧
      q.IsLike r dot := by
  rcases h with h | rfl
  · have hrow : firstAlike.getD q.id #[] = q.alikes := by
      simp [firstAlike_eq, Array.getD_eq_getD_getElem?, getElem?_id h]
    rw [hrow]
    by_cases hdot : dot < q.steps.length + 1
    · have hcell : q.alikes.getD dot q.id =
          (((productions.filter (·.head = q.head)).find? (q.continuesLike · dot)).map
            Production.id).getD q.id := by
        simp [alikes, Array.getD_eq_getD_getElem?, hdot]
      rw [hcell]
      cases hfind : (productions.filter (·.head = q.head)).find? (q.continuesLike · dot) with
      | none => exact ⟨q, .inl h, rfl, .refl q dot⟩
      | some r =>
        have hmem := (List.mem_filter.mp (List.mem_of_find?_eq_some hfind)).1
        exact ⟨r, .inl hmem, rfl, isLike_of_continuesLike (by simpa using List.find?_some hfind)⟩
    · refine ⟨q, .inl h, ?_, .refl q dot⟩
      simp [alikes, Array.getD_eq_getD_getElem?, hdot]
  · have hempty : ∀ id : Nat, (#[] : Array Nat).getD dot id = id := by simp
    have hrow : firstAlike.getD wholeText.id #[] = #[] := by
      simp [firstAlike_eq, Array.getD_eq_getD_getElem?, wholeText]
    exact ⟨wholeText, .inr rfl, by rw [hrow, hempty], .refl wholeText dot⟩

/-! ### Productions by their first symbols -/

/-- The symbol at a place. -/
def Symbol.ofIndex (i : Nat) : Symbol :=
  if i < 128 then .token (.ofNat i)
  else if i < 288 then .phrase (.ofNat (i - 128))
  else if i < 320 then .group (.ofNat (i - 288))
  else .start

/-- No two symbols have the same place. -/
lemma Symbol.index_injective : Function.Injective Symbol.index := by
  apply Function.LeftInverse.injective (g := Symbol.ofIndex)
  intro s
  cases s with
  | token t =>
    have hlt : t.ctorIdx < 128 := by cases t <;> decide
    simp [index, ofIndex, hlt, Token.ofNat_ctorIdx]
  | phrase p =>
    have hlt : p.ctorIdx < 160 := by cases p <;> decide
    have hlt' : 128 + p.ctorIdx < 288 := by omega
    simp [index, ofIndex, hlt', Phrase.ofNat_ctorIdx]
  | group g =>
    have hlt : g.ctorIdx < 32 := by cases g <;> decide
    have hlt' : 288 + g.ctorIdx < 320 := by omega
    have hge : ¬288 + g.ctorIdx < 128 := by omega
    simp [index, ofIndex, hlt', hge, Group.ofNat_ctorIdx]
  | start => rfl

/-- Whether the productions in a table stand at the places of their first symbols. -/
def AreListedByFirst (table : Array (List Production)) : Prop :=
  ∀ i, ∀ q ∈ (table[i]?).getD [],
    q ∈ productions ∧ (q.steps.head?.map fun step => step.symbol.index) = some i

lemma areListedByFirst_productionsFrom : AreListedByFirst productionsFrom := by
  apply List.foldlRecOn
  · intro i q hq
    rw [Array.getElem?_replicate] at hq
    split_ifs at hq <;> cases hq
  · intro table htable q hq i r hr
    split at hr
    · exact htable i r hr
    · next step rest hsteps =>
      rw [Array.getElem?_modify] at hr
      split_ifs at hr with hi
      · subst hi
        cases hget : table[step.symbol.index]? with
        | none => simp [hget] at hr
        | some listed =>
          simp only [hget, Option.map_some, Option.getD_some, List.mem_cons] at hr
          rcases hr with rfl | hr
          · exact ⟨List.mem_reverse.mp hq, by simp [hsteps]⟩
          · exact htable _ r (by simpa [hget] using hr)
      · exact htable i r hr

/-- The productions that are listed for a symbol begin with it. -/
lemma mem_productionsFrom {x : Symbol} {q : Production}
    (h : q ∈ productionsFrom.getD x.index []) :
    q ∈ productions ∧ (q.steps.head?.map Step.symbol) = some x := by
  have hlisted : q ∈ (productionsFrom[x.index]?).getD [] := by
    rwa [← Array.getD_eq_getD_getElem?]
  obtain ⟨hmem, hfirst⟩ := areListedByFirst_productionsFrom x.index q hlisted
  refine ⟨hmem, ?_⟩
  cases hsteps : q.steps.head? with
  | none => simp [hsteps] at hfirst
  | some step =>
    rw [hsteps] at hfirst
    exact congrArg some (Symbol.index_injective (Option.some.inj hfirst))

/-! ### Items -/

namespace Item

/-- Whether an item is a place in a production of the grammar. -/
structure IsSound (item : Item) : Prop where
  production : item.production.IsOfGrammar
  le : item.dot ≤ item.production.steps.length
  rest : item.rest = item.production.steps.drop item.dot
  alike : ∃ r : Production, r.IsOfGrammar ∧ r.id = item.alike ∧
    item.production.IsLike r item.dot

variable {a b item : Item}

lemma same_iff : a.same b ↔ a.alike = b.alike ∧ a.dot = b.dot := by simp [same]

/-- Items that cannot be told apart go on in the same way. -/
lemma IsSound.isLike (ha : a.IsSound) (hb : b.IsSound) (h : a.same b) :
    a.production.IsLike b.production a.dot := by
  obtain ⟨halike, hdot⟩ := same_iff.mp h
  obtain ⟨q, hq, hqid, hlike⟩ := ha.alike
  obtain ⟨r, hr, hrid, hlike'⟩ := hb.alike
  obtain rfl : q = r := hq.eq_of_id hr (by rw [hqid, hrid, halike])
  exact hlike.trans (hdot ▸ hlike').symm

lemma isSound_start {q : Production} (h : q.IsOfGrammar) : q.start.IsSound where
  production := h
  le := Nat.zero_le _
  rest := List.drop_zero.symm
  alike := ⟨q, h, rfl, .refl q 0⟩

lemma IsSound.next?_eq (h : item.IsSound) :
    item.next? = (item.production.steps[item.dot]?).map Step.symbol := by
  rw [next?, h.rest, List.head?_drop]

lemma IsSound.isSound_advance (h : item.IsSound) {x : Symbol} (hnext : item.next? = some x) :
    item.advance.IsSound := by
  have hlt : item.dot < item.production.steps.length := by
    rw [h.next?_eq, Option.map_eq_some_iff] at hnext
    obtain ⟨step, hstep, -⟩ := hnext
    exact (List.getElem?_eq_some_iff.mp hstep).1
  refine ⟨h.production, hlt, ?_, ?_⟩
  · show item.rest.tail = _
    rw [h.rest, List.tail_drop]
    rfl
  · obtain ⟨r, hr, hid, hlike⟩ := h.production.exists_alike (item.dot + 1)
    refine ⟨r, hr, ?_, hlike⟩
    rw [hid, Item.advance]

end Item

/-! ### States -/

namespace State

variable {s t u : State} {x : Symbol} {entry : Item × TokenSet}

/-- Whether all items of a state are places in productions of the grammar. -/
def IsSound (s : State) : Prop := ∀ entry ∈ s.items, entry.1.IsSound

/-- Whether no item of a state can be told apart from all those of another. -/
def IsWithin (s t : State) : Prop := ∀ entry ∈ s.items, ∃ other ∈ t.items, entry.1.same other.1

lemma IsWithin.refl (s : State) : s.IsWithin s :=
  fun entry hentry => ⟨entry, hentry, Item.same_iff.mpr ⟨rfl, rfl⟩⟩

lemma IsWithin.trans (h : s.IsWithin t) (h' : t.IsWithin u) : s.IsWithin u := by
  intro entry hentry
  obtain ⟨other, hother, hsame⟩ := h entry hentry
  obtain ⟨third, hthird, hsame'⟩ := h' other hother
  obtain ⟨halike, hdot⟩ := Item.same_iff.mp hsame
  obtain ⟨halike', hdot'⟩ := Item.same_iff.mp hsame'
  exact ⟨third, hthird, Item.same_iff.mpr ⟨halike.trans halike', hdot.trans hdot'⟩⟩

lemma same_refl (s : State) : s.same s := by
  simp only [same, beq_self_eq_true, Bool.true_and, List.all_eq_true]
  rintro ⟨⟨a, la⟩, b, lb⟩ hmem
  obtain ⟨entry, -, hentry⟩ : ∃ entry ∈ s.items, (entry, entry) = ((a, la), (b, lb)) := by
    rwa [List.zip_eq_zipWith, List.zipWith_self, List.mem_map] at hmem
  cases hentry
  simp [Item.same]

lemma isWithin_of_same (h : s.same t) : s.IsWithin t ∧ t.IsWithin s := by
  simp only [same, Bool.and_eq_true, beq_iff_eq, List.all_eq_true] at h
  obtain ⟨hlength, hall⟩ := h
  constructor
  · intro entry hentry
    obtain ⟨i, hi, rfl⟩ := List.getElem_of_mem hentry
    have hi' : i < t.items.length := hlength ▸ hi
    refine ⟨t.items[i], List.getElem_mem hi', ?_⟩
    have hpair := hall (s.items[i], t.items[i]) (List.mem_iff_getElem.mpr ⟨i, by simp [*], by simp⟩)
    exact hpair.1
  · intro entry hentry
    obtain ⟨i, hi, rfl⟩ := List.getElem_of_mem hentry
    have hi' : i < s.items.length := hlength ▸ hi
    refine ⟨s.items[i], List.getElem_mem hi', ?_⟩
    have hpair := hall (s.items[i], t.items[i]) (List.mem_iff_getElem.mpr ⟨i, by simp [*], by simp⟩)
    obtain ⟨halike, hdot⟩ := Item.same_iff.mp hpair.1
    exact Item.same_iff.mpr ⟨halike.symm, hdot.symm⟩

lemma isLost_iff : s.isLost ↔ s.items = [] := by simp [isLost]

lemma isLost_of_isWithin (h : s.IsWithin t) (ht : t.isLost) : s.isLost := by
  rw [isLost_iff] at ht ⊢
  rw [List.eq_nil_iff_forall_not_mem]
  intro entry hentry
  obtain ⟨other, hother, -⟩ := h entry hentry
  rw [ht] at hother
  cases hother

lemma isSound_initial : initial.IsSound := by
  intro entry hentry
  have hitems : initial.items = [(wholeText.start, .singleton .endOfInput)] := rfl
  rw [hitems] at hentry
  obtain rfl := List.mem_singleton.mp hentry
  have hwhole : wholeText.IsOfGrammar := .inr rfl
  exact Item.isSound_start hwhole

lemma isSound_lost : lost.IsSound := by
  intro entry hentry
  cases hentry

/-- Adding an item changes no items. -/
lemma exists_of_mem_insertItem {items : List (Item × TokenSet)} {new : Item × TokenSet}
    (h : entry ∈ insertItem items new) : ∃ other ∈ new :: items, entry.1 = other.1 := by
  induction items with
  | nil => exact ⟨entry, h, rfl⟩
  | cons first items ih =>
    obtain ⟨item, after⟩ := first
    rw [insertItem] at h
    split_ifs at h
    · rcases List.mem_cons.mp h with rfl | h
      · exact ⟨(item, after), by simp, rfl⟩
      · exact ⟨entry, by simp [h], rfl⟩
    · rcases List.mem_cons.mp h with rfl | h
      · exact ⟨(item, after), by simp, rfl⟩
      · obtain ⟨other, hother, heq⟩ := ih h
        refine ⟨other, ?_, heq⟩
        rcases List.mem_cons.mp hother with rfl | hother
        · exact List.mem_cons_self
        · simp [hother]

lemma exists_of_mem_foldl_insertItem {new items : List (Item × TokenSet)}
    (h : entry ∈ new.foldl insertItem items) :
    ∃ other, (other ∈ new ∨ other ∈ items) ∧ entry.1 = other.1 := by
  induction new generalizing items with
  | nil => exact ⟨entry, .inr h, rfl⟩
  | cons first new ih =>
    obtain ⟨other, hother | hother, heq⟩ := ih h
    · exact ⟨other, .inl (List.mem_cons_of_mem first hother), heq⟩
    · obtain ⟨third, hthird, heq'⟩ := exists_of_mem_insertItem hother
      rcases List.mem_cons.mp hthird with rfl | hthird
      · exact ⟨third, .inl List.mem_cons_self, heq.trans heq'⟩
      · exact ⟨third, .inr hthird, heq.trans heq'⟩

/-- One more production that begins with a symbol, as in `successor`. -/
def begin (s : State) (begun : List (Item × TokenSet) × Option (Symbol × TokenSet))
    (q : Production) : List (Item × TokenSet) × Option (Symbol × TokenSet) :=
  let after := match begun.2 with
    | some (head, after) => if head = q.head then after else s.followersOf q.head
    | none => s.followersOf q.head
  (if after.isEmpty then begun.1 else (q.start.advance, after) :: begun.1, some (q.head, after))

lemma exists_of_mem_begun {qs : List Production} {begun}
    (h : entry ∈ (qs.foldl s.begin begun).1) :
    (∃ q ∈ qs, entry.1 = q.start.advance) ∨ entry ∈ begun.1 := by
  induction qs generalizing begun with
  | nil => exact .inr h
  | cons q qs ih =>
    rcases ih h with ⟨r, hr, heq⟩ | hmem
    · exact .inl ⟨r, List.mem_cons_of_mem q hr, heq⟩
    · simp only [begin] at hmem
      split_ifs at hmem
      · exact .inr hmem
      · rcases List.mem_cons.mp hmem with rfl | hmem
        · exact .inl ⟨q, List.mem_cons_self, rfl⟩
        · exact .inr hmem

/-- The items of the state behind a symbol are those of the state before that have read the symbol,
and those of productions that begin with it. -/
lemma mem_successor (h : entry ∈ (s.successor x).items) :
    (∃ other ∈ s.items, other.1.next? = some x ∧ entry.1 = other.1.advance) ∨
      ∃ q ∈ productions, q.start.next? = some x ∧ entry.1 = q.start.advance := by
  obtain ⟨other, hother, heq⟩ := exists_of_mem_foldl_insertItem h
  rcases List.mem_append.mp (hother.resolve_right List.not_mem_nil) with hread | hbegun
  · left
    obtain ⟨⟨item, after⟩, hitem, hadvance⟩ := List.mem_filterMap.mp hread
    dsimp only at hadvance
    split_ifs at hadvance with hnext
    obtain rfl := Option.some.inj hadvance
    exact ⟨(item, after), hitem, hnext, heq⟩
  · right
    have hbegun := exists_of_mem_begun (s := s) (List.mem_reverse.mp hbegun)
    obtain ⟨q, hq, hbegin⟩ := hbegun.resolve_right List.not_mem_nil
    obtain ⟨hmem, hfirst⟩ := mem_productionsFrom hq
    exact ⟨q, hmem, hfirst, heq.trans hbegin⟩

lemma IsSound.successor (h : s.IsSound) (x : Symbol) : (s.successor x).IsSound := by
  intro entry hentry
  rcases mem_successor hentry with ⟨other, hother, hnext, heq⟩ | ⟨q, hq, hnext, heq⟩
  · exact heq ▸ (h other hother).isSound_advance hnext
  · exact heq ▸ (Item.isSound_start (.inl hq)).isSound_advance hnext

/-- An item behind a symbol has read the symbol last, and comes from an item of the state before
unless its production begins with the symbol. -/
lemma IsSound.exists_read (hs : s.IsSound)
    (h : entry ∈ (s.successor x).items) :
    ∃ i, entry.1.dot = i + 1 ∧
      (∃ step, entry.1.production.steps[i]? = some step ∧ step.symbol = x) ∧
      ((entry.1.production ∈ productions ∧ i = 0) ∨
        ∃ other ∈ s.items, other.1.dot = i ∧ other.1.production = entry.1.production) := by
  rcases mem_successor h with ⟨other, hother, hnext, heq⟩ | ⟨q, hq, hnext, heq⟩
  · rw [(hs other hother).next?_eq, Option.map_eq_some_iff] at hnext
    rw [heq]
    exact ⟨other.1.dot, rfl, hnext, .inr ⟨other, hother, rfl, rfl⟩⟩
  · rw [(Item.isSound_start (.inl hq)).next?_eq, Option.map_eq_some_iff] at hnext
    rw [heq]
    exact ⟨0, rfl, hnext, .inl ⟨hq, rfl⟩⟩

/-- An item of a state that is within another one goes on there, in the same way. -/
lemma IsWithin.exists_like (h : s.IsWithin t) (hs : s.IsSound) (ht : t.IsSound)
    (hentry : entry ∈ s.items) :
    ∃ other ∈ t.items, other.1.dot = entry.1.dot ∧
      other.1.production.IsLike entry.1.production entry.1.dot := by
  obtain ⟨other, hother, hsame⟩ := h entry hentry
  have hdot := (Item.same_iff.mp hsame).2
  exact ⟨other, hother, hdot.symm,
    ((hs entry hentry).isLike (ht other hother) hsame).symm⟩

/-! ### What is done in a state -/

variable {token : Token}

lemma mem_complete (h : entry ∈ s.complete) :
    (entry ∈ s.items ∧ entry.1.rest = []) ∨
      ∃ q ∈ productions, q.steps = [] ∧ entry.1.production = q := by
  rcases List.mem_append.mp h with h | h
  · obtain ⟨hentry, hrest⟩ := List.mem_filter.mp h
    exact .inl ⟨hentry, List.isEmpty_iff.mp hrest⟩
  · obtain ⟨q, hq, heq⟩ := List.mem_filterMap.mp h
    obtain ⟨hmem, hempty⟩ := List.mem_filter.mp hq
    dsimp only at heq
    split_ifs at heq
    obtain rfl := Option.some.inj heq
    exact .inr ⟨q, hmem, List.isEmpty_iff.mp hempty, rfl⟩

/-- Productions are closed, and a text is accepted, only where they are complete; and a token is
read into the state behind it. -/
lemma decide_spec (s : State) (token : Token) :
    (∀ q ∈ (s.decide token).reduces, ∃ entry ∈ s.complete, entry.1.production = q) ∧
      ((s.decide token).accepts → ∃ entry ∈ s.complete, entry.1.production.head = .start) ∧
      ∀ target ∈ (s.decide token).shift, target = s.successor (.token token) := by
  unfold decide
  extract_lets ended accepts closing level tightest reduces readers shift begun tighter looser
  have hended : ∀ item ∈ ended, ∃ entry ∈ s.complete, entry.1 = item := by
    intro item hitem
    obtain ⟨entry, hentry, rfl⟩ := List.mem_map.mp hitem
    exact ⟨entry, (List.mem_filter.mp hentry).1, rfl⟩
  have hreduces : ∀ q ∈ reduces, ∃ entry ∈ s.complete, entry.1.production = q := by
    intro q hq
    obtain ⟨item, hitem, rfl⟩ := List.mem_map.mp hq
    have hclosing := (List.mem_filter.mp (List.mem_filter.mp hitem).1).1
    obtain ⟨entry, hentry, rfl⟩ := hended item hclosing
    exact ⟨entry, hentry, rfl⟩
  have haccepts : accepts → ∃ entry ∈ s.complete, entry.1.production.head = .start := by
    intro h
    obtain ⟨item, hitem, hstart⟩ := List.any_eq_true.mp h
    obtain ⟨entry, hentry, rfl⟩ := hended item hitem
    exact ⟨entry, hentry, of_decide_eq_true hstart⟩
  have hshift : ∀ target ∈ shift, target = s.successor (.token token) := by
    intro target htarget
    exact (Option.some.inj htarget).symm
  split_ifs
  all_goals
    refine ⟨?_, haccepts, ?_⟩
    · first | exact hreduces | exact nofun
    · first | exact hshift | exact nofun

/-- What is closed has been read to its end, or is empty. -/
lemma mem_reduces {q : Production} (h : q ∈ (s.decide token).reduces) :
    (∃ entry ∈ s.items, entry.1.rest = [] ∧ entry.1.production = q) ∨
      q ∈ productions ∧ q.steps = [] := by
  obtain ⟨entry, hentry, rfl⟩ := (s.decide_spec token).1 q h
  rcases mem_complete hentry with ⟨hmem, hrest⟩ | ⟨q, hq, hempty, rfl⟩
  · exact .inl ⟨entry, hmem, hrest, rfl⟩
  · exact .inr ⟨hq, hempty⟩

/-- A text is accepted where it has been read as a whole. -/
lemma exists_of_accepts (hs : s.IsSound) (h : (s.decide token).accepts) :
    ∃ entry ∈ s.items, entry.1.rest = [] ∧ entry.1.production = wholeText := by
  obtain ⟨entry, hentry, hstart⟩ := (s.decide_spec token).2.1 h
  rcases mem_complete hentry with ⟨hmem, hrest⟩ | ⟨q, hq, -, rfl⟩
  · refine ⟨entry, hmem, hrest, (hs entry hmem).production.resolve_left ?_⟩
    intro hq
    exact Production.head_ne_start_of_mem hq hstart
  · exact absurd hstart (Production.head_ne_start_of_mem hq)

lemma eq_successor_of_shift {target : State} (h : (s.decide token).shift = some target) :
    target = s.successor (.token token) :=
  (s.decide_spec token).2.2 target h

end State

/-! ### The end of the text -/

/-- The end of the text is no part of a phrase. -/
lemma Symbol.ne_endOfInput_of_mem {s : Symbol} {e : Expansion} {step : Step}
    (he : e ∈ s.expansions) (hstep : step ∈ e.steps) : step.symbol ≠ .token .endOfInput := by
  have hparts : s.parts.all fun part => part.1 ≠ .token .endOfInput := by
    cases s with
    | token t => rfl
    | phrase p => cases p <;> rfl
    | group g => cases g <;> rfl
    | start => rfl
  exact of_decide_eq_true (List.all_eq_true.mp hparts _ (mem_parts_of_mem he hstep))

namespace State

lemma next?_ne_endOfInput {item : Item} (h : item.IsSound) :
    item.next? ≠ some (.token .endOfInput) := by
  rw [h.next?_eq, ne_eq, Option.map_eq_some_iff]
  rintro ⟨step, hget, hsymbol⟩
  obtain ⟨e, he, hsteps⟩ := h.production.exists_expansion
  have hstep : step ∈ e.steps := hsteps ▸ List.mem_of_getElem? hget
  exact Symbol.ne_endOfInput_of_mem he hstep hsymbol

/-- No phrase goes on behind the end of the text. -/
lemma isLost_successor_endOfInput {s : State} (h : s.IsSound) :
    (s.successor (.token .endOfInput)).isLost := by
  rw [isLost_iff, List.eq_nil_iff_forall_not_mem]
  intro entry hentry
  rcases mem_successor hentry with ⟨other, hother, hnext, -⟩ | ⟨q, hq, hnext, -⟩
  · exact next?_ne_endOfInput (h other hother) hnext
  · exact next?_ne_endOfInput (Item.isSound_start (.inl hq)) hnext

end State

end NotebookExport.Python
