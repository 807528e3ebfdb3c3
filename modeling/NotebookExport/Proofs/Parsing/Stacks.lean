import NotebookExport.Proofs.Parsing.GrammarStates
import NotebookExport.Python.Reading

/-!
# Stacks of the parser

A stack holds what has been read: a state, and below it, over a piece each, the stacks from which
the piece leads there. Wherever a state has items, each piece on a way down has been read from the
state below (`IsStep`). So the pieces on a way are what an item of the state says has been read
(`Reaches.hasRead`): a production that goes on like that of the item has been read up to the dot.
-/

namespace NotebookExport.Python

open Text

/-! ### Steps of a stack -/

/-- A way leads into a state with items only over a piece that has been read in the state below. A
piece that may stand anywhere changes nothing. -/
def IsStep (below : State) (way : Option Derivation) (top : State) : Prop :=
  top.isLost ∨ ∃ d, way = some d ∧
    ((d.isExtra ∧ top.IsWithin below) ∨
      (¬d.isExtra ∧ ∃ x, d.label = .symbol x ∧ top.IsWithin (below.successor x)))

lemma IsStep.mono {below top top' : State} {way : Option Derivation} (h : IsStep below way top)
    (hwithin : top'.IsWithin top) : IsStep below way top' := by
  rcases h with hlost | ⟨d, hway, ⟨hextra, htop⟩ | ⟨hmain, x, hlabel, htop⟩⟩
  · exact .inl (State.isLost_of_isWithin hwithin hlost)
  · exact .inr ⟨d, hway, .inl ⟨hextra, hwithin.trans htop⟩⟩
  · exact .inr ⟨d, hway, .inr ⟨hmain, x, hlabel, hwithin.trans htop⟩⟩

lemma IsStep.isLost_of_none {below top : State} (h : IsStep below none top) : top.isLost := by
  rcases h with hlost | ⟨d, hd, -⟩
  · exact hlost
  · cases hd

namespace Stack

/-- Whether all that is on a stack is by the grammar. -/
inductive IsSound : Stack → Prop
  | intro {s : Stack} (hstate : s.state.IsSound)
      (hstep : ∀ way ∈ s.ways, IsStep way.2.state way.1 s.state)
      (hpiece : ∀ way ∈ s.ways, ∀ d ∈ way.1, d.FollowsGrammar)
      (hbelow : ∀ way ∈ s.ways, way.2.IsSound)
      (hbottom : s.ways = [] → ∀ entry ∈ s.state.items, entry.1.dot = 0) : s.IsSound

/-- A way by which a state is reached from a sound stack, over a piece by the grammar. -/
structure IsWay (top : State) (way : Option Derivation × Stack) : Prop where
  step : IsStep way.2.state way.1 top
  piece : ∀ d ∈ way.1, d.FollowsGrammar
  below : way.2.IsSound

variable {s : Stack} {way : Option Derivation × Stack}

lemma isSound_iff :
    s.IsSound ↔ s.state.IsSound ∧ (∀ way ∈ s.ways, IsWay s.state way) ∧
      (s.ways = [] → ∀ entry ∈ s.state.items, entry.1.dot = 0) := by
  constructor
  · intro h
    cases h with
    | intro hstate hstep hpiece hbelow hbottom =>
      exact ⟨hstate, fun way hway => ⟨hstep way hway, hpiece way hway, hbelow way hway⟩, hbottom⟩
  · rintro ⟨hstate, hways, hbottom⟩
    exact ⟨hstate, fun way hway => (hways way hway).step, fun way hway => (hways way hway).piece,
      fun way hway => (hways way hway).below, hbottom⟩

lemma IsSound.state (h : s.IsSound) : s.state.IsSound := (isSound_iff.mp h).1

lemma IsSound.isWay (h : s.IsSound) (hway : way ∈ s.ways) : IsWay s.state way :=
  (isSound_iff.mp h).2.1 way hway

lemma IsSound.dot_eq_zero (h : s.IsSound) (hways : s.ways = []) :
    ∀ entry ∈ s.state.items, entry.1.dot = 0 := (isSound_iff.mp h).2.2 hways

lemma isSound_bottom (id : Nat) (c : Cursor) : (bottom id State.initial c).IsSound := by
  refine isSound_iff.mpr ⟨State.isSound_initial, nofun, ?_⟩
  intro _ entry hentry
  obtain rfl := List.mem_singleton.mp hentry
  rfl

lemma isSound_push {state : State} (hstate : state.IsSound) {d : Option Derivation}
    {below : Stack} (hway : IsWay state (d, below)) (id : Nat) :
    (below.push id d state).IsSound := by
  have hways : (below.push id d state).ways = [(d, below)] := by cases d <;> rfl
  have hown : (below.push id d state).state = state := by cases d <;> rfl
  rw [isSound_iff, hways, hown]
  refine ⟨hstate, ?_, nofun⟩
  intro way hmem
  obtain rfl := List.mem_singleton.mp hmem
  exact hway

/-! ### Ways that are added -/

lemma isSound_foldl_addWay {fuel : Nat} {ways : List (Option Derivation × Stack)}
    (hadd : ∀ {s : Stack} {way}, s.IsSound → IsWay s.state way →
      (addWay fuel s way).IsSound ∧ (addWay fuel s way).state = s.state)
    (hs : s.IsSound) (hways : ∀ way ∈ ways, IsWay s.state way) :
    (ways.foldl (addWay fuel) s).IsSound ∧ (ways.foldl (addWay fuel) s).state = s.state := by
  induction ways generalizing s with
  | nil => exact ⟨hs, rfl⟩
  | cons way ways ih =>
    obtain ⟨hfirst, hown⟩ := hadd hs (hways way List.mem_cons_self)
    obtain ⟨hrest, hstate⟩ := ih hfirst fun other hother => by
      rw [hown]
      exact hways other (List.mem_cons_of_mem way hother)
    exact ⟨hrest, hstate.trans hown⟩

/-- Ways of a stack whose state cannot be told apart are ways to this state, too. -/
lemma IsSound.isWay_of_same (hs : s.IsSound) {top : State} (hsame : top.same s.state)
    (hway : way ∈ s.ways) : IsWay top way :=
  { hs.isWay hway with step := (hs.isWay hway).step.mono (State.isWithin_of_same hsame).1 }

lemma isSound_addWay {fuel : Nat} (hs : s.IsSound) (hway : IsWay s.state way) :
    (addWay fuel s way).IsSound ∧ (addWay fuel s way).state = s.state := by
  induction fuel generalizing s way with
  | zero => exact ⟨hs, rfl⟩
  | succ fuel ih =>
    obtain ⟨d, below⟩ := way
    have hset : ∀ i new, IsWay s.state new → ∀ way ∈ s.ways.set i new, IsWay s.state way := by
      intro i new hnew way hmem
      rcases List.mem_or_eq_of_mem_set hmem with hmem | rfl
      · exact hs.isWay hmem
      · exact hnew
    unfold addWay
    extract_lets weightOf withWays joins
    have hwith : ∀ ways weight progress depth, (∀ way ∈ ways, IsWay s.state way) →
        (ways = [] → s.ways = []) → (withWays ways weight progress depth).IsSound ∧
          (withWays ways weight progress depth).state = s.state := by
      intro ways weight progress depth hways hnone
      exact ⟨isSound_iff.mpr ⟨hs.state, hways, fun h => hs.dot_eq_zero (hnone h)⟩, rfl⟩
    by_cases hid : below.id = s.id
    · rw [if_pos hid]
      exact ⟨hs, rfl⟩
    rw [if_neg hid]
    cases hfind : s.ways.findIdx? joins with
    | none =>
      dsimp only
      split_ifs
      · exact ⟨hs, rfl⟩
      · refine hwith _ _ _ _ ?_ (by simp)
        intro way hmem
        rcases List.mem_append.mp hmem with hmem | hmem
        · exact hs.isWay hmem
        · exact List.mem_singleton.mp hmem ▸ hway
    | some i =>
      dsimp only
      cases hget : s.ways[i]? with
      | none => exact ⟨hs, rfl⟩
      | some entry =>
        obtain ⟨old, oldBelow⟩ := entry
        have hold : IsWay s.state (old, oldBelow) := hs.isWay (List.mem_of_getElem? hget)
        dsimp only
        split_ifs with hsame
        · exact hwith _ _ _ _ (hset i _ hway) (by simp)
        · exact ⟨hs, rfl⟩
        · -- the two ways go on from states that cannot be told apart
          have hjoins : oldBelow.state.same below.state := by
            obtain ⟨hi, hjoin, -⟩ := List.findIdx?_eq_some_iff_getElem.mp hfind
            rw [List.getElem?_eq_getElem hi] at hget
            rw [Option.some.inj hget] at hjoin
            simp only [joins, hsame, Bool.and_eq_true, decide_false, Bool.false_or] at hjoin
            exact hjoin.2.1.1
          obtain ⟨hjoined, hstate⟩ := isSound_foldl_addWay ih hold.below fun way hmem =>
            hway.below.isWay_of_same hjoins hmem
          refine hwith _ _ _ _ (hset i _ ⟨?_, hold.piece, hjoined⟩) (by simp)
          exact hstate ▸ hold.step

/-- Readings that are joined have come to states that cannot be told apart. -/
lemma isSound_join {other : Stack} (hs : s.IsSound) (hother : other.IsSound)
    (hsame : s.state.same other.state) (fuel : Nat) :
    (other.ways.foldl (addWay fuel) s).IsSound :=
  (isSound_foldl_addWay isSound_addWay hs fun _ hmem => hother.isWay_of_same hsame hmem).1

/-! ### Ways down -/

/-- Some steps down a stack: the pieces on the way, the number of those that are not extra, and the
stack below. -/
inductive Reaches (s : Stack) : List Derivation → Nat → Stack → Prop
  | refl : Reaches s [] 0 s
  | extra {parts : List Derivation} {n : Nat} {k : Stack} {d : Derivation} {below : Stack}
      (h : Reaches s parts n k) (hway : (some d, below) ∈ k.ways) (hextra : d.isExtra) :
      Reaches s (d :: parts) n below
  | main {parts : List Derivation} {n : Nat} {k : Stack} {d : Derivation} {below : Stack}
      (h : Reaches s parts n k) (hway : (some d, below) ∈ k.ways) (hmain : ¬d.isExtra) :
      Reaches s (d :: parts) (n + 1) below
  | lost {parts : List Derivation} {n : Nat} {k below : Stack}
      (h : Reaches s parts n k) (hway : (none, below) ∈ k.ways) : Reaches s parts (n + 1) below

namespace Reaches

variable {parts : List Derivation} {n : Nat} {k : Stack}

lemma isSound (h : Reaches s parts n k) (hs : s.IsSound) : k.IsSound := by
  induction h with
  | refl => exact hs
  | extra _ hway _ ih => exact (ih.isWay hway).below
  | main _ hway _ ih => exact (ih.isWay hway).below
  | lost _ hway ih => exact (ih.isWay hway).below

lemma followsGrammar (h : Reaches s parts n k) (hs : s.IsSound) :
    ∀ d ∈ parts, d.FollowsGrammar := by
  induction h with
  | refl => exact nofun
  | extra hk hway _ ih =>
    rw [List.forall_mem_cons]
    exact ⟨((hk.isSound hs).isWay hway).piece _ rfl, ih⟩
  | main hk hway _ ih =>
    rw [List.forall_mem_cons]
    exact ⟨((hk.isSound hs).isWay hway).piece _ rfl, ih⟩
  | lost _ _ ih => exact ih

end Reaches

/-! ### What the ways down say about what has been read -/

/-- The pieces that are not extra, by what they derive. -/
def mainLabels (parts : List Derivation) : List Label :=
  (parts.filter fun part => !part.isExtra).map Derivation.label

lemma mainLabels_cons_extra {d : Derivation} (h : d.isExtra) (parts : List Derivation) :
    mainLabels (d :: parts) = mainLabels parts := by simp [mainLabels, h]

lemma mainLabels_cons_main {d : Derivation} (h : ¬d.isExtra) (parts : List Derivation) :
    mainLabels (d :: parts) = d.label :: mainLabels parts := by simp [mainLabels, h]

lemma mainLabels_append (parts others : List Derivation) :
    mainLabels (parts ++ others) = mainLabels parts ++ mainLabels others := by simp [mainLabels]

lemma mainLabels_eq_nil_iff {parts : List Derivation} :
    mainLabels parts = [] ↔ ∀ d ∈ parts, d.isExtra := by
  simp [mainLabels, List.filter_eq_nil_iff]

/-- What the pieces on a way down from an item are by the grammar: the last steps before the dot of
a production that goes on like that of the item. The way ends at an item that has read the steps
before, unless the production begins right there. -/
def HasRead (item : Item) (parts : List Derivation) (n : Nat) (k : Stack) : Prop :=
  ∃ r : Production, r.IsOfGrammar ∧ item.production.IsLike r item.dot ∧
    mainLabels parts = ((r.steps.take item.dot).drop (item.dot - n)).map Step.label ∧
    ((r ∈ productions ∧ n = item.dot) ∨
      ∃ entry ∈ k.state.items, entry.1.dot = item.dot - n ∧
        entry.1.production.IsLike r (item.dot - n))

/-- One more step in front of those that have been read. -/
lemma map_label_drop_take {steps : List Step} {dot i : Nat} {step : Step} (hle : i < dot)
    (hget : steps[i]? = some step) :
    ((steps.take dot).drop i).map Step.label =
      step.label :: ((steps.take dot).drop (i + 1)).map Step.label := by
  have hcell : (steps.take dot)[i]? = some step := by rw [List.getElem?_take_of_lt hle, hget]
  rw [List.drop_eq_getElem?_toList_append, hcell]
  rfl

/-- A piece in front of what has been read takes up one more step of a production. -/
lemma HasRead.cons_main {item : Item} {parts : List Derivation} {n : Nat} {below : Stack}
    {d : Derivation} {x : Symbol} {r : Production} {entry : Item × TokenSet}
    (hle : n + 1 ≤ item.dot) (hr : item.production.IsLike r item.dot)
    (hlabels : mainLabels parts =
      ((r.steps.take item.dot).drop (item.dot - n)).map Step.label)
    (hsound : below.state.IsSound) (hmain : ¬d.isExtra) (hlabel : d.label = .symbol x)
    (hentry : entry ∈ (below.state.successor x).items) (hdot : entry.1.dot = item.dot - n)
    (hlike : r.IsLike entry.1.production (item.dot - n)) :
    HasRead item (d :: parts) (n + 1) below := by
  obtain ⟨i, hi, ⟨step, hget, hsymbol⟩, hfrom⟩ := hsound.exists_read hentry
  have hnext : item.dot - n = i + 1 := hdot.symm.trans hi
  have hprevious : item.dot - (n + 1) = i := by rw [← Nat.sub_sub, hnext, Nat.add_sub_cancel]
  have hlt : i < item.dot := by
    rw [Nat.lt_iff_add_one_le, ← hnext]
    exact Nat.sub_le item.dot n
  refine ⟨entry.1.production, (hsound.successor x entry hentry).production,
    hr.trans (hlike.mono (Nat.sub_le _ _)), ?_, ?_⟩
  · rw [mainLabels_cons_main hmain, hlabels, hprevious, map_label_drop_take hlt hget,
      hlabel, Step.label, hsymbol, hnext, List.drop_take, List.drop_take, ← hnext, hlike.rest]
  · rw [hprevious]
    rcases hfrom with ⟨hmem, hfirst⟩ | ⟨other, hother, hbefore, hsame⟩
    · refine .inl ⟨hmem, ?_⟩
      rw [← Nat.sub_add_cancel hle, hprevious, hfirst, Nat.zero_add]
    · exact .inr ⟨other, hother, hbefore, hsame ▸ .refl _ _⟩

/-- The pieces on a way down are what the items of the state say. -/
lemma Reaches.hasRead {parts : List Derivation} {n : Nat} {k : Stack} (h : Reaches s parts n k)
    (hs : s.IsSound) {entry : Item × TokenSet} (hentry : entry ∈ s.state.items)
    (hle : n ≤ entry.1.dot) : HasRead entry.1 parts n k := by
  have hstate := hs.state
  induction h with
  | refl =>
    refine ⟨entry.1.production, (hstate entry hentry).production, .refl _ _, ?_,
      .inr ⟨entry, hentry, rfl, .refl _ _⟩⟩
    simp [mainLabels]
  | @extra parts n k d below hk hway hextra ih =>
    obtain ⟨r, hr, hlike, hlabels, hfrom⟩ := ih hle
    refine ⟨r, hr, hlike, ?_, hfrom.imp_right ?_⟩
    · rwa [mainLabels_cons_extra hextra]
    · rintro ⟨other, hother, hdot, hlike'⟩
      have hsound := hk.isSound hs
      rcases (hsound.isWay hway).step with hlost | ⟨d', hd', ⟨-, hwithin⟩ | ⟨hmain, -⟩⟩
      · rw [State.isLost_iff.mp hlost] at hother
        cases hother
      · obtain ⟨third, hthird, hdot', hlike''⟩ :=
          hwithin.exists_like hsound.state
            (hsound.isWay hway).below.state hother
        exact ⟨third, hthird, hdot'.trans hdot, (hdot ▸ hlike'').trans hlike'⟩
      · exact absurd (Option.some.inj hd' ▸ hextra) hmain
  | @main parts n k d below hk hway hmain ih =>
    obtain ⟨r, hr, hlike, hlabels, hfrom⟩ := ih (by omega)
    obtain ⟨other, hother, hdot, hlike'⟩ := hfrom.resolve_left fun h => by omega
    have hsound := hk.isSound hs
    have hbelow := (hsound.isWay hway).below.state
    rcases (hsound.isWay hway).step with hlost | ⟨d', hd', ⟨hextra, -⟩ | ⟨-, x, hlabel, hwithin⟩⟩
    · rw [State.isLost_iff.mp hlost] at hother
      cases hother
    · exact absurd (Option.some.inj hd' ▸ hextra) hmain
    · obtain rfl := Option.some.inj hd'
      obtain ⟨third, hthird, hdot', hlike''⟩ :=
        hwithin.exists_like hsound.state (hbelow.successor x) hother
      exact .cons_main hle hlike hlabels hbelow hmain hlabel hthird (hdot'.trans hdot)
        ((hdot ▸ hlike'').trans hlike').symm
  | @lost parts n k below hk hway ih =>
    obtain ⟨r, hr, hlike, hlabels, hfrom⟩ := ih (by omega)
    obtain ⟨other, hother, -, -⟩ := hfrom.resolve_left fun h => by omega
    have hlost := ((hk.isSound hs).isWay hway).step.isLost_of_none
    rw [State.isLost_iff.mp hlost] at hother
    cases hother

/-! ### Walks of the parser -/

/-- All walks have been made from a stack. -/
def AreWalks (s : Stack) (walks : List (List Derivation × Nat × Stack)) : Prop :=
  ∀ walk ∈ walks, Reaches s walk.1 walk.2.1 walk.2.2

lemma areWalks_self (s : Stack) : AreWalks s [([], 0, s)] := by
  intro walk hwalk
  obtain rfl := List.mem_singleton.mp hwalk
  exact .refl

lemma mem_stepDown {walks : List (List Derivation × Nat × Stack)} {walk}
    (h : walk ∈ stepDown walks) :
    ∃ before ∈ walks, ∃ way ∈ before.2.2.ways, walk =
      match way with
      | (some d, below) => (d :: before.1, if d.isExtra then before.2.1 else before.2.1 + 1, below)
      | (none, below) => (before.1, before.2.1 + 1, below) := by
  have hcases := List.mem_append.mp h
  rcases hcases with h | h
  · obtain ⟨before, hbefore, h⟩ := List.mem_flatMap.mp h
    obtain ⟨way, hway, rfl⟩ := List.mem_map.mp h
    exact ⟨before, hbefore, way, List.mem_of_mem_take hway, rfl⟩
  · obtain ⟨before, hbefore, h⟩ := List.mem_flatMap.mp h
    obtain ⟨way, hway, rfl⟩ := List.mem_map.mp h
    exact ⟨before, hbefore, way, List.mem_of_mem_drop hway, rfl⟩

lemma AreWalks.stepDown {walks : List (List Derivation × Nat × Stack)} (h : AreWalks s walks) :
    AreWalks s (stepDown walks) := by
  intro walk hwalk
  obtain ⟨before, hbefore, ⟨d, below⟩, hway, rfl⟩ := mem_stepDown hwalk
  cases d with
  | none => exact .lost (h before hbefore) hway
  | some d =>
    by_cases hextra : d.isExtra
    · simpa only [hextra, if_true] using Reaches.extra (h before hbefore) hway hextra
    · simpa [hextra] using Reaches.main (h before hbefore) hway hextra

lemma AreWalks.take {walks : List (List Derivation × Nat × Stack)} (h : AreWalks s walks)
    (count : Nat) : AreWalks s (walks.take count) :=
  fun walk hwalk => h walk (List.mem_of_mem_take hwalk)

/-- A way down begins with a piece that is not extra, unless the parser was lost on it. -/
def BeginsInMain (s : Stack) (parts : List Derivation) (n : Nat) : Prop :=
  (∀ d ∈ parts.head?, ¬d.isExtra) ∨
    ∃ later m k, Reaches s later m k ∧ m < n ∧ k.state.isLost

/-- Walks that have not arrived before do so over a piece that is not extra. -/
lemma AreWalks.beginsInMain_stepDown {walks : List (List Derivation × Nat × Stack)} {count : Nat}
    (hs : s.IsSound) (h : AreWalks s walks) (hcount : ∀ walk ∈ walks, walk.2.1 ≠ count) {walk}
    (hwalk : walk ∈ Stack.stepDown walks) (hn : walk.2.1 = count) :
    BeginsInMain s walk.1 count := by
  obtain ⟨before, hbefore, ⟨d, below⟩, hway, rfl⟩ := mem_stepDown hwalk
  have hreaches := h before hbefore
  cases d with
  | none =>
    have hlost := ((hreaches.isSound hs).isWay hway).step.isLost_of_none
    exact .inr ⟨_, _, _, hreaches, hn ▸ Nat.lt_succ_self _, hlost⟩
  | some d =>
    by_cases hextra : d.isExtra
    · simp only [hextra, if_true] at hn
      exact absurd hn (hcount before hbefore)
    · left
      simpa using hextra

lemma mem_pops {count fuel : Nat} {walks : List (List Derivation × Nat × Stack)} {parts below}
    (hs : s.IsSound) (hwalks : AreWalks s walks)
    (hmain : ∀ walk ∈ walks, walk.2.1 = count → BeginsInMain s walk.1 count)
    (h : (parts, below) ∈ pops count fuel walks) :
    Reaches s parts count below ∧ BeginsInMain s parts count := by
  induction fuel generalizing walks with
  | zero => cases h
  | succ fuel ih =>
    rw [pops] at h
    rcases List.mem_append.mp h with h | h
    · obtain ⟨walk, hwalk, heq⟩ := List.mem_map.mp h
      obtain ⟨rfl, rfl⟩ := Prod.mk.inj heq
      obtain ⟨hmem, hn⟩ := List.mem_filter.mp hwalk
      have hcount : walk.2.1 = count := of_decide_eq_true hn
      exact ⟨hcount ▸ hwalks walk hmem, hmain walk hmem hcount⟩
    · split_ifs at h
      · cases h
      · have hothers : AreWalks s (walks.filter fun walk => walk.2.1 ≠ count) :=
          fun walk hwalk => hwalks walk (List.mem_filter.mp hwalk).1
        refine ih (hothers.stepDown.take 64) ?_ h
        intro walk hwalk
        refine hothers.beginsInMain_stepDown hs ?_ (List.mem_of_mem_take hwalk)
        intro other hother
        simpa using (List.mem_filter.mp hother).2

/-- Groups of ways down over a number of pieces, each with a stack to which one of them leads. -/
def AreGroups (s : Stack) (count : Nat) (groups : List (List (List Derivation) × Stack)) : Prop :=
  ∀ group ∈ groups,
    (∀ parts ∈ group.1, ∃ k, Reaches s parts count k ∧ BeginsInMain s parts count) ∧
      ∃ parts, Reaches s parts count group.2

lemma areGroups_popGroups (hs : s.IsSound) (count : Nat) :
    AreGroups s count (s.popGroups count) := by
  have hpops : ∀ entry ∈ pops count (s.depth + 1) [([], 0, s)],
      Reaches s entry.1 count entry.2 ∧ BeginsInMain s entry.1 count := by
    intro entry hentry
    refine mem_pops hs (areWalks_self s) ?_ hentry
    intro walk hwalk _
    obtain rfl := List.mem_singleton.mp hwalk
    exact .inl nofun
  apply List.foldlRecOn (motive := AreGroups s count)
  · exact nofun
  · intro groups hgroups ⟨parts, below⟩ hentry group hgroup
    have hparts := hpops (parts, below) hentry
    dsimp only at hgroup
    split_ifs at hgroup
    · obtain ⟨old, hold, rfl⟩ := List.mem_map.mp hgroup
      obtain ⟨hall, hbelow⟩ := hgroups old hold
      split_ifs
      · refine ⟨?_, hbelow⟩
        rw [List.forall_mem_append]
        exact ⟨hall, by simpa using ⟨⟨below, hparts.1⟩, hparts.2⟩⟩
      · exact ⟨hall, hbelow⟩
    · rcases List.mem_append.mp hgroup with hgroup | hgroup
      · exact hgroups group hgroup
      · obtain rfl := List.mem_singleton.mp hgroup
        refine ⟨?_, parts, hparts.1⟩
        intro other hother
        obtain rfl := List.mem_singleton.mp hother
        exact ⟨below, hparts⟩

/-- The ways to the bottom of a stack. -/
lemma mem_wholeWays {fuel : Nat} {walks : List (List Derivation × Nat × Stack)} {parts}
    (hwalks : AreWalks s walks) (h : parts ∈ wholeWays fuel walks) :
    ∃ n k, Reaches s parts n k ∧ k.ways = [] := by
  induction fuel generalizing walks with
  | zero => cases h
  | succ fuel ih =>
    rw [wholeWays] at h
    rcases List.mem_append.mp h with h | h
    · obtain ⟨walk, hwalk, rfl⟩ := List.mem_map.mp h
      obtain ⟨hmem, hends⟩ := List.mem_filter.mp hwalk
      exact ⟨_, _, hwalks walk hmem, List.isEmpty_iff.mp hends⟩
    · split_ifs at h
      · cases h
      · exact ih (hwalks.stepDown.take 64) h

/-! ### What is closed -/

/-- Whether parts can be closed with a production: they are those of an expansion that says of its
parts what the production says, and the first of them is not extra. -/
def CanClose (q : Production) (parts : List Derivation) : Prop :=
  ∃ e ∈ q.head.expansions, q.steps.map Step.look = e.steps.map Step.look ∧
    mainLabels parts = e.steps.map Step.label ∧ ∀ d ∈ parts.head?, ¬d.isExtra

/-- Over no pieces but extra ones nothing has been read. -/
lemma Reaches.mainLabels_of_zero {parts : List Derivation} {k : Stack} (h : Reaches s parts 0 k) :
    mainLabels parts = [] := by
  generalize hn : 0 = n at h
  induction h with
  | refl => rfl
  | extra _ _ hextra ih => rw [mainLabels_cons_extra hextra, ih hn]
  | main => cases hn
  | lost => cases hn

/-- The pieces over which a production is closed are its parts. -/
lemma canClose_of_mem_reduces (hs : s.IsSound) {q : Production} {token : Token}
    (hq : q ∈ (s.state.decide token).reduces) {parts : List Derivation} {k : Stack}
    (h : Reaches s parts q.steps.length k) (hmain : BeginsInMain s parts q.steps.length) :
    CanClose q parts := by
  rcases State.mem_reduces hq with ⟨entry, hentry, hrest, rfl⟩ | ⟨hmem, hempty⟩
  · have hsound := hs.state entry hentry
    have hdot : entry.1.dot = entry.1.production.steps.length := by
      apply Nat.le_antisymm hsound.le
      rw [hsound.rest, List.drop_eq_nil_iff] at hrest
      exact hrest
    obtain ⟨r, hr, hlike, hlabels, -⟩ := h.hasRead hs hentry (Nat.le_of_eq hdot.symm)
    obtain ⟨e, he, hsteps⟩ := hr.exists_expansion
    refine ⟨e, hlike.head ▸ he, ?_, ?_, ?_⟩
    · rw [hsteps, hlike.looks]
    · rw [hlabels, hsteps, hdot, Nat.sub_self, List.drop_zero, hlike.length_eq, List.take_length]
    · refine hmain.resolve_right ?_
      rintro ⟨later, m, k', hlater, hlt, hlost⟩
      have hle : m < entry.1.dot := hdot ▸ hlt
      obtain ⟨r, -, -, -, hfrom⟩ := hlater.hasRead hs hentry (Nat.le_of_lt hle)
      obtain ⟨other, hother, -⟩ := hfrom.resolve_left fun h => Nat.ne_of_lt hle h.2
      rw [State.isLost_iff.mp hlost] at hother
      cases hother
  · obtain ⟨e, he, hsteps⟩ := Production.IsOfGrammar.exists_expansion (.inl hmem)
    have hlength : q.steps.length = 0 := by rw [hempty, List.length_nil]
    rw [hlength] at h hmain
    refine ⟨e, he, by rw [hsteps], by rw [hsteps, hempty, h.mainLabels_of_zero]; rfl, ?_⟩
    refine hmain.resolve_right ?_
    rintro ⟨later, m, k', -, hlt, -⟩
    exact Nat.not_lt_zero m hlt

/-- A stack on which a text has been read as a whole. -/
structure HasWhole (s : Stack) (entry : Item × TokenSet) : Prop where
  mem : entry ∈ s.state.items
  production : entry.1.production = wholeText
  dot : entry.1.dot = 1

/-- Down from a whole text there is the program, and before it nothing has been read. -/
lemma Reaches.of_whole {entry : Item × TokenSet} (hs : s.IsSound) (hentry : HasWhole s entry)
    {parts : List Derivation} {n : Nat} {k : Stack} (h : Reaches s parts n k) (hle : n ≤ 1) :
    mainLabels parts = ([Label.symbol (.phrase .program)].drop (1 - n)) ∧
      ∃ other ∈ k.state.items, other.1.dot = 1 - n := by
  obtain ⟨r, hr, hlike, hlabels, hfrom⟩ := h.hasRead hs hentry.mem (hentry.dot ▸ hle)
  rw [hentry.production] at hlike
  have hhead : r ∉ productions := by
    intro hmem
    exact Production.head_ne_start_of_mem hmem hlike.head.symm
  obtain rfl := hr.resolve_left hhead
  obtain ⟨other, hother, hdot, -⟩ := hfrom.resolve_left fun h => hhead h.1
  rw [hentry.dot] at hlabels hdot
  exact ⟨hlabels.trans (List.map_drop ..), other, hother, hdot⟩

lemma Reaches.le_one {entry : Item × TokenSet} (hs : s.IsSound) (hentry : HasWhole s entry)
    {parts : List Derivation} {n : Nat} {k : Stack} (h : Reaches s parts n k) : n ≤ 1 := by
  induction h with
  | refl => exact Nat.zero_le 1
  | extra _ _ _ ih => exact ih
  | @main parts n k d below hk hway hmain ih =>
    obtain ⟨-, other, hother, hdot⟩ := hk.of_whole hs hentry ih
    have hsound := hk.isSound hs
    rcases (hsound.isWay hway).step with hlost | ⟨d', hd', ⟨hextra, -⟩ | ⟨-, x, -, hwithin⟩⟩
    · rw [State.isLost_iff.mp hlost] at hother
      cases hother
    · exact absurd (Option.some.inj hd' ▸ hextra) hmain
    · obtain ⟨third, hthird, hsame, -⟩ := hwithin.exists_like hsound.state
        ((hsound.isWay hway).below.state.successor x) hother
      obtain ⟨i, hi, -⟩ := (hsound.isWay hway).below.state.exists_read hthird
      omega
  | @lost parts n k below hk hway ih =>
    obtain ⟨-, other, hother, -⟩ := hk.of_whole hs hentry ih
    have hlost := ((hk.isSound hs).isWay hway).step.isLost_of_none
    rw [State.isLost_iff.mp hlost] at hother
    cases hother

/-- The pieces on a whole way down from an accepted text are a program and extra ones. -/
lemma mainLabels_of_accepts (hs : s.IsSound) {token : Token}
    (haccepts : (s.state.decide token).accepts) {parts : List Derivation} {n : Nat} {k : Stack}
    (h : Reaches s parts n k) (hbottom : k.ways = []) :
    mainLabels parts = [.symbol (.phrase .program)] := by
  obtain ⟨entry, hmem, hrest, hwhole⟩ := State.exists_of_accepts hs.state haccepts
  have hdot : entry.1.dot = 1 := by
    have hsound := hs.state entry hmem
    have hle := hsound.le
    rw [hsound.rest, List.drop_eq_nil_iff] at hrest
    rw [hwhole] at hle hrest
    exact Nat.le_antisymm hle hrest
  have hentry : HasWhole s entry := ⟨hmem, hwhole, hdot⟩
  have hle := h.le_one hs hentry
  obtain ⟨hlabels, other, hother, hbefore⟩ := h.of_whole hs hentry hle
  have hzero := (h.isSound hs).dot_eq_zero hbottom other hother
  obtain rfl : n = 1 := by omega
  exact hlabels

end Stack

end NotebookExport.Python
