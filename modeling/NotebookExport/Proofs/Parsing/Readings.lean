import Mathlib.Data.List.DropRight
import NotebookExport.Proofs.Parsing.Stacks

/-!
# Readings by the grammar

What the parser does to its readings keeps their stacks by the grammar. A reading that is given up
may hold anything, since it is dropped before it is looked at again; so it matters which readings
are live, and that new ones are (`Search.KeepsLive`).
-/

namespace NotebookExport.Python

open Text

/-! ### Derivations that are closed -/

namespace Derivation

lemma splitExtras_spec (parts : List Derivation) :
    (splitExtras parts).1 ++ (splitExtras parts).2 = parts ∧
      (∀ d ∈ (splitExtras parts).2, d.isExtra) ∧
      ∀ d ∈ (splitExtras parts).1.getLast?, ¬d.isExtra := by
  have hfirst : (splitExtras parts).1 = parts.rdropWhile isExtra := by
    have htake : ∀ main extras : List Derivation,
        (main ++ extras).take ((main ++ extras).length - extras.length) = main := by
      simp
    have hown := htake (parts.rdropWhile isExtra) (parts.rtakeWhile isExtra)
    rwa [List.rdropWhile_append_rtakeWhile] at hown
  refine ⟨?_, ?_, ?_⟩
  · rw [hfirst]
    exact List.rdropWhile_append_rtakeWhile
  · intro d hd
    exact List.mem_rtakeWhile_imp hd
  · rw [hfirst]
    intro d hd
    obtain ⟨hne, rfl⟩ := List.mem_getLast?_eq_getLast hd
    exact List.rdropWhile_last_not isExtra parts hne

/-- What is closed with a production that the parts fit is by the grammar. -/
lemma followsGrammar_of_canClose {d : Derivation} {q : Production} {parts : List Derivation}
    (hclose : Stack.CanClose q parts) (hgrammar : ∀ part ∈ parts, part.FollowsGrammar)
    (hlabel : d.label = .symbol q.head) (hproduction : d.info.production = some q)
    (hmain : ¬d.isExtra) (hparts : d.parts = (splitExtras parts).1) : d.FollowsGrammar := by
  obtain ⟨hsplit, hextras, hlast⟩ := splitExtras_spec parts
  obtain ⟨e, he, hlooks, hlabels, hfirst⟩ := hclose
  have hsteps : d.steps = q.steps := by rw [steps, hproduction]; rfl
  refine .expanded hlabel hmain he ⟨?_, ?_, .inr ⟨?_, ?_⟩⟩ ?_
  · rw [hsteps, hlooks]
  · rw [hparts, ← hlabels]
    conv_rhs => rw [← hsplit]
    rw [Stack.mainLabels_append, Stack.mainLabels_eq_nil_iff.mpr hextras, List.append_nil]
    rfl
  · intro part hpart
    rw [hparts] at hpart
    apply hfirst
    rw [← hsplit, List.head?_append, hpart]
    rfl
  · rwa [hparts]
  · intro part hpart
    rw [hparts] at hpart
    exact hgrammar part (hsplit ▸ List.mem_append_left _ hpart)

end Derivation

/-! ### Readings and searches -/

/-- Whether the stack of a reading is by the grammar, unless it is given up. The landmarks are
states that have been on the stack. -/
structure Reading.IsSound (r : Reading) : Prop where
  stack : ¬r.status.isGivenUp → r.stack.IsSound
  landmarks : ∀ l ∈ r.landmarks, l.state.IsSound

lemma Reading.isSound_of_stack {stack : Stack} (h : stack.IsSound) (layout : Layout)
    (progressAtError : Nat) : Reading.IsSound { stack, layout, progressAtError } :=
  ⟨fun _ => h, nofun⟩

namespace Search

/-- Whether all readings are by the grammar, and what has been found. -/
structure IsSound (s : Search) : Prop where
  reading : ∀ r ∈ s.readings, r.IsSound
  finished : ∀ d ∈ s.finished, d.FollowsGrammar

/-- Whether the reading at a place, if there is one, goes on. -/
def IsLiveAt (s : Search) (v : Nat) : Prop :=
  ∀ r, s.readings[v]? = some r → ¬r.status.isGivenUp

/-- No reading is given up from one search to the next, and those that are new go on. -/
def KeepsLive (s t : Search) : Prop := ∀ i, s.IsLiveAt i → t.IsLiveAt i

variable {s t u : Search} {v : Nat} {r : Reading}

lemma IsSound.at (h : s.IsSound) (hr : s.readings[v]? = some r) : r.IsSound :=
  h.reading r (List.mem_of_getElem? hr)

lemma IsSound.stack_at (h : s.IsSound) (hlive : s.IsLiveAt v) (hr : s.readings[v]? = some r) :
    r.stack.IsSound := (h.at hr).stack (hlive r hr)

lemma KeepsLive.refl (s : Search) : s.KeepsLive s := fun _ h => h

lemma KeepsLive.trans (h : s.KeepsLive t) (h' : t.KeepsLive u) : s.KeepsLive u :=
  fun i hi => h' i (h i hi)

/-! ### Changes of single readings -/

lemma exists_of_getElem?_modify {f : Reading → Reading} {i : Nat}
    (h : (s.modify v f).readings[i]? = some r) :
    ∃ old, s.readings[i]? = some old ∧ r = if v = i then f old else old := by
  rw [Search.modify, List.getElem?_modify, Option.map_eq_map, Option.map_eq_some_iff] at h
  obtain ⟨old, hold, rfl⟩ := h
  exact ⟨old, hold, rfl⟩

lemma IsSound.modify (h : s.IsSound) {f : Reading → Reading}
    (hf : ∀ r, s.readings[v]? = some r → (f r).IsSound) : (s.modify v f).IsSound := by
  refine ⟨?_, h.finished⟩
  intro r hr
  obtain ⟨i, hi⟩ := List.mem_iff_getElem?.mp hr
  obtain ⟨old, hold, rfl⟩ := exists_of_getElem?_modify hi
  split_ifs with hv
  · exact hf old (hv ▸ hold)
  · exact h.at hold

lemma keepsLive_modify {f : Reading → Reading} (hf : ∀ r, (f r).status = r.status) (v : Nat) :
    s.KeepsLive (s.modify v f) := by
  intro i hi r hr
  obtain ⟨old, hold, rfl⟩ := exists_of_getElem?_modify hr
  split_ifs
  · rw [hf old]
    exact hi old hold
  · exact hi old hold

lemma IsSound.giveUp (h : s.IsSound) (v : Nat) : (s.giveUp v).IsSound := by
  apply h.modify
  intro r hr
  exact ⟨fun hlive => absurd rfl hlive, (h.at hr).landmarks⟩

lemma IsSound.remove (h : s.IsSound) (v : Nat) : (s.remove v).IsSound :=
  ⟨fun r hr => h.reading r (List.mem_of_mem_eraseIdx hr), h.finished⟩

/-- Behind a reading that is removed the others move up. -/
lemma isLiveAt_remove {i : Nat} (hbefore : i < v → s.IsLiveAt i)
    (hbehind : v ≤ i → s.IsLiveAt (i + 1)) : (s.remove v).IsLiveAt i := by
  intro r hr
  rw [remove, List.getElem?_eraseIdx] at hr
  split_ifs at hr with hlt
  · exact hbefore hlt r hr
  · exact hbehind (Nat.le_of_not_lt hlt) r hr

/-! ### Steps of a reading -/

lemma IsSound.push (h : s.IsSound) {d : Option Derivation} {state : State}
    (hstate : state.IsSound) (hway : ∀ r, s.readings[v]? = some r → ¬r.status.isGivenUp →
      Stack.IsWay state (d, r.stack)) : (s.push v d state).IsSound := by
  have hmodify : (s.modify v fun r =>
      let stack := r.stack.push s.fresh d state
      { r with
        stack
        progressAtError := if d.isNone then stack.progress else r.progressAtError }).IsSound := by
    apply h.modify
    intro r hr
    exact ⟨fun hlive => Stack.isSound_push hstate (hway r hr hlive) _, (h.at hr).landmarks⟩
  exact ⟨hmodify.reading, hmodify.finished⟩

lemma keepsLive_push (s : Search) (v : Nat) (d : Option Derivation) (state : State) :
    s.KeepsLive (s.push v d state) := by
  have hmodify : s.KeepsLive (s.modify v fun r =>
      let stack := r.stack.push s.fresh d state
      { r with
        stack
        progressAtError := if d.isNone then stack.progress else r.progressAtError }) := by
    apply keepsLive_modify
    intro r
    rfl
  exact hmodify

lemma IsSound.shift (h : s.IsSound) {x : Lexeme} {isExtra : Bool} {state : State}
    (hstate : state.IsSound) (hway : ∀ r, s.readings[v]? = some r → ¬r.status.isGivenUp →
      Stack.IsWay state (some (.ofLexeme x isExtra), r.stack)) :
    (s.shift v x isExtra state).IsSound := by
  have hpush := h.push hstate hway
  apply hpush.modify
  intro r hr
  exact ⟨(hpush.at hr).stack, (hpush.at hr).landmarks⟩

/-! ### Readings that are joined -/

lemma not_isGivenUp_of_isActive {status : Status} (h : status.isActive) :
    ¬status.isGivenUp := by
  cases status with
  | active => exact nofun
  | waiting x => exact nofun
  | givenUp => cases h

lemma isSound_join? {a b c : Reading} (ha : a.IsSound) (hb : b.IsSound)
    (h : a.join? b = some c) : c.IsSound ∧ c.status = a.status ∧ a.status.isActive := by
  unfold Reading.join? at h
  split_ifs at h with hjoin
  obtain rfl := Option.some.inj h
  simp only [Reading.canJoin, Bool.and_eq_true] at hjoin
  obtain ⟨⟨⟨⟨⟨hactive, hactive'⟩, -⟩, -⟩, -⟩, hsame⟩ := hjoin
  refine ⟨⟨fun _ => ?_, ha.landmarks⟩, rfl, hactive⟩
  exact Stack.isSound_join (ha.stack (not_isGivenUp_of_isActive hactive))
    (hb.stack (not_isGivenUp_of_isActive hactive')) hsame 64

lemma IsSound.join? (h : s.IsSound) {i j : Nat} (hjoin : s.join? i j = some t) :
    t.IsSound ∧ ∃ r, ¬r.status.isGivenUp ∧ t.readings = (s.readings.set i r).eraseIdx j := by
  unfold Search.join? at hjoin
  split at hjoin
  case h_1 a b ha hb =>
    obtain ⟨r, hr, rfl⟩ := Option.map_eq_some_iff.mp hjoin
    obtain ⟨hsound, hstatus, hactive⟩ := isSound_join? (h.at ha) (h.at hb) hr
    refine ⟨⟨?_, h.finished⟩, r, ?_, rfl⟩
    · intro other hother
      rcases List.mem_or_eq_of_mem_set (List.mem_of_mem_eraseIdx hother) with hmem | rfl
      · exact h.reading other hmem
      · exact hsound
    · rw [hstatus]
      exact not_isGivenUp_of_isActive hactive
  case h_2 => cases hjoin

/-! ### Readings that are added -/

/-- From one search to the next no reading is given up, those that are new go on, and the reading at
a place stays as it is. -/
structure Grows (v : Nat) (s t : Search) : Prop where
  keepsLive : s.KeepsLive t
  length_le : s.readings.length ≤ t.readings.length
  same : ∀ r, s.readings[v]? = some r → t.readings[v]? = some r

lemma Grows.refl (v : Nat) (s : Search) : Grows v s s := ⟨.refl s, Nat.le_refl _, fun _ h => h⟩

lemma Grows.trans (h : Grows v s t) (h' : Grows v t u) : Grows v s u where
  keepsLive := h.keepsLive.trans h'.keepsLive
  length_le := h.length_le.trans h'.length_le
  same r hr := h'.same r (h.same r hr)

/-- Adding a reading that goes on behind the others. -/
lemma IsSound.append (h : s.IsSound) (hr : r.IsSound) (hlive : ¬r.status.isGivenUp)
    (fresh v : Nat) :
    IsSound { s with readings := s.readings ++ [r], fresh } ∧
      Grows v s { s with readings := s.readings ++ [r], fresh } := by
  refine ⟨⟨?_, h.finished⟩, ?_, ?_, ?_⟩
  · rw [List.forall_mem_append]
    exact ⟨h.reading, by simpa using hr⟩
  · intro i hi new hnew
    rw [List.getElem?_append] at hnew
    split_ifs at hnew
    · exact hi new hnew
    · obtain rfl := List.mem_singleton.mp (List.mem_of_getElem? hnew)
      exact hlive
  · exact List.length_append ▸ Nat.le_add_right _ _
  · intro old hold
    rw [List.getElem?_append_left (List.getElem?_eq_some_iff.mp hold).1]
    exact hold

/-- A reading that is added stands behind the others, or is joined with one of them. -/
lemma place_cases (except : Nat) (r : Reading) (i : Nat) (readings : List Reading) :
    insert.place except r i readings = readings ++ [r] ∨
      ∃ k old joined, readings[k]? = some old ∧ i + k ≠ except ∧ old.join? r = some joined ∧
        insert.place except r i readings = readings.set k joined := by
  induction readings generalizing i with
  | nil => exact .inl rfl
  | cons first readings ih =>
    have hnext : insert.place except r (i + 1) readings = readings ++ [r] ∨
        ∃ k old joined, (first :: readings)[k]? = some old ∧ i + k ≠ except ∧
          old.join? r = some joined ∧
          first :: insert.place except r (i + 1) readings = (first :: readings).set k joined := by
      refine (ih (i + 1)).imp_right ?_
      rintro ⟨k, old, joined, hold, hk, hjoin, heq⟩
      refine ⟨k + 1, old, joined, hold, ?_, hjoin, by rw [heq]; rfl⟩
      omega
    have hlater : insert.place except r i (first :: readings) =
          first :: insert.place except r (i + 1) readings →
        insert.place except r i (first :: readings) = first :: readings ++ [r] ∨
          ∃ k old joined, (first :: readings)[k]? = some old ∧ i + k ≠ except ∧
            old.join? r = some joined ∧
            insert.place except r i (first :: readings) = (first :: readings).set k joined := by
      intro heq
      rw [heq]
      exact hnext.imp_left (congrArg (first :: ·))
    rw [insert.place] at hlater ⊢
    split_ifs at hlater ⊢ with hi
    · exact hlater rfl
    · cases hjoin : first.join? r with
      | none =>
        rw [hjoin] at hlater
        exact hlater rfl
      | some joined => exact .inr ⟨0, first, joined, rfl, hi, hjoin, rfl⟩

/-- Adding a reading that goes on. -/
lemma IsSound.insert (h : s.IsSound) (hr : r.IsSound) (hlive : ¬r.status.isGivenUp) (v : Nat) :
    (s.insert v r).IsSound ∧ Grows v s (s.insert v r) := by
  have hreadings : (s.insert v r).readings = insert.place v r 0 s.readings := rfl
  rcases place_cases v r 0 s.readings with heq | ⟨k, old, joined, hold, hk, hjoin, heq⟩
  · rw [Search.insert, heq]
    exact h.append hr hlive s.fresh v
  · rw [heq] at hreadings
    obtain ⟨hsound, hstatus, hactive⟩ := isSound_join? (h.at hold) hr hjoin
    refine ⟨⟨?_, h.finished⟩, ?_, ?_, ?_⟩
    · rw [hreadings]
      intro new hnew
      rcases List.mem_or_eq_of_mem_set hnew with hmem | rfl
      · exact h.reading new hmem
      · exact hsound
    · intro i hi new hnew
      rw [hreadings, List.getElem?_set] at hnew
      split_ifs at hnew
      · obtain rfl := Option.some.inj hnew
        rw [hstatus]
        exact not_isGivenUp_of_isActive hactive
      · exact hi new hnew
    · rw [hreadings, List.length_set]
    · intro new hnew
      have hne : k ≠ v := by omega
      rw [hreadings, List.getElem?_set_ne hne]
      exact hnew

/-! ### Closing -/

/-- Some derivations are put on top of a stack, all over the same state. -/
lemma isSound_foldl_push {ds : List Derivation} {below : Stack} {state : State}
    (hbelow : below.IsSound) (hstate : state.IsSound) (hds : ∀ d ∈ ds, d.FollowsGrammar)
    (hextra : ∀ d ∈ ds, d.isExtra) (hsame : state.IsWithin below.state) (id : Nat) :
    (ds.foldl (fun (stack, id) d => (Stack.push stack id (some d) state, id + 1))
      (below, id)).1.IsSound := by
  induction ds generalizing below id with
  | nil => exact hbelow
  | cons d ds ih =>
    rw [List.forall_mem_cons] at hds hextra
    have hway : Stack.IsWay state (some d, below) :=
      ⟨.inr ⟨d, rfl, .inl ⟨hextra.1, hsame⟩⟩, by simpa using hds.1, hbelow⟩
    exact ih (Stack.isSound_push hstate hway id) hds.2 hextra.2 (.refl state) (id + 1)

lemma foldl_choose_mem {α : Type} (prefers : α → α → Bool) (first : α) (others : List α) :
    others.foldl (fun best other => if prefers best other then other else best) first ∈
      first :: others := by
  induction others generalizing first with
  | nil => exact List.mem_cons_self
  | cons other others ih =>
    have hnext := ih (if prefers first other then other else first)
    rw [List.foldl_cons]
    rcases List.mem_cons.mp hnext with heq | hmem
    · rw [heq]
      split_ifs <;> simp
    · simp [hmem]

/-- A production that is closed over a stack makes a reading that goes on. -/
lemma IsSound.insert_closed (h : s.IsSound) {below : Stack} (hbelow : below.IsSound)
    {q : Production} {parts : List Derivation} (hclose : Stack.CanClose q parts)
    (hgrammar : ∀ part ∈ parts, part.FollowsGrammar) (d : Derivation)
    (hlabel : d.label = .symbol q.head) (hproduction : d.info.production = some q)
    (hmain : ¬d.isExtra) (hparts : d.parts = (Derivation.splitExtras parts).1) (r : Reading) :
    let state := below.state.successor q.head
    let pushed := (d :: (Derivation.splitExtras parts).2).foldl
      (fun (stack, id) d => (Stack.push stack id (some d) state, id + 1)) (below, s.fresh)
    let t : Search := { s with fresh := pushed.2 }
    let new : Reading :=
      { stack := pushed.1, layout := r.layout, progressAtError := r.progressAtError }
    (t.insert v new).IsSound ∧ Grows v s (t.insert v new) := by
  intro state pushed t new
  have hstate : state.IsSound := hbelow.state.successor q.head
  have hown := Derivation.followsGrammar_of_canClose hclose hgrammar hlabel hproduction hmain hparts
  obtain ⟨hsplit, hextra, -⟩ := Derivation.splitExtras_spec parts
  have hfirst : (below.push s.fresh (some d) state).IsSound :=
    Stack.isSound_push hstate
      ⟨.inr ⟨d, rfl, .inr ⟨hmain, q.head, hlabel, .refl state⟩⟩, by simpa using hown, hbelow⟩ _
  have hpushed : pushed.1.IsSound := by
    refine isSound_foldl_push hfirst hstate ?_ hextra (.refl state) _
    intro extra hmem
    exact hgrammar extra (hsplit ▸ List.mem_append_right _ hmem)
  have ht : t.IsSound := ⟨h.reading, h.finished⟩
  have hnew : new.IsSound := Reading.isSound_of_stack hpushed _ _
  obtain ⟨hsound, hgrows⟩ := ht.insert hnew Bool.false_ne_true v
  exact ⟨hsound, hgrows.keepsLive, hgrows.length_le, hgrows.same⟩

/-- Closing a production that has been read adds readings that go on, and changes no others. -/
lemma IsSound.reduce (h : s.IsSound) (hr : s.readings[v]? = some r)
    (hlive : ¬r.status.isGivenUp) {q : Production} {token : Token}
    (hq : q ∈ (r.stack.state.decide token).reduces) :
    (s.reduce v q).IsSound ∧ Grows v s (s.reduce v q) := by
  have hstack := (h.at hr).stack hlive
  unfold Search.reduce
  rw [hr]
  dsimp only
  apply List.foldlRecOn (motive := fun t => t.IsSound ∧ Grows v s t)
  · exact ⟨h, .refl v s⟩
  · rintro t ⟨ht, hgrows⟩ ⟨choices, below⟩ hgroup
    obtain ⟨hchoices, parts, hbelow⟩ := Stack.areGroups_popGroups hstack _ _ hgroup
    have hsound := hbelow.isSound hstack
    dsimp only
    split_ifs
    · exact ⟨ht, hgrows⟩
    · split
      · exact ⟨ht, hgrows⟩
      · next first others hclosed =>
        have hmem := foldl_choose_mem
          (fun best other : Derivation × List Derivation => best.1.prefersSecond other.1)
          first others
        rw [← hclosed] at hmem
        obtain ⟨parts, hparts, hbest⟩ := List.mem_map.mp hmem
        rw [← hbest]
        obtain ⟨k, hreaches, hmain⟩ := hchoices parts hparts
        have hclose := Stack.canClose_of_mem_reduces hstack hq hreaches hmain
        have hgrammar := hreaches.followsGrammar hstack
        apply And.imp_right hgrows.trans
        refine ht.insert_closed hsound hclose hgrammar _ ?_ ?_ ?_ ?_ r
        · rfl
        · rfl
        · exact Bool.false_ne_true
        · rfl

/-- What has come of closing productions for the reading at a place: others may have been added, and
the first of some of them is known. -/
structure HasClosed (v : Nat) (s : Search) (result : Search × Option Nat) : Prop where
  isSound : result.1.IsSound
  grows : Grows v s result.1
  new : ∀ new ∈ result.2, s.readings.length ≤ new ∧ new < result.1.readings.length ∧
    result.1.IsLiveAt new

/-- Closing productions for a reading, one after the other. -/
lemma IsSound.foldl_reduceFrom (h : s.IsSound) (hr : s.readings[v]? = some r)
    (hlive : ¬r.status.isGivenUp) {qs : List Production}
    (hqs : ∀ q ∈ qs, ∃ token, q ∈ (r.stack.state.decide token).reduces) :
    HasClosed v s (qs.foldl (fun (s, last) q =>
      let (s, new) := s.reduceFrom v q
      (s, new.or last)) (s, none)) := by
  apply List.foldlRecOn (motive := HasClosed v s)
  · exact ⟨h, .refl v s, nofun⟩
  · rintro ⟨t, last⟩ ⟨hsound, hgrows, hlast⟩ q hq
    obtain ⟨token, hreduces⟩ := hqs q hq
    obtain ⟨hnext, hgrows'⟩ := hsound.reduce (hgrows.same r hr) hlive hreduces
    refine ⟨hnext, hgrows.trans hgrows', ?_⟩
    intro new hnew
    rcases Option.or_eq_some_iff.mp hnew with hnew | ⟨-, hnew⟩
    · have hnew : (if t.readings.length < (t.reduce v q).readings.length
          then some t.readings.length else none) = some new := hnew
      split_ifs at hnew with hlt
      obtain rfl := Option.some.inj hnew
      refine ⟨hgrows.length_le, hlt, hgrows'.keepsLive _ ?_⟩
      -- nothing stood there before
      intro r hr
      rw [List.getElem?_eq_none (Nat.le_refl _)] at hr
      cases hr
    · obtain ⟨hle, hlt, hlive⟩ := hlast new hnew
      exact ⟨hle, Nat.lt_of_lt_of_le hlt hgrows'.length_le, hgrows'.keepsLive new hlive⟩

/-- A later reading takes the place of an earlier one. -/
lemma replace_cases {later : Nat} (hlt : v < later) (hlater : later < s.readings.length) :
    ∃ new old fresh, s.readings[later]? = some new ∧ s.readings[v]? = some old ∧
      fresh = (if new.landmarks.isEmpty then { new with landmarks := old.landmarks } else new) ∧
      s.replace later v = { s with readings := (s.readings.set v fresh).eraseIdx later } := by
  have hnew := List.getElem?_eq_getElem hlater
  have hold := List.getElem?_eq_getElem (Nat.lt_trans hlt hlater)
  refine ⟨_, _, _, hnew, hold, rfl, ?_⟩
  rw [replace, if_neg (Nat.ne_of_gt hlt), hnew, hold]

lemma IsSound.replace (h : s.IsSound) {later : Nat} (hlt : v < later)
    (hlater : later < s.readings.length) : (s.replace later v).IsSound := by
  obtain ⟨new, old, fresh, hnew, hold, hfresh, heq⟩ := replace_cases hlt hlater
  have hsound : fresh.IsSound := by
    rw [hfresh]
    split_ifs
    · exact ⟨(h.at hnew).stack, (h.at hold).landmarks⟩
    · exact h.at hnew
  rw [heq]
  refine ⟨?_, h.finished⟩
  intro r hr
  rcases List.mem_or_eq_of_mem_set (List.mem_of_mem_eraseIdx hr) with hmem | rfl
  · exact h.reading r hmem
  · exact hsound

/-- One reading goes on at its place, and a later one is gone. -/
lemma isLiveAt_of_eraseIdx_set {later i : Nat} {x : Reading} (hx : ¬x.status.isGivenUp)
    (ht : t.readings = (s.readings.set v x).eraseIdx later) (hlt : v < later)
    (hbefore : i ≠ v → i < later → s.IsLiveAt i) (hbehind : later ≤ i → s.IsLiveAt (i + 1)) :
    t.IsLiveAt i := by
  intro r hr
  rw [ht, List.getElem?_eraseIdx] at hr
  split_ifs at hr with hi
  · rw [List.getElem?_set] at hr
    split_ifs at hr with hv
    · obtain rfl := Option.some.inj hr
      exact hx
    · exact hbefore (Ne.symm hv) hi r hr
  · have hne : v ≠ i + 1 := by omega
    rw [List.getElem?_set_ne hne] at hr
    exact hbehind (Nat.le_of_not_lt hi) r hr

lemma isLiveAt_replace {later i : Nat} (hlt : v < later) (hlater : later < s.readings.length)
    (hself : s.IsLiveAt later) (hbefore : i ≠ v → i < later → s.IsLiveAt i)
    (hbehind : later ≤ i → s.IsLiveAt (i + 1)) : (s.replace later v).IsLiveAt i := by
  obtain ⟨new, old, fresh, hnew, -, hfresh, heq⟩ := replace_cases hlt hlater
  have hlive : ¬fresh.status.isGivenUp := by
    rw [hfresh]
    split_ifs <;> exact hself new hnew
  exact isLiveAt_of_eraseIdx_set hlive (congrArg readings heq) hlt hbefore hbehind

lemma length_replace {later : Nat} (hlt : v < later) (hlater : later < s.readings.length) :
    (s.replace later v).readings.length = s.readings.length - 1 := by
  obtain ⟨new, old, fresh, -, -, -, heq⟩ := replace_cases hlt hlater
  have hlength : later < (s.readings.set v fresh).length := by rwa [List.length_set]
  rw [heq]
  show ((s.readings.set v fresh).eraseIdx later).length = _
  rw [List.length_eraseIdx_of_lt hlength, List.length_set]

/-- Where productions have been closed for a reading, what has come of it may take its place. -/
lemma HasClosed.replace {result : Search × Option Nat} (h : HasClosed v s result)
    (hr : s.readings[v]? = some r) {new : Nat} (hnew : new ∈ result.2) :
    (result.1.replace new v).IsSound ∧ (result.1.replace new v).IsLiveAt v := by
  obtain ⟨hle, hlater, hlive⟩ := h.new new hnew
  have hlt : v < new := Nat.lt_of_lt_of_le (List.getElem?_eq_some_iff.mp hr).1 hle
  refine ⟨h.isSound.replace hlt hlater, ?_⟩
  apply isLiveAt_replace hlt hlater hlive
  · intro hne
    exact absurd rfl hne
  · intro hge
    omega

/-! ### The end of the text -/

/-- A way down that has left the top begins with the piece that is there. -/
lemma exists_of_reaches_push {below k : Stack} {id n : Nat} {d : Derivation} {state : State}
    {parts : List Derivation} (h : Stack.Reaches (below.push id (some d) state) parts n k) :
    (k = below.push id (some d) state ∧ parts = []) ∨
      ∃ later m, parts = later ++ [d] ∧ Stack.Reaches below later m k := by
  have hways : (below.push id (some d) state).ways = [(some d, below)] := rfl
  induction h with
  | refl => exact .inl ⟨rfl, rfl⟩
  | extra hk hway hextra ih =>
    right
    rcases ih with ⟨rfl, rfl⟩ | ⟨later, m, rfl, hlater⟩
    · rw [hways] at hway
      obtain ⟨hd, rfl⟩ := Prod.mk.inj (List.mem_singleton.mp hway)
      obtain rfl := Option.some.inj hd
      exact ⟨[], 0, rfl, .refl⟩
    · exact ⟨_ :: later, m, rfl, hlater.extra hway hextra⟩
  | main hk hway hmain ih =>
    right
    rcases ih with ⟨rfl, rfl⟩ | ⟨later, m, rfl, hlater⟩
    · rw [hways] at hway
      obtain ⟨hd, rfl⟩ := Prod.mk.inj (List.mem_singleton.mp hway)
      obtain rfl := Option.some.inj hd
      exact ⟨[], 0, rfl, .refl⟩
    · exact ⟨_ :: later, m + 1, rfl, hlater.main hway hmain⟩
  | lost hk hway ih =>
    right
    rcases ih with ⟨rfl, rfl⟩ | ⟨later, m, rfl, hlater⟩
    · rw [hways] at hway
      cases (Prod.mk.inj (List.mem_singleton.mp hway)).1
    · exact ⟨later, m + 1, rfl, hlater.lost hway⟩

/-- What is found where a text ends: a program with what is extra around it, or an error that holds
all that has been read. -/
lemma followsGrammar_root {d : Derivation} {before after : List Derivation} {c : Cursor}
    (hd : d.FollowsGrammar)
    (hlabel : d.label = .error ∨
      d.label = .symbol (.phrase .program) ∧ ∀ part ∈ before, part.isExtra)
    (hbefore : ∀ part ∈ before, part.FollowsGrammar)
    (hafter : ∀ part ∈ after, part.FollowsGrammar) (hextra : ∀ part ∈ after, part.isExtra) :
    (Derivation.close d.label d.info.production 0 false (before ++ d.parts ++ after)
      c).FollowsGrammar := by
  have hparts : ∀ part ∈ before ++ d.parts ++ after, part.FollowsGrammar := by
    simp only [List.forall_mem_append]
    exact ⟨⟨hbefore, hd.parts⟩, hafter⟩
  have hmain : ¬(Derivation.close d.label d.info.production 0 false
      (before ++ d.parts ++ after) c).isExtra := Bool.false_ne_true
  rcases hlabel with hlabel | ⟨hlabel, hfront⟩
  · exact .error (.inl hlabel) (hd.production_of_error hlabel) hparts
  · obtain ⟨e, he, hexpanded⟩ := hd.isExpanded hlabel
    refine .expanded hlabel hmain he ⟨hexpanded.looks, ?_, .inl hlabel⟩ hparts
    show Stack.mainLabels (before ++ d.parts ++ after) = _
    rw [Stack.mainLabels_append, Stack.mainLabels_append, Stack.mainLabels_eq_nil_iff.mpr hfront,
      Stack.mainLabels_eq_nil_iff.mpr hextra, List.append_nil, List.nil_append]
    exact hexpanded.labels

lemma followsGrammar_ofLexeme (x : Lexeme) (isExtra : Bool) :
    (Derivation.ofLexeme x isExtra).FollowsGrammar := by
  cases htoken : x.token with
  | some token =>
    have hlabel : (Derivation.ofLexeme x isExtra).label = .symbol (.token token) := by
      simp [Derivation.ofLexeme, Derivation.label, Derivation.info, htoken]
    exact .token hlabel rfl
  | none =>
    have hlabel : (Derivation.ofLexeme x isExtra).label = .error := by
      simp [Derivation.ofLexeme, Derivation.label, Derivation.info, htoken]
    exact .error (.inl hlabel) rfl nofun

/-- Whether all that is found on the ways down a stack is by the grammar once the text has ended. -/
def EndsByGrammar (stack : Stack) : Prop :=
  ∀ parts n k, Stack.Reaches stack parts n k → k.ways = [] →
    (∀ part ∈ parts, part.FollowsGrammar) ∧
      ∀ before d after, parts = before ++ d :: after → (∀ part ∈ after, part.isExtra) →
        ¬d.isExtra → d.label = .error ∨
          d.label = .symbol (.phrase .program) ∧ ∀ part ∈ before, part.isExtra

/-- A text that is accepted ends by the grammar. -/
lemma endsByGrammar_of_accepts {stack : Stack} (h : stack.IsSound) {token : Token}
    (haccepts : (stack.state.decide token).accepts) : EndsByGrammar stack := by
  intro parts n k hreaches hbottom
  refine ⟨hreaches.followsGrammar h, ?_⟩
  rintro before d after rfl hafter hmain
  right
  have hlabels := Stack.mainLabels_of_accepts h haccepts hreaches hbottom
  rw [Stack.mainLabels_append, Stack.mainLabels_cons_main hmain,
    Stack.mainLabels_eq_nil_iff.mpr hafter] at hlabels
  obtain ⟨hbefore, hd⟩ := List.append_eq_singleton_iff.mp hlabels |>.resolve_right nofun
  exact ⟨(List.cons_eq_cons.mp hd).1, Stack.mainLabels_eq_nil_iff.mp hbefore⟩

/-- A text ends by the grammar with an error that holds all of it. -/
lemma endsByGrammar_of_error {below : Stack} (h : below.IsSound) {d : Derivation}
    (hd : d.FollowsGrammar) (hlabel : d.label = .error) (hmain : ¬d.isExtra) (id : Nat)
    (state : State) : EndsByGrammar (below.push id (some d) state) := by
  intro parts n k hreaches hbottom
  rcases exists_of_reaches_push hreaches with ⟨rfl, -⟩ | ⟨later, m, rfl, hlater⟩
  · cases hbottom
  · refine ⟨?_, ?_⟩
    · rw [List.forall_mem_append]
      exact ⟨hlater.followsGrammar h, by simpa using hd⟩
    · intro before other after heq hafter hother
      left
      rcases List.eq_nil_or_concat' after with rfl | ⟨init, last, rfl⟩
      · obtain ⟨-, hsame⟩ := List.append_inj' heq rfl
        rw [← (List.cons_eq_cons.mp hsame).1, hlabel]
      · rw [← List.cons_append, ← List.append_assoc] at heq
        obtain ⟨-, hsame⟩ := List.append_inj' heq rfl
        obtain rfl := (List.cons_eq_cons.mp hsame).1
        exact absurd (hafter d (by simp)) hmain

/-- What is found on a whole way down from the end of a text. -/
lemma followsGrammar_of_endsByGrammar {stack : Stack} (h : EndsByGrammar stack) {x : Lexeme}
    {id fuel : Nat} {state : State} {parts earlier : List Derivation} {d : Derivation} {c : Cursor}
    (hparts : parts ∈ Stack.wholeWays fuel
      [([], 0, stack.push id (some (.ofLexeme x true)) state)])
    (hsplit : parts.reverse.dropWhile Derivation.isExtra = d :: earlier) :
    (Derivation.close d.label d.info.production 0 false (earlier.reverse ++ d.parts ++
      (parts.reverse.takeWhile Derivation.isExtra).reverse) c).FollowsGrammar := by
  obtain ⟨n, k, hreaches, hbottom⟩ := Stack.mem_wholeWays (Stack.areWalks_self _) hparts
  rcases exists_of_reaches_push hreaches with ⟨rfl, -⟩ | ⟨later, m, rfl, hlater⟩
  · cases hbottom
  · obtain ⟨hgrammar, hends⟩ := h later m k hlater hbottom
    have hlexeme : (Derivation.ofLexeme x true).isExtra := rfl
    have hdrop : later.rdropWhile Derivation.isExtra = earlier.reverse ++ [d] := by
      rw [← List.rdropWhile_concat_pos _ _ _ hlexeme, List.rdropWhile, hsplit, List.reverse_cons]
    have hlater : later = earlier.reverse ++ d :: later.rtakeWhile Derivation.isExtra := by
      conv_lhs => rw [← @List.rdropWhile_append_rtakeWhile _ Derivation.isExtra later, hdrop]
      simp
    have hmain : ¬d.isExtra := by
      have hlast := List.rdropWhile_last_not Derivation.isExtra later (by simp [hdrop])
      simpa [hdrop] using hlast
    have hafter : ∀ part ∈ later.rtakeWhile Derivation.isExtra, part.isExtra :=
      fun part hpart => List.mem_rtakeWhile_imp hpart
    have hlabel := hends _ _ _ hlater hafter hmain
    rw [hlater] at hgrammar
    simp only [List.forall_mem_append, List.forall_mem_cons] at hgrammar
    have htake : ((later ++ [Derivation.ofLexeme x true]).reverse.takeWhile
        Derivation.isExtra).reverse = later.rtakeWhile Derivation.isExtra ++ [.ofLexeme x true] :=
      List.rtakeWhile_concat_pos _ _ _ hlexeme
    rw [htake]
    apply followsGrammar_root hgrammar.2.1 hlabel hgrammar.1
    · rw [List.forall_mem_append]
      exact ⟨hgrammar.2.2, by simpa using followsGrammar_ofLexeme x true⟩
    · rw [List.forall_mem_append]
      exact ⟨hafter, by simpa using hlexeme⟩

/-- Ending a reading keeps the others as they are. -/
lemma isSound_accept {x : Lexeme}
    (hothers : ∀ i r, s.readings[i]? = some r → i ≠ v → r.IsSound)
    (hlandmarks : ∀ r, s.readings[v]? = some r → ∀ l ∈ r.landmarks, l.state.IsSound)
    (hends : ∀ r, s.readings[v]? = some r → EndsByGrammar r.stack)
    (hfinished : ∀ d ∈ s.finished, d.FollowsGrammar) : (s.accept v x).IsSound := by
  unfold Search.accept
  cases hr : s.readings[v]? with
  | none =>
    refine ⟨?_, hfinished⟩
    intro r hmem
    obtain ⟨i, hi⟩ := List.mem_iff_getElem?.mp hmem
    refine hothers i r hi ?_
    rintro rfl
    rw [hr] at hi
    cases hi
  | some r =>
    refine ⟨?_, ?_⟩
    · intro new hnew
      obtain ⟨i, hi⟩ := List.mem_iff_getElem?.mp hnew
      obtain ⟨old, hold, rfl⟩ := exists_of_getElem?_modify hi
      split_ifs with hv
      · exact ⟨fun hlive => absurd rfl hlive, hlandmarks old (hv ▸ hold)⟩
      · exact hothers i old hold (Ne.symm hv)
    · show ∀ d ∈ List.foldl _ s.finished _, d.FollowsGrammar
      apply List.foldlRecOn (motive := fun best : Option Derivation => ∀ d ∈ best, d.FollowsGrammar)
      · exact hfinished
      · intro best hbest root hroot
        have hown : root.FollowsGrammar := by
          obtain ⟨parts, hparts, hroot⟩ := List.mem_filterMap.mp hroot
          dsimp only at hroot
          split at hroot
          case h_1 => cases hroot
          case h_2 d earlier hsplit =>
            obtain rfl := Option.some.inj hroot
            exact followsGrammar_of_endsByGrammar (hends r hr) hparts hsplit
        split
        · intro d hd
          exact Option.some.inj hd ▸ hown
        · split_ifs
          · intro d hd
            exact Option.some.inj hd ▸ hown
          · exact hbest

end Search

end NotebookExport.Python
