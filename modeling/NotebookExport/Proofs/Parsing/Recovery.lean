import NotebookExport.Proofs.Parsing.Readings
import NotebookExport.Python.Recovery

/-!
# Recovery by the grammar

What the parser does where no reading can go on makes no derivation that is not by the grammar:
phrases are closed as before (`Search.IsSound.closeReadings`), a missing token is a step like any
other, and what is read but fits nowhere is an error, which may be made of anything. So the
readings that come of recovery are by the grammar (`Search.IsSound.handleError`).
-/

namespace NotebookExport.Python

open Text

namespace Search

variable {s t : Search} {v : Nat} {r : Reading}

/-! ### Closing what can be closed -/

/-- What can be closed on some token. -/
def IsClosable (state : State) (q : Production) : Prop :=
  ∃ token, q ∈ (state.decide token).reduces

lemma isClosable_of_mem (state : State) (tokens : List Token) :
    ∀ q ∈ closable state tokens, IsClosable state q := by
  apply List.foldlRecOn
    (motive := fun found : List Production => ∀ q ∈ found, IsClosable state q)
  · exact nofun
  · intro found hfound q hq
    split_ifs
    · exact hfound
    · rw [List.forall_mem_append]
      obtain ⟨token, -, hreduces⟩ := List.mem_flatMap.mp hq
      exact ⟨hfound, by simpa using ⟨token, hreduces⟩⟩

/-- While the reading at `start` is being closed it goes on, and so do those from `first` on, which
have come of it. The readings before it go on if they did in the beginning. -/
structure IsClosing (s old : Search) (start first : Nat) : Prop where
  isSound : s.IsSound
  live : ∀ i, (i < start → old.IsLiveAt i) → (start < i → first ≤ i) → s.IsLiveAt i

section Closing

variable {old : Search} {start first : Nat}

lemma IsClosing.live_self (h : s.IsClosing old start first) : s.IsLiveAt start :=
  h.live start (by omega) (by omega)

lemma IsClosing.live_of_le (h : s.IsClosing old start first) (hv : v = start ∨ first ≤ v)
    (hstart : start ≤ first) : s.IsLiveAt v :=
  h.live v (by omega) (by omega)

lemma IsClosing.of_keepsLive (h : s.IsClosing old start first) (ht : t.IsSound)
    (hkeeps : s.KeepsLive t) : t.IsClosing old start first :=
  ⟨ht, fun i hbefore hbehind => hkeeps i (h.live i hbefore hbehind)⟩

/-- An earlier reading takes in a later one. -/
lemma IsClosing.join (h : s.IsClosing old start first) {i : Nat} (hi : start ≤ i) (hlt : i < v)
    (hjoin : s.join? i v = some t) : t.IsClosing old start first := by
  obtain ⟨hsound, x, hx, hreadings⟩ := h.isSound.join? hjoin
  refine ⟨hsound, ?_⟩
  intro k hbefore hbehind
  apply isLiveAt_of_eraseIdx_set hx hreadings hlt
  · intro _ _
    exact h.live k hbefore hbehind
  · intro hle
    exact h.live (k + 1) (by omega) (by omega)

/-- Where productions have been closed for a reading, it makes room for one that has come of it. -/
lemma IsClosing.replace (h : s.IsClosing old start first) {result : Search × Option Nat}
    (hclosed : HasClosed v s result) (hr : s.readings[v]? = some r) (hv : start ≤ v) {new : Nat}
    (hnew : new ∈ result.2) :
    (result.1.replace new v).IsClosing old start first ∧
      s.readings.length ≤ (result.1.replace new v).readings.length := by
  obtain ⟨hle, hlater, hlive⟩ := hclosed.new new hnew
  have hlt : v < new := Nat.lt_of_lt_of_le (List.getElem?_eq_some_iff.mp hr).1 hle
  have hgrown := h.of_keepsLive hclosed.isSound hclosed.grows.keepsLive
  refine ⟨⟨hgrown.isSound.replace hlt hlater, ?_⟩, ?_⟩
  · intro k hbefore hbehind
    apply isLiveAt_replace hlt hlater hlive
    · intro _ _
      exact hgrown.live k hbefore hbehind
    · intro hle
      exact hgrown.live (k + 1) (by omega) (by omega)
  · rw [length_replace hlt hlater]
    omega

/-- A reading is dropped. If those that have come of it stand right behind it, one of them takes its
place. -/
lemma IsClosing.remove (h : s.IsClosing old start first) (hone : first = start + 1)
    (hv : start ≤ v) : (s.remove v).IsClosing old start first := by
  refine ⟨h.isSound.remove v, ?_⟩
  intro k hbefore hbehind
  apply isLiveAt_remove
  · intro _
    exact h.live k hbefore hbehind
  · intro _
    exact h.live (k + 1) (by omega) (by omega)

/-- The reading at `start` is closed first, then those that have come of it. Only if a token is
given are readings dropped. -/
lemma IsClosing.closeAll {lookahead : Option Token} {fuel round : Nat} {able : Bool}
    (h : s.IsClosing old start first) (hstart : start < first)
    (hone : lookahead.isSome → first = start + 1)
    (hv : (v = start ∧ first ≤ s.readings.length) ∨ first ≤ v) :
    (Search.closeAll lookahead first start fuel round v able s).1.IsClosing old start first := by
  induction fuel generalizing round v able s with
  | zero => exact h
  | succ fuel ih =>
    rw [Search.closeAll]
    cases hr : s.readings[v]? with
    | none => exact h
    | some r =>
      have hlive : s.IsLiveAt v := h.live_of_le (hv.imp_left And.left) hstart.le
      dsimp only
      cases hjoin : (List.range (v - first)).findSome? fun k => s.join? (first + k) v with
      | some joined =>
        obtain ⟨k, hk, hjoin⟩ := List.exists_of_findSome?_eq_some hjoin
        have hlt := List.mem_range.mp hk
        have hjoined := h.join (Nat.le_add_right_of_le hstart.le) (by omega) hjoin
        exact ih hjoined (.inr (by omega))
      | none =>
        have hclosed := fun tokens => h.isSound.foldl_reduceFrom hr (hlive r hr)
          (isClosable_of_mem r.stack.state tokens)
        dsimp only at hclosed ⊢
        generalize hresult : List.foldl _ (s, (none : Option Nat)) (closable _ _) = result
          at hclosed ⊢
        have hclosed : HasClosed v s result := hresult ▸ hclosed _
        have hgrown := h.of_keepsLive hclosed.isSound hclosed.grows.keepsLive
        -- whichever reading is next, it has come of the one at `start`
        have hnext : first ≤ if v = start then s.readings.length else v + 1 := by
          split_ifs <;> omega
        generalize (if v = start then s.readings.length else v + 1) = next at hnext ⊢
        generalize canRead _ _ = reads
        cases reads with
        | true => exact ih hgrown (.inr hnext)
        | false =>
          rw [if_neg Bool.false_ne_true]
          split
          · next new hnew =>
            obtain ⟨hreplaced, hlength⟩ :=
              h.replace hclosed hr (by omega) (Option.filter_eq_some_iff.mp hnew).1
            exact ih hreplaced (by omega)
          · split_ifs with hlook
            · exact ih (hgrown.remove (hone hlook) (by omega)) (.inr hnext)
            · exact ih hgrown (.inr hnext)

end Closing

/-- Closing what can be closed for a reading that goes on. If a token is given, the reading is the
last one. -/
lemma IsSound.closeReadings (h : s.IsSound) (hlt : v < s.readings.length) (hlive : s.IsLiveAt v)
    {lookahead : Option Token} (hlast : lookahead.isSome → s.readings.length = v + 1) :
    (s.closeReadings lookahead v).1.IsClosing s v s.readings.length := by
  refine IsClosing.closeAll ⟨h, ?_⟩ hlt hlast (.inl ⟨rfl, Nat.le_refl _⟩)
  intro i hbefore hbehind
  rcases Nat.lt_trichotomy i v with hi | rfl | hi
  · exact hbefore hi
  · exact hlive
  · intro r hr
    rw [List.getElem?_eq_none (hbehind hi)] at hr
    cases hr

/-! ### Tokens that are missing -/

lemma followsGrammar_missing (token : Token) (c : Cursor) :
    (Derivation.missing token c).FollowsGrammar := .token rfl rfl

/-- A token that leads somewhere else leads to where the grammar has it. -/
lemma eq_successor_of_afterToken {state target : State} {token : Token}
    (htarget : target =
      if state.expected.contains token then state.afterToken token else State.lost)
    (hlost : ¬target.isLost) (hsame : ¬target.same state) :
    target = state.successor (.token token) := by
  unfold State.afterToken at htarget
  split at htarget
  · split at htarget
    · next hshift => exact htarget.trans (State.eq_successor_of_shift hshift)
    · split_ifs at htarget
      · exact absurd (htarget ▸ State.same_refl state) hsame
      · exact absurd (htarget ▸ State.isLost_iff.mpr rfl) hlost
  · exact absurd (htarget ▸ State.isLost_iff.mpr rfl) hlost

/-- A missing token is a step by the grammar. -/
lemma isWay_missing {stack : Stack} (h : stack.IsSound) (token : Token) (c : Cursor) :
    Stack.IsWay (stack.state.successor (.token token))
      (some (Derivation.missing token c), stack) where
  step := .inr ⟨_, rfl, .inr ⟨Bool.false_ne_true, _, rfl, .refl _⟩⟩
  piece := by simpa using followsGrammar_missing token c
  below := h

/-- A reading that is added and closed leaves the others as they are. -/
lemma IsSound.closeReadings_append (h : s.IsSound) (hr : r.IsSound)
    (hlive : ¬r.status.isGivenUp) (fresh : Nat) (lookahead : Token) :
    let t : Search := { s with readings := s.readings ++ [r], fresh }
    (t.closeReadings (some lookahead) s.readings.length).1.IsSound ∧
      s.KeepsLive (t.closeReadings (some lookahead) s.readings.length).1 := by
  intro t
  obtain ⟨ht, hgrows⟩ : t.IsSound ∧ Grows 0 s t := h.append hr hlive fresh 0
  have hlength : t.readings.length = s.readings.length + 1 := List.length_append
  have hnew : t.IsLiveAt s.readings.length := by
    intro new hnew
    have hread : t.readings[s.readings.length]? = some r := List.getElem?_concat_length
    obtain rfl := Option.some.inj (hread.symm.trans hnew)
    exact hlive
  have hclosed : (t.closeReadings (some lookahead) s.readings.length).1.IsClosing t
      s.readings.length t.readings.length :=
    ht.closeReadings (by omega) hnew fun _ => hlength
  refine ⟨hclosed.isSound, ?_⟩
  intro i hi
  apply hclosed.live i
  · intro _
    exact hgrows.keepsLive i hi
  · omega

/-- With a missing token a reading goes on, which is added and has been closed. -/
lemma IsSound.insertMissing (h : s.IsSound) (hlive : s.IsLiveAt v) (lookahead : Token)
    (tokens : List Token) :
    (s.insertMissing v lookahead tokens).1.IsSound ∧
      s.KeepsLive (s.insertMissing v lookahead tokens).1 := by
  induction tokens generalizing s with
  | nil => exact ⟨h, .refl s⟩
  | cons token tokens ih =>
    rw [Search.insertMissing]
    cases hr : s.readings[v]? with
    | none => exact ⟨h, .refl s⟩
    | some r =>
      have hstack := h.stack_at hlive hr
      dsimp only
      generalize htarget : (if r.stack.state.expected.contains token = true then
        r.stack.state.afterToken token else State.lost) = target
      split_ifs with hskip
      · exact ih h hlive
      · simp only [Bool.or_eq_true, not_or] at hskip
        obtain ⟨⟨hlost, hsame⟩, -⟩ := hskip
        obtain rfl := eq_successor_of_afterToken htarget.symm hlost hsame
        have hpushed := Stack.isSound_push (hstack.state.successor (.token token))
          (isWay_missing hstack token r.stack.cursor) s.fresh
        obtain ⟨hnext, hkeeps⟩ := h.closeReadings_append
          (Reading.isSound_of_stack hpushed r.layout r.progressAtError) Bool.false_ne_true
          (s.fresh + 1) lookahead
        split
        · next t heq =>
          rw [heq] at hnext hkeeps
          exact ⟨hnext, hkeeps⟩
        · next t heq =>
          rw [heq] at hnext hkeeps
          exact And.imp_right hkeeps.trans (ih hnext (hkeeps v hlive))

/-! ### Being lost -/

lemma isWay_lost {stack : Stack} (h : stack.IsSound) {d : Option Derivation}
    (hd : ∀ piece ∈ d, piece.FollowsGrammar) : Stack.IsWay .lost (d, stack) where
  step := .inl (State.isLost_iff.mpr rfl)
  piece := hd
  below := h

/-- A reading that is lost has passed over a piece, or nothing yet. -/
lemma IsSound.push_lost (h : s.IsSound) {d : Option Derivation}
    (hd : ∀ piece ∈ d, piece.FollowsGrammar) (v : Nat) : (s.push v d .lost).IsSound := by
  apply h.push State.isSound_lost
  intro r hr hlive
  exact isWay_lost ((h.at hr).stack hlive) hd

lemma IsClosing.loseAll {old : Search} {start first bound fuel : Nat} {lookahead : Option Token}
    {inserted : Bool} (h : s.IsClosing old start first) (hstart : start ≤ first)
    (hv : v = start ∨ first ≤ v) :
    (Search.loseAll lookahead start first bound fuel v inserted s).IsClosing old start first := by
  induction fuel generalizing v inserted s with
  | zero => exact h
  | succ fuel ih =>
    unfold Search.loseAll
    by_cases hbound : bound ≤ v
    · rwa [if_pos hbound]
    · rw [if_neg hbound]
      dsimp only
      have hnext : (if v = start then first else v + 1) = start ∨
          first ≤ if v = start then first else v + 1 := by
        split_ifs <;> omega
      generalize (if v = start then first else v + 1) = next at hnext ⊢
      have hlost : ∀ t : Search, t.IsSound ∧ s.KeepsLive t →
          (t.push v none .lost).IsClosing old start first := by
        rintro t ⟨ht, hkeeps⟩
        exact h.of_keepsLive (ht.push_lost (by simp) v)
          (hkeeps.trans (keepsLive_push t v none .lost))
      have hown := hlost s ⟨h.isSound, .refl s⟩
      cases lookahead with
      | none => exact ih hown hnext
      | some token =>
        cases inserted with
        | true => exact ih hown hnext
        | false => exact ih (hlost _ (h.isSound.insertMissing (h.live_of_le hv hstart) _ _)) hnext

/-! ### States to go back to -/

lemma isSound_landmarksOf_walks {stack : Stack} (h : stack.IsSound) {fuel : Nat}
    {walks : List (List Derivation × Nat × Stack)} (hwalks : stack.AreWalks walks)
    {found : List Landmark} (hfound : ∀ l ∈ found, l.state.IsSound) :
    ∀ l ∈ landmarksOf fuel walks found, l.state.IsSound := by
  induction fuel generalizing walks found with
  | zero => exact hfound
  | succ fuel ih =>
    rw [landmarksOf]
    have hnear : stack.AreWalks (walks.filter fun walk => walk.2.1 ≤ maxLandmarkDepth) :=
      fun walk hwalk => hwalks walk (List.mem_of_mem_filter hwalk)
    dsimp only
    split_ifs
    · exact hfound
    · apply ih (hnear.stepDown.take 64)
      apply List.foldlRecOn
        (motive := fun found : List Landmark => ∀ l ∈ found, l.state.IsSound)
      · exact hfound
      · intro found hfound walk hwalk
        split_ifs
        · exact hfound
        · rw [List.forall_mem_append]
          refine ⟨hfound, ?_⟩
          simpa using ((hnear walk hwalk).isSound h).state

/-- The landmarks of a reading are states that its stack has been in. -/
lemma isSound_landmarksOf {stack : Stack} (h : stack.IsSound) :
    ∀ l ∈ landmarksOf (stack.depth + 1) [([], 0, stack)] [], l.state.IsSound :=
  isSound_landmarksOf_walks h (Stack.areWalks_self stack) nofun

/-- Below an error on a stack the parser was in the same state. -/
lemma popError_spec {stack : Stack} (h : stack.IsSound) {goal : State}
    (hgoal : goal.IsWithin stack.state) :
    (∀ part ∈ (popError stack).1, part.FollowsGrammar) ∧ (popError stack).2.IsSound ∧
      goal.IsWithin (popError stack).2.state := by
  unfold popError
  dsimp only
  generalize hfound : List.findSome? _ stack.ways = found
  cases found with
  | none => exact ⟨nofun, h, hgoal⟩
  | some found =>
    obtain ⟨⟨way, below⟩, hway, heq⟩ := List.exists_of_findSome?_eq_some hfound
    dsimp only at heq
    split at heq
    · next d =>
      split_ifs at heq with herror
      obtain rfl := Option.some.inj heq
      obtain ⟨hstep, hpiece, hbelow⟩ := h.isWay hway
      refine ⟨(hpiece d rfl).parts, hbelow, ?_⟩
      rcases hstep with hlost | ⟨_, hd, ⟨-, hwithin⟩ | ⟨-, x, hlabel, -⟩⟩
      · intro entry hentry
        rw [State.isLost_iff.mp (State.isLost_of_isWithin hgoal hlost)] at hentry
        cases hentry
      · exact hgoal.trans hwithin
      · obtain rfl := Option.some.inj hd
        rw [herror] at hlabel
        cases hlabel
    · cases heq

/-- What is read and fits nowhere is an error, before what is extra. -/
lemma errorPieces_spec {parts : List Derivation} (h : ∀ part ∈ parts, part.FollowsGrammar)
    (c : Cursor) :
    let split := Derivation.splitExtras parts
    let error := if split.1.isEmpty then [] else [Derivation.close .error none 0 true split.1 c]
    ∀ d ∈ error ++ split.2, d.FollowsGrammar ∧ d.isExtra := by
  intro split error
  obtain ⟨hsplit, hextras, -⟩ := Derivation.splitExtras_spec parts
  rw [← hsplit, List.forall_mem_append] at h
  rw [List.forall_mem_append]
  refine ⟨?_, fun d hd => ⟨h.2 d hd, hextras d hd⟩⟩
  intro d hd
  simp only [error] at hd
  split_ifs at hd
  · cases hd
  · obtain rfl := List.mem_singleton.mp hd
    exact ⟨.error (.inl rfl) rfl h.1, rfl⟩

/-- Going back adds readings that are by the grammar: what lay between is an error on top of the
state to which they go back. -/
lemma IsSound.goBack (h : s.IsSound) (hlive : s.IsLiveAt v) {goal : State} (hgoal : goal.IsSound)
    (depth : Nat) : (s.goBack v depth goal).1.IsSound ∧ Grows v s (s.goBack v depth goal).1 := by
  unfold Search.goBack
  cases hr : s.readings[v]? with
  | none => exact ⟨h, .refl v s⟩
  | some r =>
    have hstack := h.stack_at hlive hr
    apply List.foldlRecOn
      (motive := fun result : Search × Bool => result.1.IsSound ∧ Grows v s result.1)
    · exact ⟨h, .refl v s⟩
    · rintro ⟨t, done⟩ ⟨ht, hgrows⟩ ⟨choices, below⟩ hgroup
      obtain ⟨hchoices, others, hbelow⟩ := Stack.areGroups_popGroups hstack _ _ hgroup
      cases choices with
      | nil => exact ⟨ht, hgrows⟩
      | cons parts choices =>
        obtain ⟨k, hreaches, -⟩ := hchoices parts List.mem_cons_self
        dsimp only
        by_cases hsame : below.state.same goal
        · rw [if_pos hsame]
          obtain ⟨hbefore, hfrom, hwithin⟩ :=
            popError_spec (hbelow.isSound hstack) (State.isWithin_of_same hsame).2
          have hparts : ∀ part ∈ (popError below).1 ++ parts, part.FollowsGrammar :=
            List.forall_mem_append.mpr ⟨hbefore, hreaches.followsGrammar hstack⟩
          have hpieces := errorPieces_spec hparts (popError below).2.cursor
          have hpushed := isSound_foldl_push hfrom hgoal (fun d hd => (hpieces d hd).1)
            (fun d hd => (hpieces d hd).2) hwithin t.fresh
          exact And.imp_right hgrows.trans
            (ht.append (Reading.isSound_of_stack hpushed _ _) Bool.false_ne_true _ v)
        · rw [if_neg hsame]
          exact ⟨ht, hgrows⟩

lemma IsSound.goBackTo (h : s.IsSound) (hlive : s.IsLiveAt v) (r : Reading) (token : Token)
    {landmarks : List Landmark} (hlandmarks : ∀ l ∈ landmarks, l.state.IsSound) :
    (s.goBackTo v r token landmarks).1.IsSound ∧
      Grows v s (s.goBackTo v r token landmarks).1 := by
  induction landmarks generalizing s with
  | nil => exact ⟨h, .refl v s⟩
  | cons l ls ih =>
    rw [List.forall_mem_cons] at hlandmarks
    have hnext := ih h hlive hlandmarks.2
    unfold Search.goBackTo
    generalize (if 0 < r.progress then l.depth + 1 else l.depth) = depth
    have hback := h.goBack hlive hlandmarks.1 depth
    dsimp only
    split_ifs
    · exact hnext
    · exact hnext
    · exact ⟨h, .refl v s⟩
    · split
      · next t heq => rwa [heq] at hback
      · exact hnext
    · exact hnext

lemma followsGrammar_passedOver {parts : List Derivation}
    (h : ∀ part ∈ parts, part.FollowsGrammar) (c : Cursor) :
    (Derivation.close .passedOver none 0 false parts c).FollowsGrammar :=
  .error (.inr ⟨rfl, Bool.false_ne_true⟩) rfl h

/-- Passing over a token leaves a reading lost on the pieces that have been passed over. -/
lemma IsSound.passOver (h : s.IsSound) (hlive : s.IsLiveAt v) (hr : s.readings[v]? = some r)
    (x : Lexeme) : (s.passOver v r x).IsSound := by
  have hstack := h.stack_at hlive hr
  have hown : ∀ isExtra, (Derivation.close .passedOver none 0 false [.ofLexeme x isExtra]
      r.stack.cursor).FollowsGrammar := by
    intro isExtra
    apply followsGrammar_passedOver
    simpa using followsGrammar_ofLexeme x isExtra
  have hlost : ∀ t : Search, t.IsSound → ∀ piece : Derivation, piece.FollowsGrammar →
      ((t.push v (some piece) .lost).modify v
        fun r => { r with layout := x.layout.getD r.layout }).IsSound := by
    intro t ht piece hpiece
    have hpush := ht.push_lost (d := some piece) (by simpa using hpiece) v
    apply hpush.modify
    intro r hr
    exact ⟨(hpush.at hr).stack, (hpush.at hr).landmarks⟩
  unfold Search.passOver
  extract_lets isExtra piece
  split
  next t joined heq =>
  split_ifs at heq
  · split at heq
    · next parts choices below groups hgroups =>
      obtain ⟨rfl, rfl⟩ := Prod.mk.inj heq
      obtain ⟨hchoices, others, hbelow⟩ :=
        Stack.areGroups_popGroups hstack 1 (parts :: choices, below) (hgroups ▸ List.mem_cons_self)
      obtain ⟨k, hreaches, -⟩ := hchoices parts List.mem_cons_self
      apply hlost
      · apply h.modify
        intro other hother
        exact ⟨fun _ => hbelow.isSound hstack, (h.at hother).landmarks⟩
      · apply followsGrammar_passedOver
        rw [List.forall_mem_append]
        exact ⟨hreaches.followsGrammar hstack, by simpa using hown isExtra⟩
    · obtain ⟨rfl, rfl⟩ := Prod.mk.inj heq
      exact hlost s h _ (hown _)
  · obtain ⟨rfl, rfl⟩ := Prod.mk.inj heq
    exact hlost s h _ (hown _)

/-- Where the text ends while a reading is lost, all that it has read is an error. -/
lemma IsSound.accept_error (h : s.IsSound) (hlive : s.IsLiveAt v) (x : Lexeme)
    (c : Cursor) :
    ((s.push v (some (.close .error none 0 false [] c)) .initial).accept v x).IsSound := by
  have hempty : (Derivation.close .error none 0 false [] c).FollowsGrammar :=
    .error (.inl rfl) rfl nofun
  apply isSound_accept
  · intro i r hr hi
    obtain ⟨old, hold, rfl⟩ := exists_of_getElem?_modify hr
    rw [if_neg (Ne.symm hi)]
    exact h.at hold
  · intro r hr
    obtain ⟨old, hold, rfl⟩ := exists_of_getElem?_modify hr
    rw [if_pos rfl]
    exact (h.at hold).landmarks
  · intro r hr
    obtain ⟨old, hold, rfl⟩ := exists_of_getElem?_modify hr
    rw [if_pos rfl]
    exact endsByGrammar_of_error (h.stack_at hlive hold) hempty rfl Bool.false_ne_true _ _
  · exact h.finished

/-- What a lost reading does is by the grammar. -/
lemma IsSound.recover (h : s.IsSound) (hlive : s.IsLiveAt v) (x : Lexeme) :
    (s.recover v x).IsSound := by
  unfold Search.recover
  split
  · exact h
  · next r hr =>
    split
    next t wentBack hresult =>
    have hgrown : t.IsSound ∧ Grows v s t := by
      split at hresult
      · next token _ =>
        have hback := h.goBackTo hlive r token (h.at hr).landmarks
        rwa [hresult] at hback
      · obtain rfl := (Prod.mk.inj hresult).1
        exact ⟨h, .refl v s⟩
    obtain ⟨ht, hgrows⟩ := hgrown
    have hlive' := hgrows.keepsLive v hlive
    have hr' := hgrows.same r hr
    split_ifs
    · exact ht.giveUp v
    · exact ht.accept_error hlive' x r.stack.cursor
    · exact ht.giveUp v
    · exact ht.passOver hlive' hr' x

/-- Recovery is by the grammar: what is closed, lost, gone back to and passed over. -/
lemma IsSound.handleError (h : s.IsSound) (hlt : v < s.readings.length) (hlive : s.IsLiveAt v)
    (x : Lexeme) : (s.handleError v x).IsSound := by
  unfold Search.handleError
  extract_lets first
  split
  next t able hclose =>
  extract_lets bound u w
  have ht : t.IsClosing s v first := by
    have hclosed : (s.closeReadings none v).1.IsClosing s v s.readings.length :=
      h.closeReadings hlt hlive nofun
    rwa [hclose] at hclosed
  have hu : u.IsClosing s v first := ht.loseAll hlt.le (.inl rfl)
  have hw : w.IsClosing s v first := by
    apply List.foldlRecOn (motive := fun w : Search => w.IsClosing s v first)
    · exact hu
    · intro w hw _ _
      cases hjoin : w.join? v first with
      | none => exact hw
      | some joined => exact hw.join (Nat.le_refl v) hlt hjoin
  split
  · exact hw.isSound
  · next r hr =>
    have hlandmarks := isSound_landmarksOf (hw.isSound.stack_at hw.live_self hr)
    apply IsSound.recover
    · apply hw.isSound.modify
      intro other hother
      exact ⟨(hw.isSound.at hother).stack, hlandmarks⟩
    · refine keepsLive_modify ?_ v v hw.live_self
      intro other
      rfl

end Search

end NotebookExport.Python
