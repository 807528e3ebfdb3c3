import NotebookExport.Proofs.FirstFault
import NotebookExport.Proofs.Parsing.Recovery

/-!
# The trees of parsed texts

Whatever the text, the derivation that the parser comes to is one by the grammar
(`derive_followsGrammar`): each thing that the loop over the text does keeps all readings by the
grammar (`Search.IsSound`). So the trees that are read from texts have the shape on which the theory
of names is built, and what is proved of such trees holds for every text that is Python
(`isSyntaxTree_of_parse`).
-/

namespace NotebookExport.Python

open Text

namespace Search

variable {s : Search} {v : Nat} {r : Reading}

/-! ### The loop over the text -/

/-- What a reading shifts is a step by the grammar. The end of the text leads nowhere. -/
lemma IsSound.shift_main (h : s.IsSound) (hr : s.readings[v]? = some r) (hlive : s.IsLiveAt v)
    {x : Lexeme} {token : Token} (htoken : x.token = some token) {target : State}
    (hshift : (r.stack.state.decide token).shift = some target) :
    (s.shift v x false target).IsSound := by
  have hstack := h.stack_at hlive hr
  obtain rfl := State.eq_successor_of_shift hshift
  apply h.shift (hstack.state.successor _)
  intro other hother _
  obtain rfl := Option.some.inj (hr.symm.trans hother)
  refine ⟨?_, by simpa using followsGrammar_ofLexeme x false, hstack⟩
  by_cases hend : token = .endOfInput
  · exact .inl (hend ▸ State.isLost_successor_endOfInput hstack.state)
  · have hmain : ¬(Derivation.ofLexeme x false).isExtra := by
      simp [Derivation.ofLexeme, Derivation.isExtra, Derivation.info, htoken, hend]
    have hlabel : (Derivation.ofLexeme x false).label = .symbol (.token token) := by
      simp [Derivation.ofLexeme, Derivation.label, Derivation.info, htoken]
    exact .inr ⟨_, rfl, .inr ⟨hmain, _, hlabel, .refl _⟩⟩

/-- What is extra leaves a reading in its state. -/
lemma IsSound.shift_extra (h : s.IsSound) (hr : s.readings[v]? = some r)
    (hlive : s.IsLiveAt v) (x : Lexeme) : (s.shift v x true r.stack.state).IsSound := by
  have hstack := h.stack_at hlive hr
  apply h.shift hstack.state
  intro other hother _
  obtain rfl := Option.some.inj (hr.symm.trans hother)
  exact ⟨.inr ⟨_, rfl, .inl ⟨rfl, .refl _⟩⟩, by simpa using followsGrammar_ofLexeme x true, hstack⟩

/-- What a lookahead leaves to do is what its token does. -/
lemma decision_cases {state : State} {token? : Option Token} {decision : Decision}
    (h : decision = match token? with
      | some token => state.decide token
      | none => .none) :
    decision = .none ∨ ∃ token, token? = some token ∧ decision = state.decide token := by
  cases token? with
  | none => exact .inl h
  | some token => exact .inr ⟨token, rfl, h⟩

/-- Where the text ends on a program, what is found is by the grammar. -/
lemma IsSound.accept_program (h : s.IsSound) (hr : s.readings[v]? = some r)
    (hlive : s.IsLiveAt v) {token : Token} (haccepts : (r.stack.state.decide token).accepts)
    (x : Lexeme) : (s.accept v x).IsSound := by
  apply isSound_accept
  · intro i other hother _
    exact h.at hother
  · intro other hother
    exact (h.at hother).landmarks
  · intro other hother
    obtain rfl := Option.some.inj (hr.symm.trans hother)
    exact endsByGrammar_of_accepts (h.stack_at hlive hr) haccepts
  · exact h.finished

/-- What a reading does on a token is by the grammar. -/
lemma IsSound.act {fuel : Nat} {x : Lexeme} (h : s.IsSound) (hlive : s.IsLiveAt v) :
    (s.act v fuel x).IsSound := by
  induction fuel generalizing s x with
  | zero => exact h.giveUp v
  | succ fuel ih =>
    unfold Search.act
    split
    · exact h
    next r hr =>
    have hstack := h.stack_at hlive hr
    extract_lets state decision extra
    by_cases hlost : state.isLost
    · rw [if_pos hlost]
      split_ifs
      · exact h.shift_extra hr hlive x
      · exact h.recover hlive x
    rw [if_neg hlost]
    have hdecision : decision = .none ∨
        ∃ token, x.token = some token ∧ decision = state.decide token := decision_cases rfl
    clear_value decision
    have hreduces : ∀ q ∈ decision.reduces, ∃ token, q ∈ (state.decide token).reduces := by
      rcases hdecision with rfl | ⟨token, -, rfl⟩
      · exact nofun
      · exact fun q hq => ⟨token, hq⟩
    have hclosed := h.foldl_reduceFrom hr (hlive r hr) hreduces
    split
    next t last heq =>
    rw [heq] at hclosed
    have hr' := hclosed.grows.same r hr
    have hlive' := hclosed.grows.keepsLive v hlive
    split
    · next haccepts =>
      rcases hdecision with rfl | ⟨token, -, rfl⟩
      · cases haccepts
      · exact hclosed.isSound.accept_program hr' hlive' haccepts x
    · split
      · next target hshift =>
        rcases hdecision with rfl | ⟨token, htoken, rfl⟩
        · cases hshift
        split_ifs
        · exact hclosed.isSound.shift_main hr' hlive' htoken hshift
        · split
          · next new =>
            obtain ⟨hnext, hliveNext⟩ := hclosed.replace hr rfl
            exact ih hnext hliveNext
          · exact hclosed.isSound
      · next new _ =>
        obtain ⟨hnext, hliveNext⟩ := hclosed.replace hr rfl
        exact ih hnext hliveNext
      · split_ifs
        · exact hclosed.isSound.shift_extra hr' hlive' x
        · exact ih hclosed.isSound hlive'
        · apply hclosed.isSound.modify
          intro other hother
          obtain rfl := Option.some.inj (hr'.symm.trans hother)
          exact ⟨fun _ => hstack, (h.at hr).landmarks⟩

lemma isLiveAt_of_isActive (hr : s.readings[v]? = some r) (hactive : r.status.isActive) :
    s.IsLiveAt v := by
  intro other hother
  obtain rfl := Option.some.inj (hr.symm.trans hother)
  exact not_isGivenUp_of_isActive hactive

lemma IsSound.advanceFrom (h : s.IsSound) (bound v fuel last : Nat) :
    (Search.advanceFrom bound v fuel last s).1.IsSound := by
  induction fuel generalizing last s with
  | zero => exact h.giveUp v
  | succ fuel ih =>
    unfold Search.advanceFrom
    split
    · exact h
    next r hr =>
    split_ifs with hactive
    · have hnext : (s.advance v bound).IsSound := by
        unfold Search.advance
        rw [hr]
        exact h.act (isLiveAt_of_isActive hr hactive)
      dsimp only
      split
      · exact hnext
      · split_ifs
        · exact hnext
        · exact ih hnext last
    · exact h

lemma IsSound.advanceAll (h : s.IsSound) (bound fuel v last : Nat) :
    (Search.advanceAll bound fuel v last s).1.IsSound := by
  induction fuel generalizing v last s with
  | zero => exact h
  | succ fuel ih =>
    unfold Search.advanceAll
    split_ifs
    · exact ih (h.advanceFrom bound v bound last) _ _
    · exact h

/-! ### Order among the readings -/

lemma IsSound.sortOne (h : s.IsSound) (standing : Reading.Standing) (fuel i j : Nat) :
    (Search.sortOne standing fuel i j s).1.IsSound := by
  induction fuel generalizing i j s with
  | zero => exact h
  | succ fuel ih =>
    unfold Search.sortOne
    split_ifs
    · exact h
    split
    · next earlier later hearlier hlater =>
      have hjoined : ∀ t, s.join? j i = some t → t.IsSound := fun t ht => (h.join? ht).1
      have hswapped : IsSound { s with readings := (s.readings.set i earlier).set j later } := by
        refine ⟨?_, h.finished⟩
        intro r hr
        rcases List.mem_or_eq_of_mem_set hr with hr | rfl
        · rcases List.mem_or_eq_of_mem_set hr with hr | rfl
          · exact h.reading r hr
          · exact h.at hearlier
        · exact h.at hlater
      split
      · exact h.remove i
      · split
        · next t ht => exact hjoined t ht
        · exact ih h i (j + 1)
      · split
        · next t ht => exact hjoined t ht
        · exact ih h i (j + 1)
      · split
        · next t ht => exact hjoined t ht
        · exact ih hswapped i (j + 1)
      · exact ih (h.remove j) (i - 1) j
    · exact h

lemma IsSound.sort (h : s.IsSound) (fuel i : Nat) (least : Option Nat) :
    (Search.sort fuel i least s).1.IsSound := by
  induction fuel generalizing i least s with
  | zero => exact h
  | succ fuel ih =>
    unfold Search.sort
    split
    · exact h
    next r hr =>
    split
    · exact ih (h.remove i) i least
    · extract_lets standing least'
      split
      next t next heq =>
      have ht := h.sortOne standing (2 * i + 2) i 0
      rw [heq] at ht
      exact ih ht next least'

/-- The reading that is woken was not given up. -/
lemma IsSound.wake (h : s.IsSound) (fuel i bound : Nat) (awake : Bool) (least : Option Nat) :
    (Search.wake fuel i bound awake least s).1.IsSound := by
  induction fuel generalizing i bound awake least s with
  | zero => exact h
  | succ fuel ih =>
    unfold Search.wake
    split
    · exact h
    split
    · exact h
    next r hr =>
    split
    · next x hwaiting =>
      split
      · apply ih
        have hstack : r.stack.IsSound := (h.at hr).stack (hwaiting ▸ nofun)
        apply IsSound.handleError
        · apply h.modify
          intro other hother
          obtain rfl := Option.some.inj (hr.symm.trans hother)
          exact ⟨fun _ => hstack, (h.at hr).landmarks⟩
        · show i < (s.readings.modify i _).length
          rw [List.length_modify]
          exact (List.getElem?_eq_some_iff.mp hr).1
        · intro other hother
          obtain ⟨old, hold, rfl⟩ := exists_of_getElem?_modify hother
          rw [if_pos rfl]
          exact Bool.false_ne_true
      · exact ih (h.remove i) _ _ _ _
    · exact ih h _ _ _ _

lemma IsSound.condense (h : s.IsSound) : s.condense.1.IsSound := by
  unfold Search.condense
  extract_lets n
  split
  next t least heq =>
  have ht := h.sort (n * n + n + 1) 0 none
  rw [heq] at ht
  have htake : IsSound { t with readings := t.readings.take maxReadings } :=
    ⟨fun r hr => ht.reading r (List.mem_of_mem_take hr), ht.finished⟩
  exact htake.wake _ _ _ _ _

lemma IsSound.run (h : s.IsSound) (bound fuel last : Nat) :
    (Search.run bound fuel last s).IsSound := by
  induction fuel generalizing last s with
  | zero => exact h
  | succ fuel ih =>
    unfold Search.run
    split
    next t last' hadvance =>
    have ht := h.advanceAll bound 64 0 last
    rw [hadvance] at ht
    split
    next u least hcondense =>
    have hu := ht.condense
    rw [hcondense] at hu
    extract_lets done
    split_ifs
    · exact hu
    · exact ih hu last'

lemma isSound_ofText (text : List Char) : (ofText text).IsSound := by
  refine ⟨?_, nofun⟩
  intro r hr
  obtain rfl := List.mem_singleton.mp hr
  exact Reading.isSound_of_stack (Stack.isSound_bottom 0 _) _ _

end Search

/-- Whatever the text, what the parser derives is by the grammar. -/
theorem derive_followsGrammar (text : List Char) : (derive text).FollowsGrammar := by
  unfold derive
  extract_lets bound search
  have hsound : search.IsSound := (Search.isSound_ofText text).run bound bound 0
  cases hfinished : search.finished with
  | none => exact .error (.inl rfl) rfl nofun
  | some d => exact hsound.finished d hfinished

/-- The tree of a text that is Python is a syntax tree. -/
theorem isSyntaxTree_of_parse {source : String} {tree : Node} (h : parse source = .ok tree) :
    tree.IsSyntaxTree := by
  rw [(parse_eq_ok_iff.mp h).1]
  exact (derive_followsGrammar source.toList).isSyntaxTree_tree

end NotebookExport.Python
