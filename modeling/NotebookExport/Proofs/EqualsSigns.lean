import NotebookExport.Proofs.Rendering

/-!
# Equals signs

Every target that a pass removes takes an equals sign with it. What a pass renders may be longer
than the text it had, as blanks and line ends are set anew; but it has at least as many equals signs
less as there are targets gone. So a cascade removes no more targets than the text has equals signs,
pruning always has an end, and a text from which something was removed never comes out as it was.

Of the parser only this is asked: the statements of a tree are stretches of the text, one behind the
other, and an equals sign stands between the two sides of an assignment, outside both.
-/

namespace NotebookExport

open Python Text

variable {parser : Parser} {source text : String}

/-! ### Counting -/

def equalsSigns (text : String) : Nat := text.toList.count '='

@[simp] lemma equalsSigns_append (s t : String) :
    equalsSigns (s ++ t) = equalsSigns s + equalsSigns t := by
  simp [equalsSigns]

lemma equalsSigns_join_cons (s : String) (ss : List String) :
    equalsSigns (String.join (s :: ss)) = equalsSigns s + equalsSigns (String.join ss) := by
  rw [String.join_cons, equalsSigns_append]

/-- The equals signs before a place of a text. -/
def signsBefore (source : String) (i : Nat) : Nat := (source.toList.take i).count '='

lemma signsBefore_mono (source : String) {i j : Nat} (h : i ≤ j) :
    signsBefore source i ≤ signsBefore source j :=
  (List.take_sublist_take_left h).count_le '='

lemma signsBefore_le (source : String) (i : Nat) : signsBefore source i ≤ equalsSigns source :=
  (List.take_sublist i source.toList).count_le '='

/-- The equals signs before the end of a stretch are those before it and those in it. -/
lemma signsBefore_add (source : String) {i j : Nat} (h : i ≤ j) :
    signsBefore source i + ((source.toList.drop i).take (j - i)).count '=' =
      signsBefore source j := by
  rw [signsBefore, signsBefore, ← List.count_append, ← List.take_add, Nat.add_sub_cancel' h]

lemma signsBefore_text (source : String) {n : Node} (h : n.start.index ≤ n.stop.index) :
    signsBefore source n.start.index + equalsSigns (n.text source) =
      signsBefore source n.stop.index := by
  rw [← signsBefore_add source h, equalsSigns, Node.text, String.toList_ofList]

lemma signsBefore_lt {i j : Nat} (h : '=' ∈ (source.toList.drop i).take (j - i)) :
    signsBefore source i < signsBefore source j := by
  have hij : i ≤ j := by
    by_contra hji
    simp [Nat.sub_eq_zero_of_le (Nat.le_of_not_le hji)] at h
  have hpos := List.count_pos_iff.mpr h
  rw [← signsBefore_add source hij]
  omega

/-! ### Pieces of a text -/

namespace Python.Node

/-- In an assignment an equals sign stands between what is on the left and what is on the right. -/
def HasSign (source : String) (n : Node) : Prop :=
  isUntypedAssignment n → ∀ left ∈ n.child? .left, ∀ right ∈ n.child? .right,
    n.start.index ≤ left.start.index ∧ left.start.index ≤ left.stop.index ∧
      '=' ∈ (source.toList.drop left.stop.index).take (right.start.index - left.stop.index) ∧
      right.start.index ≤ right.stop.index ∧ right.stop.index ≤ n.stop.index

instance (source : String) (n : Node) : Decidable (n.HasSign source) :=
  inferInstanceAs (Decidable (isUntypedAssignment n → ∀ left ∈ n.child? .left,
    ∀ right ∈ n.child? .right, _))

/-- The statements of a tree stand one behind the other, and each assignment has its sign. -/
structure IsSliced (source : String) (tree : Node) : Prop where
  start_le : ∀ n ∈ tree.namedChildren, n.start.index ≤ n.stop.index
  ordered : tree.namedChildren.Pairwise fun m n => m.stop.index ≤ n.start.index
  within : ∀ n ∈ tree.namedChildren, ∀ part ∈ n.namedChildren,
    n.start.index ≤ part.start.index ∧ part.stop.index ≤ n.stop.index
  hasSign : ∀ n ∈ tree.preorder, n.HasSign source

end Python.Node

/-- Every text that a parser accepts is read as such a tree. -/
def ReadsSlices (parser : Parser) : Prop :=
  ∀ text tree, parser text = .ok tree → tree.IsSliced text

/-- The texts of nodes in a row have no more equals signs than the text from where they begin. -/
lemma signsBefore_add_join_le (source : String) {ns : List Node} {i : Nat}
    (hstart : ∀ n ∈ ns, i ≤ n.start.index ∧ n.start.index ≤ n.stop.index)
    (hordered : ns.Pairwise fun m n => m.stop.index ≤ n.start.index) :
    signsBefore source i + equalsSigns (String.join (ns.map (Node.text source))) ≤
      equalsSigns source := by
  induction ns generalizing i with
  | nil => simpa [equalsSigns, String.join_nil] using signsBefore_le source i
  | cons n ns ih =>
    obtain ⟨hbehind, hordered⟩ := List.pairwise_cons.mp hordered
    obtain ⟨hi, hn⟩ := hstart n List.mem_cons_self
    have hrest := ih
      (fun m hm => ⟨hbehind m hm, (hstart m (List.mem_cons_of_mem _ hm)).2⟩) hordered
    have hbefore := signsBefore_mono source hi
    have htext := signsBefore_text source hn
    rw [List.map_cons, equalsSigns_join_cons]
    omega

/-! ### Statements -/

/-- The equals signs of targets, with the one behind each. -/
def signsOf (targets : List Target) : Nat :=
  equalsSigns (String.join (targets.map fun t => t.text ++ " = "))

lemma signsOf_cons (t : Target) (ts : List Target) :
    signsOf (t :: ts) = equalsSigns t.text + 1 + signsOf ts := by
  rw [signsOf, List.map_cons, equalsSigns_join_cons, equalsSigns_append]
  rfl

lemma length_le_signsOf (targets : List Target) : targets.length ≤ signsOf targets := by
  induction targets with
  | nil => exact Nat.zero_le _
  | cons t ts ih =>
    rw [signsOf_cons, List.length_cons]
    omega

lemma signsOf_filter_add (p : Target → Bool) (targets : List Target) :
    signsOf (targets.filter p) + signsOf (targets.filter fun t => !p t) = signsOf targets := by
  induction targets with
  | nil => rfl
  | cons t ts ih =>
    cases hp : p t with
    | false =>
      rw [List.filter_cons_of_neg (by simp [hp]), List.filter_cons_of_pos (by simp [hp]),
        signsOf_cons, signsOf_cons]
      omega
    | true =>
      rw [List.filter_cons_of_pos hp, List.filter_cons_of_neg (by simp [hp]), signsOf_cons,
        signsOf_cons]
      omega

mutual

/-- The pieces of a chain have no more equals signs than the chain. -/
lemma signs_of_chain {n : Node} {targets : List Target} {value : String}
    (hsign : ∀ m ∈ n.preorder, m.HasSign source) (hn : isUntypedAssignment n)
    (h : Assignment.chain source n = some (targets, value)) :
    signsBefore source n.start.index + signsOf targets + equalsSigns value ≤
      signsBefore source n.stop.index := by
  match n with
  | .node info children =>
    simp only [Assignment.chain] at h
    split at h
    case h_1 => cases h
    case h_2 left hleft =>
      obtain ⟨⟨further, value'⟩, hright, heq⟩ := Option.map_eq_some_iff.mp h
      obtain ⟨rfl, rfl⟩ := Prod.mk.inj heq
      have hbetween := hsign _ (Node.mem_preorder_self _) hn left hleft
      obtain ⟨right, hfind, hrest⟩ := signs_of_rightOfChain
        (fun m hm => hsign m (List.mem_cons_of_mem _ hm))
        (fun right hright => (hbetween right hright).2.2.2.1) hright
      obtain ⟨hstart, hleft, hequals, -, hstop⟩ := hbetween right hfind
      have hbefore := signsBefore_mono source hstart
      have htext := signsBefore_text source hleft
      have hlt := signsBefore_lt hequals
      have hbehind := signsBefore_mono source hstop
      simp only [signsOf_cons, Target.text_ofNode]
      omega

lemma signs_of_rightOfChain {ns : List Node} {targets : List Target} {value : String}
    (hsign : ∀ m ∈ Node.preorderAll ns, m.HasSign source)
    (hright : ∀ right ∈ ns.find? (·.hasRole .right), right.start.index ≤ right.stop.index)
    (h : Assignment.rightOfChain source ns = some (targets, value)) :
    ∃ right ∈ ns.find? (·.hasRole .right),
      signsBefore source right.start.index + signsOf targets + equalsSigns value ≤
        signsBefore source right.stop.index := by
  match ns with
  | [] => simp [Assignment.rightOfChain] at h
  | n :: ns =>
    simp only [Assignment.rightOfChain] at h
    rw [Node.preorderAll] at hsign
    split_ifs at h with hrole huntyped
    · refine ⟨n, by simp [hrole], ?_⟩
      exact signs_of_chain (fun m hm => hsign m (List.mem_append_left _ hm)) huntyped h
    · obtain ⟨rfl, rfl⟩ := Prod.mk.inj (Option.some.inj h)
      have htext := signsBefore_text source (hright n (by simp [hrole]))
      exact ⟨n, by simp [hrole], Nat.le_of_eq htext⟩
    · have hfind : (n :: ns).find? (·.hasRole .right) = ns.find? (·.hasRole .right) := by
        simp [hrole]
      rw [hfind] at hright ⊢
      exact signs_of_rightOfChain (fun m hm => hsign m (List.mem_append_right _ hm)) hright h

end

lemma Assignment.equalsSigns_render (a : Assignment) :
    equalsSigns a.render =
      signsOf a.targets + equalsSigns a.value + (a.comment.map equalsSigns).getD 0 := by
  have hblanks : equalsSigns "  " = 0 := by rfl
  rw [render, equalsSigns_append, equalsSigns_append, ← signsOf]
  cases a.comment with
  | none => rfl
  | some comment => simp [spaced, hblanks]

namespace Statement

/-- A statement is rendered with no more equals signs than its node has. -/
lemma equalsSigns_render_ofNode {tree n : Node} (h : tree.IsSliced source)
    (hn : n ∈ tree.namedChildren) :
    equalsSigns (ofNode source n).render ≤ equalsSigns (n.text source) := by
  rcases exists_assignment_or_render_ofNode source n with ⟨a, ha⟩ | hrender
  · obtain ⟨only, honly, huntyped, hchain, hcomment⟩ :=
      Assignment.ofStatement?_eq_some (ofStatement?_of_ofNode ha).2
    have hpart : only ∈ n.namedChildren := by simp [honly]
    have hsub : only.preorder ⊆ tree.preorder :=
      List.Subset.trans
        (Node.preorder_subset_of_mem_children (Node.mem_children_of_mem_namedChildren hpart))
        (Node.preorder_subset_of_mem_children (Node.mem_children_of_mem_namedChildren hn))
    have hsigns := signs_of_chain (fun m hm => h.hasSign m (hsub hm)) huntyped hchain
    obtain ⟨hstart, hstop⟩ := h.within n hn only hpart
    have hbefore := signsBefore_mono source hstart
    have hbehind := signsBefore_mono source hstop
    have htext := signsBefore_text source (h.start_le n hn)
    rw [ha, render, Assignment.equalsSigns_render, hcomment]
    simp only [Option.map_none, Option.getD_none]
    omega
  · exact Nat.le_of_eq (congrArg equalsSigns hrender)

lemma equalsSigns_render_attach (s : Statement) (comment : String) :
    equalsSigns (s.attach comment).render ≤ equalsSigns s.render + equalsSigns comment := by
  cases s with
  | assignment a =>
    simp only [attach, render, Assignment.equalsSigns_render, Option.map_some, Option.getD_some]
    omega
  | _ =>
    have hblanks : equalsSigns "  " = 0 := by rfl
    simp [attach, render, Assignment.spaced, hblanks]

/-- What stays of a statement has as many equals signs less as it has dead targets. -/
lemma equalsSigns_retain (unread : List String) (s : Statement) :
    ((s.retain unread).map fun s' => equalsSigns s'.render).getD 0 +
      (s.deadTargets unread).length ≤ equalsSigns s.render := by
  cases s with
  | assignment a =>
    have hsplit := signsOf_filter_add (Target.isLive unread) a.targets
    have hdead := length_le_signsOf (a.targets.filter fun t => !t.isLive unread)
    simp only [retain, deadTargets, Assignment.deadTargets, render, Assignment.equalsSigns_render]
    split_ifs <;>
      simp only [Option.map_none, Option.map_some, Option.getD_none, Option.getD_some,
        Assignment.equalsSigns_render] <;>
      omega
  | _ => simp [retain, deadTargets]

end Statement

/-! ### Passes -/

lemma equalsSigns_renderStatements_cons (s : Statement) (ss : List Statement) :
    equalsSigns (renderStatements (s :: ss)) =
      equalsSigns s.render + equalsSigns (renderStatements ss) := by
  have hfeed : equalsSigns "\n" = 0 := by rfl
  simp [renderStatements_cons, hfeed]

/-- Statements are rendered with no more equals signs than their nodes have. -/
lemma equalsSigns_renderStatements_ofNodes (before : Option (Statement × Nat)) {ns : List Node}
    (h : ∀ n ∈ ns, equalsSigns (Statement.ofNode source n).render ≤ equalsSigns (n.text source)) :
    equalsSigns (renderStatements (Statement.ofNodes source before ns)) ≤
      (before.map fun b => equalsSigns b.1.render).getD 0 +
        equalsSigns (String.join (ns.map (Node.text source))) := by
  induction ns generalizing before with
  | nil =>
    have hnone : equalsSigns (renderStatements []) = 0 := by rfl
    cases before <;> simp [Statement.ofNodes, equalsSigns_renderStatements_cons, hnone]
  | cons n ns ih =>
    obtain ⟨hn, hns⟩ := List.forall_mem_cons.mp h
    have hown := ih (some (Statement.ofNode source n, n.stop.row)) hns
    simp only [Option.map_some, Option.getD_some] at hown
    rw [List.map_cons, equalsSigns_join_cons]
    rcases before with _ | ⟨s, row⟩
    · simp only [Statement.ofNodes, Option.map_none, Option.getD_none]
      omega
    · simp only [Statement.ofNodes, Option.map_some, Option.getD_some]
      split_ifs with hcomment
      · have hattach := s.equalsSigns_render_attach (n.text source)
        have hrest := ih (some (s.attach (n.text source), row)) hns
        simp only [Option.map_some, Option.getD_some] at hrest
        omega
      · rw [equalsSigns_renderStatements_cons]
        omega

/-- What stays of statements has as many equals signs less as they have dead targets. -/
lemma equalsSigns_renderStatements_retain (unread : List String) (ss : List Statement) :
    equalsSigns (renderStatements (ss.filterMap (Statement.retain unread))) +
      (ss.flatMap (Statement.deadTargets unread)).length ≤ equalsSigns (renderStatements ss) := by
  induction ss with
  | nil => simp
  | cons s ss ih =>
    have hs := s.equalsSigns_retain unread
    rw [List.flatMap_cons, List.length_append, equalsSigns_renderStatements_cons]
    cases hretain : s.retain unread with
    | none =>
      simp only [hretain, Option.map_none, Option.getD_none] at hs
      rw [List.filterMap_cons_none hretain]
      omega
    | some s' =>
      simp only [hretain, Option.map_some, Option.getD_some] at hs
      rw [List.filterMap_cons_some hretain, equalsSigns_renderStatements_cons]
      omega

/-- A pass takes away an equals sign with every target that it removes. -/
theorem Pass.equalsSigns_code {tree : Node} (h : tree.IsSliced source) :
    equalsSigns (Pass.ofTree source tree).code + (Pass.ofTree source tree).removed.length ≤
      equalsSigns source := by
  by_cases hremoved : (Pass.ofTree source tree).removed = []
  · simp [code_ofTree_of_removed_eq_nil hremoved, hremoved]
  · have hlength : (Pass.ofTree source tree).removed.length =
        ((Statement.ofTree source tree).flatMap
          (Statement.deadTargets (NameUsage.ofTree source tree).unread)).length := by
      simp [Pass.ofTree]
    have hretain := equalsSigns_renderStatements_retain (NameUsage.ofTree source tree).unread
      (Statement.ofTree source tree)
    have hstatements : equalsSigns (renderStatements (Statement.ofTree source tree)) ≤
        0 + equalsSigns (String.join (tree.namedChildren.map (Node.text source))) :=
      equalsSigns_renderStatements_ofNodes none fun n hn => Statement.equalsSigns_render_ofNode h hn
    have hslices := signsBefore_add_join_le source
      (fun n hn => ⟨Nat.zero_le n.start.index, h.start_le n hn⟩) h.ordered
    rw [code_ofTree_of_removed_ne_nil hremoved, hlength]
    omega

/-! ### Cascades -/

section Slices

variable (hslices : ReadsSlices parser)
include hslices

/-- A cascade takes away an equals sign with every target that it removes. -/
theorem Cascade.equalsSigns_add_length {passes : List (List String)}
    (h : Cascade parser source passes text) :
    equalsSigns text + passes.flatten.length ≤ equalsSigns source := by
  induction h with
  | refl => simp
  | @pass source text first passes hrun hremoved rest ih =>
    obtain ⟨tree, htree, rfl⟩ := Pass.run_eq_ok_iff.mp hrun
    have hfirst := Pass.equalsSigns_code (hslices source tree htree)
    rw [List.flatten_cons, List.length_append]
    omega

/-- Every text has a cascade to a text that is refused or from which nothing is removed. -/
lemma Cascade.exists_end (source : String) :
    ∃ passes text, Cascade parser source passes text ∧
      ((∃ pass, Pass.run parser text = .ok pass ∧ pass.removed = []) ∨
        ∃ fault, parser text = .error fault) := by
  induction hcount : equalsSigns source using Nat.strongRecOn generalizing source with
  | _ count ih =>
    cases htree : parser source with
    | error fault => exact ⟨[], source, .refl source, .inr ⟨fault, htree⟩⟩
    | ok tree =>
      have hrun := Pass.run_of_parse htree
      by_cases hremoved : (Pass.ofTree source tree).removed = []
      · exact ⟨[], source, .refl source, .inl ⟨_, hrun, hremoved⟩⟩
      · have hpos := List.length_pos_iff.mpr hremoved
        have hcode := Pass.equalsSigns_code (hslices source tree htree)
        obtain ⟨passes, text, hcascade, hend⟩ :=
          ih (equalsSigns (Pass.ofTree source tree).code) (by omega) _ rfl
        exact ⟨_, text, .pass hrun hremoved hcascade, hend⟩

/-- Pruning has an end for each text that the parser reads, and reaches it within the bound. -/
theorem exists_prunes {tree : Node} (htree : parser source = .ok tree) :
    ∃ o, prune parser source = .ok o ∧ Prunes parser source o := by
  have hprune : ∀ {o}, Prunes parser source o → prune parser source = .ok o := by
    intro o ho
    have hcascade := ho.cascade.1
    have hsigns := hcascade.equalsSigns_add_length hslices
    have hlength := hcascade.length_le
    have hbound : passBound source = equalsSigns source + 1 := rfl
    exact ho.prune_eq (by omega)
  obtain ⟨passes, text, hcascade, ⟨pass, hrun, hremoved⟩ | ⟨fault, hfault⟩⟩ :=
    Cascade.exists_end hslices source
  · have ho := hcascade.prunes htree hrun hremoved
    exact ⟨_, hprune ho, ho⟩
  · have hne : passes ≠ [] := by
      rintro rfl
      cases hcascade
      simp [htree] at hfault
    have ho := hcascade.prunes_of_error htree hne hfault
    exact ⟨_, hprune ho, ho⟩

/-- Pruning changes a text exactly if it removes something. -/
theorem Prunes.code_ne_iff {o : Pruned} (h : Prunes parser source o) :
    o.code ≠ source ↔ o.removed ≠ [] := by
  obtain ⟨hcascade, -⟩ := h.cascade
  have hsigns := hcascade.equalsSigns_add_length hslices
  constructor
  · intro hcode hremoved
    have hnil : o.passes = [] := by
      by_contra hne
      exact hcascade.flatten_ne_nil hne hremoved
    rw [hnil] at hcascade
    generalize o.code = code at hcascade hcode
    cases hcascade
    exact hcode rfl
  · intro hremoved hcode
    have hpos : 0 < o.passes.flatten.length := List.length_pos_iff.mpr hremoved
    rw [hcode] at hsigns
    omega

end Slices

/-! ### The cell with a cycle -/

lemma readsSlices_cyclicParser : ReadsSlices cyclicParser := by
  intro text tree h
  obtain ⟨rfl, rfl⟩ | ⟨rfl, rfl⟩ := cyclicParser_eq_ok h
  · exact ⟨by decide, by decide, by decide, by decide⟩
  · exact ⟨by decide, by decide, by decide, by decide⟩

end NotebookExport
