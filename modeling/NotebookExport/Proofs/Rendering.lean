import NotebookExport.Proofs.Cascade
import NotebookExport.Proofs.Placement

/-!
# Rendering and reading again

Lowering undoes rendering: if the text that a pass renders is read as the kept pieces in their new
places, then its statements are those that were rendered.
-/

namespace NotebookExport

open Python Text

variable {source text : String} {unread : List String} {place : Position}

/-! ### Moved pieces -/

namespace Python.Node

variable {n : Node}

@[simp] lemma start_moveTo (n : Node) (place : Position) : (n.moveTo place).start = place := by
  simp [moveTo]

lemma LiesIn.stop_moveTo (hn : n.LiesIn source) (place : Position) :
    (n.moveTo place).stop.index = place.index + (n.text source).length := by
  simp [moveTo, Position.moved, hn.length_text]

lemma row_le_stop_moveTo (n : Node) (place : Position) : place.row ≤ (n.moveTo place).stop.row := by
  simp [moveTo, Position.moved]

end Python.Node

/-! ### Chains -/

/-- An assignment of three parts has one target more than what stands on its right. -/
lemma chain_three {info : NodeInfo} {left sign right : Node} (hleft : left.hasRole .left)
    (hsign : sign.role? = none) (hright : right.hasRole .right) :
    Assignment.chain text (.node info [left, sign, right]) =
      (if isUntypedAssignment right then Assignment.chain text right
        else some ([], right.text text)).map fun (targets, value) =>
          (Target.ofNode text left :: targets, value) := by
  have hnot : left.hasRole .right = false ∧ sign.hasRole .right = false := by
    simp [Node.hasRole, Node.hasRole_iff.mp hleft, hsign]
  simp [Assignment.chain, Assignment.rightOfChain, Node.child?, Node.children, hleft, hright, hnot]

lemma isUntypedAssignment_three {info : NodeInfo} {left sign right : Node}
    (hkind : info.kind = .phrase .assignment) (hleft : left.hasRole .left)
    (hsign : sign.role? = none) (hright : right.hasRole .right) :
    isUntypedAssignment (.node info [left, sign, right]) := by
  simp [isUntypedAssignment, Node.kind, Node.info, hkind, Node.child?, Node.children, Node.hasRole,
    Node.hasRole_iff.mp hleft, Node.hasRole_iff.mp hright, hsign]

/-- The left sides of a chain as they are rendered. -/
def renderedSides (source : String) (ts : List Node) : String :=
  String.join (ts.map fun t => t.text source ++ " = ")

lemma renderedSides_cons (source : String) (t : Node) (ts : List Node) :
    renderedSides source (t :: ts) = t.text source ++ (" = " ++ renderedSides source ts) := by
  simp [renderedSides, String.join_cons, String.append_assoc]

/-- What stands on the right of a sign: a value, or a chain of further targets with it. -/
structure IsRight (source text : String) (place : Position) (ts : List Node) (value : Node)
    (right : Node) : Prop where
  role : right.hasRole .right
  chain : (if isUntypedAssignment right then Assignment.chain text right
    else some ([], right.text text)) = some (ts.map (Target.ofNode source), value.text source)
  stop : right.stop.index = place.index + (renderedSides source ts ++ value.text source).length

/-- One more target before what stands on the right. -/
lemma chain_cons {value t : Node} (field : Option Field) {ts : List Node} (ht : t.LiesIn source)
    (hleft : t.hasRole .left)
    (h : HasAt text place.index (renderedSides source (t :: ts) ++ value.text source))
    (hright : IsRight source text ((t.moveTo place).stop.right 3) ts value
      (chainNode value (some .right) ((t.moveTo place).stop.right 3) ts)) :
    isUntypedAssignment (chainNode value field place (t :: ts)) ∧
      Assignment.chain text (chainNode value field place (t :: ts)) =
        some ((t :: ts).map (Target.ofNode source), value.text source) ∧
      (chainNode value field place (t :: ts)).stop.index =
        place.index + (renderedSides source (t :: ts) ++ value.text source).length := by
  have hrole : (t.moveTo place).hasRole .left := by simpa [Node.moveTo] using hleft
  rw [renderedSides_cons, String.append_assoc] at h
  have htarget : Target.ofNode text (t.moveTo place) = Target.ofNode source t :=
    Target.ofNode_map (ht.sameTexts h.left)
  refine ⟨isUntypedAssignment_three rfl hrole rfl hright.role, ?_, ?_⟩
  · rw [chainNode, chain_three hrole rfl hright.role, hright.chain, htarget]
    rfl
  · have hsame : (chainNode value field place (t :: ts)).stop =
        (chainNode value (some .right) ((t.moveTo place).stop.right 3) ts).stop := rfl
    have hsign : " = ".length = 3 := by rfl
    rw [hsame, hright.stop, renderedSides_cons]
    simp only [Position.right, ht.stop_moveTo, String.length_append, hsign]
    omega

lemma hasAt_right_of_cons {t : Node} {ts : List Node} {value : String} (ht : t.LiesIn source)
    (h : HasAt text place.index (renderedSides source (t :: ts) ++ value)) :
    HasAt text ((t.moveTo place).stop.right 3).index (renderedSides source ts ++ value) := by
  have hplace : ((t.moveTo place).stop.right 3).index =
      place.index + (t.text source).length + " = ".length := by
    rw [Position.right, ht.stop_moveTo]
    rfl
  rw [renderedSides_cons, String.append_assoc, String.append_assoc] at h
  exact hplace ▸ h.right.right

lemma isRight_chainNode {value : Node} {ts : List Node}
    (hts : ∀ t ∈ ts, t.LiesIn source ∧ t.hasRole .left) (hvalue : value.LiesIn source)
    (huntyped : isUntypedAssignment value = false) (hrole : value.hasRole .right)
    (h : HasAt text place.index (renderedSides source ts ++ value.text source)) :
    IsRight source text place ts value (chainNode value (some .right) place ts) := by
  induction ts generalizing place with
  | nil =>
    have hvalueAt : HasAt text place.index (value.text source) := by
      simpa [renderedSides, String.join_nil] using h
    refine ⟨by simpa [chainNode, Node.moveTo] using hrole, ?_, ?_⟩
    · simp [chainNode, Node.moveTo, huntyped, (hvalue.sameTexts hvalueAt).self]
    · simp [chainNode, hvalue.stop_moveTo, renderedSides, String.join_nil]
  | cons t ts ih =>
    obtain ⟨ht, hleft⟩ := hts t List.mem_cons_self
    have hrest := ih (fun t' ht' => hts t' (List.mem_cons_of_mem _ ht')) (hasAt_right_of_cons ht h)
    obtain ⟨huntyped', hchain, hstop⟩ := chain_cons (some .right) ht hleft h hrest
    exact ⟨Node.hasRole_iff.mpr rfl, by rw [if_pos huntyped', hchain], hstop⟩

/-- A chain that is made anew has the given targets and value. -/
lemma chain_chainNode {value t : Node} (field : Option Field) {ts : List Node}
    (hts : ∀ t' ∈ t :: ts, t'.LiesIn source ∧ t'.hasRole .left) (hvalue : value.LiesIn source)
    (huntyped : isUntypedAssignment value = false) (hrole : value.hasRole .right)
    (h : HasAt text place.index (renderedSides source (t :: ts) ++ value.text source)) :
    isUntypedAssignment (chainNode value field place (t :: ts)) ∧
      Assignment.chain text (chainNode value field place (t :: ts)) =
        some ((t :: ts).map (Target.ofNode source), value.text source) ∧
      (chainNode value field place (t :: ts)).stop.index =
        place.index + (renderedSides source (t :: ts) ++ value.text source).length := by
  obtain ⟨ht, hleft⟩ := hts t List.mem_cons_self
  exact chain_cons field ht hleft h (isRight_chainNode
    (fun t' ht' => hts t' (List.mem_cons_of_mem _ ht')) hvalue huntyped hrole
    (hasAt_right_of_cons ht h))

lemma isSome_right_of_rightOfChain {ns : List Node} {r : List Target × String}
    (h : Assignment.rightOfChain text ns = some r) : (ns.find? (·.hasRole .right)).isSome := by
  induction ns with
  | nil => cases h
  | cons n ns ih =>
    simp only [Assignment.rightOfChain] at h
    rw [List.find?_cons]
    split_ifs at h with hrole huntyped
    · simp [hrole]
    · simp [hrole]
    · simpa [hrole] using ih h

lemma isSome_right_of_chain {n : Node} {r : List Target × String}
    (h : Assignment.chain text n = some r) : (n.child? .right).isSome := by
  obtain ⟨info, children⟩ := n
  simp only [Assignment.chain] at h
  split at h
  case h_1 => cases h
  case h_2 =>
    obtain ⟨_, hright, _⟩ := Option.map_eq_some_iff.mp h
    exact isSome_right_of_rightOfChain hright

/-! ### Statements -/

/-- A statement that consists of an untyped assignment with a value is this assignment. -/
lemma Statement.ofNode_of_chain {info : NodeInfo} {only : Node} {targets : List Target}
    {value : String} (hkind : info.kind = .phrase .expressionStatement)
    (huntyped : isUntypedAssignment only)
    (hchain : Assignment.chain text only = some (targets, value)) :
    ofNode text (.node info [only]) = .assignment ⟨targets, value, none⟩ := by
  have hnamed : only.isNamed := by
    simp only [isUntypedAssignment, Bool.and_eq_true, decide_eq_true_eq] at huntyped
    rw [Node.isNamed, huntyped.1]
    rfl
  have hof : Assignment.ofStatement? text (.node info [only]) = some ⟨targets, value, none⟩ := by
    simp [Assignment.ofStatement?, Node.namedChildren, Node.children, hnamed, huntyped,
      isSome_right_of_chain hchain, hchain]
  simp [ofNode, Node.kind, Node.info, hkind, hof]

@[simp] lemma Target.text_ofNode (source : String) (n : Node) :
    (ofNode source n).text = n.text source := by
  unfold ofNode
  split <;> rfl

lemma Statement.render_ofDefinition? {outer inner : Node} {s : Statement}
    (h : ofDefinition? source outer inner = some s) : s.render = outer.text source := by
  unfold ofDefinition? at h
  split at h
  case h_3 => cases h
  all_goals
    obtain rfl := Option.some.inj h
    rfl

/-- A statement that is no assignment is rendered as its own text. -/
lemma Statement.exists_assignment_or_render_ofNode (source : String) (n : Node) :
    (∃ a, ofNode source n = .assignment a) ∨ (ofNode source n).render = n.text source := by
  unfold ofNode
  split
  case h_1 =>
    cases hs : Assignment.ofStatement? source n with
    | none => exact .inr rfl
    | some a => exact .inl ⟨a, rfl⟩
  case h_2 =>
    cases hinner : (n.child? .definition).bind (ofDefinition? source n) with
    | none => exact .inr rfl
    | some s =>
      obtain ⟨_, _, hs⟩ := Option.bind_eq_some_iff.mp hinner
      exact .inr (render_ofDefinition? hs)
  case h_3 =>
    cases hs : ofDefinition? source n n with
    | none => exact .inr rfl
    | some s => exact .inr (render_ofDefinition? hs)

/-! ### Heads of lines -/

/-- The nodes of the targets that stay. -/
def liveNodes (source : String) (unread : List String) (n : Node) : List Node :=
  (Statement.targetNodes n).filter fun t => (Target.ofNode source t).isLive unread

lemma Statement.retain_assignment {n : Node} {a : Assignment}
    (ha : ofNode source n = .assignment a) :
    (ofNode source n).retain unread =
      if (liveNodes source unread n).isEmpty then none
      else some (.assignment { a with
        targets := (liveNodes source unread n).map (Target.ofNode source) }) := by
  have hlive : a.targets.filter (Target.isLive unread) =
      (liveNodes source unread n).map (Target.ofNode source) := by
    rw [targets_of_ofNode ha, List.filter_map]
    rfl
  simp [ha, retain, hlive]

lemma Statement.retain_of_not_assignment {s : Statement} (h : ∀ a, s ≠ .assignment a) :
    s.retain unread = some s := by
  cases s with
  | assignment a => exact absurd rfl (h a)
  | _ => rfl

/-- A statement begins where it is placed. -/
lemma start_of_placeHead {n head : Node} (h : placeHead source unread place n = some head) :
    head.start = place := by
  unfold placeHead at h
  split at h
  case h_1 =>
    split at h
    case h_1 => exact Option.some.inj h ▸ rfl
    case h_2 => cases h
  case h_2 => exact Option.some.inj h ▸ n.start_moveTo place

lemma isNamed_of_placeHead {n head : Node} (h : placeHead source unread place n = some head) :
    head.isNamed = n.isNamed := by
  unfold placeHead at h
  split at h
  case h_1 =>
    split at h
    case h_1 => exact Option.some.inj h ▸ rfl
    case h_2 => cases h
  case h_2 => exact Option.some.inj h ▸ n.isNamed_map

lemma placeHead_of_not_assignment {n : Node} (h : ∀ a, Statement.ofNode source n ≠ .assignment a) :
    placeHead source unread place n = some (n.moveTo place) := by
  unfold placeHead
  split
  case h_1 a ha => exact absurd ha (h a)
  case h_2 => rfl

/-- Nothing is placed of a statement that goes. -/
lemma placeHead_eq_none {n : Node} (h : (Statement.ofNode source n).retain unread = none) :
    placeHead source unread place n = none := by
  cases hs : Statement.ofNode source n with
  | assignment a =>
    rw [Statement.retain_assignment hs] at h
    split_ifs at h with hnone
    have hnil : liveNodes source unread n = [] := List.isEmpty_iff.mp hnone
    simp only [placeHead, hs]
    rw [← liveNodes, hnil]
  | _ => simp [hs, Statement.retain] at h

/-- What is placed of an assignment that stays is a chain of its live targets and its value. -/
lemma exists_chainStatement {n : Node} {a : Assignment} {s : Statement}
    (ha : Statement.ofNode source n = .assignment a)
    (hs : (Statement.ofNode source n).retain unread = some s) :
    ∃ value t ts, n.namedChildren.head?.bind chainValue? = some value ∧
      liveNodes source unread n = t :: ts ∧
      s = .assignment ⟨(t :: ts).map (Target.ofNode source), value.text source, none⟩ ∧
      ∀ place, placeHead source unread place n = some (chainStatement n value place (t :: ts)) := by
  obtain ⟨-, hof⟩ := Statement.ofStatement?_of_ofNode ha
  obtain ⟨only, honly, _, hchain, hcomment⟩ := Assignment.ofStatement?_eq_some hof
  obtain ⟨value, -, hvalue, htext, -⟩ := exists_chainValue hchain
  have hbehind : n.namedChildren.head?.bind chainValue? = some value := by
    simp only [honly, List.head?_cons, Option.bind_some, hvalue]
  rw [Statement.retain_assignment ha] at hs
  split_ifs at hs with hnone
  cases hlive : liveNodes source unread n with
  | nil => simp [hlive] at hnone
  | cons t ts =>
    refine ⟨value, t, ts, hbehind, rfl, ?_, fun place => ?_⟩
    · rw [← Option.some.inj hs, hlive, htext, hcomment]
    · simp only [placeHead, ha, hbehind]
      rw [← liveNodes, hlive]

/-- The sides of an assignment lie in its text, the targets on the left and the value on the right.
-/
lemma Statement.sides_of_ofNode {n value : Node} {ts : List Node} {a : Assignment}
    (hn : n.LiesIn source) (ha : ofNode source n = .assignment a)
    (hvalue : n.namedChildren.head?.bind chainValue? = some value)
    (hts : ∀ t ∈ ts, t ∈ targetNodes n) :
    (∀ t ∈ ts, t.LiesIn source ∧ t.hasRole .left) ∧ value.LiesIn source ∧
      isUntypedAssignment value = false ∧ value.hasRole .right := by
  obtain ⟨-, hof⟩ := ofStatement?_of_ofNode ha
  obtain ⟨only, honly, _, hchain, -⟩ := Assignment.ofStatement?_eq_some hof
  obtain ⟨v, hv, hv', -, huntyped, hrole⟩ := exists_chainValue hchain
  obtain rfl : v = value := by simpa [honly, hv'] using hvalue
  have hmem : only ∈ n.children :=
    Node.mem_children_of_mem_namedChildren (honly ▸ List.mem_singleton_self only)
  have hlies : only.LiesIn source := hn.of_mem_children hmem
  refine ⟨fun t ht => ?_, hlies.of_mem_preorder hv, huntyped, hrole⟩
  have hmem : t ∈ chainTargets only := by simpa [targetNodes, honly] using hts t ht
  obtain ⟨hpre, hleft⟩ := mem_preorder_of_mem_chainTargets hmem
  exact ⟨hlies.of_mem_preorder hpre, hleft⟩

/-- A chain made anew of targets of a statement and its value is an assignment of these. -/
lemma Statement.ofNode_chainStatement {n value t : Node} {ts : List Node} {a : Assignment}
    (hn : n.LiesIn source) (ha : ofNode source n = .assignment a)
    (hvalue : n.namedChildren.head?.bind chainValue? = some value)
    (hts : ∀ t' ∈ t :: ts, t' ∈ targetNodes n)
    (h : HasAt text place.index (renderedSides source (t :: ts) ++ value.text source)) :
    ofNode text (chainStatement n value place (t :: ts)) =
        .assignment ⟨(t :: ts).map (Target.ofNode source), value.text source, none⟩ ∧
      (chainStatement n value place (t :: ts)).stop.index =
        place.index + (renderedSides source (t :: ts) ++ value.text source).length := by
  obtain ⟨hsides, hlies, huntyped, hrole⟩ := sides_of_ofNode hn ha hvalue hts
  obtain ⟨huntyped', hchain, hstop⟩ := chain_chainNode none hsides hlies huntyped hrole h
  exact ⟨ofNode_of_chain (ofStatement?_of_ofNode ha).1 huntyped' hchain, hstop⟩

/-- An assignment without a comment is rendered as its targets and its value. -/
lemma Statement.render_chain (source : String) (value : Node) (ts : List Node) :
    (Statement.assignment ⟨ts.map (Target.ofNode source), value.text source, none⟩).render =
      renderedSides source ts ++ value.text source := by
  simp [render, Assignment.render, renderedSides, Function.comp_def]

/-- What is placed of a statement that stays is this statement with its live targets. -/
lemma exists_placeHead (text : String) (place : Position) {n : Node} {s : Statement}
    (hn : n.LiesIn source)
    (hs : (Statement.ofNode source n).retain unread = some s) :
    ∃ head, placeHead source unread place n = some head ∧
      (HasAt text place.index s.render →
        Statement.ofNode text head = s ∧ head.stop.index = place.index + s.render.length) := by
  by_cases hassignment : ∃ a, Statement.ofNode source n = .assignment a
  · obtain ⟨a, ha⟩ := hassignment
    obtain ⟨value, t, ts, hvalue, hlive, rfl, hhead⟩ := exists_chainStatement ha hs
    refine ⟨_, hhead place, fun h => ?_⟩
    rw [Statement.render_chain] at h ⊢
    exact Statement.ofNode_chainStatement hn ha hvalue
      (fun t' ht' => (List.mem_filter.mp (hlive ▸ ht' : t' ∈ liveNodes source unread n)).1) h
  · have hrender := (Statement.exists_assignment_or_render_ofNode source n).resolve_left hassignment
    have hnot : ∀ a, Statement.ofNode source n ≠ .assignment a := by
      intro a ha
      exact hassignment ⟨a, ha⟩
    rw [Statement.retain_of_not_assignment hnot] at hs
    obtain rfl := Option.some.inj hs
    refine ⟨n.moveTo place, placeHead_of_not_assignment hnot, ?_⟩
    intro h
    rw [hrender] at h ⊢
    exact ⟨Statement.ofNode_map (hn.sameTexts h), hn.stop_moveTo place⟩

/-! ### Comments -/

/-- A statement with comments behind it. -/
def Statement.attachAll (source : String) (s : Statement) (cs : List Node) : Statement :=
  cs.foldl (fun s c => s.attach (c.text source)) s

/-- Comments as they are rendered. -/
def renderedComments (source : String) (cs : List Node) : String :=
  String.join (cs.map fun c => Assignment.spaced (c.text source))

namespace Statement

/-- An assignment keeps only the last comment. -/
lemma attachAll_assignment (a : Assignment) (cs : List Node) :
    attachAll source (.assignment a) cs =
      .assignment { a with comment := (cs.getLast?.map (Node.text source)).or a.comment } := by
  induction cs generalizing a with
  | nil => simp [attachAll]
  | cons c cs ih =>
    have hcons : attachAll source (.assignment a) (c :: cs) =
        attachAll source (.assignment { a with comment := some (c.text source) }) cs := rfl
    rw [hcons, ih, List.getLast?_cons]
    cases cs.getLast? <;> rfl

lemma attach_ne_assignment {s : Statement} (h : ∀ a, s ≠ .assignment a) (comment : String) :
    (∀ a, s.attach comment ≠ .assignment a) ∧
      (s.attach comment).render = s.render ++ Assignment.spaced comment := by
  cases s with
  | assignment a => exact absurd rfl (h a)
  | _ => exact ⟨fun a ha => (by cases ha), rfl⟩

lemma attachAll_ne_assignment {s : Statement} (h : ∀ a, s ≠ .assignment a) (cs : List Node) :
    (∀ a, attachAll source s cs ≠ .assignment a) ∧
      (attachAll source s cs).render = s.render ++ renderedComments source cs := by
  induction cs generalizing s with
  | nil => exact ⟨h, by simp [attachAll, renderedComments, String.join_nil]⟩
  | cons c cs ih =>
    obtain ⟨hne, hrender⟩ := attach_ne_assignment h (c.text source)
    obtain ⟨hne', hrender'⟩ := ih hne
    refine ⟨hne', hrender'.trans ?_⟩
    rw [hrender]
    simp [renderedComments, String.join_cons, String.append_assoc]

end Statement

lemma keptComments_of_not_assignment {g : Node × List Node}
    (h : ∀ a, Statement.ofNode source g.1 ≠ .assignment a) : keptComments source g = g.2 := by
  unfold keptComments
  split
  case h_1 a ha => exact absurd ha (h a)
  case h_2 => rfl

/-- What stays of a statement with its comments. -/
lemma retain_attachAll (g : Node × List Node) :
    (Statement.attachAll source (.ofNode source g.1) g.2).retain unread =
      ((Statement.ofNode source g.1).retain unread).map fun s =>
        s.attachAll source (keptComments source g) := by
  by_cases hassignment : ∃ a, Statement.ofNode source g.1 = .assignment a
  · obtain ⟨a, ha⟩ := hassignment
    simp only [ha, keptComments, Statement.attachAll_assignment, Statement.retain]
    split_ifs
    · rfl
    · simp only [Option.map_some, Statement.attachAll_assignment]
      cases g.2.getLast? <;> rfl
  · have hnot : ∀ a, Statement.ofNode source g.1 ≠ .assignment a := by
      intro a ha
      exact hassignment ⟨a, ha⟩
    rw [Statement.retain_of_not_assignment (Statement.attachAll_ne_assignment hnot g.2).1,
      Statement.retain_of_not_assignment hnot, keptComments_of_not_assignment hnot]
    rfl

lemma mem_of_mem_keptComments {g : Node × List Node} {c : Node} (h : c ∈ keptComments source g) :
    c ∈ g.2 := by
  unfold keptComments at h
  split at h
  case h_1 => exact List.mem_of_getLast? (Option.mem_toList.mp h)
  case h_2 => exact h

/-- What stays of a statement is rendered in front of its comments. -/
lemma render_attachAll {g : Node × List Node} {s : Statement}
    (hs : (Statement.ofNode source g.1).retain unread = some s) :
    (s.attachAll source (keptComments source g)).render =
      s.render ++ renderedComments source (keptComments source g) := by
  cases hof : Statement.ofNode source g.1 with
  | assignment a =>
    have hcomment := (Assignment.ofStatement?_eq_some
      (Statement.ofStatement?_of_ofNode hof).2).choose_spec.2.2.2
    rw [hof, Statement.retain] at hs
    split_ifs at hs
    obtain rfl := Option.some.inj hs
    simp only [keptComments, hof, Statement.attachAll_assignment]
    cases g.2.getLast? <;>
      simp [renderedComments, Statement.render, Assignment.render, hcomment, String.join_nil,
        String.join_cons]
  | _ =>
    rw [hof] at hs
    obtain rfl := Option.some.inj hs
    exact (Statement.attachAll_ne_assignment (by simp) _).2

/-- Comments have their texts where they are placed. -/
lemma text_placeComments (row : Nat) {p : Position} {cs : List Node}
    (hcs : ∀ c ∈ cs, c.LiesIn source) (h : HasAt text p.index (renderedComments source cs)) :
    (placeComments row p cs).map (Node.text text) = cs.map (Node.text source) ∧
      (stopOfComments row p cs).index = p.index + (renderedComments source cs).length := by
  induction cs generalizing p with
  | nil => simp [placeComments, stopOfComments, renderedComments, String.join_nil]
  | cons c cs ih =>
    have hlies := hcs c List.mem_cons_self
    have hcons : renderedComments source (c :: cs) =
        "  " ++ (c.text source ++ renderedComments source cs) := by
      simp [renderedComments, String.join_cons, Assignment.spaced, String.append_assoc]
    rw [hcons] at h ⊢
    have hat : HasAt text (commentPlace row p).index
        (c.text source ++ renderedComments source cs) := h.right
    have htext : (c.moveTo (commentPlace row p)).text text = c.text source :=
      (hlies.sameTexts hat.left).self
    have hstop := hlies.stop_moveTo (commentPlace row p)
    obtain ⟨hrest, hend⟩ := ih (fun c' hc' => hcs c' (List.mem_cons_of_mem _ hc'))
      (hstop ▸ hat.right)
    constructor
    · simp only [placeComments, List.map_cons, htext, hrest]
    · have hspace : "  ".length = 2 := by rfl
      rw [stopOfComments, hend, hstop]
      simp only [commentPlace, Position.right, String.length_append, hspace]
      omega

/-- What comments are attached depends on their texts. -/
lemma Statement.attachAll_congr {cs cs' : List Node} (s : Statement)
    (h : cs'.map (Node.text text) = cs.map (Node.text source)) :
    s.attachAll text cs' = s.attachAll source cs := by
  have hfold (source : String) (cs : List Node) :
      s.attachAll source cs = (cs.map (Node.text source)).foldl (fun s c => s.attach c) s := by
    rw [List.foldl_map]
    rfl
  rw [hfold, h, hfold]

lemma exists_kind_of_mem_placeComments {row : Nat} {p : Position} {cs : List Node} :
    ∀ d ∈ placeComments row p cs, ∃ c ∈ cs, d.kind = c.kind := by
  induction cs generalizing p with
  | nil => exact nofun
  | cons c cs ih =>
    intro d hd
    rcases List.mem_cons.mp hd with rfl | hd
    · exact ⟨c, List.mem_cons_self, c.kind_map⟩
    · obtain ⟨c', hc', hkind⟩ := ih d hd
      exact ⟨c', List.mem_cons_of_mem _ hc', hkind⟩

lemma row_le_stopOfComments {row : Nat} {p : Position} (hp : row ≤ p.row) (cs : List Node) :
    row ≤ (stopOfComments row p cs).row := by
  induction cs generalizing p with
  | nil => exact hp
  | cons c cs ih => exact ih (c.row_le_stop_moveTo (commentPlace row p))

/-! ### Groups -/

/-- The statement of a node with the comments behind it. -/
def statementOf (source : String) (g : Node × List Node) : Statement :=
  (Statement.ofNode source g.1).attachAll source g.2

/-- The statements of nodes in a row are those of their groups. -/
lemma ofNodes_eq_map_groupsOf (before : Option (Node × List Node)) (ns : List Node) :
    Statement.ofNodes source (before.map fun g => (statementOf source g, g.1.stop.row)) ns =
      (groupsOf before ns).map (statementOf source) := by
  induction ns generalizing before with
  | nil => cases before <;> rfl
  | cons n ns ih =>
    have hnext := ih (some (n, []))
    rcases before with _ | ⟨head, comments⟩
    · exact hnext
    · simp only [Option.map_some, Statement.ofNodes, groupsOf]
      split_ifs
      · rw [← ih]
        simp [statementOf, Statement.attachAll]
      · rw [List.map_cons, ← hnext]
        rfl

/-- The groups hold the nodes, and behind the first of each only comments. -/
lemma mem_of_mem_groupsOf {before : Option (Node × List Node)} {ns all : List Node}
    (hbefore : ∀ g, before = some g → g.1 ∈ all ∧ ∀ c ∈ g.2, c.kind = .token .comment ∧ c ∈ all)
    (hns : ns ⊆ all) {g : Node × List Node} (hg : g ∈ groupsOf before ns) :
    g.1 ∈ all ∧ ∀ c ∈ g.2, c.kind = .token .comment ∧ c ∈ all := by
  induction ns generalizing before with
  | nil => exact hbefore g (by simpa [groupsOf] using hg)
  | cons n ns ih =>
    have hn : n ∈ all := hns List.mem_cons_self
    have htail : ns ⊆ all := List.Subset.trans (List.subset_cons_self n ns) hns
    have halone : ∀ g, some (n, ([] : List Node)) = some g →
        g.1 ∈ all ∧ ∀ c ∈ g.2, c.kind = .token .comment ∧ c ∈ all := by
      intro g' hg'
      obtain rfl := Option.some.inj hg'
      exact ⟨hn, by simp⟩
    rcases before with _ | ⟨head, comments⟩
    · exact ih halone htail hg
    · obtain ⟨hhead, hcomments⟩ := hbefore _ rfl
      simp only [groupsOf] at hg
      split_ifs at hg with hattached
      · refine ih ?_ htail hg
        intro g' hg'
        obtain rfl := Option.some.inj hg'
        refine ⟨hhead, ?_⟩
        intro c hc
        rcases List.mem_append.mp hc with hc | hc
        · exact hcomments c hc
        · rw [List.mem_singleton.mp hc]
          simp only [Bool.and_eq_true, decide_eq_true_eq] at hattached
          exact ⟨hattached.1, hn⟩
      · rcases List.mem_cons.mp hg with rfl | hg
        · exact ⟨hhead, hcomments⟩
        · exact ih halone htail hg

/-! ### Whole texts -/

lemma renderStatements_cons (s : Statement) (ss : List Statement) :
    renderStatements (s :: ss) = s.render ++ ("\n" ++ renderStatements ss) := by
  simp [renderStatements, String.join_cons, String.append_assoc]

/-- Placed comments stay with the statement that they are placed behind. -/
lemma groupsOf_placeComments {head : Node} {before cs : List Node} (p : Position) (ns : List Node)
    (hcs : ∀ c ∈ cs, c.kind = .token .comment) :
    groupsOf (some (head, before)) (placeComments head.stop.row p cs ++ ns) =
      groupsOf (some (head, before ++ placeComments head.stop.row p cs)) ns := by
  induction cs generalizing before p with
  | nil => simp [placeComments]
  | cons c cs ih =>
    have hattached : ((c.moveTo (commentPlace head.stop.row p)).kind = .token .comment &&
        (c.moveTo (commentPlace head.stop.row p)).start.row = head.stop.row) = true := by
      simp [Node.moveTo, hcs c List.mem_cons_self, commentPlace]
    simp only [placeComments, List.cons_append, groupsOf, hattached, if_true]
    rw [ih _ fun c' hc' => hcs c' (List.mem_cons_of_mem _ hc'), List.append_assoc]
    rfl

/-- Placed groups are the groups of their nodes. -/
lemma groupsOf_placeGroups {gs : List (Node × List Node)} {before : Option (Node × List Node)}
    (hgs : ∀ g ∈ gs, ∀ c ∈ g.2, c.kind = .token .comment)
    (hbefore : ∀ b ∈ before, b.1.stop.row < place.row) :
    groupsOf before (nodesOf (placeGroups source unread place gs)) =
      before.toList ++ placeGroups source unread place gs := by
  induction gs generalizing place before with
  | nil => simp [placeGroups, nodesOf, groupsOf]
  | cons g gs ih =>
    have htail := fun g' hg' => hgs g' (List.mem_cons_of_mem _ hg')
    simp only [placeGroups]
    cases hhead : placeHead source unread place g.1 with
    | none => exact ih htail hbefore
    | some head =>
      let comments := keptComments source g
      have hcomments : ∀ c ∈ comments, c.kind = .token .comment := fun c hc =>
        hgs g List.mem_cons_self c (mem_of_mem_keptComments hc)
      have hrow : head.stop.row < (stopOfComments head.stop.row head.stop comments).nextLine.row :=
        Nat.lt_succ_of_le (row_le_stopOfComments (Nat.le_refl _) comments)
      have hrest := @ih _ (some (head, placeComments head.stop.row head.stop comments)) htail
        (by rintro b ⟨⟩; exact hrow)
      -- the statement begins below the one before it, and its comments stay with it
      have hnew : groupsOf before (head :: (placeComments head.stop.row head.stop comments ++
          nodesOf (placeGroups source unread
            (stopOfComments head.stop.row head.stop comments).nextLine gs))) =
          before.toList ++
            groupsOf (some (head, [])) (placeComments head.stop.row head.stop comments ++
              nodesOf (placeGroups source unread
                (stopOfComments head.stop.row head.stop comments).nextLine gs)) := by
        rcases before with _ | ⟨b, bs⟩
        · rfl
        · have hne : head.start.row ≠ b.stop.row := by
            rw [start_of_placeHead hhead]
            exact Nat.ne_of_gt (hbefore _ rfl)
          simp [groupsOf, hne]
      rw [nodesOf, List.flatMap_cons, ← nodesOf, List.cons_append, hnew,
        groupsOf_placeComments _ _ hcomments, List.nil_append, hrest]
      rfl

/-- A group is what is kept of another one, placed where a text has what is rendered of it. -/
def IsPlaced (source text : String) (unread : List String) (g g' : Node × List Node) : Prop :=
  ∃ place s, (Statement.ofNode source g.1).retain unread = some s ∧
    placeHead source unread place g.1 = some g'.1 ∧
    g'.2 = placeComments g'.1.stop.row g'.1.stop (keptComments source g) ∧
    HasAt text place.index (s.render ++ renderedComments source (keptComments source g))

/-- What is kept of a statement ends, comments included, where what is rendered of it does. -/
lemma index_stopOfComments {g : Node × List Node} {s : Statement} {head : Node}
    (hg : g.1.LiesIn source ∧ ∀ c ∈ g.2, c.LiesIn source)
    (hs : (Statement.ofNode source g.1).retain unread = some s)
    (hhead : placeHead source unread place g.1 = some head)
    (h : HasAt text place.index (s.render ++ renderedComments source (keptComments source g))) :
    (stopOfComments head.stop.row head.stop (keptComments source g)).index =
      place.index + (s.render ++ renderedComments source (keptComments source g)).length := by
  obtain ⟨head', hhead', hspec⟩ := exists_placeHead text place hg.1 hs
  obtain rfl : head = head' := Option.some.inj (hhead.symm.trans hhead')
  obtain ⟨-, hstop⟩ := hspec h.left
  have hend := (text_placeComments head.stop.row
    (fun c hc => hg.2 c (mem_of_mem_keptComments hc)) (hstop ▸ h.right)).2
  rw [hend, hstop, String.length_append, Nat.add_assoc]

/-- Whatever is made of groups is made of the placed ones, if each of them gives what the one does
of which it is kept. -/
lemma map_placeGroups {β : Type} {make : Node × List Node → β}
    {makeKept : Node × List Node → Option β} {gs : List (Node × List Node)}
    (hgs : ∀ g ∈ gs, g.1.LiesIn source ∧ ∀ c ∈ g.2, c.LiesIn source)
    (hkept : ∀ g ∈ gs, ∀ g', IsPlaced source text unread g g' → makeKept g = some (make g'))
    (hgone : ∀ g ∈ gs, (Statement.ofNode source g.1).retain unread = none → makeKept g = none)
    (h : HasAt text place.index
      (renderStatements (gs.filterMap fun g => (statementOf source g).retain unread))) :
    (placeGroups source unread place gs).map make = gs.filterMap makeKept := by
  induction gs generalizing place with
  | nil => rfl
  | cons g gs ih =>
    have hg := (hgs g List.mem_cons_self).1
    have hrest := fun place => @ih place (fun g' hg' => hgs g' (List.mem_cons_of_mem _ hg'))
      (fun g' hg' => hkept g' (List.mem_cons_of_mem _ hg'))
      (fun g' hg' => hgone g' (List.mem_cons_of_mem _ hg'))
    have hretain : (statementOf source g).retain unread = _ := retain_attachAll g
    cases hs : (Statement.ofNode source g.1).retain unread with
    | none =>
      rw [hs, Option.map_none] at hretain
      simp only [List.filterMap_cons, hretain] at h
      simp only [placeGroups, placeHead_eq_none hs, List.filterMap_cons,
        hgone g List.mem_cons_self hs]
      exact hrest place h
    | some s =>
      rw [hs, Option.map_some] at hretain
      simp only [List.filterMap_cons, hretain, renderStatements_cons] at h
      obtain ⟨head, hhead, -⟩ := exists_placeHead text place hg hs
      have hline := h.left
      rw [render_attachAll hs] at hline
      have hnext : (stopOfComments head.stop.row head.stop (keptComments source g)).nextLine.index =
          place.index + (s.attachAll source (keptComments source g)).render.length +
            "\n".length := by
        rw [render_attachAll hs, ← index_stopOfComments (hgs g List.mem_cons_self) hs hhead hline]
        rfl
      have hmade := hkept g List.mem_cons_self
        (head, placeComments head.stop.row head.stop (keptComments source g))
        ⟨place, s, hs, hhead, rfl, hline⟩
      simp only [placeGroups, hhead, List.map_cons, List.filterMap_cons, hmade]
      rw [hrest _ (hnext ▸ h.right.right)]

/-- Comments have their texts in a placed group. -/
lemma IsPlaced.text_comments {g g' : Node × List Node} (h : IsPlaced source text unread g g')
    (hg : g.1.LiesIn source ∧ ∀ c ∈ g.2, c.LiesIn source) :
    g'.2.map (Node.text text) = (keptComments source g).map (Node.text source) := by
  obtain ⟨place, s, hs, hhead, hcomments, hat⟩ := h
  obtain ⟨head, hhead', hspec⟩ := exists_placeHead text place hg.1 hs
  obtain rfl : g'.1 = head := Option.some.inj (hhead.symm.trans hhead')
  obtain ⟨-, hstop⟩ := hspec hat.left
  rw [hcomments]
  exact (text_placeComments g'.1.stop.row
    (fun c hc => hg.2 c (mem_of_mem_keptComments hc)) (hstop ▸ hat.right)).1

/-- A placed group is the kept statement. -/
lemma IsPlaced.retain_statementOf {g g' : Node × List Node} (h : IsPlaced source text unread g g')
    (hg : g.1.LiesIn source ∧ ∀ c ∈ g.2, c.LiesIn source) :
    (statementOf source g).retain unread = some (statementOf text g') := by
  have htexts := h.text_comments hg
  obtain ⟨place, s, hs, hhead, -, hat⟩ := h
  obtain ⟨head, hhead', hspec⟩ := exists_placeHead text place hg.1 hs
  obtain rfl : g'.1 = head := Option.some.inj (hhead.symm.trans hhead')
  have hretain : (statementOf source g).retain unread = _ := retain_attachAll g
  rw [hretain, hs, Option.map_some, statementOf, (hspec hat.left).1,
    Statement.attachAll_congr s htexts]

/-- All that is placed of named nodes is named. -/
lemma isNamed_of_mem_placeGroups {gs : List (Node × List Node)}
    (hgs : ∀ g ∈ gs, g.1.isNamed ∧ ∀ c ∈ g.2, c.isNamed) :
    ∀ n ∈ nodesOf (placeGroups source unread place gs), n.isNamed := by
  induction gs generalizing place with
  | nil => exact nofun
  | cons g gs ih =>
    obtain ⟨hg, hcomments⟩ := hgs g List.mem_cons_self
    have hrest := fun place => @ih place fun g' hg' => hgs g' (List.mem_cons_of_mem _ hg')
    simp only [placeGroups]
    cases hhead : placeHead source unread place g.1 with
    | none => exact hrest place
    | some head =>
      rw [nodesOf, List.flatMap_cons, ← nodesOf]
      intro n hn
      rcases List.mem_append.mp hn with hn | hn
      · rcases List.mem_cons.mp hn with rfl | hn
        · exact (isNamed_of_placeHead hhead).trans hg
        · obtain ⟨c, hc, hkind⟩ := exists_kind_of_mem_placeComments n hn
          exact (congrArg Kind.isNamed hkind).trans (hcomments c (mem_of_mem_keptComments hc))
      · exact hrest _ n hn

/-- The groups of a tree lie in its text. -/
lemma liesIn_of_mem_groupsOf {tree : Node} (hlies : tree.LiesIn source) {g : Node × List Node}
    (hg : g ∈ groupsOf none tree.namedChildren) :
    g.1.LiesIn source ∧ ∀ c ∈ g.2, c.LiesIn source := by
  have hmem : ∀ n ∈ tree.namedChildren, n.LiesIn source := by
    intro n hn
    exact hlies.of_mem_children (Node.mem_children_of_mem_namedChildren hn)
  obtain ⟨hhead, hcomments⟩ := mem_of_mem_groupsOf (by simp) (List.Subset.refl _) hg
  exact ⟨hmem _ hhead, fun c hc => hmem c (hcomments c hc).2⟩

/-- Whatever is placed of a tree is named. -/
lemma isNamed_of_mem_placedNodes {tree : Node} :
    ∀ n ∈ placedNodes source unread tree, n.isNamed := by
  refine isNamed_of_mem_placeGroups ?_
  intro g hg
  have hnamed : ∀ n ∈ tree.namedChildren, n.isNamed := fun n hn => (List.mem_filter.mp hn).2
  obtain ⟨hhead, hcomments⟩ := mem_of_mem_groupsOf (by simp) (List.Subset.refl _) hg
  exact ⟨hnamed _ hhead, fun c hc => hnamed c (hcomments c hc).2⟩

lemma namedChildren_of_placedNodes {tree next : Node}
    (h : next.children = placedNodes source unread tree) :
    next.namedChildren = placedNodes source unread tree := by
  rw [Node.namedChildren, h, List.filter_eq_self]
  exact isNamed_of_mem_placedNodes

lemma ofTree_eq_map_groupsOf (source : String) (tree : Node) :
    Statement.ofTree source tree = (groupsOf none tree.namedChildren).map (statementOf source) :=
  ofNodes_eq_map_groupsOf none tree.namedChildren

/-- The groups of the kept pieces are the placed ones. -/
lemma groupsOf_placedNodes (source : String) (unread : List String) (tree : Node) :
    groupsOf none (placedNodes source unread tree) =
      placeGroups source unread .origin (groupsOf none tree.namedChildren) := by
  refine groupsOf_placeGroups ?_ (by simp)
  intro g hg c hc
  exact ((mem_of_mem_groupsOf (by simp) (List.Subset.refl _) hg).2 c hc).1

/-- If the kept pieces are what the rendered text is read as, its statements are those rendered. -/
lemma ofTree_renderStatements {tree next : Node} (hlies : tree.LiesIn source)
    (hpieces : next.namedChildren = placedNodes source unread tree) :
    Statement.ofTree (renderStatements ((Statement.ofTree source tree).filterMap
        (Statement.retain unread))) next =
      (Statement.ofTree source tree).filterMap (Statement.retain unread) := by
  rw [ofTree_eq_map_groupsOf _ next, hpieces, groupsOf_placedNodes, ofTree_eq_map_groupsOf,
    List.filterMap_map]
  exact map_placeGroups (fun g hg => liesIn_of_mem_groupsOf hlies hg)
    (fun g hg g' h => h.retain_statementOf (liesIn_of_mem_groupsOf hlies hg))
    (fun g hg hs => (retain_attachAll g).trans (by rw [hs, Option.map_none])) (HasAt.self _)

end NotebookExport
