import NotebookExport.Proofs.LocalNames
import NotebookExport.Proofs.OutlinePass
import NotebookExport.Proofs.Rendering

/-!
# Reading back what a pass renders

Of how texts are read one thing is asked: that the text which a pass renders is read as the kept
pieces in their new places (`ReadsBack`). Moved nodes have the texts that they had, and statements,
the names that they read and the names that they bind are all made of these. So the outline of the
rendered text is the one from before the pass without the targets that the pass removes, in whatever
way the nodes are looked at.
-/

namespace NotebookExport

open Python Text

variable {source text : String} {unread : List String} {place : Position} {tree : Node}
  {look : String → Look}

/-! ### What an assignment contributes besides its targets -/

/-- An assignment has one part on the left and one behind it on the right, and only marks besides.
-/
structure Python.Node.HasTwoSides (n : Node) : Prop where
  roles : n.children.filterMap Node.role? = [.left, .right]
  marks {c : Node} : c ∈ n.children → c.role? = none → c.isMark

lemma restOfChildren_of_marks {look : Look} {seen : List Field} {ns : List Node}
    (h : ∀ c ∈ ns, c.role? = none ∧ look .value c = ∅) : restOfChildren look seen ns = ∅ := by
  induction ns generalizing seen with
  | nil => rfl
  | cons n ns ih =>
    obtain ⟨hrole, hnone⟩ := h n List.mem_cons_self
    have hfirst : isFirstLeft seen n = false := by simp [isFirstLeft, Node.hasRole, hrole]
    have hchain : continuesChain seen n = false := by simp [continuesChain, Node.hasRole, hrole]
    simp [restOfChildren, hfirst, hchain, hnone, ih fun c hc => h c (List.mem_cons_of_mem _ hc)]

mutual

/-- A chain contributes besides its targets what its value does. -/
lemma restOfChain_eq_value (hlook : Look.IsLocal look) {n value : Node}
    (hn : isUntypedAssignment n)
    (hsides : ∀ m ∈ n.preorder, isUntypedAssignment m → m.HasTwoSides)
    (hvalue : chainValue? n = some value) :
    restOfChain (look source) n = look source .value value := by
  match n with
  | .node info children =>
    have htwo := hsides _ (Node.mem_preorder_self _) hn
    rw [restOfChain]
    exact restOfChildren_eq_value hlook (fun m hm => hsides m (List.mem_cons_of_mem _ hm))
      (fun c hc hrole => htwo.marks hc hrole) (.inl ⟨htwo.roles, nofun, nofun⟩) hvalue

lemma restOfChildren_eq_value (hlook : Look.IsLocal look) {seen : List Field} {ns : List Node}
    {value : Node} (hsides : ∀ m ∈ Node.preorderAll ns, isUntypedAssignment m → m.HasTwoSides)
    (hmarks : ∀ c ∈ ns, c.role? = none → c.isMark)
    (hroles : (ns.filterMap Node.role? = [.left, .right] ∧ .left ∉ seen ∧ .right ∉ seen) ∨
      (ns.filterMap Node.role? = [.right] ∧ .right ∉ seen))
    (hvalue : valueOnRight? ns = some value) :
    restOfChildren (look source) seen ns = look source .value value := by
  match ns with
  | [] => cases hvalue
  | n :: ns =>
    have hsidesNext : ∀ m ∈ Node.preorderAll ns, isUntypedAssignment m → m.HasTwoSides :=
      fun m hm => hsides m (List.mem_append_right _ hm)
    have hmarksNext : ∀ c ∈ ns, c.role? = none → c.isMark :=
      fun c hc => hmarks c (List.mem_cons_of_mem _ hc)
    rw [restOfChildren]
    rw [valueOnRight?] at hvalue
    rcases hrole : n.role? with _ | role
    · -- a mark
      have hnone : look source .value n = ∅ := hlook.mark (hmarks n List.mem_cons_self hrole)
      have hfirst : isFirstLeft seen n = false := by simp [isFirstLeft, Node.hasRole, hrole]
      have hchain : continuesChain seen n = false := by
        simp [continuesChain, Node.hasRole, hrole]
      rw [if_neg (by simp [Node.hasRole, hrole])] at hvalue
      simp only [List.filterMap_cons, hrole] at hroles
      simp [hfirst, hchain, hnone,
        restOfChildren_eq_value hlook hsidesNext hmarksNext hroles hvalue]
    · simp only [List.filterMap_cons, hrole, List.cons.injEq] at hroles
      rcases hroles with ⟨⟨rfl, hroles⟩, hleft, hright⟩ | ⟨⟨rfl, hroles⟩, hright⟩
      · -- the target
        have hfirst : isFirstLeft seen n := isFirstLeft_iff.mpr ⟨hrole, hleft⟩
        rw [if_neg (by simp [Node.hasRole, hrole])] at hvalue
        have hseen : Field.right ∉ (some Field.left).toList ++ seen := by simpa using hright
        rw [if_pos hfirst, Finset.empty_union]
        exact restOfChildren_eq_value hlook hsidesNext hmarksNext (.inr ⟨hroles, hseen⟩) hvalue
      · -- the value, or a chain with it
        have hfirst : isFirstLeft seen n = false := by simp [isFirstLeft, Node.hasRole, hrole]
        have hnone : restOfChildren (look source) ((some Field.right).toList ++ seen) ns = ∅ := by
          refine restOfChildren_of_marks fun c hc => ?_
          have hc' : c.role? = none := List.filterMap_eq_nil_iff.mp hroles c hc
          exact ⟨hc', hlook.mark (hmarksNext c hc hc')⟩
        rw [if_pos (by simp [Node.hasRole, hrole])] at hvalue
        by_cases huntyped : isUntypedAssignment n
        · have hchain : continuesChain seen n := continuesChain_iff.mpr ⟨hrole, hright, huntyped⟩
          rw [if_pos huntyped] at hvalue
          rw [hnone, Finset.union_empty, hfirst, if_neg Bool.false_ne_true, if_pos hchain]
          exact restOfChain_eq_value hlook huntyped
            (fun m hm => hsides m (List.mem_append_left _ hm)) hvalue
        · have hchain : continuesChain seen n = false := by simp [continuesChain, huntyped]
          rw [if_neg huntyped] at hvalue
          obtain rfl := Option.some.inj hvalue
          rw [hnone, Finset.union_empty, hfirst, hchain]
          rfl

end

/-! ### Chains made anew -/

/-- A target with what it contributes. -/
def targetPart (look : Look) (source : String) (n : Node) : TargetPart :=
  ⟨Target.ofNode source n, look .target n⟩

lemma CellPart.ofNode_of_assignment {n : Node} {a : Assignment} (look : Look)
    (ha : Statement.ofNode source n = .assignment a) :
    ofNode look source n =
      .assignment ((Statement.targetNodes n).map (targetPart look source)) a.value a.comment
        (restOfStatement look n) := by
  unfold ofNode
  rw [ha]
  rfl

/-- The targets on the right of a sign and the value behind them contribute in one text what the
given ones do in another. -/
structure Contributes (look : String → Look) (source text : String) (ts : List Node)
    (value right : Node) : Prop where
  targets : (if isUntypedAssignment right then chainTargets right else []).map
    (targetPart (look text) text) = ts.map (targetPart (look source) source)
  rest : (if isUntypedAssignment right then restOfChain (look text) right
    else look text .value right) = look source .value value

lemma targetPart_moveTo (hlook : Look.IsLocal look) {t : Node} (ht : t.LiesIn source)
    (h : HasAt text place.index (t.text source)) :
    targetPart (look text) text (t.moveTo place) = targetPart (look source) source t := by
  have htexts := ht.sameTexts h
  rw [targetPart, Node.moveTo, Target.ofNode_map htexts, hlook.map _ htexts, targetPart]

lemma chainTargets_three {info : NodeInfo} {left sign right : Node} (hleft : left.hasRole .left)
    (hsign : sign.role? = none) (hright : right.hasRole .right) :
    chainTargets (.node info [left, sign, right]) =
      left :: if isUntypedAssignment right then chainTargets right else [] := by
  have hnot : left.hasRole .right = false ∧ sign.hasRole .right = false := by
    simp [Node.hasRole, Node.hasRole_iff.mp hleft, hsign]
  simp [chainTargets, targetsOnRight, Node.child?, Node.children, hleft, hright, hnot]

lemma restOfChain_three {look : Look} {info : NodeInfo} {left sign right : Node}
    (hleft : left.hasRole .left) (hsign : sign.role? = none) (hmark : look .value sign = ∅)
    (hright : right.hasRole .right) :
    restOfChain look (.node info [left, sign, right]) =
      if isUntypedAssignment right then restOfChain look right else look .value right := by
  have hroles : left.role? = some .left ∧ right.role? = some .right :=
    ⟨Node.hasRole_iff.mp hleft, Node.hasRole_iff.mp hright⟩
  simp [restOfChain, restOfChildren, isFirstLeft, continuesChain, Node.hasRole, hroles, hsign,
    hmark]

/-- A chain that is made anew contributes what its targets and its value did. -/
lemma contributes_chainNode (hlook : Look.IsLocal look) {value : Node} (field : Option Field)
    {ts : List Node} (hts : ∀ t ∈ ts, t.LiesIn source ∧ t.hasRole .left)
    (hvalue : value.LiesIn source) (huntyped : isUntypedAssignment value = false)
    (hrole : value.hasRole .right)
    (h : HasAt text place.index (renderedSides source ts ++ value.text source)) :
    Contributes look source text ts value (chainNode value field place ts) := by
  induction ts generalizing field place with
  | nil =>
    have hvalueAt : HasAt text place.index (value.text source) := by
      simpa [renderedSides, String.join_nil] using h
    have hmoved : isUntypedAssignment (value.moveTo place) = false := by
      rwa [Node.moveTo, isUntypedAssignment_map]
    refine ⟨?_, ?_⟩
    · simp [chainNode, hmoved]
    · rw [chainNode, hmoved]
      exact hlook.map _ (hvalue.sameTexts hvalueAt)
  | cons t ts ih =>
    obtain ⟨ht, hleft⟩ := hts t List.mem_cons_self
    have htail := fun t' ht' => hts t' (List.mem_cons_of_mem _ ht')
    have hbehind := hasAt_right_of_cons ht h
    have hright := (isRight_chainNode htail hvalue huntyped hrole hbehind).role
    obtain ⟨htargets, hrest⟩ := ih (some .right) htail hbehind
    have hleft' : (t.moveTo place).hasRole .left := by simpa [Node.moveTo] using hleft
    have hat : HasAt text place.index (t.text source) := by
      rw [renderedSides_cons, String.append_assoc] at h
      exact h.left
    have huntyped' : isUntypedAssignment (chainNode value field place (t :: ts)) :=
      isUntypedAssignment_three rfl hleft' rfl hright
    refine ⟨?_, ?_⟩
    · rw [if_pos huntyped', chainNode, chainTargets_three hleft' rfl hright, List.map_cons,
        htargets, targetPart_moveTo hlook ht hat, List.map_cons]
    · rw [if_pos huntyped', chainNode, restOfChain_three hleft' rfl (hlook.mark rfl) hright, hrest]

/-- A statement made anew of a chain contributes what its targets and its value did. -/
lemma CellPart.ofNode_chainStatement (hlook : Look.IsLocal look) {n value t : Node}
    {ts : List Node} {a : Assignment} (hn : n.LiesIn source)
    (ha : Statement.ofNode source n = .assignment a)
    (hvalue : n.namedChildren.head?.bind chainValue? = some value)
    (hts : ∀ t' ∈ t :: ts, t' ∈ Statement.targetNodes n)
    (h : HasAt text place.index (renderedSides source (t :: ts) ++ value.text source)) :
    ofNode (look text) text (chainStatement n value place (t :: ts)) =
      .assignment ((t :: ts).map (targetPart (look source) source)) (value.text source) none
        (look source .value value) := by
  obtain ⟨hsides, hlies, huntyped, hrole⟩ := Statement.sides_of_ofNode hn ha hvalue hts
  have hstatement := (Statement.ofNode_chainStatement hn ha hvalue hts h).1
  obtain ⟨htargets, hrest⟩ := contributes_chainNode hlook none hsides hlies huntyped hrole h
  have hchain := (chain_chainNode none hsides hlies huntyped hrole h).1
  have hnamed : (chainNode value none place (t :: ts)).isNamed := rfl
  rw [if_pos hchain] at htargets hrest
  have hnodes : Statement.targetNodes (chainStatement n value place (t :: ts)) =
      chainTargets (chainNode value none place (t :: ts)) := by
    simp [Statement.targetNodes, chainStatement, Node.namedChildren, Node.children, hnamed]
  have hparts : restOfStatement (look text) (chainStatement n value place (t :: ts)) =
      restOfChain (look text) (chainNode value none place (t :: ts)) := by
    simp [restOfStatement, chainStatement, Node.children, hnamed, unionOf]
  rw [ofNode_of_assignment _ hstatement, hnodes, hparts, hrest, htargets]

/-! ### Parts with their comments -/

namespace CellPart

variable {keep : Target → Bool} {part : CellPart}

/-- A part with comments behind it; they contribute nothing. -/
def attachAll (part : CellPart) (comments : List String) : CellPart :=
  comments.foldl (fun part comment => part.attach comment ∅) part

lemma retain_attach (comment : String) (names : Finset String) (part : CellPart) :
    (part.attach comment names).retain keep = (part.retain keep).map (attach comment names) := by
  cases part with
  | assignment targets value comment' rest =>
    simp only [attach, retain]
    split_ifs <;> rfl
  | fixed s hs names' => rfl

lemma retain_attachAll (comments : List String) (part : CellPart) :
    (part.attachAll comments).retain keep =
      (part.retain keep).map fun part => part.attachAll comments := by
  induction comments generalizing part with
  | nil => simp [attachAll]
  | cons comment comments ih =>
    have hstep : (part.attach comment ∅).attachAll comments =
        part.attachAll (comment :: comments) := rfl
    rw [← hstep, ih, retain_attach, Option.map_map]
    rfl

/-- An assignment keeps only the last comment. -/
lemma attachAll_assignment (targets : List TargetPart) (value : String) (comment : Option String)
    (rest : Finset String) (comments : List String) :
    (assignment targets value comment rest).attachAll comments =
      .assignment targets value (comments.getLast?.or comment) rest := by
  induction comments generalizing comment with
  | nil => rfl
  | cons c cs ih =>
    have hstep : (assignment targets value comment rest).attachAll (c :: cs) =
        (assignment targets value (some c) rest).attachAll cs := by
      simp [attachAll, attach]
    rw [hstep, ih, List.getLast?_cons]
    cases cs.getLast? <;> rfl

end CellPart

/-- The part that a node with its comments is. -/
def partOf (look : Look) (source : String) (g : Node × List Node) : CellPart :=
  (CellPart.ofNode look source g.1).attachAll (g.2.map (Node.text source))

/-- The parts of nodes in a row are those of their groups. -/
lemma Outline.partsOf_eq_map_groupsOf {look : Look}
    (hcomment : ∀ n : Node, n.kind = .token .comment → look .value n = ∅)
    (before : Option (Node × List Node)) (ns : List Node) :
    partsOf look source (before.map fun g => (partOf look source g, g.1.stop.row)) ns =
      (groupsOf before ns).map (partOf look source) := by
  induction ns generalizing before with
  | nil => cases before <;> rfl
  | cons n ns ih =>
    have hnext := ih (some (n, []))
    rcases before with _ | ⟨head, comments⟩
    · exact hnext
    · simp only [Option.map_some, partsOf, groupsOf]
      split_ifs with hattached
      · have hkind : n.kind = .token .comment := by
          simp only [Bool.and_eq_true, decide_eq_true_eq] at hattached
          exact hattached.1
        rw [← ih, hcomment n hkind]
        simp [partOf, CellPart.attachAll]
      · rw [List.map_cons, ← hnext]
        rfl

/-- An assignment contributes besides its targets what its value does. -/
def RestIsValue (look : Look) (source : String) (n : Node) : Prop :=
  ∀ a value, Statement.ofNode source n = .assignment a →
    n.namedChildren.head?.bind chainValue? = some value →
      CellPart.restOfStatement look n = look .value value

/-- What is placed of an assignment is the kept part. -/
lemma retain_ofNode_of_assignment (hlook : Look.IsLocal look) {n head : Node} {s : Statement}
    {a : Assignment} (hn : n.LiesIn source) (hrest : RestIsValue (look source) source n)
    (ha : Statement.ofNode source n = .assignment a)
    (hs : (Statement.ofNode source n).retain unread = some s)
    (hhead : placeHead source unread place n = some head) (h : HasAt text place.index s.render) :
    (CellPart.ofNode (look source) source n).retain (Target.isLive unread) =
      some (CellPart.ofNode (look text) text head) := by
  obtain ⟨value, t, ts, hvalue, hlive, rfl, hhead'⟩ := exists_chainStatement ha hs
  obtain rfl := Option.some.inj (hhead.symm.trans (hhead' place))
  have hts : ∀ t' ∈ t :: ts, t' ∈ Statement.targetNodes n := fun t' ht' =>
    (List.mem_filter.mp (hlive ▸ ht' : t' ∈ liveNodes source unread n)).1
  obtain ⟨only, honly, -, hchain, hcomment⟩ :=
    Assignment.ofStatement?_eq_some (Statement.ofStatement?_of_ofNode ha).2
  obtain ⟨v, -, hv, htext, -⟩ := exists_chainValue hchain
  obtain rfl : v = value := by simpa [honly, hv] using hvalue
  have hlives : ((Statement.targetNodes n).map (targetPart (look source) source)).filter
      (fun t => t.target.isLive unread) = (t :: ts).map (targetPart (look source) source) := by
    rw [List.filter_map, ← hlive]
    rfl
  rw [Statement.render_chain] at h
  rw [CellPart.ofNode_chainStatement hlook hn ha hvalue hts h, CellPart.ofNode_of_assignment _ ha,
    hrest a v ha hvalue, ← htext, hcomment, CellPart.retain, hlives]
  rfl

/-- What is placed of a node that is no assignment is the part that it was. -/
lemma retain_ofNode_of_not_assignment (hlook : Look.IsLocal look) {n head : Node} {s : Statement}
    (hn : n.LiesIn source) (hnot : ∀ a, Statement.ofNode source n ≠ .assignment a)
    (hs : (Statement.ofNode source n).retain unread = some s)
    (hhead : placeHead source unread place n = some head) (h : HasAt text place.index s.render) :
    (CellPart.ofNode (look source) source n).retain (Target.isLive unread) =
      some (CellPart.ofNode (look text) text head) := by
  obtain rfl := Option.some.inj (hhead.symm.trans (placeHead_of_not_assignment hnot))
  rw [Statement.retain_of_not_assignment hnot] at hs
  obtain rfl := Option.some.inj hs
  rw [(Statement.exists_assignment_or_render_ofNode source n).resolve_left
    fun ⟨a, ha⟩ => hnot a ha] at h
  have htexts := hn.sameTexts h
  have hsame := Statement.ofNode_map htexts
  have hnames := hlook.map .value htexts
  unfold CellPart.ofNode
  rw [Node.moveTo, hsame, hnames]
  cases hstatement : Statement.ofNode source n with
  | assignment a => exact absurd hstatement (hnot a)
  | _ => rfl

/-- What is placed of a node is the kept part. -/
lemma exists_part_of_placeHead (hlook : Look.IsLocal look) {n head : Node} {s : Statement}
    (hn : n.LiesIn source) (hrest : RestIsValue (look source) source n)
    (hs : (Statement.ofNode source n).retain unread = some s)
    (hhead : placeHead source unread place n = some head) (h : HasAt text place.index s.render) :
    (CellPart.ofNode (look source) source n).retain (Target.isLive unread) =
      some (CellPart.ofNode (look text) text head) := by
  by_cases hassignment : ∃ a, Statement.ofNode source n = .assignment a
  · obtain ⟨a, ha⟩ := hassignment
    exact retain_ofNode_of_assignment hlook hn hrest ha hs hhead h
  · exact retain_ofNode_of_not_assignment hlook hn (fun a ha => hassignment ⟨a, ha⟩) hs hhead h

/-- To what is kept of a node the kept comments are attached as all of them are. -/
lemma attachAll_keptComments {look : Look} {keep : Target → Bool} {g : Node × List Node}
    {part : CellPart} (h : (CellPart.ofNode look source g.1).retain keep = some part) :
    part.attachAll ((keptComments source g).map (Node.text source)) =
      part.attachAll (g.2.map (Node.text source)) := by
  cases hs : Statement.ofNode source g.1 with
  | assignment a =>
    have hkept : keptComments source g = g.2.getLast?.toList := by simp [keptComments, hs]
    rw [CellPart.ofNode_of_assignment _ hs, CellPart.retain] at h
    split_ifs at h
    obtain rfl := Option.some.inj h
    rw [CellPart.attachAll_assignment, CellPart.attachAll_assignment, hkept, List.getLast?_map,
      List.getLast?_map]
    cases g.2.getLast? <;> rfl
  | _ =>
    have hnot : ∀ a, Statement.ofNode source g.1 ≠ .assignment a := by simp [hs]
    rw [keptComments_of_not_assignment hnot]

/-- A placed group is the kept part. -/
lemma IsPlaced.retain_partOf (hlook : Look.IsLocal look) {g g' : Node × List Node}
    (h : IsPlaced source text unread g g')
    (hg : g.1.LiesIn source ∧ ∀ c ∈ g.2, c.LiesIn source)
    (hrest : RestIsValue (look source) source g.1) :
    (partOf (look source) source g).retain (Target.isLive unread) =
      some (partOf (look text) text g') := by
  have htexts := h.text_comments hg
  obtain ⟨place, s, hs, hhead, -, hat⟩ := h
  have hpart := exists_part_of_placeHead hlook hg.1 hrest hs hhead hat.left
  rw [partOf, CellPart.retain_attachAll, hpart, Option.map_some, partOf, htexts,
    attachAll_keptComments hpart]

/-! ### Whole texts -/

/-- A tree whose nodes lie in its text, with only marks between the statements and around the sides
of assignments. -/
structure IsRegular (source : String) (tree : Node) : Prop where
  isProgram : tree.kind = .phrase .program
  lies : tree.LiesIn source
  between {c : Node} : c ∈ tree.children → ¬c.isNamed → c.isMark
  around {n c : Node} : n ∈ tree.namedChildren → n.kind = .phrase .expressionStatement →
    c ∈ n.children → ¬c.isNamed → c.isMark
  sides {m : Node} : m ∈ tree.preorder → isUntypedAssignment m → m.HasTwoSides

lemma IsRegular.restIsValue (h : IsRegular source tree) (hlook : Look.IsLocal look) {n : Node}
    (hn : n ∈ tree.namedChildren) : RestIsValue (look source) source n := by
  intro a value ha hvalue
  obtain ⟨hkind, hof⟩ := Statement.ofStatement?_of_ofNode ha
  obtain ⟨only, honly, huntyped, -, -⟩ := Assignment.ofStatement?_eq_some hof
  have hmem : only ∈ n.children :=
    Node.mem_children_of_mem_namedChildren (honly ▸ List.mem_singleton_self only)
  have hchild := Node.mem_children_of_mem_namedChildren hn
  have hrest : restOfChain (look source) only = look source .value value := by
    refine restOfChain_eq_value hlook huntyped (fun m hm => h.sides ?_) ?_
    · exact Node.preorder_subset_of_mem_children hchild
        (Node.preorder_subset_of_mem_children hmem hm)
    · simpa [honly] using hvalue
  -- the assignment is the only child that is more than a mark
  ext name
  rw [CellPart.restOfStatement, mem_unionOf, ← hrest]
  constructor
  · rintro ⟨names, hnames, hname⟩
    obtain ⟨c, hc, rfl⟩ := List.mem_map.mp hnames
    split_ifs at hname with hnamed
    · have hc' : c ∈ n.namedChildren := List.mem_filter.mpr ⟨hc, hnamed⟩
      rw [honly, List.mem_singleton] at hc'
      exact hc' ▸ hname
    · rw [hlook.mark (h.around hn hkind hc hnamed)] at hname
      cases hname
  · intro hname
    have hnamed : only.isNamed := (List.mem_filter.mp (honly ▸ List.mem_singleton_self only)).2
    exact ⟨_, List.mem_map_of_mem hmem, by rwa [if_pos hnamed]⟩

lemma unionOf_eq_empty {sets : List (Finset String)} (h : ∀ s ∈ sets, s = ∅) :
    unionOf sets = ∅ := by
  ext name
  rw [mem_unionOf]
  constructor
  · rintro ⟨s, hs, hname⟩
    exact h s hs ▸ hname
  · exact nofun

/-- If the kept pieces are what the rendered text is read as, then its outline is that of the text
before without the removed targets. -/
lemma Outline.ofTree_renderStatements (hlook : Look.IsLocal look) (htree : IsRegular source tree)
    {next : Node} (hpieces : next.children = placedNodes source unread tree) :
    let code := renderStatements ((Statement.ofTree source tree).filterMap
      (Statement.retain unread))
    ofTree (look code) code next =
      (ofTree (look source) source tree).retain (Target.isLive unread) := by
  intro code
  have hnamed := namedChildren_of_placedNodes hpieces
  have hparts (text : String) (ns : List Node) :
      partsOf (look text) text none ns = (groupsOf none ns).map (partOf (look text) text) :=
    partsOf_eq_map_groupsOf (fun _ => hlook.comment) none ns
  have hloose :
      unionOf ((next.children.filter fun n => !n.isNamed).map (look code .value)) = ∅ := by
    have hnone : (next.children.filter fun n => !n.isNamed) = [] := by
      rw [hpieces, List.filter_eq_nil_iff]
      intro n hn
      simp [isNamed_of_mem_placedNodes n hn]
    rw [hnone]
    rfl
  have hloose' :
      unionOf ((tree.children.filter fun n => !n.isNamed).map (look source .value)) = ∅ := by
    refine unionOf_eq_empty (List.forall_mem_map.mpr fun n hn => ?_)
    obtain ⟨hmem, hunnamed⟩ := List.mem_filter.mp hn
    exact hlook.mark (htree.between hmem (by simpa using hunnamed))
  have hcode : code = renderStatements ((groupsOf none tree.namedChildren).filterMap fun g =>
      (statementOf source g).retain unread) := by
    simp only [code, ofTree_eq_map_groupsOf, List.filterMap_map, Function.comp_def]
  rw [ofTree, hloose, hnamed, hparts, groupsOf_placedNodes, ofTree, hloose', retain, hparts,
    List.filterMap_map]
  congr 1
  refine map_placeGroups (fun g hg => liesIn_of_mem_groupsOf htree.lies hg) ?_ ?_
    (by rw [← hcode]; exact HasAt.self code)
  · intro g hg g' h
    have hhead := (mem_of_mem_groupsOf (by simp) (List.Subset.refl _) hg).1
    exact h.retain_partOf hlook (liesIn_of_mem_groupsOf htree.lies hg)
      (htree.restIsValue hlook hhead)
  · intro g hg hs
    have hgone : ((CellPart.ofNode (look source) source g.1).retain (Target.isLive unread)).map
        CellPart.statement = none := by
      rw [CellPart.statement_retain, CellPart.statement_ofNode, hs]
    have hretain : (partOf (look source) source g).retain (Target.isLive unread) = _ :=
      CellPart.retain_attachAll _ _
    rwa [Option.map_eq_none_iff.mp hgone] at hretain

/-- Every text that pruning comes to has a regular tree, and what a pass renders is read as the kept
pieces in their new places. -/
structure ReadsBack (parser : Parser) (source : String) : Prop where
  regular {passes : List (List String)} {text : String} {tree : Node} :
    Cascade parser source passes text → parser text = .ok tree → IsRegular text tree
  back {passes : List (List String)} {text : String} {tree : Node} :
    Cascade parser source passes text → parser text = .ok tree →
      (Pass.ofTree text tree).removed ≠ [] →
      ∃ next, parser (Pass.ofTree text tree).code = .ok next ∧ next.kind = .phrase .program ∧
        next.children = placedNodes text (NameUsage.ofTree text tree).unread tree

/-- What a pass renders has the outline that the pass leaves, in whatever way one looks at it. -/
theorem ReadsBack.exists_outline_eq {parser : Parser} (h : ReadsBack parser source)
    {passes : List (List String)} (hcascade : Cascade parser source passes text)
    (htree : parser text = .ok tree) (hremoved : (Pass.ofTree text tree).removed ≠ []) :
    ∃ next, parser (Pass.ofTree text tree).code = .ok next ∧ next.kind = .phrase .program ∧
      ∀ look, Look.IsLocal look →
        Outline.ofTree (look (Pass.ofTree text tree).code) (Pass.ofTree text tree).code next =
          (Outline.ofTree (look text) text tree).retain (Outline.reading text tree).keeps := by
  obtain ⟨next, hnext, hkind, hpieces⟩ := h.back hcascade htree hremoved
  have hregular := h.regular hcascade htree
  refine ⟨next, hnext, hkind, fun look hlook => ?_⟩
  rw [Pass.code_ofTree_of_removed_ne_nil hremoved, ← Outline.retain_isLive hregular.isProgram]
  exact Outline.ofTree_renderStatements hlook hregular hpieces

instance (n : Node) : Decidable n.HasTwoSides :=
  decidable_of_iff (n.children.filterMap Node.role? = [.left, .right] ∧
      ∀ c ∈ n.children, c.role? = none → c.isMark)
    ⟨fun h => ⟨h.1, fun hc => h.2 _ hc⟩, fun h => ⟨h.roles, fun _ hc => h.marks hc⟩⟩

instance (source : String) (tree : Node) : Decidable (IsRegular source tree) :=
  decidable_of_iff (tree.kind = .phrase .program ∧ tree.LiesIn source ∧
      (∀ c ∈ tree.children, ¬c.isNamed → c.isMark) ∧
      (∀ n ∈ tree.namedChildren, n.kind = .phrase .expressionStatement →
        ∀ c ∈ n.children, ¬c.isNamed → c.isMark) ∧
      ∀ m ∈ tree.preorder, isUntypedAssignment m → m.HasTwoSides)
    ⟨fun ⟨hkind, hlies, hbetween, haround, hsides⟩ =>
        ⟨hkind, hlies, fun hc => hbetween _ hc, fun hn hk hc => haround _ hn hk _ hc,
          fun hm => hsides _ hm⟩,
      fun h => ⟨h.isProgram, h.lies, fun _ hc => h.between hc,
        fun _ hn hk _ hc => h.around hn hk hc, fun _ hm => h.sides hm⟩⟩

/-- Lines that copy a name are read back as such. -/
lemma readsBack_cyclicParser : ReadsBack cyclicParser "x = x\ny = x\n" where
  regular _ h := by
    obtain ⟨rfl, rfl⟩ | ⟨rfl, rfl⟩ := cyclicParser_eq_ok h <;> decide
  back _ h hremoved := by
    obtain ⟨rfl, rfl, hcode⟩ := eq_of_cyclicParser_eq_ok h hremoved
    rw [hcode]
    exact ⟨copyLines 1, rfl, rfl, by rfl⟩

end NotebookExport
