import NotebookExport.Proofs.Targets

/-!
# Nodes in new places

A node that is moved to another place of another text is the same node with its positions counted
from there. If the other text has the text of the node at that place, then nothing that is made of
the node changes: its text, what it binds as a target, and the statement that it is.
-/

namespace NotebookExport

open Python Text

/-! ### Texts in texts -/

/-- A text has another one at a place. -/
def HasAt (text : String) (i : Nat) (s : String) : Prop :=
  ∃ before behind, text.toList = before ++ s.toList ++ behind ∧ before.length = i

namespace HasAt

variable {text s t : String} {i : Nat}

lemma left (h : HasAt text i (s ++ t)) : HasAt text i s := by
  obtain ⟨before, behind, htext, hlen⟩ := h
  exact ⟨before, t.toList ++ behind, by simp [htext], hlen⟩

lemma right (h : HasAt text i (s ++ t)) : HasAt text (i + s.length) t := by
  obtain ⟨before, behind, htext, hlen⟩ := h
  exact ⟨before ++ s.toList, behind, by simp [htext], by simp [hlen, String.length_toList]⟩

lemma self (text : String) : HasAt text 0 text := ⟨[], [], by simp, rfl⟩

lemma length_le (h : HasAt text i s) : i + s.length ≤ text.length := by
  obtain ⟨before, behind, htext, rfl⟩ := h
  rw [← String.length_toList, ← String.length_toList, htext]
  simp only [List.length_append]
  omega

/-- A stretch of a text is found wherever the text around it is. -/
lemma take_drop {source : List Char} {a b p q : Nat}
    (h : HasAt text i (String.ofList ((source.drop a).take (b - a)))) (hb : b ≤ source.length)
    (hap : a ≤ p) (hpq : p ≤ q) (hqb : q ≤ b) :
    (text.toList.drop (i + (p - a))).take (q - p) = (source.drop p).take (q - p) := by
  obtain ⟨before, behind, htext, rfl⟩ := h
  rw [String.toList_ofList] at htext
  have hlen : ((source.drop a).take (b - a)).length = b - a := by
    rw [List.length_take, List.length_drop]
    omega
  rw [htext, List.append_assoc, ← List.drop_drop, List.drop_left, List.drop_append_of_le_length
    (by omega), List.take_append_of_le_length (by rw [List.length_drop]; omega), List.drop_take,
    List.take_take, List.drop_drop]
  have hmin : min (q - p) (b - a - (p - a)) = q - p := by omega
  have hsum : a + (p - a) = p := by omega
  rw [hmin, hsum]

end HasAt

/-! ### Nodes in their text -/

namespace Python.Node

variable {source : String} {n m c : Node}

mutual

lemma preorder_subset_of_mem_preorder (n : Node) (h : m ∈ n.preorder) :
    m.preorder ⊆ n.preorder := by
  match n with
  | .node info children =>
    rw [preorder, List.mem_cons] at h
    rcases h with rfl | h
    · exact List.Subset.refl _
    · rw [preorder]
      exact List.Subset.trans (preorder_subset_of_mem_all children h) (List.subset_cons_self _ _)

lemma preorder_subset_of_mem_all (ns : List Node) (h : m ∈ preorderAll ns) :
    m.preorder ⊆ preorderAll ns := by
  match ns with
  | [] => simp [preorderAll] at h
  | n :: ns =>
    rw [preorderAll, List.mem_append] at h
    rw [preorderAll]
    rcases h with h | h
    · exact List.Subset.trans (preorder_subset_of_mem_preorder n h) (List.subset_append_left _ _)
    · exact List.Subset.trans (preorder_subset_of_mem_all ns h) (List.subset_append_right _ _)

end

lemma mem_preorder_of_mem_children (h : c ∈ n.children) : c ∈ n.preorder :=
  preorder_subset_of_mem_children h c.mem_preorder_self

/-- A node lies in its text, and each node in it lies between its ends. -/
structure LiesIn (n : Node) (source : String) : Prop where
  start_le {m : Node} : m ∈ n.preorder → m.start.index ≤ m.stop.index
  between {m d : Node} : m ∈ n.preorder → d ∈ m.preorder →
    m.start.index ≤ d.start.index ∧ d.stop.index ≤ m.stop.index
  stop_le : n.stop.index ≤ source.length

/-- A node lies in its text if its children do and stand between its ends. -/
lemma LiesIn.of_children {info : NodeInfo} {children : List Node}
    (hle : info.start.index ≤ info.stop.index) (hstop : info.stop.index ≤ source.length)
    (hchildren : ∀ c ∈ children, c.LiesIn source ∧ info.start.index ≤ c.start.index ∧
      c.stop.index ≤ info.stop.index) : (Node.node info children).LiesIn source := by
  have hbelow : ∀ m ∈ preorderAll children, ∃ c ∈ children, m ∈ c.preorder := by
    intro m hm
    rwa [preorderAll_eq_flatMap, List.mem_flatMap] at hm
  refine ⟨fun hm => ?_, fun {m d} hm hd => ?_, hstop⟩
  · rcases List.mem_cons.mp hm with rfl | hm
    · exact hle
    · obtain ⟨c, hc, hm⟩ := hbelow _ hm
      exact (hchildren c hc).1.start_le hm
  · rcases List.mem_cons.mp hm with rfl | hm
    · rcases List.mem_cons.mp hd with rfl | hd
      · exact ⟨Nat.le_refl _, Nat.le_refl _⟩
      · obtain ⟨c, hc, hd⟩ := hbelow _ hd
        obtain ⟨hlies, hstart, hend⟩ := hchildren c hc
        have hbetween := hlies.between c.mem_preorder_self hd
        exact ⟨Nat.le_trans hstart hbetween.1, Nat.le_trans hbetween.2 hend⟩
    · obtain ⟨c, hc, hm⟩ := hbelow _ hm
      exact (hchildren c hc).1.between hm hd

instance (n : Node) (source : String) : Decidable (n.LiesIn source) :=
  decidable_of_iff ((∀ m ∈ n.preorder, m.start.index ≤ m.stop.index ∧ ∀ d ∈ m.preorder,
      m.start.index ≤ d.start.index ∧ d.stop.index ≤ m.stop.index) ∧
      n.stop.index ≤ source.length)
    ⟨fun h => ⟨fun hm => (h.1 _ hm).1, fun hm hd => (h.1 _ hm).2 _ hd, h.2⟩,
      fun h => ⟨fun _ hm => ⟨h.start_le hm, fun _ hd => h.between hm hd⟩, h.stop_le⟩⟩

lemma LiesIn.of_mem_preorder (h : n.LiesIn source) (hm : m ∈ n.preorder) : m.LiesIn source where
  start_le hd := h.start_le (preorder_subset_of_mem_preorder n hm hd)
  between hd := h.between (preorder_subset_of_mem_preorder n hm hd)
  stop_le := Nat.le_trans (h.between n.mem_preorder_self hm).2 h.stop_le

lemma LiesIn.of_mem_children (h : n.LiesIn source) (hc : c ∈ n.children) : c.LiesIn source :=
  h.of_mem_preorder (mem_preorder_of_mem_children hc)

lemma LiesIn.length_text (h : n.LiesIn source) :
    (n.text source).length = n.stop.index - n.start.index := by
  have hstop := h.stop_le
  have hstart := h.start_le n.mem_preorder_self
  rw [text, String.length_ofList, List.length_take, List.length_drop, String.length_toList]
  omega

/-! ### Moved nodes -/

mutual

/-- A node with other positions. -/
def map (f : Position → Position) : Node → Node
  | .node info children =>
    .node { info with start := f info.start, stop := f info.stop } (mapAll f children)

def mapAll (f : Position → Position) : List Node → List Node
  | [] => []
  | n :: ns => n.map f :: mapAll f ns

end

lemma mapAll_eq_map (f : Position → Position) (ns : List Node) : mapAll f ns = ns.map (map f) := by
  induction ns with
  | nil => rfl
  | cons n ns ih => simp [mapAll, ih]

mutual

lemma map_map (f g : Position → Position) (n : Node) : (n.map f).map g = n.map (g ∘ f) := by
  match n with
  | .node info children => simp only [map, mapAll_mapAll f g children, Function.comp_apply]

lemma mapAll_mapAll (f g : Position → Position) (ns : List Node) :
    mapAll g (mapAll f ns) = mapAll (g ∘ f) ns := by
  match ns with
  | [] => rfl
  | n :: ns => simp only [mapAll, map_map f g n, mapAll_mapAll f g ns]

end

variable {f : Position → Position}

@[simp] lemma start_map (n : Node) : (n.map f).start = f n.start := by
  cases n
  rfl

@[simp] lemma stop_map (n : Node) : (n.map f).stop = f n.stop := by
  cases n
  rfl

@[simp] lemma kind_map (n : Node) : (n.map f).kind = n.kind := by
  cases n
  rfl

@[simp] lemma role?_map (n : Node) : (n.map f).role? = n.role? := by
  cases n
  rfl

@[simp] lemma isNamed_map (n : Node) : (n.map f).isNamed = n.isNamed := by
  cases n
  rfl

@[simp] lemma hasRole_map (n : Node) (role : Field) : (n.map f).hasRole role = n.hasRole role := by
  simp [hasRole]

@[simp] lemma children_map (n : Node) : (n.map f).children = n.children.map (map f) := by
  obtain ⟨info, children⟩ := n
  exact mapAll_eq_map f children

@[simp] lemma namedChildren_map (n : Node) :
    (n.map f).namedChildren = n.namedChildren.map (map f) := by
  have hnamed : isNamed ∘ map f = isNamed := funext fun c => c.isNamed_map
  rw [namedChildren, children_map, List.filter_map, hnamed, namedChildren]

@[simp] lemma child?_map (n : Node) (role : Field) :
    (n.map f).child? role = (n.child? role).map (map f) := by
  have hrole : (fun c : Node => c.hasRole role) ∘ map f = fun c => c.hasRole role :=
    funext fun c => c.hasRole_map role
  rw [child?, children_map, List.find?_map, hrole, child?]

end Python.Node

@[simp] lemma isUntypedAssignment_map (f : Position → Position) (n : Node) :
    isUntypedAssignment (n.map f) = isUntypedAssignment n := by
  simp [isUntypedAssignment]

/-- The position that stands to `new` as `p` stands to `old`. -/
def Text.Position.moved (old new p : Position) : Position :=
  ⟨new.index + (p.index - old.index), new.byte + (p.byte - old.byte), new.row + (p.row - old.row),
    if p.row = old.row then new.column + (p.column - old.column) else p.column⟩

namespace Python.Node

variable {source : String}

/-- A node moved to a place. -/
def moveTo (n : Node) (place : Position) : Node := n.map (n.start.moved place)

/-- Every node in a node has the same text in one text as with other positions in another. -/
def SameTexts (source text : String) (f : Position → Position) (n : Node) : Prop :=
  ∀ d ∈ n.preorder, (d.map f).text text = d.text source

/-- A moved node has its text in the new place, as have all nodes in it. -/
lemma LiesIn.sameTexts {text : String} {n : Node} {place : Position} (hn : n.LiesIn source)
    (h : HasAt text place.index (n.text source)) :
    SameTexts source text (n.start.moved place) n := by
  intro d hd
  obtain ⟨hstart, hstop⟩ := hn.between n.mem_preorder_self hd
  have hle := hn.start_le hd
  have hlen := hn.stop_le
  rw [← String.length_toList] at hlen
  have hstretch := h.take_drop hlen hstart hle hstop
  have hsub : place.index + (d.stop.index - n.start.index) -
      (place.index + (d.start.index - n.start.index)) = d.stop.index - d.start.index := by
    omega
  simp only [Node.text, start_map, stop_map, Position.moved, hsub, hstretch]

variable {text : String} {f : Position → Position} {n c : Node}

lemma SameTexts.of_mem_children (h : SameTexts source text f n) (hc : c ∈ n.children) :
    SameTexts source text f c := by
  intro d hd
  exact h d (preorder_subset_of_mem_children hc hd)

lemma SameTexts.self (h : SameTexts source text f n) : (n.map f).text text = n.text source :=
  h n n.mem_preorder_self

end Python.Node

/-! ### What is made of moved nodes -/

variable {source text : String} {f : Position → Position}

mutual

lemma boundBy_map (n : Node) (h : n.SameTexts source text f) :
    boundBy text (n.map f) = boundBy source n := by
  match n with
  | .node info children =>
    have htext := h.self
    have hparts := boundByParts_map children fun c hc => h.of_mem_children hc
    rw [Node.map] at htext ⊢
    simp only [boundBy, htext, hparts]

lemma boundByParts_map (ns : List Node) (h : ∀ c ∈ ns, c.SameTexts source text f) :
    boundByParts text (Node.mapAll f ns) = boundByParts source ns := by
  match ns with
  | [] => rfl
  | n :: ns =>
    have hn := boundBy_map n (h n List.mem_cons_self)
    have hns := boundByParts_map ns fun c hc => h c (List.mem_cons_of_mem _ hc)
    simp only [Node.mapAll, boundByParts, Node.isNamed_map, Node.kind_map, hn, hns]

end

lemma Target.ofNode_map {n : Node} (h : n.SameTexts source text f) :
    ofNode text (n.map f) = ofNode source n := by
  simp only [ofNode, Node.kind_map, boundBy_map n h, h.self]

mutual

lemma Assignment.chain_map (n : Node) (h : n.SameTexts source text f) :
    chain text (n.map f) = chain source n := by
  match n with
  | .node info children =>
    have hchild := Node.child?_map (f := f) (.node info children) .left
    have hright := rightOfChain_map children fun c hc => h.of_mem_children hc
    rw [Node.map] at hchild ⊢
    simp only [chain, hchild, hright]
    cases hleft : (Node.node info children).child? .left with
    | none => rfl
    | some left =>
      have hmem : left ∈ (Node.node info children).children := List.mem_of_find?_eq_some hleft
      simp only [Option.map_some, Target.ofNode_map (h.of_mem_children hmem)]

lemma Assignment.rightOfChain_map (ns : List Node) (h : ∀ c ∈ ns, c.SameTexts source text f) :
    rightOfChain text (Node.mapAll f ns) = rightOfChain source ns := by
  match ns with
  | [] => rfl
  | n :: ns =>
    have hn := h n List.mem_cons_self
    have hns := rightOfChain_map ns fun c hc => h c (List.mem_cons_of_mem _ hc)
    simp only [Node.mapAll, rightOfChain, Node.hasRole_map, isUntypedAssignment_map,
      chain_map n hn, hn.self, hns]

end

lemma Assignment.ofStatement?_map {n : Node} (h : n.SameTexts source text f) :
    ofStatement? text (n.map f) = ofStatement? source n := by
  unfold ofStatement?
  rw [Node.namedChildren_map]
  rcases hchildren : n.namedChildren with _ | ⟨only, _ | ⟨_, _⟩⟩
  · rfl
  · have hmem : only ∈ n.children :=
      Node.mem_children_of_mem_namedChildren (hchildren ▸ List.mem_singleton_self only)
    simp [Assignment.chain_map only (h.of_mem_children hmem)]
  · rfl

lemma Statement.ofDefinition?_map {outer inner : Node} (houter : outer.SameTexts source text f)
    (hinner : inner.SameTexts source text f) :
    ofDefinition? text (outer.map f) (inner.map f) = ofDefinition? source outer inner := by
  have hname : ((inner.map f).child? .name).map (Node.text text) =
      (inner.child? .name).map (Node.text source) := by
    rw [Node.child?_map, Option.map_map]
    apply Option.map_congr
    intro name hname
    exact (hinner.of_mem_children (List.mem_of_find?_eq_some hname)).self
  simp only [ofDefinition?, Node.kind_map, Definition.ofNode, hname, houter.self]

/-- A moved node is the same statement. -/
theorem Statement.ofNode_map {n : Node} (h : n.SameTexts source text f) :
    ofNode text (n.map f) = ofNode source n := by
  have hdecorated : ((n.map f).child? .definition).bind (ofDefinition? text (n.map f)) =
      (n.child? .definition).bind (ofDefinition? source n) := by
    rw [Node.child?_map]
    cases hinner : n.child? .definition with
    | none => rfl
    | some inner =>
      exact ofDefinition?_map h (h.of_mem_children (List.mem_of_find?_eq_some hinner))
  simp only [ofNode, Node.kind_map, Assignment.ofStatement?_map h, hdecorated,
    ofDefinition?_map h h, h.self]

end NotebookExport
