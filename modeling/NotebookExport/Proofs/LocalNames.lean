import NotebookExport.Proofs.Binding
import NotebookExport.Proofs.Reading
import NotebookExport.Proofs.Relocation

/-!
# Names of moved nodes

What a node reads and what it binds are made of the texts in it, not of its place. So a node moved
to a place where another text has its text reads and binds the same names there (`Look.IsLocal`).
-/

namespace NotebookExport

open Python Text

variable {source text : String} {f : Position → Position}

/-! ### Reading -/

lemma any_isNamed_mapAll (f : Position → Position) (ns : List Node) :
    (Node.mapAll f ns).any Node.isNamed = ns.any Node.isNamed := by
  rw [Node.mapAll_eq_map, List.any_map]
  congr 1
  exact funext fun n => n.isNamed_map

mutual

lemma namesUnder_map (aspect : Aspect) (n : Node) (h : n.SameTexts source text f) :
    namesUnder text aspect (n.map f) = namesUnder source aspect n := by
  match n with
  | .node info children =>
    have htext := h.self
    rw [Node.map] at htext ⊢
    simp only [namesUnder, any_isNamed_mapAll, htext]
    cases readingRule? info.kind (children.any Node.isNamed) aspect with
    | none => rfl
    | some rule => exact namesOfChildren_map rule [] children fun c hc => h.of_mem_children hc

lemma namesOfChildren_map (rule : ReadingRule) (seen : List Field) (ns : List Node)
    (h : ∀ c ∈ ns, c.SameTexts source text f) :
    namesOfChildren text rule seen (Node.mapAll f ns) = namesOfChildren source rule seen ns := by
  match ns with
  | [] => rfl
  | n :: ns =>
    have hn := fun aspect => namesUnder_map aspect n (h n List.mem_cons_self)
    have hns := fun seen =>
      namesOfChildren_map rule seen ns fun c hc => h c (List.mem_cons_of_mem _ hc)
    simp only [Node.mapAll, namesOfChildren, Node.hasRole_map, Node.role?_map, hn, hns]

end

/-! ### Binding -/

mutual

lemma storedNames_map (n : Node) (h : n.SameTexts source text f) :
    storedNames text (n.map f) = storedNames source n := by
  match n with
  | .node info children =>
    have htext := h.self
    have hparts := storedNamesOfAll_map children fun c hc => h.of_mem_children hc
    rw [Node.map] at htext ⊢
    simp only [storedNames, htext, hparts]

lemma storedNamesOfAll_map (ns : List Node) (h : ∀ c ∈ ns, c.SameTexts source text f) :
    storedNamesOfAll text (Node.mapAll f ns) = storedNamesOfAll source ns := by
  match ns with
  | [] => rfl
  | n :: ns =>
    have hn := storedNames_map n (h n List.mem_cons_self)
    have hns := storedNamesOfAll_map ns fun c hc => h c (List.mem_cons_of_mem _ hc)
    simp only [Node.mapAll, storedNamesOfAll, hn, hns]

end

lemma aliasOf_map (f : Position → Position) (ns : List Node) :
    aliasOf (ns.map (Node.map f)) = (aliasOf ns).map (Node.map f) := by
  have hnamed : (fun n : Node => n.isNamed && !n.info.isExtra) ∘ Node.map f =
      fun n => n.isNamed && !n.info.isExtra := by
    funext n
    cases n
    rfl
  have has : (fun n : Node => decide (n.kind ≠ .token .kwAs)) ∘ Node.map f =
      fun n => decide (n.kind ≠ .token .kwAs) := funext fun n => by simp
  rw [aliasOf, List.dropWhile_map, has, List.find?_map, hnamed, aliasOf]

lemma boundPart_map (f : Position → Position) (ns : List Node) (p : Phrase) :
    boundPart (ns.map (Node.map f)) p = (boundPart ns p).map (Node.map f) := by
  have hrole : ∀ role : Field, (fun n : Node => n.hasRole role) ∘ Node.map f =
      fun n => n.hasRole role := fun role => funext fun n => n.hasRole_map role
  unfold boundPart
  split <;> simp only [List.find?_map, hrole, aliasOf_map, Option.map_none]

lemma mem_of_aliasOf {ns : List Node} {n : Node} (h : aliasOf ns = some n) : n ∈ ns :=
  (List.dropWhile_sublist _).subset (List.mem_of_find?_eq_some h)

lemma mem_of_boundPart {ns : List Node} {p : Phrase} {n : Node} (h : boundPart ns p = some n) :
    n ∈ ns := by
  unfold boundPart at h
  split at h
  all_goals first
    | exact List.mem_of_find?_eq_some h
    | exact mem_of_aliasOf h
    | cases h

lemma bindingsOfPhrase_map (p : Phrase) (ns : List Node)
    (h : ∀ c ∈ ns, c.SameTexts source text f) :
    bindingsOfPhrase text p (ns.map (Node.map f)) = bindingsOfPhrase source p ns := by
  rw [bindingsOfPhrase, boundPart_map, bindingsOfPhrase]
  cases hpart : boundPart ns p with
  | none => rfl
  | some n => simp only [Option.map_some, storedNames_map n (h n (mem_of_boundPart hpart))]

mutual

lemma bindingNames_map (n : Node) (h : n.SameTexts source text f) :
    bindingNames text (n.map f) = bindingNames source n := by
  match n with
  | .node info children =>
    have hown := fun p => @bindingsOfPhrase_map source text f p children
      fun c hc => h.of_mem_children hc
    have hparts := bindingNamesOfAll_map children fun c hc => h.of_mem_children hc
    rw [Node.mapAll_eq_map] at hparts
    rw [Node.map, Node.mapAll_eq_map]
    simp only [bindingNames, hown, hparts]

lemma bindingNamesOfAll_map (ns : List Node) (h : ∀ c ∈ ns, c.SameTexts source text f) :
    bindingNamesOfAll text (Node.mapAll f ns) = bindingNamesOfAll source ns := by
  match ns with
  | [] => rfl
  | n :: ns =>
    have hn := bindingNames_map n (h n List.mem_cons_self)
    have hns := bindingNamesOfAll_map ns fun c hc => h c (List.mem_cons_of_mem _ hc)
    simp only [Node.mapAll, bindingNamesOfAll, hn, hns]

end

/-! ### Looking at moved nodes -/

/-- Whether a node is a token that is no name: a mark, a keyword, a comment. -/
def Python.Node.isMark (n : Node) : Bool :=
  match n.kind with
  | .token t => t ≠ .identifier && n.children.isEmpty
  | _ => false

/-- A way to look at nodes that depends only on the texts in them; marks and comments contribute
nothing. -/
structure Look.IsLocal (look : String → Look) : Prop where
  map {source text : String} {f : Position → Position} {n : Node} (aspect : Aspect) :
    n.SameTexts source text f → look text aspect (n.map f) = look source aspect n
  mark {source : String} {n : Node} : n.isMark → look source .value n = ∅
  comment {source : String} {n : Node} : n.kind = .token .comment → look source .value n = ∅

lemma Python.Node.exists_token_of_isMark {n : Node} (h : n.isMark) :
    ∃ info t, n = .node info [] ∧ info.kind = .token t ∧ t ≠ .identifier := by
  obtain ⟨info, children⟩ := n
  unfold isMark at h
  split at h
  case h_1 t ht =>
    simp only [Bool.and_eq_true, decide_eq_true_eq, List.isEmpty_iff] at h
    obtain ⟨hname, rfl : children = []⟩ := h
    exact ⟨info, t, rfl, ht, hname⟩
  case h_2 => cases h

lemma isLocal_readBy : Look.IsLocal readBy where
  map aspect h := by rw [readBy, namesUnder_map aspect _ h, readBy]
  mark h := by
    obtain ⟨info, t, rfl, ht, hname⟩ := Node.exists_token_of_isMark h
    have hrule : ∃ rule, readingRule? (.token t) false .value = some rule := by
      cases t <;> first | exact ⟨_, rfl⟩ | exact absurd rfl hname
    obtain ⟨rule, hrule⟩ := hrule
    simp [readBy, namesUnder, ht, hrule, namesOfChildren]
  comment {source n} h := by
    obtain ⟨info, children⟩ := n
    have hinfo : info.kind = .token .comment := h
    simp [readBy, namesUnder, readingRule?, hinfo, namesOfChildren_nothing]

lemma isLocal_bindBy : Look.IsLocal bindBy where
  map aspect h := by
    cases aspect <;> simp only [bindBy, storedNames_map _ h, bindingNames_map _ h]
  mark h := by
    obtain ⟨info, t, rfl, ht, -⟩ := Node.exists_token_of_isMark h
    simp [bindBy, bindingNames, ht]
  comment h := by simp [bindBy, nothing_bound_of_unnamed (.inr h)]

end NotebookExport
