import NotebookExport.Proofs.Outline
import NotebookExport.Names.Reading

/-!
# Names that a cell binds

All places at which a name is bound, those included that no liveness looks at: besides the targets
of simple assignments and of loops also those of assignments with a type or an operator, the name of
an assignment expression, what stands behind an `as`, and the names of definitions. The variables of
comprehensions and the parameters of functions are bound only in these and do not count. Binding,
too, is a way to look at the nodes of a tree.
-/

namespace NotebookExport

open Python

variable {source : String} {name : String}

mutual

/-- The names that a node binds as a target. -/
def storedNames (source : String) : Node → List String
  | .node info children =>
    match info.kind with
    | .token .identifier => [(Node.node info children).text source]
    | .phrase p => if groupsTargets p then storedNamesOfAll source children else []
    | _ => []

def storedNamesOfAll (source : String) : List Node → List String
  | [] => []
  | n :: ns => storedNames source n ++ storedNamesOfAll source ns

end

/-- What stands behind an `as`. -/
def aliasOf (ns : List Node) : Option Node :=
  (ns.dropWhile fun n => n.kind ≠ .token .kwAs).find? fun n => n.isNamed && !n.info.isExtra

/-- The part of a phrase that is bound by it. -/
def boundPart (children : List Node) : Phrase → Option Node
  | .assignment | .augmentedAssignment | .forStatement => children.find? (·.hasRole .left)
  | .namedExpression | .functionDefinition | .classDefinition => children.find? (·.hasRole .name)
  | .asPattern | .aliasedImport | .exceptClause | .exceptGroupClause => aliasOf children
  | _ => none

/-- The names that a phrase binds by itself. -/
def bindingsOfPhrase (source : String) (p : Phrase) (children : List Node) : List String :=
  ((boundPart children p).map (storedNames source)).getD []

mutual

/-- The names that a node binds anywhere in it. -/
def bindingNames (source : String) : Node → List String
  | .node info children =>
    match info.kind with
    | .phrase p =>
      if p.isNamed then bindingsOfPhrase source p children ++ bindingNamesOfAll source children
      else []
    | _ => []

def bindingNamesOfAll (source : String) : List Node → List String
  | [] => []
  | n :: ns => bindingNames source n ++ bindingNamesOfAll source ns

end

lemma mem_bindingNamesOfAll {ns : List Node} :
    name ∈ bindingNamesOfAll source ns ↔ ∃ n ∈ ns, name ∈ bindingNames source n := by
  induction ns with
  | nil => simp [bindingNamesOfAll]
  | cons n ns ih => simp [bindingNamesOfAll, ih]

lemma mem_storedNamesOfAll {ns : List Node} :
    name ∈ storedNamesOfAll source ns ↔ ∃ n ∈ ns, name ∈ storedNames source n := by
  induction ns with
  | nil => simp [storedNamesOfAll]
  | cons n ns ih => simp [storedNamesOfAll, ih]

lemma bindingNames_of_phrase {n : Node} {p : Phrase} (h : n.kind = .phrase p) (hp : p.isNamed) :
    bindingNames source n =
      bindingsOfPhrase source p n.children ++ bindingNamesOfAll source n.children := by
  obtain ⟨info, children⟩ := n
  have hinfo : info.kind = .phrase p := h
  simp [bindingNames, hinfo, hp, Node.children]

/-! ### Targets that are only names -/

/-- Nothing is bound by a token or by a phrase without a name, unless it is itself a name. -/
lemma nothing_bound_of_unnamed {n : Node} (h : n.isNamed = false ∨ n.kind = .token .comment) :
    storedNames source n = [] ∧ bindingNames source n = [] := by
  obtain ⟨info, children⟩ := n
  have hkind : info.kind.isNamed = false ∨ info.kind = .token .comment := h
  cases hk : info.kind with
  | token t =>
    have ht : t ≠ .identifier := by
      rintro rfl
      rw [hk] at hkind
      rcases hkind with hkind | hkind <;> cases hkind
    refine ⟨?_, by simp [bindingNames, hk]⟩
    unfold storedNames
    split <;> simp_all
  | phrase p =>
    rw [hk] at hkind
    have hp : p.isNamed = false := by
      rcases hkind with hkind | hkind
      · exact hkind
      · cases hkind
    have hgroups : groupsTargets p = false := by cases p <;> first | rfl | cases hp
    exact ⟨by simp [storedNames, hk, hgroups], by simp [bindingNames, hk, hp]⟩
  | error => exact ⟨by simp [storedNames, hk], by simp [bindingNames, hk]⟩

lemma bindingsOfPhrase_pattern {p : Phrase} (hp : isTargetPattern p) (children : List Node) :
    bindingsOfPhrase source p children = [] := by
  cases p <;> first | rfl | cases hp

mutual

/-- A target that does nothing but bind names binds no others. -/
lemma mem_boundBy_of_binding {n : Node} (honly : (boundBy source n).onlyNames)
    (h : name ∈ storedNames source n ∨ name ∈ bindingNames source n) :
    name ∈ (boundBy source n).names := by
  match n with
  | .node info children =>
    unfold boundBy at honly ⊢
    split at honly
    case h_1 hkind => simpa [storedNames, bindingNames, hkind] using h
    case h_2 p hkind =>
      split_ifs at honly with hp
      have hgroups : groupsTargets p := by cases p <;> first | rfl | cases hp
      have hnamed : p.isNamed := by cases p <;> first | rfl | cases hp
      simp only [storedNames, bindingNames, hkind, hgroups, hnamed, if_true,
        bindingsOfPhrase_pattern hp, List.nil_append, mem_storedNamesOfAll,
        mem_bindingNamesOfAll] at h
      simp only [hp, if_true]
      rcases h with ⟨c, hc, hname⟩ | ⟨c, hc, hname⟩
      · exact mem_boundByParts_of_binding honly hc (.inl hname)
      · exact mem_boundByParts_of_binding honly hc (.inr hname)
    case h_3 => cases honly

lemma mem_boundByParts_of_binding {ns : List Node} {c : Node}
    (honly : (boundByParts source ns).onlyNames) (hc : c ∈ ns)
    (h : name ∈ storedNames source c ∨ name ∈ bindingNames source c) :
    name ∈ (boundByParts source ns).names := by
  match ns with
  | [] => cases hc
  | n :: ns =>
    simp only [boundByParts] at honly ⊢
    split_ifs at honly ⊢ with hpart
    · simp only [Bound.append, Bool.and_eq_true] at honly
      rw [Bound.append, List.mem_append]
      rcases List.mem_cons.mp hc with heq | hc
      · exact .inl (mem_boundBy_of_binding honly.1 (heq ▸ h))
      · exact .inr (mem_boundByParts_of_binding honly.2 hc h)
    · rcases List.mem_cons.mp hc with rfl | hc
      · have hnothing : c.isNamed = false ∨ c.kind = .token .comment := by
          simpa [or_iff_not_imp_left] using hpart
        simp [nothing_bound_of_unnamed hnothing] at h
      · exact mem_boundByParts_of_binding honly hc h

end

/-! ### Binding as a way to look at a tree -/

/-- The names that a node binds. -/
def bindBy (source : String) : Look
  | .target, n => (storedNames source n ++ bindingNames source n).toFinset
  | _, n => (bindingNames source n).toFinset

@[simp] lemma mem_bindBy_target {n : Node} :
    name ∈ bindBy source .target n ↔
      name ∈ storedNames source n ∨ name ∈ bindingNames source n := by
  simp [bindBy]

@[simp] lemma mem_bindBy_value {n : Node} :
    name ∈ bindBy source .value n ↔ name ∈ bindingNames source n := by
  simp [bindBy]

lemma mem_namesOfSides_bindBy {seen : List Field} {ns : List Node} :
    name ∈ namesOfSides (bindBy source) seen ns ↔
      (.left ∉ seen ∧ ∃ left, ns.find? (·.hasRole .left) = some left ∧
        name ∈ storedNames source left) ∨ name ∈ bindingNamesOfAll source ns := by
  induction ns generalizing seen with
  | nil => simp [namesOfSides, bindingNamesOfAll]
  | cons n ns ih =>
    rw [namesOfSides, Finset.mem_union, ih, bindingNamesOfAll, List.mem_append, List.find?_cons]
    by_cases hleft : n.hasRole .left
    · have hrole := Node.hasRole_iff.mp hleft
      by_cases hseen : .left ∈ seen <;> simp [isFirstLeft, hleft, hrole, hseen, or_assoc]
    · have hrole : n.role? ≠ some .left := fun h => hleft (Node.hasRole_iff.mpr h)
      simp only [isFirstLeft, hleft, Bool.false_and, Bool.false_eq_true, if_false, mem_bindBy_value,
        List.mem_append, Option.mem_toList, hrole, false_or]
      exact or_left_comm

lemma isByParts_bindBy (source : String) : (bindBy source).IsByParts where
  assignment {n} hn := by
    simp only [isUntypedAssignment, Bool.and_eq_true, decide_eq_true_eq] at hn
    ext name
    rw [mem_namesOfSides_bindBy, mem_bindBy_value, bindingNames_of_phrase hn.1 rfl, List.mem_append,
      bindingsOfPhrase, boundPart]
    cases n.children.find? (·.hasRole .left) <;> simp
  statement {n} hn := by
    ext name
    rw [mem_bindBy_value, bindingNames_of_phrase hn rfl]
    simp [bindingsOfPhrase, boundPart, mem_bindingNamesOfAll]

/-- The outline of a text with the names that its parts bind. -/
def Outline.binding (source : String) (tree : Node) : Outline := ofTree (bindBy source) source tree

/-- An outline binds the names that its tree binds. -/
theorem Outline.mem_names_binding {tree : Node} (hroot : tree.kind = .phrase .program) :
    name ∈ (binding source tree).names ↔ name ∈ bindingNames source tree := by
  rw [binding, mem_names_ofTree (isByParts_bindBy source), bindingNames_of_phrase hroot rfl]
  simp [bindingsOfPhrase, boundPart, mem_bindingNamesOfAll]

end NotebookExport
