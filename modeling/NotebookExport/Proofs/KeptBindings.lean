import NotebookExport.Proofs.ReadingBack

/-!
# Bindings that pruning keeps

A name that the result of pruning reads was read before every pass, so no pass has removed a target
that binds it. Its bindings stay, but for those inside the value of an assignment that goes with its
last target: whether a target is live depends on the names that the target itself binds, and not on
what else the assignment does.
-/

namespace NotebookExport

open Python

variable {parser : Parser} {source text : String} {tree : Node} {name : String}
  {passes : List (List String)}

/-! ### Targets that bind a name -/

lemma CellPart.targets_attach (comment : String) (names : Finset String) (part : CellPart) :
    (part.attach comment names).targets = part.targets := by
  cases part <;> rfl

lemma CellPart.exists_node_of_mem_targets {look : Look} {n : Node} {t : TargetPart}
    (h : t ∈ (ofNode look source n).targets) :
    ∃ left, t = ⟨Target.ofNode source left, look .target left⟩ := by
  unfold ofNode at h
  split at h
  case h_1 =>
    obtain ⟨left, _, rfl⟩ := List.mem_map.mp h
    exact ⟨left, rfl⟩
  all_goals cases h

namespace Outline

lemma exists_node_of_mem_partsOf {look : Look} {before : Option (CellPart × Nat)} {ns : List Node}
    {part : CellPart} {t : TargetPart} (hpart : part ∈ partsOf look source before ns)
    (ht : t ∈ part.targets) :
    (∃ b row, before = some (b, row) ∧ t ∈ b.targets) ∨
      ∃ left, t = ⟨Target.ofNode source left, look .target left⟩ := by
  induction ns generalizing before with
  | nil =>
    rw [partsOf, Option.mem_toList, Option.map_eq_some_iff] at hpart
    obtain ⟨⟨b, row⟩, hbefore, rfl⟩ := hpart
    exact .inl ⟨b, row, hbefore, ht⟩
  | cons n ns ih =>
    -- a part that begins with `n`
    have hown : part ∈ partsOf look source (some (.ofNode look source n, n.stop.row)) ns →
        ∃ left, t = ⟨Target.ofNode source left, look .target left⟩ := by
      intro h
      rcases ih h with ⟨b, row, hb, ht⟩ | hnode
      · obtain ⟨rfl, -⟩ := Prod.mk.inj (Option.some.inj hb)
        exact CellPart.exists_node_of_mem_targets ht
      · exact hnode
    rcases before with _ | ⟨b, row⟩
    · exact .inr (hown hpart)
    · simp only [partsOf] at hpart
      split_ifs at hpart with hcomment
      · rcases ih hpart with ⟨b', row', hb, ht⟩ | hnode
        · obtain ⟨rfl, -⟩ := Prod.mk.inj (Option.some.inj hb)
          exact .inl ⟨b, row, rfl, by rwa [CellPart.targets_attach] at ht⟩
        · exact .inr hnode
      · rcases List.mem_cons.mp hpart with rfl | hpart
        · exact .inl ⟨part, row, rfl, ht⟩
        · exact .inr (hown hpart)

lemma exists_node_of_mem_targets {look : Look} {t : TargetPart}
    (h : t ∈ (ofTree look source tree).targets) :
    ∃ left, t = ⟨Target.ofNode source left, look .target left⟩ := by
  obtain ⟨part, hpart, ht⟩ := List.mem_flatMap.mp h
  rcases exists_node_of_mem_partsOf hpart ht with ⟨_, _, hnone, _⟩ | hnode
  · cases hnone
  · exact hnode

/-- A target that binds a name somewhere in it, and a name that is read, is kept. -/
lemma keeps_of_mem_names {t : TargetPart} (ht : t ∈ (binding source tree).targets)
    (hname : name ∈ t.names) (hread : name ∈ (reading source tree).names) :
    (reading source tree).keeps t.target := by
  obtain ⟨left, rfl⟩ := exists_node_of_mem_targets ht
  rw [keeps_iff, Target.names_ofNode]
  split_ifs with honly
  · exact .inr ⟨name, mem_boundBy_of_binding honly (mem_bindBy_target.mp hname), hread⟩
  · exact .inl rfl

/-! ### Parts that bind a name -/

/-- All bindings of a name are inside the values of assignments that go. -/
def BindsOnlyInDropped (c : Outline) (keep : Target → Bool) (name : String) : Prop :=
  name ∈ c.names ∧ name ∉ c.loose ∧ ∀ part ∈ c.parts, name ∈ part.names →
    part.retain keep = none ∧ ∀ t ∈ part.targets, name ∉ t.names

end Outline

lemma CellPart.mem_names_of_retain {keep : Target → Bool} {part part' : CellPart}
    (h : part.retain keep = some part')
    (hkeep : ∀ t ∈ part.targets, name ∈ t.names → keep t.target) (hname : name ∈ part.names) :
    name ∈ part'.names := by
  cases part with
  | assignment targets value comment rest =>
    simp only [retain] at h
    split_ifs at h
    obtain rfl := Option.some.inj h
    simp only [names, Finset.mem_union, mem_unionOf, List.mem_map, List.mem_filter,
      CellPart.targets] at hkeep hname ⊢
    rcases hname with ⟨_, ⟨t, ht, rfl⟩, hname⟩ | hname
    · exact .inl ⟨_, ⟨t, ⟨ht, hkeep t ht hname⟩, rfl⟩, hname⟩
    · exact .inr hname
  | fixed s hs names =>
    obtain rfl := Option.some.inj h
    exact hname

lemma CellPart.retain_ne_none {keep : Target → Bool} {part : CellPart} {t : TargetPart}
    (ht : t ∈ part.targets) (hkeep : keep t.target) : part.retain keep ≠ none := by
  cases part with
  | assignment targets value comment rest =>
    have hsome : (targets.filter fun t => keep t.target) ≠ [] :=
      List.ne_nil_of_mem (List.mem_filter.mpr ⟨ht, hkeep⟩)
    simp [retain, hsome]
  | fixed s hs names => cases ht

/-- A pass keeps a binding of each name whose targets it keeps, unless all of them go with the
values of assignments. -/
lemma Outline.mem_names_retain_of_keep {c : Outline} {keep : Target → Bool} (hname : name ∈ c.names)
    (hkeep : ∀ t ∈ c.targets, name ∈ t.names → keep t.target)
    (hbeside : ¬ c.BindsOnlyInDropped keep name) : name ∈ (c.retain keep).names := by
  have hpart : ∀ part ∈ c.parts, ∀ t ∈ part.targets, name ∈ t.names → keep t.target := by
    intro part hpart t ht
    exact hkeep t (List.mem_flatMap.mpr ⟨part, hpart, ht⟩)
  -- if the name is not loose, some part that binds it stays
  have hstays : name ∈ c.loose ∨ ∃ part ∈ c.parts, name ∈ part.names ∧ part.retain keep ≠ none := by
    by_contra hnone
    push Not at hnone
    apply hbeside
    refine ⟨hname, hnone.1, ?_⟩
    intro part hmem hbinds
    refine ⟨hnone.2 part hmem hbinds, ?_⟩
    intro t ht hname
    exact CellPart.retain_ne_none ht (hpart part hmem t ht hname) (hnone.2 part hmem hbinds)
  simp only [names, retain, Finset.mem_union, mem_unionOf, List.mem_map, List.mem_filterMap]
  rcases hstays with hloose | ⟨part, hmem, hbinds, hsome⟩
  · exact .inr hloose
  · obtain ⟨part', hretain⟩ := Option.ne_none_iff_exists'.mp hsome
    exact .inl ⟨_, ⟨part', ⟨part, hmem, hretain⟩, rfl⟩,
      CellPart.mem_names_of_retain hretain (hpart part hmem) hbinds⟩

/-! ### Cascades -/

/-- Every text that pruning comes to is read as a whole text; and if what a pass renders can be read
again, then it reads no name that the pass has not left, and binds every name that it has left. -/
structure RereadsNames (parser : Parser) (source : String) : Prop where
  isProgram {passes : List (List String)} {text : String} {tree : Node} :
    Cascade parser source passes text → parser text = .ok tree → tree.kind = .phrase .program
  reads {passes : List (List String)} {text : String} {tree tree' : Node} {name : String} :
    Cascade parser source passes text → parser text = .ok tree →
      (Pass.ofTree text tree).removed ≠ [] →
      parser (Pass.ofTree text tree).code = .ok tree' →
      name ∈ tree'.readNames (Pass.ofTree text tree).code →
      name ∈ (Outline.reading text tree).pass.names
  binds {passes : List (List String)} {text : String} {tree tree' : Node} {name : String} :
    Cascade parser source passes text → parser text = .ok tree →
      (Pass.ofTree text tree).removed ≠ [] →
      parser (Pass.ofTree text tree).code = .ok tree' →
      name ∈ ((Outline.binding text tree).retain (Outline.reading text tree).keeps).names →
      name ∈ bindingNames (Pass.ofTree text tree).code tree'

/-- The kept pieces in their new places read and bind the same names. -/
lemma ReadsBack.rereadsNames (h : ReadsBack parser source) : RereadsNames parser source where
  isProgram hcascade htree := (h.regular hcascade htree).isProgram
  reads hcascade htree hremoved hnext hread := by
    obtain ⟨next, hnext', hkind, houtline⟩ := h.exists_outline_eq hcascade htree hremoved
    obtain rfl := Except.ok.inj (hnext.symm.trans hnext')
    have hreading : Outline.reading _ _ = (Outline.reading _ _).pass :=
      houtline readBy isLocal_readBy
    rw [← hreading]
    exact (Outline.mem_names_reading hkind).mpr hread
  binds hcascade htree hremoved hnext hkept := by
    obtain ⟨next, hnext', hkind, houtline⟩ := h.exists_outline_eq hcascade htree hremoved
    obtain rfl := Except.ok.inj (hnext.symm.trans hnext')
    have hbinding : Outline.binding _ _ = (Outline.binding _ _).retain _ :=
      houtline bindBy isLocal_bindBy
    rw [← hbinding] at hkept
    exact (Outline.mem_names_binding hkind).mp hkept

/-- A pass on the way drops every binding of a name, as they are all inside the values of
assignments that it drops. -/
def LosesBinding (parser : Parser) (source name : String) : Prop :=
  ∃ passes text tree, Cascade parser source passes text ∧ parser text = .ok tree ∧
    (Pass.ofTree text tree).removed ≠ [] ∧
    (Outline.binding text tree).BindsOnlyInDropped (Outline.reading text tree).keeps name

/-- Every text of a cascade that goes on can be read. -/
lemma Cascade.exists_tree {text' : String} {last : Node} (h : Cascade parser text passes text')
    (hlast : parser text' = .ok last) : ∃ tree, parser text = .ok tree := by
  cases h with
  | refl => exact ⟨last, hlast⟩
  | pass hrun _ _ =>
    obtain ⟨tree, htree, _⟩ := Pass.run_eq_ok_iff.mp hrun
    exact ⟨tree, htree⟩

/-- What the last text of a cascade reads is read and stays bound all the way. -/
lemma Cascade.bound_of_read {passes' : List (List String)} {text' : String} {last : Node}
    (hrereads : RereadsNames parser source) (hbefore : Cascade parser source passes text)
    (h : Cascade parser text passes' text') (htree : parser text = .ok tree)
    (hlast : parser text' = .ok last) (hread : name ∈ last.readNames text') :
    name ∈ tree.readNames text ∧ (name ∈ bindingNames text tree →
      name ∈ bindingNames text' last ∨ LosesBinding parser source name) := by
  induction h generalizing passes tree with
  | refl text =>
    obtain rfl := Except.ok.inj (htree.symm.trans hlast)
    exact ⟨hread, .inl⟩
  | @pass text text' pass passes' hrun hremoved rest ih =>
    obtain ⟨next, hnext⟩ := rest.exists_tree hlast
    obtain ⟨hreadNext, hboundNext⟩ := ih (hbefore.next hrun hremoved) hnext hlast hread
    obtain rfl := Pass.eq_ofTree_of_run htree hrun
    have hroot := hrereads.isProgram hbefore htree
    have hreadCell : name ∈ (Outline.reading text tree).names :=
      Outline.names_retain_subset _ _ (hrereads.reads hbefore htree hremoved hnext hreadNext)
    refine ⟨(Outline.mem_names_reading hroot).mp hreadCell, ?_⟩
    intro hbound
    by_cases hlost :
        (Outline.binding text tree).BindsOnlyInDropped (Outline.reading text tree).keeps name
    · exact .inr ⟨passes, text, tree, hbefore, htree, hremoved, hlost⟩
    · have hkept := Outline.mem_names_retain_of_keep ((Outline.mem_names_binding hroot).mpr hbound)
        (fun t ht hname => Outline.keeps_of_mem_names ht hname hreadCell) hlost
      exact hboundNext (hrereads.binds hbefore htree hremoved hnext hkept)

/-- A name that the result reads and the text as it was binds is still bound in the result, unless a
pass drops all its bindings inside the values of assignments. -/
theorem Prunes.bound_of_read_or_losesBinding {o : Pruned} {last : Node}
    (h : Prunes parser source o) (hrereads : RereadsNames parser source)
    (htree : parser source = .ok tree) (hlast : parser o.code = .ok last)
    (hread : name ∈ last.readNames o.code) (hbound : name ∈ bindingNames source tree) :
    name ∈ bindingNames o.code last ∨ LosesBinding parser source name :=
  (Cascade.bound_of_read hrereads (.refl source) h.cascade.1 htree hlast hread).2 hbound

/-- The name that a cell with a cycle reads stays bound. -/
theorem bound_of_read_in_cycle :
    Prunes cyclicParser "x = x\ny = x\n" ⟨"x = x\n", [["y"]], ["y"], none⟩ ∧
      "x" ∈ (copyLines 1).readNames "x = x\n" ∧
      "x" ∈ bindingNames "x = x\ny = x\n" (copyLines 2) ∧
      ("x" ∈ bindingNames "x = x\n" (copyLines 1) ∨
        LosesBinding cyclicParser "x = x\ny = x\n" "x") := by
  have h : Prunes cyclicParser "x = x\ny = x\n" ⟨"x = x\n", [["y"]], ["y"], none⟩ := ⟨1, rfl⟩
  have htree : cyclicParser "x = x\ny = x\n" = .ok (copyLines 2) := rfl
  have hread : "x" ∈ (copyLines 1).readNames "x = x\n" := by decide +kernel
  have hbound : "x" ∈ bindingNames "x = x\ny = x\n" (copyLines 2) := by decide +kernel
  exact ⟨h, hread, hbound,
    h.bound_of_read_or_losesBinding readsBack_cyclicParser.rereadsNames htree rfl hread hbound⟩

/-! ### A binding that goes with a value -/

/-- The line `x=(y:=5)`. -/
def Python.Node.walrusLine : Node :=
  let part := onLine 0 0
  part (.phrase .expressionStatement) none 0 8 [part (.phrase .assignment) none 0 8 [
    part (.token .identifier) (some .left) 0 1 [],
    part (.token .equals) none 1 2 [],
    part (.phrase .parenthesizedExpression) (some .right) 2 8 [
      part (.token .lparen) none 2 3 [],
      part (.phrase .namedExpression) none 3 7 [
        part (.token .identifier) (some .name) 3 4 [],
        part (.token .walrus) none 4 6 [],
        part (.token .integer) (some .value) 6 7 []],
      part (.token .rparen) none 7 8 []]]]

/-- Reads a cell that binds a name in the value of an assignment, and what is left of it, as
`Python.parse` does. -/
def walrusParser : Parser
  | "x=(y:=5)\ny\n" => .ok (.programOf 11 2 [Node.walrusLine, Node.nameLine 9 1])
  | "y\n" => .ok (.programOf 2 1 [Node.nameLine 0 0])
  | _ => .error ⟨1, 1, .unexpected ""⟩

/-- The name `y` is bound and read, and pruning takes its binding away. -/
theorem walrus_binding_lost :
    ∃ o tree last, prune walrusParser "x=(y:=5)\ny\n" = .ok o ∧
      walrusParser "x=(y:=5)\ny\n" = .ok tree ∧ walrusParser o.code = .ok last ∧
      "y" ∈ last.readNames o.code ∧ "y" ∈ bindingNames "x=(y:=5)\ny\n" tree ∧
      "y" ∉ bindingNames o.code last :=
  ⟨⟨"y\n", [["x"]], ["x"], none⟩, Node.programOf 11 2 [Node.walrusLine, Node.nameLine 9 1],
    Node.programOf 2 1 [Node.nameLine 0 0], rfl, rfl, rfl, by decide +kernel, by decide +kernel,
    by decide +kernel⟩

end NotebookExport
