import NotebookExport.Proofs.ReadingBack
import NotebookExport.Proofs.Selection

/-!
# Pruning keeps the largest selection

As long as every text on the way can be read again, and is read as what was rendered, pruning goes
from selection to selection of the targets of the first text. No pass gives up a target of a
self-supporting selection, and the last one leaves a selection that supports itself; so pruning ends
with the largest of them.
-/

namespace NotebookExport

open Python

variable {parser : Parser} {source text : String} {tree : Node} {c : Outline}
  {passes done : List (List String)}

/-! ### The statements of a selection -/

/-- What stays of a statement if only the targets at some places stay. -/
def Statement.select (chosen : Nat → Bool) : Statement → Option Statement
  | .assignment a =>
    let kept := (a.targets.zipIdx.filter fun t => chosen t.2).map Prod.fst
    if kept.isEmpty then none else some (.assignment { a with targets := kept })
  | s => some s

lemma CellPart.statement_select (chosen : Nat → Bool) (part : CellPart) :
    (part.select chosen).map statement = part.statement.select chosen := by
  cases part with
  | assignment targets value comment rest =>
    simp only [select, statement, Statement.select, List.zipIdx_map, List.filter_map,
      List.isEmpty_map, List.map_map, Function.comp_def, Prod.map_fst, Prod.map_snd, id_eq]
    split_ifs <;> simp [statement, Function.comp_def]
  | fixed s hs names =>
    cases s with
    | assignment a => cases hs
    | _ => rfl

lemma Outline.statements_select (c : Outline) (K : Finset (Nat × Nat)) :
    (c.select K).statements =
      c.statements.zipIdx.filterMap fun s => s.1.select fun j => (s.2, j) ∈ K := by
  simp only [statements, select, List.map_filterMap, List.zipIdx_map, List.filterMap_map,
    Function.comp_def, CellPart.statement_select]
  rfl

/-! ### Reading again what was rendered -/

/-- Every text that pruning comes to is read as a whole text, and what a pass renders can be read
again, with the same statements and the same names read by each of their parts. -/
structure Rereads (parser : Parser) (source : String) : Prop where
  isProgram {passes : List (List String)} {text : String} {tree : Node} :
    Cascade parser source passes text → parser text = .ok tree → tree.kind = .phrase .program
  reread {passes : List (List String)} {text : String} {tree : Node} :
    Cascade parser source passes text → parser text = .ok tree →
      (Pass.ofTree text tree).removed ≠ [] →
      ∃ tree', parser (Pass.ofTree text tree).code = .ok tree' ∧
        Outline.reading (Pass.ofTree text tree).code tree' = (Outline.reading text tree).pass

/-- The kept pieces in their new places are the same statements and read the same names. -/
lemma ReadsBack.rereads (h : ReadsBack parser source) : Rereads parser source where
  isProgram hcascade htree := (h.regular hcascade htree).isProgram
  reread hcascade htree hremoved := by
    obtain ⟨next, hnext, -, houtline⟩ := h.exists_outline_eq hcascade htree hremoved
    exact ⟨next, hnext, houtline readBy isLocal_readBy⟩

lemma filter_append_filter_perm {α : Type} (xs : List α) (p q : α → Bool) :
    (xs.filter (fun x => !p x) ++ (xs.filter p).filter fun x => !q x).Perm
      (xs.filter fun x => !(p x && q x)) := by
  have hleft : (xs.filter fun x => !(p x && q x)).filter (fun x => !p x) =
      xs.filter fun x => !p x := by
    rw [List.filter_filter]
    exact List.filter_congr fun x _ => by cases p x <;> rfl
  have hright : (xs.filter fun x => !(p x && q x)).filter (fun x => !!p x) =
      (xs.filter p).filter fun x => !q x := by
    rw [List.filter_filter, List.filter_filter]
    exact List.filter_congr fun x _ => by cases p x <;> cases q x <;> rfl
  have hparts := List.filter_append_perm (fun x => !p x) (xs.filter fun x => !(p x && q x))
  rwa [hleft, hright] at hparts

/-- Some passes have led from an outline to a text: it is the outline without the targets that they
removed, and none of these is in a self-supporting selection. -/
structure Remains (parser : Parser) (c : Outline) (done : List (List String)) (text : String)
    (keep : Target → Bool) : Prop where
  reads : ∃ tree, parser text = .ok tree ∧ Outline.reading text tree = c.retain keep
  largest_subset : c.largest ⊆ c.chosen keep
  removed : done.flatten.Perm ((c.targets.filter fun t => !keep t.target).map (·.target.text))

namespace Remains

variable {keep : Target → Bool}

/-- Before the first pass nothing is removed. -/
lemma start (htree : parser source = .ok tree) :
    Remains parser (.reading source tree) [] source fun _ => true where
  reads := ⟨tree, htree, (Outline.retain_true source tree).symm⟩
  largest_subset := by
    intro p hp
    obtain ⟨t, hat⟩ := Outline.mem_places.mp (Outline.largest_subset_places _ hp)
    exact Outline.mem_chosen.mpr ⟨t, hat, rfl⟩
  removed := by simp

/-- A target of the largest selection is live in each outline that contains the selection. -/
lemma largest_subset_pass (h : c.largest ⊆ c.chosen keep) :
    c.largest ⊆ c.chosen fun t => keep t && (c.retain keep).keeps t := by
  intro p hp
  obtain ⟨t, hat, hkeep⟩ := Outline.mem_chosen.mp (h hp)
  obtain ⟨u, hu, hlive⟩ := (Outline.supported_iff (Outline.chosen_subset_places keep)).mp
    ((c.selfSupporting_largest p hp).mono h)
  obtain rfl := Option.some.inj (hat.symm.trans hu)
  rw [Outline.select_chosen] at hlive
  exact Outline.mem_chosen.mpr ⟨t, hat, by simp [hkeep, hlive]⟩

lemma length_removed_le (h : Remains parser c done text keep) :
    done.flatten.length ≤ c.targets.length := by
  rw [h.removed.length_eq, List.length_map]
  exact List.length_filter_le _ _

/-- One more pass. -/
lemma step {pass : Pass} (hrereads : Rereads parser source)
    (hcascade : Cascade parser source passes text)
    (h : Remains parser c done text keep) (hrun : Pass.run parser text = .ok pass)
    (hremoved : pass.removed ≠ []) :
    Remains parser c (done ++ [pass.removed]) pass.code
      fun t => keep t && (c.retain keep).keeps t := by
  obtain ⟨tree, htree, hcell⟩ := h.reads
  obtain rfl := Pass.eq_ofTree_of_run htree hrun
  obtain ⟨next, hnext, hreading⟩ := hrereads.reread hcascade htree hremoved
  refine ⟨⟨next, hnext, ?_⟩, largest_subset_pass h.largest_subset, ?_⟩
  · rw [hreading, hcell, Outline.pass, Outline.retain_retain]
  · have hpass : (Pass.ofTree text tree).removed =
        ((c.targets.filter fun t => keep t.target).filter fun t =>
          !(c.retain keep).keeps t.target).map (·.target.text) := by
      rw [Outline.removed_ofTree (hrereads.isProgram hcascade htree), hcell, Outline.targets_retain]
    rw [List.flatten_append, List.flatten_singleton, hpass]
    refine (h.removed.append_right _).trans ?_
    rw [← List.map_append]
    exact (filter_append_filter_perm c.targets _ _).map _

/-- Passes follow one another until one removes nothing. -/
lemma exists_last (hrereads : Rereads parser source) (hcascade : Cascade parser source passes text)
    (h : Remains parser c passes text keep) :
    ∃ passes' text' keep' pass, Cascade parser source passes' text' ∧
      Remains parser c passes' text' keep' ∧ Pass.run parser text' = .ok pass ∧
      pass.removed = [] := by
  induction hleft : c.targets.length - passes.flatten.length using Nat.strong_induction_on
    generalizing passes text keep with
  | _ n ih =>
    obtain ⟨tree, htree, _⟩ := h.reads
    have hrun := Pass.run_of_parse htree
    by_cases hremoved : (Pass.ofTree text tree).removed = []
    · exact ⟨passes, text, keep, _, hcascade, h, hrun, hremoved⟩
    · have hstep := h.step hrereads hcascade hrun hremoved
      have hless : 0 < (Pass.ofTree text tree).removed.length := List.length_pos_iff.mpr hremoved
      have hbound := hstep.length_removed_le
      refine ih _ ?_ (hcascade.next hrun hremoved) hstep rfl
      simp only [List.flatten_append, List.flatten_singleton, List.length_append] at hbound ⊢
      omega

/-- If nothing more is removed, the largest selection is left. -/
lemma chosen_eq_largest {pass : Pass} (hrereads : Rereads parser source)
    (hcascade : Cascade parser source passes text) (h : Remains parser c done text keep)
    (hrun : Pass.run parser text = .ok pass) (hend : pass.removed = []) :
    c.chosen keep = c.largest := by
  obtain ⟨tree, htree, hcell⟩ := h.reads
  obtain rfl := Pass.eq_ofTree_of_run htree hrun
  rw [Outline.removed_ofTree (hrereads.isProgram hcascade htree), hcell, Outline.targets_retain,
    List.map_eq_nil_iff, List.filter_eq_nil_iff] at hend
  have hself : c.SelfSupporting (c.chosen keep) := by
    intro p hp
    obtain ⟨t, hat, hkeep⟩ := Outline.mem_chosen.mp hp
    refine (Outline.supported_iff (Outline.chosen_subset_places keep)).mpr ⟨t, hat, ?_⟩
    rw [Outline.select_chosen]
    simpa using hend t (List.mem_filter.mpr ⟨Outline.mem_targets_of_at? hat, hkeep⟩)
  exact hself.subset_largest.antisymm h.largest_subset

/-- The texts removed are those of the targets outside the selection. -/
lemma removed_perm (h : Remains parser c done text keep) :
    done.flatten.Perm ((c.placed.filter fun t => t.1 ∉ c.chosen keep).map (·.2.target.text)) := by
  have hplaced : c.placed.filter (fun t => t.1 ∉ c.chosen keep) =
      c.placed.filter fun t => !keep t.2.target := by
    refine List.filter_congr fun ⟨p, t⟩ ht => ?_
    have hat := Outline.mem_placed.mp ht
    simp [Outline.mem_chosen, hat]
  have hremoved := h.removed
  rw [← Outline.map_snd_placed, List.filter_map, List.map_map] at hremoved
  rw [hplaced]
  exact hremoved

end Remains

/-- A cascade leads to the text of the statements that its last pass leaves. -/
lemma Cascade.code_eq (hrereads : Rereads parser source) (h : Cascade parser source passes text)
    (hne : passes ≠ []) (htree : parser text = .ok tree) :
    text = renderStatements (Statement.ofTree text tree) := by
  obtain ⟨before, passes', pass, hbefore, hrun, hremoved, _, rfl⟩ := h.exists_last hne
  obtain ⟨tree', htree', rfl⟩ := Pass.run_eq_ok_iff.mp hrun
  obtain ⟨next, hnext, hreading⟩ := hrereads.reread hbefore htree' hremoved
  obtain rfl := Except.ok.inj (htree.symm.trans hnext)
  rw [← Outline.statements_reading, hreading]
  exact Outline.code_ofTree (hrereads.isProgram hbefore htree') hremoved

/-- If every text on the way is read again as what was rendered, pruning returns a result: it keeps
the targets that are in some self-supporting selection, and all else as it was; what it removes are
the texts of the other targets, each once. Removing dead targets one after the other, in whatever
order, can always go on to the same selection, and ends nowhere else. -/
theorem prune_keeps_largest (htree : parser source = .ok tree) (hrereads : Rereads parser source) :
    ∃ o last kept,
      (∀ p, p ∈ kept ↔ ∃ K, (Outline.reading source tree).SelfSupporting K ∧ p ∈ K) ∧
      (∀ fuel, (Outline.reading source tree).targets.length ≤ fuel →
        pruneWithin parser fuel source = .ok (some o)) ∧
      ((Outline.reading source tree).targets.length ≤ passBound source →
        prune parser source = .ok o) ∧
      parser o.code = .ok last ∧
      Statement.ofTree o.code last =
        (Statement.ofTree source tree).zipIdx.filterMap
          (fun s => s.1.select fun j => (s.2, j) ∈ kept) ∧
      (o.removed = [] → o.code = source) ∧
      (o.removed ≠ [] → o.code = renderStatements (Statement.ofTree o.code last)) ∧
      o.removed.Perm (((Outline.reading source tree).placed.filter fun t => t.1 ∉ kept).map
        fun t => t.2.target.text) ∧
      ∀ K, Relation.ReflTransGen (Outline.reading source tree).Drops
          (Outline.reading source tree).places K →
        Relation.ReflTransGen (Outline.reading source tree).Drops K kept ∧
          ((∀ K', ¬ (Outline.reading source tree).Drops K K') → K = kept) := by
  obtain ⟨passes, text, keep, pass, hcascade, hremains, hrun, hend⟩ :=
    (Remains.start htree).exists_last hrereads (.refl source)
  obtain ⟨last, hlast, hcell⟩ := hremains.reads
  have hprunes := hcascade.prunes htree hrun hend
  have hchosen := hremains.chosen_eq_largest hrereads hcascade hrun hend
  have hbound : passes.length ≤ (Outline.reading source tree).targets.length :=
    hcascade.length_le.trans hremains.length_removed_le
  refine ⟨⟨text, passes, (NameUsage.ofTree source tree).unread, none⟩, last,
    (Outline.reading source tree).largest, ?_, ?_, ?_, hlast, ?_, ?_, ?_, ?_, ?_⟩
  · intro p
    exact Outline.mem_largest
  · intro fuel hfuel
    exact hprunes.pruneWithin_eq (hbound.trans hfuel)
  · intro hfuel
    exact hprunes.prune_eq (hbound.trans hfuel)
  · rw [← Outline.statements_reading, hcell, ← Outline.select_chosen, hchosen,
      Outline.statements_select, Outline.statements_reading]
  · intro hnone
    cases hcascade with
    | refl => rfl
    | pass hrun hremoved _ => simp [Pruned.removed, hremoved] at hnone
  · intro hsome
    apply hcascade.code_eq hrereads _ hlast
    rintro rfl
    exact hsome rfl
  · rw [← hchosen]
    exact hremains.removed_perm
  · intro K hK
    exact Outline.drops_confluent hK

/-- The self-supporting selections of the cell with a cycle leave the cycle. -/
theorem prune_keeps_cycle :
    ∃ kept : Finset (Nat × Nat),
      (∀ p, p ∈ kept ↔
        ∃ K, (Outline.reading "x = x\ny = x\n" (copyLines 2)).SelfSupporting K ∧ p ∈ K) ∧
      (Statement.ofTree "x = x\ny = x\n" (copyLines 2)).zipIdx.filterMap
          (fun s => s.1.select fun j => (s.2, j) ∈ kept) =
        [.assignment ⟨[⟨"x", .name "x"⟩], "x", none⟩] := by
  obtain ⟨o, last, kept, hkept, hwithin, _, hlast, hstatements, _⟩ :=
    prune_keeps_largest (show cyclicParser _ = .ok (copyLines 2) from rfl)
      readsBack_cyclicParser.rereads
  have hprune : pruneWithin cyclicParser 2 "x = x\ny = x\n" =
      .ok (some ⟨"x = x\n", [["y"]], ["y"], none⟩) := by rfl
  obtain rfl : ⟨"x = x\n", [["y"]], ["y"], none⟩ = o :=
    Option.some.inj (Except.ok.inj (hprune.symm.trans (hwithin 2 (by decide))))
  obtain rfl : copyLines 1 = last := Except.ok.inj hlast
  have hcode : Statement.ofTree "x = x\n" (copyLines 1) =
      [.assignment ⟨[⟨"x", .name "x"⟩], "x", none⟩] := by rfl
  exact ⟨kept, hkept, hstatements.symm.trans hcode⟩

end NotebookExport
