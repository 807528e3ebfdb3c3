import NotebookExport.Proofs.Cascade
import NotebookExport.Proofs.Reading

/-!
# Passes over outlines

A pass over a text, as a pass over its outline: a target stays if it binds no name or one that the
cell reads, an assignment goes with its last target, and all else stays as it is.
-/

namespace NotebookExport

open Python

/-! ### Retaining targets -/

namespace CellPart

/-- What stays of a part if only the targets with a property stay. -/
def retain (keep : Target → Bool) : CellPart → Option CellPart
  | .assignment targets value comment rest =>
    let kept := targets.filter fun t => keep t.target
    if kept.isEmpty then none else some (.assignment kept value comment rest)
  | .fixed s hs names => some (.fixed s hs names)

lemma statement_retain (unread : List String) (part : CellPart) :
    (part.retain (Target.isLive unread)).map statement = part.statement.retain unread := by
  cases part with
  | assignment targets value comment rest =>
    simp only [retain, statement, Statement.retain, List.filter_map, List.isEmpty_map,
      Function.comp_def]
    split_ifs <;> rfl
  | fixed s hs names =>
    cases s with
    | assignment a => cases hs
    | _ => rfl

lemma targets_retain (keep : Target → Bool) (part : CellPart) :
    ((part.retain keep).map targets).getD [] = part.targets.filter fun t => keep t.target := by
  cases part with
  | assignment targets value comment rest =>
    simp only [retain, CellPart.targets]
    split_ifs with hnone
    · exact (List.isEmpty_iff.mp hnone).symm
    · rfl
  | fixed s hs names => rfl

lemma deadTargets_statement (unread : List String) (part : CellPart) :
    part.statement.deadTargets unread =
      (part.targets.filter fun t => !t.target.isLive unread).map TargetPart.target := by
  cases part with
  | assignment targets value comment rest =>
    simp [statement, Statement.deadTargets, Assignment.deadTargets, CellPart.targets,
      List.filter_map, Function.comp_def]
  | fixed s hs names =>
    cases s with
    | assignment a => cases hs
    | _ => rfl

lemma retain_congr {keep keep' : Target → Bool} {part : CellPart}
    (h : ∀ t ∈ part.targets, keep t.target = keep' t.target) :
    part.retain keep = part.retain keep' := by
  cases part with
  | assignment targets value comment rest =>
    have : targets.filter (fun t => keep t.target) = targets.filter fun t => keep' t.target :=
      List.filter_congr h
    simp [retain, this]
  | fixed s hs names => rfl

lemma retain_bind_retain (keep keep' : Target → Bool) (part : CellPart) :
    (part.retain keep).bind (retain keep') = part.retain fun t => keep t && keep' t := by
  cases part with
  | assignment targets value comment rest =>
    have hfilter : (targets.filter fun t => keep t.target && keep' t.target) =
        (targets.filter fun t => keep t.target).filter fun t => keep' t.target := by
      rw [List.filter_filter]
      simp only [Bool.and_comm]
    simp only [retain, hfilter]
    by_cases h : (targets.filter fun t => keep t.target) = [] <;> simp [h, retain]
  | fixed s hs names => rfl

lemma names_retain_subset {keep : Target → Bool} {part part' : CellPart}
    (h : part.retain keep = some part') : part'.names ⊆ part.names := by
  cases part with
  | assignment targets value comment rest =>
    simp only [retain] at h
    split_ifs at h
    obtain rfl := Option.some.inj h
    intro name hname
    simp only [names, Finset.mem_union, mem_unionOf, List.mem_map, List.mem_filter] at hname ⊢
    grind
  | fixed s hs names =>
    obtain rfl := Option.some.inj h
    exact Finset.Subset.refl _

end CellPart

namespace Outline

variable {source : String} {tree : Node}

def targets (c : Outline) : List TargetPart := c.parts.flatMap CellPart.targets

/-- What stays of an outline if only the targets with a property stay. -/
def retain (keep : Target → Bool) (c : Outline) : Outline :=
  { c with parts := c.parts.filterMap (CellPart.retain keep) }

lemma statements_retain (unread : List String) (c : Outline) :
    (c.retain (Target.isLive unread)).statements =
      c.statements.filterMap (Statement.retain unread) := by
  simp only [statements, retain, List.map_filterMap, List.filterMap_map, Function.comp_def,
    CellPart.statement_retain]

lemma targets_retain (keep : Target → Bool) (c : Outline) :
    (c.retain keep).targets = c.targets.filter fun t => keep t.target := by
  simp only [targets, retain]
  induction c.parts with
  | nil => rfl
  | cons part parts ih =>
    rw [List.flatMap_cons, List.filter_append, ← CellPart.targets_retain keep part, ← ih]
    cases hpart : part.retain keep <;> simp [hpart]

lemma retain_congr {keep keep' : Target → Bool} {c : Outline}
    (h : ∀ t ∈ c.targets, keep t.target = keep' t.target) : c.retain keep = c.retain keep' := by
  have hparts : ∀ part ∈ c.parts, part.retain keep = part.retain keep' := by
    intro part hpart
    apply CellPart.retain_congr
    intro t ht
    exact h t (List.mem_flatMap.mpr ⟨part, hpart, ht⟩)
  simp only [retain, List.filterMap_congr hparts]

lemma retain_retain (keep keep' : Target → Bool) (c : Outline) :
    (c.retain keep).retain keep' = c.retain fun t => keep t && keep' t := by
  simp only [retain, List.filterMap_filterMap, CellPart.retain_bind_retain]

/-- Nothing goes if all targets stay, as every assignment has one. -/
lemma retain_true (source : String) (tree : Node) :
    (reading source tree).retain (fun _ => true) = reading source tree := by
  have hpart : ∀ part ∈ (reading source tree).parts, part.retain (fun _ => true) = some part := by
    intro part hpart
    cases part with
    | assignment targets value comment rest =>
      have hmem : .assignment ⟨targets.map TargetPart.target, value, comment⟩ ∈
          Statement.ofTree source tree := by
        rw [← statements_reading]
        exact List.mem_map.mpr ⟨_, hpart, rfl⟩
      have hne := Statement.targets_ne_nil_of_mem_ofTree hmem
      simp only [ne_eq, List.map_eq_nil_iff] at hne
      simp [CellPart.retain, hne]
    | fixed s hs names => rfl
  rw [retain, List.filterMap_congr hpart, List.filterMap_some]

/-- Removing targets takes names away and adds none. -/
lemma names_retain_subset (keep : Target → Bool) (c : Outline) :
    (c.retain keep).names ⊆ c.names := by
  intro name hname
  simp only [names, retain, Finset.mem_union, mem_unionOf, List.mem_map, List.mem_filterMap] at *
  obtain ⟨_, ⟨part', ⟨part, hpart, hpart'⟩, rfl⟩, hname⟩ | hname := hname
  · exact .inl ⟨_, ⟨part, hpart, rfl⟩, CellPart.names_retain_subset hpart' hname⟩
  · exact .inr hname

/-! ### One pass -/

/-- Whether a target stays: it binds no name, or one that the cell reads. -/
def keeps (c : Outline) (t : Target) : Bool := t.names.isEmpty || t.names.any (· ∈ c.names)

lemma keeps_iff {c : Outline} {t : Target} :
    c.keeps t ↔ t.names = [] ∨ ∃ name ∈ t.names, name ∈ c.names := by
  simp [keeps]

/-- One pass over an outline that holds the names it reads. -/
def pass (c : Outline) : Outline := c.retain c.keeps

lemma mem_targets_ofTree {look : Look} {t : TargetPart}
    (h : t ∈ (ofTree look source tree).targets) :
    ∃ a, .assignment a ∈ Statement.ofTree source tree ∧ t.target ∈ a.targets := by
  obtain ⟨part, hpart, ht⟩ := List.mem_flatMap.mp h
  rw [← statements_ofTree look source tree]
  cases part with
  | assignment targets value comment rest =>
    exact ⟨⟨targets.map TargetPart.target, value, comment⟩,
      List.mem_map.mpr ⟨_, hpart, rfl⟩, List.mem_map_of_mem ht⟩
  | fixed s hs names => simp [CellPart.targets] at ht

/-- For a target of an outline, to be live is to be kept by the names that the cell reads. -/
lemma isLive_eq_keeps (hroot : tree.kind = .phrase .program) {look : Look} {t : TargetPart}
    (ht : t ∈ (ofTree look source tree).targets) :
    t.target.isLive (NameUsage.ofTree source tree).unread =
      (reading source tree).keeps t.target := by
  obtain ⟨a, ha, hmem⟩ := mem_targets_ofTree ht
  rw [Bool.eq_iff_iff, Target.isLive_iff, keeps_iff]
  apply or_congr_right
  apply exists_congr
  intro name
  apply and_congr_right
  intro hname
  have hbound : name ∈ tree.boundNames source :=
    Statement.mem_boundNames_of_mem_ofTree ha hmem hname
  rw [mem_names_reading hroot, NameUsage.mem_unread]
  simp [NameUsage.ofTree, hbound]

/-- A pass over a text retains in its outline what a pass over the outline retains. -/
lemma retain_isLive (hroot : tree.kind = .phrase .program) (look : Look) :
    (ofTree look source tree).retain (Target.isLive (NameUsage.ofTree source tree).unread) =
      (ofTree look source tree).retain (reading source tree).keeps := by
  apply retain_congr
  intro t ht
  exact isLive_eq_keeps hroot ht

/-- The text that a pass leaves, if it removes anything, is that of the outline after the pass. -/
theorem code_ofTree (hroot : tree.kind = .phrase .program)
    (hremoved : (Pass.ofTree source tree).removed ≠ []) :
    (Pass.ofTree source tree).code = renderStatements (reading source tree).pass.statements := by
  have hpass : (reading source tree).pass =
      (reading source tree).retain (Target.isLive (NameUsage.ofTree source tree).unread) :=
    (retain_isLive hroot (readBy source)).symm
  rw [Pass.code_ofTree_of_removed_ne_nil hremoved, hpass, statements_retain, statements_reading]

/-- What a pass removes are the texts of the targets that its outline does not keep. -/
theorem removed_ofTree (hroot : tree.kind = .phrase .program) :
    (Pass.ofTree source tree).removed =
      ((reading source tree).targets.filter fun t => !(reading source tree).keeps t.target).map
        fun t => t.target.text := by
  have hdead : (Pass.ofTree source tree).removed =
      ((reading source tree).statements.flatMap
        (Statement.deadTargets (NameUsage.ofTree source tree).unread)).map Target.text := by
    rw [statements_reading]
    rfl
  have hkeeps : (reading source tree).targets.filter
      (fun t => !t.target.isLive (NameUsage.ofTree source tree).unread) =
      (reading source tree).targets.filter fun t => !(reading source tree).keeps t.target := by
    apply List.filter_congr
    intro t ht
    rw [isLive_eq_keeps hroot ht]
  rw [hdead, ← hkeeps, statements, targets, List.flatMap_map, List.filter_flatMap,
    List.map_flatMap, List.map_flatMap]
  simp only [CellPart.deadTargets_statement, List.map_map, Function.comp_def]

end Outline

end NotebookExport
