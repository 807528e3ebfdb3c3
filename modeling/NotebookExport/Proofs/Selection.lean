import Mathlib.Data.Finset.Card
import Mathlib.Logic.Relation
import NotebookExport.Proofs.OutlinePass

/-!
# Selections of targets

A selection is a set of targets of a cell, given by their places: the number of the statement and
the number of the target in it. It is self-supporting if each of its targets binds no name or one
that is read by what the selection leaves of the cell. Reading only grows with the selection, so the
union of all self-supporting selections is the largest one, and removing dead targets one after the
other leads there in every order.
-/

namespace NotebookExport

namespace CellPart

/-- What a part contributes besides its targets, if it is an assignment. -/
def rest? : CellPart → Option (Finset String)
  | .assignment _ _ _ rest => some rest
  | .fixed .. => none

/-- What stays of a part if only the targets at some places stay. -/
def select (chosen : Nat → Bool) : CellPart → Option CellPart
  | .assignment targets value comment rest =>
    let kept := (targets.zipIdx.filter fun t => chosen t.2).map Prod.fst
    if kept.isEmpty then none else some (.assignment kept value comment rest)
  | .fixed s hs names => some (.fixed s hs names)

lemma select_eq_retain {chosen : Nat → Bool} {keep : Target → Bool} {part : CellPart}
    (h : ∀ t j, part.targets[j]? = some t → chosen j = keep t.target) :
    part.select chosen = part.retain keep := by
  cases part with
  | assignment targets value comment rest =>
    have hkept : (targets.zipIdx.filter fun t => chosen t.2).map Prod.fst =
        targets.filter fun t => keep t.target := by
      have hfilter : targets.zipIdx.filter (fun t => chosen t.2) =
          targets.zipIdx.filter fun t => keep t.1.target := by
        apply List.filter_congr
        intro t ht
        exact h t.1 t.2 (List.mk_mem_zipIdx_iff_getElem?.mp ht)
      rw [hfilter, ← List.zipIdx_map_fst 0 targets, List.filter_map]
      simp [Function.comp_def]
    simp [select, retain, hkept]
  | fixed s hs names => rfl

/-- What is read by what stays of a part: all of it if it is fixed, or else each target that stays,
and the rest if one of them stays. -/
lemma exists_mem_names_select {chosen : Nat → Bool} {part : CellPart} {name : String} :
    (∃ part', part.select chosen = some part' ∧ name ∈ part'.names) ↔
      (∃ s hs names, part = .fixed s hs names ∧ name ∈ names) ∨
        ∃ t j, part.targets[j]? = some t ∧ chosen j ∧
          (name ∈ t.names ∨ ∃ rest, part.rest? = some rest ∧ name ∈ rest) := by
  cases part with
  | assignment targets value comment rest =>
    have hmem : ∀ t, t ∈ (targets.zipIdx.filter fun t => chosen t.2).map Prod.fst ↔
        ∃ j, targets[j]? = some t ∧ chosen j := by
      intro t
      simp [List.mk_mem_zipIdx_iff_getElem?]
    simp only [select, CellPart.targets, rest?]
    split_ifs with hnone
    · have : ∀ t j, targets[j]? = some t → ¬ chosen j := by
        intro t j hj hchosen
        have := (hmem t).mpr ⟨j, hj, hchosen⟩
        rw [List.isEmpty_iff.mp hnone] at this
        cases this
      grind
    · obtain ⟨u, hu⟩ := List.exists_mem_of_ne_nil _ (mt List.isEmpty_iff.mpr hnone)
      have hu := (hmem u).mp hu
      simp only [Option.some.injEq, exists_eq_left', CellPart.names, Finset.mem_union, mem_unionOf,
        List.mem_map (f := TargetPart.names), hmem]
      grind
  | fixed s hs names => simpa [select, CellPart.names, CellPart.targets] using fun _ => hs

end CellPart

namespace Outline

/-- The target at a place. -/
def at? (c : Outline) (p : Nat × Nat) : Option TargetPart := c.parts[p.1]?.bind (·.targets[p.2]?)

/-- The targets with their places. -/
def placed (c : Outline) : List ((Nat × Nat) × TargetPart) :=
  c.parts.zipIdx.flatMap fun part => part.1.targets.zipIdx.map fun t => ((part.2, t.2), t.1)

/-- The places of all targets. -/
def places (c : Outline) : Finset (Nat × Nat) := (c.placed.map Prod.fst).toFinset

/-- The outline with only the targets at some places: the statements keep their order, the
assignments what is left of them, and those of which no target is left are gone. -/
def select (c : Outline) (K : Finset (Nat × Nat)) : Outline :=
  { c with parts := c.parts.zipIdx.filterMap fun part => part.1.select fun j => (part.2, j) ∈ K }

/-- A name is read if only the targets at some places stay: by what is no assignment, or by such a
target, or by the rest of its assignment. -/
def ReadsWith (c : Outline) (K : Finset (Nat × Nat)) (name : String) : Prop :=
  (name ∈ c.loose ∨ ∃ s hs names, .fixed s hs names ∈ c.parts ∧ name ∈ names) ∨
    ∃ p ∈ K, (∃ t, c.at? p = some t ∧ name ∈ t.names) ∨
      ∃ part rest, c.parts[p.1]? = some part ∧ part.rest? = some rest ∧ name ∈ rest

/-- A target has a reason to stay with the targets at some places: it is a place to assign to, an
empty pattern, or binds a name that is read. -/
def Supported (c : Outline) (K : Finset (Nat × Nat)) (p : Nat × Nat) : Prop :=
  ∃ t, c.at? p = some t ∧
    (t.target.shape = .place ∨ t.target.shape = .pattern [] ∨
      ∃ name ∈ t.target.names, c.ReadsWith K name)

/-- Each target of the selection is supported by the selection. -/
def SelfSupporting (c : Outline) (K : Finset (Nat × Nat)) : Prop := ∀ p ∈ K, c.Supported K p

/-- One target is removed that is dead for the names which the targets at some places leave read. -/
def Drops (c : Outline) (K K' : Finset (Nat × Nat)) : Prop :=
  ∃ p ∈ K, ∃ t, c.at? p = some t ∧ (c.select K).keeps t.target = false ∧ K' = K.erase p

/-! ### Places -/

variable {c : Outline} {K K' : Finset (Nat × Nat)} {p : Nat × Nat} {name : String}

lemma mem_placed {t : TargetPart} : (p, t) ∈ c.placed ↔ c.at? p = some t := by
  obtain ⟨i, j⟩ := p
  simp only [placed, at?, List.mem_flatMap, List.mem_map, Prod.exists, Prod.mk.injEq,
    List.mk_mem_zipIdx_iff_getElem?, Option.bind_eq_some_iff]
  grind

lemma mem_places : p ∈ c.places ↔ ∃ t, c.at? p = some t := by
  simp [places, ← mem_placed]

lemma mem_targets_of_at? {t : TargetPart} (h : c.at? p = some t) : t ∈ c.targets := by
  obtain ⟨part, hpart, ht⟩ := Option.bind_eq_some_iff.mp h
  exact List.mem_flatMap.mpr ⟨part, List.mem_of_getElem? hpart, List.mem_of_getElem? ht⟩

lemma map_snd_placed (c : Outline) : c.placed.map Prod.snd = c.targets := by
  have hpart : ∀ part : CellPart × Nat, (part.1.targets.zipIdx.map fun t =>
      ((part.2, t.2), t.1)).map Prod.snd = part.1.targets := by
    intro part
    rw [List.map_map]
    exact List.zipIdx_map_fst 0 part.1.targets
  rw [placed, targets, List.map_flatMap]
  simp only [hpart]
  rw [← List.zipIdx_map_fst 0 c.parts, List.flatMap_map]
  simp

/-- The places of the targets with a property. -/
def chosen (c : Outline) (keep : Target → Bool) : Finset (Nat × Nat) :=
  c.places.filter fun p => (c.at? p).any fun t => keep t.target

lemma mem_chosen {keep : Target → Bool} :
    p ∈ c.chosen keep ↔ ∃ t, c.at? p = some t ∧ keep t.target := by
  simp only [chosen, Finset.mem_filter, mem_places, Option.any_eq_true]
  grind

lemma chosen_subset_places (keep : Target → Bool) : c.chosen keep ⊆ c.places :=
  Finset.filter_subset _ _

/-- Retaining the targets with a property selects their places. -/
lemma select_chosen (c : Outline) (keep : Target → Bool) :
    c.select (c.chosen keep) = c.retain keep := by
  have hpart : ∀ part ∈ c.parts.zipIdx,
      part.1.select (fun j => (part.2, j) ∈ c.chosen keep) = part.1.retain keep := by
    rintro ⟨part, i⟩ hpart
    have hi : c.parts[i]? = some part := List.mk_mem_zipIdx_iff_getElem?.mp hpart
    apply CellPart.select_eq_retain
    intro t j hj
    have hat : c.at? (i, j) = some t := by simp [at?, hi, hj]
    simp [mem_chosen, hat]
  have hparts : c.parts.zipIdx.filterMap (fun part => part.1.select fun j =>
      (part.2, j) ∈ c.chosen keep) = c.parts.filterMap (CellPart.retain keep) := by
    rw [List.filterMap_congr hpart]
    conv_rhs => rw [← List.zipIdx_map_fst 0 c.parts, List.filterMap_map]
    rfl
  simp only [select, retain, hparts]

/-! ### Reading with a selection -/

/-- What the outline reads with only some of its targets. -/
lemma mem_names_select (hK : K ⊆ c.places) : name ∈ (c.select K).names ↔ c.ReadsWith K name := by
  have hparts : (∃ (part : CellPart) (i : Nat), c.parts[i]? = some part ∧
      ∃ part', part.select (fun j => (i, j) ∈ K) = some part' ∧ name ∈ part'.names) ↔
      (∃ s hs names, .fixed s hs names ∈ c.parts ∧ name ∈ names) ∨
        ∃ p ∈ K, (∃ t, c.at? p = some t ∧ name ∈ t.names) ∨
          ∃ part rest, c.parts[p.1]? = some part ∧ part.rest? = some rest ∧ name ∈ rest := by
    simp only [CellPart.exists_mem_names_select, decide_eq_true_eq]
    constructor
    · rintro ⟨part, i, hi, ⟨s, hs, names, rfl, hname⟩ | ⟨t, j, ht, hj, hname⟩⟩
      · exact .inl ⟨s, hs, names, List.mem_of_getElem? hi, hname⟩
      · refine .inr ⟨(i, j), hj, ?_⟩
        rcases hname with hname | ⟨rest, hrest, hname⟩
        · exact .inl ⟨t, by simp [at?, hi, ht], hname⟩
        · exact .inr ⟨part, rest, hi, hrest, hname⟩
    · rintro (⟨s, hs, names, hpart, hname⟩ | ⟨⟨i, j⟩, hp, hname⟩)
      · obtain ⟨i, hi⟩ := List.mem_iff_getElem?.mp hpart
        exact ⟨_, i, hi, .inl ⟨s, hs, names, rfl, hname⟩⟩
      · obtain ⟨t, hat⟩ := mem_places.mp (hK hp)
        obtain ⟨part, hpart, ht⟩ := Option.bind_eq_some_iff.mp hat
        refine ⟨part, i, hpart, .inr ⟨t, j, ht, hp, ?_⟩⟩
        rcases hname with ⟨u, hu, hname⟩ | ⟨part', rest, hpart', hrest, hname⟩
        · obtain rfl := Option.some.inj (hat.symm.trans hu)
          exact .inl hname
        · obtain rfl := Option.some.inj (hpart.symm.trans hpart')
          exact .inr ⟨rest, hrest, hname⟩
  have hnames : name ∈ (c.select K).names ↔
      (∃ (part : CellPart) (i : Nat), c.parts[i]? = some part ∧
        ∃ part', part.select (fun j => (i, j) ∈ K) = some part' ∧ name ∈ part'.names) ∨
        name ∈ c.loose := by
    simp only [names, select, Finset.mem_union, mem_unionOf, List.mem_map, List.mem_filterMap,
      Prod.exists, List.mk_mem_zipIdx_iff_getElem?]
    grind
  rw [hnames, hparts, ReadsWith]
  grind

lemma ReadsWith.mono (hsub : K ⊆ K') (h : c.ReadsWith K name) : c.ReadsWith K' name := by
  apply h.imp_right
  rintro ⟨p, hp, hname⟩
  exact ⟨p, hsub hp, hname⟩

lemma Supported.mono (hsub : K ⊆ K') (h : c.Supported K p) : c.Supported K' p := by
  obtain ⟨t, hat, hreason⟩ := h
  refine ⟨t, hat, ?_⟩
  rcases hreason with hplace | hempty | ⟨name, hname, hread⟩
  · exact .inl hplace
  · exact .inr (.inl hempty)
  · exact .inr (.inr ⟨name, hname, hread.mono hsub⟩)

/-- A target is supported by a selection if the outline that the selection leaves keeps it. -/
lemma supported_iff (hK : K ⊆ c.places) :
    c.Supported K p ↔ ∃ t, c.at? p = some t ∧ (c.select K).keeps t.target := by
  apply exists_congr
  intro t
  apply and_congr_right
  intro _
  simp only [keeps_iff, mem_names_select hK, Target.names_eq_nil_iff, or_assoc]

/-! ### The largest selection -/

open Classical in
/-- All targets that are in some self-supporting selection. -/
noncomputable def largest (c : Outline) : Finset (Nat × Nat) :=
  c.places.filter fun p => ∃ K, c.SelfSupporting K ∧ p ∈ K

lemma SelfSupporting.subset_places (h : c.SelfSupporting K) : K ⊆ c.places := by
  intro p hp
  obtain ⟨t, hat, _⟩ := h p hp
  exact mem_places.mpr ⟨t, hat⟩

lemma mem_largest : p ∈ c.largest ↔ ∃ K, c.SelfSupporting K ∧ p ∈ K := by
  simp only [largest, Finset.mem_filter, and_iff_right_iff_imp]
  rintro ⟨K, hK, hp⟩
  exact hK.subset_places hp

lemma SelfSupporting.subset_largest (h : c.SelfSupporting K) : K ⊆ c.largest := by
  intro p hp
  exact mem_largest.mpr ⟨K, h, hp⟩

lemma largest_subset_places (c : Outline) : c.largest ⊆ c.places := by
  classical exact Finset.filter_subset _ _

lemma selfSupporting_largest (c : Outline) : c.SelfSupporting c.largest := by
  intro p hp
  obtain ⟨K, hK, hp⟩ := mem_largest.mp hp
  exact (hK p hp).mono hK.subset_largest

/-! ### Removing dead targets one after the other -/

namespace Drops

lemma subset (h : c.Drops K K') : K' ⊆ K := by
  obtain ⟨p, _, _, _, _, rfl⟩ := h
  exact Finset.erase_subset p K

lemma card_lt (h : c.Drops K K') : K'.card < K.card := by
  obtain ⟨p, hp, _, _, _, rfl⟩ := h
  exact Finset.card_erase_lt_of_mem hp

/-- No target of the largest selection is removed. -/
lemma largest_subset (h : c.Drops K K') (hplaces : K ⊆ c.places) (hK : c.largest ⊆ K) :
    c.largest ⊆ K' := by
  obtain ⟨p, hp, t, hat, hdead, rfl⟩ := h
  intro q hq
  refine Finset.mem_erase.mpr ⟨?_, hK hq⟩
  rintro rfl
  obtain ⟨u, hu, hlive⟩ := (supported_iff hplaces).mp ((c.selfSupporting_largest q hq).mono hK)
  obtain rfl := Option.some.inj (hat.symm.trans hu)
  simp [hdead] at hlive

end Drops

/-- Nothing can be removed from exactly the self-supporting selections. -/
lemma selfSupporting_iff_not_drops (hplaces : K ⊆ c.places) :
    c.SelfSupporting K ↔ ∀ K', ¬ c.Drops K K' := by
  constructor
  · rintro h K' ⟨p, hp, t, hat, hdead, _⟩
    obtain ⟨u, hu, hlive⟩ := (supported_iff hplaces).mp (h p hp)
    obtain rfl := Option.some.inj (hat.symm.trans hu)
    simp [hdead] at hlive
  · intro h p hp
    obtain ⟨t, hat⟩ := mem_places.mp (hplaces hp)
    refine (supported_iff hplaces).mpr ⟨t, hat, ?_⟩
    by_contra hdead
    exact h _ ⟨p, hp, t, hat, by simpa using hdead, rfl⟩

/-- What dead targets are removed from keeps the largest selection. -/
lemma largest_subset_of_drops (h : Relation.ReflTransGen c.Drops c.places K) :
    K ⊆ c.places ∧ c.largest ⊆ K := by
  induction h with
  | refl => exact ⟨Finset.Subset.refl _, c.largest_subset_places⟩
  | tail _ hdrop ih =>
    exact ⟨hdrop.subset.trans ih.1, hdrop.largest_subset ih.1 ih.2⟩

/-- From each selection around the largest one, removing dead targets can go on to it. -/
lemma drops_to_largest (hplaces : K ⊆ c.places) (hK : c.largest ⊆ K) :
    Relation.ReflTransGen c.Drops K c.largest := by
  induction hcard : K.card using Nat.strong_induction_on generalizing K with
  | _ n ih =>
    by_cases hself : c.SelfSupporting K
    · rw [hself.subset_largest.antisymm hK]
    · rw [selfSupporting_iff_not_drops hplaces] at hself
      push Not at hself
      obtain ⟨K', hdrop⟩ := hself
      exact .head hdrop (ih K'.card (hcard ▸ hdrop.card_lt) (hdrop.subset.trans hplaces)
        (hdrop.largest_subset hplaces hK) rfl)

/-- In whatever order dead targets are removed, one can go on to the largest selection, and where
nothing more can be removed this is it. -/
theorem drops_confluent (h : Relation.ReflTransGen c.Drops c.places K) :
    Relation.ReflTransGen c.Drops K c.largest ∧ ((∀ K', ¬ c.Drops K K') → K = c.largest) := by
  obtain ⟨hplaces, hK⟩ := largest_subset_of_drops h
  refine ⟨drops_to_largest hplaces hK, ?_⟩
  intro hend
  exact ((selfSupporting_iff_not_drops hplaces).mpr hend).subset_largest.antisymm hK

end Outline

end NotebookExport
