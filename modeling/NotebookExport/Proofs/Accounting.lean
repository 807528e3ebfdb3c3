import NotebookExport.Assembly
import NotebookExport.Proofs.EqualsSigns

/-!
# What the report accounts for

The report on a notebook is made of what was removed, while the script is made of what was rendered.
They agree: pruning changes the text of a cell exactly if it removes something from it, and the
whole script exactly if it removes anything at all. For the script this is not a matter of its cells
alone, as two rows of different cells may well make the same text; but the script has fewer equals
signs than without pruning, one for each target that is gone.
-/

namespace NotebookExport

open Python

variable {parser : Parser} {mark source : String} {cell : Cell} {cells : List Cell}

/-! ### Cells -/

/-- Pruning refuses what the parser refuses, and nothing else. -/
lemma prune_eq_error_iff {fault : SyntaxFault} :
    prune parser source = .error fault ↔ parser source = .error fault := by
  rw [← Pass.run_eq_error_iff, prune, pruneWithin]
  cases Pass.run parser source <;> simp [Except.map]

namespace Assembler

/-- Puts scripts together from pruned code. -/
def pruning (parser : Parser) (mark : String) : Assembler := ⟨parser, true, mark⟩

/-- Puts scripts together from code as it is. -/
def keeping (parser : Parser) (mark : String) : Assembler := ⟨parser, false, mark⟩

lemma outcome_of_error {fault : SyntaxFault} (hcode : cell.kind = .code)
    (h : parser cell.source = .error fault) :
    (pruning parser mark).outcome cell = .unreadable cell.source fault := by
  simp [outcome, pruning, hcode, prune_eq_error_iff.mpr h]

lemma outcome_of_ok (hslices : ReadsSlices parser) {tree : Node} (hcode : cell.kind = .code)
    (h : parser cell.source = .ok tree) :
    ∃ o, Prunes parser cell.source o ∧ (pruning parser mark).outcome cell = .pruned o := by
  obtain ⟨o, hprune, ho⟩ := exists_prunes hslices h
  exact ⟨o, ho, by simp [outcome, pruning, hcode, hprune]⟩

lemma outcome_kept (hcode : cell.kind = .code) :
    (keeping parser mark).outcome cell = .kept cell.source := by
  simp [outcome, keeping, hcode]

/-- Pruning leaves cells alone that are not code. -/
lemma outcome_of_not_code (parser : Parser) (mark : String) (hcode : cell.kind ≠ .code) :
    (pruning parser mark).outcome cell = (keeping parser mark).outcome cell ∧
      ((pruning parser mark).outcome cell).removed = [] := by
  cases hkind : cell.kind with
  | code => exact absurd hkind hcode
  | markdown => simp [outcome, hkind, pruning, keeping, CellOutcome.removed]
  | other type => simp [outcome, hkind, CellOutcome.removed]

lemma fault?_outcome {fault : SyntaxFault} :
    ((pruning parser mark).outcome cell).fault? = some fault ↔
      cell.kind = .code ∧ parser cell.source = .error fault := by
  rw [← prune_eq_error_iff]
  cases hkind : cell.kind with
  | code =>
    cases hprune : prune parser cell.source <;>
      simp [outcome, pruning, hkind, hprune, CellOutcome.fault?]
  | markdown => simp [outcome, hkind, CellOutcome.fault?]
  | other type => simp [outcome, hkind, CellOutcome.fault?]

/-- A cell loses an equals sign with every target. -/
lemma equalsSigns_outcome (hslices : ReadsSlices parser) (mark : String) (cell : Cell) :
    equalsSigns ((pruning parser mark).outcome cell).text +
        ((pruning parser mark).outcome cell).removed.length ≤
      equalsSigns ((keeping parser mark).outcome cell).text := by
  by_cases hcode : cell.kind = .code
  · rw [outcome_kept hcode]
    cases hparse : parser cell.source with
    | error fault => simp [outcome_of_error hcode hparse, CellOutcome.text, CellOutcome.removed]
    | ok tree =>
      obtain ⟨o, ho, houtcome⟩ := outcome_of_ok hslices hcode hparse
      have hsigns : equalsSigns o.code + o.removed.length ≤ equalsSigns cell.source :=
        ho.cascade.1.equalsSigns_add_length hslices
      rw [houtcome]
      simp only [CellOutcome.text, CellOutcome.removed, equalsSigns_append]
      omega
  · obtain ⟨heq, hremoved⟩ := outcome_of_not_code parser mark hcode
    exact Nat.le_of_eq (by rw [hremoved, heq, List.length_nil, Nat.add_zero])

/-- What pruning puts into the script for a code cell differs from the cell exactly if something was
removed. -/
lemma exists_code_outcome (hslices : ReadsSlices parser) (mark : String)
    (hcode : cell.kind = .code) :
    ∃ code, ((pruning parser mark).outcome cell).text = code ++ cellSeparator ∧
      ((keeping parser mark).outcome cell).text = cell.source ++ cellSeparator ∧
      ((∃ fault, parser cell.source = .error fault ∧ code = cell.source) ∨
        ∃ o, Prunes parser cell.source o ∧ o.code = code ∧
          o.removed = ((pruning parser mark).outcome cell).removed) ∧
      (code ≠ cell.source ↔ ((pruning parser mark).outcome cell).removed ≠ []) := by
  have hkept : ((keeping parser mark).outcome cell).text = cell.source ++ cellSeparator := by
    rw [outcome_kept hcode]
    rfl
  cases hparse : parser cell.source with
  | error fault =>
    rw [outcome_of_error hcode hparse]
    exact ⟨cell.source, rfl, hkept, .inl ⟨fault, rfl, rfl⟩, by simp [CellOutcome.removed]⟩
  | ok tree =>
    obtain ⟨o, ho, houtcome⟩ := outcome_of_ok hslices hcode hparse
    rw [houtcome]
    exact ⟨o.code, rfl, hkept, .inr ⟨o, ho, rfl, rfl⟩, ho.code_ne_iff hslices⟩

/-- Pruning changes the text of a cell exactly if it removes something from it. -/
lemma text_outcome_eq_iff (hslices : ReadsSlices parser) (mark : String) (cell : Cell) :
    ((pruning parser mark).outcome cell).text = ((keeping parser mark).outcome cell).text ↔
      ((pruning parser mark).outcome cell).removed = [] := by
  by_cases hcode : cell.kind = .code
  · obtain ⟨code, htext, hkept, -, hchanged⟩ := exists_code_outcome hslices mark hcode
    rw [htext, hkept, String.append_left_inj]
    exact not_iff_not.mp hchanged
  · obtain ⟨heq, hremoved⟩ := outcome_of_not_code parser mark hcode
    simp only [heq ▸ hremoved, heq]

end Assembler

/-! ### Counts -/

namespace Assembly

/-- A cell is at most one of pruned and skipped, and only code is. -/
lemma countP_removed_add_countP_fault_le (outcomes : List CellOutcome) :
    outcomes.countP (fun outcome => !outcome.removed.isEmpty) +
        outcomes.countP (fun outcome => outcome.fault?.isSome) ≤
      outcomes.countP CellOutcome.isCode := by
  induction outcomes with
  | nil => simp
  | cons outcome outcomes ih =>
    have hown : (if !outcome.removed.isEmpty then 1 else 0) +
        (if outcome.fault?.isSome then 1 else 0) ≤ if outcome.isCode then 1 else 0 := by
      cases outcome with
      | pruned result =>
        simp only [CellOutcome.fault?, CellOutcome.isCode]
        split <;> simp
      | _ => simp [CellOutcome.removed, CellOutcome.fault?, CellOutcome.isCode]
    simp only [List.countP_cons]
    omega

/-- Every cell counts as one of code, markdown and others. -/
lemma countP_kinds (outcomes : List CellOutcome) :
    outcomes.countP CellOutcome.isCode + outcomes.countP CellOutcome.isComment +
        outcomes.countP CellOutcome.isIgnored = outcomes.length := by
  induction outcomes with
  | nil => rfl
  | cons outcome outcomes ih =>
    simp only [List.countP_cons, List.length_cons]
    cases outcome <;>
      simp [CellOutcome.isCode, CellOutcome.isComment, CellOutcome.isIgnored] <;> omega

lemma length_skippedFrom (index : Nat) (outcomes : List CellOutcome) :
    (skippedFrom index outcomes).length =
      outcomes.countP fun outcome => outcome.fault?.isSome := by
  induction outcomes generalizing index with
  | nil => rfl
  | cons outcome outcomes ih =>
    rw [skippedFrom, List.length_append, ih, List.countP_cons]
    cases outcome.fault? <;> simp [Nat.add_comm]

lemma mem_skippedFrom {index i : Nat} {fault : SyntaxFault} {outcomes : List CellOutcome} :
    ⟨i, fault⟩ ∈ skippedFrom index outcomes ↔
      ∃ k, i = index + k ∧ ∃ outcome, outcomes[k]? = some outcome ∧
        outcome.fault? = some fault := by
  induction outcomes generalizing index with
  | nil => simp [skippedFrom]
  | cons outcome outcomes ih =>
    rw [skippedFrom, List.mem_append, ih]
    constructor
    · rintro (h | ⟨k, rfl, hk⟩)
      · obtain ⟨fault', hfault, heq⟩ := List.mem_map.mp h
        obtain ⟨rfl, rfl⟩ := SkippedCell.mk.inj heq
        exact ⟨0, rfl, outcome, rfl, Option.mem_toList.mp hfault⟩
      · exact ⟨k + 1, by omega, hk⟩
    · rintro ⟨k, rfl, hk⟩
      cases k with
      | zero =>
        obtain ⟨_, hget, hfault⟩ := hk
        obtain rfl := Option.some.inj hget
        exact .inl (List.mem_map.mpr ⟨fault, Option.mem_toList.mpr hfault, rfl⟩)
      | succ k => exact .inr ⟨k, by omega, hk⟩

/-- Skipped cells are listed in their order. -/
lemma pairwise_skippedFrom (index : Nat) (outcomes : List CellOutcome) :
    (skippedFrom index outcomes).Pairwise fun s t => s.index < t.index := by
  induction outcomes generalizing index with
  | nil => exact .nil
  | cons outcome outcomes ih =>
    have hrest := ih (index + 1)
    cases hfault : outcome.fault? with
    | none => simpa [skippedFrom, hfault] using hrest
    | some fault =>
      rw [skippedFrom, hfault, Option.toList_some, List.map_singleton, List.singleton_append]
      refine List.pairwise_cons.mpr ⟨?_, hrest⟩
      rintro ⟨i, _⟩ hi
      obtain ⟨k, rfl, _⟩ := mem_skippedFrom.mp hi
      change index < index + 1 + k
      omega

end Assembly

/-! ### Reports -/

namespace Assembler

lemma mem_skipped_iff {i : Nat} {fault : SyntaxFault} :
    ⟨i, fault⟩ ∈ ((pruning parser mark).assemble cells).report.skipped ↔
      ∃ cell, cells[i]? = some cell ∧ cell.kind = .code ∧ parser cell.source = .error fault := by
  simp [Assembly.report, assemble, Assembly.mem_skippedFrom, fault?_outcome]

lemma removed_eq_nil_iff :
    ((pruning parser mark).assemble cells).report.removed = [] ↔
      ∀ cell ∈ cells, ((pruning parser mark).outcome cell).removed = [] := by
  simp [Assembly.report, assemble, List.flatMap_eq_nil_iff]

/-- A script loses an equals sign with every target. -/
lemma equalsSigns_text (hslices : ReadsSlices parser) (mark : String) (cells : List Cell) :
    equalsSigns ((pruning parser mark).assemble cells).text +
        ((pruning parser mark).assemble cells).report.removed.length ≤
      equalsSigns ((keeping parser mark).assemble cells).text := by
  simp only [assemble, Assembly.text, Assembly.report]
  induction cells with
  | nil => simp
  | cons cell cells ih =>
    have hcell := equalsSigns_outcome hslices mark cell
    simp only [List.map_cons, equalsSigns_join_cons, List.flatMap_cons, List.length_append]
    omega

/-- Pruning changes a script exactly if it removes something from it. -/
lemma text_eq_iff (hslices : ReadsSlices parser) (mark : String) (cells : List Cell) :
    ((pruning parser mark).assemble cells).text = ((keeping parser mark).assemble cells).text ↔
      ((pruning parser mark).assemble cells).report.removed = [] := by
  constructor
  · intro htext
    have hsigns := equalsSigns_text hslices mark cells
    rw [htext] at hsigns
    exact List.length_eq_zero_iff.mp (by omega)
  · intro hremoved
    simp only [Assembly.text, assemble, List.map_map]
    refine congrArg String.join (List.map_congr_left fun cell hcell => ?_)
    exact (text_outcome_eq_iff hslices mark cell).mpr (removed_eq_nil_iff.mp hremoved cell hcell)

end Assembler

/-- The report agrees with what pruning does to the text. -/
theorem report_accounts_for_changes (hslices : ReadsSlices parser) (mark : String)
    (cells : List Cell) :
    let pruning := Assembler.pruning parser mark
    let keeping := Assembler.keeping parser mark
    let report := (pruning.assemble cells).report
    (∀ cell ∈ cells, cell.kind = .code → ∃ code,
      (pruning.outcome cell).text = code ++ cellSeparator ∧
      (keeping.outcome cell).text = cell.source ++ cellSeparator ∧
      ((∃ fault, parser cell.source = .error fault ∧ code = cell.source) ∨
        ∃ o, Prunes parser cell.source o ∧ o.code = code ∧
          o.removed = (pruning.outcome cell).removed) ∧
      (code ≠ cell.source ↔ (pruning.outcome cell).removed ≠ [])) ∧
    report.removed = cells.flatMap (fun cell => (pruning.outcome cell).removed) ∧
    report.prunedCells =
      cells.countP (fun cell => (pruning.outcome cell).text ≠ (keeping.outcome cell).text) ∧
    ((pruning.assemble cells).text = (keeping.assemble cells).text ↔ report.removed = []) ∧
    (report.removed = [] ↔ report.prunedCells = 0) ∧
    report.skipped.Pairwise (fun s t => s.index < t.index) ∧
    (∀ i fault, ⟨i, fault⟩ ∈ report.skipped ↔
      ∃ cell, cells[i]? = some cell ∧ cell.kind = .code ∧ parser cell.source = .error fault) ∧
    (∀ skipped ∈ report.skipped, ∀ cell, cells[skipped.index]? = some cell →
      (pruning.outcome cell).text = cell.source ++ cellSeparator) ∧
    report.prunedCells + report.skipped.length ≤ report.codeCells ∧
    report.codeCells + report.markdownCells + report.ignoredCells = cells.length := by
  intro pruning keeping report
  refine ⟨fun cell _ hcode => Assembler.exists_code_outcome hslices mark hcode, ?_, ?_,
    Assembler.text_eq_iff hslices mark cells, ?_, Assembly.pairwise_skippedFrom 0 _,
    fun i fault => Assembler.mem_skipped_iff, ?_, ?_, ?_⟩
  · simp [report, Assembly.report, Assembler.assemble, List.flatMap_map]
  · simp only [report, Assembly.report, Assembler.assemble, List.countP_map]
    refine List.countP_congr fun cell _ => ?_
    simp [pruning, keeping, Assembler.text_outcome_eq_iff hslices]
  · rw [Assembler.removed_eq_nil_iff]
    simp [report, pruning, Assembly.report, Assembler.assemble, List.countP_eq_zero]
  · rintro ⟨i, fault⟩ hi cell hcell
    obtain ⟨_, hget, hcode, hparse⟩ := Assembler.mem_skipped_iff.mp hi
    obtain rfl := Option.some.inj (hcell.symm.trans hget)
    rw [Assembler.outcome_of_error hcode hparse]
    rfl
  · have hle := Assembly.countP_removed_add_countP_fault_le (pruning.assemble cells).outcomes
    rw [← Assembly.length_skippedFrom 0] at hle
    exact hle
  · exact (Assembly.countP_kinds (pruning.assemble cells).outcomes).trans (List.length_map _)

/-- A notebook with a cell that is pruned, one that cannot be read, and one of text. -/
theorem report_accounts_for_cycle :
    let cells : List Cell :=
      [⟨.code, "x = x\ny = x\n"⟩, ⟨.markdown, "text"⟩, ⟨.code, "x ="⟩]
    let pruning := Assembler.pruning cyclicParser "# "
    let keeping := Assembler.keeping cyclicParser "# "
    let report := (pruning.assemble cells).report
    ReadsSlices cyclicParser ∧ report.removed = ["y"] ∧ report.prunedCells = 1 ∧
      (pruning.assemble cells).text ≠ (keeping.assemble cells).text ∧
      report.skipped.map SkippedCell.index = [2] ∧
      report.codeCells = 2 ∧ report.prunedCells + report.skipped.length ≤ 2 := by
  intro cells pruning keeping report
  obtain ⟨-, hremoved, hcount, htext, -, -, -, -, hle, -⟩ :=
    report_accounts_for_changes readsSlices_cyclicParser "# " cells
  have hnames : report.removed = ["y"] := hremoved.trans (by rfl)
  refine ⟨readsSlices_cyclicParser, hnames, hcount.trans (by decide +kernel), ?_, by rfl, by rfl,
    hle⟩
  intro hsame
  exact absurd (hnames.symm.trans (htext.mp hsame)) (by decide)

end NotebookExport
