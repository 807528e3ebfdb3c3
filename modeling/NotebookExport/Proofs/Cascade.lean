import NotebookExport.Proofs.Targets
import NotebookExport.Pruning

/-!
# Cascades

Pruning runs one pass after another. A cascade is a row of passes, each on the text that the one
before it left, each of which removes something; pruning follows a cascade until the next pass would
remove nothing or its text cannot be read. Nothing is asked of the parser here: it may be any
function from texts to trees or faults.
-/

namespace NotebookExport

open Python Text

variable {parser : Parser} {source text : String}

/-! ### One pass -/

namespace Pass

lemma run_eq_ok_iff {pass : Pass} :
    run parser source = .ok pass ↔
      ∃ tree, parser source = .ok tree ∧ ofTree source tree = pass := by
  unfold run
  cases parser source <;> simp [Except.map]

lemma run_eq_error_iff {fault : SyntaxFault} :
    run parser source = .error fault ↔ parser source = .error fault := by
  unfold run
  cases parser source <;> simp [Except.map]

lemma run_of_parse {tree : Node} (h : parser source = .ok tree) :
    run parser source = .ok (ofTree source tree) := by
  rw [run, h]
  rfl

/-- A text that is read as a tree has the pass of this tree and no other. -/
lemma eq_ofTree_of_run {tree : Node} {pass : Pass} (h : parser source = .ok tree)
    (hrun : run parser source = .ok pass) : pass = ofTree source tree :=
  Except.ok.inj (hrun.symm.trans (run_of_parse h))

/-- A pass that removes nothing finds no dead target. -/
lemma removed_ofTree_eq_nil_iff {tree : Node} :
    (ofTree source tree).removed = [] ↔
      ∀ s ∈ Statement.ofTree source tree,
        s.deadTargets (NameUsage.ofTree source tree).unread = [] := by
  simp [ofTree, List.flatMap_eq_nil_iff]

lemma code_ofTree_of_removed_eq_nil {tree : Node} (h : (ofTree source tree).removed = []) :
    (ofTree source tree).code = source := by
  have h' : (ofTree source tree).removed.isEmpty := by simp [h]
  unfold ofTree at h' ⊢
  exact if_pos h'

lemma code_ofTree_of_removed_ne_nil {tree : Node} (h : (ofTree source tree).removed ≠ []) :
    (ofTree source tree).code =
      renderStatements ((Statement.ofTree source tree).filterMap
        (Statement.retain (NameUsage.ofTree source tree).unread)) := by
  have h' : ¬ (ofTree source tree).removed.isEmpty := by simpa using h
  unfold ofTree at h' ⊢
  exact if_neg h'

end Pass

/-! ### Rows of passes -/

/-- Passes that each remove something lead from one text to another. The list holds what each of
them removes. -/
inductive Cascade (parser : Parser) : String → List (List String) → String → Prop where
  | refl (source : String) : Cascade parser source [] source
  | pass {source text : String} {pass : Pass} {passes : List (List String)}
      (hrun : Pass.run parser source = .ok pass) (hremoved : pass.removed ≠ [])
      (rest : Cascade parser pass.code passes text) :
      Cascade parser source (pass.removed :: passes) text

namespace Cascade

/-- A cascade ends with the text of its last pass. -/
lemma exists_last {passes : List (List String)} (h : Cascade parser source passes text)
    (hne : passes ≠ []) :
    ∃ before passes' pass, Cascade parser source passes' before ∧
      Pass.run parser before = .ok pass ∧ pass.removed ≠ [] ∧
      passes = passes' ++ [pass.removed] ∧ text = pass.code := by
  induction h with
  | refl source => exact absurd rfl hne
  | @pass source text first passes hrun hremoved rest ih =>
    rcases passes with _ | ⟨r, rs⟩
    · cases rest
      exact ⟨source, [], first, .refl source, hrun, hremoved, rfl, rfl⟩
    · obtain ⟨before, passes', last, hcascade, hlast, hne, heq, rfl⟩ := ih (List.cons_ne_nil r rs)
      exact ⟨before, first.removed :: passes', last, .pass hrun hremoved hcascade, hlast, hne,
        by rw [heq]; rfl, rfl⟩

lemma trans {before after : String} {passes passes' : List (List String)}
    (h : Cascade parser before passes text) (h' : Cascade parser text passes' after) :
    Cascade parser before (passes ++ passes') after := by
  induction h with
  | refl => exact h'
  | pass hrun hremoved _ ih => exact .pass hrun hremoved (ih h')

/-- A cascade goes on with the next pass that removes something. -/
lemma next {passes : List (List String)} {pass : Pass} (h : Cascade parser source passes text)
    (hrun : Pass.run parser text = .ok pass) (hremoved : pass.removed ≠ []) :
    Cascade parser source (passes ++ [pass.removed]) pass.code :=
  h.trans (.pass hrun hremoved (.refl _))

/-- Each pass removes something. -/
lemma length_le {passes : List (List String)} (h : Cascade parser source passes text) :
    passes.length ≤ passes.flatten.length := by
  induction h with
  | refl => simp
  | @pass source text first passes hrun hremoved rest ih =>
    have : 0 < first.removed.length := List.length_pos_iff.mpr hremoved
    simp only [List.length_cons, List.flatten_cons, List.length_append]
    omega

lemma flatten_ne_nil {passes : List (List String)} (h : Cascade parser source passes text)
    (hne : passes ≠ []) : passes.flatten ≠ [] := by
  cases h with
  | refl => exact absurd rfl hne
  | pass hrun hremoved rest => simp [hremoved]

end Cascade

/-! ### What pruning returns -/

/-- What pruning a text returns, in however many passes. For some parsers pruning has no end, and
then it returns nothing. -/
def Prunes (parser : Parser) (source : String) (o : Pruned) : Prop :=
  ∃ fuel, pruneWithin parser fuel source = .ok (some o)

namespace Pruned

/-- Further passes go on with a cascade, and stop for one of two reasons. -/
lemma cascade_of_follow {fuel : Nat} {p o : Pruned} (h : follow parser fuel p = some o) :
    ∃ passes, o.passes = p.passes ++ passes ∧ Cascade parser p.code passes o.code ∧
      ((∃ pass, Pass.run parser o.code = .ok pass ∧ pass.removed = []) ∨
        ∃ fault, parser o.code = .error fault) := by
  induction fuel generalizing p with
  | zero => cases h
  | succ fuel ih =>
    rw [follow] at h
    split at h
    case h_1 fault hrun =>
      obtain rfl := Option.some.inj h
      exact ⟨[], by simp, .refl _, .inr ⟨fault, Pass.run_eq_error_iff.mp hrun⟩⟩
    case h_2 pass hrun =>
      split_ifs at h with hremoved
      · obtain rfl := Option.some.inj h
        exact ⟨[], by simp, .refl _, .inl ⟨pass, hrun, by simpa using hremoved⟩⟩
      · obtain ⟨passes, hpasses, hcascade, hend⟩ := ih h
        exact ⟨pass.removed :: passes, by simp [hpasses],
          .pass hrun (by simpa using hremoved) hcascade, hend⟩

/-- A fault is reported only of a text that cannot be read. -/
lemma error_of_follow {fuel : Nat} {p o : Pruned} (h : follow parser fuel p = some o)
    (hp : p.fault = none) {fault : SyntaxFault} (hfault : o.fault = some fault) :
    parser o.code = .error fault := by
  induction fuel generalizing p with
  | zero => cases h
  | succ fuel ih =>
    rw [follow] at h
    split at h
    case h_1 fault' hrun =>
      obtain rfl := Option.some.inj h
      obtain rfl := Option.some.inj hfault
      exact Pass.run_eq_error_iff.mp hrun
    case h_2 pass hrun =>
      split_ifs at h
      · obtain rfl := Option.some.inj h
        simp [hp] at hfault
      · exact ih h hp

/-- The result does not depend on how many passes are allowed, if these are enough. -/
lemma follow_of_follow {fuel fuel' : Nat} {p o : Pruned} (h : follow parser fuel p = some o)
    (hfuel : o.passes.length < p.passes.length + fuel') : follow parser fuel' p = some o := by
  induction fuel generalizing p fuel' with
  | zero => cases h
  | succ fuel ih =>
    obtain ⟨passes, hpasses, _⟩ := cascade_of_follow h
    have hpos : fuel' ≠ 0 := by
      rintro rfl
      simp only [hpasses, List.length_append] at hfuel
      omega
    obtain ⟨fuel', rfl⟩ := Nat.exists_eq_succ_of_ne_zero hpos
    rw [follow] at h ⊢
    split at h
    case h_1 fault hrun => exact h
    case h_2 pass hrun =>
      split_ifs at h ⊢ with hremoved
      · exact h
      · refine ih h ?_
        simp only [List.length_append, List.length_singleton]
        omega

/-- Further passes follow a cascade to its end and go on from there. -/
lemma follow_of_cascade {passes : List (List String)} (h : Cascade parser source passes text)
    (fuel : Nat) {p : Pruned} (hp : p.code = source) :
    follow parser (passes.length + fuel) p =
      follow parser fuel { p with code := text, passes := p.passes ++ passes } := by
  induction h generalizing p with
  | refl source =>
    subst hp
    simp
  | @pass source text first passes hfirst hremoved rest ih =>
    subst hp
    have hlength : (first.removed :: passes).length + fuel = (passes.length + fuel) + 1 := by
      rw [List.length_cons]
      omega
    rw [hlength, follow]
    simp [hfirst, hremoved, ih (p := { p with
      code := first.code, passes := p.passes ++ [first.removed] }) rfl]

end Pruned

/-- A text from whose first pass nothing comes is returned as it is. -/
lemma pruneWithin_of_removed_eq_nil {pass : Pass} (hrun : Pass.run parser source = .ok pass)
    (hremoved : pass.removed = []) (fuel : Nat) :
    pruneWithin parser fuel source = .ok (some ⟨source, [], pass.unread, none⟩) := by
  obtain ⟨tree, _, rfl⟩ := Pass.run_eq_ok_iff.mp hrun
  simp [pruneWithin, hrun, Except.map, hremoved, Pruned.ofPass,
    Pass.code_ofTree_of_removed_eq_nil hremoved]

namespace Cascade

variable {tree : Node} {passes : List (List String)}

lemma pruneWithin_eq (h : Cascade parser source passes text) (hne : passes ≠ [])
    (htree : parser source = .ok tree) (fuel : Nat) :
    pruneWithin parser (passes.length + fuel) source =
      .ok (Pruned.follow parser (fuel + 1)
        ⟨text, passes, (NameUsage.ofTree source tree).unread, none⟩) := by
  cases h with
  | refl => exact absurd rfl hne
  | @pass _ _ first passes hfirst hremoved rest =>
    have hlength : (first.removed :: passes).length + fuel = passes.length + (fuel + 1) := by
      rw [List.length_cons]
      omega
    have hfollow := Pruned.follow_of_cascade rest (fuel + 1) (p := .ofPass first) rfl
    have hunread : first.unread = (NameUsage.ofTree source tree).unread := by
      rw [Pass.eq_ofTree_of_run htree hfirst]
      rfl
    simp only [Pruned.ofPass, List.isEmpty_iff, hremoved, if_false, List.singleton_append, hunread]
      at hfollow
    rw [hlength]
    simp [pruneWithin, hfirst, Except.map, hremoved, hfollow, Pruned.ofPass, hunread]

/-- Pruning returns the end of a cascade from which nothing more is removed. -/
lemma prunes (h : Cascade parser source passes text) {last : Pass}
    (htree : parser source = .ok tree) (hrun : Pass.run parser text = .ok last)
    (hend : last.removed = []) :
    Prunes parser source ⟨text, passes, (NameUsage.ofTree source tree).unread, none⟩ := by
  by_cases hne : passes = []
  · subst hne
    cases h
    have hunread : last.unread = (NameUsage.ofTree source tree).unread := by
      rw [Pass.eq_ofTree_of_run htree hrun]
      rfl
    exact ⟨0, hunread ▸ pruneWithin_of_removed_eq_nil hrun hend 0⟩
  · refine ⟨passes.length, ?_⟩
    rw [← Nat.add_zero passes.length, h.pruneWithin_eq hne htree 0]
    simp [Pruned.follow, hrun, hend]

/-- Pruning returns the end of a cascade at a text that cannot be read. -/
lemma prunes_of_error (h : Cascade parser source passes text) {fault : SyntaxFault}
    (htree : parser source = .ok tree) (hne : passes ≠ []) (hfault : parser text = .error fault) :
    Prunes parser source ⟨text, passes, (NameUsage.ofTree source tree).unread, some fault⟩ := by
  refine ⟨passes.length, ?_⟩
  rw [← Nat.add_zero passes.length, h.pruneWithin_eq hne htree 0]
  simp [Pruned.follow, Pass.run_eq_error_iff.mpr hfault]

end Cascade

namespace Prunes

variable {o : Pruned}

/-- Pruning returns the end of a cascade: there the next pass would remove nothing, or the text can
no longer be read. -/
theorem cascade (h : Prunes parser source o) :
    Cascade parser source o.passes o.code ∧
      ((∃ pass, Pass.run parser o.code = .ok pass ∧ pass.removed = []) ∨
        (o.passes ≠ [] ∧ ∃ fault, parser o.code = .error fault)) := by
  obtain ⟨fuel, h⟩ := h
  cases hrun : Pass.run parser source with
  | error fault => simp [pruneWithin, hrun, Except.map] at h
  | ok first =>
    by_cases hremoved : first.removed = []
    · rw [pruneWithin_of_removed_eq_nil hrun hremoved] at h
      obtain rfl := Option.some.inj (Except.ok.inj h)
      exact ⟨.refl source, .inl ⟨first, hrun, hremoved⟩⟩
    · have hfollow : Pruned.follow parser fuel (.ofPass first) = some o := by
        simpa [pruneWithin, hrun, Except.map, hremoved] using h
      obtain ⟨passes, hpasses, hcascade, hend⟩ := Pruned.cascade_of_follow hfollow
      have hcons : o.passes = first.removed :: passes := by
        simpa [Pruned.ofPass, hremoved] using hpasses
      rw [hcons]
      exact ⟨.pass hrun hremoved hcascade, hend.imp_right fun hfault => ⟨by simp, hfault⟩⟩

/-- A fault is reported only if the result cannot be read. -/
lemma error_of_fault (h : Prunes parser source o) {fault : SyntaxFault}
    (hfault : o.fault = some fault) : parser o.code = .error fault := by
  obtain ⟨fuel, h⟩ := h
  cases hrun : Pass.run parser source with
  | error fault' => simp [pruneWithin, hrun, Except.map] at h
  | ok first =>
    by_cases hremoved : first.removed = []
    · rw [pruneWithin_of_removed_eq_nil hrun hremoved] at h
      obtain rfl := Option.some.inj (Except.ok.inj h)
      cases hfault
    · have hfollow : Pruned.follow parser fuel (.ofPass first) = some o := by
        simpa [pruneWithin, hrun, Except.map, hremoved] using h
      exact Pruned.error_of_follow hfollow rfl hfault

/-- Pruning returns its result as soon as enough passes are allowed. -/
lemma pruneWithin_eq (h : Prunes parser source o) {fuel : Nat} (hfuel : o.passes.length ≤ fuel) :
    pruneWithin parser fuel source = .ok (some o) := by
  obtain ⟨fuel', h⟩ := h
  cases hrun : Pass.run parser source with
  | error fault => simp [pruneWithin, hrun, Except.map] at h
  | ok first =>
    by_cases hremoved : first.removed = []
    · rw [pruneWithin_of_removed_eq_nil hrun hremoved] at h ⊢
      exact h
    · simp only [pruneWithin, hrun, Except.map, List.isEmpty_iff, hremoved, if_false,
        Except.ok.injEq] at h ⊢
      refine Pruned.follow_of_follow h ?_
      simp only [Pruned.ofPass, List.isEmpty_iff, hremoved, if_false, List.length_singleton]
      omega

/-- The number of equals signs is enough as long as each pass takes one away. -/
lemma prune_eq (h : Prunes parser source o) (hpasses : o.passes.length ≤ passBound source) :
    prune parser source = .ok o := by
  simp [prune, h.pruneWithin_eq hpasses, Except.map]

/-- If no statement has a dead target, then every node of a target is live. -/
lemma isLive_of_deadTargets_eq_nil {tree n left : Node} {a : Assignment} {unread : List String}
    (hdead : ∀ s ∈ Statement.ofTree text tree, s.deadTargets unread = [])
    (hn : n ∈ tree.namedChildren) (ha : Statement.ofNode text n = .assignment a)
    (hleft : left ∈ Statement.targetNodes n) : (Target.ofNode text left).isLive unread := by
  obtain ⟨b, hb, htargets⟩ : ∃ b, .assignment b ∈ Statement.ofTree text tree ∧
      b.targets = a.targets := Statement.exists_mem_ofNodes (.inr ⟨n, hn, ha⟩)
  have hall : b.deadTargets unread = [] := hdead _ hb
  have hmem : Target.ofNode text left ∈ b.targets := by
    rw [htargets, Statement.targets_of_ofNode ha]
    exact List.mem_map_of_mem hleft
  simpa using List.filter_eq_nil_iff.mp hall _ hmem

/-- A live target that binds a name and does nothing else binds a name that is read. -/
lemma exists_read_of_isLive {tree n left : Node} {a : Assignment} {name : String}
    (hn : n ∈ tree.namedChildren) (ha : Statement.ofNode text n = .assignment a)
    (hleft : left ∈ Statement.targetNodes n)
    (hlive : (Target.ofNode text left).isLive (NameUsage.ofTree text tree).unread)
    (hname : name ∈ (boundBy text left).names) (honly : (boundBy text left).onlyNames) :
    ∃ other ∈ (boundBy text left).names, other ∈ tree.readNames text := by
  rw [Target.isLive_iff, Target.names_ofNode, if_pos honly] at hlive
  rcases hlive with hnone | ⟨other, hother, hread⟩
  · simp [hnone] at hname
  · refine ⟨other, hother, ?_⟩
    have hbound : other ∈ tree.boundNames text :=
      Node.mem_boundNames_of_mem_children (Node.mem_children_of_mem_namedChildren hn)
        (Statement.mem_boundNames_of_targetNodes ha hleft hother)
    by_contra hunread
    exact hread ((NameUsage.mem_unread _ _).mpr ⟨hbound, hunread⟩)

/-- Pruning stops at a fixpoint. If the result can be read, then no assignment at its top has a dead
target, and each name that is still unread is bound elsewhere or by targets that also do something
else or also bind a name that is read; and pruning the result again changes nothing. If it cannot be
read, then something was removed, and the result is the text of the last pass that removed
something. -/
theorem fixpoint (h : Prunes parser source o) :
    (∀ tree usage, parser o.code = .ok tree → analyze parser o.code = .ok usage →
      (∀ s ∈ Statement.ofTree o.code tree, s.deadTargets usage.unread = []) ∧
      (∀ name ∈ usage.unread, ∀ n ∈ tree.namedChildren, ∀ a,
        Statement.ofNode o.code n = .assignment a → ∀ left ∈ Statement.targetNodes n,
          name ∈ (boundBy o.code left).names →
            (boundBy o.code left).onlyNames = false ∨
              ∃ other ∈ (boundBy o.code left).names, other ∈ usage.read) ∧
      ∃ again, prune parser o.code = .ok again ∧ Prunes parser o.code again ∧
        again.code = o.code ∧ again.removed = []) ∧
    (∀ fault, parser o.code = .error fault →
      o.removed ≠ [] ∧ ∃ passes text pass, Cascade parser source passes text ∧
        Pass.run parser text = .ok pass ∧ pass.removed ≠ [] ∧
        o.passes = passes ++ [pass.removed] ∧ o.code = pass.code) := by
  obtain ⟨hcascade, hend⟩ := h.cascade
  constructor
  · intro tree usage htree husage
    have husage' : usage = NameUsage.ofTree o.code tree := by
      simpa [analyze, htree, Except.map, eq_comm] using husage
    -- the cascade ended as nothing more was to be removed
    have hrun := Pass.run_of_parse htree
    have hremoved : (Pass.ofTree o.code tree).removed = [] := by
      rcases hend with ⟨pass, hpass, hnil⟩ | ⟨_, fault, hfault⟩
      · rwa [Except.ok.inj (hrun.symm.trans hpass)]
      · simp [htree] at hfault
    have hdead := Pass.removed_ofTree_eq_nil_iff.mp hremoved
    subst husage'
    refine ⟨hdead, ?_, ?_⟩
    · intro name hname n hn a ha left hleft hbinds
      by_cases honly : (boundBy o.code left).onlyNames
      · right
        exact exists_read_of_isLive hn ha hleft (isLive_of_deadTargets_eq_nil hdead hn ha hleft)
          hbinds honly
      · exact .inl (by simpa using honly)
    · have hagain := pruneWithin_of_removed_eq_nil hrun hremoved
      refine ⟨_, ?_, ⟨0, hagain 0⟩, rfl, rfl⟩
      simp [prune, hagain, Except.map]
  · intro fault hfault
    rcases hend with ⟨pass, hpass, _⟩ | ⟨hne, _⟩
    · obtain ⟨tree, htree, _⟩ := Pass.run_eq_ok_iff.mp hpass
      simp [hfault] at htree
    · obtain ⟨text, passes, pass, hbefore, hrun, hremoved, hpasses, hcode⟩ :=
        hcascade.exists_last hne
      exact ⟨hcascade.flatten_ne_nil hne, passes, text, pass, hbefore, hrun, hremoved, hpasses,
        hcode⟩

end Prunes

/-! ### A cell with a cycle -/

/-- A node on one line of a text of single-byte characters, from one column to another. -/
def Python.Node.onLine (offset row : Nat) (kind : Kind) (field : Option Field) (first last : Nat)
    (children : List Node) : Node :=
  .node ⟨kind, field, false, false, ⟨offset + first, offset + first, row, first⟩,
    ⟨offset + last, offset + last, row, last⟩⟩ children

/-- A line such as `y = x`. -/
def Python.Node.copyLine (row : Nat) : Node :=
  let part := onLine (6 * row) row
  part (.phrase .expressionStatement) none 0 5 [part (.phrase .assignment) none 0 5 [
    part (.token .identifier) (some .left) 0 1 [],
    part (.token .equals) none 2 3 [],
    part (.token .identifier) (some .right) 4 5 []]]

/-- A line with a name alone. -/
def Python.Node.nameLine (offset row : Nat) : Node :=
  let part := onLine offset row
  part (.phrase .expressionStatement) none 0 1 [part (.token .identifier) none 0 1 []]

/-- A text of some lines. -/
def Python.Node.programOf (length rows : Nat) (children : List Node) : Node :=
  .node ⟨.phrase .program, none, false, false, .origin, ⟨length, length, rows, 0⟩⟩ children

/-- A cell of such lines. -/
def copyLines (count : Nat) : Node :=
  .programOf (6 * count) count ((List.range count).map Node.copyLine)

/-- Reads a cell in which a name is bound to itself, and what is left of it, as `Python.parse` does.
-/
def cyclicParser : Parser
  | "x = x\ny = x\n" => .ok (copyLines 2)
  | "x = x\n" => .ok (copyLines 1)
  | _ => .error ⟨1, 1, .unexpected ""⟩

lemma cyclicParser_eq_ok {tree : Node} (h : cyclicParser text = .ok tree) :
    (text = "x = x\ny = x\n" ∧ tree = copyLines 2) ∨ (text = "x = x\n" ∧ tree = copyLines 1) := by
  unfold cyclicParser at h
  split at h
  case h_1 => exact .inl ⟨rfl, (Except.ok.inj h).symm⟩
  case h_2 => exact .inr ⟨rfl, (Except.ok.inj h).symm⟩
  case h_3 => cases h

/-- The cell has one pass that removes something. -/
lemma eq_of_cyclicParser_eq_ok {tree : Node} (h : cyclicParser text = .ok tree)
    (hremoved : (Pass.ofTree text tree).removed ≠ []) :
    text = "x = x\ny = x\n" ∧ tree = copyLines 2 ∧ (Pass.ofTree text tree).code = "x = x\n" := by
  obtain ⟨rfl, rfl⟩ | ⟨rfl, rfl⟩ := cyclicParser_eq_ok h
  · exact ⟨rfl, rfl, by rfl⟩
  · have hnone : (Pass.ofTree "x = x\n" (copyLines 1)).removed = [] := by rfl
    exact absurd hnone hremoved

/-- One pass leaves the cycle, and pruning that again changes nothing. -/
theorem Prunes.fixpoint_of_cycle :
    Prunes cyclicParser "x = x\ny = x\n" ⟨"x = x\n", [["y"]], ["y"], none⟩ ∧
      ∃ again, prune cyclicParser "x = x\n" = .ok again ∧
        again.code = "x = x\n" ∧ again.removed = [] := by
  have h : Prunes cyclicParser "x = x\ny = x\n" ⟨"x = x\n", [["y"]], ["y"], none⟩ := ⟨1, rfl⟩
  obtain ⟨_, _, again, hprune, _, hcode, hremoved⟩ := (Prunes.fixpoint h).1 (copyLines 1) _ rfl rfl
  exact ⟨h, again, hprune, hcode, hremoved⟩

end NotebookExport
