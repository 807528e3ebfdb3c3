import NotebookExport.Proofs.Accounting

/-!
# Length of cascades

Pruning goes on as long as a pass removes something, and each pass reads anew what the one before it
has rendered, which may be longer than the text was before. What decreases is the number of equals
signs: with every target that is removed at least one of them goes. So no cascade has more passes
than its text has equals signs, pruning comes to its end within one pass more than that, and it
removes no more targets than that in all, whatever the parser makes of the texts on the way.
-/

namespace NotebookExport

open Python

variable {parser : Parser} {source text : String}

/-- A pass takes away an equals sign with every target that it removes. -/
lemma Pass.equalsSigns_of_run (hslices : ReadsSlices parser) {pass : Pass}
    (hrun : run parser source = .ok pass) :
    equalsSigns pass.code + pass.removed.length ≤ equalsSigns source := by
  obtain ⟨tree, htree, rfl⟩ := run_eq_ok_iff.mp hrun
  exact equalsSigns_code (hslices source tree htree)

/-- A cascade has no more passes than its text has equals signs, and removes no more targets. -/
lemma Cascade.length_le_equalsSigns (hslices : ReadsSlices parser) {passes : List (List String)}
    (h : Cascade parser source passes text) :
    passes.length ≤ equalsSigns source ∧ passes.flatten.length ≤ equalsSigns source := by
  have hsigns := h.equalsSigns_add_length hslices
  have hlength := h.length_le
  omega

/-- Every pass takes away an equals sign with each target that it removes. So there is an end to
pruning: it makes at most as many passes behind the first as the text has equals signs, and removes
at most as many targets in all. -/
theorem prune_within_equalsSigns (hslices : ReadsSlices parser) :
    (∀ text pass, Pass.run parser text = .ok pass →
      equalsSigns pass.code + pass.removed.length ≤ equalsSigns text) ∧
    ∀ source,
      (∀ passes text, Cascade parser source passes text →
        passes.length ≤ equalsSigns source ∧ passes.flatten.length ≤ equalsSigns source) ∧
      ((∃ fault, parser source = .error fault ∧ prune parser source = .error fault) ∨
        ∃ o, Prunes parser source o ∧ prune parser source = .ok o ∧
          pruneWithin parser (equalsSigns source) source = .ok (some o) ∧
          o.removed.length ≤ equalsSigns source) := by
  refine ⟨fun text pass hrun => Pass.equalsSigns_of_run hslices hrun, ?_⟩
  intro source
  refine ⟨fun passes text hcascade => hcascade.length_le_equalsSigns hslices, ?_⟩
  cases htree : parser source with
  | error fault => exact .inl ⟨fault, rfl, prune_eq_error_iff.mpr htree⟩
  | ok tree =>
    obtain ⟨o, hprune, ho⟩ := exists_prunes hslices htree
    obtain ⟨hpasses, hremoved⟩ := ho.cascade.1.length_le_equalsSigns hslices
    exact .inr ⟨o, ho, hprune, ho.pruneWithin_eq hpasses, hremoved⟩

/-! ### A cell that grows -/

/-- An assignment such as `a=b` on the first line of a text. -/
def Python.Node.terseStatement (column : Nat) (value : Token) : Node :=
  let part (kind : Kind) (field : Option Field) (first last : Nat) (children : List Node) : Node :=
    onLine 0 0 kind field (column + first) (column + last) children
  part (.phrase .expressionStatement) none 0 3 [part (.phrase .assignment) none 0 3 [
    part (.token .identifier) (some .left) 0 1 [],
    part (.token .equals) none 1 2 [],
    part (.token value) (some .right) 2 3 []]]

/-- The line `x=0;a=a;b=b`, without a line feed. -/
def terseCell : Node :=
  .onLine 0 0 (.phrase .program) none 0 11 [.terseStatement 0 .integer,
    .onLine 0 0 (.token .semicolon) none 3 4 [],
    .terseStatement 4 .identifier, .onLine 0 0 (.token .semicolon) none 7 8 [],
    .terseStatement 8 .identifier]

/-- Reads a cell of three statements on one line, and what is left of it, as `Python.parse` does. -/
def terseParser : Parser
  | "x=0;a=a;b=b" => .ok terseCell
  | "a = a\nb = b\n" => .ok (copyLines 2)
  | _ => .error ⟨1, 1, .unexpected ""⟩

lemma readsSlices_terseParser : ReadsSlices terseParser := by
  intro text tree h
  unfold terseParser at h
  split at h
  case h_1 =>
    obtain rfl := Except.ok.inj h
    exact ⟨by decide, by decide, by decide, by decide⟩
  case h_2 =>
    obtain rfl := Except.ok.inj h
    exact ⟨by decide, by decide, by decide, by decide⟩
  case h_3 => cases h

/-- The text gets longer while it loses a target and an equals sign. -/
theorem prune_within_equalsSigns_of_longer :
    ReadsSlices terseParser ∧
      (∃ pass, Pass.run terseParser "x=0;a=a;b=b" = .ok pass ∧ pass.removed = ["x"] ∧
        pass.code = "a = a\nb = b\n" ∧ "x=0;a=a;b=b".length < pass.code.length ∧
        equalsSigns pass.code + pass.removed.length ≤ equalsSigns "x=0;a=a;b=b") ∧
      ∃ o, pruneWithin terseParser 3 "x=0;a=a;b=b" = .ok (some o) ∧ o.removed.length ≤ 3 := by
  obtain ⟨hpass, hprune⟩ := prune_within_equalsSigns readsSlices_terseParser
  refine ⟨readsSlices_terseParser, ?_, ?_⟩
  · have hrun : Pass.run terseParser "x=0;a=a;b=b" = .ok ⟨"a = a\nb = b\n", ["x"], ["x"]⟩ := rfl
    exact ⟨_, hrun, rfl, rfl, by decide, hpass _ _ hrun⟩
  · obtain ⟨-, ⟨fault, hfault, -⟩ | ⟨o, -, -, hwithin, hremoved⟩⟩ := hprune "x=0;a=a;b=b"
    · cases hfault
    · exact ⟨o, hwithin, hremoved⟩

end NotebookExport
