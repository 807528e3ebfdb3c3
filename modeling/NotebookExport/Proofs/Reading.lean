import NotebookExport.Proofs.Outline

/-!
# Names that a cell reads

Reading is a way to look at the nodes of a tree: an assignment reads what its targets and the rest
of it read, and a whole text what its statements read.
-/

namespace NotebookExport

open Python

variable {source : String}

/-- The names that a node reads. -/
def readBy (source : String) : Look := fun aspect n => (namesUnder source aspect n).toFinset

lemma namesUnder_of_phrase {n : Node} {p : Phrase} (h : n.kind = .phrase p) :
    namesUnder source .value n = namesOfChildren source (.ofPhrase p) [] n.children := by
  obtain ⟨info, children⟩ := n
  have hinfo : info.kind = .phrase p := h
  simp [namesUnder, readingRule?, hinfo, Node.children]

lemma toFinset_namesOfChildren_values (seen : List Field) (ns : List Node) :
    (namesOfChildren source .values seen ns).toFinset =
      unionOf (ns.map (readBy source .value)) := by
  induction ns generalizing seen with
  | nil => rfl
  | cons n ns ih =>
    simp only [namesOfChildren, ReadingRule.childAspect, List.toFinset_append, ih]
    rfl

lemma toFinset_namesOfChildren_storing (seen : List Field) (ns : List Node) :
    (namesOfChildren source (.storing .left) seen ns).toFinset =
      namesOfSides (readBy source) seen ns := by
  induction ns generalizing seen with
  | nil => rfl
  | cons n ns ih =>
    rw [namesOfChildren, List.toFinset_append, ih, namesOfSides]
    by_cases hleft : n.hasRole .left ∧ .left ∉ seen
    · simp [ReadingRule.childAspect, isFirstLeft, hleft, readBy]
    · have hleft' : isFirstLeft seen n = false := by simpa [isFirstLeft] using hleft
      simp [ReadingRule.childAspect, hleft', hleft, readBy]

lemma isByParts_readBy (source : String) : (readBy source).IsByParts where
  assignment {n} hn := by
    simp only [isUntypedAssignment, Bool.and_eq_true, decide_eq_true_eq] at hn
    rw [readBy, namesUnder_of_phrase hn.1]
    exact toFinset_namesOfChildren_storing [] n.children
  statement {n} hn := by
    rw [readBy, namesUnder_of_phrase hn]
    exact toFinset_namesOfChildren_values [] n.children

/-- The outline of a text with the names that its parts read. -/
def Outline.reading (source : String) (tree : Node) : Outline := ofTree (readBy source) source tree

lemma Outline.statements_reading (source : String) (tree : Node) :
    (reading source tree).statements = Statement.ofTree source tree :=
  statements_ofTree (readBy source) source tree

/-- An outline reads the names that its tree reads. -/
theorem Outline.mem_names_reading {tree : Node} (hroot : tree.kind = .phrase .program)
    {name : String} :
    name ∈ (reading source tree).names ↔ name ∈ tree.readNames source := by
  have hread : (tree.readNames source).toFinset =
      unionOf (tree.children.map (readBy source .value)) := by
    rw [Node.readNames, namesUnder_of_phrase hroot]
    exact toFinset_namesOfChildren_values [] tree.children
  rw [reading, mem_names_ofTree (isByParts_readBy source), ← List.mem_toFinset, hread]
  simp

end NotebookExport
