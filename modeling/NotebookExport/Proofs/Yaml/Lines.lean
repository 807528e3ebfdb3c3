import Mathlib.Logic.Relation
import NotebookExport.Proofs.Yaml.Gaps
import NotebookExport.Yaml.Tokens

/-!
# From line to line

Cutting a text into tokens goes on from one token to the next. In front of a token that begins a
line, all that has been read shows in the kinds of the tokens and in the blocks around them: where
the line begins further to the left than a block, that block ends.
-/

namespace NotebookExport.Yaml

namespace Scan

variable {s s' s'' : Scan} {m : Mark} {fuel column : Nat} {rest : List Char} {tokens : List Token}
  {kinds : List TokenKind} {indents : List Nat} {slot : Option KeyCandidate} {allowsKey : Bool}

/-! ### Steps -/

/-- A step that goes on in the text. -/
def Advances (s s' : Scan) : Prop :=
  s.isDone = false ∧ s.step = .ok s' ∧ s'.cursor.rest.length < s.cursor.rest.length

/-- One scan comes to be another in some steps. -/
def Reaches : Scan → Scan → Prop := Relation.ReflTransGen Advances

lemma Reaches.length_le (h : s.Reaches s') : s'.cursor.rest.length ≤ s.cursor.rest.length := by
  induction h with
  | refl => exact Nat.le_refl _
  | tail _ hstep ih => exact (Nat.le_of_lt hstep.2.2).trans ih

/-- With enough fuel, cutting a text up comes along all that it reaches. -/
theorem Reaches.ofScan (h : s.Reaches s') (hfuel : s.cursor.rest.length + 2 ≤ fuel) :
    ∃ fuel', s'.cursor.rest.length + 2 ≤ fuel' ∧
      Tokens.ofScan fuel s = Tokens.ofScan fuel' s' := by
  induction h with
  | refl => exact ⟨fuel, hfuel, rfl⟩
  | tail _ hstep ih =>
    obtain ⟨fuel', hle, heq⟩ := ih
    obtain ⟨hdone, hok, hlt⟩ := hstep
    obtain ⟨fuel', rfl⟩ : ∃ n, fuel' = n + 1 := ⟨fuel' - 1, by omega⟩
    refine ⟨fuel', by omega, ?_⟩
    rw [heq, Tokens.ofScan, hdone, hok]
    rfl

/-- What a step does before it adds a token. -/
def prepare (s : Scan) : Except SyntaxBreak Scan :=
  let s := s.toNextToken (s.cursor.rest.length + 1)
  (dropStale s.cursor s.candidates).map fun candidates =>
    ({ s with candidates := candidates } : Scan).endBlocks s.cursor.mark.column

lemma step_eq : s.step = s.prepare.bind addToken := by
  simp only [step, prepare]
  cases dropStale (s.toNextToken (s.cursor.rest.length + 1)).cursor
    (s.toNextToken (s.cursor.rest.length + 1)).candidates <;> rfl

lemma advances_of_prepare {t : Scan} (hdone : s.isDone = false) (hprepare : s.prepare = .ok t)
    (hadd : t.addToken = .ok s') (hlength : s'.cursor.rest.length < s.cursor.rest.length) :
    s.Advances s' := by
  refine ⟨hdone, ?_, hlength⟩
  rw [step_eq, hprepare]
  exact hadd

/-! ### White space -/

/-- Spaces in front of a token are passed over. -/
lemma toNextToken_spaces (h : StartsToken rest) (count : Nat)
    {candidates : List (Option KeyCandidate)} :
    toNextToken (fuel + 1)
        ⟨⟨m, indentation count ++ rest⟩, tokens, indents, candidates, allowsKey⟩ =
      ⟨⟨m.forward count, rest⟩, tokens, indents, candidates, allowsKey⟩ := by
  have hmark : Cursor.sees ⟨m, indentation count ++ rest⟩ '\ufeff' = false := by
    cases count with
    | succ count => simp [indentation, List.replicate_succ]
    | zero =>
      cases rest with
      | nil => simp [indentation]
      | cons x rest => simpa [indentation] using (h x rfl).2.2.2
  have hspan (p : Char → Bool) (hp : ∀ x, p x → isBlank x) (hspace : p ' ') :
      Cursor.span p ⟨m, indentation count ++ rest⟩ =
        (indentation count, ⟨m.forward count, rest⟩) := by
    have hspaces : ∀ x ∈ indentation count, p x := fun x hx => by
      rwa [List.eq_of_mem_replicate hx]
    have hrest : ∀ x ∈ rest.head?, p x = false := fun x hx =>
      Bool.eq_false_iff.mpr fun hpx => by simpa [(h x hx).1] using hp x hpx
    rw [Cursor.span_append hspaces hrest]
    simp [indentation]
  have hcomment : Cursor.skipComment ⟨m.forward count, rest⟩ = ⟨m.forward count, rest⟩ := by
    cases rest with
    | nil => simp [Cursor.skipComment]
    | cons x rest => simp [Cursor.skipComment, (h x rfl).2.2.1]
  have hbreak : Cursor.seesBreak ⟨m.forward count, rest⟩ = false := by
    cases rest with
    | nil => simp
    | cons x rest => simpa using (h x rfl).2.1
  simp only [toNextToken, hmark, Bool.and_false, Bool.false_eq_true, if_false]
  rw [hspan _ (by simp +contextual [isBlank]) (by simp)]
  simp only [hcomment, hbreak, Bool.false_eq_true, if_false]

lemma toNextToken_lineEnd :
    toNextToken (fuel + 1) ⟨⟨m, '\n' :: rest⟩, tokens, indents, [slot], allowsKey⟩ =
      toNextToken fuel ⟨⟨m.below 1 0, rest⟩, tokens, indents, [slot], true⟩ := by
  have hspan (p : Char → Bool) (hp : p '\n' = false) :
      Cursor.span p ⟨m, '\n' :: rest⟩ = ([], ⟨m, '\n' :: rest⟩) :=
    Cursor.span_of_head (by simpa using hp)
  have hbreak : isBreak '\n' = true := rfl
  have hpass : Cursor.passBreak ⟨m, '\n' :: rest⟩ = (['\n'], ⟨m.below 1 0, rest⟩) := rfl
  rw [toNextToken]
  simp [hspan, Cursor.skipComment, hbreak, hpass, inFlow]

/-- A line end and the indentation of the next line are passed over. -/
lemma toNextToken_line (h : StartsToken rest) (count : Nat) :
    toNextToken (fuel + 2)
        ⟨⟨m, '\n' :: (indentation count ++ rest)⟩, tokens, indents, [slot], allowsKey⟩ =
      ⟨⟨m.below 1 count, rest⟩, tokens, indents, [slot], true⟩ := by
  rw [toNextToken_lineEnd, toNextToken_spaces h, Mark.below_forward, Nat.zero_add]

/-! ### Candidates -/

/-- Whether a candidate is given up when the line has been left. -/
def IsLeftBehind (line : Nat) (slot : Option KeyCandidate) : Prop :=
  ∀ key ∈ slot, key.isRequired = false ∧ key.mark.line < line

lemma isLeftBehind_none {line : Nat} : IsLeftBehind line none := by simp [IsLeftBehind]

lemma IsLeftBehind.dropStale {c : Cursor} (h : IsLeftBehind c.mark.line slot) :
    dropStale c [slot] = .ok [none] := by
  cases slot with
  | none => rfl
  | some key =>
    obtain ⟨hrequired, hline⟩ := h key rfl
    simp [Scan.dropStale, Except.bind, hrequired, hline]

/-! ### Ends of blocks -/

lemma endBlocks_of_le {bound : Int} (h : ∀ d ∈ s.indents.head?, (d : Int) ≤ bound) :
    s.endBlocks bound = s := by
  have hnone : s.indents.takeWhile (fun (d : Nat) => bound < (d : Int)) = [] := by
    cases hindents : s.indents with
    | nil => rfl
    | cons d indents =>
      rw [hindents] at h
      have hle := h d rfl
      rw [List.takeWhile_cons_of_neg (by simpa using hle)]
  simp [endBlocks, hnone]

/-- The innermost block ends in front of what stands further to the left. -/
lemma endBlocks_cons {bound : Int} {c : Cursor} {d : Nat} (h : bound < d) :
    (⟨c, tokens, d :: indents, [slot], allowsKey⟩ : Scan).endBlocks bound =
      (⟨c, tokens ++ [⟨.blockEnd, c.mark, c.mark⟩], indents, [slot], allowsKey⟩ : Scan).endBlocks
        bound := by
  simp [endBlocks, inFlow, h]

/-- In front of a token that stands within the innermost block, only spaces are passed over. -/
lemma prepare_spaces {candidates left : List (Option KeyCandidate)} (h : StartsToken rest)
    (count : Nat) (hleft : dropStale ⟨m.forward count, rest⟩ candidates = .ok left)
    (hindents : ∀ d ∈ indents.head?, d ≤ m.column + count) :
    prepare ⟨⟨m, indentation count ++ rest⟩, tokens, indents, candidates, allowsKey⟩ =
      .ok ⟨⟨m.forward count, rest⟩, tokens, indents, left, allowsKey⟩ := by
  simp only [prepare, toNextToken_spaces h, hleft, Except.map]
  rw [endBlocks_of_le fun d hd => by exact_mod_cast hindents d hd]

/-! ### In front of a line -/

/-- A scan comes to a token that begins a line. The kinds of the tokens and the blocks are those in
front of the line end: where the line begins further to the left than a block, that block ends. -/
structure AtLine (s : Scan) (kinds : List TokenKind) (indents : List Nat) (column : Nat)
    (rest : List Char) : Prop where
  isDone : s.isDone = false
  length_le : rest.length ≤ s.cursor.rest.length
  prepare : ∃ m tokens, m.column = column ∧ tokens.map Token.kind = kinds ∧
    s.prepare = .ok ((⟨⟨m, rest⟩, tokens, indents, [none], true⟩ : Scan).endBlocks column)

/-- A block that stands further to the right than the line is at its end. -/
lemma AtLine.closes {d : Nat} (h : s.AtLine kinds (d :: indents) column rest) (hd : column < d) :
    s.AtLine (kinds ++ [.blockEnd]) indents column rest := by
  obtain ⟨hdone, hlength, m, tokens, hcolumn, rfl, hprepare⟩ := h
  refine ⟨hdone, hlength, m, tokens ++ [⟨.blockEnd, m, m⟩], hcolumn, by simp, ?_⟩
  rw [hprepare, endBlocks_cons (by exact_mod_cast hd)]

/-- Nothing ends in front of a line that stands at the column of the innermost block or further to
the right. -/
lemma AtLine.exists_prepare (h : s.AtLine kinds indents column rest)
    (hindents : ∀ d ∈ indents.head?, d ≤ column) : ∃ m tokens, m.column = column ∧
      tokens.map Token.kind = kinds ∧
      s.prepare = .ok ⟨⟨m, rest⟩, tokens, indents, [none], true⟩ := by
  obtain ⟨-, -, m, tokens, hcolumn, hkinds, hprepare⟩ := h
  refine ⟨m, tokens, hcolumn, hkinds, ?_⟩
  rw [hprepare, endBlocks_of_le fun d hd => by exact_mod_cast hindents d hd]

/-- The text has not been cut up to its end as long as the last token is another. -/
lemma isDone_eq_false {c : Cursor} {candidates : List (Option KeyCandidate)}
    (hkinds : tokens.map Token.kind = kinds) (hlast : kinds.getLast? ≠ some .streamEnd) :
    (⟨c, tokens, indents, candidates, allowsKey⟩ : Scan).isDone = false := by
  rw [← hkinds, List.getLast?_map] at hlast
  cases h : tokens.getLast? with
  | none => simp [isDone, h]
  | some token => simpa [isDone, h] using hlast

/-- Behind a line end comes the next line. -/
lemma atLine_of_lineEnd (h : StartsToken rest) (hkinds : tokens.map Token.kind = kinds)
    (hlast : kinds.getLast? ≠ some .streamEnd) (hslot : IsLeftBehind (m.line + 1) slot) :
    AtLine ⟨⟨m, '\n' :: (indentation column ++ rest)⟩, tokens, indents, [slot], allowsKey⟩ kinds
      indents column rest where
  isDone := isDone_eq_false hkinds hlast
  length_le := by simp; omega
  prepare := by
    refine ⟨m.below 1 column, tokens, rfl, hkinds, ?_⟩
    have hslot' : IsLeftBehind (m.below 1 column).line slot := hslot
    simp only [Scan.prepare, List.length_cons, toNextToken_line h]
    rw [IsLeftBehind.dropStale (c := ⟨m.below 1 column, rest⟩) hslot']
    rfl

/-- The next line has been reached already. -/
lemma atLine_of_startsToken (h : StartsToken rest) (hkinds : tokens.map Token.kind = kinds)
    (hlast : kinds.getLast? ≠ some .streamEnd) (hcolumn : m.column = column)
    (hslot : IsLeftBehind m.line slot) :
    AtLine ⟨⟨m, rest⟩, tokens, indents, [slot], true⟩ kinds indents column rest where
  isDone := isDone_eq_false hkinds hlast
  length_le := Nat.le_refl _
  prepare := by
    have hnext : toNextToken (rest.length + 1) ⟨⟨m, rest⟩, tokens, indents, [slot], true⟩ =
        ⟨⟨m, rest⟩, tokens, indents, [slot], true⟩ := toNextToken_spaces h 0
    refine ⟨m, tokens, hcolumn, hkinds, ?_⟩
    simp only [Scan.prepare, hnext, hcolumn]
    rw [IsLeftBehind.dropStale (c := ⟨m, rest⟩) hslot]
    rfl

/-! ### The end of the text -/

/-- All blocks end with the text. -/
lemma endBlocks_all {c : Cursor} :
    (⟨c, tokens, indents, [slot], allowsKey⟩ : Scan).endBlocks (-1) =
      ⟨c, tokens ++ indents.map fun _ => ⟨.blockEnd, c.mark, c.mark⟩, [], [slot], allowsKey⟩ := by
  have hall : indents.takeWhile (fun (d : Nat) => (-1 : Int) < (d : Int)) = indents :=
    List.takeWhile_eq_self_iff.mpr fun d _ => by simp; omega
  simp [endBlocks, inFlow, hall]

lemma exists_endText_eq (m : Mark) (tokens : List Token) (indents : List Nat) (allowsKey : Bool) :
    ∃ s', endText ⟨⟨m, []⟩, tokens, indents, [none], allowsKey⟩ = .ok s' ∧
      s'.isDone ∧ s'.tokens.map Token.kind =
        tokens.map Token.kind ++ List.replicate indents.length .blockEnd ++ [.streamEnd] := by
  simp only [endText, endBlocks_all, bind, Except.bind, dropCandidate, pure, Except.pure, add]
  exact ⟨_, rfl, by simp [isDone], by simp [List.map_const']⟩

/-- Where nothing is left, the tokens are those that have been read, and the ends of what is still
around them. -/
theorem AtLine.ofScan (h : s.AtLine kinds indents column [])
    (hindents : ∀ d ∈ indents.head?, d ≤ column) (hfuel : 2 ≤ fuel) :
    ∃ tokens, Tokens.ofScan fuel s = ⟨tokens, none⟩ ∧ tokens.map Token.kind =
      kinds ++ List.replicate indents.length .blockEnd ++ [.streamEnd] := by
  obtain ⟨m, tokens, -, rfl, hprepare⟩ := h.exists_prepare hindents
  obtain ⟨s', hend, hdone, hkinds⟩ := exists_endText_eq m tokens indents true
  obtain ⟨fuel, rfl⟩ : ∃ n, fuel = n + 2 := ⟨fuel - 2, by omega⟩
  have hstep : s.step = .ok s' := by
    rw [step_eq, hprepare]
    exact hend
  refine ⟨s'.tokens, ?_, hkinds⟩
  simp [Tokens.ofScan, h.isDone, hstep, hdone]

end Scan

end NotebookExport.Yaml
