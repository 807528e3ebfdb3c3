import NotebookExport.Proofs.Occurrences

/-!
# The trees of the grammar

What the theory of names asks of a tree (`Node.isInShape`) holds of the tree of every derivation by
the grammar, one with errors in it included. A derivation is by the grammar if the parts of each
phrase are those of one of its expansions, in order and with the same roles; comments, continued
lines and errors may stand between them, and an error may be made of anything.

Few phrases have a shape to keep, and these are made of parts that are shown: every child of such a
phrase stands for one step of the expansion (`exists_step`), and `decide` looks at the steps.
-/

namespace NotebookExport.Python

open Text

/-! ### Derivations by the grammar -/

/-- The kind under which a derivation stands in a tree by itself. -/
def Label.ownKind : Label → Option Kind
  | .symbol (.token t) => if t.isHidden then none else some (.token t)
  | .symbol (.phrase p) => if p.isHidden then none else some (.phrase p)
  | .error => some .error
  | _ => none

namespace Step

/-- What a step derives. -/
def label (step : Step) : Label := .symbol step.symbol

/-- The kind under which the part of a step stands in a tree. -/
def kind (step : Step) : Option Kind := step.shownAs.or step.label.ownKind

/-- What a step says about its part besides the symbol. -/
def look (step : Step) : Option Kind × Option Field := (step.shownAs, step.field)

end Step

namespace Derivation

/-- The steps that the parts of a derivation take up. -/
def steps (d : Derivation) : List Step := (d.info.production.map Production.steps).getD []

/-- Whether the parts of a phrase or group are those of an expansion. What the production says of
the roles of the parts is what the expansion says of them. Extra parts stand between the others, but
not at their ends; only a whole text may begin and end with some. -/
structure IsExpanded (d : Derivation) (e : Expansion) : Prop where
  looks : d.steps.map Step.look = e.steps.map Step.look
  labels : (d.parts.filter fun part => !part.isExtra).map label = e.steps.map Step.label
  ends : d.label = .symbol (.phrase .program) ∨
    (∀ part ∈ d.parts.head?, ¬part.isExtra) ∧ ∀ part ∈ d.parts.getLast?, ¬part.isExtra

/-- Whether a derivation is one by the grammar. Only tokens and errors can be extra. -/
inductive FollowsGrammar : Derivation → Prop
  | token {d : Derivation} {t : Token} (hlabel : d.label = .symbol (.token t))
      (hnone : d.parts = []) : d.FollowsGrammar
  | expanded {d : Derivation} {s : Symbol} {e : Expansion} (hlabel : d.label = .symbol s)
      (hmain : ¬d.isExtra) (hmem : e ∈ s.expansions) (hexpanded : d.IsExpanded e)
      (hparts : ∀ part ∈ d.parts, part.FollowsGrammar) : d.FollowsGrammar
  | error {d : Derivation} (hlabel : d.label = .error ∨ d.label = .passedOver ∧ ¬d.isExtra)
      (hnone : d.info.production = none) (hparts : ∀ part ∈ d.parts, part.FollowsGrammar) :
      d.FollowsGrammar

lemma FollowsGrammar.parts_of_token {d : Derivation} (h : d.FollowsGrammar) {t : Token}
    (hlabel : d.label = .symbol (.token t)) : d.parts = [] := by
  cases h with
  | token _ hnone => exact hnone
  | expanded hlabel' _ hmem =>
    rw [hlabel, Label.symbol.injEq] at hlabel'
    subst hlabel'
    cases hmem
  | error hlabel' =>
    rw [hlabel] at hlabel'
    rcases hlabel' with hlabel' | ⟨hlabel', -⟩ <;> cases hlabel'

lemma FollowsGrammar.parts {d : Derivation} (h : d.FollowsGrammar) :
    ∀ part ∈ d.parts, part.FollowsGrammar := by
  cases h with
  | token _ hnone =>
    rw [hnone]
    exact nofun
  | expanded _ _ _ _ hparts => exact hparts
  | error _ _ hparts => exact hparts

lemma FollowsGrammar.production_of_error {d : Derivation} (h : d.FollowsGrammar)
    (hlabel : d.label = .error) : d.info.production = none := by
  cases h with
  | token htoken => cases hlabel.symm.trans htoken
  | expanded hsymbol => cases hlabel.symm.trans hsymbol
  | error _ hnone => exact hnone

lemma FollowsGrammar.isExpanded {d : Derivation} (h : d.FollowsGrammar) {p : Phrase}
    (hlabel : d.label = .symbol (.phrase p)) :
    ∃ e ∈ (Symbol.phrase p).expansions, d.IsExpanded e := by
  cases h with
  | token htoken => cases hlabel.symm.trans htoken
  | expanded hsymbol _ hmem hexpanded =>
    obtain rfl := Label.symbol.inj (hlabel.symm.trans hsymbol)
    exact ⟨_, hmem, hexpanded⟩
  | error herror => rcases herror with herror | ⟨herror, -⟩ <;> cases hlabel.symm.trans herror

lemma FollowsGrammar.label_of_isExtra {d : Derivation} (h : d.FollowsGrammar)
    (hextra : d.isExtra) : (∃ t, d.label = .symbol (.token t)) ∨ d.label = .error := by
  cases h with
  | token hlabel => exact .inl ⟨_, hlabel⟩
  | expanded _ hmain => exact absurd hextra hmain
  | error hlabel => exact .inr (hlabel.resolve_right fun h => h.2 hextra)

/-! ### The nodes of a derivation -/

variable {d : Derivation} {shownAs : Option Kind} {field : Option Field}

lemma nodes_eq (d : Derivation) (shownAs : Option Kind) (field : Option Field) :
    d.nodes shownAs field =
      match shownAs.or d.label.ownKind with
      | some kind =>
        [.node ⟨kind, field, d.info.isExtra, d.info.isMissing, d.info.start,
          d.info.stop.position⟩ (partNodes d.steps none d.parts)]
      | none => partNodes d.steps field d.parts := by
  obtain ⟨info, parts⟩ := d
  rw [nodes]
  rfl

/-- Where no steps are taken up, parts are shown as what they are. -/
lemma mem_partNodes_nil {parts : List Derivation} {c : Node} (h : c ∈ partNodes [] field parts) :
    ∃ part ∈ parts, ∃ role, c ∈ part.nodes none role := by
  induction parts with
  | nil => cases h
  | cons part parts ih =>
    rw [partNodes] at h
    have hsplit : (∃ role, c ∈ part.nodes none role) ∨ c ∈ partNodes [] field parts := by
      split_ifs at h
      · exact (List.mem_append.mp h).imp_left fun h => ⟨none, h⟩
      · exact (List.mem_append.mp h).imp_left fun h => ⟨_, h⟩
    rcases hsplit with hpart | hrest
    · exact ⟨part, List.mem_cons_self, hpart⟩
    · obtain ⟨other, hmem, hother⟩ := ih hrest
      exact ⟨other, List.mem_cons_of_mem part hmem, hother⟩

/-- The nodes of the parts of an expansion are those of extra parts and those of steps. -/
lemma mem_partNodes {parts : List Derivation} {steps main : List Step} {c : Node}
    (hlooks : steps.map Step.look = main.map Step.look)
    (hlabels : (parts.filter fun part => !part.isExtra).map label = main.map Step.label)
    (h : c ∈ partNodes steps field parts) :
    (∃ part ∈ parts, part.isExtra ∧ c ∈ part.nodes none none) ∨
      ∃ part ∈ parts, ∃ step ∈ main, ¬part.isExtra ∧ part.label = step.label ∧
        c ∈ part.nodes step.shownAs (step.field.or field) := by
  induction parts generalizing steps main with
  | nil => cases h
  | cons part parts ih =>
    rw [partNodes] at h
    split_ifs at h with hextra
    · rw [List.filter_cons_of_neg (by simp [hextra])] at hlabels
      rcases List.mem_append.mp h with hpart | hrest
      · exact .inl ⟨part, List.mem_cons_self, hextra, hpart⟩
      · rcases ih hlooks hlabels hrest with ⟨other, hmem, hother⟩ | ⟨other, hmem, hother⟩
        · exact .inl ⟨other, List.mem_cons_of_mem part hmem, hother⟩
        · exact .inr ⟨other, List.mem_cons_of_mem part hmem, hother⟩
    · rw [List.filter_cons_of_pos (by simp [hextra]), List.map_cons] at hlabels
      cases main with
      | nil => cases hlabels
      | cons step main =>
        obtain ⟨hlabel, hlabels⟩ := List.cons_eq_cons.mp hlabels
        cases steps with
        | nil => cases hlooks
        | cons own steps =>
          obtain ⟨hlook, hlooks⟩ := List.cons_eq_cons.mp hlooks
          obtain ⟨hshown, hfield⟩ := Prod.mk.inj hlook
          rcases List.mem_append.mp h with hpart | hrest
          · have hnode : c ∈ part.nodes step.shownAs (step.field.or field) := by
              rw [← hshown, ← hfield]
              exact hpart
            exact .inr ⟨part, List.mem_cons_self, step, List.mem_cons_self, hextra, hlabel, hnode⟩
          · rcases ih hlooks hlabels hrest with h | ⟨other, hmem, step', hstep', hother⟩
            · obtain ⟨other, hmem, hother⟩ := h
              exact .inl ⟨other, List.mem_cons_of_mem part hmem, hother⟩
            · exact .inr ⟨other, List.mem_cons_of_mem part hmem, step',
                List.mem_cons_of_mem step hstep', hother⟩

/-- Nothing that is extra plays a role. -/
lemma role?_of_extra {part : Derivation} {c : Node} (hpart : part.FollowsGrammar)
    (hextra : part.isExtra) (h : c ∈ part.nodes none none) : c.role? = none := by
  rw [nodes_eq] at h
  cases hkind : part.label.ownKind with
  | some kind =>
    rw [Option.none_or, hkind] at h
    obtain rfl := List.mem_singleton.mp h
    exact if_pos hextra
  | none =>
    rw [Option.none_or, hkind] at h
    rcases hpart.label_of_isExtra hextra with ⟨t, hlabel⟩ | hlabel
    · rw [hpart.parts_of_token hlabel] at h
      cases h
    · rw [hlabel] at hkind
      cases hkind

end Derivation

/-! ### The shaped phrases -/

/-- The phrases that have a shape to keep. -/
def Phrase.isShaped : Phrase → Bool
  | .functionDefinition | .classDefinition | .typedParameter
  | .keywordSeparator | .positionalSeparator => true
  | _ => false

lemma Phrase.allowsPart_of_not_shaped {p : Phrase} (h : ¬p.isShaped) {role : Option Field}
    {kind : Kind} : p.allowsPart role kind := by
  cases p <;> first | rfl | exact absurd rfl h

/-- Whether what is derived may be shown as another kind: only a token as a token, and nothing as a
phrase that has a shape to keep. -/
def Label.canBeShownAs (label : Label) : Option Kind → Bool
  | some (.token _) =>
    match label with
    | .symbol (.token _) => true
    | _ => false
  | some (.phrase p) => !p.isShaped
  | _ => true

/-- A step of a shaped phrase leads to a node in the tree or to a hidden token. -/
def Step.isPlain (step : Step) : Bool :=
  step.kind.isSome ||
    match step.symbol with
    | .token _ => true
    | _ => false

/-- The symbols that a rule mentions, with the kinds under which it shows them; `shownAs` is what
the rules around it say. -/
def Rule.parts (shownAs : Option Kind) : Rule → List (Symbol × Option Kind)
  | .blank => []
  | .symbol s => [(s, shownAs)]
  | .seq a b | .alt a b => a.parts shownAs ++ b.parts shownAs
  | .field _ r | .binding _ _ r | .preferred _ r => r.parts shownAs
  | .shownAs kind r => r.parts (some kind)

/-- Binding tighter or not changes nothing about how a step is shown. -/
lemma Expansion.exists_of_mem_closeWith {context : RuleContext} {setSide : Bool} {e : Expansion}
    {step : Step} (h : step ∈ (e.closeWith context setSide).steps) :
    ∃ own ∈ e.steps, step.symbol = own.symbol ∧ step.shownAs = own.shownAs := by
  unfold closeWith at h
  split at h
  case h_1 => exact ⟨step, h, rfl, rfl⟩
  case h_2 last hlast =>
    rcases List.mem_append.mp h with h | h
    · exact ⟨step, (List.dropLast_sublist e.steps).mem h, rfl, rfl⟩
    · obtain rfl := List.mem_singleton.mp h
      exact ⟨last, List.mem_of_getLast? hlast, rfl, rfl⟩

/-- The steps of the expansions of a rule are parts that it mentions. -/
lemma Rule.mem_parts_of_mem_expand {r : Rule} {context : RuleContext} {final : Bool}
    {e : Expansion} {step : Step} (he : e ∈ r.expand context final) (hstep : step ∈ e.steps) :
    (step.symbol, step.shownAs) ∈ r.parts context.shownAs := by
  induction r generalizing context final e step with
  | blank =>
    obtain rfl := List.mem_singleton.mp he
    cases hstep
  | symbol s =>
    obtain rfl := List.mem_singleton.mp he
    obtain rfl := List.mem_singleton.mp hstep
    exact List.mem_singleton_self _
  | seq a b iha ihb =>
    obtain ⟨x, hx, he⟩ := List.mem_flatMap.mp he
    obtain ⟨y, hy, rfl⟩ := List.mem_map.mp he
    rcases List.mem_append.mp hstep with hstep | hstep
    · exact List.mem_append_left _ (iha hx hstep)
    · exact List.mem_append_right _ (ihb hy hstep)
  | alt a b iha ihb =>
    rcases List.mem_append.mp he with he | he
    · exact List.mem_append_left _ (iha he hstep)
    · exact List.mem_append_right _ (ihb he hstep)
  | field role r ih =>
    have hinner : e ∈ r.expand { context with field := some role } final := he
    have hpart := ih hinner hstep
    exact hpart
  | shownAs kind r ih =>
    have hinner : e ∈ r.expand { context with shownAs := some kind } final := he
    have hpart := ih hinner hstep
    exact hpart
  | binding level side r ih =>
    let inner : RuleContext := { context with
      level := some level, side := if side = .none then context.side else side }
    have hinner : e ∈ if final then r.expand inner final
      else (r.expand inner final).map (·.closeWith context (side != .none)) := he
    split_ifs at hinner
    · have hpart := ih hinner hstep
      exact hpart
    · obtain ⟨x, hx, rfl⟩ := List.mem_map.mp hinner
      obtain ⟨own, hown, hsymbol, hshown⟩ := Expansion.exists_of_mem_closeWith hstep
      have hpart := ih hx hown
      rw [hsymbol, hshown]
      exact hpart
  | preferred weight r ih =>
    obtain ⟨x, hx, rfl⟩ := List.mem_map.mp he
    exact ih hx hstep

/-- The symbols of which the grammar makes up a symbol, with the kinds under which they are shown.
-/
def Symbol.parts : Symbol → List (Symbol × Option Kind)
  | .token _ => []
  | .phrase p => p.rule.parts none
  | .group g => (.group g, none) :: g.rule.parts none
  | .start => [(.phrase .program, none)]

lemma Symbol.mem_parts_of_mem {s : Symbol} {e : Expansion} {step : Step}
    (he : e ∈ s.expansions) (hstep : step ∈ e.steps) : (step.symbol, step.shownAs) ∈ s.parts := by
  cases s with
  | token t => cases he
  | phrase p =>
    rw [expansions] at he
    split_ifs at he
    · cases he
    · exact Rule.mem_parts_of_mem_expand (List.mem_eraseDups.mp he) hstep
  | group g =>
    rw [expansions] at he
    rcases List.mem_cons.mp he with rfl | he
    · simp only [List.mem_cons, List.not_mem_nil, or_false, or_self] at hstep
      subst hstep
      exact List.mem_cons_self
    · exact List.mem_cons_of_mem _ (Rule.mem_parts_of_mem_expand (List.mem_eraseDups.mp he) hstep)
  | start =>
    obtain rfl := List.mem_singleton.mp he
    obtain rfl := List.mem_singleton.mp hstep
    exact List.mem_singleton_self _

/-- The steps of the grammar show their parts as what these can be shown as. -/
lemma Symbol.canBeShownAs_of_mem {s : Symbol} {e : Expansion} {step : Step}
    (he : e ∈ s.expansions) (hstep : step ∈ e.steps) : step.label.canBeShownAs step.shownAs := by
  have hparts : s.parts.all fun part => (Label.symbol part.1).canBeShownAs part.2 := by
    cases s with
    | token t => rfl
    | phrase p => cases p <;> rfl
    | group g => cases g <;> rfl
    | start => rfl
  exact List.all_eq_true.mp hparts _ (mem_parts_of_mem he hstep)

/-- The steps of a shaped phrase lead to what its shape asks for. -/
lemma Phrase.allowsPart_of_mem {p : Phrase} {e : Expansion} {step : Step} (hp : p.isShaped)
    (he : e ∈ (Symbol.phrase p).expansions) (hstep : step ∈ e.steps) :
    step.isPlain ∧ ∀ kind ∈ step.kind, p.allowsPart step.field kind := by
  have hall : ∀ p ∈ [Phrase.functionDefinition, .classDefinition, .typedParameter,
      .keywordSeparator, .positionalSeparator], ∀ e ∈ (Symbol.phrase p).expansions,
      ∀ step ∈ e.steps, step.isPlain ∧ ∀ kind ∈ step.kind, p.allowsPart step.field kind := by
    decide +kernel
  refine hall p ?_ e he step hstep
  cases p <;> first | decide | cases hp

/-- A mark between parameters is a single token. -/
lemma Phrase.length_of_separator {e : Expansion}
    (he : e ∈ (Symbol.phrase .keywordSeparator).expansions ∨
      e ∈ (Symbol.phrase .positionalSeparator).expansions) : e.steps.length = 1 := by
  have hkeyword : ∀ e ∈ (Symbol.phrase .keywordSeparator).expansions, e.steps.length = 1 := by
    decide
  have hpositional : ∀ e ∈ (Symbol.phrase .positionalSeparator).expansions,
      e.steps.length = 1 := by
    decide
  exact he.elim (hkeyword e) (hpositional e)

namespace Derivation

/-- A child of a shaped phrase is extra or stands for a step. -/
lemma exists_step {d : Derivation} {p : Phrase} {e : Expansion} {c : Node} (hp : p.isShaped)
    (he : e ∈ (Symbol.phrase p).expansions) (hexpanded : d.IsExpanded e)
    (hparts : ∀ part ∈ d.parts, part.FollowsGrammar) (h : c ∈ partNodes d.steps none d.parts) :
    (∃ part ∈ d.parts, part.isExtra ∧ c.role? = none) ∨
      ∃ step ∈ e.steps, step.kind = some c.kind ∧ c.role? = step.field := by
  rcases mem_partNodes hexpanded.looks hexpanded.labels h with
    ⟨part, hmem, hextra, hnode⟩ | ⟨part, hmem, step, hstep, hmain, hlabel, hnode⟩
  · exact .inl ⟨part, hmem, hextra,
      role?_of_extra (hparts part hmem) hextra hnode⟩
  · right
    refine ⟨step, hstep, ?_⟩
    rw [nodes_eq, hlabel, ← Step.kind, Option.or_none] at hnode
    cases hkind : step.kind with
    | some kind =>
      rw [hkind] at hnode
      obtain rfl := List.mem_singleton.mp hnode
      exact ⟨rfl, if_neg hmain⟩
    | none =>
      have hplain := (Phrase.allowsPart_of_mem hp he hstep).1
      rw [hkind] at hnode
      obtain ⟨t, ht⟩ : ∃ t, step.symbol = .token t := by
        rw [Step.isPlain, hkind] at hplain
        cases hsymbol : step.symbol with
        | token t => exact ⟨t, rfl⟩
        | _ => simp [hsymbol] at hplain
      have htoken : part.label = .symbol (.token t) := by rw [hlabel, Step.label, ht]
      rw [(hparts part hmem).parts_of_token htoken] at hnode
      cases hnode

end Derivation

/-! ### Every node is in shape -/

namespace Node

lemma isSyntaxTree_node {info : NodeInfo} {children : List Node}
    (hshape : (node info children).isInShape) (h : ∀ c ∈ children, c.IsSyntaxTree) :
    (node info children).IsSyntaxTree := by
  intro m hm
  rw [preorder, preorderAll_eq_flatMap, List.mem_cons, List.mem_flatMap] at hm
  rcases hm with rfl | ⟨c, hc, hm⟩
  · exact hshape
  · exact h c hc m hm

lemma isInShape_of_not_shaped {n : Node} (htoken : ∀ t, n.kind = .token t → n.children = [])
    (hphrase : ∀ p, n.kind = .phrase p → ¬p.isShaped) : n.isInShape := by
  unfold isInShape
  split
  case h_1 t hkind => simp [htoken t hkind]
  case h_2 p hkind =>
    rw [List.all_eq_true]
    intro c _
    exact Phrase.allowsPart_of_not_shaped (hphrase p hkind)
  case h_3 => rfl

end Node

namespace Derivation

variable {d : Derivation}

/-- Only a token is shown as a token. -/
lemma label_of_token {label : Label} {shownAs : Option Kind} {t : Token}
    (hshown : label.canBeShownAs shownAs) (h : shownAs.or label.ownKind = some (.token t)) :
    ∃ t', label = .symbol (.token t') := by
  cases shownAs with
  | some kind =>
    obtain rfl := Option.some.inj h
    simp only [Label.canBeShownAs] at hshown
    split at hshown
    case h_1 t' => exact ⟨t', rfl⟩
    case h_2 => cases hshown
  | none =>
    rw [Option.none_or] at h
    unfold Label.ownKind at h
    split at h
    case h_1 t' => exact ⟨t', rfl⟩
    case h_2 => split_ifs at h; cases h
    case h_3 => cases h
    case h_4 => cases h

/-- Only a shaped phrase is shown as one. -/
lemma label_of_isShaped {label : Label} {shownAs : Option Kind} {p : Phrase} (hp : p.isShaped)
    (hshown : label.canBeShownAs shownAs) (h : shownAs.or label.ownKind = some (.phrase p)) :
    label = .symbol (.phrase p) := by
  cases shownAs with
  | some kind =>
    obtain rfl := Option.some.inj h
    simp [Label.canBeShownAs, hp] at hshown
  | none =>
    rw [Option.none_or] at h
    unfold Label.ownKind at h
    split at h
    case h_1 => split_ifs at h; cases h
    case h_2 q =>
      split_ifs at h
      cases h
      rfl
    case h_3 => cases h
    case h_4 => cases h

/-- A phrase with one part holds nothing extra. -/
lemma IsExpanded.not_extra {e : Expansion} (h : d.IsExpanded e) (hone : e.steps.length = 1)
    (hprogram : d.label ≠ .symbol (.phrase .program)) : ∀ part ∈ d.parts, ¬part.isExtra := by
  have hlength : (d.parts.filter fun part => !part.isExtra).length = 1 := by
    rw [← List.length_map label, h.labels, List.length_map, hone]
  obtain ⟨hfirst, hlast⟩ := h.ends.resolve_left hprogram
  cases hparts : d.parts with
  | nil => exact nofun
  | cons part rest =>
    have hpart : ¬part.isExtra := hfirst part (by rw [hparts]; rfl)
    rw [hparts, List.filter_cons_of_pos (by simpa using hpart), List.length_cons,
      Nat.add_eq_right, List.length_eq_zero_iff, List.filter_eq_nil_iff] at hlength
    have hrest : rest = [] := by
      by_contra hne
      have hmem := List.getLast_mem hne
      have hlast' := hlast (rest.getLast hne) (by
        rw [hparts, List.getLast?_cons_of_ne_nil hne, List.getLast?_eq_some_getLast hne]
        rfl)
      exact hlength _ hmem (by simpa using hlast')
    rw [hrest]
    simpa using hpart

/-- The node of a shaped phrase is in shape. -/
lemma IsExpanded.isInShape {p : Phrase} {e : Expansion} {n : Node} (hexpanded : d.IsExpanded e)
    (hp : p.isShaped) (hlabel : d.label = .symbol (.phrase p))
    (he : e ∈ (Symbol.phrase p).expansions) (hparts : ∀ part ∈ d.parts, part.FollowsGrammar)
    (hkind : n.kind = .phrase p) (hchildren : n.children = partNodes d.steps none d.parts) :
    n.isInShape := by
  have hnone : (∃ part ∈ d.parts, part.isExtra) → ∀ kind, p.allowsPart none kind := by
    rintro ⟨part, hpart, hextra⟩ kind
    have hmark : e.steps.length ≠ 1 := by
      intro hone
      have hprogram : d.label ≠ .symbol (.phrase .program) := by
        rw [hlabel]
        rintro ⟨⟩
        cases hp
      exact hexpanded.not_extra hone hprogram part hpart hextra
    cases p
    case keywordSeparator => exact absurd (Phrase.length_of_separator (.inl he)) hmark
    case positionalSeparator => exact absurd (Phrase.length_of_separator (.inr he)) hmark
    case functionDefinition | classDefinition | typedParameter => rfl
    all_goals cases hp
  have hall : ∀ c ∈ n.children, p.allowsPart c.role? c.kind := by
    intro c hc
    rw [hchildren] at hc
    rcases exists_step hp he hexpanded hparts hc with
      ⟨part, hpart, hextra, hrole⟩ | ⟨step, hstep, hckind, hrole⟩
    · rw [hrole]
      exact hnone ⟨part, hpart, hextra⟩ c.kind
    · rw [hrole]
      exact (Phrase.allowsPart_of_mem hp he hstep).2 c.kind hckind
  simpa only [Node.isInShape, hkind, List.all_eq_true] using hall

/-- The node that stands for a derivation by the grammar is in shape. -/
lemma FollowsGrammar.isInShape (h : d.FollowsGrammar) {shownAs : Option Kind}
    (hshown : d.label.canBeShownAs shownAs) {n : Node}
    (hkind : shownAs.or d.label.ownKind = some n.kind)
    (hchildren : n.children = partNodes d.steps none d.parts) : n.isInShape := by
  by_cases hshaped : ∃ p, n.kind = .phrase p ∧ p.isShaped
  · obtain ⟨p, hphrase, hp⟩ := hshaped
    have hlabel : d.label = .symbol (.phrase p) := label_of_isShaped hp hshown (hphrase ▸ hkind)
    cases h with
    | token htoken => cases hlabel.symm.trans htoken
    | expanded hsymbol _ hmem hexpanded hparts =>
      obtain rfl := Label.symbol.inj (hlabel.symm.trans hsymbol)
      exact hexpanded.isInShape hp hlabel hmem hparts hphrase hchildren
    | error herror =>
      rcases herror with herror | ⟨herror, -⟩ <;> cases hlabel.symm.trans herror
  · apply Node.isInShape_of_not_shaped
    · intro t htoken
      obtain ⟨t', hlabel⟩ := label_of_token hshown (htoken ▸ hkind)
      rw [hchildren, h.parts_of_token hlabel]
      rfl
    · intro p hphrase hp
      exact hshaped ⟨p, hphrase, hp⟩

/-- The nodes of a derivation by the grammar are in shape if those of its parts are. -/
lemma FollowsGrammar.isSyntaxTree_of_parts (h : d.FollowsGrammar) {shownAs : Option Kind}
    {field : Option Field} (hshown : d.label.canBeShownAs shownAs)
    (hbelow : ∀ field, ∀ c ∈ partNodes d.steps field d.parts, c.IsSyntaxTree) :
    ∀ n ∈ d.nodes shownAs field, n.IsSyntaxTree := by
  intro n hn
  rw [nodes_eq] at hn
  split at hn
  case h_1 kind hkind =>
    obtain rfl := List.mem_singleton.mp hn
    exact Node.isSyntaxTree_node (h.isInShape hshown hkind rfl) (hbelow none)
  case h_2 => exact hbelow field n hn

/-- Every node of a derivation by the grammar is in shape, as what it may be shown as. -/
lemma FollowsGrammar.isSyntaxTree (h : d.FollowsGrammar) {shownAs : Option Kind}
    {field : Option Field} (hshown : d.label.canBeShownAs shownAs) :
    ∀ n ∈ d.nodes shownAs field, n.IsSyntaxTree := by
  induction h generalizing shownAs field with
  | token hlabel hnone =>
    apply (token hlabel hnone).isSyntaxTree_of_parts hshown
    rw [hnone]
    exact fun _ => nofun
  | @expanded d s e hlabel hmain hmem hexpanded hparts ih =>
    apply (expanded hlabel hmain hmem hexpanded hparts).isSyntaxTree_of_parts hshown
    intro field c hc
    rcases mem_partNodes hexpanded.looks hexpanded.labels hc with
      ⟨part, hpart, -, hnode⟩ | ⟨part, hpart, step, hstep, -, hlabel, hnode⟩
    · exact ih part hpart rfl c hnode
    · have hsuits : part.label.canBeShownAs step.shownAs := by
        rw [hlabel]
        exact Symbol.canBeShownAs_of_mem hmem hstep
      exact ih part hpart hsuits c hnode
  | @error d hlabel hnone hparts ih =>
    apply (error hlabel hnone hparts).isSyntaxTree_of_parts hshown
    intro field c hc
    rw [steps, hnone] at hc
    obtain ⟨part, hpart, role, hnode⟩ := mem_partNodes_nil hc
    exact ih part hpart rfl c hnode

/-- The tree of a derivation by the grammar is in shape. -/
theorem FollowsGrammar.isSyntaxTree_tree (h : d.FollowsGrammar) : d.tree.IsSyntaxTree := by
  rw [tree]
  cases hnodes : d.nodes none none with
  | nil =>
    refine Node.isSyntaxTree_node rfl ?_
    simp
  | cons n ns => exact h.isSyntaxTree rfl n (hnodes ▸ List.mem_cons_self)

end Derivation

end NotebookExport.Python
