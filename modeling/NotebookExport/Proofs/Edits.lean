import NotebookExport.Proofs.RemovalRule

/-!
# Edits of a statement

Between being lowered and being rendered a statement is edited: comments are attached to it, and
targets are taken away whose names are never read. After any such edits an assignment holds exactly
the targets that were live in every one of them, so neither the order matters in which names were
found to be unread, nor how often. It does matter that they were found one after the other: a
pattern that is live for two sets of names need not be live for both together.
-/

namespace NotebookExport

/-- What can happen to a statement. -/
inductive Edit where
  | attach (comment : String)
  | retain (unread : List String)
  deriving DecidableEq

namespace Edit

/-- The statement after an edit, if there still is one. -/
def apply (s : Statement) : Edit → Option Statement
  | .attach comment => some (s.attach comment)
  | .retain unread => s.retain unread

/-- The targets that an edit takes away. -/
def dead (s : Statement) : Edit → List Target
  | .attach _ => []
  | .retain unread => s.deadTargets unread

/-- Whether an edit leaves a target where it is. -/
def keeps (t : Target) : Edit → Bool
  | .attach _ => true
  | .retain unread => t.isLive unread

def comment? : Edit → Option String
  | .attach comment => some comment
  | .retain _ => none

/-- The comments that some edits attach, each with the two blanks before it. -/
def tail (edits : List Edit) : String :=
  String.join ((edits.filterMap comment?).map Assignment.spaced)

end Edit

namespace Assignment

/-- The targets that are live in each of some edits. -/
def liveThrough (edits : List Edit) (a : Assignment) : List Target :=
  a.targets.filter fun t => edits.all (Edit.keeps t)

/-- The assignment with these targets and the last comment attached. -/
def edited (edits : List Edit) (a : Assignment) : Assignment :=
  ⟨a.liveThrough edits, a.value, (edits.filterMap Edit.comment?).getLast?.or a.comment⟩

end Assignment

namespace Statement

/-- What is left of a statement after some edits. -/
def after : List Edit → Statement → Option Statement
  | [], s => some s
  | e :: edits, s => (e.apply s).bind (after edits)

/-- The targets that each edit takes away, as long as there is a statement to edit. -/
def losses : List Edit → Statement → List (List Target)
  | [], _ => []
  | e :: edits, s => e.dead s :: ((e.apply s).map (losses edits)).getD []

variable {a : Assignment} {s s' : Statement} {edits : List Edit}

/-! ### One edit after the other -/

lemma after_append (first second : List Edit) (s : Statement) :
    after (first ++ second) s = (after first s).bind (after second) := by
  induction first generalizing s with
  | nil => rfl
  | cons e first ih =>
    simp only [List.cons_append, after, Option.bind_assoc]
    exact congrArg _ (funext ih)

lemma after_cons_of_eq {e : Edit} (h : e.apply s = some s') :
    after (e :: edits) s = after edits s' ∧
      losses (e :: edits) s = e.dead s :: losses edits s' := by
  simp [after, losses, h]

lemma after_concat (edits : List Edit) (e : Edit) (s : Statement) :
    after (edits ++ [e]) s = (after edits s).bind e.apply := by
  rw [after_append]
  exact congrArg _ (funext fun s => by simp [after])

/-! ### Other statements -/

/-- A statement that is nothing but a text keeps it, with all comments behind it. -/
lemma after_text (ofText : String → Statement)
    (hattach : ∀ text comment,
      (ofText text).attach comment = ofText (text ++ Assignment.spaced comment))
    (hretain : ∀ text unread, (ofText text).retain unread = some (ofText text)) (text : String) :
    after edits (ofText text) = some (ofText (text ++ Edit.tail edits)) := by
  induction edits generalizing text with
  | nil => simp [after, Edit.tail, String.join_nil]
  | cons e edits ih =>
    cases e with
    | attach comment =>
      have hstep : (Edit.attach comment).apply (ofText text) =
          some (ofText (text ++ Assignment.spaced comment)) := congrArg some (hattach text comment)
      rw [(after_cons_of_eq hstep).1, ih, String.append_assoc]
      simp [Edit.tail, Edit.comment?, String.join_cons]
    | retain unread =>
      have hstep : (Edit.retain unread).apply (ofText text) = some (ofText text) :=
        hretain text unread
      rw [(after_cons_of_eq hstep).1, ih]
      rfl

/-- Only an assignment has something to lose. -/
lemma exists_apply_of_isFixed (e : Edit) (h : s.isFixed) :
    e.dead s = [] ∧ ∃ s', e.apply s = some s' ∧ s'.isFixed := by
  cases e with
  | attach comment => exact ⟨rfl, _, rfl, (isFixed_attach comment s).trans h⟩
  | retain unread =>
    cases s with
    | assignment a => cases h
    | _ => exact ⟨rfl, _, rfl, rfl⟩

lemma losses_of_isFixed (edits : List Edit) (h : s.isFixed) : (losses edits s).flatten = [] := by
  induction edits generalizing s with
  | nil => rfl
  | cons e edits ih =>
    obtain ⟨hdead, next, happly, hfixed⟩ := exists_apply_of_isFixed e h
    rw [(after_cons_of_eq happly).2, List.flatten_cons, hdead, List.nil_append]
    exact ih hfixed

lemma isFixed_of_after (h : s.isFixed) (hafter : after edits s = some s') : s'.isFixed := by
  induction edits generalizing s with
  | nil => exact Option.some.inj hafter ▸ h
  | cons e edits ih =>
    obtain ⟨-, next, happly, hfixed⟩ := exists_apply_of_isFixed e h
    rw [(after_cons_of_eq happly).1] at hafter
    exact ih hfixed hafter


/-! ### Assignments -/

lemma liveThrough_singleton (unread : List String) (a : Assignment) :
    a.liveThrough [.retain unread] = a.targets.filter (Target.isLive unread) := by
  simp [Assignment.liveThrough, Edit.keeps]

lemma liveThrough_attach (comment : String) (edits : List Edit) (a : Assignment) :
    a.liveThrough (.attach comment :: edits) = a.liveThrough edits := by
  simp [Assignment.liveThrough, Edit.keeps]

lemma liveThrough_retain (unread : List String) (edits : List Edit) (a : Assignment) :
    a.liveThrough (.retain unread :: edits) =
      (⟨a.liveThrough [.retain unread], a.value, a.comment⟩ : Assignment).liveThrough edits := by
  simp [Assignment.liveThrough, Edit.keeps, List.filter_filter, Bool.and_comm]

lemma edited_attach (comment : String) (edits : List Edit) (a : Assignment) :
    a.edited (.attach comment :: edits) =
      ({ a with comment := some comment } : Assignment).edited edits := by
  simp only [Assignment.edited, liveThrough_attach, List.filterMap_cons, Edit.comment?,
    List.getLast?_cons]
  cases (edits.filterMap Edit.comment?).getLast? <;> rfl

lemma edited_retain (unread : List String) (edits : List Edit) (a : Assignment) :
    a.edited (.retain unread :: edits) =
      (⟨a.liveThrough [.retain unread], a.value, a.comment⟩ : Assignment).edited edits := by
  simp only [Assignment.edited, liveThrough_retain unread edits, List.filterMap_cons, Edit.comment?]

/-- An assignment loses the targets that are not live, and goes with the last of them. -/
lemma apply_retain_assignment (unread : List String) (a : Assignment) :
    (Edit.retain unread).apply (.assignment a) =
      if a.liveThrough [.retain unread] = [] then none
      else some (.assignment ⟨a.liveThrough [.retain unread], a.value, a.comment⟩) := by
  simp [Edit.apply, retain, liveThrough_singleton]

/-- An assignment holds the targets that were live in all edits, as long as there are any. -/
lemma after_assignment (h : a.targets ≠ []) :
    after edits (.assignment a) =
      if a.liveThrough edits = [] then none else some (.assignment (a.edited edits)) := by
  induction edits generalizing a with
  | nil => simp [after, Assignment.edited, Assignment.liveThrough, h]
  | cons e edits ih =>
    cases e with
    | attach comment =>
      rw [(after_cons_of_eq rfl).1, liveThrough_attach, edited_attach]
      exact ih h
    | retain unread =>
      have hstep := apply_retain_assignment unread a
      rw [liveThrough_retain, edited_retain]
      split_ifs at hstep with hnone
      · rw [hnone]
        simp [after, hstep, Assignment.liveThrough]
      · rw [(after_cons_of_eq hstep).1]
        exact ih hnone

/-- Every target is taken away by one of the edits or is still there. -/
lemma perm_losses (edits : List Edit) (a : Assignment) :
    ((losses edits (.assignment a)).flatten ++ a.liveThrough edits).Perm a.targets := by
  induction edits generalizing a with
  | nil => simp [losses, Assignment.liveThrough]
  | cons e edits ih =>
    cases e with
    | attach comment =>
      rw [(after_cons_of_eq rfl).2, liveThrough_attach]
      exact ih { a with comment := some comment }
    | retain unread =>
      have hsplit : (a.deadTargets unread ++ a.liveThrough [.retain unread]).Perm a.targets := by
        have hlive := List.filter_append_perm (Target.isLive unread) a.targets
        rw [liveThrough_singleton]
        exact List.perm_append_comm.trans hlive
      have hstep := apply_retain_assignment unread a
      rw [liveThrough_retain]
      split_ifs at hstep with hnone
      · rw [hnone] at hsplit ⊢
        simpa [losses, hstep, Assignment.liveThrough, Edit.dead, deadTargets] using hsplit
      · rw [(after_cons_of_eq hstep).2, List.flatten_cons, List.append_assoc]
        exact ((ih _).append_left _).trans hsplit

/-- An assignment without targets goes as soon as it is asked for them. -/
lemma after_of_targets_eq_nil {unread : List String} (h : a.targets = [])
    (hmem : .retain unread ∈ edits) : after edits (.assignment a) = none := by
  induction edits generalizing a with
  | nil => cases hmem
  | cons e edits ih =>
    cases e with
    | attach comment =>
      rw [(after_cons_of_eq rfl).1]
      exact ih h ((List.mem_cons.mp hmem).resolve_left nofun)
    | retain other => simp [after, Edit.apply, retain, h]

/-- What is live in all edits is live in each, so a repeated edit takes nothing away. -/
lemma retain_of_after {unread : List String} (hmem : .retain unread ∈ edits)
    (h : after edits s = some s') : s'.retain unread = some s' ∧ s'.deadTargets unread = [] := by
  by_cases hassignment : ∃ a, s = .assignment a
  · obtain ⟨a, rfl⟩ := hassignment
    by_cases hnone : a.targets = []
    · rw [after_of_targets_eq_nil hnone hmem] at h
      cases h
    rw [after_assignment hnone] at h
    split_ifs at h with hlost
    obtain rfl := Option.some.inj h
    have hlive : ∀ t ∈ a.liveThrough edits, t.isLive unread := by
      intro t ht
      exact List.all_eq_true.mp (List.mem_filter.mp ht).2 _ hmem
    have hkept : (a.liveThrough edits).filter (Target.isLive unread) = a.liveThrough edits :=
      List.filter_eq_self.mpr hlive
    constructor
    · simp [retain, Assignment.edited, hkept, hlost]
    · simpa [deadTargets, Assignment.deadTargets, Assignment.edited] using hlive
  · have hs : s.isFixed := by
      cases s with
      | assignment a => exact absurd ⟨a, rfl⟩ hassignment
      | _ => rfl
    have hs' := isFixed_of_after hs h
    cases s' with
    | assignment a => cases hs'
    | _ => exact ⟨rfl, rfl⟩

/-- It does not matter which of two sets of names is found to be unread first. -/
lemma after_swap (before behind : List Edit) (first second : List String) (s : Statement) :
    after (before ++ .retain first :: .retain second :: behind) s =
      after (before ++ .retain second :: .retain first :: behind) s := by
  have hswap : ∀ s, after [.retain first, .retain second] s =
      after [.retain second, .retain first] s := by
    intro s
    cases s with
    | assignment a =>
      by_cases hnone : a.targets = []
      · simp [after, Edit.apply, retain, hnone]
      · have hlive : a.liveThrough [.retain first, .retain second] =
            a.liveThrough [.retain second, .retain first] := by
          simp [Assignment.liveThrough, Bool.and_comm]
        rw [after_assignment hnone, after_assignment hnone, Assignment.edited, hlive]
        rfl
    | _ => rfl
  have hsplit : ∀ u v, before ++ Edit.retain u :: .retain v :: behind =
      (before ++ [.retain u, .retain v]) ++ behind := by simp
  rw [hsplit, hsplit, after_append, after_append, after_append, after_append]
  exact congrArg (Option.bind · _) (congrArg _ (funext hswap))

end Statement

/-! ### What edits come to -/

open Statement

/-- An assignment is, as long as it is there, what is left of its targets in all of the edits, with
its value and the last comment; it goes with the first edit in which no target that was left is
live, and does not come back. Nothing is lost twice, names that were found to be unread need not be
looked at again, and their order does not matter. All other statements stay and keep all
comments. -/
theorem after_edits (edits : List Edit) :
    (∀ a : Assignment, a.targets ≠ [] →
      (∀ s, after edits (.assignment a) = some s ↔
        a.liveThrough edits ≠ [] ∧ s = .assignment (a.edited edits)) ∧
      (∀ e, a.liveThrough edits ≠ [] →
        (after (edits ++ [e]) (.assignment a) = none ↔
          ∃ unread, e = .retain unread ∧ ∀ t ∈ a.liveThrough edits, t.isLive unread = false)) ∧
      (∀ behind, after edits (.assignment a) = none →
        after (edits ++ behind) (.assignment a) = none) ∧
      ((losses edits (.assignment a)).flatten ++ a.liveThrough edits).Perm a.targets) ∧
    (∀ s s' unread, .retain unread ∈ edits → after edits s = some s' →
      s'.retain unread = some s' ∧ s'.deadTargets unread = []) ∧
    (∀ before behind first second s,
      after (before ++ .retain first :: .retain second :: behind) s =
        after (before ++ .retain second :: .retain first :: behind) s) ∧
    (∀ d, after edits (.functionDefinition d) =
      some (.functionDefinition ⟨d.name, d.text ++ Edit.tail edits⟩)) ∧
    (∀ d, after edits (.classDefinition d) =
      some (.classDefinition ⟨d.name, d.text ++ Edit.tail edits⟩)) ∧
    (∀ text, after edits (.other text) = some (.other (text ++ Edit.tail edits))) ∧
    ∀ s, s.isFixed → (losses edits s).flatten = [] := by
  refine ⟨fun a ha => ⟨?_, ?_, ?_, perm_losses edits a⟩, fun s s' unread => retain_of_after,
    after_swap, ?_, ?_, ?_, fun s => losses_of_isFixed edits⟩
  · intro s
    rw [after_assignment ha]
    split_ifs with hlost <;> simp [hlost, eq_comm]
  · intro e hlive
    rw [after_concat, after_assignment ha, if_neg hlive, Option.bind_some]
    cases e with
    | attach comment => simp [Edit.apply]
    | retain unread =>
      rw [apply_retain_assignment, liveThrough_singleton]
      simp [Assignment.edited]
  · intro behind hgone
    rw [after_append, hgone, Option.bind_none]
  · intro d
    exact after_text (fun text => .functionDefinition ⟨d.name, text⟩)
      (fun _ _ => rfl) (fun _ _ => rfl) d.text
  · intro d
    exact after_text (fun text => .classDefinition ⟨d.name, text⟩)
      (fun _ _ => rfl) (fun _ _ => rfl) d.text
  · exact after_text .other (fun _ _ => rfl) (fun _ _ => rfl)

/-- The assignment `(a, b) = c = f()`. -/
def pairAndName : Assignment :=
  ⟨[⟨"(a, b)", .pattern ["a", "b"]⟩, ⟨"c", .name "c"⟩], "f()", none⟩

/-- A pattern outlives two edits that find one of its names unread each, and goes with a third one
that finds both unread. What the second edit repeats of the first changes nothing. -/
theorem after_edits_of_pattern :
    let edits := [.attach "# 1", .retain ["a"], .attach "# 2", .retain ["b", "c"]]
    let rest := Statement.assignment ⟨[⟨"(a, b)", .pattern ["a", "b"]⟩], "f()", some "# 2"⟩
    pairAndName.targets ≠ [] ∧ after edits (.assignment pairAndName) = some rest ∧
      rest.retain ["a"] = some rest ∧
      after (edits ++ [.retain ["a", "b"]]) (.assignment pairAndName) = none ∧
      losses (edits ++ [.retain ["a", "b"]]) (.assignment pairAndName) =
        [[], [], [], [⟨"c", .name "c"⟩], [⟨"(a, b)", .pattern ["a", "b"]⟩]] := by
  intro edits rest
  have hne : pairAndName.targets ≠ [] := by decide
  obtain ⟨hassignments, hrepeated, -⟩ := after_edits edits
  obtain ⟨hthere, hgoes, -⟩ := hassignments pairAndName hne
  have hafter : after edits (.assignment pairAndName) = some rest :=
    (hthere rest).mpr (by decide)
  refine ⟨hne, hafter, (hrepeated _ rest ["a"] (by decide) hafter).1, ?_, by decide⟩
  exact (hgoes (.retain ["a", "b"]) (by decide)).mpr ⟨["a", "b"], rfl, by decide⟩

end NotebookExport
