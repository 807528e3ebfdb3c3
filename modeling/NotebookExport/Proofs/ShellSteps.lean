import Mathlib.Data.List.Basic
import NotebookExport.Formatting.Installed

/-!
# Steps of the shell

A run of the shell has only so many steps. More of them change nothing for a run that comes to its
end with fewer: they are a bound on runs and no part of what a script means.
-/

namespace NotebookExport.Shell

variable {α β : Type} {a a' b : Act α}

/-! ### Actions that are cut short -/

namespace Act

lemma run_bind (a : Act α) (f : α → Act β) (m : Machine) :
    (a >>= f).run.run m =
      match a.run.run m with
      | (.ok x, m') => (f x).run.run m'
      | (.error stop, m') => (.error stop, m') := by
  simp only [ExceptT.run_bind, StateT.run_bind]
  rcases a.run.run m with ⟨result, m'⟩
  cases result <;> rfl

lemma run_tryCatch (a : Act α) (f : Stop → Act α) (m : Machine) :
    (tryCatch a f).run.run m =
      match a.run.run m with
      | (.ok x, m') => (.ok x, m')
      | (.error stop, m') => (f stop).run.run m' := by
  simp only [ExceptT.run_tryCatch, StateT.run_bind]
  rcases a.run.run m with ⟨result, m'⟩
  cases result <;> rfl

end Act

/-- One action is another one, cut short where its steps are used up. -/
def IsCut (a b : Act α) : Prop :=
  ∀ m, (a.run.run m).1 = .error .exhausted ∨ a.run.run m = b.run.run m

namespace IsCut

lemma refl (a : Act α) : IsCut a a := fun _ => .inr rfl

lemma trans (h : IsCut a a') (h' : IsCut a' b) : IsCut a b := by
  intro m
  rcases h m with h | h
  · exact .inl h
  · rw [h]
    exact h' m

lemma exhausted (b : Act α) : IsCut (throw .exhausted) b := fun _ => .inl rfl

lemma bind {f g : α → Act β} (h : IsCut a b) (hrest : ∀ x, IsCut (f x) (g x)) :
    IsCut (a >>= f) (b >>= g) := by
  intro m
  rw [Act.run_bind, Act.run_bind]
  rcases h m with h | h
  · rcases hrun : a.run.run m with ⟨result, m'⟩
    obtain rfl : result = .error .exhausted := by rw [← h, hrun]
    exact .inl rfl
  · rw [← h]
    rcases a.run.run m with ⟨result, m'⟩
    cases result with
    | ok x => exact hrest x m'
    | error stop => exact .inr rfl

/-- What is caught is handled as before, but for the end of the steps, which no handler hides. -/
lemma tryCatch {f g : Stop → Act α} (h : IsCut a b) (hcatch : ∀ stop, IsCut (f stop) (g stop))
    (hstop : ∀ m, ((f .exhausted).run.run m).1 = .error .exhausted) :
    IsCut (tryCatch a f) (tryCatch b g) := by
  intro m
  rw [Act.run_tryCatch, Act.run_tryCatch]
  rcases h m with h | h
  · rcases hrun : a.run.run m with ⟨result, m'⟩
    obtain rfl : result = .error .exhausted := by rw [← h, hrun]
    exact .inl (hstop m')
  · rw [← h]
    rcases a.run.run m with ⟨result, m'⟩
    cases result with
    | ok x => exact .inr rfl
    | error stop => exact hcatch stop m'

lemma ite {c : Prop} [Decidable c] {a b a' b' : Act α} (h : IsCut a b) (h' : IsCut a' b') :
    IsCut (if c then a else a') (if c then b else b') := by
  split_ifs
  · exact h
  · exact h'

lemma mapM {f g : α → Act β} (h : ∀ x, IsCut (f x) (g x)) (xs : List α) :
    IsCut (xs.mapM f) (xs.mapM g) := by
  induction xs with
  | nil => exact .refl _
  | cons x xs ih =>
    rw [List.mapM_cons, List.mapM_cons]
    exact .bind (h x) fun _ => .bind ih fun _ => .refl _

lemma forM {f g : α → Act PUnit} (h : ∀ x, IsCut (f x) (g x)) (xs : List α) :
    IsCut (xs.forM f) (xs.forM g) := by
  induction xs with
  | nil => exact .refl _
  | cons x xs ih => exact .bind (h x) fun _ => ih

lemma anyM {f g : α → Act Bool} (h : ∀ x, IsCut (f x) (g x)) (xs : List α) :
    IsCut (xs.anyM f) (xs.anyM g) := by
  induction xs with
  | nil => exact .refl _
  | cons x xs ih =>
    rw [List.anyM, List.anyM]
    refine .bind (h x) fun found => ?_
    cases found with
    | true => exact .refl _
    | false => exact ih

variable {act act' : Act Unit}

lemma runRound (h : IsCut act act') : IsCut (runRound act) (runRound act') :=
  .bind (.tryCatch (.bind h fun _ => .refl _) (fun _ => .refl _) fun _ => rfl) fun _ => .refl _

lemma runEach {f g : α → Act Unit} (h : ∀ x, IsCut (f x) (g x)) (xs : List α) :
    IsCut (runEach f xs) (runEach g xs) := by
  induction xs with
  | nil => exact .refl _
  | cons x xs ih =>
    rw [Shell.runEach, Shell.runEach]
    exact .bind (.runRound (h x)) fun _ => .ite ih (.refl _)

lemma asCondition (h : IsCut act act') : IsCut (asCondition act) (asCondition act') :=
  .bind (.refl _) fun _ => .bind (.refl _) fun _ => .bind h fun _ => .refl _

lemma asProcess (h : IsCut act act') : IsCut (asProcess act) (asProcess act') :=
  .bind (.refl _) fun _ => .tryCatch h (fun _ => .refl _) fun _ => rfl

lemma apart (h : IsCut act act') : IsCut (Act.apart act) (Act.apart act') :=
  .bind (.refl _) fun _ => .bind (.tryCatch h (fun _ => .refl _) fun _ => rfl) fun _ => .refl _

lemma capture (h : IsCut act act') : IsCut (Act.capture act) (Act.capture act') :=
  .bind (.refl _) fun _ => .bind (.refl _) fun _ => .bind h fun _ => .refl _

lemma startShell {run run' : Input → Act Unit} (h : ∀ i, IsCut (run i) (run' i))
    (letters name : Octets) (arguments : List Octets) (script : Octets) :
    IsCut (startShell letters run name arguments script)
      (startShell letters run' name arguments script) := by
  refine .bind (.refl _) fun _ => .ite (.bind ?_ fun _ => .bind (.refl _) fun m => ?_)
    (.bind (.refl _) fun m => ?_)
  · exact .tryCatch (h _) (fun _ => .refl _) fun _ => rfl
  -- what is left to do at the end, with the script or without
  all_goals
    cases m.traps.lookup 0 with
    | none => exact .refl _
    | some last => exact .bind (h _) fun _ => .refl _

end IsCut

/-! ### One step more -/

/-- With so many steps, words and commands do what they do with one more, up to where the steps are
used up. -/
structure IsCutAt (n : Nat) : Prop where
  expand (word : Word) : IsCut (expand n word) (expand (n + 1) word)
  expandPiece (piece : Piece) : IsCut (expandPiece n piece) (expandPiece (n + 1) piece)
  expandAll (words : List Word) : IsCut (expandAll n words) (expandAll (n + 1) words)
  expandOne (word : Word) : IsCut (expandOne n word) (expandOne (n + 1) word)
  redirect (r : Redirection) : IsCut (redirect n r) (redirect (n + 1) r)
  redirectAll (rs : List Redirection) : IsCut (redirectAll n rs) (redirectAll (n + 1) rs)
  withRedirections (rs : List Redirection) (onFault : Act Unit) {act act' : Act Unit}
    (h : IsCut act act') :
    IsCut (withRedirections n rs onFault act) (withRedirections (n + 1) rs onFault act')
  call (name : Octets) (arguments : List Octets) :
    IsCut (call n name arguments) (call (n + 1) name arguments)
  runTrap : IsCut (runTrap n) (runTrap (n + 1))
  run (command : Command) : IsCut (run n command) (run (n + 1) command)
  runParts (commands : List Command) : IsCut (runParts n commands) (runParts (n + 1) commands)
  runLoop (isUntil : Bool) (condition body : Command) (status : Nat) :
    IsCut (runLoop n isUntil condition body status) (runLoop (n + 1) isUntil condition body status)
  runArms (text : Octets) (arms : List (List Word × Command)) :
    IsCut (runArms n text arms) (runArms (n + 1) text arms)
  runScript (i : Input) : IsCut (runScript n i) (runScript (n + 1) i)
  runShell (arguments : List Octets) : IsCut (runShell n arguments) (runShell (n + 1) arguments)

namespace IsCutAt

variable {n : Nat}

lemma next_expand (h : IsCutAt n) (word : Word) :
    IsCut (Shell.expand (n + 1) word) (Shell.expand (n + 2) word) := by
  rw [Shell.expand, Shell.expand]
  exact .bind (.mapM h.expandPiece _) fun _ => .refl _

lemma next_expandPiece (h : IsCutAt n) (piece : Piece) :
    IsCut (Shell.expandPiece (n + 1) piece) (Shell.expandPiece (n + 2) piece) := by
  cases piece with
  | text isQuoted octets => cases isQuoted <;> exact .refl _
  | output isQuoted script =>
    rw [Shell.expandPiece, Shell.expandPiece]
    exact .bind (.refl _) fun _ => .bind (.refl _) fun _ =>
      .bind (.capture (.apart (h.runScript _))) fun _ => .refl _
  | arithmetic isQuoted word =>
    rw [Shell.expandPiece, Shell.expandPiece]
    exact .bind (h.expand word) fun _ => .refl _
  | parameter isQuoted name form =>
    rw [Shell.expandPiece, Shell.expandPiece]
    refine .bind (.refl _) fun m => ?_
    cases form with
    | value => exact .refl _
    | length => exact .refl _
    | without atEnd isLongest pattern => exact .bind (h.expand pattern) fun _ => .refl _
    | instead action alsoIfEmpty word =>
      cases action with
      | take => exact .ite (h.expand word) (.refl _)
      | alternative => exact .ite (.refl _) (h.expand word)
      | assign => exact .ite (.bind (h.expand word) fun _ => .refl _) (.refl _)
      | refuse => exact .ite (.bind (h.expand word) fun _ => .refl _) (.refl _)

lemma next_expandAll (h : IsCutAt n) (words : List Word) :
    IsCut (Shell.expandAll (n + 1) words) (Shell.expandAll (n + 2) words) := by
  rw [Shell.expandAll, Shell.expandAll]
  exact .bind (.mapM (fun word => .bind (h.expand word) fun _ => .refl _) _) fun _ => .refl _

lemma next_expandOne (h : IsCutAt n) (word : Word) :
    IsCut (Shell.expandOne (n + 1) word) (Shell.expandOne (n + 2) word) := by
  rw [Shell.expandOne, Shell.expandOne]
  exact .bind (h.expand word) fun _ => .refl _

lemma next_redirect (h : IsCutAt n) (r : Redirection) :
    IsCut (Shell.redirect (n + 1) r) (Shell.redirect (n + 2) r) := by
  rw [Shell.redirect, Shell.redirect]
  exact .bind (h.expandOne _) fun _ => .refl _

lemma next_redirectAll (h : IsCutAt n) (rs : List Redirection) :
    IsCut (Shell.redirectAll (n + 1) rs) (Shell.redirectAll (n + 2) rs) := by
  cases rs with
  | nil => exact .refl _
  | cons r rs =>
    rw [Shell.redirectAll, Shell.redirectAll]
    exact .bind (h.redirect r) fun _ => .ite (h.redirectAll rs) (.refl _)

lemma next_withRedirections (h : IsCutAt n) (rs : List Redirection) (onFault : Act Unit)
    {act act' : Act Unit} (hact : IsCut act act') :
    IsCut (Shell.withRedirections (n + 1) rs onFault act)
      (Shell.withRedirections (n + 2) rs onFault act') := by
  rw [Shell.withRedirections, Shell.withRedirections]
  exact .bind (.refl _) fun _ => .bind (h.redirectAll rs) fun _ =>
    .ite (.bind (.tryCatch hact (fun _ => .refl _) fun _ => rfl) fun _ => .refl _) (.refl _)

lemma next_runTrap (h : IsCutAt n) : IsCut (Shell.runTrap (n + 1)) (Shell.runTrap (n + 2)) := by
  rw [Shell.runTrap, Shell.runTrap]
  refine .bind (.refl _) fun m => ?_
  cases m.pendingTrap with
  | none => exact .refl _
  | some script => exact .bind (.refl _) fun _ => .bind (h.runScript _) fun _ => .refl _

lemma next_runParts (h : IsCutAt n) (commands : List Command) :
    IsCut (Shell.runParts (n + 1) commands) (Shell.runParts (n + 2) commands) := by
  rcases commands with _ | ⟨command, _ | ⟨next, rest⟩⟩
  · exact .refl _
  · rw [Shell.runParts, Shell.runParts]
    exact .apart (h.run command)
  · rw [Shell.runParts, Shell.runParts]
    · exact .bind (.capture (.apart (h.run command))) fun _ => .bind (.refl _) fun _ =>
        h.runParts _
    all_goals exact nofun

lemma next_runLoop (h : IsCutAt n) (isUntil : Bool) (condition body : Command) (status : Nat) :
    IsCut (Shell.runLoop (n + 1) isUntil condition body status)
      (Shell.runLoop (n + 2) isUntil condition body status) := by
  rw [Shell.runLoop, Shell.runLoop]
  exact .bind (.asCondition (h.run condition)) fun _ => .bind (.refl _) fun _ =>
    .ite (.bind (.runRound (h.run body)) fun _ =>
      .ite (.bind (.refl _) fun _ => h.runLoop _ _ _ _) (.refl _)) (.refl _)

lemma next_runArms (h : IsCutAt n) (text : Octets) (arms : List (List Word × Command)) :
    IsCut (Shell.runArms (n + 1) text arms) (Shell.runArms (n + 2) text arms) := by
  rcases arms with _ | ⟨⟨patterns, body⟩, rest⟩
  · exact .refl _
  · rw [Shell.runArms, Shell.runArms]
    exact .bind (.anyM (fun pattern => .bind (h.expand pattern) fun _ => .refl _) _) fun _ =>
      .ite (h.run body) (h.runArms text rest)

lemma next_runScript (h : IsCutAt n) (i : Input) :
    IsCut (Shell.runScript (n + 1) i) (Shell.runScript (n + 2) i) := by
  rw [Shell.runScript, Shell.runScript]
  split
  · exact .refl _
  · exact .bind (h.run _) fun _ => h.runScript _
  · exact .refl _

lemma forM_assign (h : IsCutAt n) (assignments : List (Octets × Word)) :
    IsCut
      (assignments.forM fun p =>
        Shell.expandOne n p.2 >>= fun value => modify fun m => m.assign p.1 value)
      (assignments.forM fun p =>
        Shell.expandOne (n + 1) p.2 >>= fun value => modify fun m => m.assign p.1 value) :=
  .forM (fun p => .bind (h.expandOne p.2) fun _ => .refl _) assignments

lemma next_simple (h : IsCutAt n) (line : Nat) (assignments : List (Octets × Word))
    (words : List Word) (redirections : List Redirection) :
    IsCut (Shell.run (n + 1) (.simple line assignments words redirections))
      (Shell.run (n + 2) (.simple line assignments words redirections)) := by
  rw [Shell.run, Shell.run]
  have hassign := h.forM_assign assignments
  refine .bind (.refl _) fun _ => .bind (h.expandAll words) fun fields => ?_
  cases fields with
  | nil =>
    exact .bind (h.withRedirections redirections _ (.bind hassign fun _ => .refl _)) fun _ =>
      .refl _
  | cons name arguments =>
    have hend : IsCut (do Shell.runTrap n; stopOnFailure)
        (do Shell.runTrap (n + 1); stopOnFailure) := .bind h.runTrap fun _ => .refl _
    refine .bind (.refl _) fun _ => .ite (.bind (.refl _) fun _ => ?_) ?_
    all_goals
      refine .ite (.bind hassign fun _ => .bind (h.redirectAll _) fun _ =>
        .ite (.bind (.refl _) fun _ => hend) (.bind (.refl _) fun _ => hend)) (.ite ?_ ?_)
      · exact .bind (h.withRedirections _ _ (.bind hassign fun _ => h.call name arguments))
          fun _ => hend
      · exact .bind (h.withRedirections _ _ (.ite (h.call name arguments)
          (.bind (.refl _) fun _ => .bind hassign fun _ => .bind (h.call name arguments)
            fun _ => .refl _))) fun _ => hend

lemma next_call (h : IsCutAt n) (name : Octets) (arguments : List Octets) :
    IsCut (Shell.call (n + 1) name arguments) (Shell.call (n + 2) name arguments) := by
  rw [Shell.call.eq_def (n + 1), Shell.call.eq_def (n + 2)]
  refine .bind (.refl _) fun m => ?_
  split
  · exact .bind (.refl _) fun _ => .bind (.tryCatch (h.run _) (fun _ => .refl _) fun _ => rfl)
      fun _ => .refl _
  · exact .refl _
  · -- by the name: `eval`, `command`, `env`, `type`, `exec`, `sh`, `dash`, `.`, and a path
    split
    · exact .bind (.refl _) fun _ => .bind (h.runScript _) fun _ => .refl _
    · split
      · exact .refl _
      · exact .refl _
      · exact h.call _ _
    · split
      · exact .refl _
      · exact .refl _
      · exact h.call _ _
    · exact .refl _
    · split
      · exact .refl _
      · exact .ite (.bind (.refl _) fun _ => .refl _) (.bind (h.call _ _) fun _ => .refl _)
    · exact .asProcess (.apart (h.runShell arguments))
    · exact .asProcess (.apart (h.runShell arguments))
    · split
      · exact .refl _
      · refine .bind (.refl _) fun text => ?_
        cases text with
        | ok text => exact h.runScript _
        | error fault => exact .refl _
    · split
      · exact .ite (h.call _ _) (.refl _)
      · exact .refl _

lemma next_run (h : IsCutAt n) (command : Command) :
    IsCut (Shell.run (n + 1) command) (Shell.run (n + 2) command) := by
  cases command with
  | simple line assignments words redirections => exact h.next_simple line assignments words _
  | pipeline isNegated parts =>
    rcases parts with _ | ⟨command, _ | ⟨next, rest⟩⟩
    · rw [Shell.run, Shell.run]
      · exact .ite (.bind (.asCondition (.apart (h.runParts _))) fun _ => .refl _)
          (.bind (.apart (h.runParts _)) fun _ => .refl _)
      all_goals exact nofun
    · rw [Shell.run, Shell.run]
      exact .ite (.bind (.asCondition (h.run command)) fun _ => .refl _)
        (.bind (h.run command) fun _ => .refl _)
    · rw [Shell.run, Shell.run]
      · exact .ite (.bind (.asCondition (.apart (h.runParts _))) fun _ => .refl _)
          (.bind (.apart (h.runParts _)) fun _ => .refl _)
      all_goals exact nofun
  | both left right =>
    rw [Shell.run, Shell.run]
    exact .bind (.asCondition (h.run left)) fun _ => .bind (.refl _) fun _ =>
      .ite (h.run right) (.refl _)
  | either left right =>
    rw [Shell.run, Shell.run]
    exact .bind (.asCondition (h.run left)) fun _ => .bind (.refl _) fun _ =>
      .ite (h.run right) (.refl _)
  | sequence commands =>
    rw [Shell.run, Shell.run]
    exact .forM h.run commands
  | subshell body =>
    rw [Shell.run, Shell.run]
    exact .bind (.apart (h.run body)) fun _ => .refl _
  | redirected body redirections =>
    rw [Shell.run, Shell.run]
    exact h.withRedirections redirections _ (h.run body)
  | branch condition yes no =>
    rw [Shell.run, Shell.run]
    exact .bind (.asCondition (h.run condition)) fun _ => .bind (.refl _) fun _ =>
      .ite (h.run yes) (.bind (.refl _) fun _ => h.run no)
  | loop isUntil condition body =>
    rw [Shell.run, Shell.run]
    exact h.runLoop isUntil condition body 0
  | each name words body =>
    rw [Shell.run, Shell.run]
    exact .bind (h.expandAll words) fun _ => .bind (.refl _) fun _ =>
      .runEach (fun _ => .bind (.refl _) fun _ => h.run body) _
  | cases subject arms =>
    rw [Shell.run, Shell.run]
    exact .bind (h.expandOne subject) fun _ => .bind (.refl _) fun _ => h.runArms _ arms
  | define name body => exact .refl _

lemma next_runShell (h : IsCutAt n) (arguments : List Octets) :
    IsCut (Shell.runShell (n + 1) arguments) (Shell.runShell (n + 2) arguments) := by
  rw [Shell.runShell, Shell.runShell]
  rcases startOptions arguments with ⟨letters, operands⟩
  have hstart := IsCut.startShell h.runScript letters
  dsimp only
  cases letters.find? _ with
  | some c => exact .refl _
  | none =>
    cases operands with
    | nil => exact .ite (.refl _) (.bind (.refl _) fun _ => hstart _ _ _)
    | cons first rest =>
      refine .ite (hstart _ _ _) (.ite (.bind (.refl _) fun _ => hstart _ _ _)
        (.bind (.refl _) fun text => ?_))
      cases text with
      | ok script => exact hstart _ _ _
      | error fault => cases fault <;> exact .refl _

end IsCutAt

/-- One step more, for words and commands of every form. -/
theorem isCutAt (n : Nat) : IsCutAt n := by
  induction n with
  | zero =>
    constructor
    all_goals intros; exact .exhausted _
  | succ n ih =>
    exact {
      expand := ih.next_expand
      expandPiece := ih.next_expandPiece
      expandAll := ih.next_expandAll
      expandOne := ih.next_expandOne
      redirect := ih.next_redirect
      redirectAll := ih.next_redirectAll
      withRedirections := ih.next_withRedirections
      call := ih.next_call
      runTrap := ih.next_runTrap
      run := ih.next_run
      runParts := ih.next_runParts
      runLoop := ih.next_runLoop
      runArms := ih.next_runArms
      runScript := ih.next_runScript
      runShell := ih.next_runShell }

/-- With fewer steps a shell does what it does with more, up to where they are used up. -/
lemma runShell_isCut {n k : Nat} (hle : n ≤ k) (arguments : List Octets) :
    IsCut (runShell n arguments) (runShell k arguments) := by
  induction hle with
  | refl => exact .refl _
  | @step k _ ih => exact ih.trans ((isCutAt k).runShell arguments)

/-- A shell that comes to its end does the same with more steps. -/
theorem runShell_eq_of_le {n k : Nat} (hle : n ≤ k) {arguments : List Octets} {m : Machine}
    (hend : ((runShell n arguments).run.run m).1 ≠ .error .exhausted) :
    (runShell k arguments).run.run m = (runShell n arguments).run.run m :=
  ((runShell_isCut hle arguments m).resolve_left hend).symm

end NotebookExport.Shell
