import NotebookExport.Proofs.FailingPrograms
import NotebookExport.Proofs.Files
import NotebookExport.Proofs.ShellSteps

/-!
# Scripts that installed programs leave alone

A program changes a script by what it writes to the scratch file, and its output goes nowhere. So a
tool that only reads files leaves every script as it is, whatever its arguments are and whether it
succeeds or not. A name for which there is no program is formatted as if no program had been asked
for.
-/

namespace NotebookExport

open Shell Text

namespace Shell

variable {α β : Type} {a b : Act α}

/-! ### Actions that change no file -/

lemma run_modify (f : Machine → Machine) (m : Machine) :
    (modify f : Act Unit).run.run m = (.ok (), f m) := rfl

/-- No output of a shell goes to a file. -/
def Machine.KeepsOutput (m : Machine) : Prop :=
  ∀ n path, m.outputs.lookup n ≠ some (.file path)

/-- An action changes no file and leaves the outputs where they go, unless one goes to a file. -/
def Spares (a : Act α) : Prop :=
  ∀ m : Machine, m.KeepsOutput →
    (a.run.run m).2.files = m.files ∧ (a.run.run m).2.outputs = m.outputs

namespace Spares

lemma pure (x : α) : Spares (Pure.pure x : Act α) := fun _ _ => ⟨rfl, rfl⟩

lemma throw (stop : Stop) : Spares (MonadExcept.throw stop : Act α) := fun _ _ => ⟨rfl, rfl⟩

lemma get : Spares (MonadState.get : Act Machine) := fun _ _ => ⟨rfl, rfl⟩

lemma modify {f : Machine → Machine} (hfiles : ∀ m, (f m).files = m.files)
    (houtputs : ∀ m, (f m).outputs = m.outputs) : Spares (modify f : Act Unit) :=
  fun m _ => ⟨hfiles m, houtputs m⟩

lemma bind {f : α → Act β} (h : Spares a) (hrest : ∀ x, Spares (f x)) : Spares (a >>= f) := by
  intro m hm
  obtain ⟨hfiles, houtputs⟩ := h m hm
  rw [Act.run_bind]
  rcases hrun : a.run.run m with ⟨result, m'⟩
  rw [hrun] at hfiles houtputs
  cases result with
  | error stop => exact ⟨hfiles, houtputs⟩
  | ok x =>
    have hm' : m'.KeepsOutput := by
      rw [Machine.KeepsOutput, houtputs]
      exact hm
    obtain ⟨hfiles', houtputs'⟩ := hrest x m' hm'
    exact ⟨hfiles'.trans hfiles, houtputs'.trans houtputs⟩

lemma ite {c : Prop} [Decidable c] (h : Spares a) (h' : Spares b) :
    Spares (if c then a else b) := by
  split
  · exact h
  · exact h'

lemma forM {f : α → Act PUnit} (h : ∀ x, Spares (f x)) (xs : List α) : Spares (xs.forM f) := by
  induction xs with
  | nil => exact .pure _
  | cons x xs ih => exact .bind (h x) fun _ => ih

lemma setStatus (status : Nat) : Spares (Act.setStatus status) :=
  .modify (fun _ => rfl) fun _ => rfl

lemma writeTo (descriptor : Nat) (octets : Octets) : Spares (Act.writeTo descriptor octets) := by
  intro m hm
  have hfile := hm descriptor
  simp only [Act.writeTo, run_modify]
  split
  · exact ⟨rfl, rfl⟩
  · next path hpath => exact absurd hpath (hfile path)
  · exact ⟨rfl, rfl⟩
  · exact ⟨rfl, rfl⟩

lemma write (octets : Octets) : Spares (Act.write octets) := .writeTo 1 octets

lemma complain (text : String) : Spares (Act.complain text) := .writeTo 2 _

lemma fail (status : Nat) (text : String) : Spares (Act.fail status text) :=
  .bind .get fun _ => .bind (.complain _) fun _ => .setStatus status

lemma takeInput : Spares Act.takeInput := fun _ _ => ⟨rfl, rfl⟩

lemma readFile (path : Octets) : Spares (Act.readFile path) := by
  refine .ite (.pure _) (.ite (.bind .takeInput fun _ => .pure _) (.bind .get fun m => ?_))
  split
  · exact .pure _
  · exact .pure _

lemma filterMapM {f : α → Act (Option β)} (h : ∀ x, Spares (f x)) (xs : List α) :
    Spares (xs.filterMapM f) := by
  induction xs with
  | nil => exact .pure _
  | cons x xs ih =>
    rw [List.filterMapM_cons]
    refine .bind (h x) fun y => ?_
    cases y with
    | none => exact ih
    | some y => exact .bind ih fun _ => .pure _

/-! ### Tools that read -/

lemma complainAs (tool text : String) : Spares (Tool.complainAs tool text) :=
  .bind (.complain _) fun _ => .setStatus 1

lemma misused (tool text : String) : Spares (Tool.misused tool text) :=
  .bind (.complainAs tool text) fun _ => .complain _

lemma aboutFile (tool : String) (operand : Octets) (fault : FileFault) :
    Spares (Tool.aboutFile tool operand fault) :=
  .complainAs tool _

lemma withLetters {use : Octets → List Octets → Act Unit} (h : ∀ letters operands,
    Spares (use letters operands)) (tool known : String) (arguments : List Octets) :
    Spares (Tool.withLetters tool known arguments use) := by
  rw [Tool.withLetters]
  refine .bind (.setStatus 0) fun _ => ?_
  split
  · exact .ite (.pure _) (.misused tool _)
  · split
    · exact .misused tool _
    · exact h _ _

lemma eachInput {complaint : Octets → FileFault → Act Unit} {use : Octets → Octets → Act Unit}
    (hcomplaint : ∀ operand fault, Spares (complaint operand fault))
    (huse : ∀ operand text, Spares (use operand text)) (operands : List Octets) :
    Spares (Tool.eachInput complaint use operands) := by
  refine .forM (fun operand => .ite (.bind .takeInput fun _ => huse _ _)
    (.bind (.readFile operand) fun text => ?_)) _
  cases text with
  | ok text => exact huse operand text
  | error fault => exact hcomplaint operand fault

lemma cat (arguments : List Octets) : Spares (Tool.cat arguments) :=
  .withLetters (fun _ operands => .eachInput (.aboutFile "cat")
    (fun _ _ => .bind .get fun _ => .ite (.complainAs "cat" _) (.write _)) operands) _ _ _

lemma tac (arguments : List Octets) : Spares (Tool.tac arguments) :=
  .withLetters (fun _ operands =>
    .eachInput (.aboutFile "tac") (fun _ _ => .write _) operands) _ _ _

lemma tr (arguments : List Octets) : Spares (Tool.tr arguments) := by
  refine .withLetters (fun letters operands => ?_) _ _ _
  have htwice (operand : Octets) (reason : String) : Spares (do
      Tool.complainAs "tr" ("missing operand after " ++ Tool.quoted operand)
      Act.complain reason
      Act.complain "Try 'tr --help' for more information.") :=
    .bind (.complainAs "tr" _) fun _ => .bind (.complain _) fun _ => .complain _
  rcases operands with _ | ⟨first, _ | ⟨second, _ | ⟨third, rest⟩⟩⟩
  · exact .misused "tr" _
  · exact .ite (htwice first _) (.ite (.bind .takeInput fun _ => .write _) (htwice first _))
  · exact .bind .takeInput fun _ => .write _
  · exact .misused "tr" _

lemma wc (arguments : List Octets) : Spares (Tool.wc arguments) := by
  refine .withLetters (fun letters operands => .bind (.filterMapM (fun operand => ?_) _) fun _ =>
    .bind (.eachInput (.aboutFile "wc") (fun _ _ => .write _) operands) fun _ =>
      .ite (.write _) (.pure _)) _ _ _
  refine .bind (.readFile operand) fun text => ?_
  cases text with
  | ok text => exact .pure _
  | error fault => exact .pure _

lemma cutting (tool : String) (sign : Char) (part : Bool → Bool → Nat → Octets → Octets)
    (arguments : List Octets) : Spares (Tool.cutting tool sign part arguments) := by
  rw [Tool.cutting]
  refine .bind (.setStatus 0) fun _ => ?_
  split
  · exact .complainAs tool _
  · exact .eachInput (fun _ _ => .ite (.complainAs tool _) (.complainAs tool _))
      (fun _ _ => .ite (.bind (.write _) fun _ => .write _) (.write _)) _

lemma uniq (arguments : List Octets) : Spares (Tool.uniq arguments) :=
  .withLetters (fun _ operands =>
    .eachInput (.aboutFile "uniq") (fun _ _ => .write _) (operands.take 1)) _ _ _

lemma chmod (arguments : List Octets) : Spares (Tool.chmod arguments) := by
  refine .bind (.setStatus 0) fun _ => ?_
  rcases arguments with _ | ⟨mode, _ | ⟨operand, operands⟩⟩
  · exact .misused "chmod" _
  · exact .misused "chmod" _
  · exact .forM (fun _ => .bind .get fun _ => .ite (.complainAs "chmod" _) (.pure _)) _

lemma sleep (arguments : List Octets) : Spares (Tool.sleep arguments) := by
  refine .bind (.setStatus 0) fun _ => ?_
  dsimp only
  cases arguments.find? _ with
  | some argument => exact .misused "sleep" _
  | none => exact .ite (.misused "sleep" _) (.pure _)

lemma basename (arguments : List Octets) : Spares (Tool.basename arguments) := by
  refine .bind (.setStatus 0) fun _ => ?_
  rcases arguments with _ | ⟨path, _ | ⟨ending, rest⟩⟩
  · exact .misused "basename" _
  · exact .write _
  · exact .write _

lemma dirname (arguments : List Octets) : Spares (Tool.dirname arguments) :=
  .bind (.setStatus 0) fun _ => .ite (.misused "dirname" _) (.forM (fun _ => .write _) _)

lemma echo (arguments : List Octets) : Spares (Tool.echo arguments) :=
  .bind (.write _) fun _ => .setStatus 0

lemma seq (arguments : List Octets) : Spares (Tool.seq arguments) := by
  refine .bind (.setStatus 0) fun _ => ?_
  split
  · exact .write _
  · exact .write _
  · exact .misused "seq" _

lemma condition (isBracket : Bool) (arguments : List Octets) :
    Spares (Tool.condition isBracket arguments) := by
  refine .bind .get fun m => ?_
  cases Condition.evaluate m.files isBracket arguments with
  | ok holds => exact .setStatus _
  | error fault => exact .fail 2 _

end Spares

end Shell

namespace Installed

/-- The names of the programs that read files and write none. -/
def readers : List String :=
  ["true", "false", "cat", "tac", "tr", "wc", "head", "tail", "uniq", "chmod", "sleep", "basename",
    "dirname", "echo", "test", "[", "seq"]

lemma exists_spares_of_mem_readers {name : String} (h : name ∈ readers) :
    ∃ tool, Tool.ofName? (Octets.ofText name) = some tool ∧
      ∀ arguments, Spares (tool arguments) := by
  simp only [readers, List.mem_cons, List.not_mem_nil, or_false] at h
  rcases h with rfl | rfl | rfl | rfl | rfl | rfl | rfl | rfl | rfl | rfl | rfl | rfl | rfl | rfl |
    rfl | rfl | rfl
  · exact ⟨_, rfl, fun _ => .setStatus 0⟩
  · exact ⟨_, rfl, fun _ => .setStatus 1⟩
  · exact ⟨_, rfl, .cat⟩
  · exact ⟨_, rfl, .tac⟩
  · exact ⟨_, rfl, .tr⟩
  · exact ⟨_, rfl, .wc⟩
  · exact ⟨_, rfl, .cutting "head" '-' _⟩
  · exact ⟨_, rfl, .cutting "tail" '+' _⟩
  · exact ⟨_, rfl, .uniq⟩
  · exact ⟨_, rfl, .chmod⟩
  · exact ⟨_, rfl, .sleep⟩
  · exact ⟨_, rfl, .basename⟩
  · exact ⟨_, rfl, .dirname⟩
  · exact ⟨_, rfl, .echo⟩
  · exact ⟨_, rfl, .condition false⟩
  · exact ⟨_, rfl, .condition true⟩
  · exact ⟨_, rfl, .seq⟩

/-! ### Runs -/

lemma canWrite_scratchPath : systemFiles.CanWrite scratchPath := by
  have hfault : systemFiles.pathFault scratchPath = none := by decide +kernel
  obtain ⟨hpath, hne, hleads⟩ := FileSystem.pathFault_eq_none_iff.mp hfault
  exact ⟨hpath, hne, hleads, by decide +kernel, by decide +kernel⟩

/-- The scratch file can be written, so that a program runs and comes to an end. -/
lemma exists_run_eq_ended (name : String) (args : List String) (source : String) :
    ∃ ending errors file, run name args source = .ended ending errors file := by
  obtain ⟨files, hwrite⟩ := FileSystem.exists_writeText canWrite_scratchPath source
  rw [run, hwrite]
  exact ⟨_, _, _, rfl⟩

lemma keepsOutput_start (name : Octets) (files : FileSystem) :
    Machine.KeepsOutput { name := name, files := files } := by
  intro n path hlookup
  obtain ⟨before, behind, houtputs, -⟩ := List.lookup_eq_some_iff.mp hlookup
  have hmem : (n, Sink.file path) ∈ before ++ (n, Sink.file path) :: behind := by simp
  rw [← houtputs] at hmem
  simp at hmem

lemma isInstalled_of_mem_readers : ∀ name ∈ readers, isShell name = false ∧
    isInstalled name = true ∧ '/' ∉ name.toList ∧ '\x00' ∉ name.toList ∧
    name.utf8ByteSize ≤ FileSystem.maxNameLength := by
  decide +kernel

lemma run_of_mem_readers {name : String} (h : name ∈ readers) (args : List String)
    (source : String) :
    ∃ ending errors, run name args source = .ended ending errors (.ok (Utf8.encode source)) := by
  obtain ⟨tool, htool, hspares⟩ := exists_spares_of_mem_readers h
  obtain ⟨files, hwrite⟩ := FileSystem.exists_writeText canWrite_scratchPath source
  obtain ⟨hshell, -⟩ := isInstalled_of_mem_readers name h
  rw [run, hwrite]
  simp only [hshell, Bool.false_eq_true, if_false, htool]
  obtain ⟨hfiles, -⟩ := hspares ((args ++ [scratchPath]).map Octets.ofText)
    { name := Octets.ofText name, files := files } (keepsOutput_start _ _)
  rcases hrun : (tool _).run.run _ with ⟨result, m⟩
  rw [hrun] at hfiles
  dsimp only at hfiles ⊢
  rw [hfiles, FileSystem.read_of_write hwrite]
  exact ⟨_, _, rfl⟩

/-! ### Formatting -/

lemma startAt_eq_notFound_iff {path : String} {args : List String} {source : String} :
    startAt path args source = .notFound ↔ systemFiles.IsMissing path := by
  rw [← FileSystem.read_eq_notFound_iff, startAt]
  cases systemFiles.read path with
  | error fault => cases fault <;> simp
  | ok bytes =>
    cases toolAtPath? (Octets.ofText path) with
    | none => simp
    | some name =>
      obtain ⟨ending, errors, file, hrun⟩ := exists_run_eq_ended (Octets.toText name) args source
      simp [hrun]

/-- No program is found exactly if there is none: nothing stands at its path, or its name, which is
no path, belongs to none. -/
theorem programs_eq_notFound_iff {command : Invocation} {source : String} :
    programs command source = .notFound ↔
      (∀ text ∈ command.program :: command.args, '\x00' ∉ text.toList) ∧
        if '/' ∈ command.program.toList then systemFiles.IsMissing command.program
        else command.program.utf8ByteSize ≤ FileSystem.maxNameLength ∧
          isInstalled command.program = false := by
  have hnul : (command.program :: command.args).any (fun text => text.toList.contains '\x00') =
      true ↔ ¬ ∀ text ∈ command.program :: command.args, '\x00' ∉ text.toList := by
    simp only [List.any_eq_true, List.contains_iff_mem, not_forall, not_not, exists_prop]
  rw [programs]
  simp only [hnul, List.contains_iff_mem]
  by_cases hnone : ∀ text ∈ command.program :: command.args, '\x00' ∉ text.toList
  · rw [if_neg (not_not.mpr hnone), and_iff_right hnone]
    split_ifs with hpath hlong hthere
    · exact startAt_eq_notFound_iff
    · simp [Nat.not_le.mpr hlong]
    · obtain ⟨ending, errors, file, hrun⟩ := exists_run_eq_ended command.program command.args source
      simp [hrun, hthere]
    · simpa [hthere] using hlong
  · rw [if_pos hnone]
    simp only [hnone, false_and, reduceCtorEq]

/-- Such a name is formatted as if no program had been asked for. -/
theorem formatByProgram_eq_addBlankLines_iff_missing {command : Invocation} {markers : List String}
    {source : String} :
    formatByProgram programs command markers source = addBlankLines markers source ↔
      (∀ text ∈ command.program :: command.args, '\x00' ∉ text.toList) ∧
        if '/' ∈ command.program.toList then systemFiles.IsMissing command.program
        else command.program.utf8ByteSize ≤ FileSystem.maxNameLength ∧
          isInstalled command.program = false :=
  formatByProgram_eq_addBlankLines_iff.trans programs_eq_notFound_iff

/-- If there is a program that leaves no other text, then the script stays as it is, whether the
program fails or not. -/
lemma code_eq_of_leaves {programs : Programs} {command : Invocation} {markers : List String}
    {source : String} (hthere : programs command source ≠ .notFound)
    (h : ∀ text, (programs command source).Leaves text → text = source) :
    (formatByProgram programs command markers source).code = source := by
  by_cases hleaves : ∃ text, (programs command source).Leaves text
  · obtain ⟨text, hleaves⟩ := hleaves
    rw [formatByProgram_eq_formatted_iff.mpr hleaves]
    exact h text hleaves
  · obtain ⟨reason, hfailed⟩ := exists_formatByProgram_eq_failed_iff.mpr ⟨hthere, hleaves⟩
    rw [hfailed]

/-- A program that writes no file leaves every script as it is, whatever is asked of it. -/
theorem code_of_reader {name : String} (h : name ∈ readers) (args markers : List String)
    (source : String) : (formatByProgram programs ⟨name, args⟩ markers source).code = source := by
  obtain ⟨-, hthere, hplain, -, hsize⟩ := isInstalled_of_mem_readers name h
  obtain ⟨ending, errors, hrun⟩ := run_of_mem_readers h args source
  have hprograms : programs ⟨name, args⟩ source = .notStarted .holdsNul ∨
      programs ⟨name, args⟩ source = run name args source := by
    rw [programs]
    simp only [List.contains_iff_mem, hplain, Nat.not_lt.mpr hsize, hthere, if_false, if_true]
    split_ifs
    · exact .inl rfl
    · exact .inr rfl
  rcases hprograms with hprograms | hprograms
  · exact code_eq_of_leaves (by simp [hprograms]) (by simp [hprograms, ProgramRun.Leaves])
  · refine code_eq_of_leaves (by simp [hprograms, hrun]) ?_
    rintro text ⟨left, hleft⟩
    rw [hprograms, hrun, ProgramRun.ended.injEq, Except.ok.injEq] at hleft
    obtain ⟨-, -, hencode⟩ := hleft
    exact Option.some.inj
      ((Utf8.decode?_eq_some_iff.mpr hencode).symm.trans (Utf8.decode?_eq_some_iff.mpr rfl))

end Installed

end NotebookExport
