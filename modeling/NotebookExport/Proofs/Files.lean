import Mathlib.Data.List.Basic
import NotebookExport.Storage

/-!
# Following paths

A path leads through directories, step by step. A path at which nothing is found is one that leads
through directories up to a place where nothing stands; one that leads through a file, or takes a
step whose name is too long, is refused for another reason. What is written at a path is read there
again, and it is the only thing that changes: the way to a file leads through directories, so it
does not pass the file itself.
-/

namespace NotebookExport

namespace FileSystem

variable {files after : FileSystem} {here there place : FilePath} {step path : String}
  {steps : List String} {entry : Option FileEntry} {bytes : List UInt8}

@[simp]
lemma get_nil (files : FileSystem) : files.get [] = some .directory := rfl

lemma get_set_self (h : place ≠ []) : (files.set place entry).get place = entry := by
  simp [get, set, h]

lemma get_set_of_ne (h : there ≠ place) : (files.set place entry).get there = files.get there := by
  simp [get, set, h]

/-! ### Steps -/

/-- Steps that lead from one place to another, each of them taken in a directory. -/
inductive Leads (files : FileSystem) : FilePath → List String → FilePath → Prop
  | here (here : FilePath) : Leads files here [] here
  | step {here there : FilePath} {step : String} {steps : List String}
      (hhere : files.get here = some .directory) (hname : step.utf8ByteSize ≤ maxNameLength)
      (hrest : Leads files (here.enter step) steps there) : Leads files here (step :: steps) there

/-- Steps that lead up to a place where nothing stands, with or without more steps behind it. -/
def LeadsNowhere (files : FileSystem) (here : FilePath) (steps : List String) : Prop :=
  ∃ before behind there,
    steps = before ++ behind ∧ files.Leads here before there ∧ files.get there = none

lemma leads_nil_iff : files.Leads here [] there ↔ there = here := by
  constructor
  · rintro ⟨⟩
    rfl
  · rintro rfl
    exact .here there

lemma leads_cons_iff : files.Leads here (step :: steps) there ↔
    files.get here = some .directory ∧ step.utf8ByteSize ≤ maxNameLength ∧
      files.Leads (here.enter step) steps there := by
  constructor
  · rintro (_ | ⟨hhere, hname, hrest⟩)
    exact ⟨hhere, hname, hrest⟩
  · rintro ⟨hhere, hname, hrest⟩
    exact .step hhere hname hrest

lemma leadsNowhere_nil_iff : files.LeadsNowhere here [] ↔ files.get here = none := by
  constructor
  · rintro ⟨before, behind, there, hsteps, hleads, hnone⟩
    obtain ⟨rfl, -⟩ := List.nil_eq_append_iff.mp hsteps
    obtain rfl := leads_nil_iff.mp hleads
    exact hnone
  · exact fun hnone => ⟨[], [], here, rfl, .here here, hnone⟩

lemma leadsNowhere_cons_iff : files.LeadsNowhere here (step :: steps) ↔
    files.get here = none ∨ files.get here = some .directory ∧
      step.utf8ByteSize ≤ maxNameLength ∧ files.LeadsNowhere (here.enter step) steps := by
  constructor
  · rintro ⟨before, behind, there, hsteps, hleads, hnone⟩
    cases hleads with
    | here => exact .inl hnone
    | step hhere hname hrest =>
      obtain ⟨rfl, rfl⟩ := List.cons_eq_cons.mp hsteps
      exact .inr ⟨hhere, hname, _, behind, there, rfl, hrest, hnone⟩
  · rintro (hnone | ⟨hhere, hname, before, behind, there, rfl, hrest, hnone⟩)
    · exact ⟨[], step :: steps, here, rfl, .here here, hnone⟩
    · exact ⟨step :: before, behind, there, rfl, .step hhere hname hrest, hnone⟩

lemma enterFault_eq_none_iff :
    files.enterFault here steps = none ↔ files.Leads here steps (steps.foldl .enter here) := by
  induction steps generalizing here with
  | nil => simp [enterFault, leads_nil_iff]
  | cons step steps ih =>
    rw [enterFault, List.foldl_cons, leads_cons_iff, ← ih, ← Nat.not_lt]
    rcases files.get here with _ | ⟨bytes⟩ | _
    · simp
    · simp
    · by_cases hname : maxNameLength < step.utf8ByteSize <;> simp [hname]

lemma leadsNowhere_iff : files.LeadsNowhere here steps ↔
    files.enterFault here steps = some .notFound ∨
      files.enterFault here steps = none ∧ files.get (steps.foldl .enter here) = none := by
  induction steps generalizing here with
  | nil => simp [enterFault, leadsNowhere_nil_iff]
  | cons step steps ih =>
    rw [enterFault, List.foldl_cons, leadsNowhere_cons_iff, ih, ← Nat.not_lt]
    rcases files.get here with _ | ⟨bytes⟩ | _
    · simp
    · simp
    · by_cases hname : maxNameLength < step.utf8ByteSize <;> simp [hname]

/-- Something else at a place that is no directory does not stand in the way. -/
lemma Leads.set (h : files.Leads here steps there) (hplace : files.get place ≠ some .directory)
    (entry : Option FileEntry) : (files.set place entry).Leads here steps there := by
  induction h with
  | here here => exact .here here
  | step hhere hname _ ih =>
    refine .step ?_ hname ih
    rwa [get_set_of_ne (by rintro rfl; exact hplace hhere)]

/-! ### Paths -/

/-- Whether the system looks anything up at a path. -/
def IsPath (path : String) : Prop :=
  '\x00' ∉ path.toList ∧ path.utf8ByteSize ≤ maxPathLength

/-- Nothing is found at a path: there is no path, or it leads up to a place where nothing stands. -/
def IsMissing (files : FileSystem) (path : String) : Prop :=
  IsPath path ∧ (path = "" ∨ files.LeadsNowhere [] (FilePath.steps path))

/-- A file can be written at a path: it leads to a place where no directory stands, and does not
ask for one. -/
def CanWrite (files : FileSystem) (path : String) : Prop :=
  IsPath path ∧ path ≠ "" ∧ files.Leads [] (FilePath.steps path) (FilePath.ofText path) ∧
    files.get (FilePath.ofText path) ≠ some .directory ∧ FilePath.wantsDirectory path = false

lemma pathFault_eq_none_iff : files.pathFault path = none ↔
    IsPath path ∧ path ≠ "" ∧ files.Leads [] (FilePath.steps path) (FilePath.ofText path) := by
  rw [FilePath.ofText, ← enterFault_eq_none_iff, pathFault, IsPath, ← Nat.not_lt]
  split_ifs <;> simp_all

lemma pathFault_eq_notFound_iff : files.pathFault path = some .notFound ↔
    IsPath path ∧ (path = "" ∨ files.enterFault [] (FilePath.steps path) = some .notFound) := by
  rw [pathFault, IsPath, ← Nat.not_lt]
  split_ifs <;> simp_all

lemma isMissing_iff : files.IsMissing path ↔ files.pathFault path = some .notFound ∨
    files.pathFault path = none ∧ files.get (FilePath.ofText path) = none := by
  rw [pathFault_eq_notFound_iff, pathFault_eq_none_iff, FilePath.ofText, ← enterFault_eq_none_iff,
    IsMissing, leadsNowhere_iff]
  by_cases hempty : path = ""
  · simp [hempty]
  · simp only [hempty, false_or, ne_eq, not_false_eq_true, true_and, and_assoc, ← and_or_left]

/-- Reading finds nothing exactly at the paths that are missing. -/
theorem read_eq_notFound_iff : files.read path = .error .notFound ↔ files.IsMissing path := by
  rw [isMissing_iff, read]
  cases files.pathFault path with
  | some fault => simp
  | none =>
    rcases files.get (FilePath.ofText path) with _ | ⟨bytes⟩ | _
    · simp
    · cases FilePath.wantsDirectory path <;> simp
    · simp

/-- Nothing stands at a path that is missing. -/
lemma IsMissing.find_eq_none (h : files.IsMissing path) : files.find path = none := by
  rw [find]
  rcases isMissing_iff.mp h with hfault | ⟨hfault, hnone⟩
  · rw [hfault]
  · rw [hfault, hnone]

/-- The system refuses a path: it leads through a file or asks for a directory where a file stands,
it is too long or has a name in it that is, or it is none at all. -/
def Refuses (files : FileSystem) (path : String) : Prop :=
  files.read path = .error .notDirectory ∨ files.read path = .error .nameTooLong ∨
    files.read path = .error .holdsNul

lemma enterFault_eq_some {fault : FileFault} (h : files.enterFault here steps = some fault) :
    fault = .notFound ∨ fault = .notDirectory ∨ fault = .nameTooLong := by
  induction steps generalizing here with
  | nil => cases h
  | cons step steps ih =>
    rw [enterFault] at h
    split at h
    · split_ifs at h
      · exact .inr (.inr (Option.some.inj h).symm)
      · exact ih h
    · exact .inr (.inl (Option.some.inj h).symm)
    · exact .inl (Option.some.inj h).symm

/-- If a path is not refused, nothing is found there exactly if nothing stands there. -/
lemma isMissing_iff_find_eq_none (h : ¬ files.Refuses path) :
    files.IsMissing path ↔ files.find path = none := by
  refine ⟨IsMissing.find_eq_none, fun hfind => read_eq_notFound_iff.mp ?_⟩
  rw [Refuses, read] at h
  rw [read]
  rw [find] at hfind
  cases hfault : files.pathFault path with
  | none =>
    rcases hentry : files.get (FilePath.ofText path) with _ | ⟨bytes⟩ | _
    · rfl
    · cases hwants : FilePath.wantsDirectory path <;> simp_all
    · simp_all
  | some fault =>
    have hpath : fault = .notFound ∨ fault = .notDirectory ∨ fault = .nameTooLong ∨
        fault = .holdsNul := by
      rw [pathFault] at hfault
      split_ifs at hfault
      · exact .inr (.inr (.inr (Option.some.inj hfault).symm))
      · exact .inl (Option.some.inj hfault).symm
      · exact .inr (.inr (.inl (Option.some.inj hfault).symm))
      · exact (enterFault_eq_some hfault).imp_right fun h => h.imp_right .inl
    rw [hfault] at h
    rcases hpath with rfl | rfl | rfl | rfl <;> simp_all

/-! ### Writing -/

/-- Writing puts a file at the path, or leaves everything as it is. -/
theorem write_eq_ok_iff : files.write path bytes = .ok after ↔
    files.CanWrite path ∧ after = files.set (FilePath.ofText path) (some (.file bytes)) := by
  have hcan : files.CanWrite path ↔ files.pathFault path = none ∧
      files.get (FilePath.ofText path) ≠ some .directory ∧
        FilePath.wantsDirectory path = false := by
    simp only [CanWrite, pathFault_eq_none_iff, and_assoc]
  rw [hcan, write]
  cases files.pathFault path with
  | some fault => simp
  | none =>
    rcases hentry : files.get (FilePath.ofText path) with _ | ⟨old⟩ | _
    · cases FilePath.wantsDirectory path <;> simp [hentry, eq_comm]
    · cases FilePath.wantsDirectory path <;> simp [hentry, eq_comm]
    · simp [hentry]

lemma exists_writeText (h : files.CanWrite path) (text : String) :
    ∃ after, files.writeText path text = .ok after :=
  ⟨_, write_eq_ok_iff.mpr ⟨h, rfl⟩⟩

/-- What is written at a path is read there. -/
theorem read_of_write (h : files.write path bytes = .ok after) : after.read path = .ok bytes := by
  obtain ⟨⟨hpath, hne, hleads, hplace, hfile⟩, rfl⟩ := write_eq_ok_iff.mp h
  have hfault := pathFault_eq_none_iff.mpr ⟨hpath, hne, hleads.set hplace (some (.file bytes))⟩
  have hroot : FilePath.ofText path ≠ [] := by
    intro hroot
    exact hplace (by rw [hroot, get_nil])
  rw [read, hfault, get_set_self hroot]
  simp [hfile]

/-- Writing changes nothing at other places. -/
theorem get_of_write (h : files.write path bytes = .ok after)
    (hplace : place ≠ FilePath.ofText path) : after.get place = files.get place := by
  obtain ⟨-, rfl⟩ := write_eq_ok_iff.mp h
  exact get_set_of_ne hplace

end FileSystem

end NotebookExport
