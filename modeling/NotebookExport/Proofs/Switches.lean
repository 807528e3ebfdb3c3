import Mathlib.Data.List.TakeWhile
import Mathlib.Tactic.Tauto
import NotebookExport.CommandLine.Request

/-!
# Switches

What a request holds, by the texts of the command line. Each option is on in the request exactly if
one of the arguments asks for it, be there others before or behind it; and the switches that have no
letter are given exactly by their names behind two dashes. A text behind the option of a
configuration is a path and no switch, and behind two dashes alone everything is a path.
-/

namespace NotebookExport

/-! ### Options by arguments -/

namespace Options

/-- An option is on, as an argument asks for it. -/
def Holds (o : Options) : Argument → Prop
  | .path text => text ∈ o.paths
  | .configuration path => o.configuration = some path
  | .switch .keepUnused => o.keepsUnused
  | .switch .skipProgram => o.skipsProgram
  | .switch .quiet => o.isQuiet
  | .switch .verbose => 0 < o.verbosity
  | .switch .help | .switch .version | .wrong _ => False

lemma not_holds_empty (a : Argument) : ¬Holds {} a := by
  rcases a with _ | (_ | _ | _ | _ | _ | _) | _ | _ <;> simp [Holds]

lemma once_eq_ok_iff {isOn : Bool} {option : String} {o o' : Options} :
    once isOn option o = .ok o' ↔ isOn = false ∧ o' = o := by
  cases isOn <;> simp [once, eq_comm]

/-- An argument that is taken turns on what it asks for, and nothing else. -/
lemma holds_of_take {o o' : Options} {a : Argument} (h : o.take a = .ok o')
    (hhelp : a ≠ .switch .help) (hversion : a ≠ .switch .version) (b : Argument) :
    o'.Holds b ↔ b = a ∨ o.Holds b := by
  cases a with
  | wrong fault => simp [take] at h
  | path text =>
    simp only [take] at h
    split_ifs at h
    cases h
    cases b with
    | path other => simp [Holds, or_comm]
    | switch s => cases s <;> simp [Holds]
    | _ => simp [Holds]
  | configuration path =>
    obtain ⟨hnone, rfl⟩ := once_eq_ok_iff.mp h
    cases b with
    | configuration other =>
      have hbefore : o.configuration = none := by simpa using hnone
      simp [Holds, hbefore, eq_comm]
    | switch s => cases s <;> simp [Holds]
    | _ => simp [Holds]
  | switch s =>
    cases s with
    | help => exact absurd rfl hhelp
    | version => exact absurd rfl hversion
    | verbose =>
      obtain rfl := Except.ok.inj h
      rcases b with _ | (_ | _ | _ | _ | _ | _) | _ | _ <;> simp [Holds]
    | _ =>
      obtain ⟨-, rfl⟩ := once_eq_ok_iff.mp h
      rcases b with _ | (_ | _ | _ | _ | _ | _) | _ | _ <;> simp [Holds]

end Options

namespace Request

variable {o options : Options} {input output : String} {arguments : List Argument}
  {texts : List String}

lemma ofArguments_cons {a : Argument} (hhelp : a ≠ .switch .help)
    (hversion : a ≠ .switch .version) :
    ofArguments o (a :: arguments) = (o.take a).bind fun o => ofArguments o arguments := by
  rcases a with _ | (_ | _ | _ | _ | _ | _) | _ | _ <;>
    first | rfl | exact absurd rfl hhelp | exact absurd rfl hversion

/-- The options of a conversion are those that are asked for. -/
lemma holds_of_ofArguments (h : ofArguments o arguments = .ok (.convert input output options))
    (b : Argument) : options.Holds b ↔ b ∈ arguments ∨ o.Holds b := by
  induction arguments generalizing o with
  | nil =>
    simp only [ofArguments, ofOptions] at h
    split at h
    · split_ifs at h
      obtain ⟨rfl, rfl, rfl⟩ := by simpa using h
      simp
    · cases h
  | cons a arguments ih =>
    have hhelp : a ≠ .switch .help := by
      rintro rfl
      simp [ofArguments] at h
    have hversion : a ≠ .switch .version := by
      rintro rfl
      simp [ofArguments] at h
    rw [ofArguments_cons hhelp hversion] at h
    cases htake : o.take a with
    | error fault => simp [htake, Except.bind] at h
    | ok o' =>
      rw [htake] at h
      rw [ih h, Options.holds_of_take htake hhelp hversion, List.mem_cons]
      tauto

lemma holds_of_ofTexts (h : ofTexts texts = .ok (.convert input output options))
    (b : Argument) : options.Holds b ↔ b ∈ Argument.ofTexts false texts := by
  simp [holds_of_ofArguments h b, Options.not_holds_empty]

/-- A request for a conversion has no argument that is wrong. -/
lemma wrong_not_mem_of_ofTexts (h : ofTexts texts = .ok (.convert input output options))
    (fault : UsageFault) : .wrong fault ∉ Argument.ofTexts false texts :=
  fun hmem => (holds_of_ofTexts h (.wrong fault)).mpr hmem

end Request

/-! ### Switches by texts -/

namespace Switch

lemma ofName_eq_keepUnused_iff {text : String} :
    ofName text = some .keepUnused ↔ text = "no-remove-unused" := by
  grind [ofName]

lemma ofName_eq_skipProgram_iff {text : String} :
    ofName text = some .skipProgram ↔ text = "no-format" ∨ text = "no-black" := by
  grind [ofName]

/-- What is the name of a switch has no equals sign in it, and is no other name. -/
lemma of_ofName {text : String} {s : Switch} (h : ofName text = some s) :
    '=' ∉ text.toList ∧ text ≠ Argument.configurationName ∧ text ≠ "" := by
  have hnames : text ∈ ["no-remove-unused", "no-format", "no-black", "verbose", "quiet", "help",
      "version"] := by
    grind [ofName]
  simp only [List.mem_cons, List.not_mem_nil, or_false] at hnames
  rcases hnames with rfl | rfl | rfl | rfl | rfl | rfl | rfl <;> decide

end Switch

namespace Argument

variable {s : Switch} {awaits : Bool} {texts : List String} {text : String}

/-- Texts name a switch behind two dashes. -/
def Names (s : Switch) (texts : List String) : Prop :=
  ∃ name, Switch.ofName name = some s ∧ "--" ++ name ∈ texts

lemma names_cons : Names s (text :: texts) ↔
    (∃ name, Switch.ofName name = some s ∧ "--" ++ name = text) ∨ Names s texts := by
  simp only [Names, List.mem_cons]
  constructor
  · rintro ⟨name, hname, htext | htexts⟩
    · exact .inl ⟨name, hname, htext⟩
    · exact .inr ⟨name, hname, htexts⟩
  · rintro (⟨name, hname, htext⟩ | ⟨name, hname, htexts⟩)
    · exact ⟨name, hname, .inl htext⟩
    · exact ⟨name, hname, .inr htexts⟩

lemma switch_not_mem_ofLetters (hletter : ∀ letter, Switch.ofLetter letter ≠ some s)
    (letters : List Char) : .switch s ∉ (ofLetters letters).1 := by
  induction letters with
  | nil => simp [ofLetters]
  | cons letter rest ih =>
    unfold ofLetters
    split_ifs
    · split <;> simp [ofConfiguration] <;> split_ifs <;> simp
    · split
      case h_1 t ht =>
        have hne : s ≠ t := by
          rintro rfl
          exact hletter letter ht
        simpa [hne] using ih
      case h_2 => simp

/-- A word behind two dashes is a switch exactly if it is a name of the switch. -/
lemma switch_mem_ofWord_iff {word : List Char} :
    .switch s ∈ (ofWord word).1 ↔ Switch.ofName (String.ofList word) = some s := by
  by_cases hvalue : '=' ∈ word
  · have hnone : Switch.ofName (String.ofList word) ≠ some s := fun h =>
      (Switch.of_ofName h).1 (by simpa using hvalue)
    simp only [ofWord, List.contains_iff_mem.mpr hvalue, if_true, hnone, iff_false]
    split
    · simp [ofConfiguration]
      split_ifs <;> simp
    · split <;> simp
  · have hname : word.takeWhile (· ≠ '=') = word :=
      List.takeWhile_eq_self_iff.mpr fun c hc => by
        simpa using ne_of_mem_of_not_mem hc hvalue
    have hcontains : word.contains '=' = false := by simpa using hvalue
    simp only [ofWord, hname, hcontains]
    by_cases hconfiguration : String.ofList word = configurationName
    · have hnone : Switch.ofName (String.ofList word) ≠ some s := fun h =>
        (Switch.of_ofName h).2.1 hconfiguration
      simp [hconfiguration] at hnone ⊢
      exact hnone
    · simp only [hconfiguration, if_false]
      cases hswitch : Switch.ofName (String.ofList word) <;> simp [eq_comm]

/-- A text that does not begin with two dashes names no switch, and ends no options. -/
lemma names_takeWhile_cons_of_ne {rest : List String}
    (htext : ∀ word, text.toList ≠ '-' :: '-' :: word) :
    Names s ((text :: rest).takeWhile (· ≠ "--")) ↔ Names s (rest.takeWhile (· ≠ "--")) := by
  have hdashes : text ≠ "--" := fun h => htext [] (by rw [h]; rfl)
  have hname : ¬∃ name, Switch.ofName name = some s ∧ "--" ++ name = text := by
    rintro ⟨name, -, rfl⟩
    exact htext name.toList (by simp)
  rw [List.takeWhile_cons_of_pos (by simpa using hdashes), names_cons]
  simp [hname]

lemma names_takeWhile_cons_of_word {rest : List String} {word : List Char} (hword : word ≠ [])
    (htext : text.toList = '-' :: '-' :: word) :
    Names s ((text :: rest).takeWhile (· ≠ "--")) ↔
      Switch.ofName (String.ofList word) = some s ∨ Names s (rest.takeWhile (· ≠ "--")) := by
  obtain rfl : text = "--" ++ String.ofList word := by simpa [String.ext_iff] using htext
  have hdashes : "--" ++ String.ofList word ≠ "--" := by simpa [String.ext_iff] using hword
  rw [List.takeWhile_cons_of_pos (by simpa using hdashes), names_cons]
  simp

/-- A switch without a letter is asked for exactly if a text before any two dashes alone is a name
of it behind two dashes. -/
lemma switch_mem_ofTexts_iff (hletter : ∀ letter, Switch.ofLetter letter ≠ some s)
    (hwrong : ∀ fault, .wrong fault ∉ ofTexts awaits texts) :
    .switch s ∈ ofTexts awaits texts ↔ Names s (texts.takeWhile (· ≠ "--")) := by
  fun_induction ofTexts awaits texts with
  | case1 => simp [Names]
  | case2 => simp [Names]
  | case3 text rest hoption => exact absurd (List.mem_singleton.mpr rfl) (hwrong _)
  | case4 text rest hoption ih =>
    have htext : ∀ word, text.toList ≠ '-' :: '-' :: word := by
      intro word hword
      have hne : text ≠ "-" := fun h => by simp [h] at hword
      exact hoption (by simp [isOption, hword, hne])
    rw [names_takeWhile_cons_of_ne htext, ← ih fun fault h => hwrong fault (.tail _ h)]
    simp only [ofConfiguration]
    split_ifs <;> simp
  | case5 text rest htext =>
    obtain rfl : text = "--" := String.ext_iff.mpr htext
    simp [Names]
  | case6 text rest word hne htext ih =>
    rw [names_takeWhile_cons_of_word (fun h => hne h) htext, List.mem_append,
      switch_mem_ofWord_iff, ih fun fault h => hwrong fault (List.mem_append_right _ h)]
  | case7 text rest htext ih =>
    rw [names_takeWhile_cons_of_ne (by simp [htext]), ← ih fun fault h => hwrong fault (.tail _ h)]
    simp
  | case8 text rest letters _ hdash _ htext ih =>
    have hword : ∀ word, text.toList ≠ '-' :: '-' :: word := by
      intro word hword
      exact hdash word (List.cons.inj (htext.symm.trans hword)).2
    rw [names_takeWhile_cons_of_ne hword, List.mem_append,
      ih fun fault h => hwrong fault (List.mem_append_right _ h)]
    simp [switch_not_mem_ofLetters hletter]
  | case9 text rest _ hword _ _ ih =>
    rw [names_takeWhile_cons_of_ne fun word h => hword word h,
      ← ih fun fault h => hwrong fault (.tail _ h)]
    simp

end Argument

/-! ### Requests -/

namespace Request

variable {options : Options} {input output : String} {texts : List String}

/-- Unused names are kept exactly if the switch for it is given. -/
lemma keepsUnused_iff (h : ofTexts texts = .ok (.convert input output options)) :
    options.keepsUnused ↔ "--no-remove-unused" ∈ texts.takeWhile (· ≠ "--") := by
  have hletter : ∀ letter, Switch.ofLetter letter ≠ some .keepUnused := by
    intro letter
    simp only [Switch.ofLetter]
    split_ifs <;> simp
  have hmem := Argument.switch_mem_ofTexts_iff hletter (wrong_not_mem_of_ofTexts h)
  rw [← holds_of_ofTexts h] at hmem
  simpa [Options.Holds, Argument.Names, Switch.ofName_eq_keepUnused_iff] using hmem

/-- The program is skipped exactly if the switch for it is given, by either of its names. -/
lemma skipsProgram_iff (h : ofTexts texts = .ok (.convert input output options)) :
    options.skipsProgram ↔ "--no-format" ∈ texts.takeWhile (· ≠ "--") ∨
      "--no-black" ∈ texts.takeWhile (· ≠ "--") := by
  have hletter : ∀ letter, Switch.ofLetter letter ≠ some .skipProgram := by
    intro letter
    simp only [Switch.ofLetter]
    split_ifs <;> simp
  have hmem := Argument.switch_mem_ofTexts_iff hletter (wrong_not_mem_of_ofTexts h)
  rw [← holds_of_ofTexts h] at hmem
  simpa [Options.Holds, Argument.Names, Switch.ofName_eq_skipProgram_iff, or_and_right,
    exists_or] using hmem

end Request

end NotebookExport
