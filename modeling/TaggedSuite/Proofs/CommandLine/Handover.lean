import Mathlib.Tactic.Common
import TaggedSuite.CommandLine.Program

/-!
# Handing a run over

The filter of a run is made twice: by the program before it starts the test runner, and inside the
test runner from the arguments of its start. Both go by the same settings and come to the same
selection or to the same error. What is left open stays apart from an empty text and from a switch
that is turned off, since an option that nothing is said about is not among the arguments at all.
-/
namespace TaggedSuite

namespace RunnerOptions

/-- The names of the switches. -/
def switchNames : List String :=
  ["--grep-filter-specs", "--no-grep-filter-specs", "--grep-omit-filtered",
    "--no-grep-omit-filtered"]

/-- Whether an argument is an option of the run, by itself, with the next argument as its value, or
joined to its value. -/
def IsOption (argument : String) : Prop :=
  argument ∈ valueNames ++ switchNames ∨
    ∃ name ∈ valueNames, (name ++ "=").toList <+: argument.toList

instance (argument : String) : Decidable (IsOption argument) := inferInstanceAs (Decidable (_ ∨ _))

variable {o : RunnerOptions} {name value a : String} {rest : List String}

/-! ### One argument -/

lemma read_cons (h : a ∉ valueNames) : read o (a :: rest) = read (o.setArgument a) rest := by
  cases rest with
  | nil => rfl
  | cons b rest => rw [read, if_neg (by simpa using h)]

lemma read_value (h : name ∈ valueNames) :
    read o (name :: value :: rest) = read (o.setValue name value) rest := by
  rw [read, if_pos (by simpa using h)]

lemma splitJoined?_append (h : '=' ∉ name.toList) :
    splitJoined? (name ++ "=" ++ value) = some (name, value) := by
  have hchars : (name ++ "=" ++ value).toList = name.toList ++ '=' :: value.toList := by
    simp [String.toList_append]
  have hname : ∀ c ∈ name.toList, (c != '=') = true := by
    intro c hc
    rw [bne_iff_ne]
    rintro rfl
    exact h hc
  rw [splitJoined?, hchars, List.dropWhile_append_of_pos hname, List.takeWhile_append_of_pos hname]
  simp

lemma eq_of_splitJoined? (h : splitJoined? a = some (name, value)) :
    a.toList = name.toList ++ '=' :: value.toList := by
  unfold splitJoined? at h
  split at h
  · next c rest hrest =>
    cases h
    have hc : c = '=' := by
      have hhead := List.head?_dropWhile_not (· != '=') a.toList
      rw [hrest] at hhead
      simpa using hhead
    have hsplit := List.takeWhile_append_dropWhile (p := (· != '=')) (l := a.toList)
    rw [hrest, hc] at hsplit
    simpa using hsplit.symm
  · cases h

lemma setValue_of_not_mem (h : name ∉ valueNames) : o.setValue name value = o := by
  unfold setValue
  split <;> first | rfl | exact absurd (by decide) h

lemma setSwitch_of_not_mem (h : name ∉ switchNames) : o.setSwitch name = o := by
  unfold setSwitch
  split <;> first | rfl | exact absurd (by decide) h

/-- An argument that is no option of the run is passed over. -/
lemma read_skip (h : ¬ IsOption a) : read o (a :: rest) = read o rest := by
  obtain ⟨hname, hjoined⟩ := not_or.mp h
  rw [List.mem_append, not_or] at hname
  rw [read_cons hname.1, setArgument]
  cases hsplit : splitJoined? a with
  | none => rw [setSwitch_of_not_mem hname.2]
  | some split =>
    obtain ⟨name, value⟩ := split
    have hname : name ∉ valueNames := by
      refine fun hmem => hjoined ⟨name, hmem, value.toList, ?_⟩
      rw [eq_of_splitJoined? hsplit, String.toList_append, List.append_assoc]
      rfl
    exact congrArg (read · rest) (setValue_of_not_mem hname)

lemma read_skipAll {as : List String} (h : ∀ a ∈ as, ¬ IsOption a) : read o as = o := by
  induction as with
  | nil => rfl
  | cons a as ih =>
    obtain ⟨ha, has⟩ := List.forall_mem_cons.mp h
    rw [read_skip ha, ih has]

/-! ### The arguments of a run -/

/-- An option with its value is read as the value. It is not among the arguments without one. -/
lemma read_joined (h : name ∈ valueNames) (value? : Option String) :
    read o (RunCommand.joined name value? ++ rest) =
      read (value?.elim o (o.setValue name)) rest := by
  cases value? with
  | none => rfl
  | some value =>
    have hsign : ∀ name ∈ valueNames, '=' ∉ name.toList := by decide
    have hjoined : name ++ "=" ++ value ∉ valueNames := by
      refine fun hmem => hsign _ hmem ?_
      simp [String.toList_append]
    have hset : o.setArgument (name ++ "=" ++ value) = o.setValue name value := by
      rw [setArgument, splitJoined?_append (hsign name h)]
    exact (read_cons hjoined).trans (congrArg (read · rest) hset)

lemma read_switchName (h : a ∈ switchNames) : read o (a :: rest) = read (o.setSwitch a) rest := by
  have hother : ∀ a ∈ switchNames, a ∉ valueNames ∧ splitJoined? a = Option.none := by decide
  obtain ⟨hname, hsplit⟩ := hother a h
  rw [read_cons hname, setArgument, hsplit]

/-- A switch is read as it was set. -/
lemma read_switch (h : name ∈ ["grep-filter-specs", "grep-omit-filtered"]) (on? : Option Bool) :
    read o (RunCommand.switch name on? ++ rest) =
      read (on?.elim o fun on => o.setSwitch (if on then "--" ++ name else "--no-" ++ name))
        rest := by
  cases on? with
  | none => rfl
  | some on =>
    have hname : ∀ name ∈ ["grep-filter-specs", "grep-omit-filtered"], ∀ on : Bool,
        (if on then "--" ++ name else "--no-" ++ name) ∈ switchNames := by decide
    exact read_switchName (hname name h on)

variable {c : RunCommand} {disk : Disk} {extra : List String}

/-- The test runner reads what the run was asked for, among arguments that say nothing about it. -/
theorem ofArguments_runnerArguments (h : ∀ a ∈ extra ++ c.paths, ¬ IsOption a) :
    ofArguments (c.runnerArguments disk extra) =
      ⟨some c.environment, some (RunCommand.absolute disk c.settings.configDirectory),
        some (RunCommand.absolute disk c.settings.variablesFile), c.choice⟩ := by
  have hlast : ∀ a ∈ (if c.settings.isVerbose then ["-v"] else []) ++ (extra ++ c.paths),
      ¬ IsOption a := by
    intro a ha
    rcases List.mem_append.mp ha with ha | ha
    · split_ifs at ha
      · obtain rfl := List.mem_singleton.mp ha
        decide
      · cases ha
    · exact h a ha
  simp only [ofArguments, RunCommand.runnerArguments, List.append_assoc, List.cons_append,
    List.nil_append]
  rw [read_skip (by decide), read_skip (by decide), read_value (by decide),
    read_value (by decide), read_value (by decide), read_joined (by decide),
    read_joined (by decide), read_switch (by decide), read_switch (by decide), read_skipAll hlast]
  obtain ⟨tags?, title?, filterSpecs?, omitFiltered?⟩ := c.choice
  cases tags? <;> cases title? <;> rcases filterSpecs? with _ | _ | _ <;>
    rcases omitFiltered? with _ | _ | _ <;> rfl

end RunnerOptions

/-! ### Both ways to a selection -/

namespace RunCommand

section
variable (config : RunConfig) (key : String)

lemma textOr_eq_valueOr (asked? : Option String) :
    SelectionChoice.textOr config key asked? = valueOr config key (.str "") (asked?.map .str) := by
  cases asked? <;> rfl

lemma switchOr_eq_valueOr (asked? : Option Bool) : SelectionChoice.switchOr config key asked? =
    (valueOr config key (.bool false) (asked?.map .bool)).map Value.truthy := by
  cases asked? <;> rfl

/-- All settings are looked up in the same place, so there is one way for this to fail. -/
lemma valueOr_cases (default : Value) (named? : Option Value) :
    (∃ v, valueOr config key default named? = .ok v) ∨
      valueOr config key default named? = .error (.notMapping config.env.kindName) := by
  cases named? with
  | some v => exact .inl ⟨v, rfl⟩
  | none =>
    simp only [valueOr, SelectionChoice.setting]
    split
    · exact .inl ⟨_, rfl⟩
    · exact .inr rfl

end

/-- It does not matter whether the switches are looked at before the texts or behind them. -/
lemma selection_eq_select (c : RunCommand) : c.selection = c.choice.select := by
  funext config
  simp only [selection, SelectionChoice.select, SelectionChoice.options, textOr_eq_valueOr,
    switchOr_eq_valueOr]
  rcases valueOr_cases config "grepTags" (.str "") (c.choice.tags?.map .str) with
    ⟨tags, htags⟩ | htags <;>
  rcases valueOr_cases config "grep" (.str "") (c.choice.title?.map .str) with
    ⟨title, htitle⟩ | htitle <;>
  rcases valueOr_cases config "grepFilterSpecs" (.bool false) (c.choice.filterSpecs?.map .bool) with
    ⟨specs, hspecs⟩ | hspecs <;>
  rcases valueOr_cases config "grepOmitFiltered" (.bool false)
    (c.choice.omitFiltered?.map .bool) with ⟨omitted, homitted⟩ | homitted <;>
  simp only [htags, htitle, hspecs, homitted] <;> rfl

/-- The selection that the program makes before the test runner starts is the one that is made
inside the test runner from the arguments of its start, and one fails as the other does. -/
theorem select_runnerArguments (c : RunCommand) (disk : Disk) (extra : List String)
    (config : RunConfig) (h : ∀ a ∈ extra ++ c.paths, ¬ RunnerOptions.IsOption a) :
    (RunnerOptions.ofArguments (c.runnerArguments disk extra)).choice.select config =
      c.selection config := by
  rw [RunnerOptions.ofArguments_runnerArguments h, selection_eq_select]

/-- An empty filter and a switch turned off go before the settings, which decide what is left open.
-/
theorem select_runnerArguments_emptyTags :
    let c : RunCommand :=
      ⟨.default, "qa", ⟨some "", none, some false, none⟩, ["tests/api"]⟩
    let extra := ["-k", "grep=login", "--grep-tags-of=x"]
    let config : RunConfig := ⟨"qa", "", "", "qa", ⟨"", ""⟩, [(.str "env", .view [
      (.str "grepTags", .str "@slow"), (.str "grep", .str "login;-admin"),
      (.str "grepFilterSpecs", .bool true), (.str "grepOmitFiltered", .bool true)])]⟩
    let arguments := c.runnerArguments ⟨[], [], []⟩ extra
    (∀ a ∈ extra ++ c.paths, ¬ RunnerOptions.IsOption a) ∧
      (RunnerOptions.ofArguments arguments).choice.select config = c.selection config ∧
      ∃ s, c.selection config = .ok (.regular s) ∧ s.raw = "" ∧ s.titlePattern = "login;-admin" ∧
        s.options = ⟨false, true⟩ := by
  intro c extra config arguments
  have hplain : ∀ a ∈ extra ++ c.paths, ¬ RunnerOptions.IsOption a := by decide
  refine ⟨hplain, select_runnerArguments c ⟨[], [], []⟩ extra config hplain, ?_⟩
  exact ⟨⟨"", .all, "login;-admin", ⟨false, true⟩, by decide⟩, rfl, rfl, rfl, rfl⟩

end RunCommand

end TaggedSuite
