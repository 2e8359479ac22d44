import NativeBridge.CommandLine.Run
import NativeBridge.Proofs.Config.Settings

/-!
# The configuration of a command

The options that were read have values that they can have (`accepted_of_readArguments`). A
command takes the value of every option that is given and all else from the configuration file
(`Given.Merges`). What it takes from the file keeps to the rules for configurations, and so do
the widths that options can have; a module name that is given need not.
-/

open NativeBridge.Outcome

namespace NativeBridge.CommandLine

namespace Given

/-- Every option has a value that it can have. -/
def Accepted (given : Given) : Prop :=
  ∀ setting value, given.value? setting = some value → setting.accepts value = true

theorem accepted_none : none.Accepted := by
  rintro setting value ⟨⟩

/-- An option is added that has no value yet, with a value that it can have. -/
theorem add_eq_ok_iff {given next : Given} {setting : Setting} {value : String} :
    given.add setting value = .ok next ↔ given.value? setting = .none ∧
      setting.accepts value = true ∧
        { given with settings := (setting, value) :: given.settings } = next := by
  rw [add]
  cases given.value? setting <;> cases setting.accepts value <;> simp

/-- Options are added with values that they can have. -/
theorem Accepted.add {given next : Given} {setting : Setting} {value : String}
    (accepted : given.Accepted) (added : given.add setting value = .ok next) : next.Accepted := by
  obtain ⟨-, accepts, rfl⟩ := add_eq_ok_iff.mp added
  intro other found isFound
  rw [value?, List.lookup_cons] at isFound
  by_cases own : other = setting
  · simp only [own, beq_self_eq_true, Option.some.injEq] at isFound
    exact own ▸ isFound ▸ accepts
  · rw [beq_eq_false_iff_ne.mpr own] at isFound
    exact accepted other found isFound

/-- That the return slot counts is no option with a value. -/
theorem Accepted.countReturn {given next : Given} (accepted : given.Accepted)
    (counted : given.countReturn = .ok next) : next.Accepted := by
  rw [Given.countReturn] at counted
  split at counted
  · cases counted
  · cases counted
    exact accepted

/-- Reading arguments adds options with values that they can have only. -/
theorem Accepted.read {verb : Verb} {given result : Given} {arguments : List String}
    (accepted : given.Accepted) (isRead : given.read verb arguments = .ok result) :
    result.Accepted := by
  fun_induction Given.read verb given arguments with
  | case1 | case2 =>
      cases isRead
      exact accepted
  | case3 | case4 | case5 | case6 | case10 | case11 => cases isRead
  | case7 given argument rest _ _ ih => exact ih accepted isRead
  | case8 given argument rest _ _ ih =>
      obtain ⟨next, counted, later⟩ := bind_eq_ok_iff.mp isRead
      exact ih next (accepted.countReturn counted) later
  | case9 given argument rest _ setting value _ ih =>
      obtain ⟨next, added, later⟩ := bind_eq_ok_iff.mp isRead
      exact ih next (accepted.add added) later
  | case12 given argument _ setting _ value rest _ ih =>
      obtain ⟨next, added, later⟩ := bind_eq_ok_iff.mp isRead
      exact ih next (accepted.add added) later

/-- Options that are complete are left as they are. -/
theorem eq_of_complete {verb : Verb} {given result : Given}
    (isComplete : given.complete verb = .ok result) : given = result := by
  rw [complete] at isComplete
  split at isComplete
  · exact Except.ok.inj isComplete
  · cases isComplete

end Given

/-- All options that were read have values that they can have. -/
theorem accepted_of_readArguments {arguments : List String} {verb : Verb} {given : Given}
    (isRead : readArguments arguments = .ok (verb, given)) : given.Accepted := by
  fun_induction readArguments arguments with
  | case1 | case3 | case5 | case6 => cases isRead
  | case2 argument rest named isNamed =>
      obtain ⟨options, read, completed⟩ := bind_eq_ok_iff.mp isRead
      obtain ⟨result, isComplete, same⟩ := bind_eq_ok_iff.mp completed
      obtain ⟨-, rfl⟩ := Prod.mk.inj (pure_eq_ok_iff.mp same)
      exact Given.eq_of_complete isComplete ▸ Given.accepted_none.read read
  | case4 argument rest _ _ _ ih => exact ih isRead

/-- A text is a number in decimal digits. -/
def Spells (text : String) (number : Nat) : Prop :=
  Text.digitsValue? 10 text.toList = some number

/-- The widths that options can have are read as the numbers that they spell. -/
theorem width?_of_accepts {text : String} (accepts : (text == "4" || text == "8") = true) :
    ∃ width, width? text = some width ∧ Spells text width ∧ (width = 4 ∨ width = 8) := by
  simp only [Bool.or_eq_true, beq_iff_eq] at accepts
  rcases accepts with rfl | rfl
  · exact ⟨4, rfl, rfl, .inl rfl⟩
  · exact ⟨8, rfl, rfl, .inr rfl⟩

namespace Given

/-- The file with the configuration: the one that was asked for, which must be there, or else
the standard one. -/
inductive ReadsConfig (given : Given) (tree : FileTree) (config : Config) : Prop where
  | asked {path : String} (isPath : given.value? .config = some path)
      (stands : tree.exists? path = true) (holds : tree.HoldsConfig path config)
  | standard (notAsked : given.value? .config = .none)
      (holds : tree.HoldsConfig standardConfigFile config)

/-- What an option says if it is given, and what holds otherwise. -/
def Settles (given : Given) (setting : Setting) (ifGiven : String → Prop) (otherwise : Prop) :
    Prop :=
  match given.value? setting with
  | some text => ifGiven text
  | .none => otherwise

/-- A configuration with the value of every option that is given and all else from a file. -/
structure Merges (given : Given) (file config : Config) : Prop where
  moduleName : given.Settles .moduleName (config.moduleName = ·)
    (config.moduleName = file.moduleName)
  fragmentPrefix : given.Settles .fragmentPrefix (config.fragmentPrefix = some ·)
    (config.fragmentPrefix = file.fragmentPrefix)
  generatedNamespace : given.Settles .generatedNamespace (config.generatedNamespace = ·)
    (config.generatedNamespace = file.generatedNamespace)
  runtimePath : config.runtimePath = file.runtimePath
  cratePath : config.cratePath = file.cratePath
  includeReturnSlot : if given.includeReturnSlot then config.includeReturnSlot = true
    else config.includeReturnSlot = file.includeReturnSlot
  pointerWidth : given.Settles .pointerWidth (Spells · config.pointerWidth)
    (config.pointerWidth = file.pointerWidth)
  wideScalarAlign : given.Settles .wideScalarAlign (Spells · config.wideScalarAlign)
    (config.wideScalarAlign = file.wideScalarAlign)

variable {given : Given} {tree : FileTree} {file config : Config}

/-- What a file holds keeps to the rules. -/
theorem ReadsConfig.keepsRules (reads : given.ReadsConfig tree config) : config.KeepsRules := by
  cases reads with
  | asked _ _ holds => exact holds.keepsRules
  | standard _ holds => exact holds.keepsRules

/-- Exactly the configuration in the file with the configuration is read. -/
theorem fileConfig_eq_ok_iff : given.fileConfig tree = .ok config ↔ given.ReadsConfig tree config := by
  rw [fileConfig]
  cases asked : given.value? .config with
  | none =>
      simp only [mapError_eq_ok_iff, FileTree.config_eq_ok_iff]
      constructor
      · exact .standard asked
      · rintro (⟨isPath⟩ | ⟨-, holds⟩)
        · simp [asked] at isPath
        · exact holds
  | some path =>
      by_cases stands : tree.exists? path = true
      · simp only [if_pos stands, mapError_eq_ok_iff, FileTree.config_eq_ok_iff]
        constructor
        · exact .asked asked stands
        · rintro (⟨isPath, -, holds⟩ | ⟨notAsked⟩)
          · obtain rfl : path = _ := Option.some.inj (asked.symm.trans isPath)
            exact holds
          · simp [asked] at notAsked
      · simp only [if_neg stands, reduceCtorEq, false_iff]
        rintro (⟨isPath, isThere⟩ | ⟨notAsked⟩)
        · obtain rfl : path = _ := Option.some.inj (asked.symm.trans isPath)
          exact stands isThere
        · simp [asked] at notAsked

section Settles

variable {setting : Setting}

theorem settles_text_iff {found value : String} :
    given.Settles setting (value = ·) (value = found) ↔
      (given.value? setting).getD found = value := by
  rw [Settles]
  cases given.value? setting <;> simp [eq_comm]

theorem settles_optional_iff {found value : Option String} :
    given.Settles setting (value = some ·) (value = found) ↔
      (given.value? setting).or found = value := by
  rw [Settles]
  cases given.value? setting <;> simp [eq_comm]

/-- A width is the number that its option spells. -/
theorem settles_width_iff (accepts : ∀ text, given.value? setting = some text →
    (text == "4" || text == "8") = true) (found value : Nat) :
    given.Settles setting (Spells · value) (value = found) ↔
      ((given.value? setting).bind width?).getD found = value := by
  rw [Settles]
  cases isGiven : given.value? setting with
  | none => simp [eq_comm]
  | some text =>
      obtain ⟨width, isWidth, isNumber, -⟩ := width?_of_accepts (accepts text isGiven)
      rw [Spells] at isNumber
      simp [isWidth, Spells, isNumber]

end Settles

/-- The file's configuration is merged in one way only: the options stand in place of its
values. -/
theorem override_eq_iff_merges (accepted : given.Accepted) :
    given.override file = config ↔ given.Merges file config := by
  have slot : (if given.includeReturnSlot then config.includeReturnSlot = true
      else config.includeReturnSlot = file.includeReturnSlot) ↔
        (given.includeReturnSlot || file.includeReturnSlot) = config.includeReturnSlot := by
    cases given.includeReturnSlot with
    | false => exact eq_comm
    | true => exact eq_comm
  have pointer := settles_width_iff (accepted .pointerWidth) file.pointerWidth config.pointerWidth
  have wide :=
    settles_width_iff (accepted .wideScalarAlign) file.wideScalarAlign config.wideScalarAlign
  constructor
  · rintro rfl
    exact ⟨settles_text_iff.mpr rfl, settles_optional_iff.mpr rfl, settles_text_iff.mpr rfl, rfl,
      rfl, slot.mpr rfl, pointer.mpr rfl, wide.mpr rfl⟩
  · intro merges
    cases config
    rw [override, Config.mk.injEq]
    exact ⟨settles_text_iff.mp merges.moduleName, settles_optional_iff.mp merges.fragmentPrefix,
      settles_text_iff.mp merges.generatedNamespace, merges.runtimePath.symm,
      merges.cratePath.symm, slot.mp merges.includeReturnSlot, pointer.mp merges.pointerWidth,
      wide.mp merges.wideScalarAlign⟩

/-- A width that is merged is one that an option or the file can have. -/
theorem isWidth_of_settles {setting : Setting} (accepts : ∀ text, given.value? setting = some text →
    (text == "4" || text == "8") = true) {found value : Nat} (isWidth : found = 4 ∨ found = 8)
    (settles : given.Settles setting (Spells · value) (value = found)) :
    value = 4 ∨ value = 8 := by
  rw [Settles] at settles
  split at settles
  · rename_i text isGiven
    obtain ⟨width, -, isNumber, isWidth⟩ := width?_of_accepts (accepts text isGiven)
    obtain rfl : width = value := Option.some.inj (isNumber.symm.trans settles)
    exact isWidth
  · exact settles ▸ isWidth

/-- A configuration that is merged from one that keeps to the rules keeps to them exactly if the
module name that is given, if one is, is not empty. -/
theorem Merges.keepsRules_iff (accepted : given.Accepted) (rules : file.KeepsRules)
    (merges : given.Merges file config) :
    config.KeepsRules ↔ given.value? .moduleName ≠ some "" := by
  have name := settles_text_iff.mp merges.moduleName
  constructor
  · intro keeps isEmpty
    rw [isEmpty, Option.getD_some] at name
    exact keeps.moduleName name.symm
  · intro notEmpty
    refine ⟨isWidth_of_settles (accepted .pointerWidth) rules.pointerWidth merges.pointerWidth,
      isWidth_of_settles (accepted .wideScalarAlign) rules.wideScalarAlign merges.wideScalarAlign,
      fun isEmpty => ?_⟩
    cases isGiven : given.value? .moduleName with
    | none =>
        rw [isGiven, Option.getD_none, isEmpty] at name
        exact rules.moduleName name
    | some text =>
        rw [isGiven, Option.getD_some, isEmpty] at name
        exact notEmpty (isGiven.trans (congrArg some name))

/-- A command whose arguments are read has exactly the configuration that merges the options with
that of its file, which keeps to the rules. The merged one keeps to them exactly if no empty
module name is given. -/
theorem config_keeps_rules_iff {arguments : List String} {verb : Verb}
    (isRead : readArguments arguments = .ok (verb, given)) (tree : FileTree) :
    (∀ config, given.config tree = .ok config ↔
      ∃ file, given.ReadsConfig tree file ∧ file.KeepsRules ∧ given.Merges file config) ∧
    ∀ config, given.config tree = .ok config →
      (config.KeepsRules ↔ given.value? .moduleName ≠ some "") := by
  have accepted := accepted_of_readArguments isRead
  have merged : ∀ config, given.config tree = .ok config ↔
      ∃ file, given.ReadsConfig tree file ∧ file.KeepsRules ∧ given.Merges file config := by
    intro config
    simp only [Given.config, map_eq_ok_iff, fileConfig_eq_ok_iff, override_eq_iff_merges accepted]
    constructor
    · rintro ⟨file, reads, merges⟩
      exact ⟨file, reads, reads.keepsRules, merges⟩
    · rintro ⟨file, reads, -, merges⟩
      exact ⟨file, reads, merges⟩
  refine ⟨merged, fun config isConfig => ?_⟩
  obtain ⟨file, -, rules, merges⟩ := (merged config).mp isConfig
  exact merges.keepsRules_iff accepted rules

/-- A file sets the module name and both widths; the options take over one width and the module
name of the file stays. -/
theorem config_keeps_rules_iff_game :
    let arguments := ["check", "--sources", "src", "--config", "game.toml", "--pointer-width", "4"]
    let text := "module_name = \"game.binds\"\nwide_scalar_align = 4\n"
    let tree := FileTree.empty.insert ["game.toml"] (.file text.toUTF8)
    ∃ given config, readArguments arguments = .ok (.check, given) ∧
      given.config tree = .ok config ∧ config.moduleName = "game.binds" ∧
      config.pointerWidth = 4 ∧ config.wideScalarAlign = 4 ∧ config.KeepsRules := by
  intro arguments text tree
  have isRead : readArguments arguments = .ok (.check,
      ⟨[(.pointerWidth, "4"), (.config, "game.toml"), (.sources, "src")], false⟩) := by
    decide +kernel
  have isConfig : config ⟨[(.pointerWidth, "4"), (.config, "game.toml"), (.sources, "src")], false⟩
      tree = .ok { Config.standard with
        moduleName := "game.binds", pointerWidth := 4, wideScalarAlign := 4 } := by
    decide +kernel
  refine ⟨_, _, isRead, isConfig, rfl, rfl, rfl, ?_⟩
  exact ((config_keeps_rules_iff isRead tree).2 _ isConfig).mpr (by decide)

/-- A command takes an empty module name, which is refused in a file. -/
theorem config_without_module_name :
    let arguments := ["check", "--sources", "src", "--module-name", ""]
    ∃ given config, readArguments arguments = .ok (.check, given) ∧
      given.config .empty = .ok config ∧ ¬ config.KeepsRules ∧
      Config.read "module_name = \"\"\n" = .error (.config .emptyModuleName) := by
  intro arguments
  refine ⟨⟨[(.moduleName, ""), (.sources, "src")], false⟩,
    { Config.standard with moduleName := "" }, by decide +kernel, by decide +kernel, ?_,
    by decide +kernel⟩
  exact fun keeps => keeps.moduleName rfl

end Given

end NativeBridge.CommandLine
