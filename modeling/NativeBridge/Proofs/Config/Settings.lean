import NativeBridge.Generation.Sources
import NativeBridge.Proofs.Outcome

/-!
# What configuration files settle

A configuration is its values by their keys (`Config.value?`). A setting changes the value of its
own key only, so that a file gives the values of its settings and leaves the others at their
standard: `Config.ofSettings_eq_some_iff`. What is read of a file keeps to the rules for
configurations.
-/

namespace NativeBridge

open Outcome

namespace Config

/-- The rules for configurations: known widths and a module name. -/
structure KeepsRules (config : Config) : Prop where
  pointerWidth : config.pointerWidth = 4 ∨ config.pointerWidth = 8
  wideScalarAlign : config.wideScalarAlign = 4 ∨ config.wideScalarAlign = 8
  moduleName : config.moduleName ≠ ""

/-- Exactly the configurations that keep to the rules are accepted, as they are. -/
theorem validate_eq_ok_iff {config result : Config} :
    config.validate = .ok result ↔ config.KeepsRules ∧ config = result := by
  have width (number : Nat) : isWidth number = true ↔ number = 4 ∨ number = 8 := by
    simp [isWidth]
  have rules : config.KeepsRules ↔ isWidth config.pointerWidth = true ∧
      isWidth config.wideScalarAlign = true ∧ config.moduleName.isEmpty = false := by
    simp only [width, Bool.eq_false_iff, Ne, String.isEmpty_iff]
    exact ⟨fun ⟨pointer, wide, name⟩ => ⟨pointer, wide, name⟩,
      fun ⟨pointer, wide, name⟩ => ⟨pointer, wide, name⟩⟩
  rw [rules, validate]
  cases isWidth config.pointerWidth <;> cases isWidth config.wideScalarAlign <;>
    cases config.moduleName.isEmpty <;> simp

/-- The standard configuration keeps to the rules. -/
theorem keepsRules_standard : standard.KeepsRules where
  pointerWidth := .inr rfl
  wideScalarAlign := .inr rfl
  moduleName := by decide

/-- The value of a configuration for a key of configuration files. -/
def value? (config : Config) : String → Option ConfigValue
  | "module_name" => some (.text config.moduleName)
  | "fragment_prefix" => config.fragmentPrefix.map .text
  | "generated_namespace" => some (.text config.generatedNamespace)
  | "runtime_path" => some (.text config.runtimePath)
  | "crate_path" => some (.text config.cratePath)
  | "include_return_slot" => some (.truth config.includeReturnSlot)
  | "pointer_width" => some (.number config.pointerWidth)
  | "wide_scalar_align" => some (.number config.wideScalarAlign)
  | _ => none

/-- A configuration is its values. -/
theorem eq_of_value? {config other : Config} (same : ∀ key, config.value? key = other.value? key) :
    config = other := by
  have text {left right : String} (given : some (ConfigValue.text left) = some (.text right)) :
      left = right :=
    ConfigValue.text.inj (Option.some.inj given)
  have number {left right : Nat} (given : some (ConfigValue.number left) = some (.number right)) :
      left = right :=
    Int.ofNat.inj (ConfigValue.number.inj (Option.some.inj given))
  have fragmentPrefix : config.fragmentPrefix = other.fragmentPrefix :=
    Option.map_inj_right (fun _ _ => ConfigValue.text.inj) |>.mp (same "fragment_prefix")
  have includeReturnSlot : config.includeReturnSlot = other.includeReturnSlot :=
    ConfigValue.truth.inj (Option.some.inj (same "include_return_slot"))
  cases config
  cases other
  rw [Config.mk.injEq]
  exact ⟨text (same "module_name"), fragmentPrefix, text (same "generated_namespace"),
    text (same "runtime_path"), text (same "crate_path"), includeReturnSlot,
    number (same "pointer_width"), number (same "wide_scalar_align")⟩

/-- A setting gives its value to its key and leaves the values of the other keys. -/
theorem value?_assign {config next : Config} {setting : String × ConfigValue}
    (assigned : config.assign setting = some next) (key : String) :
    next.value? key = if key = setting.1 then some setting.2 else config.value? key := by
  unfold assign at assigned
  split at assigned
  case h_9 => cases assigned
  all_goals
    cases assigned
    split
    · rename_i same
      rw [same]
      rfl
    · -- Every other key has the same value as before.
      unfold value?
      split <;> simp_all

/-- A known key with a value of its kind. -/
def IsSetting (setting : String × ConfigValue) : Prop :=
  (standard.assign setting).isSome = true

/-- A setting can be given to every configuration or to none. -/
theorem isSome_assign_iff {config : Config} {setting : String × ConfigValue} :
    (config.assign setting).isSome = true ↔ IsSetting setting := by
  rw [IsSetting]
  unfold assign
  split <;> rfl

/-- Once a setting is given, later ones with other keys stand in place of the value that it gave. -/
theorem lookup_cons_or_value? {config next : Config} {setting : String × ConfigValue}
    {rest : List (String × ConfigValue)} (fresh : setting.1 ∉ rest.map Prod.fst)
    (assigned : config.assign setting = some next) (key : String) :
    ((setting :: rest).lookup key).or (config.value? key)
      = (rest.lookup key).or (next.value? key) := by
  rw [value?_assign assigned, List.lookup_cons]
  by_cases own : key = setting.1
  · have notLater : rest.lookup key = none := by
      refine List.lookup_eq_none_iff.mpr fun later isLater => ?_
      have different : key ≠ later.1 := fun same =>
        fresh (own ▸ same ▸ List.mem_map_of_mem isLater)
      simpa using different
    simp [own, own ▸ notLater]
  · simp only [beq_eq_false_iff_ne.mpr own, if_neg own]

/-- Settings with different keys are given one after the other if each of them is one, and then
every key has the value of its setting, or the one from before. -/
theorem foldlM_assign_eq_some_iff {settings : List (String × ConfigValue)} {config result : Config}
    (distinct : (settings.map Prod.fst).Nodup) :
    settings.foldlM assign config = some result ↔ (∀ setting ∈ settings, IsSetting setting) ∧
      ∀ key, result.value? key = (settings.lookup key).or (config.value? key) := by
  induction settings generalizing config with
  | nil =>
      simp only [List.foldlM_nil, Option.pure_def, Option.some.injEq]
      constructor
      · rintro rfl
        simp
      · rintro ⟨-, same⟩
        exact eq_of_value? fun key => by simpa using (same key).symm
  | cons setting rest ih =>
      obtain ⟨fresh, others⟩ := List.nodup_cons.mp distinct
      simp only [List.foldlM_cons, Option.bind_eq_bind, Option.bind_eq_some_iff,
        List.forall_mem_cons]
      constructor
      · rintro ⟨next, assigned, later⟩
        obtain ⟨each, values⟩ := (ih others).mp later
        refine ⟨⟨isSome_assign_iff.mp (by rw [assigned]; rfl), each⟩, fun key => ?_⟩
        rw [values, lookup_cons_or_value? fresh assigned]
      · rintro ⟨⟨isSetting, each⟩, values⟩
        obtain ⟨next, assigned⟩ := Option.isSome_iff_exists.mp (isSome_assign_iff.mpr isSetting)
        refine ⟨next, assigned, (ih others).mpr ⟨each, fun key => ?_⟩⟩
        rw [values, lookup_cons_or_value? fresh assigned]

/-- Settings make up a configuration if their keys are different and each is one; a key without
a setting has its standard value. -/
theorem ofSettings_eq_some_iff {settings : List (String × ConfigValue)} {config : Config} :
    ofSettings settings = some config ↔ (settings.map Prod.fst).Nodup ∧
      (∀ setting ∈ settings, IsSetting setting) ∧
      ∀ key, config.value? key = (settings.lookup key).or (standard.value? key) := by
  by_cases distinct : (settings.map Prod.fst).Nodup
  · simp [ofSettings, distinct, foldlM_assign_eq_some_iff distinct]
  · simp [ofSettings, distinct]

/-- The settings in the lines of a text, which a byte order mark may precede. -/
def settingsOf? (text : String) : Option (List (String × ConfigValue)) :=
  let chars := match text.toList with
    | '\uFEFF' :: rest => rest
    | chars => chars
  ConfigValue.settings (chars.length + 1) chars

/-- A text describes the configuration that its settings make up. -/
theorem ofText?_eq (text : String) : ofText? text = (settingsOf? text).bind ofSettings :=
  rfl

/-- A text is read as the configuration that its settings make up, if it keeps to the rules. -/
theorem read_eq_ok_iff {text : String} {config : Config} :
    read text = .ok config ↔ (∃ settings, settingsOf? text = some settings ∧
      ofSettings settings = some config) ∧ config.KeepsRules := by
  rw [read, ofText?_eq, ← Option.bind_eq_some_iff]
  cases (settingsOf? text).bind ofSettings with
  | none => simp
  | some described =>
      simp only [mapError_eq_ok_iff, validate_eq_ok_iff, Option.some.injEq]
      constructor
      · rintro ⟨rules, rfl⟩
        exact ⟨rfl, rules⟩
      · rintro ⟨rfl, rules⟩
        exact ⟨rules, rfl⟩

end Config

/-- The configuration in a file: the standard one without a file, else the one whose values are
those of the settings in the file and the standard ones, if it keeps to the rules. -/
inductive FileTree.HoldsConfig (tree : FileTree) (path : String) : Config → Prop where
  | absent (missing : tree.exists? path = false) : HoldsConfig tree path .standard
  | written {text : String} {settings : List (String × ConfigValue)} {config : Config}
      (stands : tree.exists? path = true) (isText : tree.readText path = .ok text)
      (isSettings : Config.settingsOf? text = some settings)
      (distinct : (settings.map Prod.fst).Nodup)
      (known : ∀ setting ∈ settings, Config.IsSetting setting)
      (values : ∀ key, config.value? key = (settings.lookup key).or (Config.standard.value? key))
      (rules : config.KeepsRules) : HoldsConfig tree path config

/-- What a file holds keeps to the rules. -/
theorem FileTree.HoldsConfig.keepsRules {tree : FileTree} {path : String} {config : Config}
    (holds : tree.HoldsConfig path config) : config.KeepsRules := by
  cases holds with
  | absent => exact Config.keepsRules_standard
  | written _ _ _ _ _ _ rules => exact rules

/-- Exactly the configuration in the file is read. -/
theorem FileTree.config_eq_ok_iff {tree : FileTree} {path : String} {config : Config} :
    tree.config path = .ok config ↔ tree.HoldsConfig path config := by
  rw [FileTree.config]
  cases stands : tree.exists? path with
  | false =>
      simp only [Bool.false_eq_true, if_false, pure_eq_ok_iff]
      constructor
      · rintro rfl
        exact .absent stands
      · rintro (_ | ⟨isThere⟩)
        · rfl
        · simp [stands] at isThere
  | true =>
      simp only [if_true, bind_eq_ok_iff, accessed, mapError_eq_ok_iff, Config.read_eq_ok_iff,
        Config.ofSettings_eq_some_iff]
      constructor
      · rintro ⟨text, isText, ⟨settings, isSettings, distinct, known, values⟩, rules⟩
        exact .written stands isText isSettings distinct known values rules
      · rintro (missing | ⟨-, isText, isSettings, distinct, known, values, rules⟩)
        · simp [stands] at missing
        · exact ⟨_, isText, ⟨_, isSettings, distinct, known, values⟩, rules⟩

end NativeBridge
