import NativeBridge.Declarations.Exports
import NativeBridge.Proofs.Declarations.Types

/-!
# What exported traits say

A trait with the annotation of exports declares one export, each of its members a method of
it, and each argument of a member that is not the receiver a parameter: `DeclaresExport`,
`DeclaresMethod` and `DeclaresParam` say what is declared, and exactly this is read.
-/

namespace NativeBridge

open Source

namespace Source

/-- The argument is a receiver. -/
def ArgumentForm.isReceiver : ArgumentForm → Bool
  | .receiver _ _ _ _ => true
  | _ => false

/-- The argument stands for any number of arguments. -/
def ArgumentForm.isVariadic : ArgumentForm → Bool
  | .variadic _ _ => true
  | _ => false

/-- The arguments of a method besides receivers. -/
def MethodForm.inputs (form : MethodForm) : List ArgumentForm :=
  (form.arguments.map Prod.fst).filter fun argument => !argument.isReceiver

end Source

/-- An argument declares a parameter with its name, the type it stands for and what its
annotations say about the native side. -/
inductive DeclaresParam (file : String) : ArgumentForm → ParamDecl → Prop where
  | typed {attrs : List Attribute} {pattern : PatternForm} {form : TypeForm}
      {trees : List Tree} {name : Parser.Name} {type : ManagedType}
      {native : Option NativeOverride}
      (named : pattern.name = some name) (denotes : form.Denotes type)
      (isNative : NativeOverride.ofAttributes attrs "native" = .ok native) :
      DeclaresParam file (.typed attrs pattern form trees)
        ⟨name.text, type, native, name.region.location file⟩

/-- A method without result declares the unit type, any other the type that it is written
with. -/
def DeclaresResult (form : Option TypeForm) (type : ManagedType) : Prop :=
  match form with
  | none => type = .unit
  | some form => form.Denotes type

/-- A member of a trait declares a method if it is one that takes its receiver by a reference
without changes, has no generic parameters and no body, does not run later, and has only
arguments besides the receiver that declare a parameter. -/
inductive DeclaresMethod (file : String) : TraitItemForm → MethodDecl → Prop where
  | method {form : MethodForm} {params : List ParamDecl} {result : ManagedType}
      {native : Option NativeOverride}
      (plain : form.generics.hasParams = false) (sync : form.asyncRegion = none)
      (bodiless : form.body = none) (receives : form.takesReceiver = true)
      (isNative : NativeOverride.ofAttributes form.attrs "native_return" = .ok native)
      (each : List.Forall₂ (DeclaresParam file) form.inputs params)
      (returns : DeclaresResult form.resultType result) :
      DeclaresMethod file (.method form)
        ⟨form.name.text, params, result, native, form.name.region.location file⟩

/-- The export of a module that a trait declares: with what its annotation says and all its
members in order. -/
inductive DeclaresExport (file space : String) : ItemForm → ExportDecl → Prop where
  | trait {form : TraitForm} {attr : Attribute} {settings : ExportSettings}
      {methods : List MethodDecl}
      (annotated : form.exportAttribute? = some attr)
      (isSettings : ExportSettings.ofAttribute attr = .ok settings)
      (plain : form.generics.hasParams = false)
      (each : List.Forall₂ (DeclaresMethod file) form.items methods) :
      DeclaresExport file space (.trait form) (declaredExport file space form settings methods)

/-- Exactly the declared parameter is read from an argument with a type. -/
theorem declaredParam_eq_ok_iff {file label : String} {attrs : List Attribute}
    {pattern : PatternForm} {form : TypeForm} (trees : List Tree) {param : ParamDecl} :
    declaredParam file label attrs pattern form = .ok param ↔
      DeclaresParam file (.typed attrs pattern form trees) param := by
  unfold declaredParam
  constructor
  · intro read
    cases named : pattern.name with
    | none =>
        simp only [named] at read
        exact absurd read Outcome.throw_ne_ok
    | some name =>
        simp only [named, Outcome.bind_eq_ok_iff, Outcome.pure_eq_ok_iff,
          ManagedType.ofForm_eq_ok_iff, declared_eq_ok_iff] at read
        obtain ⟨type, denotes, native, isNative, rfl⟩ := read
        exact .typed named denotes isNative
  · rintro ⟨named, denotes, isNative⟩
    simp only [named]
    exact Outcome.bind_eq_ok_iff.mpr ⟨_, ManagedType.ofForm_eq_ok_iff.mpr denotes,
      Outcome.bind_eq_ok_iff.mpr ⟨_, declared_eq_ok_iff.mpr isNative, rfl⟩⟩

/-- An argument with a type is read as the first parameter. -/
theorem declaredParams_typed_eq_ok_iff {file label : String} {attrs : List Attribute}
    {pattern : PatternForm} {form : TypeForm} (trees : List Tree)
    {rest : List ArgumentForm} {params : List ParamDecl} :
    declaredParams file label (.typed attrs pattern form trees :: rest) = .ok params ↔
      ∃ param others, declaredParam file label attrs pattern form = .ok param ∧
        declaredParams file label rest = .ok others ∧ params = param :: others := by
  simp only [declaredParams, List.mapM_cons, Outcome.bind_eq_ok_iff, Outcome.map_eq_ok_iff,
    Outcome.pure_eq_ok_iff]
  constructor
  · rintro ⟨_, ⟨_, ⟨param, isParam, rfl⟩, others, isRest, rfl⟩, rfl⟩
    exact ⟨param, _, isParam, ⟨others, isRest, rfl⟩, rfl⟩
  · rintro ⟨param, _, isParam, ⟨others, isRest, rfl⟩, rfl⟩
    exact ⟨_, ⟨_, ⟨param, isParam, rfl⟩, others, isRest, rfl⟩, rfl⟩

/-- A receiver is read as no parameter. -/
theorem declaredParams_receiver {file label : String} {attrs : List Attribute}
    {byReference mutable : Bool} {trees : List Tree} {rest : List ArgumentForm} :
    declaredParams file label (.receiver attrs byReference mutable trees :: rest)
      = declaredParams file label rest := by
  simp only [declaredParams, List.mapM_cons, pure_bind, bind_assoc, List.filterMap_cons_none, id]

/-- The parameters that are read from some arguments without dots are those that the
arguments besides receivers declare, none left out. -/
theorem declaredParams_eq_ok_iff {file label : String} {arguments : List ArgumentForm}
    {params : List ParamDecl}
    (fixed : ∀ argument ∈ arguments, argument.isVariadic = false) :
    declaredParams file label arguments = .ok params ↔
      List.Forall₂ (DeclaresParam file)
        (arguments.filter fun argument => !argument.isReceiver) params := by
  induction arguments generalizing params with
  | nil =>
      rw [declaredParams, List.mapM_nil, pure_bind, Outcome.pure_eq_ok_iff]
      exact eq_comm.trans List.forall₂_nil_left_iff.symm
  | cons argument rest ih =>
      have fixedRest := fun other isOther => fixed other (List.mem_cons_of_mem argument isOther)
      cases argument with
      | typed attrs pattern form trees =>
          have kept : (ArgumentForm.typed attrs pattern form trees :: rest).filter
              (fun argument => !argument.isReceiver)
              = .typed attrs pattern form trees ::
                  rest.filter fun argument => !argument.isReceiver := rfl
          rw [declaredParams_typed_eq_ok_iff trees, kept, List.forall₂_cons_left_iff]
          simp only [ih fixedRest, declaredParam_eq_ok_iff trees]
      | receiver attrs byReference mutable trees =>
          rw [declaredParams_receiver, ih fixedRest]
          rfl
      | variadic attrs trees => cases fixed _ List.mem_cons_self

/-- A method is elaborate when it has generic parameters, runs later or has dots. -/
theorem Source.MethodForm.isElaborate_eq_false_iff {form : MethodForm} :
    form.isElaborate = false ↔
      form.generics.hasParams = false ∧ form.asyncRegion = none ∧
        ∀ argument ∈ form.arguments.map Prod.fst, argument.isVariadic = false := by
  have dots : form.isElaborate = (form.generics.hasParams || form.asyncRegion.isSome
      || (form.arguments.map Prod.fst).any ArgumentForm.isVariadic) := by
    rw [List.any_map]
    rfl
  rw [dots]
  simp [and_assoc]

/-- Behind its receiver a method has the arguments that are not the receiver. -/
theorem Source.MethodForm.inputs_eq_of_takesReceiver {form : MethodForm}
    (receives : form.takesReceiver = true) :
    form.inputs
      = ((form.arguments.map Prod.fst).drop 1).filter fun argument => !argument.isReceiver := by
  unfold takesReceiver at receives
  split at receives
  · rename_i attrs trees separator rest arguments
    simp [inputs, arguments, ArgumentForm.isReceiver]
  · cases receives

/-- Arguments that declare parameters have no dots among them. -/
theorem isVariadic_eq_false_of_forall₂ {file : String} {arguments : List ArgumentForm}
    {params : List ParamDecl}
    (each : List.Forall₂ (DeclaresParam file)
      (arguments.filter fun argument => !argument.isReceiver) params) :
    ∀ argument ∈ arguments, argument.isVariadic = false := by
  induction arguments generalizing params with
  | nil => simp
  | cons argument rest ih =>
      rw [List.forall_mem_cons]
      cases argument with
      | typed attrs pattern form trees =>
          obtain ⟨_, _, _, others, _⟩ := List.forall₂_cons_left_iff.mp each
          exact ⟨rfl, ih others⟩
      | receiver attrs byReference mutable trees => exact ⟨rfl, ih each⟩
      | variadic attrs trees =>
          obtain ⟨_, _, declares, _⟩ := List.forall₂_cons_left_iff.mp each
          cases declares

/-- What comes after the result type of a method is computed from the declared result. -/
theorem declaredResult_bind_eq_ok_iff {β : Type} {file : String} {form : Option TypeForm}
    {next : ManagedType → Except BindingError β} {value : β} :
    (match form with
      | some type => ManagedType.ofForm file type >>= next
      | none => pure ManagedType.unit >>= next) = .ok value ↔
      ∃ type, DeclaresResult form type ∧ next type = .ok value := by
  cases form with
  | none => simp [DeclaresResult]
  | some form => simp [DeclaresResult, Outcome.bind_eq_ok_iff, ManagedType.ofForm_eq_ok_iff]

/-- Exactly the declared method is read from a method. -/
theorem declaredMethod_eq_ok_iff {file : String} {owner : Parser.Name} {form : MethodForm}
    {method : MethodDecl} :
    declaredMethod file owner form = .ok method ↔ DeclaresMethod file (.method form) method := by
  simp only [declaredMethod]
  constructor
  · intro read
    obtain ⟨simple, read⟩ := Outcome.refusal_eq_ok_iff.mp read
    obtain ⟨bodiless, read⟩ := Outcome.refusal_eq_ok_iff.mp read
    obtain ⟨receives, read⟩ := Outcome.refusal_eq_ok_iff.mp read
    obtain ⟨native, isNative, read⟩ := Outcome.bind_eq_ok_iff.mp read
    obtain ⟨params, each, read⟩ := Outcome.bind_eq_ok_iff.mp read
    obtain ⟨result, returns, read⟩ := declaredResult_bind_eq_ok_iff.mp read
    obtain ⟨plain, sync, fixed⟩ :=
      MethodForm.isElaborate_eq_false_iff.mp (Bool.eq_false_iff.mpr simple)
    have receives : form.takesReceiver = true := by simpa using receives
    rw [declaredParams_eq_ok_iff fun argument later => fixed argument (List.mem_of_mem_drop later),
      ← MethodForm.inputs_eq_of_takesReceiver receives] at each
    rw [← Outcome.pure_eq_ok_iff.mp read]
    exact .method plain sync (by simpa using bodiless) receives (declared_eq_ok_iff.mp isNative)
      each returns
  · rintro @⟨_, params, result, native, plain, sync, bodiless, receives, isNative, each, returns⟩
    -- That there are no dots is a check of its own here, but follows from the parameters.
    have fixed := isVariadic_eq_false_of_forall₂ each
    have simple := MethodForm.isElaborate_eq_false_iff.mpr ⟨plain, sync, fixed⟩
    rw [MethodForm.inputs_eq_of_takesReceiver receives, ← declaredParams_eq_ok_iff] at each
    · refine Outcome.refusal_eq_ok_iff.mpr ⟨by simp [simple], ?_⟩
      refine Outcome.refusal_eq_ok_iff.mpr ⟨by simp [bodiless], ?_⟩
      refine Outcome.refusal_eq_ok_iff.mpr ⟨by simp [receives], ?_⟩
      exact Outcome.bind_eq_ok_iff.mpr ⟨native, declared_eq_ok_iff.mpr isNative,
        Outcome.bind_eq_ok_iff.mpr ⟨params, each,
          declaredResult_bind_eq_ok_iff.mpr ⟨result, returns, rfl⟩⟩⟩
    · exact fun argument later => fixed argument (List.mem_of_mem_drop later)

/-- Exactly the declared method is read from a member of a trait. -/
theorem declaredMember_eq_ok_iff {file : String} {owner : Parser.Name} {item : TraitItemForm}
    {method : MethodDecl} :
    declaredMember file owner item = .ok method ↔ DeclaresMethod file item method := by
  cases item with
  | method form => exact declaredMethod_eq_ok_iff
  | other trees region =>
      constructor
      · intro read
        cases read
      · intro declares
        cases declares

/-- A trait has the settings of its annotation, if it has one and no generic parameters, and no
settings without an annotation. -/
theorem exportSettings_eq_ok_iff {file : String} {form : TraitForm}
    {settings : Option ExportSettings} :
    exportSettings file form = .ok settings ↔
      (form.exportAttribute? = none ∧ settings = none) ∨
      ∃ attr said, form.exportAttribute? = some attr ∧ ExportSettings.ofAttribute attr = .ok said ∧
        form.generics.hasParams = false ∧ settings = some said := by
  unfold exportSettings
  cases annotated : form.exportAttribute? with
  | none =>
      refine Outcome.pure_eq_ok_iff.trans ⟨fun same => .inl ⟨rfl, same.symm⟩, ?_⟩
      rintro (⟨_, rfl⟩ | ⟨_, _, ⟨⟩, _⟩)
      rfl
  | some attr =>
      constructor
      · intro read
        obtain ⟨said, isSaid, read⟩ := Outcome.bind_eq_ok_iff.mp read
        obtain ⟨plain, read⟩ := Outcome.refusal_eq_ok_iff.mp read
        exact .inr ⟨attr, said, rfl, declared_eq_ok_iff.mp isSaid, by simpa using plain,
          (Outcome.pure_eq_ok_iff.mp read).symm⟩
      · rintro (⟨⟨⟩, _⟩ | ⟨_, said, ⟨⟩, isSaid, plain, rfl⟩)
        refine Outcome.bind_eq_ok_iff.mpr ⟨said, declared_eq_ok_iff.mpr isSaid, ?_⟩
        exact Outcome.refusal_eq_ok_iff.mpr ⟨by simp [plain], rfl⟩

/-- A trait is without settings exactly if it is without the annotation. -/
theorem exportSettings_eq_ok_none_iff (file : String) (form : TraitForm) :
    exportSettings file form = .ok none ↔ form.exportAttribute? = none := by
  simp [exportSettings_eq_ok_iff]

/-- A trait declares an export if it has settings and its members declare methods. -/
theorem declaresExport_trait_iff {file space : String} {form : TraitForm} {decl : ExportDecl} :
    DeclaresExport file space (.trait form) decl ↔
      ∃ settings methods, exportSettings file form = .ok (some settings) ∧
        List.Forall₂ (DeclaresMethod file) form.items methods ∧
        declaredExport file space form settings methods = decl := by
  simp only [exportSettings_eq_ok_iff]
  constructor
  · rintro @⟨_, attr, settings, methods, annotated, isSettings, plain, each⟩
    exact ⟨settings, methods, .inr ⟨attr, settings, annotated, isSettings, plain, rfl⟩, each, rfl⟩
  · rintro ⟨settings, methods, ⟨_, ⟨⟩⟩ | ⟨attr, _, annotated, isSettings, plain, ⟨⟩⟩, each, rfl⟩
    exact .trait annotated isSettings plain each

end NativeBridge
