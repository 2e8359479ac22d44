import NativeBridge.Expansion.Export
import NativeBridge.Proofs.Declarations.Reading

/-!
# Exports that the compiler and the generator accept

An exported trait is read twice: the compiler expands it, and the generator reads its
declaration from the source file, where `Findings.ofTrait` is all that is found at the trait.
What declares an export is expanded. The other way round it is not so: the expansion looks
neither at the types of a method nor at dots among its arguments. `TraitItemForm.Crosses`
says what is left to require. The comparison goes member by member, and both ways at once:
to declare is to be accepted and to cross the boundary (`exists_declaresMethod_iff`).
-/

namespace NativeBridge

open Source

/-- Whether some trees are read by a rule does not depend on where their scope ends. -/
theorem Source.readTrees_eq_ok_iff {α : Type} {rule : Grammar → Parser α} {trees : List Tree}
    {scope other : Region} {value : α} :
    readTrees rule trees scope = .ok value ↔ readTrees rule trees other = .ok value := by
  unfold readTrees Parser.runOn
  cases rule (.forTrees trees) (.ofTrees trees) with
  | error stop => simp
  | ok result =>
      obtain ⟨found, input⟩ := result
      cases input.leftover.or (input.rest.head?.map Tree.mark) <;> simp

/-- The trees that an annotation hands over to its expansion; there are none with a value. -/
def Source.Attribute.arguments? (attr : Attribute) : Option (List Tree) :=
  match attr.input with
  | .bare => some []
  | .arguments trees _ => some trees
  | .value _ => none

/-- The trait with one more annotation before its own. -/
def Source.TraitForm.annotated (form : TraitForm) (attr : Attribute) : TraitForm :=
  { form with attrs := attr :: form.attrs }

namespace ExportSettings

/-- Without trees nothing is said. -/
theorem ofArguments_nil : ofArguments [] = .ok standard :=
  rfl

/-- An annotation says what the trees that it hands over say. -/
theorem ofAttribute_eq_ok_iff {attr : Attribute} {trees : List Tree}
    (arguments : attr.arguments? = some trees) {settings : ExportSettings} :
    ofAttribute attr = .ok settings ↔ ofArguments trees = .ok settings := by
  unfold Attribute.arguments? at arguments
  rw [ofAttribute, Attribute.readItems?]
  cases input : attr.input with
  | bare =>
      rw [input] at arguments
      cases arguments
      rfl
  | arguments found closing =>
      rw [input] at arguments
      cases arguments
      simp only [Attribute.readArguments, input, ofArguments, Outcome.bind_eq_ok_iff]
      exact exists_congr fun items => and_congr_left' readTrees_eq_ok_iff
  | value equals =>
      rw [input] at arguments
      cases arguments

end ExportSettings

namespace Source

/-- What the expansion does not look at in an argument: no dots, and a type that stands for a
managed type. -/
inductive ArgumentForm.Crosses : ArgumentForm → Prop where
  | typed {attrs : List Attribute} {pattern : PatternForm} {form : TypeForm} {trees : List Tree}
      {type : ManagedType} (denotes : form.Denotes type) :
      Crosses (.typed attrs pattern form trees)

/-- What the expansion does not look at in a member: its arguments cross the boundary, and its
result is of a type that does. -/
inductive TraitItemForm.Crosses : TraitItemForm → Prop where
  | method {form : MethodForm} {result : ManagedType}
      (inputs : ∀ argument ∈ form.inputs, argument.Crosses)
      (returns : DeclaresResult form.resultType result) : Crosses (.method form)

end Source

namespace Expansion

/-- What is read from an annotation does not depend on how its faults are reported. -/
theorem lift_eq_ok_iff {α : Type} {read : Except Fault α} {value : α} :
    Refusal.lift read = .ok value ↔ read = .ok value :=
  Outcome.mapError_eq_ok_iff

/-- An argument with a type is accepted if it is a plain name whose annotations can be read. -/
theorem checkArgument_typed_eq_ok_iff {attrs : List Attribute} {pattern : PatternForm}
    {form : TypeForm} {trees : List Tree} :
    checkArgument (.typed attrs pattern form trees) = .ok () ↔
      (∃ name, pattern.name = some name) ∧
        ∃ native, NativeOverride.ofAttributes attrs "native" = .ok native := by
  simp only [checkArgument]
  rw [Outcome.refusal_eq_ok_iff, Outcome.bind_eq_ok_iff]
  simp [lift_eq_ok_iff, Option.isNone_iff_eq_none, Option.ne_none_iff_exists',
    Outcome.pure_eq_ok_iff]

/-- An argument besides receivers declares a parameter exactly if it is accepted and crosses the
boundary. -/
theorem exists_declaresParam_iff {file : String} {argument : ArgumentForm}
    (isInput : argument.isReceiver = false) :
    (∃ param, DeclaresParam file argument param) ↔
      checkArgument argument = .ok () ∧ argument.Crosses := by
  cases argument with
  | typed attrs pattern form trees =>
      rw [checkArgument_typed_eq_ok_iff]
      constructor
      · rintro ⟨_, named, denotes, isNative⟩
        exact ⟨⟨⟨_, named⟩, _, isNative⟩, .typed denotes⟩
      · rintro ⟨⟨⟨name, named⟩, native, isNative⟩, ⟨denotes⟩⟩
        exact ⟨_, .typed named denotes isNative⟩
  | receiver attrs byReference mutable trees => cases isInput
  | variadic attrs trees =>
      constructor
      · rintro ⟨_, ⟨⟩⟩
      · rintro ⟨_, ⟨⟩⟩

/-- The check of some arguments is a check of those besides receivers. -/
theorem forM_checkArgument_eq_ok_iff {arguments : List (ArgumentForm × List Tree)} :
    arguments.forM (fun entry => checkArgument entry.1) = .ok () ↔
      ∀ argument ∈ (arguments.map Prod.fst).filter fun argument => !argument.isReceiver,
        checkArgument argument = .ok () := by
  rw [Outcome.forM_eq_ok_iff]
  simp only [List.mem_filter, List.mem_map]
  constructor
  · rintro each _ ⟨⟨entry, isEntry, rfl⟩, -⟩
    exact each entry isEntry
  · intro each entry isEntry
    cases receives : entry.1.isReceiver with
    | false => exact each entry.1 ⟨⟨entry, isEntry, rfl⟩, by simp [receives]⟩
    | true =>
        obtain ⟨argument, trees⟩ := entry
        cases argument with
        | receiver => rfl
        | typed | variadic => cases receives

/-- A method is accepted exactly if it is a declaration that takes its receiver, has annotations
that can be read and arguments that are accepted. -/
theorem checkMethod_eq_ok_iff {form : MethodForm} :
    checkMethod form = .ok () ↔
      form.generics.hasParams = false ∧ form.asyncRegion = none ∧ form.body = none ∧
        form.takesReceiver = true ∧
        (∃ native, NativeOverride.ofAttributes form.attrs "native_return" = .ok native) ∧
        ∀ argument ∈ form.inputs, checkArgument argument = .ok () := by
  simp only [checkMethod]
  rw [Outcome.refusal_eq_ok_iff]
  -- A region of `async` or of a body is a refusal; only a method with neither goes on.
  rcases sync : form.asyncRegion with _ | region
  · rcases bodiless : form.body with _ | region
    · simp only [true_and]
      rw [Outcome.refusal_eq_ok_iff, Outcome.bind_eq_ok_iff]
      constructor
      · rintro ⟨plain, receives, native, isNative, accepted⟩
        have receives : form.takesReceiver = true := by simpa using receives
        rw [forM_checkArgument_eq_ok_iff, List.map_drop,
          ← MethodForm.inputs_eq_of_takesReceiver receives] at accepted
        exact ⟨by simpa using plain, receives, ⟨native, lift_eq_ok_iff.mp isNative⟩, accepted⟩
      · rintro ⟨plain, receives, ⟨native, isNative⟩, accepted⟩
        rw [MethodForm.inputs_eq_of_takesReceiver receives, ← List.map_drop,
          ← forM_checkArgument_eq_ok_iff] at accepted
        exact ⟨by simp [plain], by simp [receives], native, lift_eq_ok_iff.mpr isNative, accepted⟩
    · simp [Outcome.throw_bind_ne_ok]
  · simp [Outcome.throw_bind_ne_ok]

/-- The arguments of a method besides receivers declare parameters exactly if all of them are
accepted and cross the boundary. -/
theorem exists_declaresParams_iff (file : String) {form : MethodForm} :
    (∃ params, List.Forall₂ (DeclaresParam file) form.inputs params) ↔
      (∀ argument ∈ form.inputs, checkArgument argument = .ok ()) ∧
        ∀ argument ∈ form.inputs, argument.Crosses := by
  rw [exists_forall₂_iff, ← forall₂_and]
  refine forall₂_congr fun argument isInput => exists_declaresParam_iff ?_
  simpa using (List.mem_filter.mp isInput).2

/-- A member declares a method exactly if it is accepted and crosses the boundary. -/
theorem exists_declaresMethod_iff {file : String} {item : TraitItemForm} :
    (∃ method, DeclaresMethod file item method) ↔ checkMember item = .ok () ∧ item.Crosses := by
  cases item with
  | other trees region =>
      constructor
      · rintro ⟨_, ⟨⟩⟩
      · rintro ⟨_, ⟨⟩⟩
  | method form =>
      rw [checkMember, checkMethod_eq_ok_iff]
      constructor
      · rintro ⟨_, ⟨plain, sync, bodiless, receives, isNative, each, returns⟩⟩
        obtain ⟨accepted, crosses⟩ := (exists_declaresParams_iff file).mp ⟨_, each⟩
        exact ⟨⟨plain, sync, bodiless, receives, ⟨_, isNative⟩, accepted⟩,
          .method crosses returns⟩
      · rintro ⟨⟨plain, sync, bodiless, receives, ⟨native, isNative⟩, accepted⟩,
          ⟨crosses, returns⟩⟩
        obtain ⟨params, each⟩ := (exists_declaresParams_iff file).mpr ⟨accepted, crosses⟩
        exact ⟨_, .method plain sync bodiless receives isNative each returns⟩

/-- A list is without refusals exactly if everything in it is accepted. -/
theorem refusals_eq_nil_iff {results : List (Except Refusal Unit)} :
    refusals results = [] ↔ ∀ result ∈ results, result = .ok () := by
  induction results with
  | nil => simp [refusals]
  | cons result rest ih => cases result <;> simp [refusals, ih]

/-- The members of a trait are without refusals exactly if all of them are accepted. -/
theorem refusals_members_eq_nil_iff {items : List TraitItemForm} :
    refusals (items.map checkMember) = [] ↔ ∀ item ∈ items, checkMember item = .ok () := by
  rw [refusals_eq_nil_iff, List.forall_mem_map]

/-- A trait is passed on, without helpers, exactly if it has no generic parameters and all its
members are accepted. -/
theorem exportedTrait_eq_ok_iff {form passed : TraitForm} :
    exportedTrait form = .ok passed ↔
      form.generics.hasParams = false ∧ (∀ item ∈ form.items, checkMember item = .ok ()) ∧
        stripTrait form = passed := by
  rw [exportedTrait, ← refusals_members_eq_nil_iff]
  cases form.generics.hasParams <;> cases refusals (form.items.map checkMember) <;> simp

/-- A trait is expanded exactly if it has no generic parameters and all its members are
accepted. -/
theorem exists_expandExport_iff {settings : ExportSettings} {form : TraitForm} :
    (∃ parts, expandExport settings form = .ok parts) ↔
      form.generics.hasParams = false ∧ ∀ item ∈ form.items, checkMember item = .ok () := by
  simp [expandExport, Outcome.map_eq_ok_iff, exportedTrait_eq_ok_iff]

/-- The methods that the members of a trait declare are there exactly if all members are
accepted and cross the boundary. -/
theorem exists_declaresMethods_iff (file : String) {items : List TraitItemForm} :
    (∃ methods, List.Forall₂ (DeclaresMethod file) items methods) ↔
      (∀ item ∈ items, checkMember item = .ok ()) ∧ ∀ item ∈ items, item.Crosses := by
  rw [exists_forall₂_iff, ← forall₂_and]
  exact forall₂_congr fun item _ => exists_declaresMethod_iff

/-- An annotation of exports before all others is the one that is read. -/
theorem exportAttribute?_annotated {form : TraitForm} {attr : Attribute}
    (annotates : attr.endsWith "bind_export" = true) :
    (form.annotated attr).exportAttribute? = some attr := by
  simp [TraitForm.exportAttribute?, TraitForm.annotated, ExportSettings.attribute?, annotates]

/-- An annotated trait is found without a fault exactly if it declares an export, and in this
case the export is found. -/
theorem ofTrait_annotated_eq_iff {file space : String} {form : TraitForm} {attr : Attribute}
    (annotates : attr.endsWith "bind_export" = true) {declarations : Declarations} :
    Findings.ofTrait file space (form.annotated attr) = ⟨declarations, []⟩ ↔
      ∃ decl, DeclaresExport file space (.trait (form.annotated attr)) decl ∧
        declarations = ⟨[], [decl]⟩ := by
  rw [Findings.ofTrait_eq_iff, ItemForm.isExport_trait, exportAttribute?_annotated annotates]
  simp

/-- An annotated trait declares an export exactly if the trees of its annotation are read as
settings, it has no generic parameters and its members declare methods. What is declared is
what the settings say. -/
theorem declaresExport_annotated_iff (file space : String) {form : TraitForm}
    {attr : Attribute} {trees : List Tree} (annotates : attr.endsWith "bind_export" = true)
    (arguments : attr.arguments? = some trees) {decl : ExportDecl} :
    DeclaresExport file space (.trait (form.annotated attr)) decl ↔
      ∃ settings methods, ExportSettings.ofArguments trees = .ok settings ∧
        form.generics.hasParams = false ∧
        List.Forall₂ (DeclaresMethod file) form.items methods ∧
        declaredExport file space (form.annotated attr) settings methods = decl := by
  constructor
  · rintro @⟨_, found, settings, methods, isFound, isSettings, plain, each⟩
    cases (exportAttribute?_annotated annotates).symm.trans isFound
    exact ⟨settings, methods, (ExportSettings.ofAttribute_eq_ok_iff arguments).mp isSettings,
      plain, each, rfl⟩
  · rintro ⟨settings, methods, isSettings, plain, each, rfl⟩
    exact .trait (exportAttribute?_annotated annotates)
      ((ExportSettings.ofAttribute_eq_ok_iff arguments).mpr isSettings) plain each

/-- An annotation of exports that hands over some trees. -/
def handingOver (trees : List Tree) : Attribute :=
  ⟨false, false, [⟨"bind_export", .origin⟩], .arguments trees .origin, []⟩

/-- What the generator declares, the compiler expands, and both read the same settings. -/
theorem expansion_accepts_declared {file space : String} {form : TraitForm} {attr : Attribute}
    {trees : List Tree} (annotates : attr.endsWith "bind_export" = true)
    (arguments : attr.arguments? = some trees)
    (faultless : (Findings.ofTrait file space (form.annotated attr)).errors = []) :
    ∃ settings decl, ExportSettings.ofArguments trees = .ok settings ∧
      (∃ parts, expandExport settings form = .ok parts) ∧
      (Findings.ofTrait file space (form.annotated attr)).declarations = ⟨[], [decl]⟩ ∧
      decl.nativeNamespace = settings.nativeNamespace ∧ decl.kind = settings.kind ∧
      decl.subject = settings.subject.map Subject.name := by
  obtain ⟨decl, declares, found⟩ :=
    (ofTrait_annotated_eq_iff annotates).mp (Findings.eq_of_errors_eq_nil faultless)
  obtain ⟨settings, methods, isSettings, plain, each, rfl⟩ :=
    (declaresExport_annotated_iff file space annotates arguments).mp declares
  have accepted := ((exists_declaresMethods_iff file).mp ⟨methods, each⟩).1
  exact ⟨settings, _, isSettings, exists_expandExport_iff.mpr ⟨plain, accepted⟩, found, rfl, rfl,
    rfl⟩

/-- A trait whose method crosses the boundary. -/
def lampText : String :=
  "trait Lamp { fn tint(&self, by: u8); }"

/-- What a lamp says about itself as an export. -/
def lampArguments : String :=
  "kind = \"record\", subject = Color"

/-- A lamp is expanded with the kind and the subject that it is declared with. -/
theorem expansion_accepts_declared_lamp :
    ∃ trees form settings decl, Source.trees lampArguments = .ok trees ∧
      readText? traitRule lampText = some form ∧
      ExportSettings.ofArguments trees = .ok settings ∧
      (∃ parts, expandExport settings form = .ok parts) ∧
      (Findings.ofTrait "paint.rs" "paint" (form.annotated (handingOver trees))).declarations
        = ⟨[], [decl]⟩ ∧
      decl.nativeNamespace = settings.nativeNamespace ∧ decl.kind = settings.kind ∧
      decl.subject = settings.subject.map Subject.name := by
  have computed : (Source.trees lampArguments).toOption.map (fun trees =>
      (readText? traitRule lampText).map fun form =>
        (Findings.ofTrait "paint.rs" "paint" (form.annotated (handingOver trees))).errors)
      = some (some []) := by
    decide +kernel
  obtain ⟨trees, isTrees, computed⟩ := exists_ok_of_computed computed
  obtain ⟨form, isForm, faultless⟩ := Option.map_eq_some_iff.mp computed
  have handed : (handingOver trees).arguments? = some trees := rfl
  obtain ⟨settings, decl, accepted⟩ := expansion_accepts_declared (by rfl) handed faultless
  exact ⟨trees, form, settings, decl, isTrees, isForm, accepted⟩

/-- What the compiler expands, the generator declares exactly if all members cross the
boundary. -/
theorem declared_iff_of_expansion {file space : String} {form : TraitForm} {attr : Attribute}
    {trees : List Tree} {settings : ExportSettings} {parts : List String}
    (annotates : attr.endsWith "bind_export" = true) (arguments : attr.arguments? = some trees)
    (isSettings : ExportSettings.ofArguments trees = .ok settings)
    (expands : expandExport settings form = .ok parts) :
    (Findings.ofTrait file space (form.annotated attr)).errors = [] ↔
      ∀ item ∈ form.items, item.Crosses := by
  obtain ⟨plain, accepted⟩ := exists_expandExport_iff.mp ⟨parts, expands⟩
  constructor
  · intro faultless
    obtain ⟨decl, declares, -⟩ :=
      (ofTrait_annotated_eq_iff annotates).mp (Findings.eq_of_errors_eq_nil faultless)
    obtain ⟨_, methods, -, -, each, -⟩ :=
      (declaresExport_annotated_iff file space annotates arguments).mp declares
    exact ((exists_declaresMethods_iff file).mp ⟨methods, each⟩).2
  · intro crosses
    obtain ⟨methods, each⟩ := (exists_declaresMethods_iff file).mpr ⟨accepted, crosses⟩
    have declares := (declaresExport_annotated_iff file space annotates arguments).mpr
      ⟨settings, methods, isSettings, plain, each, rfl⟩
    rw [(ofTrait_annotated_eq_iff annotates).mpr ⟨_, declares, rfl⟩]

/-- A trait whose method takes what cannot cross the boundary. -/
def sinkText : String :=
  "trait Sink { fn put(&self, bytes: Vec<u8>); }"

/-- The reading of a sink, its expansion and the faults of its declaration. -/
theorem sink_computed :
    (readText? traitRule sinkText).map (fun form =>
      ((expandExport .standard form).toOption.map fun _ => (),
        (Findings.ofTrait "sink.rs" "" (form.annotated (handingOver []))).errors))
      = some (some (), [.invalidDeclaration "generic types cannot cross the boundary"
        ⟨"sink.rs", ⟨1, 35, 7⟩⟩]) := by
  decide +kernel

/-- A sink is expanded, so that its declaration depends on its member alone. -/
theorem declared_iff_of_expansion_sink :
    ∃ form parts, readText? traitRule sinkText = some form ∧
      expandExport .standard form = .ok parts ∧
      ((Findings.ofTrait "sink.rs" "" (form.annotated (handingOver []))).errors = [] ↔
        ∀ item ∈ form.items, item.Crosses) := by
  obtain ⟨form, isForm, computed⟩ := Option.map_eq_some_iff.mp sink_computed
  obtain ⟨parts, expands, -⟩ := exists_ok_of_computed (Prod.ext_iff.mp computed).1
  have handed : (handingOver []).arguments? = some [] := rfl
  exact ⟨form, parts, isForm, expands,
    declared_iff_of_expansion (by rfl) handed ExportSettings.ofArguments_nil expands⟩

/-- The compiler expands a sink, but the generator refuses its declaration. -/
theorem expansion_accepts_undeclared :
    ∃ form parts, readText? traitRule sinkText = some form ∧
      ExportSettings.ofArguments [] = .ok .standard ∧
      expandExport .standard form = .ok parts ∧
      (Findings.ofTrait "sink.rs" "" (form.annotated (handingOver []))).errors =
        [.invalidDeclaration "generic types cannot cross the boundary"
          ⟨"sink.rs", ⟨1, 35, 7⟩⟩] := by
  obtain ⟨form, isForm, computed⟩ := Option.map_eq_some_iff.mp sink_computed
  obtain ⟨expands, refused⟩ := Prod.ext_iff.mp computed
  obtain ⟨parts, expands, -⟩ := exists_ok_of_computed expands
  exact ⟨form, parts, isForm, ExportSettings.ofArguments_nil, expands, refused⟩

end Expansion

end NativeBridge
