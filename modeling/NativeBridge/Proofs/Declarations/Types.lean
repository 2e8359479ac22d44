import NativeBridge.Declarations.Types
import NativeBridge.Proofs.Outcome

/-!
# What declared types say

A structure or an enumeration with a readable list of derivations that has `Blittable`
in it is a declared type. `DeclaresType` says which type it declares; what has no such type
is refused: `declaredType_eq_ok_iff`.
-/

namespace NativeBridge

open Source

/-- The managed type that a written type stands for. Paths with arguments, references with
a lifetime and all other kinds of types stand for none. -/
inductive Source.TypeForm.Denotes : TypeForm → ManagedType → Prop where
  | path (leading : Bool) (segments : List String) (region : Region) :
      Denotes (.path leading segments false region)
        (.path ((if leading then "::" else "") ++ "::".intercalate segments))
  | reference {target : TypeForm} {type : ManagedType} (mutable : Bool) (region : Region)
      (denotes : Denotes target type) :
      Denotes (.reference false mutable target region) (.ref mutable type)
  | pointer {target : TypeForm} {type : ManagedType} (mutable : Bool) (region : Region)
      (denotes : Denotes target type) :
      Denotes (.pointer mutable target region) (.ptr mutable type)
  | unit (region : Region) : Denotes (.unit region) .unit
  | enclosed {inner : TypeForm} {type : ManagedType} (region : Region)
      (denotes : Denotes inner type) :
      Denotes (.enclosed inner region) type

/-- Exactly the written types that stand for a managed type can be read as one. -/
theorem ManagedType.ofForm_eq_ok_iff {file : String} {form : TypeForm} {type : ManagedType} :
    ManagedType.ofForm file form = .ok type ↔ form.Denotes type := by
  constructor
  · intro read
    induction form generalizing type with
    | path leading segments isGeneric region =>
        cases isGeneric with
        | true => cases read
        | false =>
            cases read
            exact .path leading segments region
    | reference hasLifetime mutable target region ih =>
        cases hasLifetime with
        | true => cases read
        | false =>
            obtain ⟨inner, readInner, rfl⟩ := Outcome.map_eq_ok_iff.mp read
            exact .reference mutable region (ih readInner)
    | pointer mutable target region ih =>
        obtain ⟨inner, readInner, rfl⟩ := Outcome.map_eq_ok_iff.mp read
        exact .pointer mutable region (ih readInner)
    | unit region =>
        cases read
        exact .unit region
    | enclosed inner region ih => exact .enclosed region (ih read)
    | other region => cases read
  · intro denotes
    induction denotes with
    | path leading segments region => rfl
    | reference mutable region _ ih => exact Outcome.map_eq_ok_iff.mpr ⟨_, ih, rfl⟩
    | pointer mutable region _ ih => exact Outcome.map_eq_ok_iff.mpr ⟨_, ih, rfl⟩
    | unit region => rfl
    | enclosed region _ ih => exact ih

/-- What is read from an annotation does not depend on how its faults are placed. -/
theorem declared_eq_ok_iff {α : Type} {file : String} {read : Except Fault α} {value : α} :
    declared file read = .ok value ↔ read = .ok value :=
  Outcome.mapError_eq_ok_iff

/-- The annotation is a readable list of derivations with a name in it. -/
def Source.Attribute.lists (attr : Attribute) (name : String) : Bool :=
  attr.isNamed "derive" && match derivedNames attr with
    | .ok names => names.contains name
    | .error _ => false

/-- Every list of derivations before one that has the name can be read. -/
def ReadableDerivations (name : String) (attrs : List Attribute) : Prop :=
  ∀ attr ∈ attrs.takeWhile fun attr => !attr.lists name, attr.isNamed "derive" = true →
    ∃ names, derivedNames attr = .ok names

/-- Behind a list that has the name nothing needs to be readable. -/
theorem readableDerivations_cons_of_lists {name : String} {attr : Attribute}
    {rest : List Attribute} (lists : attr.lists name = true) :
    ReadableDerivations name (attr :: rest) := by
  simp [ReadableDerivations, lists]

/-- An annotation that does not have the name must be readable if it is a list. -/
theorem readableDerivations_cons_iff {name : String} {attr : Attribute}
    {rest : List Attribute} (lacks : attr.lists name = false) :
    ReadableDerivations name (attr :: rest) ↔
      (attr.isNamed "derive" = true → ∃ names, derivedNames attr = .ok names) ∧
        ReadableDerivations name rest := by
  simp [ReadableDerivations, lacks]

/-- Whether a name is derived can be told when the lists before it can be read, and then it is
derived exactly if some list has it. -/
theorem derives_eq_ok_iff {name : String} {attrs : List Attribute} {answer : Bool} :
    derives name attrs = .ok answer ↔
      ReadableDerivations name attrs ∧ attrs.any (Attribute.lists · name) = answer := by
  induction attrs with
  | nil => simp [derives, ReadableDerivations]
  | cons attr rest ih =>
      rw [derives, List.any_cons]
      by_cases isList : attr.isNamed "derive" = true
      · rw [if_pos isList, Outcome.bind_eq_ok_iff]
        cases readable : derivedNames attr with
        | error fault =>
            have lacks : attr.lists name = false := by simp [Attribute.lists, readable]
            simp [readableDerivations_cons_iff lacks, isList, readable]
        | ok names =>
            have known : attr.lists name = names.contains name := by
              simp [Attribute.lists, readable, isList]
            cases listed : names.contains name with
            | true =>
                rw [listed] at known
                simp [readableDerivations_cons_of_lists known, known, Outcome.pure_eq_ok_iff,
                  -List.contains_eq_mem, listed]
            | false =>
                rw [listed] at known
                simp [readableDerivations_cons_iff known, known, readable, ih,
                  -List.contains_eq_mem, listed]
      · have lacks : attr.lists name = false := by simp [Attribute.lists, isList]
        rw [if_neg isList, ih, readableDerivations_cons_iff lacks, lacks, Bool.false_or]
        simp [isList]

/-- A field of a structure declares a field with its name and the type it stands for. -/
structure DeclaresField (file : String) (form : FieldForm) (field : BlittableField) :
    Prop where
  name : field.name = form.name.text
  type : form.type.Denotes field.type
  location : field.location = form.name.region.location file

/-- Exactly the declared field is read from a field. -/
theorem declaredField_eq_ok_iff {file : String} {form : FieldForm} {field : BlittableField} :
    declaredField file form = .ok field ↔ DeclaresField file form field := by
  simp only [declaredField, Outcome.bind_eq_ok_iff, Outcome.pure_eq_ok_iff,
    ManagedType.ofForm_eq_ok_iff]
  constructor
  · rintro ⟨type, denotes, rfl⟩
    exact ⟨rfl, denotes, rfl⟩
  · rintro ⟨name, denotes, location⟩
    obtain ⟨_, type, _⟩ := field
    cases name
    cases location
    exact ⟨type, denotes, rfl⟩

/-- A variant without fields says its name. -/
theorem declaredVariant_eq_ok_iff {file : String} {owner : Parser.Name} {variant : VariantForm}
    {name : String} :
    declaredVariant file owner variant = .ok name ↔
      variant.hasFields = false ∧ variant.name.text = name := by
  unfold declaredVariant
  cases variant.hasFields <;> simp

/-- The variants of an enumeration without fields say their names in order. -/
theorem mapM_declaredVariant_eq_ok_iff {file : String} {owner : Parser.Name}
    {variants : List VariantForm} {names : List String} :
    variants.mapM (declaredVariant file owner) = .ok names ↔
      (∀ variant ∈ variants, variant.hasFields = false) ∧
        variants.map (fun variant => variant.name.text) = names := by
  simp only [Outcome.mapM_eq_ok_iff, declaredVariant_eq_ok_iff]
  rw [List.forall₂_and_left, ← List.forall₂_map_left_iff (R := Eq), List.forall₂_eq_eq_eq]

/-- A type says something about itself exactly if it derives its mapping, and only if it has
no generic parameters and its annotations can be read. -/
theorem typeHeader_eq_ok_iff {file : String} {attrs : List Attribute} {name : Parser.Name}
    {generics : GenericsForm} {header : Option TypeHeader} :
    typeHeader file attrs name generics = .ok header ↔
      (derives "Blittable" attrs = .ok false ∧ header = none) ∨
      (derives "Blittable" attrs = .ok true ∧ generics.hasParams = false ∧
        ∃ naming repr, NativeNaming.ofAttributes attrs = .ok naming ∧
          Representation.ofAttributes attrs = .ok repr ∧ header = some ⟨naming, repr⟩) := by
  simp only [typeHeader, Outcome.bind_eq_ok_iff, declared_eq_ok_iff]
  constructor
  · rintro ⟨derived, isDerived, rest⟩
    cases derived with
    | false => exact .inl ⟨isDerived, (Outcome.pure_eq_ok_iff.mp rest).symm⟩
    | true =>
        obtain ⟨plain, rest⟩ := Outcome.refusal_eq_ok_iff.mp rest
        obtain ⟨naming, isNaming, rest⟩ := Outcome.bind_eq_ok_iff.mp rest
        obtain ⟨repr, isRepr, rest⟩ := Outcome.bind_eq_ok_iff.mp rest
        exact .inr ⟨isDerived, by simpa using plain, naming, repr, declared_eq_ok_iff.mp isNaming,
          declared_eq_ok_iff.mp isRepr, (Outcome.pure_eq_ok_iff.mp rest).symm⟩
  · rintro (⟨isDerived, rfl⟩ | ⟨isDerived, plain, naming, repr, isNaming, isRepr, rfl⟩)
    · exact ⟨false, isDerived, rfl⟩
    · refine ⟨true, isDerived, Outcome.refusal_eq_ok_iff.mpr ⟨by simp [plain], ?_⟩⟩
      exact Outcome.bind_eq_ok_iff.mpr ⟨naming, declared_eq_ok_iff.mpr isNaming,
        Outcome.bind_eq_ok_iff.mpr ⟨repr, declared_eq_ok_iff.mpr isRepr, rfl⟩⟩

/-- The type of a module that a structure or an enumeration declares: with all its fields or
variants in order, and with what its annotations say about the native side. -/
inductive DeclaresType (file space : String) : ItemForm → Blittable → Prop where
  | struct {form : StructForm} {naming : NativeNaming} {repr : Representation}
      {fields : List FieldForm} {declared : List BlittableField}
      (plain : form.generics.hasParams = false)
      (isNaming : NativeNaming.ofAttributes form.attrs = .ok naming)
      (isRepr : Representation.ofAttributes form.attrs = .ok repr) (isC : repr.isC = true)
      (named : form.fields = .named fields)
      (each : List.Forall₂ (DeclaresField file) fields declared) :
      DeclaresType file space (.struct form)
        ⟨form.name.text, space, naming.name.getD form.name.text, naming.module,
          .record declared, form.name.region.location file⟩
  | enumeration {form : EnumForm} {naming : NativeNaming} {repr : Representation}
      {integer : Primitive}
      (plain : form.generics.hasParams = false)
      (isNaming : NativeNaming.ofAttributes form.attrs = .ok naming)
      (isRepr : Representation.ofAttributes form.attrs = .ok repr)
      (stored : repr.enumeration? = some integer)
      (fieldless : ∀ variant ∈ form.variants, variant.hasFields = false) :
      DeclaresType file space (.enumeration form)
        ⟨form.name.text, space, naming.name.getD form.name.text, naming.module,
          .enumeration integer (form.variants.map fun variant => variant.name.text),
          form.name.region.location file⟩

/-- The annotations of an item that may derive a mapping. -/
def Source.ItemForm.derivations : ItemForm → List Attribute
  | .struct form => form.attrs
  | .enumeration form => form.attrs
  | _ => []

/-- The declared type that is read from an item, if it is one. -/
def declaredType (file space : String) : ItemForm → Except BindingError (Option Blittable)
  | .struct form => declaredStruct file space form
  | .enumeration form => declaredEnum file space form
  | _ => .ok none

/-- A structure is read as the type that it declares, if it derives its mapping. -/
theorem declaredStruct_eq_ok_iff {file space : String} {form : StructForm}
    {type : Option Blittable} :
    declaredStruct file space form = .ok type ↔
      (derives "Blittable" form.attrs = .ok false ∧ type = none) ∨
      (derives "Blittable" form.attrs = .ok true ∧
        ∃ declared, type = some declared ∧ DeclaresType file space (.struct form) declared) := by
  simp only [declaredStruct, Outcome.bind_eq_ok_iff, typeHeader_eq_ok_iff]
  constructor
  · rintro ⟨header, ⟨skipped, rfl⟩ | ⟨derived, plain, naming, repr, isNaming, isRepr, rfl⟩, rest⟩
    · exact .inl ⟨skipped, (Outcome.pure_eq_ok_iff.mp rest).symm⟩
    · obtain ⟨isC, rest⟩ := Outcome.refusal_eq_ok_iff.mp rest
      cases named : form.fields with
      | named fields =>
          rw [named] at rest
          obtain ⟨declared, each, rest⟩ := Outcome.bind_eq_ok_iff.mp rest
          simp only [Outcome.mapM_eq_ok_iff, declaredField_eq_ok_iff] at each
          exact .inr ⟨derived, _, (Outcome.pure_eq_ok_iff.mp rest).symm,
            .struct plain isNaming isRepr (by simpa using isC) named each⟩
      | positional region =>
          rw [named] at rest
          exact absurd rest Outcome.throw_ne_ok
      | none =>
          rw [named] at rest
          exact absurd rest Outcome.throw_ne_ok
  · rintro (⟨skipped, rfl⟩ | ⟨derived, _, rfl, declares⟩)
    · exact ⟨none, .inl ⟨skipped, rfl⟩, rfl⟩
    · cases declares with
      | @struct _ naming repr fields declared plain isNaming isRepr isC named each =>
          refine ⟨_, .inr ⟨derived, plain, naming, repr, isNaming, isRepr, rfl⟩, ?_⟩
          refine Outcome.refusal_eq_ok_iff.mpr ⟨by simp [isC], ?_⟩
          rw [named]
          refine Outcome.bind_eq_ok_iff.mpr ⟨declared, ?_, rfl⟩
          simpa only [Outcome.mapM_eq_ok_iff, declaredField_eq_ok_iff] using each

/-- An enumeration is read as the type that it declares, if it derives its mapping. -/
theorem declaredEnum_eq_ok_iff {file space : String} {form : EnumForm}
    {type : Option Blittable} :
    declaredEnum file space form = .ok type ↔
      (derives "Blittable" form.attrs = .ok false ∧ type = none) ∨
      (derives "Blittable" form.attrs = .ok true ∧
        ∃ declared, type = some declared ∧
          DeclaresType file space (.enumeration form) declared) := by
  simp only [declaredEnum, Outcome.bind_eq_ok_iff, typeHeader_eq_ok_iff]
  constructor
  · rintro ⟨header, ⟨skipped, rfl⟩ | ⟨derived, plain, naming, repr, isNaming, isRepr, rfl⟩, rest⟩
    · exact .inl ⟨skipped, (Outcome.pure_eq_ok_iff.mp rest).symm⟩
    · cases stored : repr.enumeration? with
      | none =>
          simp only [stored] at rest
          exact absurd rest Outcome.throw_ne_ok
      | some integer =>
          simp only [stored] at rest
          obtain ⟨names, each, rest⟩ := Outcome.bind_eq_ok_iff.mp rest
          obtain ⟨fieldless, rfl⟩ := mapM_declaredVariant_eq_ok_iff.mp each
          exact .inr ⟨derived, _, (Outcome.pure_eq_ok_iff.mp rest).symm,
            .enumeration plain isNaming isRepr stored fieldless⟩
  · rintro (⟨skipped, rfl⟩ | ⟨derived, _, rfl, declares⟩)
    · exact ⟨none, .inl ⟨skipped, rfl⟩, rfl⟩
    · cases declares with
      | @enumeration _ naming repr integer plain isNaming isRepr stored fieldless =>
          refine ⟨_, .inr ⟨derived, plain, naming, repr, isNaming, isRepr, rfl⟩, ?_⟩
          simp only [stored]
          exact Outcome.bind_eq_ok_iff.mpr
            ⟨_, mapM_declaredVariant_eq_ok_iff.mpr ⟨fieldless, rfl⟩, rfl⟩

/-- An item is read as the type that it declares if it derives its mapping, and as no type if
it does not; in all other cases it is refused. -/
theorem declaredType_eq_ok_iff {file space : String} {item : ItemForm}
    {type : Option Blittable} :
    declaredType file space item = .ok type ↔
      (derives "Blittable" item.derivations = .ok false ∧ type = none) ∨
      (derives "Blittable" item.derivations = .ok true ∧
        ∃ declared, type = some declared ∧ DeclaresType file space item declared) := by
  cases item with
  | struct form => exact declaredStruct_eq_ok_iff
  | enumeration form => exact declaredEnum_eq_ok_iff
  | trait | module | other =>
      simp only [declaredType, ItemForm.derivations, derives, Except.ok.injEq, true_and,
        Bool.false_eq_true, false_and, or_false]
      exact eq_comm

end NativeBridge
