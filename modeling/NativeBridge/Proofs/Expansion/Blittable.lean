import NativeBridge.Expansion.Blittable
import NativeBridge.Proofs.Expansion.Export
import NativeBridge.Proofs.Text.Escaped

/-!
# Blittable types that the compiler and the generator accept

A type that derives its mapping is read twice: the compiler follows it with the mapping, and
the generator records it from the source file. Both look at the same annotations, but each
goes through checks of its own, and only the generator looks at the types of fields. Where
these stand for managed types, both accept the same items (`declares_of_derivedMapping` and
`derivedMapping_of_declares`), and what the compiler writes into the mapping reads back as the
native name and the module that the generator records: `expansion_agrees_with_reading`.
-/

namespace NativeBridge

open Source

namespace Source

/-- The item of a source file that a derivation stands on; a union is none that is kept. -/
def DerivedForm.item : DerivedForm → ItemForm
  | struct form => .struct form
  | enumeration form => .enumeration form
  | union _ _ _ _ => .other

/-- The types of all fields with names stand for managed types. -/
def ItemForm.FieldsDenote : ItemForm → Prop
  | struct form => ∀ fields, form.fields = .named fields →
      ∀ field ∈ fields, ∃ type, field.type.Denotes type
  | _ => True

end Source

/-- The fields of what declares a type are of managed types. -/
theorem fieldsDenote_of_declares {file space : String} {item : ItemForm} {type : Blittable}
    (declares : DeclaresType file space item type) : item.FieldsDenote := by
  cases declares with
  | struct plain isNaming isRepr isC named each =>
      intro fields isFields field isField
      cases named.symm.trans isFields
      obtain ⟨declared, isDeclared⟩ := exists_forall₂_iff.mp ⟨_, each⟩ field isField
      exact ⟨declared.type, isDeclared.type⟩
  | enumeration => trivial

/-- The type that is read, if there is one, is all that is recorded. -/
theorem Findings.mem_blittables_ofType {read : Except BindingError (Option Blittable)}
    {type : Blittable} :
    type ∈ (ofType read).declarations.blittables ↔ read = .ok (some type) := by
  rcases read with error | _ | found
  · simp [ofType, ofError, Declarations.empty]
  · simp [ofType, none, Declarations.empty]
  · simp [ofType, eq_comm]

namespace Expansion

/-- The types that are recorded at an item that derives its mapping are those it declares. -/
theorem mem_blittables_ofItem_iff {file space : String} {form : DerivedForm}
    (derived : derives "Blittable" form.item.derivations = .ok true) {type : Blittable} :
    type ∈ (Findings.ofItem file space form.item).declarations.blittables ↔
      DeclaresType file space form.item type := by
  have found : Findings.ofItem file space form.item
      = .ofType (declaredType file space form.item) := by
    cases form <;> simp [DerivedForm.item, Findings.ofItem, declaredType, Findings.ofType]
  rw [found, Findings.mem_blittables_ofType, declaredType_eq_ok_iff]
  simp [derived]

/-- The fields that are checked are those of a structure with names and the layout of C. -/
theorem blittableFields_eq_ok_iff {form : StructForm} {repr : Representation}
    {fields : List FieldForm} :
    blittableFields form repr = .ok fields ↔ repr.isC = true ∧ form.fields = .named fields := by
  simp only [blittableFields]
  rw [Outcome.refusal_eq_ok_iff]
  cases form.fields <;> simp [Outcome.pure_eq_ok_iff, Outcome.throw_ne_ok]

/-- An enumeration is accepted exactly if it is stored in an integer and its variants carry
nothing. -/
theorem checkEnum_eq_ok_iff {form : EnumForm} {repr : Representation} :
    checkEnum form repr = .ok () ↔
      (∃ integer, repr.enumeration? = some integer) ∧
        ∀ variant ∈ form.variants, variant.hasFields = false := by
  simp only [checkEnum]
  rw [Outcome.refusal_eq_ok_iff]
  have stored : ¬ repr.enumeration?.isNone = true ↔
      ∃ integer, repr.enumeration? = some integer := by
    rw [Option.isNone_iff_eq_none, ← ne_eq, Option.ne_none_iff_exists']
  rw [stored]
  refine and_congr_right' ?_
  cases carrying : form.variants.find? VariantForm.hasFields with
  | none => simpa [Outcome.pure_eq_ok_iff] using List.find?_eq_none.mp carrying
  | some variant =>
      have carries := List.find?_some carrying
      have isVariant := List.mem_of_find?_eq_some carrying
      simp only [Outcome.throw_ne_ok, false_iff, not_forall]
      exact ⟨variant, isVariant, by simp [carries]⟩

/-- Of an enumeration that is accepted no field is left to be checked. -/
theorem checkedFields_enumeration_eq_ok_iff {form : EnumForm} {repr : Representation}
    {fields : List FieldForm} :
    checkedFields (.enumeration form) repr = .ok fields ↔
      checkEnum form repr = .ok () ∧ fields = [] := by
  rw [checkedFields, Outcome.map_eq_ok_iff]
  constructor
  · rintro ⟨_, accepted, rfl⟩
    exact ⟨accepted, rfl⟩
  · rintro ⟨accepted, rfl⟩
    exact ⟨(), accepted, rfl⟩

/-- What a type says about its native side is there exactly if it has no generic parameters, its
annotations can be read and its shape is accepted. -/
theorem derivedMapping_eq_ok_iff (form : DerivedForm) {naming : NativeNaming}
    {fields : List FieldForm} :
    derivedMapping form = .ok (naming, fields) ↔
      (derivedHead form).2.2.hasParams = false ∧
        NativeNaming.ofAttributes (derivedHead form).1 = .ok naming ∧
        ∃ repr, Representation.ofAttributes (derivedHead form).1 = .ok repr ∧
          checkedFields form repr = .ok fields := by
  simp only [derivedMapping]
  rw [Outcome.refusal_eq_ok_iff]
  simp only [Outcome.bind_eq_ok_iff, lift_eq_ok_iff, Outcome.pure_eq_ok_iff, Prod.mk.injEq]
  constructor
  · rintro ⟨plain, _, isNaming, repr, isRepr, _, checked, rfl, rfl⟩
    exact ⟨by simpa using plain, isNaming, repr, isRepr, checked⟩
  · rintro ⟨plain, isNaming, repr, isRepr, checked⟩
    exact ⟨by simp [plain], naming, isNaming, repr, isRepr, fields, checked, rfl, rfl⟩

/-- What declares a type is accepted, and says about the native side what the type does. -/
theorem derivedMapping_of_declares {file space : String} {form : DerivedForm} {type : Blittable}
    (declares : DeclaresType file space form.item type) :
    ∃ naming fields, derivedMapping form = .ok (naming, fields) ∧
      type.managed = (derivedHead form).2.1.text ∧
      type.nativeName = naming.name.getD (derivedHead form).2.1.text ∧
      type.nativeModule = naming.module := by
  cases form with
  | struct form =>
      cases declares with
      | struct plain isNaming isRepr isC named each =>
          have checked := blittableFields_eq_ok_iff.mpr ⟨isC, named⟩
          have accepted := (derivedMapping_eq_ok_iff (.struct form)).mpr
            ⟨plain, isNaming, _, isRepr, checked⟩
          exact ⟨_, _, accepted, rfl, rfl, rfl⟩
  | enumeration form =>
      cases declares with
      | enumeration plain isNaming isRepr stored fieldless =>
          have checked := checkedFields_enumeration_eq_ok_iff.mpr
            ⟨checkEnum_eq_ok_iff.mpr ⟨⟨_, stored⟩, fieldless⟩, rfl⟩
          have accepted := (derivedMapping_eq_ok_iff (.enumeration form)).mpr
            ⟨plain, isNaming, _, isRepr, checked⟩
          exact ⟨_, _, accepted, rfl, rfl, rfl⟩
  | union attrs name generics keyword => cases declares

/-- What is accepted declares a type if the types of its fields stand for managed types. -/
theorem declares_of_derivedMapping {form : DerivedForm} {naming : NativeNaming}
    {fields : List FieldForm} (file space : String)
    (accepted : derivedMapping form = .ok (naming, fields)) (denote : form.item.FieldsDenote) :
    ∃ type, DeclaresType file space form.item type := by
  obtain ⟨plain, isNaming, repr, isRepr, checked⟩ := (derivedMapping_eq_ok_iff form).mp accepted
  cases form with
  | struct form =>
      obtain ⟨isC, named⟩ := blittableFields_eq_ok_iff.mp checked
      have declared : ∃ declared, List.Forall₂ (DeclaresField file) fields declared := by
        refine exists_forall₂_iff.mpr fun field isField => ?_
        obtain ⟨type, denotes⟩ := denote fields named field isField
        exact ⟨⟨field.name.text, type, field.name.region.location file⟩, rfl, denotes, rfl⟩
      obtain ⟨declared, each⟩ := declared
      exact ⟨_, .struct plain isNaming isRepr isC named each⟩
  | enumeration form =>
      obtain ⟨checked, -⟩ := checkedFields_enumeration_eq_ok_iff.mp checked
      obtain ⟨⟨integer, stored⟩, fieldless⟩ := checkEnum_eq_ok_iff.mp checked
      exact ⟨_, .enumeration plain isNaming isRepr stored fieldless⟩
  | union attrs name generics keyword => exact absurd checked Outcome.throw_ne_ok

/-- Parts that a text which may be missing is written as. -/
inductive WritesOptional : List String → Option String → Prop where
  | none : WritesOptional ["None"] none
  | some {literal value : String} (isLiteral : Literal.IsLiteralOf literal value) :
      WritesOptional ["Some", "(", literal, ")"] (some value)

/-- An implementation of the mapping for a type with a name, by the parts of its constants. -/
def implementation (owner name : String) (module : List String) : List String :=
  words "unsafe impl : : retro_binds_core : : Blittable for" ++ [owner, "\x7b"]
    ++ words "const NATIVE_NAME : & ' static str =" ++ [name, ";"]
    ++ words "const NATIVE_MODULE : : : core : : option : : Option < & ' static str > ="
    ++ words ": : core : : option : : Option : :" ++ module ++ [";", "\x7d"]

/-- The parts implement the mapping of a type, and the literals of its constants stand for the
native name and the module of this type. -/
def ImplementsMapping (parts : List String) (type : Blittable) : Prop :=
  ∃ name module checked, Literal.IsLiteralOf name type.nativeName ∧
    WritesOptional module type.nativeModule ∧
    parts = implementation type.managed name module ++ fieldChecks checked

/-- The constants of some parts are those of one native name and one module. -/
theorem ImplementsMapping.unique {parts : List String} {type other : Blittable}
    (first : ImplementsMapping parts type) (second : ImplementsMapping parts other) :
    type.nativeName = other.nativeName ∧ type.nativeModule = other.nativeModule := by
  obtain ⟨name, module, checked, isName, isModule, rfl⟩ := first
  obtain ⟨otherName, otherModule, others, isOtherName, isOtherModule, same⟩ := second
  simp only [implementation, List.append_assoc, List.append_cancel_left_eq, List.cons_append,
    List.nil_append, List.cons.injEq, true_and] at same
  obtain ⟨-, rfl, same⟩ := same
  refine ⟨isName.unique isOtherName, ?_⟩
  generalize type.nativeModule = found at isModule
  generalize other.nativeModule = otherFound at isOtherModule
  cases isModule with
  | none =>
      cases isOtherModule with
      | none => rfl
      | some => simp at same
  | some isLiteral =>
      cases isOtherModule with
      | none => simp at same
      | some isOtherLiteral =>
          simp only [List.cons_append, List.cons.injEq, true_and] at same
          obtain ⟨rfl, -⟩ := same
          exact congrArg some (isLiteral.unique isOtherLiteral)

/-- What is written for a type that says the same about its native side implements its
mapping. -/
theorem implementsMapping_mapping {type : Blittable} {name : String} {naming : NativeNaming}
    (managed : type.managed = name) (native : type.nativeName = naming.name.getD name)
    (module : type.nativeModule = naming.module) (fields : List FieldForm) :
    ImplementsMapping (mapping name naming ++ fieldChecks fields) type := by
  subst managed
  rw [ImplementsMapping, native, module]
  have isName := Literal.isLiteralOf_quoted (naming.name.getD type.managed)
  cases said : naming.module with
  | none => exact ⟨_, _, fields, isName, .none, by simp only [mapping, said, implementation]⟩
  | some module =>
      have isModule := WritesOptional.some (Literal.isLiteralOf_quoted module)
      exact ⟨_, _, fields, isName, isModule, by simp only [mapping, said, implementation]⟩

/-- An item that derives its mapping, with fields of managed types, is expanded by the compiler
exactly if the generator records it. The constants of the expansion then are the native name and
the module that are recorded, and they stand for no others. -/
theorem expansion_agrees_with_reading {file space : String} {form : DerivedForm}
    (derived : derives "Blittable" form.item.derivations = .ok true)
    (denote : form.item.FieldsDenote) :
    ((∃ parts, expandBlittable form = .ok parts) ↔
      ∃ type, type ∈ (Findings.ofItem file space form.item).declarations.blittables) ∧
    ∀ parts type, expandBlittable form = .ok parts →
      type ∈ (Findings.ofItem file space form.item).declarations.blittables →
      ImplementsMapping parts type ∧ ∀ other, ImplementsMapping parts other →
        other.nativeName = type.nativeName ∧ other.nativeModule = type.nativeModule := by
  simp only [mem_blittables_ofItem_iff derived, expandBlittable, Outcome.bind_eq_ok_iff,
    Outcome.pure_eq_ok_iff]
  refine ⟨⟨?_, ?_⟩, ?_⟩
  · rintro ⟨_, ⟨naming, fields⟩, accepted, rfl⟩
    exact declares_of_derivedMapping file space accepted denote
  · rintro ⟨type, declares⟩
    obtain ⟨naming, fields, accepted, -⟩ := derivedMapping_of_declares declares
    exact ⟨_, (naming, fields), accepted, rfl⟩
  · rintro _ type ⟨⟨naming, fields⟩, accepted, rfl⟩ declares
    obtain ⟨sameNaming, sameFields, same, managed, native, module⟩ :=
      derivedMapping_of_declares declares
    cases accepted.symm.trans same
    have implements := implementsMapping_mapping managed native module fields
    exact ⟨implements, fun other otherImplements => otherImplements.unique implements⟩

/-- A structure that says which native type of which module it stands for. -/
def colorText : String :=
  "#[derive(Debug, Blittable)] #[blittable(name = \"retro::Color\", module = \"retro.core\")] " ++
    "#[repr(C)] struct Color \x7b r: f32 \x7d"

/-- The expansion of a color has the native name and the module that are recorded. -/
theorem expansion_agrees_with_reading_color :
    ∃ form parts type, readText? derivedRule colorText = some form ∧
      derives "Blittable" form.item.derivations = .ok true ∧ form.item.FieldsDenote ∧
      expandBlittable form = .ok parts ∧
      type ∈ (Findings.ofItem "paint.rs" "paint" form.item).declarations.blittables ∧
      type.nativeName = "retro::Color" ∧ type.nativeModule = some "retro.core" ∧
      ImplementsMapping parts type ∧ ∀ other, ImplementsMapping parts other →
        other.nativeName = "retro::Color" ∧ other.nativeModule = some "retro.core" := by
  have computed : (readText? derivedRule colorText).map (fun form =>
      (derives "Blittable" form.item.derivations,
        (Findings.ofItem "paint.rs" "paint" form.item).declarations.blittables.map fun type =>
          (type.nativeName, type.nativeModule)))
      = some (.ok true, [("retro::Color", some "retro.core")]) := by
    decide +kernel
  obtain ⟨form, isForm, computed⟩ := Option.map_eq_some_iff.mp computed
  obtain ⟨derived, recorded⟩ := Prod.ext_iff.mp computed
  obtain ⟨type, isType, named⟩ := List.map_eq_singleton_iff.mp recorded
  obtain ⟨isName, isModule⟩ := Prod.ext_iff.mp named
  have isRecorded := List.mem_singleton_self type
  rw [← isType] at isRecorded
  have denote := fieldsDenote_of_declares ((mem_blittables_ofItem_iff derived).mp isRecorded)
  obtain ⟨accepts, implements⟩ :=
    @expansion_agrees_with_reading "paint.rs" "paint" form derived denote
  obtain ⟨parts, expands⟩ := accepts.mpr ⟨type, isRecorded⟩
  obtain ⟨maps, only⟩ := implements parts type expands isRecorded
  refine ⟨form, parts, type, isForm, derived, denote, expands, isRecorded, isName, isModule, maps,
    fun other otherMaps => ?_⟩
  obtain ⟨sameName, sameModule⟩ := only other otherMaps
  exact ⟨sameName.trans isName, sameModule.trans isModule⟩

end Expansion

end NativeBridge
