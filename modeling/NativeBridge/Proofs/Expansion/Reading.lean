import NativeBridge.Proofs.Annotation.Items
import NativeBridge.Proofs.Expansion.Helpers

/-!
# Helpers that the expansion reads

The expansion of an export takes out a helper by its name, but reads it only where it
belongs: the override of a result on the method, that of a parameter on the parameter.
So a trait is accepted whatever the other helpers say, and each helper that is taken
out can be read exactly if these can (`removed_helpers_read_iff`).
-/

namespace NativeBridge

open Source

namespace Source

/-- An attribute is written as an override exactly if its items can be read. -/
theorem Attribute.isOverride_iff {attr : Attribute} :
    attr.IsOverride ↔ (attr.readItems? fun _ => NativeOverride.item "native").isOk = true := by
  have isRead {items : List NativeOverride.Item} :
      attr.readItems? (fun _ => NativeOverride.item "native") = .ok items ↔
        attr.MayList (fun item => some item.argument) items :=
    Attribute.readItems?_eq_ok_iff fun _ => NativeOverride.Item.understands _
  simp only [Attribute.IsOverride, ← isRead]
  cases attr.readItems? fun _ => NativeOverride.item "native" <;> simp [Except.isOk, Except.toBool]

instance (attr : Attribute) : Decidable attr.IsOverride :=
  decidable_of_iff _ Attribute.isOverride_iff.symm

namespace TraitPiece

/-- A helper where it belongs: the override of a result on a method, that of a parameter on the
parameter. -/
def isPlaced : TraitPiece → Bool
  | attr .method found => found.endsWith "native_return"
  | attr .parameter found => found.endsWith "native"
  | _ => false

/-- A helper in the place of the other: the override of a parameter on a method, that of a result
on a parameter. -/
def isMisplaced : TraitPiece → Bool
  | attr .method found => found.endsWith "native"
  | attr .parameter found => found.endsWith "native_return"
  | _ => false

/-- The piece is an attribute that is written as an override. -/
def IsOverride : TraitPiece → Prop
  | attr _ found => found.IsOverride
  | part _ => False

instance : DecidablePred IsOverride
  | attr _ found => inferInstanceAs (Decidable found.IsOverride)
  | part _ => inferInstanceAs (Decidable False)

/-- The helpers that are taken out are those that belong where they stand and those that do not. -/
theorem isCleared_eq (piece : TraitPiece) :
    piece.isCleared = (piece.isPlaced || piece.isMisplaced) := by
  cases piece with
  | part text => rfl
  | attr owner found =>
      cases owner <;>
        simp [isCleared, isPlaced, isMisplaced, AttributeOwner.isCleared, Attribute.isHelper,
          helperNames, Bool.or_comm]

/-- All helpers among some pieces that belong where they stand are written as overrides. -/
def PlacedRight (pieces : List TraitPiece) : Prop :=
  ∀ piece ∈ pieces, piece.isPlaced = true → piece.IsOverride

@[simp]
theorem placedRight_append {first second : List TraitPiece} :
    PlacedRight (first ++ second) ↔ PlacedRight first ∧ PlacedRight second :=
  List.forall_mem_append

@[simp]
theorem placedRight_flatMap {α : Type} {entries : List α} {pieces : α → List TraitPiece} :
    PlacedRight (entries.flatMap pieces) ↔ ∀ entry ∈ entries, PlacedRight (pieces entry) := by
  simp only [PlacedRight, List.mem_flatMap]
  constructor
  · intro each entry isEntry piece isPiece
    exact each piece ⟨entry, isEntry, isPiece⟩
  · rintro each piece ⟨entry, isEntry, isPiece⟩
    exact each entry isEntry piece isPiece

/-- No helper stands outside of attributes. -/
@[simp]
theorem placedRight_ofParts (texts : List String) : PlacedRight (ofParts texts) := by
  simp [PlacedRight, ofParts, isPlaced]

/-- Attributes are right where they stand if the helpers that belong there are overrides. -/
theorem placedRight_ofAttributes {owner : AttributeOwner} {attrs : List Attribute} :
    PlacedRight (ofAttributes owner attrs) ↔
      ∀ found ∈ attrs, (attr owner found).isPlaced = true → found.IsOverride := by
  simp [PlacedRight, ofAttributes, IsOverride]

end TraitPiece

/-- What is asked of an argument besides its annotations: a parameter is a plain name. -/
def ArgumentForm.IsPlain : ArgumentForm → Prop
  | typed _ pattern _ _ => ∃ name, pattern.name = some name
  | receiver _ _ _ _ | variadic _ _ => True

/-- What is asked of a member besides its annotations: it is a method without generic parameters,
delay and body that takes its receiver and has plain arguments. -/
inductive TraitItemForm.IsPlain : TraitItemForm → Prop where
  | method {form : MethodForm} (plain : form.generics.hasParams = false)
      (sync : form.asyncRegion = none) (bodiless : form.body = none)
      (receives : form.takesReceiver = true) (inputs : ∀ argument ∈ form.inputs, argument.IsPlain) :
      IsPlain (.method form)

/-- What is asked of a trait besides annotations. -/
structure TraitForm.IsPlain (form : TraitForm) : Prop where
  generics : form.generics.hasParams = false
  items : ∀ item ∈ form.items, item.IsPlain

end Source

namespace Expansion

open TraitPiece

/-- An argument besides receivers is accepted exactly if it is plain and its helpers that belong
there can be read. -/
theorem checkArgument_eq_ok_iff {argument : ArgumentForm} (isInput : argument.isReceiver = false) :
    checkArgument argument = .ok () ↔ argument.IsPlain ∧ PlacedRight argument.pieces := by
  cases argument with
  | receiver attrs byReference mutable trees => cases isInput
  | variadic attrs trees =>
      simp [checkArgument, ArgumentForm.IsPlain, ArgumentForm.pieces, placedRight_ofAttributes,
        ArgumentForm.owner, isPlaced]
      rfl
  | typed attrs pattern type trees =>
      rw [checkArgument_typed_eq_ok_iff, NativeOverride.exists_ofAttributes_ok_iff]
      simp [ArgumentForm.IsPlain, ArgumentForm.pieces, placedRight_ofAttributes,
        ArgumentForm.owner, ArgumentForm.attrs, isPlaced]

/-- Only the arguments besides receivers have helpers that belong there. -/
theorem placedRight_argumentPieces {form : MethodForm} :
    PlacedRight form.argumentPieces ↔ ∀ argument ∈ form.inputs, PlacedRight argument.pieces := by
  simp only [MethodForm.argumentPieces, MethodForm.inputs, placedRight_flatMap, placedRight_append,
    placedRight_ofParts, and_true, List.mem_filter, List.mem_map]
  constructor
  · rintro each _ ⟨⟨entry, isEntry, rfl⟩, -⟩
    exact each entry isEntry
  · intro each entry isEntry
    cases receives : entry.1.isReceiver with
    | false => exact each entry.1 ⟨⟨entry, isEntry, rfl⟩, by simp [receives]⟩
    | true =>
        obtain ⟨argument, separator⟩ := entry
        cases argument with
        | receiver attrs byReference mutable trees =>
            simp [ArgumentForm.pieces, placedRight_ofAttributes, ArgumentForm.owner, isPlaced]
        | typed | variadic => cases receives

/-- A member is accepted exactly if it is plain and its helpers that belong where they stand can be
read. -/
theorem checkMember_eq_ok_iff {item : TraitItemForm} :
    checkMember item = .ok () ↔ item.IsPlain ∧ PlacedRight item.pieces := by
  cases item with
  | other trees region =>
      constructor
      · nofun
      · rintro ⟨⟨⟩, -⟩
  | method form =>
      have ofMethod : PlacedRight form.pieces ↔
          (∀ found ∈ form.attrs, found.endsWith "native_return" = true → found.IsOverride) ∧
            ∀ argument ∈ form.inputs, PlacedRight argument.pieces := by
        rw [← placedRight_argumentPieces]
        simp [MethodForm.pieces, placedRight_ofAttributes, isPlaced]
      have ofInputs : (∀ argument ∈ form.inputs, checkArgument argument = .ok ()) ↔
          ∀ argument ∈ form.inputs, argument.IsPlain ∧ PlacedRight argument.pieces := by
        refine forall₂_congr fun argument isInput => checkArgument_eq_ok_iff ?_
        simpa using (List.mem_filter.mp isInput).2
      rw [checkMember, checkMethod_eq_ok_iff, NativeOverride.exists_ofAttributes_ok_iff, ofInputs,
        TraitItemForm.pieces, ofMethod]
      constructor
      · rintro ⟨plain, sync, bodiless, receives, ofResult, inputs⟩
        have ofInputs := fun argument isInput => (inputs argument isInput).1
        have placed := fun argument isInput => (inputs argument isInput).2
        exact ⟨.method plain sync bodiless receives ofInputs, ofResult, placed⟩
      · rintro ⟨⟨plain, sync, bodiless, receives, inputs⟩, ofResult, placed⟩
        exact ⟨plain, sync, bodiless, receives, ofResult, fun argument isInput =>
          ⟨inputs argument isInput, placed argument isInput⟩⟩

/-- A trait is expanded exactly if it is plain and its helpers that belong where they stand can be
read. -/
theorem exists_expandExport_iff_placedRight {settings : ExportSettings} {form : TraitForm} :
    (∃ parts, expandExport settings form = .ok parts) ↔ form.IsPlain ∧ PlacedRight form.pieces := by
  have ofTrait : PlacedRight form.pieces ↔ ∀ item ∈ form.items, PlacedRight item.pieces := by
    simp [TraitForm.pieces, placedRight_ofAttributes, isPlaced]
  rw [exists_expandExport_iff, ofTrait]
  simp only [checkMember_eq_ok_iff]
  constructor
  · rintro ⟨plain, each⟩
    exact ⟨⟨plain, fun item isItem => (each item isItem).1⟩,
      fun item isItem => (each item isItem).2⟩
  · rintro ⟨⟨plain, items⟩, placed⟩
    exact ⟨plain, fun item isItem => ⟨items item isItem, placed item isItem⟩⟩

/-- A trait is accepted whatever the helpers say that do not belong where they stand. All helpers
are taken out of it, and all that are can be read exactly if these can. -/
theorem removed_helpers_read_iff (settings : ExportSettings) (form : TraitForm) :
    ((∃ parts, expandExport settings form = .ok parts) ↔
      form.IsPlain ∧ ∀ piece ∈ form.pieces, piece.isPlaced = true → piece.IsOverride) ∧
    ∀ passed, exportedTrait form = .ok passed →
      passed.pieces = form.pieces.filter (fun piece => !piece.isCleared) ∧
      (∀ piece : TraitPiece, piece.isCleared = (piece.isPlaced || piece.isMisplaced)) ∧
      ((∀ piece ∈ form.pieces, piece.isCleared = true → piece.IsOverride) ↔
        ∀ piece ∈ form.pieces, piece.isMisplaced = true → piece.IsOverride) := by
  have accepts : (∃ parts, expandExport settings form = .ok parts) ↔
      form.IsPlain ∧ PlacedRight form.pieces := exists_expandExport_iff_placedRight
  refine ⟨accepts, fun passed isPassed => ?_⟩
  have expands : ∃ parts, expandExport settings form = .ok parts :=
    ⟨_, Outcome.map_eq_ok_iff.mpr ⟨passed, isPassed, rfl⟩⟩
  obtain ⟨-, placed⟩ := accepts.mp expands
  obtain ⟨-, -, rfl⟩ := exportedTrait_eq_ok_iff.mp isPassed
  refine ⟨pieces_stripTrait form, isCleared_eq, ?_⟩
  simp only [isCleared_eq, Bool.or_eq_true]
  constructor
  · intro each piece isPiece misplaced
    exact each piece isPiece (.inr misplaced)
  · rintro misplaced piece isPiece (isPlaced | isMisplaced)
    · exact placed piece isPiece isPlaced
    · exact misplaced piece isPiece isMisplaced

/-- A trait with a helper of each name on its method and on its parameter. -/
def glazeText : String :=
  "trait Glaze \x7b #[native_return(by_ref)] #[native] fn mix(&self,"
    ++ " #[native(is_const)] #[native_return(name = \"Hue\",)] by: Color); \x7d"

/-- All helpers that are taken out of a glaze can be read. -/
theorem removed_helpers_read_glaze :
    ∃ form parts passed, readText? traitRule glazeText = some form ∧
      expandExport .standard form = .ok parts ∧ exportedTrait form = .ok passed ∧
      passed.pieces = form.pieces.filter (fun piece => !piece.isCleared) ∧
      ∀ piece ∈ form.pieces, piece.isCleared = true → piece.IsOverride := by
  have computed : (readText? traitRule glazeText).map (fun form =>
      ((exportedTrait form).toOption.map fun _ => (),
        form.pieces.all fun piece => !piece.isMisplaced || decide piece.IsOverride))
      = some (some (), true) := by
    decide +kernel
  obtain ⟨form, isForm, computed⟩ := Option.map_eq_some_iff.mp computed
  obtain ⟨accepted, read⟩ := Prod.ext_iff.mp computed
  obtain ⟨passed, isPassed, -⟩ := exists_ok_of_computed accepted
  obtain ⟨-, removes⟩ := removed_helpers_read_iff .standard form
  obtain ⟨taken, -, all⟩ := removes passed isPassed
  refine ⟨form, _, passed, isForm, Outcome.map_eq_ok_iff.mpr ⟨passed, isPassed, rfl⟩, isPassed,
    taken, all.mpr fun piece isPiece misplaced => ?_⟩
  have either := List.all_eq_true.mp read piece isPiece
  simpa [misplaced] using either

/-- A trait with a helper of parameters, under a key that does not exist, on its method. -/
def smearText : String :=
  "trait Smear \x7b #[native(bogus = 1)] fn by(&self); \x7d"

/-- A helper that cannot be read is taken out without being read. -/
theorem expansion_drops_helper_unread :
    ∃ form parts passed, readText? traitRule smearText = some form ∧
      expandExport .standard form = .ok parts ∧ exportedTrait form = .ok passed ∧
      " ".intercalate parts = "trait Smear \x7b fn by ( & self ) ; \x7d" ∧
      ∃ piece ∈ form.pieces, piece.isCleared = true ∧ ¬ piece.IsOverride := by
  have computed : (readText? traitRule smearText).map (fun form =>
      ((expandExport .standard form).toOption.map (" ".intercalate ·),
        (exportedTrait form).toOption.map fun _ =>
          form.pieces.any fun piece => piece.isCleared && !decide piece.IsOverride))
      = some (some "trait Smear \x7b fn by ( & self ) ; \x7d", some true) := by
    decide +kernel
  obtain ⟨form, isForm, computed⟩ := Option.map_eq_some_iff.mp computed
  obtain ⟨becomes, unread⟩ := Prod.ext_iff.mp computed
  obtain ⟨parts, expands, written⟩ := exists_ok_of_computed becomes
  obtain ⟨passed, isPassed, found⟩ := exists_ok_of_computed unread
  obtain ⟨piece, isPiece, both⟩ := List.any_eq_true.mp found
  exact ⟨form, parts, passed, isForm, expands, isPassed, written, piece, isPiece,
    by simpa using both⟩

end Expansion

end NativeBridge
