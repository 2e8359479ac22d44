import NativeBridge.Proofs.Expansion.Export

/-!
# Helpers in expanded traits

A trait is written as a row of pieces: attributes, each with what it belongs to, and the parts
between them. The expansion of an export takes pieces out of this row and changes nothing else.
It takes out every helper of a method and of a parameter. A helper of the receiver, or of dots
among the arguments, is left where it stands (`expansion_takes_out_helpers_iff`).
-/

namespace NativeBridge

open Source

namespace Source

/-- What an attribute of a trait belongs to. -/
inductive AttributeOwner where
  /-- The trait. -/
  | trait
  /-- The trait too, but the attribute stands inside of it. -/
  | body
  | method
  | receiver
  /-- An argument with a type. -/
  | parameter
  /-- The dots of a variable number of arguments. -/
  | dots
  deriving DecidableEq, Repr

/-- A helper may belong to this: to a method or to one of its arguments. -/
def AttributeOwner.isInMethod : AttributeOwner → Bool
  | trait | body => false
  | method | receiver | parameter | dots => true

/-- The expansion looks for helpers here. -/
def AttributeOwner.isCleared : AttributeOwner → Bool
  | method | parameter => true
  | trait | body | receiver | dots => false

/-- A piece of a trait as written. -/
inductive TraitPiece where
  /-- An attribute. -/
  | attr (owner : AttributeOwner) (found : Attribute)
  /-- A part outside of these attributes. -/
  | part (text : String)
  deriving Repr

namespace TraitPiece

/-- The written parts of a piece. -/
def parts : TraitPiece → List String
  | attr _ found => Tree.partsAll found.trees
  | part text => [text]

/-- The piece is an attribute of a method, or of one of its arguments, whose path ends with the
name of a helper. -/
def isHelper : TraitPiece → Bool
  | attr owner found =>
      owner.isInMethod && (found.endsWith "native" || found.endsWith "native_return")
  | part _ => false

/-- The piece is a helper where the expansion looks for helpers. -/
def isCleared : TraitPiece → Bool
  | attr owner found => owner.isCleared && found.isHelper
  | part _ => false

/-- The pieces of some attributes. -/
def ofAttributes (owner : AttributeOwner) (attrs : List Attribute) : List TraitPiece :=
  attrs.map (attr owner)

/-- The pieces outside of attributes. -/
def ofParts (parts : List String) : List TraitPiece :=
  parts.map part

end TraitPiece

/-- What the attributes of an argument belong to. -/
def ArgumentForm.owner : ArgumentForm → AttributeOwner
  | receiver _ _ _ _ => .receiver
  | typed _ _ _ _ => .parameter
  | variadic _ _ => .dots

/-- The pieces of an argument. -/
def ArgumentForm.pieces (argument : ArgumentForm) : List TraitPiece :=
  TraitPiece.ofAttributes argument.owner argument.attrs
    ++ TraitPiece.ofParts (Tree.typeParts argument.trees)

/-- The pieces of the arguments of a method with what follows each of them. -/
def MethodForm.argumentPieces (method : MethodForm) : List TraitPiece :=
  method.arguments.flatMap fun (argument, separator) =>
    argument.pieces ++ TraitPiece.ofParts (Tree.partsAll separator)

/-- The pieces of a method. -/
def MethodForm.pieces (method : MethodForm) : List TraitPiece :=
  TraitPiece.ofAttributes .method method.attrs
    ++ TraitPiece.ofParts (Tree.partsAll method.head ++ method.generics.parts ++ ["("])
    ++ method.argumentPieces
    ++ TraitPiece.ofParts ([")"] ++ Tree.typeParts method.result ++ Tree.typeParts method.conditions
      ++ Tree.partsAll method.ending)

/-- The pieces of a member of a trait. -/
def TraitItemForm.pieces : TraitItemForm → List TraitPiece
  | method form => form.pieces
  | other trees _ => TraitPiece.ofParts (Tree.partsAll trees)

/-- The pieces of a trait. -/
def TraitForm.pieces (form : TraitForm) : List TraitPiece :=
  TraitPiece.ofAttributes .trait form.attrs
    ++ TraitPiece.ofParts (Tree.partsAll form.head ++ form.generics.parts
      ++ Tree.typeParts form.bounds ++ Tree.typeParts form.conditions ++ ["\x7b"])
    ++ TraitPiece.ofAttributes .body form.innerAttrs
    ++ form.items.flatMap TraitItemForm.pieces ++ TraitPiece.ofParts ["\x7d"]

/-- A receiver or dots with a helper. -/
def ArgumentForm.keepsHelper : ArgumentForm → Bool
  | receiver attrs _ _ _ | variadic attrs _ => attrs.any Attribute.isHelper
  | typed _ _ _ _ => false

/-- A member with a receiver or dots that have a helper. -/
def TraitItemForm.keepsHelper : TraitItemForm → Bool
  | method form => form.arguments.any fun (argument, _) => argument.keepsHelper
  | other _ _ => false

/-- A trait in which some receiver or some dots have a helper. -/
def TraitForm.keepsHelper (form : TraitForm) : Bool :=
  form.items.any TraitItemForm.keepsHelper

namespace TraitPiece

variable {owner : AttributeOwner} {attrs : List Attribute}

/-- The pieces of attributes are written as the attributes. -/
@[simp]
theorem flatMap_parts_ofAttributes :
    (ofAttributes owner attrs).flatMap parts = Attribute.partsAll attrs := by
  rw [ofAttributes, List.flatMap_map]
  rfl

/-- The pieces outside of attributes are written as their parts. -/
@[simp]
theorem flatMap_parts_ofParts (texts : List String) : (ofParts texts).flatMap parts = texts := by
  rw [ofParts, List.flatMap_map]
  exact List.flatMap_singleton' texts

/-- Nothing is taken out of the pieces outside of attributes. -/
@[simp]
theorem filter_ofParts (texts : List String) :
    (ofParts texts).filter (fun piece => !piece.isCleared) = ofParts texts := by
  simp [ofParts, List.filter_map, Function.comp_def, isCleared]

/-- Where helpers are looked for, exactly these are taken out of the attributes. -/
theorem filter_ofAttributes_of_isCleared (cleared : owner.isCleared = true) :
    (ofAttributes owner attrs).filter (fun piece => !piece.isCleared)
      = ofAttributes owner (Expansion.withoutHelpers attrs) := by
  simp [ofAttributes, List.filter_map, Function.comp_def, isCleared, cleared,
    Expansion.withoutHelpers]

/-- Elsewhere all attributes are left. -/
theorem filter_ofAttributes_of_not_isCleared (uncleared : owner.isCleared = false) :
    (ofAttributes owner attrs).filter (fun piece => !piece.isCleared)
      = ofAttributes owner attrs := by
  simp [ofAttributes, List.filter_map, Function.comp_def, isCleared, uncleared]

/-- An attribute is a helper by its name and by what it belongs to. -/
theorem isHelper_attr (owner : AttributeOwner) (found : Attribute) :
    (attr owner found).isHelper = (owner.isInMethod && found.isHelper) := by
  simp [isHelper, Attribute.isHelper, helperNames]

/-- Only helpers are taken out. -/
theorem isHelper_of_isCleared {piece : TraitPiece} (cleared : piece.isCleared = true) :
    piece.isHelper = true := by
  cases piece with
  | part text => cases cleared
  | attr owner found =>
      obtain ⟨isOwner, helps⟩ := Bool.and_eq_true_iff.mp cleared
      have inMethod : owner.isInMethod = true := by cases owner <;> first | rfl | cases isOwner
      rw [isHelper_attr, inMethod, helps]
      rfl

/-- A helper that is not taken out. -/
def isKept (piece : TraitPiece) : Bool :=
  piece.isHelper && !piece.isCleared

/-- No helper stands outside of attributes. -/
@[simp]
theorem any_isKept_ofParts (texts : List String) : (ofParts texts).any isKept = false := by
  simp [ofParts, isKept, isHelper]

/-- The helpers among the attributes of a method or of an argument are left exactly where none
are looked for. -/
@[simp]
theorem any_isKept_ofAttributes :
    (ofAttributes owner attrs).any isKept
      = (owner.isInMethod && !owner.isCleared && attrs.any Attribute.isHelper) := by
  have each (found : Attribute) : (attr owner found).isKept
      = (owner.isInMethod && !owner.isCleared && found.isHelper) := by
    rw [isKept, isHelper_attr, isCleared]
    cases owner <;> cases found.isHelper <;> rfl
  rw [ofAttributes, List.any_map]
  simp only [Function.comp_def, each]
  cases owner <;> simp [AttributeOwner.isInMethod, AttributeOwner.isCleared]

end TraitPiece

/-- An argument is written piece by piece. -/
theorem ArgumentForm.parts_eq (argument : ArgumentForm) :
    argument.parts = argument.pieces.flatMap TraitPiece.parts := by
  simp [ArgumentForm.parts, ArgumentForm.pieces]

/-- A method is written piece by piece. -/
theorem MethodForm.parts_eq (method : MethodForm) :
    method.parts = method.pieces.flatMap TraitPiece.parts := by
  have inside : method.argumentParts = method.argumentPieces.flatMap TraitPiece.parts := by
    simp only [argumentParts, argumentPieces, List.flatMap_assoc, List.flatMap_append,
      TraitPiece.flatMap_parts_ofParts, ArgumentForm.parts_eq]
  simp [parts, pieces, inside]

/-- A member of a trait is written piece by piece. -/
theorem TraitItemForm.parts_eq (item : TraitItemForm) :
    item.parts = item.pieces.flatMap TraitPiece.parts := by
  cases item with
  | method form => exact form.parts_eq
  | other trees region => exact (TraitPiece.flatMap_parts_ofParts _).symm

/-- A trait is written piece by piece. -/
theorem TraitForm.parts_eq (form : TraitForm) :
    form.parts = form.pieces.flatMap TraitPiece.parts := by
  have inside : form.items.flatMap TraitItemForm.parts
      = (form.items.flatMap TraitItemForm.pieces).flatMap TraitPiece.parts := by
    rw [List.flatMap_assoc]
    exact List.flatMap_congr fun item _ => item.parts_eq
  simp [parts, pieces, inside]

/-- The helpers that are left in an argument. -/
theorem ArgumentForm.any_isKept (argument : ArgumentForm) :
    argument.pieces.any TraitPiece.isKept = argument.keepsHelper := by
  cases argument <;> simp [ArgumentForm.pieces, ArgumentForm.owner, ArgumentForm.attrs,
    ArgumentForm.keepsHelper, AttributeOwner.isInMethod, AttributeOwner.isCleared]

/-- The helpers that are left in a member. -/
theorem TraitItemForm.any_isKept (item : TraitItemForm) :
    item.pieces.any TraitPiece.isKept = item.keepsHelper := by
  cases item with
  | other trees region => exact TraitPiece.any_isKept_ofParts _
  | method form =>
      simp [TraitItemForm.pieces, MethodForm.pieces, MethodForm.argumentPieces, List.any_flatMap,
        ArgumentForm.any_isKept, AttributeOwner.isCleared, TraitItemForm.keepsHelper]

/-- The helpers that are left in a trait. -/
theorem TraitForm.any_isKept (form : TraitForm) :
    form.pieces.any TraitPiece.isKept = form.keepsHelper := by
  simp [TraitForm.pieces, List.any_flatMap, TraitItemForm.any_isKept, AttributeOwner.isInMethod,
    TraitForm.keepsHelper]

end Source

namespace Expansion

/-- Only helpers are taken out of an argument. -/
theorem pieces_stripArgument (argument : ArgumentForm) :
    (stripArgument argument).pieces = argument.pieces.filter fun piece => !piece.isCleared := by
  rw [ArgumentForm.pieces, ArgumentForm.pieces, List.filter_append, TraitPiece.filter_ofParts]
  cases argument with
  | typed attrs pattern type trees =>
      rw [TraitPiece.filter_ofAttributes_of_isCleared rfl]
      rfl
  | receiver | variadic =>
      rw [TraitPiece.filter_ofAttributes_of_not_isCleared rfl]
      rfl

/-- Only helpers are taken out of a method. -/
theorem pieces_stripMethod (form : MethodForm) :
    (stripMethod form).pieces = form.pieces.filter fun piece => !piece.isCleared := by
  have inside : (stripMethod form).argumentPieces
      = form.argumentPieces.filter fun piece => !piece.isCleared := by
    simp only [MethodForm.argumentPieces, stripMethod, List.flatMap_map, List.filter_flatMap,
      List.filter_append, TraitPiece.filter_ofParts, pieces_stripArgument]
  rw [MethodForm.pieces, MethodForm.pieces, inside]
  simp only [List.filter_append, TraitPiece.filter_ofParts,
    TraitPiece.filter_ofAttributes_of_isCleared (rfl : AttributeOwner.method.isCleared = true)]
  rfl

/-- Only helpers are taken out of a member. -/
theorem pieces_stripMember (item : TraitItemForm) :
    (stripMember item).pieces = item.pieces.filter fun piece => !piece.isCleared := by
  cases item with
  | method form => exact pieces_stripMethod form
  | other trees region => exact (TraitPiece.filter_ofParts _).symm

/-- Only helpers are taken out of a trait. -/
theorem pieces_stripTrait (form : TraitForm) :
    (stripTrait form).pieces = form.pieces.filter fun piece => !piece.isCleared := by
  have inside : (stripTrait form).items.flatMap TraitItemForm.pieces
      = (form.items.flatMap TraitItemForm.pieces).filter fun piece => !piece.isCleared := by
    simp only [stripTrait, List.flatMap_map, List.filter_flatMap, pieces_stripMember]
  rw [TraitForm.pieces, TraitForm.pieces, inside]
  simp only [List.filter_append, TraitPiece.filter_ofParts]
  rw [TraitPiece.filter_ofAttributes_of_not_isCleared rfl,
    TraitPiece.filter_ofAttributes_of_not_isCleared rfl]
  rfl

/-- An expanded export is passed on without the helpers of its methods and parameters. All its
other attributes and parts stay in their order. No helper is left exactly if no receiver and no
dots have one. -/
theorem expansion_takes_out_helpers_iff {settings : ExportSettings} {form : TraitForm}
    {parts : List String} (expands : expandExport settings form = .ok parts) :
    ∃ passed, exportedTrait form = .ok passed ∧
      form.parts = form.pieces.flatMap TraitPiece.parts ∧
      parts = passed.pieces.flatMap TraitPiece.parts ++ subjectCheck settings ∧
      passed.pieces = form.pieces.filter (fun piece => !piece.isCleared) ∧
      passed.pieces.filter (fun piece => !piece.isHelper)
        = form.pieces.filter (fun piece => !piece.isHelper) ∧
      ((∀ piece ∈ passed.pieces, piece.isHelper = false) ↔ form.keepsHelper = false) := by
  obtain ⟨passed, isPassed, rfl⟩ := Outcome.map_eq_ok_iff.mp expands
  obtain ⟨-, -, rfl⟩ := exportedTrait_eq_ok_iff.mp isPassed
  have taken := pieces_stripTrait form
  refine ⟨_, isPassed, form.parts_eq, by rw [TraitForm.parts_eq], taken, ?_, ?_⟩
  · rw [taken, List.filter_filter]
    refine List.filter_congr fun piece _ => ?_
    -- What is no helper is not taken out either.
    cases cleared : piece.isCleared with
    | false => simp
    | true => simp [TraitPiece.isHelper_of_isCleared cleared]
  · rw [taken, ← form.any_isKept, List.any_eq_false]
    simp only [List.mem_filter, TraitPiece.isKept]
    constructor
    · intro none piece isPiece kept
      obtain ⟨helps, left⟩ := Bool.and_eq_true_iff.mp kept
      cases (none piece ⟨isPiece, left⟩).symm.trans helps
    · rintro none piece ⟨isPiece, left⟩
      have kept := none piece isPiece
      rwa [left, Bool.and_true, Bool.not_eq_true] at kept

/-- A trait whose method has helpers and other attributes. -/
def washText : String :=
  "trait Wash \x7b #[doc = \"hue\"] #[native_return(by_ref)] fn mix(#[keep] &self,"
    ++ " #[native(is_const)] #[cfg(lit)] by: Color) -> Color; \x7d"

/-- What a wash becomes, and that none of its receivers has a helper. -/
theorem wash_computed :
    (readText? traitRule washText).map (fun form =>
      (form.keepsHelper, (expandExport .standard form).toOption.map (" ".intercalate ·)))
      = some (false, some ("trait Wash \x7b # [ doc = \"hue\" ] fn mix ( # [ keep ] & self ,"
        ++ " # [ cfg ( lit ) ] by : Color ) - > Color ; \x7d")) := by
  decide +kernel

/-- A wash is passed on without any helper. -/
theorem expansion_takes_out_helpers_wash :
    ∃ form parts passed, readText? traitRule washText = some form ∧
      expandExport .standard form = .ok parts ∧ exportedTrait form = .ok passed ∧
      " ".intercalate parts = "trait Wash \x7b # [ doc = \"hue\" ] fn mix ( # [ keep ] & self ,"
        ++ " # [ cfg ( lit ) ] by : Color ) - > Color ; \x7d" ∧
      parts = passed.pieces.flatMap TraitPiece.parts ++ subjectCheck .standard ∧
      passed.pieces = form.pieces.filter (fun piece => !piece.isCleared) ∧
      ∀ piece ∈ passed.pieces, piece.isHelper = false := by
  obtain ⟨form, isForm, computed⟩ := Option.map_eq_some_iff.mp wash_computed
  obtain ⟨clean, becomes⟩ := Prod.ext_iff.mp computed
  obtain ⟨parts, expands, text⟩ := exists_ok_of_computed becomes
  obtain ⟨passed, isPassed, -, written, taken, -, none⟩ := expansion_takes_out_helpers_iff expands
  exact ⟨form, parts, passed, isForm, expands, isPassed, text, written, taken, none.mpr clean⟩

/-- A trait whose receiver has a helper. -/
def dimText : String :=
  "trait Dim \x7b fn by(#[native] &self); \x7d"

/-- A helper of a receiver is accepted and left in the trait that is passed on. -/
theorem expansion_keeps_receiver_helper :
    ∃ form parts passed, readText? traitRule dimText = some form ∧
      expandExport .standard form = .ok parts ∧ exportedTrait form = .ok passed ∧
      " ".intercalate parts = "trait Dim \x7b fn by ( # [ native ] & self ) ; \x7d" ∧
      ∃ piece ∈ passed.pieces, piece.isHelper = true := by
  have computed : (readText? traitRule dimText).map (fun form =>
      ((expandExport .standard form).toOption.map (" ".intercalate ·),
        (exportedTrait form).toOption.map fun passed => passed.pieces.any TraitPiece.isHelper))
      = some (some "trait Dim \x7b fn by ( # [ native ] & self ) ; \x7d", some true) := by
    decide +kernel
  obtain ⟨form, isForm, computed⟩ := Option.map_eq_some_iff.mp computed
  obtain ⟨becomes, left⟩ := Prod.ext_iff.mp computed
  obtain ⟨parts, expands, written⟩ := exists_ok_of_computed becomes
  obtain ⟨passed, isPassed, kept⟩ := exists_ok_of_computed left
  exact ⟨form, parts, passed, isForm, expands, isPassed, written, List.any_eq_true.mp kept⟩

end Expansion

end NativeBridge
