import NativeBridge.Proofs.Stub.BlockSize
import NativeBridge.Proofs.Stub.Call

/-!
# Native names inside a namespace

The declarations of a class write native names relative to the native namespace of the class,
and the registration unit relative to the configured namespace. A name in the namespace loses
the namespace, any other stays as it is, so a name in the namespace is written like a name
outside of it that is spelled as what is left: `Captured`. This is the only way in which two
names are written alike. Two positions can also be written alike because a name has marks in it
that the other position has beside its name: `CarriesMarks`.
-/

namespace NativeBridge

/-- The mark of an indirection behind a name. -/
def Indirection.mark : Indirection → String
  | value => ""
  | pointer => "*"
  | reference => "&"

/-- Texts with marks behind them are equal if text and mark are, or if one text ends with the
mark of the other and has no mark behind it. -/
theorem Indirection.append_mark_eq {first second : Indirection} {left right : String}
    (same : left ++ first.mark = right ++ second.mark) :
    (first = second ∧ left = right) ∨
      (first = .value ∧ second.mark ≠ "" ∧ left = right ++ second.mark) ∨
      (second = .value ∧ first.mark ≠ "" ∧ right = left ++ first.mark) := by
  -- The last characters of the two marks differ.
  have apart : left ++ "*" ≠ right ++ "&" ∧ left ++ "&" ≠ right ++ "*" := by
    constructor
    all_goals
      intro same
      have last := congrArg (fun text => text.toList.getLast?) same
      simp at last
  cases first <;> cases second <;> simp_all [mark]

namespace NativeType

/-- The mark of a const position before its name. -/
def constMark (isConst : Bool) : String :=
  if isConst then "const " else ""

/-- A position is written as its name between its marks. -/
theorem text_eq (type : NativeType) :
    type.text = constMark type.isConst ++ type.base ++ type.indirection.mark := by
  rw [text, constMark]
  cases type.indirection <;> rfl

/-- The name of a position has marks in it that another position has beside its name. -/
def CarriesMarks (left right : NativeType) : Prop :=
  ∃ before after, (before ≠ "" ∨ after ≠ "") ∧
    constMark right.isConst = constMark left.isConst ++ before ∧
    right.indirection.mark = after ++ left.indirection.mark ∧
    left.base = before ++ right.base ++ after

/-- A name with marks in it is written like the name and its marks. -/
theorem CarriesMarks.text_eq {left right : NativeType} (carries : left.CarriesMarks right) :
    left.text = right.text := by
  obtain ⟨before, after, -, isConst, indirection, name⟩ := carries
  rw [NativeType.text_eq, NativeType.text_eq, isConst, indirection, name]
  simp only [String.append_assoc]

/-- A position by value is not const. -/
theorem isConst_of_value {type : NativeType} (value : type.indirection = .value) :
    type.isConst = false :=
  Bool.eq_false_iff.mpr fun isConst => type.const_indirect isConst value

/-- Texts behind const marks are equal if mark and text are, or if one text begins with the mark
and has none before it. -/
theorem constMark_append_eq {first second : Bool} {left right : String}
    (same : constMark first ++ left = constMark second ++ right) :
    (first = second ∧ left = right) ∨
      (constMark first = "" ∧ constMark second ≠ "" ∧ left = constMark second ++ right) ∨
      (constMark second = "" ∧ constMark first ≠ "" ∧ right = constMark first ++ left) := by
  cases first <;> cases second <;> simp_all [constMark]

/-- A name can begin with the const mark that another position has. -/
theorem carriesMarks_of_const {left right : NativeType}
    (indirection : left.indirection = right.indirection) (plain : constMark left.isConst = "")
    (marked : constMark right.isConst ≠ "")
    (base : left.base = constMark right.isConst ++ right.base) : left.CarriesMarks right := by
  refine ⟨constMark right.isConst, "", .inl marked, ?_, ?_, ?_⟩
  · rw [plain, String.empty_append]
  · rw [indirection, String.empty_append]
  · rw [base, String.append_empty]

/-- A value has no marks beside its name, so it has all marks of another position in it. -/
theorem carriesMarks_of_value {left right : NativeType} (value : left.indirection = .value)
    (marked : right.indirection.mark ≠ "")
    (same : constMark left.isConst ++ left.base
      = constMark right.isConst ++ right.base ++ right.indirection.mark) :
    left.CarriesMarks right := by
  have plain : constMark left.isConst = "" := by
    rw [isConst_of_value value]
    rfl
  rw [plain, String.empty_append] at same
  refine ⟨constMark right.isConst, right.indirection.mark, .inr marked, ?_, ?_, same⟩
  · rw [plain, String.empty_append]
  · rw [value]
    exact String.append_empty.symm

/-- Two positions are written alike exactly if they are one, or if a name has marks in it. -/
theorem text_eq_iff {left right : NativeType} :
    left.text = right.text ↔
      left = right ∨ left.CarriesMarks right ∨ right.CarriesMarks left := by
  constructor
  · intro same
    rw [text_eq, text_eq] at same
    rcases Indirection.append_mark_eq same with ⟨indirection, same⟩ | ⟨value, marked, same⟩ |
      ⟨value, marked, same⟩
    · rcases constMark_append_eq same with ⟨isConst, base⟩ | ⟨plain, marked, base⟩ |
        ⟨plain, marked, base⟩
      · cases left
        cases right
        simp_all
      · exact .inr (.inl (carriesMarks_of_const indirection plain marked base))
      · exact .inr (.inr (carriesMarks_of_const indirection.symm plain marked base))
    · exact .inr (.inl (carriesMarks_of_value value marked same))
    · exact .inr (.inr (carriesMarks_of_value value marked same))
  · rintro (rfl | carries | carries)
    · rfl
    · exact carries.text_eq
    · exact carries.text_eq.symm

end NativeType

/-- The positions of a method, the result first. -/
def ExportedMethod.natives (method : ExportedMethod) : List NativeType :=
  method.result.native :: method.params.map Parameter.native

namespace Stub

/-- A name in a namespace that is written inside of it like a name outside. -/
structure Captured (space inner outer : String) : Prop where
  named : space ≠ ""
  inside : inner = space ++ "::" ++ outer
  outside : ∀ rest, outer ≠ space ++ "::" ++ rest

/-- Behind a leading part stands the rest. -/
theorem afterLeading?_append (leading rest : List Char) :
    afterLeading? leading (leading ++ rest) = some rest := by
  induction leading with
  | nil => rfl
  | cons c leading ih => rw [List.cons_append, afterLeading?, if_pos rfl, ih]

/-- A name in a namespace loses the namespace. -/
theorem relativeTo_of_inside {space : String} (named : space ≠ "") (rest : String) :
    relativeTo (space ++ "::" ++ rest) space = rest := by
  have nonempty : space.isEmpty = false := by simpa using named
  have text : (space ++ "::" ++ rest).toList = (space ++ "::").toList ++ rest.toList :=
    String.toList_append
  rw [relativeTo, nonempty, text, afterLeading?_append]
  exact String.ofList_toList

/-- A name outside a namespace stays as it is. -/
theorem relativeTo_of_outside {name space : String}
    (outside : ∀ rest, name ≠ space ++ "::" ++ rest) : relativeTo name space = name := by
  rcases eq_or_eq_append_relativeTo name space with same | inside
  · exact same.symm
  · exact absurd inside (outside _)

/-- A name loses the namespace exactly where it has it. -/
theorem relativeTo_cases {space : String} (named : space ≠ "") (name : String) :
    name = space ++ "::" ++ relativeTo name space ∨
      (relativeTo name space = name ∧ ∀ rest, name ≠ space ++ "::" ++ rest) := by
  by_cases inside : ∃ rest, name = space ++ "::" ++ rest
  · obtain ⟨rest, rfl⟩ := inside
    exact .inl (by rw [relativeTo_of_inside named])
  · exact .inr ⟨relativeTo_of_outside (not_exists.mp inside), not_exists.mp inside⟩

/-- A captured name is written like the name that captures it. -/
theorem Captured.relativeTo_eq {space inner outer : String}
    (captured : Captured space inner outer) : relativeTo inner space = relativeTo outer space := by
  rw [captured.inside, relativeTo_of_inside captured.named, relativeTo_of_outside captured.outside]

/-- Two names are written alike in a namespace exactly if they are one, or if one of them is
captured. -/
theorem relativeTo_eq_iff {space left right : String} :
    relativeTo left space = relativeTo right space ↔
      left = right ∨ Captured space left right ∨ Captured space right left := by
  constructor
  · intro same
    rcases eq_or_ne space "" with rfl | named
    · exact .inl same
    · rcases relativeTo_cases named left with leftInside | ⟨leftSame, leftOutside⟩
      · rcases relativeTo_cases named right with rightInside | ⟨rightSame, rightOutside⟩
        · exact .inl (by rw [leftInside, rightInside, same])
        · rw [same, rightSame] at leftInside
          exact .inr (.inl ⟨named, leftInside, rightOutside⟩)
      · rcases relativeTo_cases named right with rightInside | ⟨rightSame, rightOutside⟩
        · rw [← same, leftSame] at rightInside
          exact .inr (.inr ⟨named, rightInside, leftOutside⟩)
        · exact .inl (leftSame.symm.trans (same.trans rightSame))
  · rintro (rfl | captured | captured)
    · rfl
    · exact captured.relativeTo_eq
    · exact captured.relativeTo_eq.symm

/-- Two positions that are different, but written alike in a namespace. -/
inductive MergedWithin (space : String) (left right : NativeType) : Prop where
  /-- The name of the first is in the namespace, the name of the second only looks like it. -/
  | captured (indirection : left.indirection = right.indirection)
      (isConst : left.isConst = right.isConst) (names : Captured space left.base right.base)
  /-- The written name of the first has marks in it. -/
  | marked (carries : (typeWithin space left).CarriesMarks (typeWithin space right))

/-- Two positions are of one type within a namespace exactly if they are written by one name
and marked alike. -/
theorem typeWithin_eq_iff {space : String} {left right : NativeType} :
    typeWithin space left = typeWithin space right ↔
      left.indirection = right.indirection ∧ left.isConst = right.isConst ∧
        relativeTo left.base space = relativeTo right.base space := by
  cases left
  cases right
  simp only [typeWithin, NativeType.withBase, NativeType.mk.injEq]
  tauto

/-- Two positions are written alike within a namespace exactly if they are one, or merged. -/
theorem text_typeWithin_eq_iff {space : String} {left right : NativeType} :
    (typeWithin space left).text = (typeWithin space right).text ↔
      left = right ∨ MergedWithin space left right ∨ MergedWithin space right left := by
  rw [NativeType.text_eq_iff, typeWithin_eq_iff, relativeTo_eq_iff]
  constructor
  · rintro (⟨indirection, isConst, base | captured | captured⟩ | carries | carries)
    · refine .inl ?_
      cases left
      cases right
      simp_all
    · exact .inr (.inl (.captured indirection isConst captured))
    · exact .inr (.inr (.captured indirection.symm isConst.symm captured))
    · exact .inr (.inl (.marked carries))
    · exact .inr (.inr (.marked carries))
  · rintro (rfl | merged | merged)
    · exact .inl ⟨rfl, rfl, .inl rfl⟩
    · cases merged with
      | captured indirection isConst names =>
          exact .inl ⟨indirection, isConst, .inr (.inl names)⟩
      | marked carries => exact .inr (.inl carries)
    · cases merged with
      | captured indirection isConst names =>
          exact .inl ⟨indirection.symm, isConst.symm, .inr (.inr names)⟩
      | marked carries => exact .inr (.inr carries)

/-- Values have one size term within a namespace exactly if they are written by one name. -/
theorem sizeofText_typeWithin_eq_iff {space : String} {left right : NativeType}
    (leftValue : left.indirection = .value) (rightValue : right.indirection = .value) :
    (typeWithin space left).sizeofText = (typeWithin space right).sizeofText ↔
      left.base = right.base ∨ Captured space left.base right.base ∨
        Captured space right.base left.base := by
  have term (type : NativeType) (value : type.indirection = .value) :
      (typeWithin space type).sizeofText = "sizeof(" ++ relativeTo type.base space ++ ")" := by
    simp [NativeType.sizeofText, typeWithin, NativeType.withBase, value]
  rw [term left leftValue, term right rightValue, String.append_left_inj, String.append_right_inj,
    relativeTo_eq_iff]

/-- The types of a function, the result first. -/
def NativeFunction.types (function : NativeFunction) : List NativeType :=
  function.result :: function.params.map Prod.fst

/-- The positions of a method are written relative to the namespace of its class, and the terms
of its slots relative to the configured namespace. -/
structure WrittenRelative (config : Config) (cls : ExportedClass) (method : ExportedMethod) :
    Prop where
  declared : (declaration cls method).types.map NativeType.text
    = method.natives.map fun native => (typeWithin cls.nativeNamespace native).text
  counted : (registrationSlots config method).map nativeSizeText
    = (method.slotPositions config.includeReturnSlot).map fun slot =>
      (typeWithin config.generatedNamespace slot.native).sizeofText

/-- The term of a slot is the size of its position within the configured namespace. -/
theorem nativeSizeText_ofPosition {types : TypeMap} {space : String} {type : ManagedType}
    {slot : SlotPosition} (resolved : SlotResolves types type slot) :
    nativeSizeText (.ofPosition (fun position => relativeTo position.native.base space) slot)
      = (typeWithin space slot.native).sizeofText := by
  have indirect := resolved.native
  rw [← resolved.managed] at indirect
  rw [SlotTerm.ofPosition, ← indirect, NativeType.isIndirect, NativeType.sizeofText]
  cases indirection : slot.native.indirection with
  | value => simp [nativeSizeText, typeWithin, NativeType.withBase, indirection]
  | pointer | reference => simp [nativeSizeText, typeWithin, NativeType.withBase, indirection]

/-- The names of a resolved method are written relative to the two namespaces. -/
theorem writtenRelative_of_resolves {config : Config} {types : TypeMap}
    (sameTarget : types.target = config.target) (cls : ExportedClass) {decl : MethodDecl}
    {method : ExportedMethod}
    (resolved : MethodResolves types config.includeReturnSlot decl method) :
    WrittenRelative config cls method where
  declared := by
    simp [NativeFunction.types, declaration, ExportedMethod.natives, Function.comp_def]
  counted := by
    rw [(blockSizesAgree_of_resolves sameTarget cls resolved).native, List.map_map]
    refine List.map_congr_left fun slot isSlot => ?_
    obtain ⟨type, -, slotResolves⟩ := exists_of_forall₂ resolved.slotPositions isSlot
    exact nativeSizeText_ofPosition slotResolves

/-- In a run that succeeds all positions are written relative to the namespaces that they stand
in. Within a namespace two positions are written alike exactly if they are one or merged, and
two values have one size term exactly if they have one name or the name of one is captured. -/
theorem native_names_merge_iff {config : Config} {declarations : Declarations}
    {generated : Generated} (success : generate config declarations = .ok generated) :
    (∀ entry ∈ generated.classes, ∀ method ∈ entry.cls.methods,
      WrittenRelative config entry.cls method) ∧
    ∀ (space : String) (left right : NativeType),
      ((typeWithin space left).text = (typeWithin space right).text ↔
        left = right ∨ MergedWithin space left right ∨ MergedWithin space right left) ∧
      (left.indirection = .value → right.indirection = .value →
        ((typeWithin space left).sizeofText = (typeWithin space right).sizeofText ↔
          left.base = right.base ∨ Captured space left.base right.base ∨
            Captured space right.base left.base)) := by
  refine ⟨fun entry isEntry method isMethod => ?_, fun space left right =>
    ⟨text_typeWithin_eq_iff, sizeofText_typeWithin_eq_iff⟩⟩
  obtain ⟨types, classes, built, resolved, -, rfl⟩ := generate_ok success
  obtain ⟨cls, isClass, rfl⟩ := List.mem_map.mp isEntry
  obtain ⟨decl, -, same⟩ := exists_of_forall₂ resolved isClass
  obtain ⟨declared, -, sameMethod⟩ := exists_of_forall₂ same.methods isMethod
  exact writtenRelative_of_resolves (buildTypes_target built) cls sameMethod

/-- The names of the run with the shared name are merged within a namespace in no other way. -/
theorem native_names_merge_iff_sharedName :
    ∃ generated, generate countingConfig sharedNameDeclarations = .ok generated ∧
      (∀ entry ∈ generated.classes, ∀ method ∈ entry.cls.methods,
        WrittenRelative countingConfig entry.cls method) ∧
      ∀ left right : NativeType,
        (typeWithin "retro" left).text = (typeWithin "retro" right).text ↔
          left = right ∨ MergedWithin "retro" left right ∨ MergedWithin "retro" right left := by
  obtain ⟨generated, success, -⟩ := generate_sharedName
  obtain ⟨written, names⟩ := native_names_merge_iff success
  exact ⟨generated, success, written, fun left right => (names "retro" left right).1⟩

/-- A color in the namespace of its module, and a shade whose name looks like it there. -/
def painterDeclarations : Declarations where
  blittables :=
    [⟨"Color", "paint", "retro::Color", some "retro.core",
      .record [⟨"r", .path "f32", .synthetic⟩, ⟨"g", .path "f32", .synthetic⟩,
        ⟨"b", .path "f32", .synthetic⟩, ⟨"a", .path "f32", .synthetic⟩], .synthetic⟩,
     ⟨"Shade", "paint", "Color", none, .enumeration .uint8 ["Light", "Dark"], .synthetic⟩]
  exports :=
    [⟨"Painter", "retro", none, .class, none,
      [⟨"fill", [⟨"color", .path "Color", none, .synthetic⟩,
          ⟨"shade", .path "Shade", none, .synthetic⟩], .unit, none, .synthetic⟩], .synthetic⟩]

/-- A painter takes a color and a shade, of sixteen bytes and of one. Both are declared and
counted as colors. -/
theorem native_names_merged :
    ∃ generated cls method left right,
      generate Config.standard painterDeclarations = .ok generated ∧
      generated.exports = [(cls, method)] ∧
      method.natives = [.void, left, right] ∧ left ≠ right ∧
      left.isIndirect = false ∧ right.isIndirect = false ∧ left.base ≠ right.base ∧
      method.params.map Parameter.size = [16, 1] ∧
      (declaration cls method).types.map NativeType.text = ["void", "Color", "Color"] ∧
      (registrationSlots Config.standard method).map nativeSizeText
        = ["sizeof(Color)", "sizeof(Color)"] := by
  have computed : ∃ generated, generate Config.standard painterDeclarations = .ok generated ∧
      generated.exports.map (fun (cls, method) =>
        ((method.natives, method.params.map Parameter.size),
          (declaration cls method).types.map NativeType.text,
          (registrationSlots Config.standard method).map nativeSizeText))
      = [(([.void, .make "retro::Color" .value false, .make "Color" .value false], [16, 1]),
          ["void", "Color", "Color"], ["sizeof(Color)", "sizeof(Color)"])] :=
    generate_of_computed (by decide +kernel)
  obtain ⟨generated, success, found⟩ := computed
  obtain ⟨⟨cls, method⟩, exported, found⟩ := List.map_eq_singleton_iff.mp found
  obtain ⟨positions, written⟩ := Prod.ext_iff.mp found
  obtain ⟨natives, sizes⟩ := Prod.ext_iff.mp positions
  obtain ⟨declared, counted⟩ := Prod.ext_iff.mp written
  exact ⟨generated, cls, method, _, _, success, exported, natives, by decide +kernel, rfl, rfl,
    by decide +kernel, sizes, declared, counted⟩

end Stub

end NativeBridge
