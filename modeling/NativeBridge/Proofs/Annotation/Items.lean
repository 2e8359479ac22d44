import NativeBridge.Annotation.Blittable
import NativeBridge.Annotation.Native
import NativeBridge.Proofs.Annotation.Arguments

/-!
# What annotations say together

The annotations of one name say together what their items say in the order in which
they are written: of a text the last value counts, and a mark counts wherever it
stands. It does not matter how the items are distributed over the annotations, nor
how items of different keys are mixed (`annotations_fold_items`).
-/

namespace NativeBridge

open Source Source.Attribute Source.Parser

/-- The last value that some items give. -/
def lastGiven {ι α : Type} (given? : ι → Option α) (items : List ι) : Option α :=
  (items.filterMap given?).getLast?

section LastGiven

variable {ι α : Type} {given? : ι → Option α}

@[simp]
theorem lastGiven_nil : lastGiven given? [] = none :=
  rfl

/-- The value of the first item counts only if no later item gives one. -/
@[simp]
theorem lastGiven_cons (item : ι) (items : List ι) :
    lastGiven given? (item :: items) = (lastGiven given? items).or (given? item) := by
  rw [lastGiven, lastGiven]
  cases given : given? item with
  | none => simp [given]
  | some value =>
      rw [List.filterMap_cons_some given, List.getLast?_cons]
      cases (items.filterMap given?).getLast? <;> rfl

/-- Items that give nothing do not count. -/
theorem lastGiven_filter {keeps : ι → Bool} (items : List ι)
    (idle : ∀ item, keeps item = false → given? item = none) :
    lastGiven given? (items.filter keeps) = lastGiven given? items := by
  rw [lastGiven, lastGiven, List.filterMap_filter]
  refine congrArg List.getLast? (List.filterMap_congr fun item _ => ?_)
  cases kept : keeps item with
  | true => rfl
  | false => exact (idle item kept).symm

end LastGiven

namespace AnnotationKey

/-- An item that is a text is read as this text. -/
theorem map_stringValue_eq_ok_iff {ι : Type} {make : String → ι} {input after : Input}
    {value : ι} :
    (do return make (← stringValue).1 : Parser ι) input = .ok (value, after) ↔
      ∃ text, ReadsText (some text) input after ∧ make text = value := by
  simp only [bind_eq_ok_iff, pure_eq_ok_iff, ReadsText]
  constructor
  · rintro ⟨⟨text, region⟩, middle, isText, rfl, rfl⟩
    exact ⟨text, ⟨region, isText⟩, rfl⟩
  · rintro ⟨text, ⟨region, isText⟩, rfl⟩
    exact ⟨(text, region), after, isText, rfl, rfl⟩

/-- An item that is a mark is read without reading on. -/
theorem pure_eq_ok_iff_readsText {ι : Type} {mark value : ι} {input after : Input} :
    (return mark : Parser ι) input = .ok (value, after) ↔
      ReadsText none input after ∧ mark = value := by
  rw [pure_eq_ok_iff, ReadsText, and_comm, eq_comm (a := input)]

/-- A key that is refused is not read. -/
theorem refuse_ne_ok {ι : Type} {key : AnnotationKey} {owner : String} {input after : Input}
    {value : ι} : (key.refuse owner : Parser ι) input ≠ .ok (value, after) :=
  failAt_ne_ok

end AnnotationKey

namespace NativeOverride.Item

/-- An item as an argument. -/
def argument : Item → AnnotationArgument
  | name value => ⟨"name", some value⟩
  | module value => ⟨"module", some value⟩
  | byRef => ⟨"by_ref", .none⟩
  | isConst => ⟨"is_const", .none⟩

/-- The native name that an item gives. -/
def name? : Item → Option String
  | name value => some value
  | _ => .none

/-- The native module that an item gives. -/
def module? : Item → Option String
  | module value => some value
  | _ => .none

/-- The items of an override are read as their arguments. -/
theorem understands (owner : String) :
    Understands (item owner) (fun value => some value.argument) where
  eq_ok_iff := by
    intro key input after value
    simp only [Option.some.injEq, exists_eq_left']
    constructor
    · intro isRead
      generalize isItem : item owner key = reader at isRead
      unfold item at isItem
      split at isItem <;> subst isItem
      case h_1 single | h_2 single =>
        obtain ⟨text, isText, rfl⟩ := AnnotationKey.map_stringValue_eq_ok_iff.mp isRead
        exact ⟨single, isText⟩
      case h_3 single | h_4 single =>
        obtain ⟨isText, rfl⟩ := AnnotationKey.pure_eq_ok_iff_readsText.mp isRead
        exact ⟨single, isText⟩
      case h_5 => exact absurd isRead AnnotationKey.refuse_ne_ok
    · rintro ⟨single, isText⟩
      cases value with
      | name value | module value =>
          rw [item, single]
          exact AnnotationKey.map_stringValue_eq_ok_iff.mpr ⟨value, isText, rfl⟩
      | byRef | isConst =>
          rw [item, single]
          exact AnnotationKey.pure_eq_ok_iff_readsText.mpr ⟨isText, rfl⟩

end NativeOverride.Item

namespace NativeNaming.Item

/-- An item as an argument. -/
def argument : Item → AnnotationArgument
  | name value => ⟨"name", some value⟩
  | module value => ⟨"module", some value⟩

/-- The native name that an item gives. -/
def name? : Item → Option String
  | name value => some value
  | module _ => none

/-- The native module that an item gives. -/
def module? : Item → Option String
  | name _ => none
  | module value => some value

/-- The items of a native naming are read as their arguments. -/
theorem understands : Understands item (fun value => some value.argument) where
  eq_ok_iff := by
    intro key input after value
    simp only [Option.some.injEq, exists_eq_left']
    constructor
    · intro isRead
      generalize isItem : item key = reader at isRead
      unfold item at isItem
      split at isItem <;> subst isItem
      case h_1 single | h_2 single =>
        obtain ⟨text, isText, rfl⟩ := AnnotationKey.map_stringValue_eq_ok_iff.mp isRead
        exact ⟨single, isText⟩
      case h_3 => exact absurd isRead AnnotationKey.refuse_ne_ok
    · rintro ⟨single, isText⟩
      cases value with
      | name value | module value =>
          rw [item, single]
          exact AnnotationKey.map_stringValue_eq_ok_iff.mpr ⟨value, isText, rfl⟩

end NativeNaming.Item

/-- A managed name is that of one primitive type at most. -/
theorem Primitive.ofManagedName?_eq_some_iff {name : String} {primitive : Primitive} :
    ofManagedName? name = some primitive ↔ primitive.managedName = name := by
  constructor
  · intro found
    simpa using List.find?_some found
  · rintro rfl
    cases primitive <;> rfl

namespace Representation.Item

/-- An item as an argument; only integers are given as such. -/
def argument? : Item → Option AnnotationArgument
  | c => some ⟨"C", none⟩
  | integer primitive => if primitive.isInteger then some ⟨primitive.managedName, none⟩ else none

/-- The integer that an item gives. -/
def integer? : Item → Option Primitive
  | c => none
  | integer primitive => some primitive

/-- A word that a key is taken for is the key. -/
theorem single_of_getD {key : AnnotationKey} {word : String} (named : word ≠ "")
    (taken : key.single?.getD "" = word) : key.single? = some word := by
  cases single : key.single? with
  | none =>
      rw [single] at taken
      exact absurd taken.symm named
  | some found => rw [← taken, single, Option.getD_some]

/-- The items of a representation are read as their arguments. -/
theorem understands : Understands item argument? where
  eq_ok_iff := by
    intro key input after value
    constructor
    · intro isRead
      generalize isItem : item key = reader at isRead
      simp only [item] at isItem
      split at isItem
      case isTrue isC =>
        subst isItem
        obtain ⟨isText, rfl⟩ := AnnotationKey.pure_eq_ok_iff_readsText.mp isRead
        exact ⟨_, rfl, single_of_getD (by decide) isC, isText⟩
      case isFalse =>
        split at isItem
        case h_2 =>
          subst isItem
          exact absurd isRead failAt_ne_ok
        case h_1 primitive found =>
          have named := Primitive.ofManagedName?_eq_some_iff.mp found
          split at isItem <;> subst isItem
          case isFalse => exact absurd isRead failAt_ne_ok
          case isTrue isInteger =>
            obtain ⟨isText, rfl⟩ := AnnotationKey.pure_eq_ok_iff_readsText.mp isRead
            refine ⟨⟨primitive.managedName, none⟩, ?_, ?_, isText⟩
            · simp [argument?, isInteger]
            · exact single_of_getD (by cases primitive <;> decide) named.symm
    · rintro ⟨_, denotes, single, isText⟩
      cases value with
      | c =>
          cases denotes
          rw [item, single]
          exact AnnotationKey.pure_eq_ok_iff_readsText.mpr ⟨isText, rfl⟩
      | integer primitive =>
          have unlikeC : primitive.managedName ≠ "C" := by cases primitive <;> decide
          have found := Primitive.ofManagedName?_eq_some_iff.mpr (rfl : primitive.managedName = _)
          simp only [argument?] at denotes
          split at denotes
          case isFalse => cases denotes
          case isTrue isInteger =>
            cases denotes
            have isItem : item key = (return .integer primitive) := by
              simp [item, single, unlikeC, found, isInteger]
            rw [isItem]
            exact AnnotationKey.pure_eq_ok_iff_readsText.mpr ⟨isText, rfl⟩

end Representation.Item

/-- The attribute is written with items of an override: every key is known and has a value exactly
if it needs one. -/
def Source.Attribute.IsOverride (attr : Attribute) : Prop :=
  ∃ items, attr.MayList (fun item => some (NativeOverride.Item.argument item)) items

namespace NativeOverride

/-- The annotations with a name list these items together. -/
def Lists (attrs : List Attribute) (owner : String) (items : List Item) : Prop :=
  ListTogether (MayList fun item => some (Item.argument item))
    (attrs.filter (Attribute.endsWith · owner)) items

/-- An override is what some items say in their order: of the texts the last value counts, and a
mark is set if it occurs. -/
structure SaidBy (override : NativeOverride) (items : List Item) : Prop where
  name : override.name = lastGiven Item.name? items
  module : override.module = lastGiven Item.module? items
  byRef : override.byRef = true ↔ .byRef ∈ items
  isConst : override.isConst = true ↔ .isConst ∈ items

/-- Items say one thing only. -/
theorem SaidBy.unique {override other : NativeOverride} {items : List Item}
    (said : override.SaidBy items) (saidToo : other.SaidBy items) : override = other := by
  obtain ⟨name, module, byRef, isConst⟩ := override
  obtain ⟨otherName, otherModule, otherByRef, otherIsConst⟩ := other
  have sameName : name = otherName := said.name.trans saidToo.name.symm
  have sameModule : module = otherModule := said.module.trans saidToo.module.symm
  have sameByRef : byRef = otherByRef :=
    Bool.eq_iff_iff.mpr (said.byRef.trans saidToo.byRef.symm)
  have sameIsConst : isConst = otherIsConst :=
    Bool.eq_iff_iff.mpr (said.isConst.trans saidToo.isConst.symm)
  rw [sameName, sameModule, sameByRef, sameIsConst]

/-- What is said after some more items. -/
theorem foldl_apply (items : List Item) (start : NativeOverride) :
    items.foldl apply start =
      ⟨(lastGiven Item.name? items).or start.name, (lastGiven Item.module? items).or start.module,
        start.byRef || items.contains .byRef, start.isConst || items.contains .isConst⟩ := by
  induction items generalizing start with
  | nil => simp
  | cons item items ih =>
      rw [List.foldl_cons, ih]
      cases item <;> simp [apply, Item.name?, Item.module?]

/-- Items that are applied one after the other say what counts among them. -/
theorem saidBy_foldl (items : List Item) : (items.foldl apply .none).SaidBy items := by
  rw [foldl_apply]
  constructor <;> simp [NativeOverride.none]

/-- The annotations with a name are read exactly as they are written, and applied in order. -/
theorem ofAttributes_eq_ok_iff {attrs : List Attribute} {owner : String}
    {result : Option NativeOverride} :
    ofAttributes attrs owner = .ok result ↔
      ∃ items, Lists attrs owner items ∧
        (if (attrs.filter (Attribute.endsWith · owner)).isEmpty then .none
          else some (items.foldl apply .none)) = result := by
  have isRead {items : List Item} :
      gather (attrs.filter (Attribute.endsWith · owner))
        (fun attr => attr.readItems? fun _ => item owner) = .ok items ↔ Lists attrs owner items :=
    gather_eq_ok_iff (readItems?_eq_ok_iff fun _ => Item.understands owner)
  simp only [ofAttributes, Outcome.bind_eq_ok_iff, isRead, Outcome.pure_eq_ok_iff]

/-- No annotation has the name exactly if nothing is said. -/
theorem ofAttributes_eq_ok_none_iff {attrs : List Attribute} {owner : String} :
    ofAttributes attrs owner = .ok Option.none ↔ ∀ attr ∈ attrs, attr.endsWith owner = false := by
  have unnamed : (attrs.filter (Attribute.endsWith · owner)) = [] ↔
      ∀ attr ∈ attrs, attr.endsWith owner = false := by
    simp [List.filter_eq_nil_iff]
  rw [ofAttributes_eq_ok_iff, ← unnamed]
  constructor
  · rintro ⟨items, -, same⟩
    split at same
    case isTrue empty => exact List.isEmpty_iff.mp empty
    case isFalse => cases same
  · intro empty
    refine ⟨[], ?_, by rw [empty]; rfl⟩
    rw [Lists, empty]
    exact ⟨[], .nil, rfl⟩

/-- An override is read exactly if an annotation has the name, all of them are written with known
items, and it is what these say. -/
theorem ofAttributes_eq_ok_some_iff {attrs : List Attribute} {owner : String}
    {override : NativeOverride} :
    ofAttributes attrs owner = .ok (some override) ↔
      (∃ attr ∈ attrs, attr.endsWith owner = true) ∧
        ∃ items, Lists attrs owner items ∧ override.SaidBy items := by
  have named : (attrs.filter (Attribute.endsWith · owner)).isEmpty = false ↔
      ∃ attr ∈ attrs, attr.endsWith owner = true := by
    simp [List.isEmpty_eq_false_iff]
  rw [ofAttributes_eq_ok_iff, ← named]
  constructor
  · rintro ⟨items, listed, same⟩
    split at same
    case isTrue => cases same
    case isFalse found =>
      cases same
      exact ⟨by simpa using found, items, listed, saidBy_foldl items⟩
  · rintro ⟨found, items, listed, said⟩
    refine ⟨items, listed, ?_⟩
    rw [found, (saidBy_foldl items).unique said]
    rfl

/-- Annotations with a name are read exactly if all of them are written with known items. -/
theorem exists_ofAttributes_ok_iff {attrs : List Attribute} {owner : String} :
    (∃ result, ofAttributes attrs owner = .ok result) ↔
      ∀ attr ∈ attrs, attr.endsWith owner = true → attr.IsOverride := by
  have found : (∀ attr ∈ attrs, attr.endsWith owner = true → attr.IsOverride) ↔
      ∀ attr ∈ attrs.filter (Attribute.endsWith · owner), attr.IsOverride := by
    simp [List.mem_filter]
  rw [found]
  refine Iff.trans ?_ exists_listTogether_iff
  simp only [ofAttributes_eq_ok_iff]
  constructor
  · rintro ⟨_, items, listed, -⟩
    exact ⟨items, listed⟩
  · rintro ⟨items, listed⟩
    exact ⟨_, items, listed, rfl⟩

/-- Annotations with a name are refused exactly if one of them is not written with known items. -/
theorem exists_ofAttributes_error_iff {attrs : List Attribute} {owner : String} :
    (∃ fault, ofAttributes attrs owner = .error fault) ↔
      ∃ attr ∈ attrs, attr.endsWith owner = true ∧ ¬ attr.IsOverride := by
  have refused : (∃ fault, ofAttributes attrs owner = .error fault) ↔
      ¬ ∃ result, ofAttributes attrs owner = .ok result := by
    cases ofAttributes attrs owner <;> simp
  rw [refused, exists_ofAttributes_ok_iff]
  simp

/-- The items of each key are the same, in the same order. -/
def SameByKey (items others : List Item) : Prop :=
  ∀ key, items.filter (fun item => item.argument.key == key)
    = others.filter (fun item => item.argument.key == key)

/-- It does not matter how items of different keys are mixed. -/
theorem SaidBy.of_sameByKey {override : NativeOverride} {items others : List Item}
    (said : override.SaidBy items) (same : SameByKey items others) : override.SaidBy others := by
  have sameLast {α : Type} {given? : Item → Option α} (key : String)
      (idle : ∀ item : Item, (item.argument.key == key) = false → given? item = Option.none) :
      lastGiven given? items = lastGiven given? others := by
    rw [← lastGiven_filter items idle, same key, lastGiven_filter others idle]
  have sameMark (mark : Item) : mark ∈ items ↔ mark ∈ others := by
    have filtered := congrArg (mark ∈ ·) (same mark.argument.key)
    simpa [List.mem_filter] using filtered
  constructor
  · refine said.name.trans (sameLast "name" fun item => ?_)
    cases item <;> simp [Item.argument, Item.name?]
  · refine said.module.trans (sameLast "module" fun item => ?_)
    cases item <;> simp [Item.argument, Item.module?]
  · exact said.byRef.trans (sameMark .byRef)
  · exact said.isConst.trans (sameMark .isConst)

end NativeOverride

namespace NativeNaming

/-- The annotations of a type list these items together. -/
def Lists (attrs : List Attribute) (items : List Item) : Prop :=
  ListTogether (Attribute.Lists fun item => some (Item.argument item))
    (attrs.filter (Attribute.isNamed · "blittable")) items

/-- Of each kind of text the last value counts. -/
structure SaidBy (naming : NativeNaming) (items : List Item) : Prop where
  name : naming.name = lastGiven Item.name? items
  module : naming.module = lastGiven Item.module? items

/-- What is said after some more items. -/
theorem foldl_apply (items : List Item) (start : NativeNaming) :
    items.foldl apply start =
      ⟨(lastGiven Item.name? items).or start.name,
        (lastGiven Item.module? items).or start.module⟩ := by
  induction items generalizing start with
  | nil => simp
  | cons item items ih =>
      rw [List.foldl_cons, ih]
      cases item <;> simp [apply, Item.name?, Item.module?]

/-- The annotations of a type are read exactly as they are written, and the last values count. -/
theorem ofAttributes_eq_ok_iff {attrs : List Attribute} {naming : NativeNaming} :
    ofAttributes attrs = .ok naming ↔ ∃ items, Lists attrs items ∧ naming.SaidBy items := by
  have isRead {items : List Item} :
      gather (attrs.filter (Attribute.isNamed · "blittable"))
        (fun attr => attr.readArguments fun _ => Attribute.items item) = .ok items ↔
          Lists attrs items :=
    gather_eq_ok_iff (readArguments_eq_ok_iff fun _ => Item.understands)
  simp only [ofAttributes, Outcome.bind_eq_ok_iff, isRead, Outcome.pure_eq_ok_iff, foldl_apply]
  refine exists_congr fun items => and_congr_right fun _ => ?_
  obtain ⟨name, module⟩ := naming
  simp only [Option.or_none, mk.injEq]
  exact ⟨fun ⟨isName, isModule⟩ => ⟨isName.symm, isModule.symm⟩,
    fun said => ⟨said.name.symm, said.module.symm⟩⟩

end NativeNaming

namespace Representation

/-- The annotations of a type list these items together. -/
def Lists (attrs : List Attribute) (items : List Item) : Prop :=
  ListTogether (Attribute.Lists Item.argument?) (attrs.filter (Attribute.isNamed · "repr")) items

/-- The last integer counts, and the layout of C wherever it stands. -/
structure SaidBy (repr : Representation) (items : List Item) : Prop where
  integer : repr.integer = lastGiven Item.integer? items
  isC : repr.isC = true ↔ .c ∈ items

/-- What is fixed after some more items. -/
theorem foldl_apply (items : List Item) (start : Representation) :
    items.foldl apply start =
      ⟨start.isC || items.contains .c, (lastGiven Item.integer? items).or start.integer⟩ := by
  induction items generalizing start with
  | nil => simp
  | cons item items ih =>
      rw [List.foldl_cons, ih]
      cases item <;> simp [apply, Item.integer?]

/-- The annotations of a type are read exactly as they are written, and the last integer counts. -/
theorem ofAttributes_eq_ok_iff {attrs : List Attribute} {repr : Representation} :
    ofAttributes attrs = .ok repr ↔ ∃ items, Lists attrs items ∧ repr.SaidBy items := by
  have isRead {items : List Item} :
      gather (attrs.filter (Attribute.isNamed · "repr"))
        (fun attr => attr.readArguments fun _ => Attribute.items item) = .ok items ↔
          Lists attrs items :=
    gather_eq_ok_iff (readArguments_eq_ok_iff fun _ => Item.understands)
  simp only [ofAttributes, Outcome.bind_eq_ok_iff, isRead, Outcome.pure_eq_ok_iff, foldl_apply]
  refine exists_congr fun items => and_congr_right fun _ => ?_
  obtain ⟨isC, integer⟩ := repr
  simp only [Bool.false_or, Option.or_none, mk.injEq]
  constructor
  · rintro ⟨rfl, rfl⟩
    exact ⟨rfl, List.contains_iff_mem⟩
  · intro said
    exact ⟨Bool.eq_iff_iff.mpr (List.contains_iff_mem.trans said.isC.symm), said.integer.symm⟩

end Representation

/-- The annotations of a position say nothing exactly if none has the name, and else what all
their items say in the order in which they are written; they are refused exactly if one of them
is not written with known items. Only the items of each key and their order matter. The
annotations of a blittable type and of its representation are read in the same way. -/
theorem annotations_fold_items (attrs : List Attribute) (owner : String) :
    (NativeOverride.ofAttributes attrs owner = .ok none ↔
      ∀ attr ∈ attrs, attr.endsWith owner = false) ∧
    (∀ override, NativeOverride.ofAttributes attrs owner = .ok (some override) ↔
      (∃ attr ∈ attrs, attr.endsWith owner = true) ∧
        ∃ items, NativeOverride.Lists attrs owner items ∧ override.SaidBy items) ∧
    ((∃ fault, NativeOverride.ofAttributes attrs owner = .error fault) ↔
      ∃ attr ∈ attrs, attr.endsWith owner = true ∧ ¬ attr.IsOverride) ∧
    (∀ others items otherItems, NativeOverride.Lists attrs owner items →
      NativeOverride.Lists others owner otherItems →
      NativeOverride.SameByKey items otherItems →
      ((∃ attr ∈ attrs, attr.endsWith owner = true) ↔ ∃ attr ∈ others, attr.endsWith owner = true) →
      NativeOverride.ofAttributes attrs owner = NativeOverride.ofAttributes others owner) ∧
    (∀ naming, NativeNaming.ofAttributes attrs = .ok naming ↔
      ∃ items, NativeNaming.Lists attrs items ∧ naming.SaidBy items) ∧
    ∀ repr, Representation.ofAttributes attrs = .ok repr ↔
      ∃ items, Representation.Lists attrs items ∧ repr.SaidBy items := by
  refine ⟨NativeOverride.ofAttributes_eq_ok_none_iff,
    fun _ => NativeOverride.ofAttributes_eq_ok_some_iff,
    NativeOverride.exists_ofAttributes_error_iff, ?_,
    fun _ => NativeNaming.ofAttributes_eq_ok_iff, fun _ => Representation.ofAttributes_eq_ok_iff⟩
  intro others items otherItems listed otherListed same alike
  by_cases named : ∃ attr ∈ attrs, attr.endsWith owner = true
  · have said := NativeOverride.saidBy_foldl items
    rw [NativeOverride.ofAttributes_eq_ok_some_iff.mpr ⟨named, items, listed, said⟩,
      NativeOverride.ofAttributes_eq_ok_some_iff.mpr
        ⟨alike.mp named, otherItems, otherListed, said.of_sameByKey same⟩]
  · have unnamed (entries : List Attribute)
        (absent : ¬ ∃ attr ∈ entries, attr.endsWith owner = true) :
        NativeOverride.ofAttributes entries owner = .ok none :=
      NativeOverride.ofAttributes_eq_ok_none_iff.mpr (by simpa using absent)
    rw [unnamed attrs named, unnamed others (mt alike.mpr named)]

/-- The trees of an argument with a text. -/
def textTrees (key text : String) : List Tree :=
  [.name key .origin, .punct '=' false .origin, .literal (.string text) text .origin]

/-- A comma between two arguments. -/
def commaTree : Tree :=
  .punct ',' false .origin

/-- An annotation of a position with these trees. -/
def positionAttribute (space : List String) (trees : List Tree) : Attribute :=
  ⟨false, false, (space ++ ["native"]).map fun word => ⟨word, .origin⟩,
    .arguments trees .origin, []⟩

/-- Two annotations of a position, the first with a comma at its end. -/
def entityAttributes : List Attribute :=
  [positionAttribute []
    (textTrees "name" "Entity" ++ [commaTree, .name "by_ref" .origin, commaTree]),
    positionAttribute ["retro"] (textTrees "name" "retro::Entity")]

/-- One annotation that says the same. -/
def entityAttribute : Attribute :=
  positionAttribute [] ([.name "by_ref" .origin] ++ commaTree ::
    (textTrees "name" "Entity" ++ commaTree :: textTrees "name" "retro::Entity"))

/-- The two annotations of the entity are read like the one, and the last name counts. -/
theorem annotations_fold_items_entity :
    NativeOverride.ofAttributes entityAttributes "native"
      = NativeOverride.ofAttributes [entityAttribute] "native" ∧
    NativeOverride.ofAttributes entityAttributes "native"
      = .ok (some ⟨some "retro::Entity", none, true, false⟩) := by
  obtain ⟨-, said, -, alike, -⟩ := annotations_fold_items entityAttributes "native"
  have isName (text : String) : IsWritten (fun item => some (NativeOverride.Item.argument item))
      (.name text) (textTrees "name" text) := ⟨_, rfl, .valued⟩
  have isMark : IsWritten (fun item => some (NativeOverride.Item.argument item))
      .byRef [.name "by_ref" .origin] := ⟨_, rfl, .alone⟩
  have listed : NativeOverride.Lists entityAttributes "native"
      [.name "Entity", .byRef, .name "retro::Entity"] :=
    ⟨[[.name "Entity", .byRef], [.name "retro::Entity"]],
      .cons (.inr ⟨_, _, rfl, .cons (isName "Entity") (.cons isMark .nil)⟩)
        (.cons (.inr ⟨_, _, rfl, .last (isName "retro::Entity")⟩) .nil), rfl⟩
  have listedOnce : NativeOverride.Lists [entityAttribute] "native"
      [.byRef, .name "Entity", .name "retro::Entity"] :=
    ⟨[[.byRef, .name "Entity", .name "retro::Entity"]],
      .cons (.inr ⟨_, _, rfl, .cons isMark (.cons (isName "Entity")
        (.last (isName "retro::Entity")))⟩) .nil, rfl⟩
  have same : NativeOverride.SameByKey [.name "Entity", .byRef, .name "retro::Entity"]
      [.byRef, .name "Entity", .name "retro::Entity"] := by
    intro key
    by_cases named : "name" = key
    · subst named
      rfl
    · simp [List.filter_cons, NativeOverride.Item.argument, named]
  constructor
  · exact alike _ _ _ listed listedOnce same (by decide)
  · refine (said _).mpr ⟨by decide, _, listed, ?_⟩
    constructor <;> decide

end NativeBridge
