import NativeBridge.Annotation.Arguments
import NativeBridge.Proofs.Source.Parser

/-!
# How annotations are written

An annotation is written with its arguments between commas, and each argument with
its key and, if it has one, its value. This form is given without the readers
(`AnnotationArgument.Written`, `Attribute.Lists`). An annotation whose items are
arguments is read exactly as it is written (`readArguments_eq_ok_iff`): nothing that
deviates from the form is passed over, and nothing of the form is refused.
-/

namespace NativeBridge

open Source Source.Parser

/-- An argument of an annotation: a key, which may have a text for its value. -/
structure AnnotationArgument where
  key : String
  text : Option String
  deriving DecidableEq, Repr

/-- An argument is written as its key, followed by an equals sign and a string literal if it has
a text. -/
inductive AnnotationArgument.Written : AnnotationArgument → List Tree → Prop where
  | alone {key : String} {region : Region} : Written ⟨key, none⟩ [.name key region]
  | valued {key text spelling : String} {keyRegion equals region : Region} {joint : Bool} :
      Written ⟨key, some text⟩
        [.name key keyRegion, .punct '=' joint equals, .literal (.string text) spelling region]

namespace AnnotationKey

variable {input after : Input}

/-- Reads the words of a key after its leading separator. -/
def readWords (leading : Bool) : Parser AnnotationKey := do
  let first ← anyWord
  let more ← whileLooking (Look.punct "::") do
    punct "::"
    anyWord
  return ⟨leading, first :: more⟩

/-- A key is a leading separator, which may be missing, and some words. -/
theorem read_eq_ok_iff {key : AnnotationKey} :
    read input = .ok (key, after) ↔
      ∃ leading middle, punct? "::" input = .ok (leading, middle) ∧
        readWords leading middle = .ok (key, after) := by
  rw [read, bind_eq_ok_iff]
  refine exists_congr fun leading => exists_congr fun middle => and_congr_right fun _ => ?_
  rw [look_bind]
  cases seen : Look.anyWord middle.rest with
  | true => rfl
  | false =>
      have wordless : readWords leading middle ≠ .ok (key, after) := by
        rw [readWords, ne_eq, bind_eq_ok_iff]
        rintro ⟨first, _, isFirst, -⟩
        obtain ⟨rest, isRest, -⟩ := anyWord_eq_ok_iff.mp isFirst
        rw [isRest] at seen
        cases seen
      simp only [wordless, iff_false, Bool.not_false, if_true]
      split
      · simp [bind_eq_ok_iff, failSaying_ne_ok]
      · split <;> simp [bind_eq_ok_iff, fail_ne_ok]

/-- A key that is a single word is read from this word, unless a separator follows. -/
theorem read_single_iff {key : AnnotationKey} {word : String} :
    read input = .ok (key, after) ∧ key.single? = some word ↔
      ∃ region rest, input.rest = .name word region :: rest ∧ Look.punct "::" rest = false ∧
        key = ⟨false, [⟨word, region⟩]⟩ ∧ after = input.onward rest region := by
  simp only [read_eq_ok_iff, readWords, bind_eq_ok_iff, pure_eq_ok_iff]
  constructor
  · rintro ⟨⟨leading, middle, isLeading, first, second, isFirst, more, _, isMore, rfl, rfl⟩, single⟩
    cases more with
    | cons => cases leading <;> cases single
    | nil =>
        cases leading with
        | true => cases single
        | false =>
            cases single
            obtain ⟨-, rfl⟩ := punct?_eq_ok_false_iff.mp isLeading
            obtain ⟨rest, isRest, rfl⟩ := anyWord_eq_ok_iff.mp isFirst
            obtain ⟨unseen, rfl⟩ := whileLooking_eq_ok_nil_iff.mp isMore
            exact ⟨first.region, rest, isRest, unseen, rfl, rfl⟩
  · rintro ⟨region, rest, isRest, unseen, rfl, rfl⟩
    have noMark : Look.punct "::" input.rest = false := by
      rw [isRest]
      rfl
    have isFirst : anyWord input = .ok (⟨word, region⟩, input.onward rest region) :=
      anyWord_eq_ok_iff.mpr ⟨rest, isRest, rfl⟩
    exact ⟨⟨false, input, punct?_eq_ok_false_iff.mpr ⟨noMark, rfl⟩, _, _, isFirst, [], _,
      whileLooking_eq_ok_nil_iff.mpr ⟨unseen, rfl⟩, rfl, rfl⟩, rfl⟩

/-- A text for a value is read after an equals sign. -/
theorem stringValue_eq_ok_iff {found : String × Region} :
    stringValue input = .ok (found, after) ↔
      ∃ joint equals spelling rest, input.rest = .punct '=' joint equals
          :: .literal (.string found.1) spelling found.2 :: rest ∧
        after = input.onward rest found.2 := by
  rw [stringValue, bind_eq_ok_iff]
  constructor
  · rintro ⟨_, _, isEquals, isString⟩
    obtain ⟨joint, equals, rest, isRest, rfl⟩ := (punct_eq_ok_iff rfl).mp isEquals
    obtain ⟨spelling, more, rfl, rfl⟩ := string_eq_ok_iff.mp isString
    exact ⟨joint, equals, spelling, more, isRest, rfl⟩
  · rintro ⟨joint, equals, spelling, rest, isRest, rfl⟩
    exact ⟨(), _, (punct_eq_ok_iff rfl).mpr ⟨joint, equals, _, isRest, rfl⟩,
      string_eq_ok_iff.mpr ⟨spelling, rest, rfl, rfl⟩⟩

end AnnotationKey

/-- What is left of an argument after its key: nothing, or the text that is its value. -/
def ReadsText (text : Option String) (input after : Input) : Prop :=
  match text with
  | none => after = input
  | some text => ∃ region, AnnotationKey.stringValue input = .ok ((text, region), after)

/-- A reader of items takes them for arguments of annotations. -/
structure Understands {ι : Type} (item : AnnotationKey → Parser ι)
    (argument? : ι → Option AnnotationArgument) : Prop where
  eq_ok_iff : ∀ {key : AnnotationKey} {input after : Input} {value : ι},
    item key input = .ok (value, after) ↔
      ∃ argument, argument? value = some argument ∧ key.single? = some argument.key ∧
        ReadsText argument.text input after

/-- An item is written as the argument that it is. -/
def IsWritten {ι : Type} (argument? : ι → Option AnnotationArgument) (value : ι)
    (trees : List Tree) : Prop :=
  ∃ argument, argument? value = some argument ∧ argument.Written trees

/-- Items that are arguments are read as they are written. -/
theorem Understands.reads {ι : Type} {item : AnnotationKey → Parser ι}
    {argument? : ι → Option AnnotationArgument} (understands : Understands item argument?) :
    Parser.Reads (do
      let key ← AnnotationKey.read
      item key) (IsWritten argument?) where
  sound := by
    intro input after value isRead
    obtain ⟨key, middle, isKey, isItem⟩ := bind_eq_ok_iff.mp isRead
    obtain ⟨⟨word, text⟩, denotes, single, isText⟩ := understands.eq_ok_iff.mp isItem
    obtain ⟨keyRegion, rest, isRest, -, -, rfl⟩ := AnnotationKey.read_single_iff.mp ⟨isKey, single⟩
    cases text with
    | none =>
        cases isText
        exact ⟨[_], keyRegion, ⟨_, denotes, .alone⟩, isRest, rfl⟩
    | some text =>
        obtain ⟨region, isText⟩ := isText
        obtain ⟨joint, equals, spelling, more, rfl, rfl⟩ :=
          AnnotationKey.stringValue_eq_ok_iff.mp isText
        exact ⟨[_, _, _], region, ⟨_, denotes, .valued⟩, isRest, rfl⟩
  complete := by
    rintro input value trees rest ⟨⟨word, text⟩, denotes, isWritten⟩ isRest ends
    cases isWritten with
    | @alone _ keyRegion =>
        obtain ⟨isKey, single⟩ :=
          AnnotationKey.read_single_iff.mpr ⟨keyRegion, rest, isRest, ends.unseen, rfl, rfl⟩
        refine ⟨keyRegion, bind_eq_ok_iff.mpr ⟨_, _, isKey, ?_⟩⟩
        exact understands.eq_ok_iff.mpr ⟨_, denotes, single, rfl⟩
    | @valued _ text spelling keyRegion equals region joint =>
        obtain ⟨isKey, single⟩ :=
          AnnotationKey.read_single_iff.mpr ⟨keyRegion, _, isRest, rfl, rfl, rfl⟩
        have isText : AnnotationKey.stringValue (input.onward _ keyRegion)
            = .ok ((text, region), input.onward rest region) :=
          AnnotationKey.stringValue_eq_ok_iff.mpr ⟨joint, equals, spelling, rest, rfl, rfl⟩
        refine ⟨region, bind_eq_ok_iff.mpr ⟨_, _, isKey, ?_⟩⟩
        exact understands.eq_ok_iff.mpr ⟨_, denotes, single, region, isText⟩
  ne_nil := by
    rintro value trees ⟨argument, -, isWritten⟩
    cases isWritten <;> exact List.cons_ne_nil _ _

namespace Source.Attribute

variable {ι : Type}

/-- The items are written between commas in the group of the attribute. -/
def Lists (argument? : ι → Option AnnotationArgument) (attr : Attribute) (items : List ι) : Prop :=
  ∃ trees closing, attr.input = .arguments trees closing ∧
    CommaSeparated (IsWritten argument?) items trees

/-- The attribute lists the items, or it stands alone and there are none. -/
def MayList (argument? : ι → Option AnnotationArgument) (attr : Attribute) (items : List ι) :
    Prop :=
  attr.input = .bare ∧ items = [] ∨ attr.Lists argument? items

/-- The items of some attributes in order, by the items of each of them. -/
def ListTogether (lists : Attribute → List ι → Prop) (attrs : List Attribute) (items : List ι) :
    Prop :=
  ∃ parts, List.Forall₂ lists attrs parts ∧ parts.flatten = items

section Reading

variable {argument? : ι → Option AnnotationArgument} {attr : Attribute} {values : List ι}

/-- The arguments of an attribute are read exactly as they are written. -/
theorem readArguments_eq_ok_iff {item : Grammar → AnnotationKey → Parser ι}
    (understands : ∀ grammar, Understands (item grammar) argument?) :
    attr.readArguments (fun grammar => items (item grammar)) = .ok values ↔
      attr.Lists argument? values := by
  have isList {trees : List Tree} {closing : Region} :
      readTrees (fun grammar => items (item grammar)) trees closing = .ok values ↔
        CommaSeparated (IsWritten argument?) values trees :=
    readTrees_commaSeparated_eq_ok_iff fun grammar => (understands grammar).reads
  rw [readArguments]
  cases written : attr.input with
  | bare => simp [Lists, written]
  | value equals => simp [Lists, written]
  | arguments trees closing => simp [Lists, written, isList]

/-- The items of an attribute that may stand alone are read exactly as they are written. -/
theorem readItems?_eq_ok_iff {item : Grammar → AnnotationKey → Parser ι}
    (understands : ∀ grammar, Understands (item grammar) argument?) :
    attr.readItems? item = .ok values ↔ attr.MayList argument? values := by
  have isList : attr.readArguments (fun grammar => items (item grammar)) = .ok values ↔
      attr.Lists argument? values := readArguments_eq_ok_iff understands
  rw [MayList, readItems?]
  cases written : attr.input with
  | bare => simp [Lists, written, eq_comm]
  | value equals => simpa using isList
  | arguments trees closing => simpa using isList

/-- The items of some attributes are read exactly as they are written. -/
theorem gather_eq_ok_iff {lists : Attribute → List ι → Prop}
    {read : Attribute → Except Fault (List ι)} {attrs : List Attribute}
    (reads : ∀ {attr values}, read attr = .ok values ↔ lists attr values) :
    gather attrs read = .ok values ↔ ListTogether lists attrs values := by
  simp only [gather, Outcome.map_eq_ok_iff, Outcome.mapM_eq_ok_iff, ListTogether, reads]

/-- Attributes list items together exactly if each of them lists some. -/
theorem exists_listTogether_iff {lists : Attribute → List ι → Prop} {attrs : List Attribute} :
    (∃ items, ListTogether lists attrs items) ↔ ∀ attr ∈ attrs, ∃ items, lists attr items := by
  rw [← exists_forall₂_iff]
  constructor
  · rintro ⟨_, parts, each, -⟩
    exact ⟨parts, each⟩
  · rintro ⟨parts, each⟩
    exact ⟨_, parts, each, rfl⟩

end Reading

end Source.Attribute

end NativeBridge
