import NativeBridge.Declarations.Reading
import NativeBridge.Proofs.Declarations.Exports

/-!
# Reading leaves nothing out

The items of some files, those of inline modules in the place of the module, are a list of
placed items. Reading gives what every placed item of this list declares, in its order, and
nothing else: declarations that reflect the list. If one of the items that say that they
declare something declares nothing, there are no such declarations and reading fails. The
proofs go from one item (`PlacedItem.findings_eq_iff`) to items in a row
(`Declarations.reflects_append_iff`), along the recursion that places them.
-/

namespace NativeBridge

open Source

/-- The item says that it declares a type: it derives the mapping. -/
def Source.ItemForm.isBlittable (item : ItemForm) : Bool :=
  item.derivations.any (Attribute.lists · "Blittable")

/-- The item says that it declares an export: it is a trait with the annotation. -/
def Source.ItemForm.isExport : ItemForm → Bool
  | .trait form => (form.attrs ++ form.innerAttrs).any (Attribute.endsWith · "bind_export")
  | _ => false

/-- A trait is an export exactly if its annotation can be found. -/
theorem Source.ItemForm.isExport_trait (form : TraitForm) :
    (ItemForm.trait form).isExport = form.exportAttribute?.isSome :=
  (List.isSome_find? ..).symm

/-- A source file that keeps to the grammar, with its items. -/
structure ParsedFile where
  source : SourceFile
  items : List ItemForm
  parsed : readFile source.contents = .ok items

/-- An item in the file and the module that it stands in. -/
structure PlacedItem where
  file : String
  space : String
  item : ItemForm

namespace PlacedItem

mutual

/-- An item of a module in its place; instead of an inline module its items, in the module
with its name. -/
def ofItem (file space : String) : ItemForm → List PlacedItem
  | .module name items => ofItems file (Path.qualify space name.text) items
  | item => [⟨file, space, item⟩]

/-- The items of a module in their places. -/
def ofItems (file space : String) : List ItemForm → List PlacedItem
  | [] => []
  | item :: rest => ofItem file space item ++ ofItems file space rest

end

/-- The items of some files in their places. -/
def ofFiles (files : List ParsedFile) : List PlacedItem :=
  files.flatMap fun file => ofItems file.source.path file.source.modulePath file.items

/-- The placed item declares this type. -/
def DeclaresType (placed : PlacedItem) (type : Blittable) : Prop :=
  NativeBridge.DeclaresType placed.file placed.space placed.item type

/-- The placed item declares this export. -/
def DeclaresExport (placed : PlacedItem) (decl : ExportDecl) : Prop :=
  NativeBridge.DeclaresExport placed.file placed.space placed.item decl

/-- The placed item declares what it says that it does, and whether it says so can be told. -/
structure IsRepresentable (placed : PlacedItem) : Prop where
  readable : ReadableDerivations "Blittable" placed.item.derivations
  type : placed.item.isBlittable = true → ∃ type, placed.DeclaresType type
  decl : placed.item.isExport = true → ∃ decl, placed.DeclaresExport decl

/-- What is found at a placed item. -/
def findings (placed : PlacedItem) : Findings :=
  match placed.item with
  | .trait form => .ofTrait placed.file placed.space form
  | item => .ofType (declaredType placed.file placed.space item)

end PlacedItem

/-- Declarations reflect placed items whose lists of derivations can be read if they are the
types of all items that derive the mapping and the exports of all annotated traits, in the
order of the items. -/
structure Declarations.Reflects (declarations : Declarations) (placed : List PlacedItem) :
    Prop where
  readable : ∀ item ∈ placed, ReadableDerivations "Blittable" item.item.derivations
  types : List.Forall₂ PlacedItem.DeclaresType (placed.filter (·.item.isBlittable))
    declarations.blittables
  exports : List.Forall₂ PlacedItem.DeclaresExport (placed.filter (·.item.isExport))
    declarations.exports

/-- The results of two readings in one: all declarations, or the faults of both. A file that
breaks the grammar ends the reading. -/
def Declarations.join : Except Failure Declarations → Except Failure Declarations →
    Except Failure Declarations
  | .ok first, .ok second => .ok (first.append second)
  | .error (.declarations first), .error (.declarations second) =>
      .error (.declarations (first ++ second))
  | .error failure, _ => .error failure
  | .ok _, .error failure => .error failure

namespace Findings

/-- Without faults the findings are the declarations alone. -/
theorem eq_of_errors_eq_nil {found : Findings} (faultless : found.errors = []) :
    found = ⟨found.declarations, []⟩ := by
  rw [← faultless]

/-- Nothing found before something adds nothing. -/
@[simp]
theorem none_append (found : Findings) : none.append found = found :=
  rfl

/-- Nothing found after something adds nothing. -/
@[simp]
theorem append_none (found : Findings) : found.append none = found := by
  simp [append, none, Declarations.append, Declarations.empty]

/-- Three findings in a row can be put together from either side. -/
theorem append_assoc (first second third : Findings) :
    (first.append second).append third = first.append (second.append third) := by
  simp [append, Declarations.append]

/-- What is found at some placed items. -/
def ofPlaced : List PlacedItem → Findings
  | [] => none
  | placed :: rest => placed.findings.append (ofPlaced rest)

/-- What is found at some items and then at others. -/
theorem ofPlaced_append (first second : List PlacedItem) :
    ofPlaced (first ++ second) = (ofPlaced first).append (ofPlaced second) := by
  induction first with
  | nil => exact (none_append _).symm
  | cons placed rest ih => rw [List.cons_append, ofPlaced, ofPlaced, ih, append_assoc]

mutual

/-- What is found at an item is found at what stands in its place. -/
theorem ofItem_eq_ofPlaced (file space : String) (item : ItemForm) :
    ofItem file space item = ofPlaced (PlacedItem.ofItem file space item) := by
  cases item with
  | module name items =>
      rw [ofItem, PlacedItem.ofItem, ofItems_eq_ofPlaced]
  | struct | enumeration | trait | other =>
      rw [PlacedItem.ofItem, ofPlaced, ofPlaced, append_none, ofItem]
      · rfl
      all_goals rintro name items ⟨⟩

/-- What is found at the items of a module is found at the placed items. -/
theorem ofItems_eq_ofPlaced (file space : String) (items : List ItemForm) :
    ofItems file space items = ofPlaced (PlacedItem.ofItems file space items) := by
  cases items with
  | nil => rfl
  | cons item rest =>
      rw [ofItems, PlacedItem.ofItems, ofPlaced_append, ofItem_eq_ofPlaced, ofItems_eq_ofPlaced]

end

/-- A file that keeps to the grammar is read before the others. -/
theorem ofFiles_cons_of_parsed (file : ParsedFile) (rest : List SourceFile) :
    ofFiles (file.source :: rest) =
      (append (ofItems file.source.path file.source.modulePath file.items)) <$> ofFiles rest := by
  -- The equation for `_ :: _` alone would have Lean evaluate the reading of the file.
  rw [ofFiles.eq_def (_ :: _)]
  simp only [file.parsed]

/-- All files that keep to the grammar are read. -/
theorem ofFiles_eq_ofPlaced (files : List ParsedFile) :
    ofFiles (files.map ParsedFile.source) = .ok (ofPlaced (PlacedItem.ofFiles files)) := by
  induction files with
  | nil => rfl
  | cons file rest ih =>
      have inOrder : PlacedItem.ofFiles (file :: rest)
          = PlacedItem.ofItems file.source.path file.source.modulePath file.items
            ++ PlacedItem.ofFiles rest := List.flatMap_cons
      rw [List.map_cons, ofFiles_cons_of_parsed, ih, ofItems_eq_ofPlaced, inOrder,
        ofPlaced_append]
      rfl

/-- Only files that keep to the grammar are read. -/
theorem exists_parsed_of_ofFiles {files : List SourceFile} {found : Findings}
    (read : ofFiles files = .ok found) :
    ∃ parsed : List ParsedFile, files = parsed.map ParsedFile.source := by
  induction files generalizing found with
  | nil => exact ⟨[], rfl⟩
  | cons source rest ih =>
      rw [ofFiles.eq_def (_ :: _)] at read
      cases parsed : readFile source.contents with
      | error position =>
          simp only [parsed] at read
          cases read
      | ok items =>
          simp only [parsed, Outcome.map_eq_ok_iff] at read
          obtain ⟨others, readRest, -⟩ := read
          obtain ⟨files, rfl⟩ := ih readRest
          exact ⟨⟨source, items, parsed⟩ :: files, rfl⟩

/-- The results of a division are all there exactly if none was a fault. -/
theorem divide_eq_iff {α : Type} {results : List (Except BindingError α)} {values : List α} :
    divide results = (values, []) ↔
      List.Forall₂ (fun result value => result = .ok value) results values := by
  induction results generalizing values with
  | nil => simp [divide, eq_comm]
  | cons result rest ih =>
      cases result with
      | error error => simp [divide, List.forall₂_cons_left_iff]
      | ok value =>
          rw [List.forall₂_cons_left_iff]
          simp only [← ih, divide, Prod.ext_iff]
          constructor
          · rintro ⟨rfl, faultless⟩
            exact ⟨value, _, rfl, ⟨rfl, faultless⟩, rfl⟩
          · rintro ⟨_, others, ⟨⟩, ⟨rfl, faultless⟩, rfl⟩
            exact ⟨rfl, faultless⟩

/-- The members of a trait that could be read are all of them exactly if all declare methods. -/
theorem divide_members_eq_iff {file : String} {owner : Parser.Name}
    {items : List TraitItemForm} {methods : List MethodDecl} :
    divide (items.map (declaredMember file owner)) = (methods, []) ↔
      List.Forall₂ (DeclaresMethod file) items methods := by
  simp only [divide_eq_iff, List.forall₂_map_left_iff, declaredMember_eq_ok_iff]

/-- A trait is found without a fault exactly if it is no export or declares one, and in the
second case the export is found. -/
theorem ofTrait_eq_iff {file space : String} {form : TraitForm} {declarations : Declarations} :
    ofTrait file space form = ⟨declarations, []⟩ ↔
      ((ItemForm.trait form).isExport = false ∧ declarations = .empty) ∨
      ((ItemForm.trait form).isExport = true ∧
        ∃ decl, NativeBridge.DeclaresExport file space (.trait form) decl ∧
          declarations = ⟨[], [decl]⟩) := by
  rw [ItemForm.isExport_trait]
  -- Settings are missing only without an annotation, so each case below knows about it.
  have unannotated := exportSettings_eq_ok_none_iff file form
  rcases settled : exportSettings file form with error | _ | settings
  · rw [settled] at unannotated
    simp [ofTrait, settled, ofError, declaresExport_trait_iff, ← unannotated]
  · rw [settled] at unannotated
    simp [ofTrait, settled, none, unannotated.mp rfl, eq_comm]
  · have annotated : form.exportAttribute?.isSome = true := by
      rw [settled] at unannotated
      exact Option.isSome_iff_ne_none.mpr fun missing => nomatch unannotated.mpr missing
    rw [ofTrait, settled]
    constructor
    · intro found
      injection found with declared faultless
      have each := divide_members_eq_iff.mp (Prod.ext rfl faultless)
      exact .inr ⟨annotated, _, declaresExport_trait_iff.mpr ⟨settings, _, settled, each, rfl⟩,
        declared.symm⟩
    · rintro (⟨missing, _⟩ | ⟨_, decl, declares, rfl⟩)
      · exact absurd annotated (Bool.eq_false_iff.mp missing)
      · obtain ⟨_, methods, same, each, rfl⟩ := declaresExport_trait_iff.mp declares
        cases settled.symm.trans same
        simp only [divide_members_eq_iff.mpr each]

/-- A type is found without a fault exactly if it is read, and in this case it is found. -/
theorem ofType_eq_iff {read : Except BindingError (Option Blittable)}
    {declarations : Declarations} :
    ofType read = ⟨declarations, []⟩ ↔
      (read = .ok .none ∧ declarations = .empty) ∨
      ∃ type, read = .ok (some type) ∧ declarations = ⟨[type], []⟩ := by
  cases read with
  | error error => simp [ofType, ofError]
  | ok found =>
      cases found <;> simp [ofType, none, eq_comm]

end Findings

namespace Declarations

/-- No items are reflected by no declarations only. -/
theorem reflects_nil_iff {declarations : Declarations} :
    declarations.Reflects [] ↔ declarations = .empty := by
  constructor
  · rintro ⟨-, types, exports⟩
    obtain ⟨blittables, decls⟩ := declarations
    cases types
    cases exports
    rfl
  · rintro rfl
    exact ⟨by simp, .nil, .nil⟩

/-- Items in a row are reflected by declarations in a row. -/
theorem reflects_append_iff {declarations : Declarations} {first second : List PlacedItem} :
    declarations.Reflects (first ++ second) ↔
      ∃ before after : Declarations, before.Reflects first ∧ after.Reflects second ∧
        declarations = before.append after := by
  constructor
  · rintro ⟨readable, types, exports⟩
    rw [List.filter_append, forall₂_append_left_iff] at types exports
    obtain ⟨typesBefore, typesAfter, firstTypes, secondTypes, allTypes⟩ := types
    obtain ⟨exportsBefore, exportsAfter, firstExports, secondExports, allExports⟩ := exports
    refine ⟨⟨typesBefore, exportsBefore⟩, ⟨typesAfter, exportsAfter⟩, ?_, ?_, ?_⟩
    · exact ⟨fun item isItem => readable item (List.mem_append_left _ isItem), firstTypes,
        firstExports⟩
    · exact ⟨fun item isItem => readable item (List.mem_append_right _ isItem), secondTypes,
        secondExports⟩
    · obtain ⟨blittables, decls⟩ := declarations
      cases allTypes
      cases allExports
      rfl
  · rintro ⟨before, after, ofFirst, ofSecond, rfl⟩
    refine ⟨?_, ?_, ?_⟩
    · intro item isItem
      rcases List.mem_append.mp isItem with inFirst | inSecond
      · exact ofFirst.readable item inFirst
      · exact ofSecond.readable item inSecond
    · rw [List.filter_append]
      exact forall₂_append_left_iff.mpr ⟨_, _, ofFirst.types, ofSecond.types, rfl⟩
    · rw [List.filter_append]
      exact forall₂_append_left_iff.mpr ⟨_, _, ofFirst.exports, ofSecond.exports, rfl⟩

/-- A single item with a readable list is reflected by what it declares. -/
theorem reflects_singleton_iff {declarations : Declarations} {placed : PlacedItem} :
    declarations.Reflects [placed] ↔
      ReadableDerivations "Blittable" placed.item.derivations ∧
        (if placed.item.isBlittable then
          ∃ type, placed.DeclaresType type ∧ declarations.blittables = [type]
        else declarations.blittables = []) ∧
        if placed.item.isExport then
          ∃ decl, placed.DeclaresExport decl ∧ declarations.exports = [decl]
        else declarations.exports = [] := by
  constructor
  · rintro ⟨readable, types, exports⟩
    rw [forall₂_filter_singleton_iff] at types exports
    exact ⟨readable placed List.mem_cons_self, types, exports⟩
  · rintro ⟨readable, types, exports⟩
    refine ⟨by simpa using readable, ?_, ?_⟩
    · rwa [forall₂_filter_singleton_iff]
    · rwa [forall₂_filter_singleton_iff]

/-- Some declarations reflect items exactly if all of these can be represented. -/
theorem exists_reflects_iff {placed : List PlacedItem} :
    (∃ declarations : Declarations, declarations.Reflects placed) ↔
      ∀ item ∈ placed, item.IsRepresentable := by
  constructor
  · rintro ⟨declarations, readable, types, exports⟩ item isItem
    have types := exists_forall₂_iff.mp ⟨_, types⟩
    have exports := exists_forall₂_iff.mp ⟨_, exports⟩
    exact ⟨readable item isItem,
      fun blittable => types item (List.mem_filter.mpr ⟨isItem, blittable⟩),
      fun exported => exports item (List.mem_filter.mpr ⟨isItem, exported⟩)⟩
  · intro representable
    have types : ∃ types, List.Forall₂ PlacedItem.DeclaresType
        (placed.filter (·.item.isBlittable)) types := by
      refine exists_forall₂_iff.mpr fun item isKept => ?_
      obtain ⟨isItem, blittable⟩ := List.mem_filter.mp isKept
      exact (representable item isItem).type blittable
    have exports : ∃ exports, List.Forall₂ PlacedItem.DeclaresExport
        (placed.filter (·.item.isExport)) exports := by
      refine exists_forall₂_iff.mpr fun item isKept => ?_
      obtain ⟨isItem, exported⟩ := List.mem_filter.mp isKept
      exact (representable item isItem).decl exported
    obtain ⟨blittables, types⟩ := types
    obtain ⟨decls, exports⟩ := exports
    exact ⟨⟨blittables, decls⟩, fun item isItem => (representable item isItem).readable, types,
      exports⟩

end Declarations

/-- An item is read as no type exactly if it does not say that it declares one. -/
theorem declaredType_eq_ok_none_iff {file space : String} {item : ItemForm} :
    declaredType file space item = .ok none ↔
      ReadableDerivations "Blittable" item.derivations ∧ item.isBlittable = false := by
  simp [declaredType_eq_ok_iff, derives_eq_ok_iff, ItemForm.isBlittable]

/-- An item is read as a type exactly if it says that it declares one and does so. -/
theorem declaredType_eq_ok_some_iff {file space : String} {item : ItemForm} {type : Blittable} :
    declaredType file space item = .ok (some type) ↔
      ReadableDerivations "Blittable" item.derivations ∧ item.isBlittable = true ∧
        DeclaresType file space item type := by
  simp [declaredType_eq_ok_iff, derives_eq_ok_iff, ItemForm.isBlittable, and_assoc]

/-- What is found without a fault at an item that is no export is what reflects it. -/
theorem PlacedItem.ofType_eq_iff (placed : PlacedItem) {declarations : Declarations}
    (plain : placed.item.isExport = false) :
    Findings.ofType (declaredType placed.file placed.space placed.item) = ⟨declarations, []⟩ ↔
      declarations.Reflects [placed] := by
  obtain ⟨blittables, exports⟩ := declarations
  rw [Findings.ofType_eq_iff, Declarations.reflects_singleton_iff, declaredType_eq_ok_none_iff]
  simp only [declaredType_eq_ok_some_iff, plain]
  cases blittable : placed.item.isBlittable with
  | false => simp [Declarations.empty]
  | true =>
      constructor
      · rintro (⟨⟨_, ⟨⟩⟩, _⟩ | ⟨type, ⟨readable, -, declares⟩, ⟨⟩⟩)
        exact ⟨readable, ⟨type, declares, rfl⟩, rfl⟩
      · rintro ⟨readable, ⟨type, declares, ⟨⟩⟩, ⟨⟩⟩
        exact .inr ⟨type, ⟨readable, rfl, declares⟩, rfl⟩

/-- What is found without a fault at a single item is what reflects it. -/
theorem PlacedItem.findings_eq_iff {placed : PlacedItem} {declarations : Declarations} :
    placed.findings = ⟨declarations, []⟩ ↔ declarations.Reflects [placed] := by
  obtain ⟨file, space, item⟩ := placed
  cases item with
  | trait form =>
      obtain ⟨blittables, exports⟩ := declarations
      rw [Declarations.reflects_singleton_iff]
      refine Findings.ofTrait_eq_iff.trans ?_
      have readable : ReadableDerivations "Blittable" (ItemForm.trait form).derivations := by
        simp [ReadableDerivations, ItemForm.derivations]
      have unmapped : (ItemForm.trait form).isBlittable = false := rfl
      simp only [readable, unmapped, true_and]
      cases exported : (ItemForm.trait form).isExport with
      | false => simp [Declarations.empty]
      | true =>
          constructor
          · rintro (⟨⟨⟩, _⟩ | ⟨-, decl, declares, ⟨⟩⟩)
            exact ⟨rfl, decl, declares, rfl⟩
          · rintro ⟨⟨⟩, decl, declares, ⟨⟩⟩
            exact .inr ⟨rfl, decl, declares, rfl⟩
  | struct form => exact ofType_eq_iff ⟨file, space, .struct form⟩ rfl
  | enumeration form => exact ofType_eq_iff ⟨file, space, .enumeration form⟩ rfl
  | module name items => exact ofType_eq_iff ⟨file, space, .module name items⟩ rfl
  | other => exact ofType_eq_iff ⟨file, space, .other⟩ rfl

/-- What is found without a fault at some items is what reflects them. -/
theorem Findings.ofPlaced_eq_iff {placed : List PlacedItem} {declarations : Declarations} :
    ofPlaced placed = ⟨declarations, []⟩ ↔ declarations.Reflects placed := by
  induction placed generalizing declarations with
  | nil => simp [ofPlaced, none, Declarations.reflects_nil_iff, eq_comm]
  | cons placed rest ih =>
      rw [← List.singleton_append, Declarations.reflects_append_iff, List.singleton_append,
        ofPlaced]
      simp only [← PlacedItem.findings_eq_iff, ← ih]
      constructor
      · intro found
        injection found with declared faultless
        obtain ⟨first, others⟩ := List.append_eq_nil_iff.mp faultless
        exact ⟨placed.findings.declarations, (ofPlaced rest).declarations, by rw [← first],
          by rw [← others], declared.symm⟩
      · rintro ⟨before, after, first, others, rfl⟩
        rw [first, others]
        rfl

namespace Findings

/-- The outcome of a reading with these findings. -/
def outcome (found : Findings) : Except Failure Declarations :=
  if found.errors.isEmpty then .ok found.declarations else .error (.declarations found.errors)

/-- The outcome is a success exactly without faults. -/
theorem outcome_eq_ok_iff {found : Findings} {declarations : Declarations} :
    found.outcome = .ok declarations ↔ found = ⟨declarations, []⟩ := by
  obtain ⟨declared, errors⟩ := found
  cases errors <;> simp [outcome]

/-- An outcome that is no success is a list of faults. -/
theorem outcome_eq_error {found : Findings}
    (failed : ∀ declarations, found.outcome ≠ .ok declarations) :
    ∃ errors, errors ≠ [] ∧ found.outcome = .error (.declarations errors) := by
  obtain ⟨declared, errors⟩ := found
  cases errors with
  | nil => exact absurd rfl (failed declared)
  | cons error rest => exact ⟨error :: rest, List.cons_ne_nil _ _, rfl⟩

/-- The outcome of findings in a row is the outcomes in one. -/
theorem outcome_append (first second : Findings) :
    (first.append second).outcome = Declarations.join first.outcome second.outcome := by
  obtain ⟨firstDeclared, firstErrors⟩ := first
  obtain ⟨secondDeclared, secondErrors⟩ := second
  cases firstErrors <;> cases secondErrors <;> simp [append, outcome, Declarations.join]

end Findings

/-- Files that keep to the grammar are read with what is found at their items. -/
theorem readDeclarations_eq_outcome (files : List ParsedFile) :
    readDeclarations (files.map ParsedFile.source)
      = (Findings.ofPlaced (PlacedItem.ofFiles files)).outcome := by
  rw [readDeclarations, Findings.ofFiles_eq_ofPlaced]
  rfl

/-- The items of files in a row are in a row. -/
theorem PlacedItem.ofFiles_append (files more : List ParsedFile) :
    ofFiles (files ++ more) = ofFiles files ++ ofFiles more :=
  List.flatMap_append

/-- Files that keep to the grammar are read without a fault exactly as the declarations that
reflect their items. -/
theorem readDeclarations_eq_ok_iff {files : List ParsedFile} {declarations : Declarations} :
    readDeclarations (files.map ParsedFile.source) = .ok declarations ↔
      declarations.Reflects (PlacedItem.ofFiles files) := by
  rw [readDeclarations_eq_outcome, Findings.outcome_eq_ok_iff, Findings.ofPlaced_eq_iff]

/-- Only files that keep to the grammar are read as declarations. -/
theorem exists_parsed_of_readDeclarations {files : List SourceFile} {declarations : Declarations}
    (read : readDeclarations files = .ok declarations) :
    ∃ parsed : List ParsedFile, files = parsed.map ParsedFile.source := by
  obtain ⟨found, readAll, -⟩ := Outcome.bind_eq_ok_iff.mp read
  exact Findings.exists_parsed_of_ofFiles readAll

/-- A file with a color and, in a module inside it, a lamp. -/
def lampSource : SourceFile :=
  ⟨"paint.rs", "paint", "#[derive(Blittable)] #[repr(C)] struct Color { r: f32 } " ++
    "mod light { #[bind_export] trait Lamp { fn tint(&self, by: &super::Color) -> f32; } }"⟩

end NativeBridge
