import NativeBridge.Proofs.Declarations.Reading
import NativeBridge.Proofs.Source.Yields

/-!
# The names of declarations

The names of exported traits and of their methods are names of the text that they are read
from.
-/

namespace NativeBridge

open Source

namespace PlacedItem

mutual

/-- The items inside an item have names if it has. -/
theorem named_of_mem_ofItem {file space : String} {item : ItemForm} (named : item.Named) :
    ∀ placed ∈ ofItem file space item, placed.item.Named := by
  cases named with
  | module each => exact named_of_mem_ofItems each
  | trait named => exact List.forall_mem_singleton.mpr (.trait named)
  | struct => exact List.forall_mem_singleton.mpr .struct
  | enumeration => exact List.forall_mem_singleton.mpr .enumeration
  | other => exact List.forall_mem_singleton.mpr .other

theorem named_of_mem_ofItems {file space : String} {items : List ItemForm}
    (named : ∀ item ∈ items, item.Named) :
    ∀ placed ∈ ofItems file space items, placed.item.Named := by
  cases items with
  | nil => exact List.forall_mem_nil _
  | cons item rest =>
      obtain ⟨first, later⟩ := List.forall_mem_cons.mp named
      exact List.forall_mem_append.mpr ⟨named_of_mem_ofItem first, named_of_mem_ofItems later⟩

end

end PlacedItem

/-- The names of an export and of its methods are names of a text. -/
structure ExportDecl.Named (decl : ExportDecl) : Prop where
  name : IsName decl.name
  methods : ∀ method ∈ decl.methods, IsName method.name

theorem named_of_declaresMethod {file : String} {member : TraitItemForm} {method : MethodDecl}
    (declares : DeclaresMethod file member method) (named : member.Named) :
    IsName method.name := by
  cases declares
  exact named

theorem named_of_declaresExport {file space : String} {item : ItemForm} {decl : ExportDecl}
    (declares : DeclaresExport file space item decl) (named : item.Named) : decl.Named := by
  cases declares with
  | trait annotated isSettings plain each =>
      cases named with
      | trait named =>
          refine ⟨named.name, fun method isMethod => ?_⟩
          obtain ⟨member, isMember, declares⟩ := exists_of_forall₂ each isMethod
          exact named_of_declaresMethod declares (named.members member isMember)

/-- All declared exports have names of the text that they are read from. -/
theorem named_of_readDeclarations {files : List SourceFile} {declarations : Declarations}
    (isRead : readDeclarations files = .ok declarations) :
    ∀ decl ∈ declarations.exports, decl.Named := by
  intro decl isDecl
  obtain ⟨parsed, rfl⟩ := exists_parsed_of_readDeclarations isRead
  have reflects := readDeclarations_eq_ok_iff.mp isRead
  obtain ⟨placed, isPlaced, declares⟩ := exists_of_forall₂ reflects.exports isDecl
  obtain ⟨file, isFile, inFile⟩ := List.mem_flatMap.mp (List.mem_of_mem_filter isPlaced)
  refine named_of_declaresExport declares ?_
  exact PlacedItem.named_of_mem_ofItems (named_of_readFile file.parsed) placed inFile

end NativeBridge
