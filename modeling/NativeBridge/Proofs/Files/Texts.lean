import NativeBridge.Proofs.Files.Directories

/-!
# Texts in files

A text is written to a file unless the file holds it already. Several texts end up each at its
own place, and nothing else changes (`entry?_writeAll_of_mem`, `entry?_writeAll_of_notMem`);
what is written once more changes nothing (`writeAll_of_holds`).
-/

namespace NativeBridge.FileTree

open PathText

variable {tree after : FileTree} {place : Place} {text : String} {listed : List (Place × String)}

/-- The file at a place reads as this text. -/
def holdsText (tree : FileTree) (place : Place) (text : String) : Bool :=
  match tree.entry? place with
  | some (.file bytes) => String.fromUTF8? bytes == some text
  | _ => false

theorem holdsText_iff :
    tree.holdsText place text = true ↔ tree.entry? place = some (.file text.toUTF8) := by
  unfold holdsText
  split
  · next bytes isFile => simp [isFile, fromUTF8?_eq_some_iff]
  · next other =>
    simp only [Bool.false_eq_true, false_iff]
    exact other _

theorem holdsText_congr {other : FileTree} (same : other.entry? place = tree.entry? place) :
    other.holdsText place text = tree.holdsText place text := by
  rw [holdsText, holdsText, same]

/-- New directories are no files that hold a text. -/
theorem Grows.holdsText (grows : Grows tree after) :
    after.holdsText place text = tree.holdsText place text := by
  rcases grows.entry place with same | ⟨missing, new⟩
  · exact holdsText_congr same
  · simp [FileTree.holdsText, missing, new]

/-! ### One text -/

/-- The tree with a text in the file at a place; a file that holds the text is left alone. -/
def writeAt (tree : FileTree) (place : Place) (text : String) : FileTree :=
  if tree.holdsText place text then tree else tree.insert place (.file text.toUTF8)

theorem writeAt_of_holds (holds : tree.holdsText place text = true) :
    tree.writeAt place text = tree := by
  rw [writeAt, if_pos holds]

theorem start_writeAt : (tree.writeAt place text).start = tree.start := by
  unfold writeAt
  split <;> rfl

theorem entry?_writeAt (inside : place ≠ []) (found : Place) :
    entry? (tree.writeAt place text) found =
      if found = place then some (.file text.toUTF8) else tree.entry? found := by
  unfold writeAt
  split
  · next holds =>
    split
    · next isPlace => rw [isPlace, holdsText_iff.mp holds]
    · rfl
  · rw [entry?_insert inside]

/-! ### Several texts -/

/-- The tree with some texts in the files at their places. -/
def writeAll (tree : FileTree) (listed : List (Place × String)) : FileTree :=
  listed.foldl (fun tree file => tree.writeAt file.1 file.2) tree

theorem writeAll_cons {file : Place × String} :
    tree.writeAll (file :: listed) = (tree.writeAt file.1 file.2).writeAll listed := rfl

theorem start_writeAll : (tree.writeAll listed).start = tree.start := by
  induction listed generalizing tree with
  | nil => rfl
  | cons file rest ih => exact ih.trans start_writeAt

/-- Places that are not listed keep what stands there. -/
theorem entry?_writeAll_of_notMem (tree : FileTree) (inside : ∀ file ∈ listed, file.1 ≠ [])
    (outside : place ∉ listed.map Prod.fst) :
    entry? (tree.writeAll listed) place = tree.entry? place := by
  induction listed generalizing tree with
  | nil => rfl
  | cons file rest ih =>
      rw [List.map_cons, List.mem_cons, not_or] at outside
      rw [List.forall_mem_cons] at inside
      have kept : entry? (tree.writeAt file.1 file.2) place = tree.entry? place := by
        rw [entry?_writeAt inside.1, if_neg outside.1]
      exact (ih _ inside.2 outside.2).trans kept

/-- Every listed file holds its text afterwards. -/
theorem entry?_writeAll_of_mem (tree : FileTree) (inside : ∀ file ∈ listed, file.1 ≠ [])
    (distinct : (listed.map Prod.fst).Nodup) (isListed : (place, text) ∈ listed) :
    entry? (tree.writeAll listed) place = some (.file text.toUTF8) := by
  induction listed generalizing tree with
  | nil => cases isListed
  | cons file rest ih =>
      rw [List.map_cons, List.nodup_cons] at distinct
      rw [List.forall_mem_cons] at inside
      rcases List.mem_cons.mp isListed with rfl | later
      · have written : entry? (tree.writeAt place text) place = some (.file text.toUTF8) := by
          rw [entry?_writeAt inside.1, if_pos rfl]
        exact (entry?_writeAll_of_notMem _ inside.2 distinct.1).trans written
      · exact ih _ inside.2 distinct.2 later

/-- Files that hold their texts already are left alone. -/
theorem writeAll_of_holds (hold : ∀ file ∈ listed, tree.holdsText file.1 file.2 = true) :
    tree.writeAll listed = tree := by
  induction listed with
  | nil => rfl
  | cons file rest ih =>
      rw [List.forall_mem_cons] at hold
      rw [writeAll_cons, writeAt_of_holds hold.1]
      exact ih hold.2

/-- Writing texts changes the listed places only. -/
theorem Beside.of_writeAll (tree : FileTree) (inside : ∀ file ∈ listed, file.1 ≠ []) :
    Beside (listed.map Prod.fst) tree (tree.writeAll listed) :=
  ⟨start_writeAll, fun outside => entry?_writeAll_of_notMem tree inside outside⟩

/-! ### Directories beside the texts -/

/-- No directory is lost when texts are written to places where none is. -/
theorem writeAll_keeps (free : ∀ file ∈ listed, tree.entry? file.1 ≠ some .directory)
    (isDirectory : tree.entry? place = some .directory) :
    entry? (tree.writeAll listed) place = some .directory := by
  rw [entry?_writeAll_of_notMem tree fun file isListed => ne_nil_of_free (free file isListed)]
  · exact isDirectory
  · intro isListed
    obtain ⟨file, isFile, rfl⟩ := List.mem_map.mp isListed
    exact free file isFile isDirectory

theorem Opens.writeAll {path : String} (opens : tree.Opens path)
    (free : ∀ file ∈ listed, tree.entry? file.1 ≠ some .directory) :
    (tree.writeAll listed).Opens path := by
  intro found isOnWay
  rw [way_congr start_writeAll] at isOnWay
  exact writeAll_keeps free (opens found isOnWay)

theorem Opens.writeAt {path : String} (opens : tree.Opens path)
    (free : tree.entry? place ≠ some .directory) : (tree.writeAt place text).Opens path := by
  have freeAlone : ∀ file ∈ [(place, text)], tree.entry? file.1 ≠ some .directory := by
    simpa using free
  exact opens.writeAll freeAlone

/-- Files with names in a directory leave a tree a tree. -/
theorem IsTree.writeAll {directory : Place} (lawful : tree.IsTree)
    (isDirectory : tree.entry? directory = some .directory)
    (named : ∀ file ∈ listed, ∃ name, file.1 = directory ++ [name] ∧ IsName name)
    (free : ∀ file ∈ listed, tree.entry? file.1 ≠ some .directory) :
    (tree.writeAll listed).IsTree := by
  induction listed generalizing tree with
  | nil => exact lawful
  | cons file rest ih =>
      rw [List.forall_mem_cons] at named free
      obtain ⟨⟨name, isPlace, isName⟩, namedRest⟩ := named
      have next : (tree.writeAt file.1 file.2).IsTree := by
        unfold FileTree.writeAt
        split
        · exact lawful
        · rw [isPlace]
          exact lawful.insert directory name isName isDirectory (isPlace ▸ free.1)
      have inside := ne_nil_of_free free.1
      rw [writeAll_cons]
      refine ih next ?_ namedRest fun other isOther => ?_
      · rw [entry?_writeAt inside, if_neg (by simp [isPlace])]
        exact isDirectory
      · rw [entry?_writeAt inside]
        split
        · nofun
        · exact free.2 other isOther

end NativeBridge.FileTree
