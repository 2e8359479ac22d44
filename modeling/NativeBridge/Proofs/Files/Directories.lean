import NativeBridge.Proofs.Files.Tree

/-!
# Making directories

A new directory stands where nothing stood, so making directories takes nothing away and
adds nothing else (`Makes.grows`), and the directory is there afterwards (`Makes.opens`).
What is done depends on the places alone that the path leads through, so it is the same
beside other files (`Makes.beside`).
-/

namespace NativeBridge.FileTree

open PathText

variable {tree other after : FileTree} {path : String} {place : Place}

/-! ### Growth by directories -/

/-- Nothing is taken away or replaced, and all that is new are directories. -/
structure Grows (tree after : FileTree) : Prop where
  start : after.start = tree.start
  entry (place : Place) : after.entry? place = tree.entry? place ∨
    tree.entry? place = none ∧ after.entry? place = some .directory

namespace Grows

theorem refl (tree : FileTree) : Grows tree tree :=
  ⟨rfl, fun _ => .inl rfl⟩

theorem trans (first : Grows tree other) (second : Grows other after) : Grows tree after where
  start := second.start.trans first.start
  entry place := by
    rcases second.entry place with same | ⟨missing, new⟩
    · rw [same]
      exact first.entry place
    · rcases first.entry place with same | ⟨-, found⟩
      · exact .inr ⟨same ▸ missing, new⟩
      · cases missing.symm.trans found

theorem insert (missing : tree.entry? place = none) :
    Grows tree (tree.insert place .directory) where
  start := rfl
  entry found := by
    have inside : place ≠ [] := ne_nil_of_missing missing
    rw [entry?_insert inside]
    by_cases isPlace : found = place
    · simp [isPlace, missing]
    · simp [isPlace]

theorem keeps (grows : Grows tree after) {entry : FileEntry}
    (stands : tree.entry? place = some entry) : after.entry? place = some entry := by
  rcases grows.entry place with same | ⟨missing, -⟩
  · rw [same, stands]
  · cases stands.symm.trans missing

theorem way (grows : Grows tree after) (path : String) : after.way path = tree.way path :=
  way_congr grows.start

theorem opens (grows : Grows tree after) (opens : tree.Opens path) : after.Opens path := by
  intro place isOnWay
  rw [grows.way] at isOnWay
  exact grows.keeps (opens place isOnWay)

end Grows

/-! ### One directory -/

theorem follow_empty (place : Place) : place.follow "" = place := by
  simp [Place.follow]

theorem foldl_follow_replicate (place : Place) (count : Nat) :
    (List.replicate count "").foldl Place.follow place = place := by
  induction count with
  | zero => rfl
  | succ count ih => rw [List.replicate_succ, List.foldl_cons, follow_empty, ih]

theorem scanl_follow_replicate (place : Place) (count : Nat) :
    (List.replicate count "").scanl Place.follow place = List.replicate (count + 1) place := by
  induction count with
  | zero => rfl
  | succ count ih =>
      rw [List.replicate_succ, List.scanl_cons, follow_empty, ih, List.replicate_succ (n := _ + 1)]

/-- Only empty pieces are left out at the end of a path. -/
theorem pieces_eq_withoutEnd (path : String) :
    ∃ count, PathText.pieces path = withoutEnd path ++ List.replicate count "" := by
  have split :=
    List.takeWhile_append_dropWhile (p := (· == "")) (l := (PathText.pieces path).reverse)
  have empty : ∀ piece ∈ (PathText.pieces path).reverse.takeWhile (· == ""), piece = "" :=
    fun piece isEnd => by simpa using List.all_eq_true.mp List.all_takeWhile piece isEnd
  rw [List.eq_replicate_of_mem empty] at split
  have whole := congrArg List.reverse split
  rw [List.reverse_append, List.reverse_replicate, List.reverse_reverse] at whole
  exact ⟨_, whole.symm⟩

theorem destination_eq (tree : FileTree) (path : String) :
    tree.destination path = (withoutEnd path).foldl Place.follow (tree.origin path) := by
  obtain ⟨count, split⟩ := pieces_eq_withoutEnd path
  rw [destination, split, List.foldl_append, foldl_follow_replicate]

/-- The pieces that count for a new directory lead through the same places. -/
theorem mem_way_iff :
    place ∈ tree.way path ↔ place ∈ (withoutEnd path).scanl Place.follow (tree.origin path) := by
  obtain ⟨count, split⟩ := pieces_eq_withoutEnd path
  have isLast :
      tree.destination path ∈ (withoutEnd path).scanl Place.follow (tree.origin path) := by
    rw [destination_eq, scanl_follow_eq]
    simp
  rw [way, split, List.scanl_append, scanl_follow_replicate, ← destination_eq]
  simp only [List.replicate_succ, List.tail_cons, List.mem_append, List.mem_replicate,
    or_iff_left_iff_imp]
  rintro ⟨-, rfl⟩
  exact isLast

theorem newPlace_eq_ok_iff :
    tree.newPlace path = .ok place ↔ path ≠ "" ∧
      (withoutEnd path).foldlM tree.enter (tree.origin path) = .ok place ∧
        tree.entry? place = none := by
  unfold newPlace
  simp only [Outcome.refusal_eq_ok_iff, Outcome.bind_eq_ok_iff, Outcome.pure_eq_ok_iff]
  simp

theorem makeDirectory_eq_ok_iff :
    tree.makeDirectory path = .ok after ↔
      tree.newPlace path = .ok (tree.destination path) ∧
        after = tree.insert (tree.destination path) .directory := by
  rw [makeDirectory, Outcome.bind_eq_ok_iff]
  simp only [Outcome.pure_eq_ok_iff]
  constructor
  · rintro ⟨place, isNew, rfl⟩
    obtain ⟨-, leads, -⟩ := newPlace_eq_ok_iff.mp isNew
    have isPlace : place = tree.destination path := by
      rw [destination_eq]
      exact (foldlM_enter_eq_ok_iff.mp leads).2
    exact ⟨isPlace ▸ isNew, isPlace ▸ rfl⟩
  · rintro ⟨isNew, rfl⟩
    exact ⟨_, isNew, rfl⟩

/-- A new directory is one more, and the path leads to it. -/
theorem makeDirectory_makes (makes : tree.makeDirectory path = .ok after) :
    Grows tree after ∧ path ≠ "" ∧ after.Opens path := by
  obtain ⟨isNew, rfl⟩ := makeDirectory_eq_ok_iff.mp makes
  obtain ⟨given, leads, missing⟩ := newPlace_eq_ok_iff.mp isNew
  have grows := Grows.insert missing
  refine ⟨grows, given, fun place isOnWay => ?_⟩
  rw [grows.way, mem_way_iff, scanl_follow_eq, ← destination_eq, List.mem_append,
    List.mem_singleton] at isOnWay
  rcases isOnWay with before | rfl
  · exact grows.keeps ((foldlM_enter_eq_ok_iff.mp leads).1 place before)
  · have inside : tree.destination path ≠ [] := fun isRoot => by
      rw [isRoot] at missing
      cases missing
    simp [entry?_insert inside]

/-- A directory that is there already is not made again. -/
theorem makeDirectory_of_opens (given : path ≠ "") (opens : tree.Opens path) :
    tree.makeDirectory path = .error .alreadyExists := by
  have leads : (withoutEnd path).foldlM tree.enter (tree.origin path)
      = .ok (tree.destination path) := by
    refine foldlM_enter_eq_ok_iff.mpr ⟨fun place before => ?_, destination_eq tree path⟩
    exact opens place (mem_way_iff.mpr ((List.dropLast_subset _ before)))
  have isEmpty : path.isEmpty = false := by simpa using given
  simp [makeDirectory, newPlace, isEmpty, leads, opens.destination, bind, Except.bind, throw,
    throwThe, MonadExceptOf.throw]

/-! ### All directories of a lineage -/

/-- A directory is there: a new one, or one that was there before. -/
inductive Ensures (tree : FileTree) (path : String) : FileTree → Prop
  | made {after : FileTree} (makes : tree.makeDirectory path = .ok after) : Ensures tree path after
  | found (given : path ≠ "") (opens : tree.Opens path) : Ensures tree path tree

/-- How the directories of a lineage are made when nothing goes wrong: the first is there at
once, or it is there after those above it. -/
inductive Makes (tree : FileTree) : List String → FileTree → Prop
  | nothing : Makes tree [] tree
  | atOnce {after : FileTree} {path : String} {above : List String}
      (ensures : Ensures tree path after) : Makes tree (path :: above) after
  | afterAbove {between after : FileTree} {path : String} {above : List String}
      (missing : tree.makeDirectory path = .error .notFound) (makes : Makes tree above between)
      (ensures : Ensures between path after) : Makes tree (path :: above) after

theorem ensureDirectory_eq_iff :
    tree.ensureDirectory path = (after, none) ↔ Ensures tree path after := by
  unfold ensureDirectory
  constructor
  · intro ensured
    split at ensured
    · cases ensured
      exact .made ‹_›
    · by_cases there : tree.isDirectory path = true
      · obtain ⟨given, opens⟩ := isDirectory_iff.mp there
        simp only [there, if_true, Prod.mk.injEq, and_true] at ensured
        exact ensured ▸ .found given opens
      · simp [there] at ensured
  · rintro (makes | ⟨given, opens⟩)
    · rw [makes]
    · simp [makeDirectory_of_opens given opens, isDirectory_iff.mpr ⟨given, opens⟩]

theorem makeDirectories_eq_iff {lineage : List String} :
    tree.makeDirectories lineage = (after, none) ↔ Makes tree lineage after := by
  induction lineage generalizing tree after with
  | nil =>
      constructor
      · rintro ⟨⟩
        exact .nothing
      · rintro ⟨⟩
        rfl
  | cons path above ih =>
      rw [makeDirectories]
      constructor
      · intro made
        split at made
        · next missing =>
          split at made
          · next between isMade =>
            exact .afterAbove missing (ih.mp isMade) (ensureDirectory_eq_iff.mp made)
          · next failed => cases failed after made
        · exact .atOnce (ensureDirectory_eq_iff.mp made)
      · intro makes
        cases makes with
        | atOnce ensures =>
            have ensured := ensureDirectory_eq_iff.mpr ensures
            split
            · next missing =>
              -- Then nothing was missing.
              rcases ensures with makes | ⟨given, opens⟩
              · cases missing.symm.trans makes
              · cases missing.symm.trans (makeDirectory_of_opens given opens)
            · exact ensured
        | afterAbove missing makes ensures =>
            rw [missing, ih.mpr makes]
            exact ensureDirectory_eq_iff.mpr ensures

theorem Ensures.makes (ensures : Ensures tree path after) :
    Grows tree after ∧ path ≠ "" ∧ after.Opens path := by
  rcases ensures with makes | ⟨given, opens⟩
  · exact makeDirectory_makes makes
  · exact ⟨.refl tree, given, opens⟩

/-- Making directories takes nothing away and adds nothing but directories. -/
theorem Makes.grows {lineage : List String} (makes : Makes tree lineage after) :
    Grows tree after := by
  induction makes with
  | nothing => exact .refl _
  | atOnce ensures => exact ensures.makes.1
  | afterAbove _ _ ensures ih => exact ih.trans ensures.makes.1

/-- The path that a lineage belongs to leads to a directory when all is made. -/
theorem Makes.opens {above : List String} (makes : Makes tree (path :: above) after) :
    path ≠ "" ∧ after.Opens path := by
  rcases makes with _ | ensures | ⟨_, _, ensures⟩
  · exact ensures.makes.2
  · exact ensures.makes.2

/-- A new directory has a name of its own in a directory that was there. -/
theorem IsTree.newPlace (lawful : tree.IsTree) (isNew : tree.newPlace path = .ok place) :
    ∃ above name, place = above ++ [name] ∧ IsName name ∧ tree.entry? above = some .directory := by
  obtain ⟨-, leads, missing⟩ := newPlace_eq_ok_iff.mp isNew
  obtain isEmpty | ⟨front, piece, isFront⟩ := List.eq_nil_or_concat (withoutEnd path)
  · -- The path does not lead away from where it starts.
    have isOrigin : tree.origin path = place := by
      simpa [isEmpty, Outcome.pure_eq_ok_iff] using leads
    have started : tree.entry? (tree.origin path) = some .directory := by
      unfold origin
      split
      · rfl
      · exact lawful.started
    rw [isOrigin, missing] at started
    cases started
  · rw [isFront, List.concat_eq_append, List.foldlM_append, Outcome.bind_eq_ok_iff] at leads
    obtain ⟨above, -, enters⟩ := leads
    obtain ⟨isDirectory, rfl⟩ : tree.entry? above = some .directory ∧ place = above.follow piece :=
      enter_eq_ok_iff.mp (by simpa using enters)
    have isPiece : piece ∈ PathText.pieces path := by
      obtain ⟨count, split⟩ := pieces_eq_withoutEnd path
      rw [split, isFront]
      simp
    unfold Place.follow at missing ⊢
    split at missing
    · cases missing.symm.trans isDirectory
    split at missing
    · obtain rfl | ⟨upper, name, rfl⟩ := List.eq_nil_or_concat above
      · cases missing
      · rw [List.concat_eq_append] at isDirectory missing
        have stands : (tree.entry? (upper ++ [name])).isSome := by simp [isDirectory]
        simp [(lawful.parent stands).2] at missing
    · next isName notAbove =>
      rw [not_or] at isName
      exact ⟨above, piece, by simp [isName, notAbove],
        ⟨slash_notMem_of_mem_pieces isPiece, isName.1, isName.2, notAbove⟩, isDirectory⟩

/-- Making directories leaves a tree a tree. -/
theorem Makes.isTree {lineage : List String} (makes : Makes tree lineage after)
    (lawful : tree.IsTree) : after.IsTree := by
  have ensured {tree after : FileTree} {path : String} (lawful : tree.IsTree)
      (ensures : Ensures tree path after) : after.IsTree := by
    rcases ensures with makes | ⟨-, -⟩
    · obtain ⟨isNew, rfl⟩ := makeDirectory_eq_ok_iff.mp makes
      obtain ⟨-, -, missing⟩ := newPlace_eq_ok_iff.mp isNew
      obtain ⟨above, name, isPlace, named, isDirectory⟩ := lawful.newPlace isNew
      rw [isPlace] at missing ⊢
      exact lawful.insert above name named isDirectory (by simp [missing])
    · exact lawful
  induction makes with
  | nothing => exact lawful
  | atOnce ensures => exact ensured lawful ensures
  | afterAbove _ _ ensures ih => exact ensured ih ensures

/-! ### The directory of a path -/

theorem lineage_of_given (given : path ≠ "") : ∃ above, lineage path = path :: above := by
  simp [lineage, given]

/-- The directory that was made is there; for the empty path that is where relative paths start. -/
theorem opens_of_makeDirectories (lawful : tree.IsTree)
    (makes : tree.makeDirectories (lineage path) = (after, none)) : after.Opens path := by
  by_cases given : path = ""
  · subst given
    obtain rfl : tree = after := by simpa [lineage, makeDirectories] using makes
    intro place isOnWay
    have isStart : place = tree.start := by
      simpa [way, origin_empty, PathText.pieces, Place.follow] using isOnWay
    rw [isStart]
    exact lawful.started
  · obtain ⟨above, isLineage⟩ := lineage_of_given given
    rw [isLineage, makeDirectories_eq_iff] at makes
    exact makes.opens.2

/-- A directory that is there is not made again. -/
theorem makeDirectories_of_opens (opens : tree.Opens path) :
    tree.makeDirectories (lineage path) = (tree, none) := by
  by_cases given : path = ""
  · simp [lineage, given, makeDirectories]
  · obtain ⟨above, isLineage⟩ := lineage_of_given given
    rw [isLineage, makeDirectories_eq_iff]
    exact .atOnce (.found given opens)

/-! ### Other files -/

/-- Two trees differ at some places only. -/
structure Beside (places : List Place) (tree other : FileTree) : Prop where
  start : other.start = tree.start
  entry {place : Place} (outside : place ∉ places) : other.entry? place = tree.entry? place

variable {places : List Place}

theorem Beside.symm (apart : Beside places tree other) : Beside places other tree :=
  ⟨apart.start.symm, fun outside => (apart.entry outside).symm⟩

theorem foldlM_enter_congr {pieces : List String}
    (same : ∀ found ∈ pieces.scanl Place.follow place, other.entry? found = tree.entry? found) :
    pieces.foldlM other.enter place = pieces.foldlM tree.enter place := by
  induction pieces generalizing place with
  | nil => rfl
  | cons piece rest ih =>
      rw [List.scanl_cons, List.forall_mem_cons] at same
      rw [List.foldlM_cons, List.foldlM_cons]
      have entered : other.enter place piece = tree.enter place piece := by
        rw [enter, enter, same.1]
      rw [entered]
      cases leads : tree.enter place piece with
      | error fault => rfl
      | ok next =>
          obtain ⟨-, rfl⟩ := enter_eq_ok_iff.mp leads
          exact ih same.2

/-- Whether a directory can be made depends on the places alone that its path leads through. -/
theorem newPlace_congr (start : other.start = tree.start)
    (same : ∀ found ∈ tree.way path, other.entry? found = tree.entry? found) :
    other.newPlace path = tree.newPlace path := by
  have origin : other.origin path = tree.origin path := by simp [FileTree.origin, start]
  have leads : (withoutEnd path).foldlM other.enter (tree.origin path)
      = (withoutEnd path).foldlM tree.enter (tree.origin path) :=
    foldlM_enter_congr fun found isOnWay => same found (mem_way_iff.mpr isOnWay)
  rw [newPlace, newPlace, origin, leads]
  cases led : (withoutEnd path).foldlM tree.enter (tree.origin path) with
  | error fault => rfl
  | ok place =>
      obtain ⟨-, isDestination⟩ := foldlM_enter_eq_ok_iff.mp led
      have isOnWay : place ∈ tree.way path := by
        rw [isDestination, mem_way_iff, scanl_follow_eq]
        simp
      simp [bind, Except.bind, same place isOnWay]

theorem makeDirectory_eq_error_iff {fault : AccessFault} :
    tree.makeDirectory path = .error fault ↔ tree.newPlace path = .error fault := by
  rw [makeDirectory]
  cases tree.newPlace path <;> simp [bind, Except.bind, pure, Except.pure]

section

variable (apart : Beside places tree other)
include apart

/-- A directory is made in the same way beside other files. -/
theorem Ensures.beside (ensures : Ensures tree path after)
    (files : ∀ place ∈ places, after.entry? place ≠ some .directory) :
    ∃ next, Ensures other path next ∧ Beside places after next ∧
      ∀ place ∈ places, next.entry? place = other.entry? place := by
  obtain ⟨grows, -, opens⟩ := ensures.makes
  have outside (place : Place) (isOnWay : place ∈ tree.way path) : place ∉ places := fun isFile =>
    files place isFile (opens place (grows.way path ▸ isOnWay))
  have same (place : Place) (isOnWay : place ∈ tree.way path) :
      other.entry? place = tree.entry? place := apart.entry (outside place isOnWay)
  rcases ensures with makes | ⟨given, opens⟩
  · obtain ⟨isNew, rfl⟩ := makeDirectory_eq_ok_iff.mp makes
    obtain ⟨-, -, missing⟩ := newPlace_eq_ok_iff.mp isNew
    have isOnWay : tree.destination path ∈ tree.way path := by
      rw [way, scanl_follow_eq]
      simp [FileTree.destination]
    have inside : tree.destination path ≠ [] := ne_nil_of_missing missing
    refine ⟨other.insert (tree.destination path) .directory, .made ?_, ⟨apart.start, ?_⟩, ?_⟩
    · rw [makeDirectory_eq_ok_iff, newPlace_congr apart.start same, destination_congr apart.start]
      exact ⟨isNew, rfl⟩
    · intro place isOutside
      rw [entry?_insert inside, entry?_insert inside, apart.entry isOutside]
    · intro place isFile
      rw [entry?_insert inside, if_neg]
      rintro rfl
      exact outside _ isOnWay isFile
  · refine ⟨other, .found given fun place isOnWay => ?_, apart, fun _ _ => rfl⟩
    rw [way_congr apart.start] at isOnWay
    rw [same place isOnWay]
    exact opens place isOnWay

/-- Directories are made in the same way beside other files. -/
theorem Makes.beside {lineage : List String} (makes : Makes tree lineage after)
    (files : ∀ place ∈ places, after.entry? place ≠ some .directory) :
    ∃ next, Makes other lineage next ∧ Beside places after next ∧
      ∀ place ∈ places, next.entry? place = other.entry? place := by
  induction makes generalizing other with
  | nothing => exact ⟨other, .nothing, apart, fun _ _ => rfl⟩
  | atOnce ensures =>
      obtain ⟨next, ensures, rest⟩ := ensures.beside apart files
      exact ⟨next, .atOnce ensures, rest⟩
  | @afterAbove between after path above missing makes ensures ih =>
      obtain ⟨grows, -, opens⟩ := ensures.makes
      have filesBetween (place : Place) (isFile : place ∈ places) :
          between.entry? place ≠ some .directory := fun isDirectory =>
        files place isFile (grows.keeps isDirectory)
      obtain ⟨nextBetween, makesNext, besideBetween, kept⟩ := ih apart filesBetween
      obtain ⟨next, ensuresNext, besideNext, keptNext⟩ := ensures.beside besideBetween files
      have same (place : Place) (isOnWay : place ∈ tree.way path) :
          other.entry? place = tree.entry? place := by
        refine apart.entry fun isFile => files place isFile (opens place ?_)
        rwa [grows.way, makes.grows.way]
      refine ⟨next, .afterAbove ?_ makesNext ensuresNext, besideNext, fun place isFile => ?_⟩
      · rw [makeDirectory_eq_error_iff, newPlace_congr apart.start same]
        exact makeDirectory_eq_error_iff.mp missing
      · rw [keptNext place isFile, kept place isFile]

end

end NativeBridge.FileTree
