import Mathlib.Data.List.Induction
import Mathlib.Data.List.Nodup
import NativeBridge.Files.Tree
import NativeBridge.Proofs.Files.Paths
import NativeBridge.Proofs.Outcome

/-!
# Trees of files

A path leads on through directories (`foldlM_enter_eq_ok_iff`), and a relative path below a
directory leads on from where that is (`resolve_join`). In a tree that is one (`IsTree`)
whatever stands at a place has a name and stands in a directory, so the names on the way to
it lead there.
-/

namespace NativeBridge.FileTree

open PathText

variable {tree : FileTree} {path directory : String} {place : Place} {pieces : List String}

/-! ### Entries -/

@[simp]
theorem entry?_root : tree.entry? [] = some .directory := rfl

@[simp]
theorem start_insert {entry : FileEntry} : (tree.insert place entry).start = tree.start := rfl

/-- The root is a directory. -/
theorem ne_nil_of_free (free : tree.entry? place ≠ some .directory) : place ≠ [] := by
  rintro rfl
  exact free rfl

theorem ne_nil_of_missing (missing : tree.entry? place = none) : place ≠ [] := by
  rintro rfl
  cases missing

theorem entry?_insert {entry : FileEntry} (inside : place ≠ []) (found : Place) :
    entry? (tree.insert place entry) found
      = if found = place then some entry else tree.entry? found := by
  have kept (differs : (found == place) = false) (entries : List (Place × FileEntry)) :
      (entries.filter fun entry => entry.1 != place).lookup found = entries.lookup found := by
    induction entries with
    | nil => rfl
    | cons first rest ih =>
        obtain ⟨stored, content⟩ := first
        by_cases replaced : stored = place
        · simp [replaced, ih, List.lookup_cons, differs]
        · simp [replaced, ih, List.lookup_cons]
  by_cases isRoot : found = []
  · simp [isRoot, Ne.symm inside]
  by_cases same : found = place
  · simp [FileTree.entry?, insert, same, inside]
  · have differs : (found == place) = false := beq_eq_false_iff_ne.mpr same
    simp [FileTree.entry?, insert, same, isRoot, kept differs, List.lookup_cons, differs]

/-! ### Places on the way -/

/-- The places that a path leads through; its destination is the last of them. -/
def way (tree : FileTree) (path : String) : List Place :=
  (PathText.pieces path).scanl Place.follow (tree.origin path)

theorem destination_congr {other : FileTree} (start : other.start = tree.start) :
    other.destination path = tree.destination path := by
  rw [destination, destination, origin, origin, start]

theorem way_congr {other : FileTree} (start : other.start = tree.start) :
    other.way path = tree.way path := by
  rw [way, way, origin, origin, start]

/-- A directory stands at every place that a path leads through. -/
def Opens (tree : FileTree) (path : String) : Prop :=
  ∀ place ∈ tree.way path, tree.entry? place = some .directory

theorem follow_name {name : String} (named : IsName name) :
    place.follow name = place ++ [name] := by
  simp [Place.follow, named.letters, named.dot, named.dots]

theorem enter_eq_ok_iff {piece : String} {after : Place} :
    tree.enter place piece = .ok after ↔
      tree.entry? place = some .directory ∧ after = place.follow piece := by
  unfold enter
  rcases tree.entry? place with _ | _ | _ <;> simp [eq_comm]

/-- Pieces lead on exactly through directories, to the place where they lead by name. -/
theorem foldlM_enter_eq_ok_iff {after : Place} :
    pieces.foldlM tree.enter place = .ok after ↔
      (∀ other ∈ (pieces.scanl Place.follow place).dropLast, tree.entry? other = some .directory) ∧
        after = pieces.foldl Place.follow place := by
  induction pieces generalizing place with
  | nil => simp [pure, Except.pure, eq_comm]
  | cons piece rest ih =>
      have isNext : rest.scanl Place.follow (place.follow piece) ≠ [] := by simp
      rw [List.foldlM_cons, List.scanl_cons, List.dropLast_cons_of_ne_nil isNext, List.foldl_cons,
        List.forall_mem_cons, and_assoc, ← ih]
      cases entered : tree.enter place piece with
      | ok next =>
          obtain ⟨isDirectory, rfl⟩ := enter_eq_ok_iff.mp entered
          simp [bind, Except.bind, isDirectory]
      | error fault =>
          have closed : tree.entry? place ≠ some .directory := fun isDirectory => by
            cases entered.symm.trans (enter_eq_ok_iff.mpr ⟨isDirectory, rfl⟩)
          simp [bind, Except.bind, closed]

theorem scanl_follow_eq :
    pieces.scanl Place.follow place =
      (pieces.scanl Place.follow place).dropLast ++ [pieces.foldl Place.follow place] := by
  have isLast : (pieces.scanl Place.follow place).getLast? =
      some (pieces.foldl Place.follow place) := List.getLast?_scanl
  exact (List.dropLast_append_getLast? _ isLast).symm

/-- A path opens exactly if it leads to a directory. -/
theorem opens_iff :
    tree.Opens path ↔
      (PathText.pieces path).foldlM tree.enter (tree.origin path) = .ok (tree.destination path) ∧
        tree.entry? (tree.destination path) = some .directory := by
  rw [foldlM_enter_eq_ok_iff, Opens, way, scanl_follow_eq]
  simp [destination, or_imp, forall_and]

theorem Opens.destination (opens : tree.Opens path) :
    tree.entry? (tree.destination path) = some .directory :=
  (opens_iff.mp opens).2

theorem resolve_of_given (given : path ≠ "") :
    tree.resolve path = (PathText.pieces path).foldlM tree.enter (tree.origin path) := by
  simp [resolve, given]

theorem stat_eq_ok_iff {entry : FileEntry} :
    tree.stat path = .ok (place, entry) ↔
      tree.resolve path = .ok place ∧ tree.entry? place = some entry := by
  rw [stat, Outcome.bind_eq_ok_iff]
  constructor
  · rintro ⟨found, resolves, stands⟩
    cases isEntry : tree.entry? found with
    | none => simp [isEntry, Outcome.throw_ne_ok] at stands
    | some other =>
        obtain ⟨rfl, rfl⟩ : found = place ∧ other = entry := by
          simpa [isEntry, Outcome.pure_eq_ok_iff] using stands
        exact ⟨resolves, isEntry⟩
  · rintro ⟨resolves, isEntry⟩
    exact ⟨place, resolves, by simp [isEntry, Outcome.pure_eq_ok_iff]⟩

/-- A path leads to a directory exactly if it is given and opens. -/
theorem stat_directory_iff :
    tree.stat path = .ok (place, .directory) ↔
      path ≠ "" ∧ tree.Opens path ∧ place = tree.destination path := by
  rw [stat_eq_ok_iff, opens_iff]
  by_cases given : path = ""
  · simp [given, resolve]
  · rw [resolve_of_given given]
    simp only [foldlM_enter_eq_ok_iff, destination, given, ne_eq, not_false_eq_true, true_and]
    constructor
    · rintro ⟨⟨inside, rfl⟩, isDirectory⟩
      exact ⟨⟨⟨inside, trivial⟩, isDirectory⟩, rfl⟩
    · rintro ⟨⟨⟨inside, -⟩, isDirectory⟩, rfl⟩
      exact ⟨⟨inside, rfl⟩, isDirectory⟩

theorem isDirectory_iff : tree.isDirectory path = true ↔ path ≠ "" ∧ tree.Opens path := by
  have found :
      tree.isDirectory path = true ↔ ∃ place, tree.stat path = .ok (place, .directory) := by
    unfold isDirectory
    split <;> simp_all
  simp [found, stat_directory_iff]

theorem origin_empty : tree.origin "" = tree.start := by
  simp [origin, String.startsWith_char_eq_head?]

theorem destination_empty : tree.destination "" = tree.start := by
  simp [destination, origin_empty, PathText.pieces, Place.follow]

/-- A relative path below a directory leads on from where that is. -/
theorem resolve_join (opens : tree.Opens directory) (relative : path.startsWith '/' = false)
    (given : path ≠ "") :
    tree.resolve (join directory path) =
      (PathText.pieces path).foldlM tree.enter (tree.destination directory) := by
  obtain ⟨leads, isDirectory⟩ := opens_iff.mp opens
  have joined : join directory path ≠ "" := by
    unfold join
    split
    · exact given
    · split <;> simp [given]
  rw [resolve_of_given joined]
  by_cases empty : directory = ""
  · subst empty
    simp [origin, relative, join_empty, destination_empty]
  · obtain ⟨front, -, directoryPieces, pathPieces⟩ := pieces_join relative empty
    have sameOrigin : tree.origin (join directory path) = tree.origin directory := by
      rw [origin, origin, startsWith_join relative empty]
    rw [pathPieces, sameOrigin, List.foldlM_append]
    have leadsFront : front.foldlM tree.enter (tree.origin directory)
        = .ok (tree.destination directory) := by
      rcases directoryPieces with same | ended
      · rwa [same] at leads
      · -- The empty piece at the end leads nowhere else.
        rw [ended, List.foldlM_append, Outcome.bind_eq_ok_iff] at leads
        obtain ⟨before, leadsBefore, stays⟩ := leads
        simp [enter_eq_ok_iff, Place.follow] at stays
        rw [leadsBefore, stays.2]
    rw [leadsFront]
    rfl

/-- A name below a directory leads to a place of its own there. -/
theorem resolve_name {name : String} (opens : tree.Opens directory) (named : IsName name) :
    tree.resolve (join directory name) = .ok (tree.destination directory ++ [name]) := by
  have alone : "/".intercalate [name] = name := String.intercalate_singleton
  have isPiece : PathText.pieces name = [name] := by
    simpa [alone] using pieces_intercalate (List.cons_ne_nil name []) (by simpa using named.slash)
  have relative : name.startsWith '/' = false := by
    simpa [alone] using startsWith_intercalate (List.cons_ne_nil name []) (by simpa using named)
  rw [resolve_join opens relative named.letters, isPiece, List.foldlM_cons,
    enter_eq_ok_iff.mpr ⟨opens.destination, (follow_name named).symm⟩]
  rfl

/-! ### Texts of files -/

theorem fromUTF8?_eq_some_iff {bytes : ByteArray} {text : String} :
    String.fromUTF8? bytes = some text ↔ bytes = text.toUTF8 := by
  unfold String.fromUTF8?
  constructor
  · intro decodes
    split at decodes
    · cases decodes
      rfl
    · cases decodes
  · rintro rfl
    have valid : text.toUTF8.IsValidUTF8 := text.isValidUTF8
    rw [dif_pos valid]
    rfl

theorem decode_eq_ok_iff {bytes : ByteArray} {text : String} :
    decode bytes = .ok text ↔ bytes = text.toUTF8 := by
  rw [← fromUTF8?_eq_some_iff, decode]
  cases String.fromUTF8? bytes <;> simp

/-- The text of a file is what its bytes encode. -/
theorem readText_eq_ok_iff {text : String} (leads : tree.resolve path = .ok place) :
    tree.readText path = .ok text ↔ tree.entry? place = some (.file text.toUTF8) := by
  rw [readText, Outcome.bind_eq_ok_iff]
  constructor
  · rintro ⟨⟨found, entry⟩, isFound, decodes⟩
    obtain ⟨leads', stands⟩ := stat_eq_ok_iff.mp isFound
    cases leads.symm.trans leads'
    cases entry with
    | file bytes => rw [stands, decode_eq_ok_iff.mp decodes]
    | directory => cases decodes
  · intro stands
    exact ⟨_, stat_eq_ok_iff.mpr ⟨leads, stands⟩, decode_eq_ok_iff.mpr rfl⟩

theorem readText_of_file {bytes : ByteArray} (leads : tree.resolve path = .ok place)
    (isFile : tree.entry? place = some (.file bytes)) : tree.readText path = decode bytes := by
  rw [readText, stat_eq_ok_iff.mpr ⟨leads, isFile⟩]
  rfl

/-- A text can be written wherever no directory stands. -/
theorem writeText_eq_ok_iff {text : String} {after : FileTree}
    (leads : tree.resolve path = .ok place) :
    tree.writeText path text = .ok after ↔
      tree.entry? place ≠ some .directory ∧ after = tree.insert place (.file text.toUTF8) := by
  rw [writeText, Outcome.bind_eq_ok_iff]
  simp only [leads, Except.ok.injEq, exists_eq_left']
  rcases tree.entry? place with _ | _ | _
  · simp [Outcome.pure_eq_ok_iff, eq_comm (a := after)]
  · simp [Outcome.pure_eq_ok_iff, eq_comm (a := after)]
  · simp [Outcome.throw_ne_ok]

/-! ### Trees that are trees -/

/-- Each place stands for one thing, which has a name and stands in a directory. -/
structure IsTree (tree : FileTree) : Prop where
  distinct : (tree.entries.map Prod.fst).Nodup
  settled (above : Place) (name : String) (entry : FileEntry) :
    (above ++ [name], entry) ∈ tree.entries → IsName name ∧ tree.entry? above = some .directory
  /-- Relative paths start at a directory. -/
  started : tree.entry? tree.start = some .directory

theorem exists_mem_of_entry? {name : String} (stands : (tree.entry? (place ++ [name])).isSome) :
    ∃ entry, (place ++ [name], entry) ∈ tree.entries := by
  obtain ⟨entry, isEntry⟩ := Option.isSome_iff_exists.mp stands
  have found : tree.entries.lookup (place ++ [name]) = some entry := by
    simpa [FileTree.entry?] using isEntry
  obtain ⟨before, after, entries, -⟩ := List.lookup_eq_some_iff.mp found
  exact ⟨entry, entries ▸ by simp⟩

theorem mem_names_iff {name : String} :
    name ∈ tree.names place ↔ (tree.entry? (place ++ [name])).isSome := by
  have named (other : Place) : other.dropLast = place ∧ other.getLast? = some name ↔
      other = place ++ [name] := by
    constructor
    · rintro ⟨rfl, isLast⟩
      exact (List.dropLast_append_getLast? _ isLast).symm
    · rintro rfl
      simp
  have stands : (tree.entry? (place ++ [name])).isSome ↔
      ∃ entry, (place ++ [name], entry) ∈ tree.entries := by
    simp [FileTree.entry?]
  rw [stands]
  simp only [names, List.mem_filterMap, Option.ite_none_right_eq_some, named]
  constructor
  · rintro ⟨⟨other, entry⟩, isEntry, rfl⟩
    exact ⟨entry, isEntry⟩
  · rintro ⟨entry, isEntry⟩
    exact ⟨_, isEntry, rfl⟩

namespace IsTree

theorem parent (lawful : tree.IsTree) {name : String}
    (stands : (tree.entry? (place ++ [name])).isSome) :
    IsName name ∧ tree.entry? place = some .directory := by
  obtain ⟨entry, isEntry⟩ := exists_mem_of_entry? stands
  exact lawful.settled place name entry isEntry

theorem above (lawful : tree.IsTree) {names : List String}
    (stands : (tree.entry? (place ++ names)).isSome) (further : names ≠ []) :
    tree.entry? place = some .directory := by
  induction names using List.reverseRecOn with
  | nil => exact absurd rfl further
  | append_singleton front name ih =>
      rw [← List.append_assoc] at stands
      obtain ⟨-, isDirectory⟩ := lawful.parent stands
      by_cases direct : front = []
      · simpa [direct] using isDirectory
      · exact ih (by simp [isDirectory]) direct

theorem isName (lawful : tree.IsTree) {names : List String}
    (stands : (tree.entry? (place ++ names)).isSome) : ∀ name ∈ names, IsName name := by
  induction names using List.reverseRecOn with
  | nil => simp
  | append_singleton front name ih =>
      rw [← List.append_assoc] at stands
      obtain ⟨named, isDirectory⟩ := lawful.parent stands
      have namedFront := ih (by simp [isDirectory])
      simpa [or_imp, forall_and] using ⟨namedFront, named⟩

/-- The names on the way to what stands in a tree lead there. -/
theorem leads (lawful : tree.IsTree) {names : List String}
    (stands : (tree.entry? (place ++ names)).isSome) :
    names.foldlM tree.enter place = .ok (place ++ names) := by
  induction names using List.reverseRecOn with
  | nil => simp [pure, Except.pure]
  | append_singleton front name ih =>
      rw [← List.append_assoc] at stands
      obtain ⟨named, isDirectory⟩ := lawful.parent stands
      have leadsFront := ih (by simp [isDirectory])
      have enters : tree.enter (place ++ front) name = .ok (place ++ (front ++ [name])) := by
        rw [enter_eq_ok_iff, follow_name named, List.append_assoc]
        exact ⟨isDirectory, rfl⟩
      rw [List.foldlM_append, leadsFront]
      simp [bind, Except.bind, enters, pure, Except.pure]

/-- No name is listed twice. -/
theorem nodup_names (lawful : tree.IsTree) (place : Place) : (tree.names place).Nodup := by
  have listed : tree.names place = (tree.entries.map Prod.fst).filterMap fun other =>
      if other.dropLast = place then other.getLast? else none := by
    rw [names, List.filterMap_map]
    rfl
  rw [listed]
  refine List.Nodup.filterMap (fun first second name isFirst isSecond => ?_) lawful.distinct
  simp only [Option.mem_def, Option.ite_none_right_eq_some] at isFirst isSecond
  rw [← List.dropLast_append_getLast? _ isFirst.2, ← List.dropLast_append_getLast? _ isSecond.2,
    isFirst.1, isSecond.1]

theorem empty : FileTree.empty.IsTree where
  distinct := List.nodup_nil
  settled := by simp [FileTree.empty]
  started := rfl

/-- Something under a name in a directory leaves a tree, unless it takes the place of a
directory. -/
theorem insert (lawful : tree.IsTree) (place : Place) (name : String) {entry : FileEntry}
    (named : IsName name) (isDirectory : tree.entry? place = some .directory)
    (free : tree.entry? (place ++ [name]) ≠ some .directory) :
    (tree.insert (place ++ [name]) entry).IsTree := by
  have inside : place ++ [name] ≠ [] := by simp
  -- Directories stay where they are.
  have keeps {found : Place} (stands : tree.entry? found = some .directory) :
      entry? (tree.insert (place ++ [name]) entry) found = some .directory := by
    rw [entry?_insert inside, if_neg, stands]
    rintro rfl
    exact free stands
  refine ⟨?_, fun above other content isEntry => ?_, keeps lawful.started⟩
  · have others :
        ((tree.entries.filter fun other => other.1 != place ++ [name]).map Prod.fst).Nodup :=
      lawful.distinct.sublist (List.filter_sublist.map _)
    simpa [FileTree.insert] using others
  · rcases List.mem_cons.mp isEntry with new | old
    · obtain ⟨⟨rfl, ⟨⟩⟩, -⟩ : (above = place ∧ other = name) ∧ content = entry := by
        simpa using new
      exact ⟨named, keeps isDirectory⟩
    · obtain ⟨otherNamed, stands⟩ := lawful.settled above other content (List.mem_of_mem_filter old)
      exact ⟨otherNamed, keeps stands⟩

end IsTree

end NativeBridge.FileTree
