import Mathlib.Data.List.Basic
import NativeBridge.Files.PathText

/-!
# The text of paths

A path below a directory has the pieces of the directory before its own (`pieces_join`), and
its components are those of the directory, then the names on the way (`components_join`).
-/

namespace NativeBridge.PathText

/-- A name that something in a directory can have. -/
structure IsName (name : String) : Prop where
  slash : '/' ∉ name.toList
  letters : name ≠ ""
  dot : name ≠ "."
  dots : name ≠ ".."

instance (name : String) : Decidable (IsName name) :=
  decidable_of_iff ('/' ∉ name.toList ∧ name ≠ "" ∧ name ≠ "." ∧ name ≠ "..")
    ⟨fun ⟨slash, letters, dot, dots⟩ => ⟨slash, letters, dot, dots⟩,
      fun ⟨slash, letters, dot, dots⟩ => ⟨slash, letters, dot, dots⟩⟩

/-! ### Pieces -/

theorem pieces_ne_nil (path : String) : pieces path ≠ [] := by
  simp [pieces]

theorem pieces_append (first last : String) :
    pieces (first ++ "/" ++ last) = pieces first ++ pieces last := by
  have chars : (first ++ "/" ++ last).toList = first.toList ++ '/' :: last.toList := by
    simp [String.toList_append]
  rw [pieces, chars, List.splitOn_append_cons_self, List.map_append, pieces, pieces]

/-- Names become the pieces of the path that is made of them. -/
theorem pieces_intercalate {names : List String} (given : names ≠ [])
    (named : ∀ name ∈ names, '/' ∉ name.toList) : pieces ("/".intercalate names) = names := by
  have whole : ("/".intercalate names).toList.splitOn '/' = names.map String.toList := by
    rw [String.toList_intercalate]
    exact List.splitOn_intercalate '/' (by simpa using named) (by simpa using given)
  rw [pieces, whole, List.map_map]
  simp [Function.comp_def]

/-- No piece has a slash in it. -/
theorem slash_notMem_of_mem_pieces {path piece : String} (isPiece : piece ∈ pieces path) :
    '/' ∉ piece.toList := by
  have unsplit (chars : List Char) : ∀ part ∈ chars.splitOn '/', '/' ∉ part := by
    induction chars with
    | nil => simp
    | cons c rest ih =>
        rw [List.splitOn_cons_eq_if_modifyHead]
        by_cases isSlash : c = '/'
        · simpa [isSlash] using ih
        · obtain ⟨part, parts, isParts⟩ :=
            List.exists_cons_of_ne_nil (List.splitOn_ne_nil '/' rest)
          rw [isParts] at ih ⊢
          simpa [isSlash, Ne.symm isSlash] using ih
  obtain ⟨chars, isChars, rfl⟩ := List.mem_map.mp isPiece
  simpa using unsplit path.toList chars isChars

/-- A path made of names does not start at the root. -/
theorem startsWith_intercalate {names : List String} (given : names ≠ [])
    (named : ∀ name ∈ names, IsName name) : ("/".intercalate names).startsWith '/' = false := by
  obtain ⟨name, rest, rfl⟩ := List.exists_cons_of_ne_nil given
  have first := named name List.mem_cons_self
  obtain ⟨c, chars, isName⟩ : ∃ c chars, name.toList = c :: chars :=
    List.exists_cons_of_ne_nil (by simpa using first.letters)
  have head : ("/".intercalate (name :: rest)).toList.head? = .some c := by
    rw [String.toList_intercalate, List.map_cons, isName]
    cases rest <;> simp
  rw [String.startsWith_char_eq_head?, head]
  have noSlash : '/' ∉ c :: chars := isName ▸ first.slash
  simpa using Ne.symm (List.ne_of_not_mem_cons noSlash)

/-! ### Paths below a directory -/

variable {directory path : String}

theorem join_empty (path : String) : join "" path = path := by
  unfold join
  split <;> simp

/-- A relative path below a directory that is given by a text continues the pieces of that text,
less an empty piece at their end. -/
theorem pieces_join (relative : path.startsWith '/' = false) (given : directory ≠ "") :
    ∃ front, front ≠ [] ∧ (pieces directory = front ∨ pieces directory = front ++ [""]) ∧
      pieces (join directory path) = front ++ pieces path := by
  have unmarked : directory.isEmpty = false := by simpa using given
  cases ended : directory.endsWith '/' with
  | false =>
      refine ⟨pieces directory, pieces_ne_nil _, .inl rfl, ?_⟩
      simp [join, relative, unmarked, ended, ← pieces_append]
  | true =>
      obtain ⟨front, rfl⟩ := String.endsWith_char_iff_exists_append.mp ended
      have isSlash : String.singleton '/' = "/" := rfl
      refine ⟨pieces front, pieces_ne_nil _, .inr ?_, ?_⟩
      · have := pieces_append front ""
        simpa [isSlash, pieces] using this
      · simp only [join, relative, Bool.false_eq_true, if_false, ended, Bool.or_true, if_true]
        exact pieces_append front path

/-- A path below a directory starts where that does. -/
theorem startsWith_join (relative : path.startsWith '/' = false) (given : directory ≠ "") :
    (join directory path).startsWith '/' = directory.startsWith '/' := by
  have front : ∃ rest, join directory path = directory ++ rest := by
    unfold join
    rw [relative]
    simp only [Bool.false_eq_true, if_false]
    split
    · exact ⟨path, rfl⟩
    · exact ⟨"/" ++ path, String.append_assoc ..⟩
  obtain ⟨rest, joined⟩ := front
  have givenChars : directory.toList ≠ [] := by simpa using given
  obtain ⟨c, chars, isDirectory⟩ := List.exists_cons_of_ne_nil givenChars
  simp [String.startsWith_char_eq_head?, joined, String.toList_append, isDirectory]

/-- The components of a path below a directory are those of the directory, then the names on the
way. -/
theorem components_join {names : List String} (given : names ≠ [])
    (named : ∀ name ∈ names, IsName name) :
    components (join directory ("/".intercalate names)) = components directory ++ names := by
  have relative := startsWith_intercalate given named
  have isPieces := pieces_intercalate given fun name isName => (named name isName).slash
  have kept : (names.filter fun piece => piece != "" && piece != ".") = names := by
    refine List.filter_eq_self.mpr fun name isName => ?_
    simp [(named name isName).letters, (named name isName).dot]
  by_cases isEmpty : directory = ""
  · subst isEmpty
    rw [join_empty]
    obtain ⟨name, rest, rfl⟩ := List.exists_cons_of_ne_nil given
    have undotted := (named name List.mem_cons_self).dot
    have empty : components "" = [] := by decide
    rw [empty, components, isPieces, relative, kept]
    simp [undotted]
  · obtain ⟨front, isFront, directoryPieces, joined⟩ := pieces_join relative isEmpty
    rw [components, components, startsWith_join relative isEmpty, joined, isPieces]
    have head : (front ++ names).head? = (pieces directory).head? := by
      obtain ⟨first, rest, rfl⟩ := List.exists_cons_of_ne_nil isFront
      rcases directoryPieces with same | ended <;> simp [*]
    have filtered : ((pieces directory).filter fun piece => piece != "" && piece != ".") =
        front.filter fun piece => piece != "" && piece != "." := by
      rcases directoryPieces with same | ended <;> simp [*]
    simp only [head, filtered, List.filter_append, kept, List.append_assoc]

end NativeBridge.PathText
