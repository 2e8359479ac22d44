import Mathlib.Data.List.Basic
import NativeBridge.Path

/-!
# The items that paths lead to

A path has segments (`Path.segments`), and written in a module it leads to an item
(`Path.item?`): from the root of the crate, from the module itself or from a module above it,
into another crate, or to a built-in type. Words that only paths begin with are no names, so that
no path leads anywhere that has one of them further on.
-/

namespace NativeBridge.Path

/-- What stands between the separators of a text. -/
def splitChars : List Char → List (List Char)
  | ':' :: ':' :: rest => [] :: splitChars rest
  | c :: rest => (splitChars rest).modifyHead (c :: ·)
  | [] => [[]]

/-- The segments of a path; the first one is empty if the path begins with a separator. -/
def segments (path : String) : List String :=
  (splitChars path.toList).map String.ofList

theorem splitChars_cons {c : Char} (plain : c ≠ ':') (rest : List Char) :
    splitChars (c :: rest) = (splitChars rest).modifyHead (c :: ·) := by
  rw [splitChars]
  rintro _ rfl
  contradiction

/-- A name without colons is the first part before a separator. -/
theorem splitChars_append {name : List Char} (plain : ':' ∉ name) (rest : List Char) :
    splitChars (name ++ ':' :: ':' :: rest) = name :: splitChars rest := by
  induction name with
  | nil => rw [List.nil_append, splitChars]
  | cons c more ih =>
      rw [List.mem_cons, not_or] at plain
      rw [List.cons_append, splitChars_cons (Ne.symm plain.1), ih plain.2]
      rfl

/-- A text has a first part. -/
theorem splitChars_ne_nil (chars : List Char) : splitChars chars ≠ [] := by
  fun_induction splitChars chars with
  | case1 => exact List.cons_ne_nil _ _
  | case2 c rest _ ih => simpa using ih
  | case3 => exact List.cons_ne_nil _ _

/-- Between the first part and the others stands a separator. -/
theorem eq_append_of_splitChars {chars first second : List Char} {more : List (List Char)}
    (split : splitChars chars = first :: second :: more) :
    ∃ rest, chars = first ++ ':' :: ':' :: rest ∧ splitChars rest = second :: more := by
  fun_induction splitChars chars generalizing first with
  | case1 rest ih =>
      obtain ⟨rfl, later⟩ := List.cons.inj split
      exact ⟨rest, rfl, later⟩
  | case2 c rest _ ih =>
      cases parts : splitChars rest with
      | nil => exact absurd parts (splitChars_ne_nil rest)
      | cons head later =>
          rw [parts, List.modifyHead_cons] at split
          obtain ⟨rfl, rfl⟩ := List.cons.inj split
          obtain ⟨others, rfl, isSplit⟩ := ih parts
          exact ⟨others, rfl, isSplit⟩
  | case3 => cases split

/-- A path has a first segment. -/
theorem segments_ne_nil (path : String) : segments path ≠ [] := by
  simpa [segments] using splitChars_ne_nil path.toList

/-- A name without colons before a separator is the first segment. -/
theorem segments_append {name rest : String} (plain : ':' ∉ name.toList) :
    segments (name ++ "::" ++ rest) = name :: segments rest := by
  have chars : (name ++ "::" ++ rest).toList = name.toList ++ ':' :: ':' :: rest.toList := by
    simp
  rw [segments, chars, splitChars_append plain, List.map_cons, String.ofList_toList, segments]

/-- Between the first segment and the others stands a separator. -/
theorem eq_append_of_segments {path first second : String} {more : List String}
    (split : segments path = first :: second :: more) :
    ∃ rest, path = first ++ "::" ++ rest ∧ segments rest = second :: more := by
  rw [segments, List.map_eq_cons_iff] at split
  obtain ⟨firstChars, _, parts, rfl, later⟩ := split
  obtain ⟨secondChars, others, rfl, rfl, rfl⟩ := List.map_eq_cons_iff.mp later
  obtain ⟨rest, chars, isSplit⟩ := eq_append_of_splitChars parts
  refine ⟨String.ofList rest, ?_, by rw [segments, String.toList_ofList, isSplit, List.map_cons]⟩
  apply String.toList_inj.mp
  simp [chars]

/-- Words that only paths begin with. -/
def words : List String :=
  ["self", "super", "crate", "Self"]

/-- The crates that are there without being asked for. -/
def libraries : List String :=
  ["std", "core", "alloc"]

/-- The types that belong to no module. -/
def builtins : List String :=
  ["bool", "char", "str", "i8", "i16", "i32", "i64", "i128", "isize", "u8", "u16", "u32", "u64",
    "u128", "usize", "f32", "f64"]

/-- The name of an item or of a module. -/
structure IsSegment (name : String) : Prop where
  notEmpty : name ≠ ""
  plain : ':' ∉ name.toList
  notWord : name ∉ words

instance (name : String) : Decidable (IsSegment name) :=
  decidable_of_iff (name ≠ "" ∧ ':' ∉ name.toList ∧ name ∉ words)
    ⟨fun ⟨notEmpty, plain, notWord⟩ => ⟨notEmpty, plain, notWord⟩,
      fun ⟨notEmpty, plain, notWord⟩ => ⟨notEmpty, plain, notWord⟩⟩

/-- Where a path leads. -/
inductive Item where
  /-- To the crate that the path is in, by the names on the way from its root. -/
  | own (names : List String)
  /-- To another crate, by its name and the names on the way from there. -/
  | foreign (names : List String)
  /-- To a built-in type. -/
  | builtin (name : String)
  deriving DecidableEq, Repr

/-- The item with some names on the way from a module. -/
def below? (module names : List String) : Option Item :=
  if ∀ name ∈ names, IsSegment name then some (.own (module ++ names)) else none

/-- The item with some names on the way from another crate. -/
def foreign? (names : List String) : Option Item :=
  if names ≠ [] ∧ ∀ name ∈ names, IsSegment name then some (.foreign names) else none

/-- The item with some names on the way from a module, of which every `super` at the front leads
to the module above; above the root of the crate there is none. -/
def climb? : List String → List String → Option Item
  | module, "super" :: rest => if module = [] then none else climb? module.dropLast rest
  | module, names => below? module names

/-- The item that segments lead to in a module. -/
def itemOf? (module : List String) : List String → Option Item
  | [] => none
  | first :: rest =>
      if first = "" then foreign? rest
      else if first = "crate" then below? [] rest
      else if first = "self" then climb? module rest
      else if first = "super" then climb? module (first :: rest)
      else if first ∈ libraries then foreign? (first :: rest)
      else if first ∈ builtins ∧ rest = [] then some (.builtin first)
      else below? module (first :: rest)

/-- The item that a path leads to in a module. -/
def item? (module : List String) (path : String) : Option Item :=
  itemOf? module (segments path)

section Reroot

variable {module here names segments : List String} {item : Item}

theorem below?_eq_some_iff : below? module names = some item ↔
    (∀ name ∈ names, IsSegment name) ∧ .own (module ++ names) = item := by
  simp [below?]

/-- A word that only paths begin with leads nowhere further on. -/
theorem below?_eq_none {word : String} (isWord : word ∈ words) (isThere : word ∈ names) :
    below? module names = none :=
  if_neg fun each => (each word isThere).notWord isWord

theorem foreign?_eq_some_iff : foreign? names = some item ↔
    (names ≠ [] ∧ ∀ name ∈ names, IsSegment name) ∧ .foreign names = item := by
  simp [foreign?]

theorem itemOf?_crate : itemOf? module ("crate" :: names) = below? [] names :=
  rfl

/-- The segments begin at the root of a crate and go on. -/
def BeginsAtRoot : List String → Prop
  | first :: _ :: _ => first = "" ∨ first = "crate" ∨ first ∈ libraries
  | _ => False

instance (segments : List String) : Decidable (BeginsAtRoot segments) :=
  match segments with
  | _ :: _ :: _ => inferInstanceAs (Decidable (_ ∨ _))
  | [] | [_] => inferInstanceAs (Decidable False)

/-- What stands at the root of a crate, the empty text for a path that begins with a separator. -/
def roots : List String :=
  "" :: "crate" :: libraries

theorem mem_roots_iff {first : String} :
    first ∈ roots ↔ first = "" ∨ first = "crate" ∨ first ∈ libraries := by
  simp [roots]

theorem plain_of_mem_roots {first : String} (isRoot : first ∈ roots) : ':' ∉ first.toList := by
  simp only [roots, libraries, List.mem_cons, List.not_mem_nil, or_false] at isRoot
  rcases isRoot with rfl | rfl | rfl | rfl | rfl <;> decide

theorem beginsAtRoot_iff : BeginsAtRoot segments ↔
    ∃ first second more, segments = first :: second :: more ∧ first ∈ roots := by
  constructor
  · intro begins
    match segments, begins with
    | first :: second :: more, isRoot => exact ⟨first, second, more, rfl, mem_roots_iff.mpr isRoot⟩
  · rintro ⟨first, second, more, rfl, isRoot⟩
    exact mem_roots_iff.mp isRoot

/-- The segments of a path begin at the root of a crate and go on exactly if a separator stands
behind the root. -/
theorem beginsAtRoot_segments_iff {path : String} :
    BeginsAtRoot (Path.segments path) ↔ ∃ root ∈ roots, ∃ rest, path = root ++ "::" ++ rest := by
  constructor
  · intro begins
    obtain ⟨first, second, more, parts, isRoot⟩ := beginsAtRoot_iff.mp begins
    obtain ⟨rest, isPath, -⟩ := eq_append_of_segments parts
    exact ⟨first, isRoot, rest, isPath⟩
  · rintro ⟨root, isRoot, rest, rfl⟩
    rw [segments_append (plain_of_mem_roots isRoot)]
    cases later : Path.segments rest with
    | nil => exact absurd later (segments_ne_nil rest)
    | cons second more => exact beginsAtRoot_iff.mpr ⟨root, second, more, rfl, isRoot⟩

/-- The segments do not begin at the root of a crate and go on, nor with the name of something
in the module. -/
def IsUprooted : List String → Prop
  | first :: rest => first = "self" ∨ first = "super" ∨
      (rest = [] ∧ (first = "crate" ∨ first ∈ libraries ∨ first ∈ builtins))
  | [] => False

instance (segments : List String) : Decidable (IsUprooted segments) :=
  match segments with
  | _ :: _ => inferInstanceAs (Decidable (_ ∨ _))
  | [] => inferInstanceAs (Decidable False)

/-- The segments from the root of the crate that the module is in, unless they begin at the root
of a crate themselves. -/
def reroot (module segments : List String) : List String :=
  if BeginsAtRoot segments then segments else "crate" :: (module ++ segments)

/-- What begins at the root of a crate leads to the same item from everywhere. -/
theorem itemOf?_of_beginsAtRoot (begins : BeginsAtRoot segments) :
    itemOf? here segments = itemOf? module segments := by
  obtain ⟨first, second, more, rfl, isRoot⟩ := beginsAtRoot_iff.mp begins
  simp only [roots, libraries, List.mem_cons, List.not_mem_nil, or_false] at isRoot
  rcases isRoot with rfl | rfl | rfl | rfl | rfl <;> rfl

theorem not_isUprooted_of_beginsAtRoot (begins : BeginsAtRoot segments) :
    ¬ IsUprooted segments := by
  obtain ⟨first, second, more, rfl, isRoot⟩ := beginsAtRoot_iff.mp begins
  rintro (rfl | rfl | ⟨⟨⟩, -⟩)
  · exact absurd isRoot (by decide)
  · exact absurd isRoot (by decide)

/-- The root of a crate alone is not gone on from. -/
theorem eq_nil_of_not_beginsAtRoot {first : String} {rest : List String}
    (root : first = "" ∨ first = "crate" ∨ first ∈ libraries)
    (ends : ¬ BeginsAtRoot (first :: rest)) : rest = [] := by
  cases rest with
  | nil => rfl
  | cons second more => exact absurd root ends

/-- From the root of its crate a path leads to the item that it leads to in its module exactly if
it is not uprooted. -/
theorem itemOf?_reroot_iff (named : ∀ name ∈ module, IsSegment name)
    (leads : itemOf? module segments = some item) :
    itemOf? here (reroot module segments) = some item ↔ ¬ IsUprooted segments := by
  by_cases begins : BeginsAtRoot segments
  · rw [reroot, if_pos begins, itemOf?_of_beginsAtRoot begins]
    exact iff_of_true leads (not_isUprooted_of_beginsAtRoot begins)
  · rw [reroot, if_neg begins, itemOf?_crate]
    cases segments with
    | nil => cases leads
    | cons first rest =>
        have lost (isWord : first ∈ words) : below? [] (module ++ first :: rest) = none :=
          below?_eq_none isWord (List.mem_append_right _ List.mem_cons_self)
        rw [itemOf?] at leads
        split_ifs at leads with empty crate self super library builtin
        · obtain ⟨⟨goesOn, -⟩, -⟩ := foreign?_eq_some_iff.mp leads
          exact absurd (eq_nil_of_not_beginsAtRoot (.inl empty) begins) goesOn
        · have alone := eq_nil_of_not_beginsAtRoot (.inr (.inl crate)) begins
          rw [lost (by simp [crate, words])]
          simp [IsUprooted, alone, crate]
        · rw [lost (by simp [self, words])]
          simp [IsUprooted, self]
        · rw [lost (by simp [super, words])]
          simp [IsUprooted, super]
        · have alone := eq_nil_of_not_beginsAtRoot (.inr (.inr library)) begins
          obtain ⟨-, rfl⟩ := foreign?_eq_some_iff.mp leads
          simp [below?_eq_some_iff, IsUprooted, alone, library]
        · obtain rfl := Option.some.inj leads
          simp [below?_eq_some_iff, IsUprooted, builtin]
        · obtain ⟨each, rfl⟩ := below?_eq_some_iff.mp leads
          have rooted : ¬ IsUprooted (first :: rest) := by
            rintro (isSelf | isSuper | ⟨alone, isCrate | isLibrary | isBuiltin⟩)
            · exact self isSelf
            · exact super isSuper
            · exact crate isCrate
            · exact library isLibrary
            · exact builtin ⟨isBuiltin, alone⟩
          refine iff_of_true (below?_eq_some_iff.mpr ⟨fun name isName => ?_, rfl⟩) rooted
          exact (List.mem_append.mp isName).elim (named name) (each name)

/-- Segments that begin neither with `self` nor with `super` lead somewhere only over names. -/
theorem isSegment_of_itemOf? {first : String} {rest : List String} (notSelf : first ≠ "self")
    (notSuper : first ≠ "super") (leads : itemOf? module (first :: rest) = some item) :
    ∀ name ∈ rest, IsSegment name := by
  rw [itemOf?, if_neg notSelf, if_neg notSuper] at leads
  split_ifs at leads with empty crate library builtin
  · exact (foreign?_eq_some_iff.mp leads).1.2
  · exact (below?_eq_some_iff.mp leads).1
  · exact (List.forall_mem_cons.mp (foreign?_eq_some_iff.mp leads).1.2).2
  · simp [builtin.2]
  · exact (List.forall_mem_cons.mp (below?_eq_some_iff.mp leads).1).2

/-- Where a path is not uprooted, no word that only paths begin with stands behind the first
segment of the path from the root. -/
theorem notMem_words_of_reroot (named : ∀ name ∈ module, IsSegment name)
    (leads : itemOf? module segments = some item) (rooted : ¬ IsUprooted segments) :
    ∀ word ∈ (reroot module segments).tail, word ∉ words := by
  have same : itemOf? module (reroot module segments) = some item :=
    (itemOf?_reroot_iff named leads).mpr rooted
  by_cases begins : BeginsAtRoot segments
  · rw [reroot, if_pos begins] at same ⊢
    obtain ⟨first, second, more, rfl, -⟩ := beginsAtRoot_iff.mp begins
    have notSelf : first ≠ "self" := fun isSelf => rooted (.inl isSelf)
    have notSuper : first ≠ "super" := fun isSuper => rooted (.inr (.inl isSuper))
    exact fun word isThere => (isSegment_of_itemOf? notSelf notSuper same word isThere).notWord
  · rw [reroot, if_neg begins] at same ⊢
    exact fun word isThere =>
      (isSegment_of_itemOf? (by decide) (by decide) same word isThere).notWord

end Reroot

end NativeBridge.Path
