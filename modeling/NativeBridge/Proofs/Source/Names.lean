import Mathlib.Data.List.TakeWhile
import NativeBridge.Proofs.Text.Identifiers
import NativeBridge.Source.Lexeme

/-!
# Names in source text

A name in source text is an identifier, possibly with a raw mark before it. Whatever text
is taken apart, all names among its trees are such names, those of the attributes that
documentation stands for included.
-/

namespace NativeBridge.Source

open NativeBridge.Text

/-- The whole text is one name, raw or not. -/
def IsName (text : String) : Prop :=
  Lexeme.name? text.toList = some (text.toList, [])

instance (text : String) : Decidable (IsName text) :=
  inferInstanceAs (Decidable (_ = _))

/-- A whole text is read as a word if it is an identifier. -/
theorem word_eq_self_iff {chars : List Char} :
    Literal.word chars = some (chars, []) ↔ IsIdentifier chars := by
  constructor
  · intro isWord
    cases chars with
    | nil => cases isWord
    | cons c rest =>
        rw [Literal.word] at isWord
        split at isWord
        · rename_i begins
          obtain ⟨-, ends⟩ := Prod.mk.inj (Option.some.inj isWord)
          exact .cons begins (List.dropWhile_eq_nil_iff.mp ends)
        · cases isWord
  · rintro ⟨begins, goesOn⟩
    rw [Literal.word, if_pos begins, List.takeWhile_eq_self_iff.mpr goesOn,
      List.dropWhile_eq_nil_iff.mpr goesOn]

/-- What is read as a word is an identifier. -/
theorem isIdentifier_of_word {chars read rest : List Char}
    (isWord : Literal.word chars = some (read, rest)) : IsIdentifier read := by
  cases chars with
  | nil => cases isWord
  | cons c more =>
      rw [Literal.word] at isWord
      split at isWord
      · rename_i begins
        obtain ⟨rfl, -⟩ := Prod.mk.inj (Option.some.inj isWord)
        exact .cons begins fun d isChar => List.mem_takeWhile_imp isChar
      · cases isWord

/-- An identifier does not begin with a raw mark. -/
theorem not_raw_of_isIdentifier {chars : List Char} (identifier : IsIdentifier chars) :
    Lexeme.begins "r#" chars = false := by
  refine Bool.eq_false_iff.mpr fun raw => identifier.mark_notMem ?_
  obtain ⟨rest, rfl⟩ := List.isPrefixOf_iff_prefix.mp raw
  exact List.mem_append_left _ (by decide)

/-- A raw mark stands before the rest of a name. -/
theorem begins_raw (word : List Char) : Lexeme.begins "r#" ('r' :: '#' :: word) = true :=
  List.isPrefixOf_iff_prefix.mpr (List.prefix_append ['r', '#'] word)

/-- A name is an identifier, or one behind a raw mark that is no word of paths. -/
inductive NameText : List Char → Prop where
  | plain {word : List Char} (identifier : IsIdentifier word) : NameText word
  | raw {word : List Char} (identifier : IsIdentifier word)
      (free : String.ofList word ∉ ["_", "super", "self", "Self", "crate"]) :
      NameText ('r' :: '#' :: word)

/-- What is read as a name is one. -/
theorem nameText_of_name? {chars read rest : List Char}
    (isName : Lexeme.name? chars = some (read, rest)) : NameText read := by
  rw [Lexeme.name?] at isName
  split at isName
  · split at isName
    · rename_i word after isWord
      split at isName
      · cases isName
      · rename_i free
        cases isName
        exact .raw (isIdentifier_of_word isWord) (by simpa using free)
    · cases isName
  · exact .plain (isIdentifier_of_word isName)

/-- A text is read as one name if it is one. -/
theorem isName_iff {text : String} : IsName text ↔ NameText text.toList := by
  rw [IsName]
  generalize text.toList = chars
  constructor
  · exact nameText_of_name?
  · rintro (identifier | @⟨word, identifier, free⟩)
    · rw [Lexeme.name?, not_raw_of_isIdentifier identifier]
      exact word_eq_self_iff.mpr identifier
    · have isWord : Literal.word (List.drop 2 ('r' :: '#' :: word)) = some (word, []) :=
        word_eq_self_iff.mpr identifier
      rw [Lexeme.name?, begins_raw, if_pos rfl, isWord]
      exact if_neg (by simpa using free)

/-- Only the mark of raw names does not go on with identifiers. -/
theorem NameText.goesOn {chars : List Char} (name : NameText chars) :
    ∀ c ∈ chars, c ≠ '#' → isIdentifierContinue c = true := by
  intro c isChar notMark
  cases name with
  | plain identifier => exact (isIdentifier_iff.mp identifier).2 c isChar
  | raw identifier free =>
      rcases List.mem_cons.mp isChar with rfl | isChar
      · decide
      · rcases List.mem_cons.mp isChar with rfl | isChar
        · contradiction
        · exact (isIdentifier_iff.mp identifier).2 c isChar

/-- The text begins with the mark of raw names. -/
def IsRaw (text : String) : Prop :=
  ['r', '#'] <+: text.toList

instance (text : String) : Decidable (IsRaw text) :=
  inferInstanceAs (Decidable (_ <+: _))

/-- A name without the mark is an identifier. -/
theorem not_isRaw_iff {text : String} (isName : IsName text) :
    ¬IsRaw text ↔ IsIdentifier text.toList := by
  rw [IsRaw]
  have name := isName_iff.mp isName
  generalize text.toList = chars at name ⊢
  cases name with
  | plain identifier =>
      refine iff_of_true (fun raw => identifier.mark_notMem ?_) identifier
      exact raw.subset (by decide)
  | raw identifier free =>
      refine iff_of_false (fun plain => plain (List.prefix_append ['r', '#'] _)) ?_
      exact fun identifier => identifier.mark_notMem (List.mem_cons_of_mem _ List.mem_cons_self)

/-- Every name in a tree is one. -/
inductive Tree.Named : Tree → Prop where
  | name {text : String} {region : Region} (isName : IsName text) : Named (.name text region)
  | punct {c : Char} {joint : Bool} {region : Region} : Named (.punct c joint region)
  | literal {literal : Literal} {text : String} {region : Region} :
      Named (.literal literal text region)
  | group {delimiter : Delimiter} {inner : List Tree} {opening closing : Region}
      (each : ∀ tree ∈ inner, tree.Named) : Named (.group delimiter inner opening closing)

namespace Lexeme

/-- A leaf is a tree in which every name is one. -/
def Mark.Named : Mark → Prop
  | .leaf tree => ∀ region, (tree region).Named
  | _ => True

theorem named_of_leaf? {chars read rest : List Char} {mark : Mark}
    (isLeaf : leaf? chars = some (mark, read, rest)) : mark.Named := by
  unfold leaf? at isLeaf
  split at isLeaf
  · cases isLeaf
    exact fun _ => .literal
  · split at isLeaf
    · dsimp only at isLeaf
      split at isLeaf
      · split at isLeaf
        · cases isLeaf
          exact fun _ => .punct
        · cases isLeaf
      · cases isLeaf
        exact fun _ => .punct
    · split at isLeaf
      · cases isLeaf
      · obtain ⟨⟨word, after⟩, isName, same⟩ := Option.map_eq_some_iff.mp isLeaf
        cases same
        refine fun _ => .name (isName_iff.mpr ?_)
        rw [String.toList_ofList]
        exact nameText_of_name? isName

theorem named_of_next? {chars read rest : List Char} {mark : Mark}
    (isNext : next? chars = some (mark, read, rest)) : mark.Named := by
  unfold next? at isNext
  split at isNext
  · split at isNext
    · exact named_of_leaf? isNext
    · cases isNext
      trivial
  · split at isNext
    · cases isNext
    · split at isNext
      · cases isNext
        trivial
      · cases isNext
        trivial
      · exact named_of_leaf? isNext

/-- All leaves of a text have names only. -/
theorem named_of_mem_all {fuel : Nat} {position : Position} {chars : List Char}
    {entry : Mark × Region} (isEntry : entry ∈ (all fuel position chars).1) : entry.1.Named := by
  induction fuel generalizing position chars with
  | zero => cases isEntry
  | succ fuel ih =>
      rw [all] at isEntry
      dsimp only at isEntry
      split at isEntry
      · cases isEntry
      · split at isEntry
        · cases isEntry
        · rename_i isNext
          rcases List.mem_cons.mp isEntry with rfl | later
          · exact named_of_next? isNext
          · exact ih later

/-- The attribute that documentation stands for has no name but its own. -/
theorem named_documentationTrees {text : String} {inner : Bool} {region : Region} :
    ∀ tree ∈ documentationTrees text inner region, tree.Named := by
  have isDoc : IsName "doc" := by decide +kernel
  have content : ∀ tree ∈ [Tree.name "doc" region, .punct '=' false region,
      .literal (.string text) (Text.quoted text) region], tree.Named :=
    List.forall_mem_cons.mpr ⟨.name isDoc, List.forall_mem_cons.mpr ⟨.punct,
      List.forall_mem_singleton.mpr .literal⟩⟩
  cases inner with
  | false =>
      exact List.forall_mem_cons.mpr ⟨.punct, List.forall_mem_singleton.mpr (.group content)⟩
  | true =>
      exact List.forall_mem_cons.mpr ⟨.punct, List.forall_mem_cons.mpr ⟨.punct,
        List.forall_mem_singleton.mpr (.group content)⟩⟩

/-- Matching delimiters only puts leaves together. -/
theorem named_of_nest {stopped : Option Position} {marks : List (Mark × Region)}
    {frames : List Frame} {trees result : List Tree}
    (leaves : ∀ entry ∈ marks, entry.1.Named)
    (outside : ∀ frame ∈ frames, ∀ tree ∈ frame.before, tree.Named)
    (inside : ∀ tree ∈ trees, tree.Named)
    (isNested : nest stopped marks frames trees = .ok result) : ∀ tree ∈ result, tree.Named := by
  induction marks generalizing frames trees with
  | nil =>
      rw [nest.eq_def] at isNested
      dsimp only at isNested
      split at isNested
      · cases isNested
      · cases isNested
      · cases isNested
        exact fun tree isTree => inside tree (List.mem_reverse.mp isTree)
  | cons entry rest ih =>
      obtain ⟨mark, region⟩ := entry
      obtain ⟨named, later⟩ := List.forall_mem_cons.mp leaves
      cases mark with
      | leaf tree =>
          exact ih later outside (List.forall_mem_cons.mpr ⟨named region, inside⟩) isNested
      | documentation text inner =>
          refine ih later outside (List.forall_mem_append.mpr ⟨?_, inside⟩) isNested
          exact fun tree isTree => named_documentationTrees tree (List.mem_reverse.mp isTree)
      | opening delimiter =>
          exact ih later (List.forall_mem_cons.mpr ⟨inside, outside⟩) (List.forall_mem_nil _)
            isNested
      | closing delimiter =>
          cases frames with
          | nil => cases isNested
          | cons frame frames =>
              rw [nest] at isNested
              split at isNested
              · obtain ⟨before, outside⟩ := List.forall_mem_cons.mp outside
                refine ih later outside (List.forall_mem_cons.mpr ⟨.group ?_, before⟩) isNested
                exact fun tree isTree => inside tree (List.mem_reverse.mp isTree)
              · cases isNested

end Lexeme

/-- Every name among the trees of a text is one. -/
theorem named_of_trees {text : String} {found : List Tree} (isRead : trees text = .ok found) :
    ∀ tree ∈ found, tree.Named := by
  rw [trees] at isRead
  dsimp only at isRead
  exact Lexeme.named_of_nest (fun _ => Lexeme.named_of_mem_all) (List.forall_mem_nil _)
    (List.forall_mem_nil _) isRead

end NativeBridge.Source
