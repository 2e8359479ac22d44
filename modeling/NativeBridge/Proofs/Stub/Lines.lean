import Mathlib.Data.List.Forall2
import Mathlib.Data.List.Infix
import NativeBridge.Stub.Lines

/-!
# Lines of generated files

Files are put together from blocks of lines, and most lines begin with a fixed text
by which they are told apart, whatever names stand behind it.
-/

namespace NativeBridge.Stub

/-- An empty line stands between the first block and the others. -/
theorem spaced_cons_cons (block next : List String) (rest : List (List String)) :
    spaced (block :: next :: rest) = block ++ "" :: spaced (next :: rest) :=
  spaced.eq_3 block (next :: rest) (List.cons_ne_nil next rest)

/-- A block stands as it is among all blocks. -/
theorem infix_spaced {block : List String} {blocks : List (List String)}
    (isBlock : block ∈ blocks) : block <:+: spaced blocks := by
  induction blocks with
  | nil => cases isBlock
  | cons first rest ih =>
      cases rest with
      | nil =>
          rw [List.mem_singleton.mp isBlock]
          exact List.infix_refl first
      | cons second later =>
          rw [spaced_cons_cons]
          rcases List.mem_cons.mp isBlock with rfl | isLater
          · exact (List.prefix_append _ _).isInfix
          · have behind := (List.suffix_cons "" (spaced (second :: later))).trans
              (List.suffix_append first _)
            exact (ih isLater).trans behind.isInfix

/-- A selection without empty lines selects from every block. -/
theorem filter_spaced {select : String → Bool} (notEmpty : select "" = false)
    (blocks : List (List String)) :
    (spaced blocks).filter select = blocks.flatMap (List.filter select) := by
  induction blocks with
  | nil => rfl
  | cons first rest ih =>
      cases rest with
      | nil => simp [spaced]
      | cons second later =>
          rw [spaced_cons_cons, List.filter_append, List.filter_cons, notEmpty, ih]
          rfl

/-- Blocks that correspond line by line still do with empty lines between them. -/
theorem forall₂_spaced {relation : String → String → Prop} (empty : relation "" "")
    {blocks others : List (List String)}
    (same : List.Forall₂ (List.Forall₂ relation) blocks others) :
    List.Forall₂ relation (spaced blocks) (spaced others) := by
  induction same with
  | nil => exact .nil
  | @cons block other rest more first later ih =>
      cases later with
      | nil => exact first
      | cons second last =>
          rw [spaced_cons_cons, spaced_cons_cons]
          exact List.rel_append first (.cons empty ih)

/-- A line begins with a text. -/
def begins (leading line : String) : Bool :=
  leading.toList.isPrefixOf line.toList

/-- A line with a long beginning has every shorter one. -/
theorem begins_trans {first leading line : String} (shorter : begins first leading = true)
    (longer : begins leading line = true) : begins first line = true := by
  rw [begins, List.isPrefixOf_iff_prefix] at *
  exact shorter.trans longer

/-- A text begins every line that is written behind it. -/
theorem begins_append (leading rest : String) : begins leading (leading ++ rest) = true := by
  rw [begins, List.isPrefixOf_iff_prefix, String.toList_append]
  exact List.prefix_append _ _

/-- A text begins every line that is written behind it and closed by another. -/
theorem begins_append_closed (leading rest closing : String) :
    begins leading (leading ++ rest ++ closing) = true := by
  rw [String.append_assoc]
  exact begins_append _ _

/-- Behind a common beginning lines begin as the rests do. -/
theorem begins_append_append (first leading line : String) :
    begins (first ++ leading) (first ++ line) = begins leading line := by
  rw [Bool.eq_iff_iff, begins, begins, List.isPrefixOf_iff_prefix, List.isPrefixOf_iff_prefix,
    String.toList_append, String.toList_append, List.prefix_append_right_inj]

/-- A line does not begin with a text if neither this text nor what the line begins with is the
beginning of the other. -/
theorem begins_append_eq_false {leading first : String}
    (apart : (begins leading first || begins first leading) = false) (rest : String) :
    begins leading (first ++ rest) = false := by
  obtain ⟨notLonger, notShorter⟩ := Bool.or_eq_false_iff.mp apart
  refine Bool.eq_false_iff.mpr fun isLeading => ?_
  rw [begins, List.isPrefixOf_iff_prefix, String.toList_append] at isLeading
  rcases List.prefix_or_prefix_of_prefix isLeading (List.prefix_append _ _) with longer | shorter
  · rw [← List.isPrefixOf_iff_prefix] at longer
    exact Bool.eq_false_iff.mp notLonger longer
  · rw [← List.isPrefixOf_iff_prefix] at shorter
    exact Bool.eq_false_iff.mp notShorter shorter

/-- Lines that do not begin with a text are not selected by it. -/
theorem filter_begins_eq_nil {leading : String} {lines : List String}
    (others : ∀ line ∈ lines, begins leading line = false) :
    lines.filter (begins leading) = [] :=
  List.filter_eq_nil_iff.mpr fun line isLine => by simp [others line isLine]

end NativeBridge.Stub
