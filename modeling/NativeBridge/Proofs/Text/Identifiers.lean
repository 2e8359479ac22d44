import Mathlib.Data.Nat.Bitwise
import NativeBridge.Proofs.Naming.SnakeCase
import NativeBridge.Text.Identifier

/-!
# Letter case inside identifiers

A character that may stand in an identifier becomes characters that may, in either case, and
one that may begin it becomes a text that does. Outside ASCII this is a matter of the tables:
their intervals are taken as the bits of one number each, in which every code point of a run
is looked up once.
-/

namespace NativeBridge.Text

/-! ### Tables as bits -/

/-- The number whose bits are the code points of the intervals. -/
def Interval.mask (intervals : List Interval) : Nat :=
  intervals.foldr (fun interval bits =>
    ((2 ^ (interval.2 + 1 - interval.1) - 1) <<< interval.1) ||| bits) 0

theorem Interval.testBit_mask (intervals : List Interval) (code : Nat) :
    (mask intervals).testBit code = anyContains intervals code := by
  induction intervals with
  | nil => exact Nat.zero_testBit code
  | cons interval rest ih =>
      have first : ((2 ^ (interval.2 + 1 - interval.1) - 1) <<< interval.1).testBit code
          = (decide (interval.1 ≤ code) && decide (code ≤ interval.2)) := by
        rw [Nat.testBit_shiftLeft, Nat.testBit_two_pow_sub_one, Bool.eq_iff_iff]
        simp only [Bool.and_eq_true, decide_eq_true_eq]
        omega
      rw [mask, List.foldr_cons, Nat.testBit_or, first]
      exact congrArg _ ih

/-- The code points of a run. -/
def Run.points : Run → List Nat
  | (first, last, step) => (List.range ((last - first) / step + 1)).map (first + step * ·)

theorem Run.mem_points {first last step code : Nat} (low : first ≤ code) (high : code ≤ last)
    (onStep : (code - first) % step = 0) : code ∈ points (first, last, step) := by
  refine List.mem_map.mpr ⟨(code - first) / step, List.mem_range.mpr ?_, ?_⟩
  · exact Nat.lt_succ_of_le (Nat.div_le_div_right (Nat.sub_le_sub_right high first))
  · rw [Nat.mul_div_cancel' (Nat.dvd_of_mod_eq_zero onStep), Nat.add_sub_cancel' low]

/-- What holds of all points of some runs holds of all that they contain. -/
theorem Run.of_anyContains {motive : Nat → Prop} {runs : List Run} {code : Nat}
    (all : ∀ run ∈ runs, ∀ point ∈ run.points, motive point)
    (contains : anyContains runs code = true) : motive code := by
  obtain ⟨⟨first, last, step⟩, isRun, inside⟩ := List.any_eq_true.mp contains
  obtain ⟨inRange, onStep⟩ := Bool.and_eq_true_iff.mp inside
  obtain ⟨low, high⟩ := Bool.and_eq_true_iff.mp inRange
  exact all _ isRun code
    (mem_points (of_decide_eq_true low) (of_decide_eq_true high) (beq_iff_eq.mp onStep))

/-- The run takes the bits of a number to bits of that number. -/
def CaseRun.Keeps (bits : Nat) (run : CaseRun) : Prop :=
  ∀ point ∈ Run.points (run.1, run.2.1, run.2.2.1), bits.testBit point = true →
    bits.testBit (Char.ofNat (run.2.2.2 + (point - run.1))).toNat = true

instance (bits : Nat) (run : CaseRun) : Decidable (run.Keeps bits) :=
  inferInstanceAs (Decidable (∀ _ ∈ _, _))

theorem CaseRun.testBit_image {bits : Nat} {runs : List CaseRun} {c : Char}
    (keeps : ∀ run ∈ runs, run.Keeps bits) (isBit : bits.testBit c.toNat = true) :
    bits.testBit (image runs c).toNat = true := by
  induction runs with
  | nil => exact isBit
  | cons run rest ih =>
      obtain ⟨first, last, step, target⟩ := run
      obtain ⟨now, later⟩ := List.forall_mem_cons.mp keeps
      rw [image]
      split
      · rename_i inside
        obtain ⟨inRange, onStep⟩ := Bool.and_eq_true_iff.mp inside
        obtain ⟨low, high⟩ := Bool.and_eq_true_iff.mp inRange
        exact now _ (Run.mem_points (of_decide_eq_true low) (of_decide_eq_true high)
          (beq_iff_eq.mp onStep)) isBit
      · exact ih later

/-- Within ASCII the number is looked up, outside it is the table behind the ASCII intervals. -/
theorem Interval.testBit_mask_append (ascii table : List Interval) (inAscii : Char → Bool)
    (within : ∀ code : Fin 128, (mask (ascii ++ table)).testBit code = inAscii (Char.ofNat code))
    (low : ∀ interval ∈ ascii, interval.2 < 0x80) (c : Char) :
    (mask (ascii ++ table)).testBit c.toNat =
      if c.val < 0x80 then inAscii c else anyContains table c.toNat := by
  split
  · rename_i isAscii
    have known := within ⟨c.toNat, isAscii⟩
    rwa [Fin.val_mk, Char.ofNat_toNat] at known
  · rename_i other
    have beyond : 0x80 ≤ c.toNat := Nat.le_of_not_lt other
    have none : anyContains ascii c.toNat = false := by
      refine List.any_eq_false.mpr fun interval isInterval inside => ?_
      have high := of_decide_eq_true (Bool.and_eq_true_iff.mp inside).2
      have below := low interval isInterval
      omega
    rw [testBit_mask, anyContains, List.any_append]
    exact (congrArg (· || _) none).trans (Bool.false_or _)

/-- The ASCII letters and the underscore. -/
def asciiStartIntervals : List Interval :=
  [(0x41, 0x5A), (0x5F, 0x5F), (0x61, 0x7A)]

/-- The characters that may begin an identifier, as bits. -/
def startBits : Nat :=
  Interval.mask (asciiStartIntervals ++ identifierStartIntervals)

/-- The characters that may stand in an identifier, as bits. -/
def continueBits : Nat :=
  Interval.mask (((0x30, 0x39) :: asciiStartIntervals) ++ identifierContinueIntervals)

theorem testBit_startBits (c : Char) : startBits.testBit c.toNat = isIdentifierStart c := by
  rw [startBits, isIdentifierStart]
  refine Interval.testBit_mask_append asciiStartIntervals identifierStartIntervals
    (fun c => c.isAlpha || c == '_') ?_ ?_ c
  · decide +kernel
  · decide

theorem testBit_continueBits (c : Char) :
    continueBits.testBit c.toNat = isIdentifierContinue c := by
  rw [continueBits, isIdentifierContinue]
  refine Interval.testBit_mask_append ((0x30, 0x39) :: asciiStartIntervals)
    identifierContinueIntervals (fun c => c.isAlphanum || c == '_') ?_ ?_ c
  · decide +kernel
  · decide

/-! ### Letters -/

/-- What may begin an identifier may also go on with it. -/
theorem isIdentifierContinue_of_start {c : Char} (begins : isIdentifierStart c = true) :
    isIdentifierContinue c = true := by
  have among : startBits &&& continueBits = startBits := by decide +kernel
  rw [← testBit_startBits, ← among, Nat.testBit_and, Bool.and_eq_true] at begins
  rw [← testBit_continueBits]
  exact begins.2

/-- An upper-case character of an identifier may begin it. -/
theorem isIdentifierStart_of_isUppercase {c : Char} (uppercase : isUppercase c = true)
    (goesOn : isIdentifierContinue c = true) : isIdentifierStart c = true := by
  by_cases ascii : c.val < 0x80
  · have letters : isUppercase c = true → isIdentifierStart c = true :=
      of_ascii ascii (by decide +kernel)
    exact letters uppercase
  · have all : ∀ run ∈ uppercaseRuns, ∀ point ∈ run.points,
        continueBits.testBit point = true → startBits.testBit point = true := by
      decide +kernel
    rw [isUppercase, if_neg ascii] at uppercase
    rw [← testBit_continueBits] at goesOn
    rw [← testBit_startBits]
    exact Run.of_anyContains all uppercase goesOn

/-- A lower-case character is a letter or a number. -/
theorem isAlphanumeric_of_isLowercase {c : Char} (lowercase : isLowercase c = true) :
    isAlphanumeric c = true := by
  by_cases ascii : c.val < 0x80
  · have letters : isLowercase c = true → isAlphanumeric c = true :=
      of_ascii ascii (by decide +kernel)
    exact letters lowercase
  · have all : ∀ run ∈ lowercaseRuns, ∀ point ∈ run.points,
        (Interval.mask alphanumericIntervals).testBit point = true := by
      decide +kernel
    rw [isLowercase, if_neg ascii] at lowercase
    rw [isAlphanumeric, if_neg ascii, ← Interval.testBit_mask]
    exact Run.of_anyContains all lowercase

/-! ### Identifiers -/

/-- A character that may begin an identifier, and after it some that may go on with it. -/
inductive IsIdentifier : List Char → Prop where
  | cons {c : Char} {rest : List Char} (begins : isIdentifierStart c = true)
      (goesOn : ∀ d ∈ rest, isIdentifierContinue d = true) : IsIdentifier (c :: rest)

/-- All characters of an identifier may stand in one, and the first may begin one. -/
theorem isIdentifier_iff {chars : List Char} :
    IsIdentifier chars ↔
      chars.head?.any isIdentifierStart = true ∧
        ∀ c ∈ chars, isIdentifierContinue c = true := by
  constructor
  · rintro ⟨begins, goesOn⟩
    exact ⟨begins, List.forall_mem_cons.mpr ⟨isIdentifierContinue_of_start begins, goesOn⟩⟩
  · rintro ⟨begins, goesOn⟩
    cases chars with
    | nil => cases begins
    | cons first rest => exact .cons begins (List.forall_mem_cons.mp goesOn).2

namespace IsIdentifier

variable {chars more : List Char}

theorem append (identifier : IsIdentifier chars)
    (goesOn : ∀ c ∈ more, isIdentifierContinue c = true) : IsIdentifier (chars ++ more) := by
  obtain ⟨begins, before⟩ := identifier
  exact .cons begins (List.forall_mem_append.mpr ⟨before, goesOn⟩)

/-- No mark of raw names stands in an identifier. -/
theorem mark_notMem (identifier : IsIdentifier chars) : '#' ∉ chars := by
  intro isChar
  have goesOn := (isIdentifier_iff.mp identifier).2 '#' isChar
  cases goesOn

end IsIdentifier

/-! ### Letter case -/

theorem goesOn_image {runs : List CaseRun} {c : Char}
    (keeps : ∀ run ∈ runs, run.Keeps continueBits) (goesOn : isIdentifierContinue c = true) :
    isIdentifierContinue (CaseRun.image runs c) = true := by
  rw [← testBit_continueBits] at goesOn ⊢
  exact CaseRun.testBit_image keeps goesOn

theorem begins_image {runs : List CaseRun} {c : Char}
    (keeps : ∀ run ∈ runs, run.Keeps startBits) (begins : isIdentifierStart c = true) :
    isIdentifierStart (CaseRun.image runs c) = true := by
  rw [← testBit_startBits] at begins ⊢
  exact CaseRun.testBit_image keeps begins

/-- The lower case of a character that goes on with identifiers does. -/
theorem goesOn_lower {c : Char} (goesOn : isIdentifierContinue c = true) :
    ∀ image ∈ lower c, isIdentifierContinue image = true := by
  rw [lower]
  split
  · rename_i ascii
    have letters : isIdentifierContinue c = true → isIdentifierContinue c.toLower = true :=
      of_ascii ascii (by decide +kernel)
    exact List.forall_mem_singleton.mpr (letters goesOn)
  · split
    · exact List.forall_mem_cons.mpr
        ⟨by decide +kernel, List.forall_mem_singleton.mpr (by decide +kernel)⟩
    · exact List.forall_mem_singleton.mpr (goesOn_image (by decide +kernel) goesOn)

/-- The lower case of a character that begins identifiers does. -/
theorem begins_lower {c : Char} (begins : isIdentifierStart c = true) :
    (lower c).head?.any isIdentifierStart = true := by
  rw [lower]
  split
  · rename_i ascii
    have letters : isIdentifierStart c = true → isIdentifierStart c.toLower = true :=
      of_ascii ascii (by decide +kernel)
    exact letters begins
  · split
    · rfl
    · exact begins_image (by decide +kernel) begins

/-- An expansion is one of those in the table. -/
theorem mem_upperExpansions {code : Nat} {image : List Nat}
    (isExpansion : upperExpansions.lookup code = some image) :
    (code, image) ∈ upperExpansions := by
  obtain ⟨before, after, same, -⟩ := List.lookup_eq_some_iff.mp isExpansion
  rw [same]
  exact List.mem_append_right before List.mem_cons_self

/-- The upper case of a character that goes on with identifiers does. -/
theorem goesOn_upper {c : Char} (goesOn : isIdentifierContinue c = true) :
    ∀ image ∈ upper c, isIdentifierContinue image = true := by
  rw [upper]
  split
  · rename_i ascii
    have letters : isIdentifierContinue c = true → isIdentifierContinue c.toUpper = true :=
      of_ascii ascii (by decide +kernel)
    exact List.forall_mem_singleton.mpr (letters goesOn)
  · split
    · rename_i image isExpansion
      have all : ∀ entry ∈ upperExpansions, ∀ code ∈ entry.2,
          continueBits.testBit (Char.ofNat code).toNat = true := by
        decide +kernel
      refine List.forall_mem_map.mpr fun code isCode => ?_
      rw [← testBit_continueBits]
      exact all _ (mem_upperExpansions isExpansion) code isCode
    · exact List.forall_mem_singleton.mpr (goesOn_image (by decide +kernel) goesOn)

/-- The upper case of a character that begins identifiers does. -/
theorem begins_upper {c : Char} (begins : isIdentifierStart c = true) :
    (upper c).head?.any isIdentifierStart = true := by
  rw [upper]
  split
  · rename_i ascii
    have letters : isIdentifierStart c = true → isIdentifierStart c.toUpper = true :=
      of_ascii ascii (by decide +kernel)
    exact letters begins
  · split
    · rename_i image isExpansion
      have all : ∀ entry ∈ upperExpansions,
          entry.2.head?.any (fun code => startBits.testBit (Char.ofNat code).toNat) = true := by
        decide +kernel
      have first := all _ (mem_upperExpansions isExpansion)
      simp only [testBit_startBits] at first
      rw [List.head?_map, Option.any_map]
      exact first
    · exact begins_image (by decide +kernel) begins

/-- The upper case of an identifier is one. -/
theorem IsIdentifier.flatMap_upper {chars : List Char} (identifier : IsIdentifier chars) :
    IsIdentifier (chars.flatMap upper) := by
  obtain ⟨begins, goesOn⟩ := identifier
  have first := isIdentifier_iff.mpr
    ⟨begins_upper begins, goesOn_upper (isIdentifierContinue_of_start begins)⟩
  refine first.append fun image isImage => ?_
  obtain ⟨c, isChar, isImage⟩ := List.mem_flatMap.mp isImage
  exact goesOn_upper (goesOn c isChar) image isImage

end NativeBridge.Text
