import NativeBridge.Naming

/-!
# The characters of snake-case names

A snake-case name consists of underscores, of letters and numbers of the name and
of lower-case images of its upper-case characters. None of these is a colon or a slash, so
a snake-case name is a single segment of every path and a single name in a directory.
-/

namespace NativeBridge

namespace Text

/-- A character made from a number has that number, or none. -/
theorem toNat_ofNat (code : Nat) :
    (Char.ofNat code).toNat = code ∨ (Char.ofNat code).toNat = 0 := by
  by_cases valid : code.isValidChar
  · exact .inl (congrArg Char.toNat (dif_pos valid))
  · exact .inr (congrArg Char.toNat (dif_neg valid))

/-- No run leads to a character below all of its targets. -/
theorem CaseRun.image_ne {runs : List CaseRun} {c image : Char} (positive : 0 < image.toNat)
    (above : ∀ run ∈ runs, image.toNat < run.2.2.2) (other : c ≠ image) :
    CaseRun.image runs c ≠ image := by
  induction runs with
  | nil => exact other
  | cons run rest ih =>
      obtain ⟨first, last, step, target⟩ := run
      have beyond : image.toNat < target := above _ List.mem_cons_self
      rw [CaseRun.image]
      split
      · rintro rfl
        rcases toNat_ofNat (target + (c.toNat - first)) with code | none
        · omega
        · omega
      · exact ih fun run isRun => above run (List.mem_cons_of_mem _ isRun)

/-- Only a mark before the letters is that mark in the lower case of ASCII. -/
theorem toLower_ne {c mark : Char} (before : mark.toNat < 'A'.toNat) (other : c ≠ mark) :
    c.toLower ≠ mark := by
  by_cases upper : c.val ≥ 'A'.val ∧ c.val ≤ 'Z'.val
  · have lowered : c.toLower.val = c.val + 32 := congrArg Char.val (dif_pos upper)
    intro same
    have first : 65 ≤ c.val.toNat := upper.1
    have last : c.val.toNat ≤ 90 := upper.2
    have low : mark.val.toNat < 65 := before
    have code : (c.val.toNat + 32) % 2 ^ 32 = mark.val.toNat := by
      rw [same] at lowered
      exact (congrArg UInt32.toNat lowered).symm
    omega
  · have kept : c.toLower = c := dif_neg upper
    rw [kept]
    exact other

/-- Only a mark before the letters is in lower case that mark. -/
theorem notMem_lower {c mark : Char} (positive : 0 < mark.toNat)
    (before : mark.toNat < 'A'.toNat) (other : c ≠ mark) : mark ∉ lower c := by
  rw [lower]
  split
  · rw [List.mem_singleton]
    exact (toLower_ne before other).symm
  · split
    · intro isImage
      have letters : ∀ image ∈ ['i', Char.ofNat 0x307], 'A'.toNat ≤ image.toNat := by
        simp only [List.forall_mem_cons]
        exact ⟨by decide, by decide, nofun⟩
      exact absurd before (Nat.not_lt.mpr (letters mark isImage))
    · rw [List.mem_singleton]
      have above : ∀ run ∈ lowerRuns, 'A'.toNat ≤ run.2.2.2 := by decide +kernel
      exact (CaseRun.image_ne positive
        (fun run isRun => Nat.lt_of_lt_of_le before (above run isRun)) other).symm

end Text

namespace Naming

open NativeBridge.Text

/-- What a character of a name may become in snake case. -/
inductive SnakeChar (name : List Char) : Char → Prop where
  | underscore : SnakeChar name '_'
  | kept {c : Char} (isChar : c ∈ name) (alphanumeric : isAlphanumeric c = true) :
      SnakeChar name c
  | lowered {c image : Char} (isChar : c ∈ name) (uppercase : isUppercase c = true)
      (isImage : image ∈ lower c) : SnakeChar name image

/-- A separator adds an underscore at most. -/
theorem mem_separate {name written : List Char} {image : Char}
    (isImage : image ∈ separate written) : SnakeChar name image ∨ image ∈ written := by
  rw [separate] at isImage
  split at isImage
  · exact .inr isImage
  · rcases List.mem_cons.mp isImage with rfl | before
    · exact .inl .underscore
    · exact .inr before

/-- One character adds its own image and an underscore at most. -/
theorem mem_snakeStep {previous next : Option Char} {c : Char} {written : List Char}
    {name : List Char} (isChar : c ∈ name) {image : Char}
    (isImage : image ∈ snakeStep previous next c written) :
    SnakeChar name image ∨ image ∈ written := by
  rw [snakeStep] at isImage
  split at isImage
  · rename_i uppercase
    rcases List.mem_append.mp isImage with fromChar | before
    · exact .inl (.lowered isChar uppercase (List.mem_reverse.mp fromChar))
    · split at before
      · exact mem_separate before
      · exact .inr before
  · split at isImage
    · rename_i alphanumeric
      rcases List.mem_cons.mp isImage with rfl | before
      · exact .inl (.kept isChar alphanumeric)
      · exact .inr before
    · split at isImage
      · exact .inr isImage
      · exact mem_separate isImage

/-- The remaining characters add what they may become. -/
theorem mem_snakeFrom {previous : Option Char} {written rest name : List Char}
    (within : rest ⊆ name) {image : Char} (isImage : image ∈ snakeFrom previous written rest) :
    SnakeChar name image ∨ image ∈ written := by
  induction rest generalizing previous written with
  | nil => exact .inr isImage
  | cons c rest ih =>
      rw [snakeFrom] at isImage
      rcases ih (fun _ later => within (List.mem_cons_of_mem _ later)) isImage with
        later | before
      · exact .inl later
      · exact mem_snakeStep (within List.mem_cons_self) before

/-- Every character of a snake-case name comes from the name. -/
theorem mem_snakeCase {name : String} {image : Char} (isImage : image ∈ (snakeCase name).toList) :
    SnakeChar name.toList image := by
  rw [snakeCase, String.toList_ofList, List.mem_reverse] at isImage
  rcases mem_snakeFrom (List.Subset.refl _) isImage with new | none
  · exact new
  · cases none

/-- A snake-case name has no mark that stands before the letters and is no digit. -/
theorem mark_notMem_snakeCase {mark : Char} (positive : 0 < mark.toNat)
    (before : mark.toNat < 'A'.toNat) (isMark : isAlphanumeric mark = false)
    (notUpper : isUppercase mark = false) (name : String) : mark ∉ (snakeCase name).toList := by
  intro isImage
  generalize image : mark = c at isImage
  cases mem_snakeCase isImage with
  | underscore =>
      rw [image] at before
      exact absurd before (by decide)
  | kept isChar alphanumeric =>
      rw [← image, isMark] at alphanumeric
      cases alphanumeric
  | lowered isChar uppercase isImage =>
      rename_i c
      have other : c ≠ mark := by
        rintro rfl
        rw [notUpper] at uppercase
        cases uppercase
      rw [← image] at isImage
      exact notMem_lower positive before other isImage

/-- A snake-case name has no colon. -/
theorem colon_notMem_snakeCase (name : String) : ':' ∉ (snakeCase name).toList :=
  mark_notMem_snakeCase (by decide) (by decide) (by decide) (by decide) name

/-- A snake-case name has no slash. -/
theorem slash_notMem_snakeCase (name : String) : '/' ∉ (snakeCase name).toList :=
  mark_notMem_snakeCase (by decide) (by decide) (by decide) (by decide) name

end Naming

end NativeBridge
