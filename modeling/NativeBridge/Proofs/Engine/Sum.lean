import Mathlib.Algebra.Ring.Int.Defs
import Mathlib.Algebra.Ring.Nat
import NativeBridge.Engine.Arithmetic

/-!
# Sums of words

Words of 32 bits are summed up in a word of 64 bits. An addition that stops where its exact
result is out of range (`addExact?`) gets through a whole sequence exactly if every partial sum
is in range: `foldlM_addExact?_eq_some_iff`. No sequence that a word can count comes near the
ends of the range.
-/

namespace NativeBridge.Engine

/-- The sum of some words as an integer. -/
def exactSum (values : List Int32) : Int :=
  (values.map Int32.toInt).sum

/-- The integers that a word of 64 bits can hold. -/
def FitsLong (total : Int) : Prop :=
  -2 ^ 63 ≤ total ∧ total < 2 ^ 63

instance (total : Int) : Decidable (FitsLong total) :=
  inferInstanceAs (Decidable (_ ∧ _))

/-- Adds a word to a total, unless that overflows. -/
def addExact? (total : Int64) (value : Int32) : Option Int64 :=
  if FitsLong (total.toInt + value.toInt) then some (total + value.toInt64) else none

/-- Sums up some words one after the other; nothing once a partial sum overflows. -/
def sumExact? (values : List Int32) : Option Int64 :=
  values.foldlM addExact? 0

theorem exactSum_cons (value : Int32) (rest : List Int32) :
    exactSum (value :: rest) = value.toInt + exactSum rest := by
  simp [exactSum]

/-- Every word of 64 bits is in range. -/
theorem fitsLong_toInt (total : Int64) : FitsLong total.toInt :=
  ⟨total.le_toInt, total.toInt_lt⟩

/-- An addition does not wrap if its exact result is in range. -/
theorem toInt_add_of_fitsLong {total : Int64} {value : Int32}
    (fits : FitsLong (total.toInt + value.toInt)) :
    (total + value.toInt64).toInt = total.toInt + value.toInt := by
  obtain ⟨low, high⟩ := fits
  rw [Int64.toInt_add, Int32.toInt_toInt64]
  apply Int.bmod_eq_of_le
  · omega
  · omega

/-- What is added without overflow is the exact result, and that is in range. -/
theorem addExact?_eq_some_iff {total next : Int64} {value : Int32} :
    addExact? total value = some next ↔ next.toInt = total.toInt + value.toInt := by
  rw [addExact?]
  constructor
  · intro added
    split at added
    · rename_i fits
      cases added
      exact toInt_add_of_fitsLong fits
    · cases added
  · intro isExact
    have fits : FitsLong (total.toInt + value.toInt) := isExact ▸ fitsLong_toInt next
    rw [if_pos fits, Option.some.injEq, ← Int64.toInt_inj, isExact]
    exact toInt_add_of_fitsLong fits

/-- Without overflow the next total is the wrapping sum too. -/
theorem eq_add_of_addExact? {total next : Int64} {value : Int32}
    (added : addExact? total value = some next) : next = total + value.toInt64 := by
  have isExact := addExact?_eq_some_iff.mp added
  rw [← Int64.toInt_inj, isExact, toInt_add_of_fitsLong (isExact ▸ fitsLong_toInt next)]

/-- All words are added exactly if every partial sum is in range, and then the total is exact. -/
theorem foldlM_addExact?_eq_some_iff {total result : Int64} {values : List Int32} :
    values.foldlM addExact? total = some result ↔
      (∀ length, FitsLong (total.toInt + exactSum (values.take length))) ∧
        result.toInt = total.toInt + exactSum values := by
  induction values generalizing total with
  | nil =>
      simp only [List.foldlM_nil, Option.pure_def, Option.some.injEq, List.take_nil]
      have none : total.toInt + exactSum [] = total.toInt := by simp [exactSum]
      rw [none, ← Int64.toInt_inj, eq_comm]
      exact ⟨fun same => ⟨fun _ => fitsLong_toInt total, same⟩, And.right⟩
  | cons value rest ih =>
      have split (next : Int64) (isNext : next.toInt = total.toInt + value.toInt)
          (length : Nat) : total.toInt + exactSum ((value :: rest).take (length + 1))
            = next.toInt + exactSum (rest.take length) := by
        rw [List.take_succ_cons, exactSum_cons, isNext, Int.add_assoc]
      simp only [List.foldlM_cons, Option.bind_eq_bind, Option.bind_eq_some_iff]
      constructor
      · rintro ⟨next, added, later⟩
        have isNext := addExact?_eq_some_iff.mp added
        obtain ⟨each, isResult⟩ := ih.mp later
        refine ⟨fun length => ?_, ?_⟩
        · cases length with
          | zero => simpa [exactSum] using fitsLong_toInt total
          | succ length => exact split next isNext length ▸ each length
        · rw [isResult, isNext, exactSum_cons, Int.add_assoc]
      · rintro ⟨each, isResult⟩
        have fits : FitsLong (total.toInt + value.toInt) := by simpa [exactSum] using each 1
        have isNext := toInt_add_of_fitsLong fits
        refine ⟨total + value.toInt64, if_pos fits, ih.mpr ⟨fun length => ?_, ?_⟩⟩
        · exact split _ isNext length ▸ each (length + 1)
        · rw [isResult, isNext, exactSum_cons, Int.add_assoc]

/-- A sum without overflow is what wrapping additions make. -/
theorem foldl_of_foldlM_addExact? {total result : Int64} {values : List Int32}
    (added : values.foldlM addExact? total = some result) :
    values.foldl (fun total value => total + value.toInt64) total = result := by
  induction values generalizing total with
  | nil => exact Option.some.inj added
  | cons value rest ih =>
      simp only [List.foldlM_cons, Option.bind_eq_bind, Option.bind_eq_some_iff] at added
      obtain ⟨next, first, later⟩ := added
      rw [List.foldl_cons, ← eq_add_of_addExact? first]
      exact ih later

/-- Every word adds at most `2 ^ 31` to the size of the sum. -/
theorem exactSum_bounds (values : List Int32) :
    -(2 ^ 31 * values.length) ≤ exactSum values ∧ exactSum values ≤ 2 ^ 31 * values.length := by
  induction values with
  | nil => simp [exactSum]
  | cons value rest ih =>
      have low := value.le_toInt
      have high := value.toInt_lt
      rw [exactSum_cons, List.length_cons]
      omega

/-- No sequence that a word of 32 bits can count has a sum out of range. -/
theorem fitsLong_exactSum {values : List Int32} (countable : values.length < 2 ^ 31) :
    FitsLong (exactSum values) := by
  obtain ⟨low, high⟩ := exactSum_bounds values
  constructor
  · omega
  · omega

/-- The first of some values, up to a count; none for a count that is not positive. -/
def firstOf (values : List Int32) (count : Int32) : List Int32 :=
  values.take count.toInt.toNat

/-- A count stays below `2 ^ 31`. -/
theorem length_firstOf_lt (values : List Int32) (count : Int32) :
    (firstOf values count).length < 2 ^ 31 := by
  have bound := count.toInt_lt
  rw [firstOf, List.length_take]
  omega

/-- The values that a buffer holds up to a count are summed up exactly, and no partial sum
overflows; without a buffer or for a count that is not positive the sum is zero. -/
theorem sum_exact (values : List Int32) (count : Int32) (inside : count.toInt ≤ values.length) :
    (firstOf values count).length = count.toInt.toNat ∧
    (sum (some values) count).toInt = exactSum (firstOf values count) ∧
    (∀ length, FitsLong (exactSum ((firstOf values count).take length))) ∧
    sumExact? (firstOf values count) = some (sum (some values) count) ∧
    (count.toInt ≤ 0 → sum (some values) count = 0) ∧ sum none count = 0 := by
  have fits : ∀ length, FitsLong (exactSum ((firstOf values count).take length)) := by
    intro length
    have bound := length_firstOf_lt values count
    apply fitsLong_exactSum
    rw [List.length_take]
    omega
  -- The exact sum is a word, and the accumulation without overflow ends in it.
  obtain ⟨total, isTotal⟩ : ∃ total : Int64, total.toInt = exactSum (firstOf values count) := by
    obtain ⟨low, high⟩ := List.take_length ▸ fits (firstOf values count).length
    exact ⟨.ofInt (exactSum (firstOf values count)), Int64.toInt_ofInt_of_le low high⟩
  have summed : sumExact? (firstOf values count) = some total :=
    foldlM_addExact?_eq_some_iff.mpr ⟨by simpa using fits, by simpa using isTotal⟩
  have isSum : sum (some values) count = total := foldl_of_foldlM_addExact? summed
  refine ⟨?_, isSum ▸ isTotal, fits, isSum ▸ summed, fun notPositive => ?_, rfl⟩
  · rw [firstOf, List.length_take]
    omega
  · have none : count.toInt.toNat = 0 := by omega
    rw [sum, none]
    rfl

/-- Of three extreme words the first two are summed up, beyond the range of a word of 32 bits. -/
theorem sum_exact_extreme :
    (2 : Int32).toInt ≤ ([0x7fffffff, 0x7fffffff, -0x80000000] : List Int32).length ∧
      (sum (some [0x7fffffff, 0x7fffffff, -0x80000000]) 2).toInt = 0xfffffffe ∧
      sumExact? [0x7fffffff, 0x7fffffff] = some 0xfffffffe := by
  have inside : (2 : Int32).toInt ≤ ([0x7fffffff, 0x7fffffff, -0x80000000] : List Int32).length :=
    by decide
  obtain ⟨-, isExact, -, summed, -⟩ := sum_exact _ _ inside
  exact ⟨inside, isExact.trans (by decide), summed.trans (by decide)⟩

end NativeBridge.Engine
