import NativeBridge.Text.Utf16

/-!
# Reading back text in 16-bit units

Every text is read back from its own units: `decode_encode`. The units of a
character are never mistaken for those of another, whatever follows them. Nor is a
text read from any other units: `encode_of_decode`. The sequences that are left stand
for no text, and they are those with a surrogate outside a pair: `decode_eq_none_iff`.
-/

namespace NativeBridge.Text.Utf16

/-- No character has the code of a surrogate. -/
theorem char_not_surrogate (c : Char) :
    c.toNat < 0xD800 ∨ (0xDFFF < c.toNat ∧ c.toNat < 0x110000) :=
  c.valid

/-- A unit outside the surrogates is read as one character. -/
theorem chars?_single {unit : UInt16} (rest : List UInt16)
    (notHigh : isHigh unit = false) (notLow : isLow unit = false) :
    chars? (unit :: rest) = (chars? rest).map (Char.ofNat unit.toNat :: ·) := by
  rw [chars?.eq_def]
  simp [notHigh, notLow]

/-- A high and a low surrogate are read as one character. -/
theorem chars?_pair {high low : UInt16} (rest : List UInt16)
    (first : isHigh high = true) (second : isLow low = true) :
    chars? (high :: low :: rest) = (chars? rest).map (ofPair high low :: ·) := by
  rw [chars?.eq_def]
  simp [first, second]

/-- The units of a character are read as that character, whatever follows. -/
theorem chars?_ofChar_append (c : Char) (rest : List UInt16) :
    chars? (ofChar c ++ rest) = (chars? rest).map (c :: ·) := by
  have valid := char_not_surrogate c
  by_cases small : c.toNat < 0x10000
  · have unitNat : c.toNat.toUInt16.toNat = c.toNat := by
      simp
      omega
    have notHigh : isHigh c.toNat.toUInt16 = false := by
      simp [isHigh, UInt16.le_iff_toNat_le]
      omega
    have notLow : isLow c.toNat.toUInt16 = false := by
      simp [isLow, UInt16.le_iff_toNat_le]
      omega
    simp only [ofChar, if_pos small, List.cons_append, List.nil_append]
    rw [chars?_single rest notHigh notLow, unitNat, Char.ofNat_toNat]
  · have highNat : (0xD800 + (c.toNat - 0x10000) / 0x400).toUInt16.toNat
        = 0xD800 + (c.toNat - 0x10000) / 0x400 := by
      simp
      omega
    have lowNat : (0xDC00 + (c.toNat - 0x10000) % 0x400).toUInt16.toNat
        = 0xDC00 + (c.toNat - 0x10000) % 0x400 := by
      simp
      omega
    have first : isHigh (0xD800 + (c.toNat - 0x10000) / 0x400).toUInt16 = true := by
      simp [isHigh, UInt16.le_iff_toNat_le]
      omega
    have second : isLow (0xDC00 + (c.toNat - 0x10000) % 0x400).toUInt16 = true := by
      simp [isLow, UInt16.le_iff_toNat_le]
      omega
    have together : 0x10000 + (0xD800 + (c.toNat - 0x10000) / 0x400 - 0xD800) * 0x400
        + (0xDC00 + (c.toNat - 0x10000) % 0x400 - 0xDC00) = c.toNat := by
      omega
    simp only [ofChar, if_neg small, List.cons_append, List.nil_append]
    rw [chars?_pair rest first second, ofPair, highNat, lowNat, together, Char.ofNat_toNat]

/-- The units of characters are read as those characters. -/
theorem chars?_flatMap_ofChar (chars : List Char) :
    chars? (chars.flatMap ofChar) = some chars := by
  induction chars with
  | nil => rfl
  | cons c rest ih => rw [List.flatMap_cons, chars?_ofChar_append, ih, Option.map_some]

/-- Every text is read back from its units. -/
theorem decode_encode (text : String) : decode (encode text) = some text := by
  rw [decode, encode, chars?_flatMap_ofChar, Option.map_some, String.ofList_toList]

/-- High surrogates are the units of one interval. -/
theorem isHigh_iff {unit : UInt16} :
    isHigh unit = true ↔ 0xD800 ≤ unit.toNat ∧ unit.toNat ≤ 0xDBFF := by
  simp [isHigh, UInt16.le_iff_toNat_le]

/-- Low surrogates are the units of the next interval. -/
theorem isLow_iff {unit : UInt16} :
    isLow unit = true ↔ 0xDC00 ≤ unit.toNat ∧ unit.toNat ≤ 0xDFFF := by
  simp [isLow, UInt16.le_iff_toNat_le]

/-- No unit is a surrogate of both kinds. -/
theorem isLow_eq_false_of_isHigh {unit : UInt16} (high : isHigh unit = true) :
    isLow unit = false := by
  rw [isHigh_iff] at high
  rw [Bool.eq_false_iff, Ne, isLow_iff]
  omega

/-- A valid code is the code of its character. -/
theorem toNat_ofNat_of_valid {code : Nat} (valid : code.isValidChar) :
    (Char.ofNat code).toNat = code :=
  congrArg Char.toNat (dif_pos valid)

/-- A unit outside the surrogates is all of its character. -/
theorem ofChar_ofNat {unit : UInt16} (notHigh : isHigh unit = false)
    (notLow : isLow unit = false) : ofChar (Char.ofNat unit.toNat) = [unit] := by
  rw [Bool.eq_false_iff, Ne, isHigh_iff] at notHigh
  rw [Bool.eq_false_iff, Ne, isLow_iff] at notLow
  have bound : unit.toNat < 0x10000 := unit.toNat_lt
  have valid : unit.toNat.isValidChar := by
    unfold Nat.isValidChar
    omega
  rw [ofChar, toNat_ofNat_of_valid valid, if_pos bound]
  simp

/-- A high and a low surrogate are all of the character that they stand for. -/
theorem ofChar_ofPair {high low : UInt16} (first : isHigh high = true)
    (second : isLow low = true) : ofChar (ofPair high low) = [high, low] := by
  rw [isHigh_iff] at first
  rw [isLow_iff] at second
  have valid : (0x10000 + (high.toNat - 0xD800) * 0x400 + (low.toNat - 0xDC00)).isValidChar := by
    unfold Nat.isValidChar
    omega
  have large : ¬ 0x10000 + (high.toNat - 0xD800) * 0x400 + (low.toNat - 0xDC00) < 0x10000 := by
    omega
  have isHighUnit : 0xD800 + (0x10000 + (high.toNat - 0xD800) * 0x400 + (low.toNat - 0xDC00)
      - 0x10000) / 0x400 = high.toNat := by
    omega
  have isLowUnit : 0xDC00 + (0x10000 + (high.toNat - 0xD800) * 0x400 + (low.toNat - 0xDC00)
      - 0x10000) % 0x400 = low.toNat := by
    omega
  rw [ofPair, ofChar, toNat_ofNat_of_valid valid, if_neg large]
  simp only [isHighUnit, isLowUnit]
  simp

/-- Characters that are read from some units have exactly these units. -/
theorem flatMap_ofChar_of_chars? {units : List UInt16} {chars : List Char}
    (read : chars? units = some chars) : chars.flatMap ofChar = units := by
  fun_induction chars? units generalizing chars with
  | case1 =>
      cases read
      rfl
  | case2 unit high => cases read
  | case3 unit high low rest second ih =>
      obtain ⟨later, isLater, rfl⟩ := Option.map_eq_some_iff.mp read
      rw [List.flatMap_cons, ofChar_ofPair high second, ih isLater]
      rfl
  | case4 unit high low rest notLow => cases read
  | case5 unit rest notHigh low => cases read
  | case6 unit rest notHigh notLow ih =>
      obtain ⟨later, isLater, rfl⟩ := Option.map_eq_some_iff.mp read
      rw [List.flatMap_cons, ofChar_ofNat (by simpa using notHigh) (by simpa using notLow),
        ih isLater]
      rfl

/-- A text is read only from its own units. -/
theorem encode_of_decode {units : List UInt16} {text : String}
    (read : decode units = some text) : encode text = units := by
  obtain ⟨chars, isChars, rfl⟩ := Option.map_eq_some_iff.mp read
  rw [encode, String.toList_ofList, flatMap_ofChar_of_chars? isChars]

/-- At this place stands a surrogate outside a pair: a high one with no low one behind it, or
a low one with no high one before it. -/
inductive IsStray (units : List UInt16) (place : Nat) : Prop where
  | high {unit : UInt16} (isUnit : units[place]? = some unit) (isHigh : isHigh unit = true)
      (unpaired : ∀ next, units[place + 1]? = some next → isLow next = false)
  | low {unit : UInt16} (isUnit : units[place]? = some unit) (isLow : isLow unit = true)
      (unpaired : ∀ earlier before, earlier + 1 = place → units[earlier]? = some before →
        isHigh before = false)

/-- Behind its first unit a sequence has the stray places of the rest, if this unit does not
pair with the next. -/
theorem isStray_cons_succ_iff {unit : UInt16} {rest : List UInt16} {place : Nat}
    (notPaired : place = 0 → isHigh unit = false) :
    IsStray (unit :: rest) (place + 1) ↔ IsStray rest place := by
  constructor
  · intro stray
    cases stray with
    | high isUnit high unpaired => exact .high isUnit high unpaired
    | low isUnit low unpaired =>
        refine .low isUnit low fun earlier before next isBefore => ?_
        exact unpaired (earlier + 1) before (by omega) isBefore
  · intro stray
    cases stray with
    | high isUnit high unpaired => exact .high isUnit high unpaired
    | low isUnit low unpaired =>
        refine .low isUnit low fun earlier before next isBefore => ?_
        cases earlier with
        | zero =>
            cases isBefore
            exact notPaired (by omega)
        | succ earlier => exact unpaired earlier before (by omega) isBefore

/-- A unit outside the surrogates has no part in stray places. -/
theorem exists_isStray_cons_iff {unit : UInt16} {rest : List UInt16}
    (notHigh : isHigh unit = false) (notLow : isLow unit = false) :
    (∃ place, IsStray (unit :: rest) place) ↔ ∃ place, IsStray rest place := by
  constructor
  · rintro ⟨place, stray⟩
    cases place with
    | zero =>
        cases stray with
        | high isUnit high =>
            cases isUnit
            simp [notHigh] at high
        | low isUnit low =>
            cases isUnit
            simp [notLow] at low
    | succ place => exact ⟨place, (isStray_cons_succ_iff fun _ => notHigh).mp stray⟩
  · rintro ⟨place, stray⟩
    exact ⟨place + 1, (isStray_cons_succ_iff fun _ => notHigh).mpr stray⟩

/-- A pair has no part in stray places. -/
theorem exists_isStray_pair_iff {high low : UInt16} {rest : List UInt16}
    (first : isHigh high = true) (second : isLow low = true) :
    (∃ place, IsStray (high :: low :: rest) place) ↔ ∃ place, IsStray rest place := by
  have notLow := isLow_eq_false_of_isHigh first
  have notHigh : isHigh low = false := by
    rw [Bool.eq_false_iff]
    intro isHigh
    simp [isLow_eq_false_of_isHigh isHigh] at second
  have behind : ∀ place, IsStray (high :: low :: rest) (place + 2) ↔ IsStray rest place := by
    intro place
    rw [isStray_cons_succ_iff (by omega), isStray_cons_succ_iff fun _ => notHigh]
  constructor
  · rintro ⟨place, stray⟩
    match place, stray with
    | 0, .high isUnit _ unpaired =>
        cases isUnit
        simp [unpaired low rfl] at second
    | 0, .low isUnit low _ =>
        cases isUnit
        simp [notLow] at low
    | 1, .high isUnit high _ =>
        cases isUnit
        simp [notHigh] at high
    | 1, .low isUnit _ unpaired =>
        simp [unpaired 0 high rfl rfl] at first
    | place + 2, stray => exact ⟨place, (behind place).mp stray⟩
  · rintro ⟨place, stray⟩
    exact ⟨place + 2, (behind place).mpr stray⟩

/-- Exactly the sequences with a stray surrogate stand for no characters. -/
theorem chars?_eq_none_iff {units : List UInt16} :
    chars? units = none ↔ ∃ place, IsStray units place := by
  fun_induction chars? units with
  | case1 =>
      simp only [reduceCtorEq, false_iff, not_exists]
      rintro place (⟨⟨⟩⟩ | ⟨⟨⟩⟩)
  | case2 unit high =>
      simp only [true_iff]
      exact ⟨0, .high rfl high fun next isNext => by cases isNext⟩
  | case3 unit high low rest second ih =>
      rw [Option.map_eq_none_iff, ih, exists_isStray_pair_iff high second]
  | case4 unit high low rest notLow =>
      simp only [true_iff]
      refine ⟨0, .high rfl high fun next isNext => ?_⟩
      cases isNext
      simpa using notLow
  | case5 unit rest notHigh low =>
      simp only [true_iff]
      exact ⟨0, .low rfl low fun earlier before next => by omega⟩
  | case6 unit rest notHigh notLow ih =>
      rw [Option.map_eq_none_iff, ih,
        exists_isStray_cons_iff (by simpa using notHigh) (by simpa using notLow)]

/-- Exactly the sequences with a stray surrogate stand for no text. -/
theorem decode_eq_none_iff {units : List UInt16} :
    decode units = none ↔ ∃ place, IsStray units place := by
  rw [decode, Option.map_eq_none_iff, chars?_eq_none_iff]

end NativeBridge.Text.Utf16
