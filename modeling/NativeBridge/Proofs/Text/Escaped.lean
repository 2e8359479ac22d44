import NativeBridge.Source.Literal
import NativeBridge.Text.Escaped

/-!
# Escaped texts are read back

A text is written as a literal with escapes, and a literal is read through the states of a
quoted text, one character after the other. `Spells` says where some characters lead from a
state and what they stand for. The written form of a character leads from the place between
two characters to the next such place and stands for the character (`spells_escapeChar`), so
the literal that a text is written as has the text as its value: `isLiteralOf_quoted`.
-/

namespace NativeBridge.Source.Literal

open Text

/-- Some characters lead from one state of a quoted text to another and stand for others. -/
inductive Spells (rules : QuoteRules) :
    QuoteState → List Char → List Char → QuoteState → Prop where
  | nil (state : QuoteState) : Spells rules state [] [] state
  | cons {state next last : QuoteState} {c : Char} {emitted written value : List Char}
      (step : quoteStep rules state c = .next next emitted)
      (rest : Spells rules next written value last) :
      Spells rules state (c :: written) (emitted ++ value) last

namespace Spells

variable {rules : QuoteRules} {state between last : QuoteState}
  {first firstValue second secondValue : List Char}

/-- Characters in a row stand for what they stand for in a row. -/
theorem append (isFirst : Spells rules state first firstValue between)
    (isSecond : Spells rules between second secondValue last) :
    Spells rules state (first ++ second) (firstValue ++ secondValue) last := by
  induction isFirst with
  | nil state => exact isSecond
  | cons step _ ih =>
      rw [List.cons_append, List.append_assoc]
      exact .cons step (ih isSecond)

/-- A quoted text is read on from where its first characters lead. -/
theorem quotedFrom (spells : Spells rules state first firstValue last) (rest : List Char) :
    quotedFrom rules state (first ++ rest)
      = (Literal.quotedFrom rules last rest).map fun ((read, rest), value) =>
        ((first ++ read, rest), firstValue ++ value) := by
  induction spells with
  | nil state => simp
  | cons step _ ih =>
      simp [Literal.quotedFrom, step, ih, Function.comp_def]

/-- A character that stands for nothing yet. -/
theorem silent {next : QuoteState} {c : Char} {written value : List Char}
    (step : quoteStep rules state c = .next next [])
    (rest : Spells rules next written value last) : Spells rules state (c :: written) value last :=
  .cons step rest

/-- A character after which another one stands for itself or for what is written. -/
theorem single {c value : Char} (step : quoteStep rules state c = .next last [value]) :
    Spells rules state [c] [value] last :=
  .cons step (.nil last)

end Spells

/-- The digits up to sixteen are read as their values. -/
theorem hexDigit?_digitChar {digit : Nat} (small : digit < 16) :
    hexDigit? digit.digitChar = some digit := by
  revert digit
  decide

/-- A digit of a code point that has at most five so far continues its value. -/
theorem pointStep_digitChar (rules : QuoteRules) {digits digit : Nat} (value : Nat)
    (room : digits < 6) (small : digit < 16) :
    pointStep rules digits value digit.digitChar
      = .next (.point (digits + 1) (value * 16 + digit)) [] := by
  have notFull : digits ≠ 6 := Nat.ne_of_lt room
  simp [pointStep, hexDigit?_digitChar small, notFull]

/-- The digits of a code point lead to its value. -/
theorem spells_toDigits (rules : QuoteRules) {code : Nat}
    (short : (Nat.toDigits 16 code).length ≤ 6) :
    Spells rules (.point 0 0) (Nat.toDigits 16 code) []
      (.point (Nat.toDigits 16 code).length code) := by
  induction code using Nat.strongRecOn with
  | ind code ih =>
      rcases Nat.lt_or_ge code 16 with small | large
      · rw [Nat.toDigits_of_lt_base small]
        have step := pointStep_digitChar rules 0 (by decide : 0 < 6) small
        rw [Nat.zero_mul, Nat.zero_add code] at step
        exact .silent step (.nil _)
      · rw [Nat.toDigits_of_base_le (by decide) large, List.length_append,
          List.length_singleton] at short ⊢
        have before := ih (code / 16) (by omega) (by omega)
        have step := pointStep_digitChar rules (code / 16) short
          (Nat.mod_lt code (by decide : 0 < 16))
        rw [Nat.div_add_mod' code 16] at step
        exact before.append (.silent step (.nil _))

/-- A code point has at most six digits. -/
theorem length_toDigits_le (c : Char) : (Nat.toDigits 16 c.toNat).length ≤ 6 := by
  have bound : c.toNat < 0x110000 := by
    rcases c.valid with low | ⟨-, high⟩
    · exact Nat.lt_trans low (by decide)
    · exact high
  rw [Nat.length_toDigits_le_iff (by decide) (by decide)]
  omega

/-- A code point in braces stands for its character. -/
theorem spells_point (c : Char) :
    Spells stringRules .pointOpen ('\x7b' :: Nat.toDigits 16 c.toNat ++ ['\x7d']) [c] .plain := by
  have notEmpty : (Nat.toDigits 16 c.toNat).length ≠ 0 :=
    Nat.ne_of_gt Nat.length_toDigits_pos
  have valid : c.toNat.isValidChar := c.valid
  have noDigit : hexDigit? '\x7d' = none := by decide
  have closes : pointStep stringRules (Nat.toDigits 16 c.toNat).length c.toNat '\x7d'
      = .next .plain [c] := by
    simp [pointStep, noDigit, notEmpty, valid, stringRules]
  exact .silent rfl ((spells_toDigits stringRules (length_toDigits_le c)).append (.single closes))

/-- The written form of a character stands for it. -/
theorem spells_escapeChar (c : Char) (next : Option Char) :
    Spells stringRules .plain (escapeChar c next) [c] .plain := by
  unfold escapeChar
  split
  · split
    · exact .silent rfl (.silent rfl (.silent rfl (.single rfl)))
    · exact .silent rfl (.single rfl)
  · exact .silent rfl (.single rfl)
  · exact .silent rfl (.single rfl)
  · exact .silent rfl (.single rfl)
  · exact .silent rfl (.single rfl)
  · exact .silent rfl (.single rfl)
  · rename_i carriage _ quote escape
    split
    · exact .silent rfl (.silent rfl (spells_point c))
    · have plain : plainStep stringRules c = .next .plain [c] := by
        simp only [plainStep, if_neg quote, if_neg carriage, if_neg escape]
        rfl
      exact .single plain

/-- The written forms of some characters stand for them. -/
theorem spells_escapeChars (chars : List Char) :
    Spells stringRules .plain (escapeChars chars) chars .plain := by
  induction chars with
  | nil => exact .nil _
  | cons c rest ih => exact (spells_escapeChar c rest.head?).append ih

/-- A text is a string literal, all of it, with this value. -/
def IsLiteralOf (literal value : String) : Prop :=
  scan? literal.toList = some (.string value, literal.toList, [])

/-- The literal that a text is written as has that text as its value. -/
theorem isLiteralOf_quoted (text : String) : IsLiteralOf (quoted text) text := by
  have closed : quotedFrom stringRules .plain ['"'] = some ((['"'], []), []) := rfl
  simp [IsLiteralOf, quoted, scan?, string?, (spells_escapeChars text.toList).quotedFrom, closed,
    extend, withSuffix, word]

/-- A literal has one value. -/
theorem IsLiteralOf.unique {literal value other : String} (first : IsLiteralOf literal value)
    (second : IsLiteralOf literal other) : value = other := by
  unfold IsLiteralOf at first second
  simpa [first] using second

end NativeBridge.Source.Literal
