/-!
# Digits
-/

namespace NativeBridge.Text

/-- The value of a hexadecimal digit. -/
def hexDigit? (c : Char) : Option Nat :=
  if c.isDigit then some (c.toNat - '0'.toNat)
  else if 'a' ≤ c && c ≤ 'f' then some (c.toNat - 'a'.toNat + 10)
  else if 'A' ≤ c && c ≤ 'F' then some (c.toNat - 'A'.toNat + 10)
  else none

/-- The value of a digit in a base. -/
def digit? (base : Nat) (c : Char) : Option Nat := do
  let value ← hexDigit? c
  if value < base then some value else none

/-- The value of digits in a base. -/
def digitsValue? (base : Nat) (chars : List Char) : Option Nat :=
  chars.foldlM (fun value c => (base * value + ·) <$> digit? base c) 0

/-- The character with a code point, if there is one. -/
def charOf? (codePoint : Nat) : Option Char :=
  if codePoint.isValidChar then some (Char.ofNat codePoint) else none

end NativeBridge.Text
