import NativeBridge.Text.CodePoint

/-!
# White space

Blank characters separate words; the two direction marks count as blank too.
-/

namespace NativeBridge.Text

/-- White space outside ASCII. -/
def blankIntervals : List Interval :=
  [(0x85, 0x85), (0xA0, 0xA0), (0x1680, 0x1680), (0x2000, 0x200A), (0x200E, 0x200F),
    (0x2028, 0x2029), (0x202F, 0x202F), (0x205F, 0x205F), (0x3000, 0x3000)]

/-- A character that separates words. -/
def isBlank (c : Char) : Bool :=
  if c.val < 0x80 then c == ' ' || (0x09 ≤ c.val && c.val ≤ 0x0D)
  else Interval.anyContains blankIntervals c.toNat

end NativeBridge.Text
