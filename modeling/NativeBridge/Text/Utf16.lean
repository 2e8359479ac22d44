import NativeBridge.Text.Digit

/-!
# Text in 16-bit units

A character below U+10000 is one unit. Any other is a pair of units, a high
surrogate and a low one. A surrogate outside such a pair stands for no character.
-/

namespace NativeBridge.Text.Utf16

/-- The units of a character. -/
def ofChar (c : Char) : List UInt16 :=
  if c.toNat < 0x10000 then [c.toNat.toUInt16]
  else
    let offset := c.toNat - 0x10000
    [(0xD800 + offset / 0x400).toUInt16, (0xDC00 + offset % 0x400).toUInt16]

/-- The units of a text. -/
def encode (text : String) : List UInt16 :=
  text.toList.flatMap ofChar

/-- The first unit of a pair. -/
def isHigh (unit : UInt16) : Bool :=
  0xD800 ≤ unit && unit ≤ 0xDBFF

/-- The second unit of a pair. -/
def isLow (unit : UInt16) : Bool :=
  0xDC00 ≤ unit && unit ≤ 0xDFFF

/-- The character of a high and a low surrogate. -/
def ofPair (high low : UInt16) : Char :=
  Char.ofNat (0x10000 + (high.toNat - 0xD800) * 0x400 + (low.toNat - 0xDC00))

/-- The characters of units; every surrogate must be in a pair. -/
def chars? : List UInt16 → Option (List Char)
  | [] => some []
  | unit :: rest =>
      if isHigh unit then
        match rest with
        | [] => none
        | low :: rest => if isLow low then (chars? rest).map (ofPair unit low :: ·) else none
      else if isLow unit then none
      else (chars? rest).map (Char.ofNat unit.toNat :: ·)

/-- The text of units; every surrogate must be in a pair. -/
def decode (units : List UInt16) : Option String :=
  (chars? units).map String.ofList

end NativeBridge.Text.Utf16
