import NativeBridge.Location

/-!
# Regions of source text

Positions count lines and characters from one. A region runs from the position
of its first character to the position after its last.
-/

namespace NativeBridge.Source

/-- A line and a column. -/
structure Position where
  line : Nat
  column : Nat
  deriving DecidableEq, Repr, Inhabited

namespace Position

/-- The first position of every text. -/
def first : Position :=
  ⟨1, 1⟩

/-- The position after one character. -/
def after (position : Position) (c : Char) : Position :=
  if c = '\n' then ⟨position.line + 1, 1⟩ else ⟨position.line, position.column + 1⟩

/-- The position after some characters. -/
def afterAll (position : Position) (chars : List Char) : Position :=
  chars.foldl after position

end Position

/-- The characters between two positions. -/
structure Region where
  start : Position
  stop : Position
  deriving DecidableEq, Repr, Inhabited

namespace Region

/-- The empty region at the first position, where an end outside every group is reported. -/
def origin : Region :=
  ⟨.first, .first⟩

/-- From the start of one region to the end of another. -/
def through (region last : Region) : Region :=
  ⟨region.start, last.stop⟩

/-- The number of columns that a region covers; zero if it spans several lines. -/
def columns (region : Region) : Nat :=
  if region.stop.line = region.start.line then region.stop.column - region.start.column else 0

/-- The location of a region in a file. -/
def location (region : Region) (file : String) : Location :=
  ⟨file, ⟨region.start.line, region.start.column, region.columns⟩⟩

end Region

end NativeBridge.Source
