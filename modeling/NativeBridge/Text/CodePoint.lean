/-!
# Sets of code points

Properties of characters are given as sorted lists of intervals, of runs with a
step, or of runs that map onto another run.
-/

namespace NativeBridge.Text

/-- All code points from the first to the second, both included. -/
abbrev Interval := Nat × Nat

/-- The code points `first`, `first + step` and so on up to `last`. -/
abbrev Run := Nat × Nat × Nat

/-- A run together with the image of its first code point; the images keep the distances. -/
abbrev CaseRun := Nat × Nat × Nat × Nat

/-- Some interval of the list holds the code point. -/
def Interval.anyContains (intervals : List Interval) (code : Nat) : Bool :=
  intervals.any fun (first, last) => first ≤ code && code ≤ last

/-- Some run of the list holds the code point. -/
def Run.anyContains (runs : List Run) (code : Nat) : Bool :=
  runs.any fun (first, last, step) =>
    first ≤ code && code ≤ last && (code - first) % step == 0

/-- The image of a character under the first run that holds it, else the character. -/
def CaseRun.image : List CaseRun → Char → Char
  | [], c => c
  | (first, last, step, target) :: rest, c =>
      if first ≤ c.toNat && c.toNat ≤ last && (c.toNat - first) % step == 0 then
        Char.ofNat (target + (c.toNat - first))
      else
        CaseRun.image rest c

end NativeBridge.Text
