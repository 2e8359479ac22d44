/-!
# Arithmetic of the engine
-/

namespace NativeBridge.Engine

/-- The sum of two words, which wraps. -/
def add (a b : Int32) : Int32 :=
  a + b

/-- The point between two values at a fraction of the way. -/
def lerp (start stop t : Float32) : Float32 :=
  start + (stop - start) * t

/-- The sum of the first values; nothing is summed without values or for a count that
is not positive. -/
def sum (values : Option (List Int32)) (count : Int32) : Int64 :=
  match values with
  | none => 0
  | some values =>
      (values.take count.toInt.toNat).foldl (fun total value => total + value.toInt64) 0

end NativeBridge.Engine
