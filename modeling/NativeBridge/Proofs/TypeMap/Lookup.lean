import NativeBridge.Proofs.Path
import NativeBridge.TypeMap.Basic

/-!
# Looking up registered types

A type map looks at the last segment of a path only, and what it finds it finds
again under the name of the type.
-/

namespace NativeBridge.TypeMap

variable {types : TypeMap} {path : String} {type : Blittable}

/-- A path and its last segment find the same registered type. -/
theorem get?_lastSegment (types : TypeMap) (path : String) :
    types.get? (Path.lastSegment path) = types.get? path := by
  rw [get?, get?, Path.lastSegment_lastSegment]

/-- A registered type is named like the last segment of every path that finds it. -/
theorem managed_of_get? (found : types.get? path = some type) :
    type.managed = Path.lastSegment path := by
  simpa using List.find?_some found

/-- What a path finds is registered. -/
theorem mem_types_of_get? (found : types.get? path = some type) : type ∈ types.types :=
  List.mem_of_find?_eq_some found

/-- What a path finds is found under its own name. -/
theorem get?_managed (found : types.get? path = some type) :
    types.get? type.managed = some type := by
  rw [managed_of_get? found, get?_lastSegment, found]

/-- What a path finds has the layout that the path has. -/
theorem layoutOf?_managed (found : types.get? path = some type) :
    types.layoutOf? type.managed = types.layoutOf? path := by
  rw [layoutOf?, layoutOf?, get?_managed found, found]

end NativeBridge.TypeMap
