import NativeBridge.Binding.Basic
import NativeBridge.Text.Utf16

/-!
# Requests to a host

A host is asked for a function by two texts in 16-bit units and a size. Lengths
and sizes are signed words of 32 bits, so a long name or a large block cannot be
asked for.
-/

namespace NativeBridge.Host

open NativeBridge.Binding

/-- A text that crosses to the other side: its units, if there are any, and how many
of them count. -/
structure WideText where
  units : Option (List UInt16)
  length : Int32
  deriving DecidableEq, Repr, Inhabited

/-- The largest signed word. -/
def wordLimit : Nat := 0x7fffffff

namespace WideText

/-- A text with all its units, if they can be counted. -/
def ofText? (text : String) : Option WideText :=
  let units := Text.Utf16.encode text
  if units.length ≤ wordLimit then some ⟨some units, Int32.ofNat units.length⟩ else none

/-- The text of the units that count. Without units the text is empty. -/
def text? (wide : WideText) : Option String :=
  if wide.length < 0 then none
  else
    match wide.units with
    | some units => Text.Utf16.decode (units.take wide.length.toInt.toNat)
    | none => if wide.length = 0 then some "" else none

end WideText

/-- What a host is asked for. -/
structure Request where
  module : WideText
  function : WideText
  size : Int32
  deriving DecidableEq, Repr, Inhabited

/-- The request for a function, if its names are short enough. -/
def Request.ofName? (name : ExportName) (size : Int32) : Option Request := do
  let module ← WideText.ofText? name.module
  let function ← WideText.ofText? name.function
  return ⟨module, function, size⟩

/-- The function that a request names. -/
def Request.name? (request : Request) : Option ExportName := do
  let module ← request.module.text?
  let function ← request.function.text?
  return ⟨module, function⟩

end NativeBridge.Host
