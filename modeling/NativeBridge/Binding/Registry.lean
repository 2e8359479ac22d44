import NativeBridge.Host.Request

/-!
# Registries

A registry takes its host once and then asks it for functions. How a host is
asked is a parameter, because an answer may depend on a state of the process.
-/

namespace NativeBridge.Binding

open NativeBridge.Host

/-- The host that functions are asked from, once it is known. -/
structure Registry (host : Type) where
  host? : Option host
  deriving Inhabited

namespace Registry

variable {host : Type}

/-- The registry without a host. -/
def fresh : Registry host :=
  ⟨none⟩

/-- The registry has a host. -/
def isInitialized (registry : Registry host) : Bool :=
  registry.host?.isSome

/-- The registry with its host; a second one is refused. -/
def accept (registry : Registry host) (given : host) : Except Fault (Registry host) :=
  match registry.host? with
  | none => .ok ⟨some given⟩
  | some _ => .error .alreadyInitialized

/-- Asks the host for a function with a block of some size. -/
def resolve {m : Type → Type} [Monad m] (ask : host → Request → m (Option Address))
    (registry : Registry host) (name : ExportName) (size : Nat) : m (Except Fault Bound) :=
  match registry.host? with
  | none => pure (.error (.notInitialized name))
  | some given =>
      if wordLimit < size then pure (.error (.blockTooLarge name size))
      else
        match Request.ofName? name (Int32.ofNat size) with
        | none => pure (.error (.notFound name size))
        | some request => do
            match ← ask given request with
            | some address => return .ok ⟨address, name, size⟩
            | none => return .error (.notFound name size)

end Registry

end NativeBridge.Binding
