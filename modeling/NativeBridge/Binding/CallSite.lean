import NativeBridge.Binding.Basic

/-!
# Call sites

A call site knows the function it calls and keeps it once it is bound. A failure
is not kept, so the next call tries again.
-/

namespace NativeBridge.Binding

/-- A function to call, and its address once it is known. -/
structure CallSite where
  name : ExportName
  size : Nat
  bound? : Option Bound
  deriving DecidableEq, Repr, Inhabited

namespace CallSite

/-- The call site of a function that nothing was called through yet. -/
def fresh (name : ExportName) (size : Nat) : CallSite :=
  ⟨name, size, none⟩

/-- The function is bound. -/
def isResolved (site : CallSite) : Bool :=
  site.bound?.isSome

variable {m : Type → Type} [Monad m] (resolve : ExportName → Nat → m (Except Fault Bound))

/-- The bound function, resolved when it is not known yet. -/
def get (site : CallSite) : m (Except Fault Bound × CallSite) :=
  match site.bound? with
  | some bound => pure (.ok bound, site)
  | none => do
      match ← resolve site.name site.size with
      | .ok bound => return (.ok bound, { site with bound? := some bound })
      | .error fault => return (.error fault, site)

/-- Binds call sites in order, up to the first that fails. -/
def getAll : List CallSite → m (Option Fault × List CallSite)
  | [] => pure (none, [])
  | site :: rest => do
      match ← get resolve site with
      | (.error fault, site) => return (some fault, site :: rest)
      | (.ok _, site) =>
          let (fault, rest) ← getAll rest
          return (fault, site :: rest)

end CallSite

end NativeBridge.Binding
