import NativeBridge.Source.Parser

/-!
# The order of generic arguments

Generic arguments may be read in any order, but lifetimes are written before all
others. Invocations and attributes inside a type are written as they stand.
-/

namespace NativeBridge.Source

/-- The trees of a generic argument with the comma after it, if there is one. -/
abbrev GenericArgument := List Tree

namespace GenericArgument

/-- A lifetime alone. -/
def isLifetime (argument : GenericArgument) : Bool :=
  Look.lifetime argument
    && ((Look.next argument).isEmpty || Look.punct "," (Look.next argument))

/-- A comma stands after the argument. -/
def isSeparated (argument : GenericArgument) : Bool :=
  match argument.getLast? with
  | some (.punct ',' _ _) => true
  | _ => false

/-- The trees of some arguments, the lifetimes first. A lifetime that was last gets
the comma that it needs before another argument. -/
def ordered (arguments : List GenericArgument) : List Tree :=
  let (lifetimes, others) := arguments.partition isLifetime
  let comma : List Tree :=
    if others.isEmpty || lifetimes.getLast?.all isSeparated then []
    else [.punct ',' false .origin]
  lifetimes.flatten ++ comma ++ others.flatten

end GenericArgument

/-- A list of generic arguments whose end has not been read: the trees up to its opening
bracket and the arguments before the current one, both backwards. -/
structure OpenArguments where
  before : List Tree
  arguments : List GenericArgument
  deriving Repr, Inhabited

/-- The trees after the last separator, backwards, inside the lists that are open, the
innermost first. -/
structure Reordering where
  current : List Tree
  outer : List OpenArguments
  deriving Repr, Inhabited

namespace Reordering

/-- Nothing has been read. -/
def start : Reordering :=
  ⟨[], []⟩

/-- A group that comes next belongs to an invocation or an attribute. -/
def isVerbatim (state : Reordering) : Bool :=
  Look.punct "!" state.current || Look.punct "#" state.current

/-- Reads a tree. The bracket of an arrow closes nothing. -/
def step (state : Reordering) (tree : Tree) : Reordering :=
  let current := tree :: state.current
  match tree, state.outer with
  | .punct '<' _ _, outer => ⟨[], ⟨current, []⟩ :: outer⟩
  | .punct ',' _ _, inside :: outer =>
      ⟨[], { inside with arguments := current.reverse :: inside.arguments } :: outer⟩
  | .punct '>' _ _, inside :: outer =>
      if Look.punct "-" state.current then ⟨current, state.outer⟩
      else
        let last := if state.current.isEmpty then [] else [state.current.reverse]
        let arguments := GenericArgument.ordered (inside.arguments.reverse ++ last)
        ⟨tree :: (arguments.reverse ++ inside.before), outer⟩
  | _, outer => ⟨current, outer⟩

/-- All trees at the end. A bracket that was never closed opened no list. -/
def finish (state : Reordering) : List Tree :=
  state.outer.foldl (fun inner inside =>
    inside.before.reverse ++ inside.arguments.reverse.flatten ++ inner) state.current.reverse

end Reordering

namespace Tree

mutual

/-- A tree whose lists of generic arguments are in order. -/
def ordered : Tree → Tree
  | group delimiter inner opening closing =>
      group delimiter (orderedFrom .start inner) opening closing
  | name text region => name text region
  | punct c joint region => punct c joint region
  | literal value text region => literal value text region

/-- Trees with their lists of generic arguments in order, after those already read. -/
def orderedFrom (state : Reordering) : List Tree → List Tree
  | [] => state.finish
  | tree :: rest =>
      orderedFrom (state.step (if state.isVerbatim then tree else tree.ordered)) rest

end

/-- The written parts of some trees that hold types. -/
def typeParts (trees : List Tree) : List String :=
  partsAll (orderedFrom .start trees)

end Tree

end NativeBridge.Source
