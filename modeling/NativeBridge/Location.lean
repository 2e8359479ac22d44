/-!
# Places in declaration files

Lines and columns count from one; columns count characters.
-/

namespace NativeBridge

/-- A place on one line and the number of columns that it covers. -/
structure Span where
  line : Nat
  column : Nat
  length : Nat
  deriving DecidableEq, Repr, Inhabited

namespace Span

/-- A span that covers no column. -/
def isEmpty (span : Span) : Bool :=
  span.length == 0

/-- Line and column joined by a colon. -/
def text (span : Span) : String :=
  toString span.line ++ ":" ++ toString span.column

end Span

/-- A span in a named file; declarations without a file have the empty name. -/
structure Location where
  file : String
  span : Span
  deriving DecidableEq, Repr, Inhabited

namespace Location

/-- The location of declarations that were not read from a file. -/
def synthetic : Location :=
  ⟨"", ⟨0, 0, 0⟩⟩

/-- File, line and column joined by colons. -/
def text (location : Location) : String :=
  (if location.file.isEmpty then "<generated>" else location.file) ++ ":" ++ location.span.text

end Location

end NativeBridge
