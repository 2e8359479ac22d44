import NativeBridge.Text.Alphanumeric
import NativeBridge.Text.Casing
import NativeBridge.Text.Letter

/-!
# Case conversion of declared names

Exported functions carry pascal-case names, files and native functions carry
snake-case names, and block constants are written in upper case.
-/

namespace NativeBridge.Naming

open NativeBridge.Text

/-- An upper-case character begins a word after a lower-case letter or an ASCII
digit, and after an upper-case letter when a lower-case one follows. -/
def startsWord (previous next : Option Char) : Bool :=
  match previous with
  | none => false
  | some p =>
      if isLowercase p || p.isDigit then true
      else isUppercase p && next.any isLowercase

/-- The reversed output with one more underscore, unless it ends in one. -/
def separate (written : List Char) : List Char :=
  if written.head? == some '_' then written else '_' :: written

/-- The reversed output after one character between its neighbours. -/
def snakeStep (previous next : Option Char) (c : Char) (written : List Char) : List Char :=
  if isUppercase c then
    (lower c).reverse ++ (if startsWord previous next then separate written else written)
  else if isAlphanumeric c then c :: written
  else if written.isEmpty then written
  else separate written

/-- Snake case of the remaining characters, given the character before them and
the output so far, last character first. -/
def snakeFrom (previous : Option Char) (written : List Char) : List Char → List Char
  | [] => written
  | c :: rest => snakeFrom (some c) (snakeStep previous rest.head? c written) rest

/-- Lower-case words joined by single underscores. -/
def snakeCase (name : String) : String :=
  String.ofList (snakeFrom none [] name.toList).reverse

/-- Pascal case of the remaining characters; `atStart` tells whether the next
one begins a part. -/
def pascalFrom (atStart : Bool) : List Char → List Char
  | [] => []
  | c :: rest =>
      if c = '_' then pascalFrom true rest
      else (if atStart then upper c else [c]) ++ pascalFrom false rest

/-- The parts between underscores, each with its first character in upper case. -/
def pascalCase (name : String) : String :=
  String.ofList (pascalFrom true name.toList)

end NativeBridge.Naming
