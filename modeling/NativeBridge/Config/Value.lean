import NativeBridge.Text.Digit

/-!
# Values in configuration files

A configuration file is written in TOML. Its settings are texts, whole numbers
and truth values; TOML has other values too, but no setting can have them, so
that reading stops at one as at any fault.
-/

namespace NativeBridge

open Text

/-- The value of a setting. -/
inductive ConfigValue where
  | text (value : String)
  | number (value : Int)
  | truth (value : Bool)
  deriving DecidableEq, Repr, Inhabited

namespace ConfigValue

/-- A blank that does not end a line. -/
def isBlank (c : Char) : Bool :=
  c == ' ' || c == '\t'

/-- The rest after the end of a line, if one follows. -/
def afterNewline? : List Char → Option (List Char)
  | '\n' :: rest => some rest
  | '\r' :: '\n' :: rest => some rest
  | _ => none

/-- A printable character or a tab. -/
def isPlain (c : Char) : Bool :=
  c == '\t' || (' ' ≤ c && c != '\x7f')

/-- A code point written with a number of hexadecimal digits. -/
def codePoint (digits : Nat) (chars : List Char) : Option (Char × List Char) := do
  let written := chars.take digits
  if written.length < digits then none
  let c ← charOf? (← digitsValue? 16 written)
  return (c, chars.drop digits)

/-- The character that an escape stands for, after its backslash. -/
def escape : List Char → Option (Char × List Char)
  | 'b' :: rest => some ('\x08', rest)
  | 't' :: rest => some ('\t', rest)
  | 'n' :: rest => some ('\n', rest)
  | 'f' :: rest => some ('\x0c', rest)
  | 'r' :: rest => some ('\r', rest)
  | '"' :: rest => some ('"', rest)
  | '\\' :: rest => some ('\\', rest)
  | 'u' :: rest => codePoint 4 rest
  | 'U' :: rest => codePoint 8 rest
  | _ => none

/-- A text on one line up to its closing quote. The fuel is at least the length of the input. -/
def quoted : Nat → List Char → Option (List Char × List Char)
  | 0, _ => none
  | _ + 1, [] => none
  | _ + 1, '"' :: rest => some ([], rest)
  | fuel + 1, '\\' :: rest => do
      let (c, rest) ← escape rest
      let (read, rest) ← quoted fuel rest
      return (c :: read, rest)
  | fuel + 1, c :: rest => do
      if !isPlain c then none
      let (read, rest) ← quoted fuel rest
      return (c :: read, rest)

/-- A text on one line without escapes, up to its closing quote. -/
def verbatim : List Char → Option (List Char × List Char)
  | [] => none
  | '\'' :: rest => some ([], rest)
  | c :: rest => do
      if !isPlain c then none
      let (read, rest) ← verbatim rest
      return (c :: read, rest)

/-- What quotes inside a text over several lines mean: three end it, after up to
two that belong to it; fewer belong to it. -/
def quotes (quote : Char) (chars : List Char) : List Char × Bool × List Char :=
  let count := (chars.takeWhile (· == quote)).length
  if count < 3 then (List.replicate count quote, false, chars.drop count)
  else
    let kept := min (count - 3) 2
    (List.replicate kept quote, true, chars.drop (kept + 3))

/-- The rest after all blanks and ends of lines. -/
def skipLines : Nat → List Char → List Char
  | 0, chars => chars
  | fuel + 1, chars =>
      let chars := chars.dropWhile isBlank
      match afterNewline? chars with
      | some rest => skipLines fuel rest
      | none => chars

/-- A text over several lines up to its closing quotes. With escapes, a backslash
at the end of a line leaves out all blanks up to the next text. -/
def lines (quote : Char) (hasEscapes : Bool) : Nat → List Char → Option (List Char × List Char)
  | 0, _ => none
  | _ + 1, [] => none
  | fuel + 1, c :: rest => do
      if c = quote then
        let (kept, isEnd, rest) := quotes quote (c :: rest)
        if isEnd then return (kept, rest)
        let (read, rest) ← lines quote hasEscapes fuel rest
        return (kept ++ read, rest)
      else if c = '\\' && hasEscapes then
        match afterNewline? (rest.dropWhile isBlank) with
        | some rest => lines quote hasEscapes fuel (skipLines fuel rest)
        | none =>
            let (c, rest) ← escape rest
            let (read, rest) ← lines quote hasEscapes fuel rest
            return (c :: read, rest)
      else match afterNewline? (c :: rest) with
        | some rest =>
            let (read, rest) ← lines quote hasEscapes fuel rest
            return ('\n' :: read, rest)
        | none =>
            if !isPlain c then none
            let (read, rest) ← lines quote hasEscapes fuel rest
            return (c :: read, rest)

/-- A text over several lines after its opening quotes; an end of line directly
after them does not belong to it. -/
def block (quote : Char) (hasEscapes : Bool) (chars : List Char) :
    Option (List Char × List Char) :=
  lines quote hasEscapes (chars.length + 1) ((afterNewline? chars).getD chars)

/-- Digits of a base with single underscores between them: their value and the rest. -/
def digits (base value : Nat) : List Char → Option (Nat × List Char)
  | [] => some (value, [])
  | '_' :: c :: rest => do
      let digit ← digit? base c
      digits base (base * value + digit) rest
  | '_' :: [] => none
  | c :: rest =>
      match digit? base c with
      | some digit => digits base (base * value + digit) rest
      | none => some (value, c :: rest)

/-- A whole number in a base with at least one digit. -/
def natural (base : Nat) : List Char → Option (Nat × List Char)
  | c :: rest => do
      let digit ← digit? base c
      digits base digit rest
  | [] => none

/-- A decimal number; only zero begins with a zero. -/
def decimal : List Char → Option (Nat × List Char)
  | '0' :: rest => some (0, rest)
  | chars => natural 10 chars

/-- Numbers that a setting can have. -/
def inRange (value : Int) : Bool :=
  -0x8000000000000000 ≤ value && value < 0x8000000000000000

/-- A whole number. -/
def integer (chars : List Char) : Option (Int × List Char) := do
  let (value, rest) ← match chars with
    | '0' :: 'x' :: rest => (fun (n, rest) => (Int.ofNat n, rest)) <$> natural 16 rest
    | '0' :: 'o' :: rest => (fun (n, rest) => (Int.ofNat n, rest)) <$> natural 8 rest
    | '0' :: 'b' :: rest => (fun (n, rest) => (Int.ofNat n, rest)) <$> natural 2 rest
    | '+' :: rest => (fun (n, rest) => (Int.ofNat n, rest)) <$> decimal rest
    | '-' :: rest => (fun (n, rest) => (-Int.ofNat n, rest)) <$> decimal rest
    | rest => (fun (n, rest) => (Int.ofNat n, rest)) <$> decimal rest
  if inRange value then some (value, rest) else none

/-- Some characters as a text. -/
def ofChars (result : Option (List Char × List Char)) : Option (ConfigValue × List Char) :=
  result.map fun (chars, rest) => (text (String.ofList chars), rest)

/-- Reads a value. -/
def read (chars : List Char) : Option (ConfigValue × List Char) :=
  match chars with
  | '"' :: '"' :: '"' :: rest => ofChars (block '"' true rest)
  | '"' :: rest => ofChars (quoted (rest.length + 1) rest)
  | '\'' :: '\'' :: '\'' :: rest => ofChars (block '\'' false rest)
  | '\'' :: rest => ofChars (verbatim rest)
  | 't' :: 'r' :: 'u' :: 'e' :: rest => some (truth true, rest)
  | 'f' :: 'a' :: 'l' :: 's' :: 'e' :: rest => some (truth false, rest)
  | _ => (integer chars).map fun (value, rest) => (number value, rest)

end ConfigValue

end NativeBridge
