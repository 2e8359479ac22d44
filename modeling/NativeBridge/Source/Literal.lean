import NativeBridge.Text.Digit
import NativeBridge.Text.Identifier

/-!
# Literals

A literal is a quoted text, a quoted character or a number, each with an
optional suffix. Scanning a literal splits the input into the characters of the
literal and the rest, and finds the value of string literals on the way.
-/

namespace NativeBridge.Source

open NativeBridge.Text

/-- What a literal stands for. -/
inductive Literal where
  /-- A string, plain or raw, with its value. -/
  | string (value : String)
  /-- A number without point and exponent. -/
  | integer
  /-- A number with a point or an exponent. -/
  | float
  /-- A byte string, a C string, a byte or a character. -/
  | other
  deriving DecidableEq, Repr, Inhabited

namespace Literal

/-- A successful scan: the characters read and the rest. -/
abbrev Scan := List Char × List Char

/-- A number that can select a field by position: digits alone, with a value below 2 ^ 32. -/
def isIndex (text : String) : Bool :=
  let value? := match text.toList.filter (· != '_') with
    | '0' :: 'x' :: rest => digitsValue? 16 rest
    | '0' :: 'o' :: rest => digitsValue? 8 rest
    | '0' :: 'b' :: rest => digitsValue? 2 rest
    | chars => digitsValue? 10 chars
  value?.any (· < 0x100000000)

/-- The identifier at the front of the input, which may begin with a raw mark or not. -/
def word (chars : List Char) : Option Scan :=
  match chars with
  | c :: rest =>
      if isIdentifierStart c then
        some (c :: rest.takeWhile isIdentifierContinue, rest.dropWhile isIdentifierContinue)
      else none
  | [] => none

/-- A scan extended by an identifier that follows it directly. -/
def withSuffix (scan : Scan) : Scan :=
  match word scan.2 with
  | some (suffix, rest) => (scan.1 ++ suffix, rest)
  | none => scan

/-- What a kind of quoted text admits. -/
structure QuoteRules where
  /-- Characters that may stand unescaped. -/
  allows : Char → Bool
  /-- The greatest first digit of a two-digit escape. -/
  highDigit : Nat
  /-- Escapes by code point are known. -/
  codePoints : Bool
  /-- The character zero may be written, by a short escape or by its number. -/
  zero : Bool

/-- Quoted text of characters. -/
def stringRules : QuoteRules :=
  ⟨fun _ => true, 7, true, true⟩

/-- Quoted text of bytes. -/
def byteRules : QuoteRules :=
  ⟨fun c => c.val < 0x80, 15, false, true⟩

/-- Quoted text that ends with a zero byte of its own. -/
def terminatedRules : QuoteRules :=
  ⟨fun c => c.val != 0, 15, true, false⟩

/-- How far a quoted text has been read. -/
inductive QuoteState where
  /-- Between two characters. -/
  | plain
  /-- After a carriage return. -/
  | carriage
  /-- After a backslash. -/
  | escape
  /-- Before the first of two digits. -/
  | hexHigh
  /-- Before the second of two digits. -/
  | hexLow (high : Nat)
  /-- Before the brace of a code point. -/
  | pointOpen
  /-- Among the digits of a code point. -/
  | point (digits value : Nat)
  /-- In the blanks after an escaped line end. -/
  | continued (afterCarriage : Bool)
  deriving DecidableEq, Repr

/-- What one character does to a quoted text. -/
inductive QuoteStep where
  | reject
  | close
  | next (state : QuoteState) (emitted : List Char)

/-- A character between two others. -/
def plainStep (rules : QuoteRules) (c : Char) : QuoteStep :=
  if c = '"' then .close
  else if c = '\r' then .next .carriage []
  else if c = '\\' then .next .escape []
  else if rules.allows c then .next .plain [c]
  else .reject

/-- The character after a backslash. -/
def escapeStep (rules : QuoteRules) : Char → QuoteStep
  | 'x' => .next .hexHigh []
  | 'n' => .next .plain ['\n']
  | 'r' => .next .plain ['\r']
  | 't' => .next .plain ['\t']
  | '\\' => .next .plain ['\\']
  | '\'' => .next .plain ['\'']
  | '"' => .next .plain ['"']
  | '0' => if rules.zero then .next .plain ['\x00'] else .reject
  | 'u' => if rules.codePoints then .next .pointOpen [] else .reject
  | '\n' => .next (.continued false) []
  | '\r' => .next (.continued true) []
  | _ => .reject

/-- One more character of the digits of a code point. -/
def pointStep (rules : QuoteRules) (digits value : Nat) (c : Char) : QuoteStep :=
  match hexDigit? c with
  | some digit =>
      if digits = 6 then .reject else .next (.point (digits + 1) (value * 16 + digit)) []
  | none =>
      if digits = 0 then .reject
      else if c = '_' then .next (.point digits value) []
      else if c = '\x7d' then
        if value.isValidChar && (rules.zero || value != 0) then .next .plain [Char.ofNat value]
        else .reject
      else .reject

/-- One character of a quoted text. -/
def quoteStep (rules : QuoteRules) (state : QuoteState) (c : Char) : QuoteStep :=
  match state with
  | .plain => plainStep rules c
  | .carriage => if c = '\n' then .next .plain ['\n'] else .reject
  | .escape => escapeStep rules c
  | .hexHigh =>
      match hexDigit? c with
      | some digit => if digit ≤ rules.highDigit then .next (.hexLow digit) [] else .reject
      | none => .reject
  | .hexLow high =>
      match hexDigit? c with
      | some low =>
          if rules.zero || high + low != 0 then .next .plain [Char.ofNat (high * 16 + low)]
          else .reject
      | none => .reject
  | .pointOpen => if c = '\x7b' then .next (.point 0 0) [] else .reject
  | .point digits value => pointStep rules digits value c
  | .continued afterCarriage =>
      if afterCarriage then if c = '\n' then .next (.continued false) [] else .reject
      else if c = ' ' || c = '\t' || c = '\n' then .next (.continued false) []
      else if c = '\r' then .next (.continued true) []
      else plainStep rules c

/-- A quoted text up to its closing quote: the scan and the value. -/
def quotedFrom (rules : QuoteRules) : QuoteState → List Char → Option (Scan × List Char)
  | _, [] => none
  | state, c :: rest =>
      match quoteStep rules state c with
      | .reject => none
      | .close => some (([c], rest), [])
      | .next state emitted =>
          (quotedFrom rules state rest).map fun ((read, rest), value) =>
            ((c :: read, rest), emitted ++ value)

/-- The rest of one escape, up to the character that completes it. -/
def escapeFrom (rules : QuoteRules) : QuoteState → List Char → Option Scan
  | _, [] => none
  | state, c :: rest =>
      match quoteStep rules state c with
      | .next .plain _ => some ([c], rest)
      | .next (.continued _) _ => none
      | .next state _ => (escapeFrom rules state rest).map fun (read, rest) => (c :: read, rest)
      | _ => none

/-- The number of hash signs at the front and what follows them. -/
def hashes : List Char → Nat × List Char
  | '#' :: rest => let (count, rest) := hashes rest; (count + 1, rest)
  | chars => (0, chars)

/-- The input begins with this many hash signs. -/
def beginsWithHashes : Nat → List Char → Bool
  | 0, _ => true
  | count + 1, '#' :: rest => beginsWithHashes count rest
  | _ + 1, _ => false

/-- The content of a raw text up to the quote that closes it, and the rest after that quote. -/
def rawContent (allows : Char → Bool) (count : Nat) : List Char → Option Scan
  | [] => none
  | '"' :: rest =>
      if beginsWithHashes count rest then some ([], rest)
      else (rawContent allows count rest).map fun (read, rest) => ('"' :: read, rest)
  | '\r' :: '\n' :: rest =>
      (rawContent allows count rest).map fun (read, rest) => ('\r' :: '\n' :: read, rest)
  | '\r' :: _ => none
  | c :: rest =>
      if allows c then (rawContent allows count rest).map fun (read, rest) => (c :: read, rest)
      else none

/-- A raw text after its letter: the scan and the value. -/
def raw (allows : Char → Bool) (chars : List Char) : Option (Scan × List Char) :=
  let (count, rest) := hashes chars
  match rest with
  | '"' :: rest =>
      if count > 255 then none
      else (rawContent allows count rest).map fun (content, rest) =>
        let mark := List.replicate count '#'
        ((mark ++ '"' :: content ++ '"' :: mark, rest.drop count), content)
  | _ => none

/-- A scan that continues some characters already read. -/
def extend (read : List Char) (scan : Scan) : Scan :=
  (read ++ scan.1, scan.2)

/-- A string, plain or raw. -/
def string? (chars : List Char) : Option (Literal × Scan) :=
  let finish (read : List Char) (found : Option (Scan × List Char)) : Option (Literal × Scan) :=
    found.map fun (scan, value) => (.string (String.ofList value), withSuffix (extend read scan))
  match chars with
  | '"' :: rest => finish ['"'] (quotedFrom stringRules .plain rest)
  | 'r' :: rest => finish ['r'] (raw (fun _ => true) rest)
  | _ => none

/-- A byte string or a C string, plain or raw. -/
def unitString? (chars : List Char) : Option (Literal × Scan) :=
  let finish (read : List Char) (found : Option (Scan × List Char)) : Option (Literal × Scan) :=
    found.map fun (scan, _) => (.other, withSuffix (extend read scan))
  match chars with
  | 'b' :: '"' :: rest => finish ['b', '"'] (quotedFrom byteRules .plain rest)
  | 'b' :: 'r' :: rest => finish ['b', 'r'] (raw byteRules.allows rest)
  | 'c' :: '"' :: rest => finish ['c', '"'] (quotedFrom terminatedRules .plain rest)
  | 'c' :: 'r' :: rest => finish ['c', 'r'] (raw terminatedRules.allows rest)
  | _ => none

/-- The single unit between two apostrophes, the first of which has been read. -/
def singleUnit (rules : QuoteRules) (chars : List Char) : Option Scan :=
  let body : Option Scan := match chars with
    | '\\' :: rest => (escapeFrom rules .escape rest).map (extend ['\\'])
    | c :: rest => if rules.allows c then some ([c], rest) else none
    | [] => none
  match body with
  | some (read, '\'' :: rest) => some (read ++ ['\''], rest)
  | _ => none

/-- A byte or a character between apostrophes. -/
def single? (chars : List Char) : Option (Literal × Scan) :=
  match chars with
  | 'b' :: '\'' :: rest =>
      (singleUnit byteRules rest).map fun scan => (.other, withSuffix (extend ['b', '\''] scan))
  | '\'' :: rest =>
      (singleUnit stringRules rest).map fun scan => (.other, withSuffix (extend ['\''] scan))
  | _ => none

/-- A digit or an underscore. -/
def isDigitOrMark (c : Char) : Bool :=
  c.isDigit || c == '_'

/-- The digits of an exponent, if there are any: a sign may come first and
underscores anywhere. A second sign before the digits refuses the exponent. -/
def exponent (signed digits : Bool) : List Char → Option Scan
  | [] => if digits then some ([], []) else none
  | c :: rest =>
      let go (signed digits : Bool) : Option Scan :=
        (exponent signed digits rest).map fun (read, rest) => (c :: read, rest)
      if c = '+' || c = '-' then
        if digits then some ([], c :: rest)
        else if signed then none
        else go true false
      else if c.isDigit then go signed true
      else if c = '_' then go signed digits
      else if digits then some ([], c :: rest)
      else none

/-- The digits of a number with a point or an exponent. A point is not part of
the number when another point or a name follows it. -/
def floatDigits (chars : List Char) : Option Scan :=
  if !chars.head?.any Char.isDigit then none
  else
    let whole := chars.takeWhile isDigitOrMark
    match chars.dropWhile isDigitOrMark with
    | '.' :: rest =>
        if rest.head?.any fun c => c == '.' || isIdentifierStart c then none
        else
          let read := whole ++ '.' :: rest.takeWhile isDigitOrMark
          match rest.dropWhile isDigitOrMark with
          | c :: rest =>
              if c = 'e' || c = 'E' then
                match exponent false false rest with
                | some scan => some (extend (read ++ [c]) scan)
                | none => some (read, c :: rest)
              else some (read, c :: rest)
          | [] => some (read, [])
    | c :: rest =>
        if c = 'e' || c = 'E' then (exponent false false rest).map (extend (whole ++ [c])) else none
    | [] => none

/-- The digits of a number in a base; letters that are no digits of the base end
it, digits beyond the base refuse it. -/
def digitsFrom (base : Nat) (empty : Bool) : List Char → Option Scan
  | [] => if empty then none else some ([], [])
  | c :: rest =>
      let go (empty : Bool) : Option Scan :=
        (digitsFrom base empty rest).map fun (read, rest) => (c :: read, rest)
      let stop : Option Scan := if empty then none else some ([], c :: rest)
      if c = '_' then if empty && base == 10 then none else go empty
      else match hexDigit? c with
        | some digit =>
            if digit < base then go false else if c.isDigit then none else stop
        | none => stop

/-- The digits of a number without a point, with the mark of its base. -/
def integerDigits (chars : List Char) : Option Scan :=
  match chars with
  | '0' :: 'x' :: rest => (digitsFrom 16 true rest).map (extend ['0', 'x'])
  | '0' :: 'o' :: rest => (digitsFrom 8 true rest).map (extend ['0', 'o'])
  | '0' :: 'b' :: rest => (digitsFrom 2 true rest).map (extend ['0', 'b'])
  | _ => digitsFrom 10 true chars

/-- A number with its suffix, unless a character of a name follows directly. -/
def numberEnd (scan : Scan) : Option Scan :=
  let scan := withSuffix scan
  if scan.2.head?.any isIdentifierContinue then none else some scan

/-- A number. -/
def number? (chars : List Char) : Option (Literal × Scan) :=
  match (floatDigits chars).bind numberEnd with
  | some scan => some (.float, scan)
  | none => ((integerDigits chars).bind numberEnd).map fun scan => (.integer, scan)

/-- The literal at the front of the input. -/
def scan? (chars : List Char) : Option (Literal × Scan) :=
  (string? chars).or ((unitString? chars).or ((single? chars).or (number? chars)))

end Literal

end NativeBridge.Source
