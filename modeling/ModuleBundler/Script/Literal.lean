import ModuleBundler.Script.Character

/-!
# Escapes in script text

A readable escape denotes nothing (a line continuation), a character, or a surrogate that stands
alone. Functions here read the characters after the backslash and say how many they used.
-/

namespace ModuleBundler.Script

/-- What a literal is made of. -/
inductive CodeUnit where
  | char (c : Char)
  | surrogate (code : Nat)
  deriving DecidableEq

inductive Escape where
  | nothing
  | unit (u : CodeUnit)
  | malformed

def CodeUnit.ofNat (n : Nat) : CodeUnit :=
  if 0xD800 ≤ n ∧ n ≤ 0xDFFF then .surrogate n else .char (Char.ofNat n)

def CodeUnit.isSurrogate : CodeUnit → Bool
  | .surrogate _ => true
  | .char _ => false

/-- The value of exactly `n` hexadecimal digits. -/
def readHex : Nat → List Char → Nat → Option (Nat × List Char)
  | 0, cs, acc => some (acc, cs)
  | _ + 1, [], _ => none
  | n + 1, c :: r, acc => if isHexDigit c then readHex n r (acc * 16 + hexValue c) else none

/-- One or more hexadecimal digits and a closing brace, denoting a code point. -/
def readBraced : List Char → Nat → Nat → Option (Nat × Nat)
  | [], _, _ => none
  | c :: r, acc, count =>
    if isHexDigit c then
      let value := acc * 16 + hexValue c
      if value > 0x10FFFF then none else readBraced r value (count + 1)
    else if c = '\x7d' ∧ 0 < count then some (acc, count + 1)
    else none

/-- What follows `\u`, with the number of characters used. Two escapes that spell a surrogate pair
are one character. -/
def unicodeEscape? (cs : List Char) : Option (CodeUnit × Nat) :=
  match cs with
  | '\x7b' :: r => (readBraced r 0 0).map fun (value, count) => (.ofNat value, count + 1)
  | _ =>
    match readHex 4 cs 0 with
    | none => none
    | some (high, rest) =>
      if 0xD800 ≤ high ∧ high ≤ 0xDBFF then
        match rest with
        | '\\' :: 'u' :: rest =>
          match readHex 4 rest 0 with
          | some (low, _) =>
            if 0xDC00 ≤ low ∧ low ≤ 0xDFFF then
              some (.char (Char.ofNat (0x10000 + (high - 0xD800) * 0x400 + (low - 0xDC00))), 10)
            else some (.surrogate high, 4)
          | none => some (.surrogate high, 4)
        | _ => some (.surrogate high, 4)
      else some (.ofNat high, 4)

/-- Up to three octal digits, as long as the value stays below 256. -/
private def legacyOctal (d : Char) (r : List Char) : Nat × Nat :=
  let first := hexValue d
  match r with
  | e :: f :: _ =>
    if !isOctalDigit e then (first, 1)
    else if isOctalDigit f && first ≤ 3 then (first * 64 + hexValue e * 8 + hexValue f, 3)
    else (first * 8 + hexValue e, 2)
  | [e] => if isOctalDigit e then (first * 8 + hexValue e, 2) else (first, 1)
  | [] => (first, 1)

/-- Reads the escape after a backslash. Templates have no octal escapes. -/
def readEscape (inTemplate : Bool) : List Char → Escape × Nat
  | [] => (.malformed, 0)
  | '\r' :: '\n' :: _ => (.nothing, 2)
  | c :: r =>
    if isLineTerminator c then (.nothing, 1)
    else match c with
      | 'n' => (.unit (.char '\n'), 1)
      | 't' => (.unit (.char '\t'), 1)
      | 'r' => (.unit (.char '\r'), 1)
      | 'b' => (.unit (.char '\x08'), 1)
      | 'f' => (.unit (.char '\x0c'), 1)
      | 'v' => (.unit (.char '\x0b'), 1)
      | 'x' =>
        match readHex 2 r 0 with
        | some (value, _) => (.unit (.char (Char.ofNat value)), 3)
        | none => (.malformed, 1)
      | 'u' =>
        match unicodeEscape? r with
        | some (u, used) => (.unit u, used + 1)
        | none => (.malformed, 1)
      | _ =>
        if c.isDigit then
          let digitFollows := (r.head?.map Char.isDigit).getD false
          if c == '0' && !digitFollows then (.unit (.char '\x00'), 1)
          else if inTemplate then (.malformed, 1)
          else if isOctalDigit c then
            let (value, used) := legacyOctal c r
            (.unit (.char (Char.ofNat value)), used)
          else (.unit (.char c), 1)
        else (.unit (.char c), 1)

private def hexDigitChar (n : Nat) : Char :=
  if n < 10 then Char.ofNat (48 + n) else Char.ofNat (87 + n)

/-- Four lower-case hexadecimal digits. -/
def fourHexDigits (n : Nat) : List Char :=
  [hexDigitChar (n / 4096 % 16), hexDigitChar (n / 256 % 16), hexDigitChar (n / 16 % 16),
   hexDigitChar (n % 16)]

/-- The text of a literal's value. Text cannot hold a lone surrogate, so each is written as the
replacement character and four digits; next to one, the replacement character itself is, too. -/
def textOfUnits (units : List CodeUnit) : String :=
  if units.any CodeUnit.isSurrogate then
    String.ofList <| units.flatMap fun
      | .surrogate code => '\ufffd' :: fourHexDigits code
      | .char '\ufffd' => '\ufffd' :: fourHexDigits 0xFFFD
      | .char c => [c]
  else
    String.ofList <| units.filterMap fun
      | .char c => some c
      | .surrogate _ => none

end ModuleBundler.Script
