/-!
# Text as bytes

UTF-8 in both directions. The decoder passes over bytes one at a time; bytes that begin no
character, or break one off, form a part without a character.
-/

namespace ModuleBundler.Text

abbrev Bytes := List UInt8

def encode (text : String) : Bytes := text.toList.flatMap String.utf8EncodeChar

/-- Where a decoder stands: between characters, or with bytes still to come, the next of which
lies between two bounds. -/
inductive Decoder where
  | ready
  | within (value remaining low high : Nat)

/-- Reads the first byte of a character. -/
def Decoder.start (b : Nat) : List (Option Char) × Decoder :=
  if b < 0x80 then ([some (Char.ofNat b)], .ready)
  else if b < 0xC2 then ([none], .ready)
  else if b < 0xE0 then ([], .within (b - 0xC0) 1 0x80 0xBF)
  else if b = 0xE0 then ([], .within 0 2 0xA0 0xBF)
  else if b = 0xED then ([], .within 0xD 2 0x80 0x9F)
  else if b < 0xF0 then ([], .within (b - 0xE0) 2 0x80 0xBF)
  else if b = 0xF0 then ([], .within 0 3 0x90 0xBF)
  else if b < 0xF4 then ([], .within (b - 0xF0) 3 0x80 0xBF)
  else if b = 0xF4 then ([], .within 4 3 0x80 0x8F)
  else ([none], .ready)

/-- Reads a byte; what it completes comes out, a part without a character as `none`. -/
def Decoder.step : Decoder → Nat → List (Option Char) × Decoder
  | .ready, b => start b
  | .within value remaining low high, b =>
    if low ≤ b ∧ b ≤ high then
      let value := value * 64 + (b - 0x80)
      if remaining ≤ 1 then ([some (Char.ofNat value)], .ready)
      else ([], .within value (remaining - 1) 0x80 0xBF)
    else
      let (out, next) := start b
      (none :: out, next)

def decodeFrom : Decoder → Bytes → List (Option Char)
  | .ready, [] => []
  | .within .., [] => [none]
  | d, b :: r =>
    let (out, next) := d.step b.toNat
    out ++ decodeFrom next r

/-- The text, if every part is a character. -/
def decode? (bytes : Bytes) : Option String :=
  ((decodeFrom .ready bytes).mapM id).map String.ofList

/-- The text with U+FFFD for every part that is no character. -/
def decodeLossy (bytes : Bytes) : String :=
  String.ofList ((decodeFrom .ready bytes).map fun c => c.getD '\uFFFD')

end ModuleBundler.Text
