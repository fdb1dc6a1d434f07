import ModuleBundler.Unicode.Identifier

/-!
# Characters of script text

Which characters end a line, separate tokens, or belong to identifiers.
-/

namespace ModuleBundler.Script

def isLineTerminator (c : Char) : Bool :=
  c == '\n' || c == '\r' || c == '\u2028' || c == '\u2029'

/-- Blanks within a line. The byte order mark counts as one wherever it stands. -/
def isBlank (c : Char) : Bool :=
  c == ' ' || c == '\t' || c == '\x0b' || c == '\x0c' || c == '\xa0' || c == '\x85' ||
  c == '\u1680' || c == '\u180e' || (0x2000 ≤ c.toNat && c.toNat ≤ 0x200B) ||
  c == '\u202f' || c == '\u205f' || c == '\u3000' || c == '\ufeff'

def isIdentifierStart (c : Char) : Bool :=
  c == '$' || c == '_' || Unicode.isIdStart c

/-- Characters after the first; the two joiners are among them. -/
def isIdentifierPart (c : Char) : Bool :=
  c == '$' || Unicode.isIdContinue c || c == '\u200c' || c == '\u200d'

def isHexDigit (c : Char) : Bool :=
  c.isDigit || ('a' ≤ c && c ≤ 'f') || ('A' ≤ c && c ≤ 'F')

def isOctalDigit (c : Char) : Bool := '0' ≤ c && c ≤ '7'

def hexValue (c : Char) : Nat :=
  if c.isDigit then c.toNat - '0'.toNat
  else if 'a' ≤ c then c.toNat - 'a'.toNat + 10
  else c.toNat - 'A'.toNat + 10

end ModuleBundler.Script
