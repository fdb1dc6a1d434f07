import ModuleBundler.Unicode.Alphanumeric
import ModuleBundler.Unicode.Blank
import ModuleBundler.Unicode.CaseMapping

/-!
# Sets of characters in patterns

A set is built from ranges and tables with the Boolean operations. Membership follows the
construction, so that every operation means what its name says.
-/

namespace ModuleBundler.Regex

inductive CharacterSet where
  | range (first last : Char)
  | table (bounds : Unicode.Boundaries)
  | union (a b : CharacterSet)
  | intersection (a b : CharacterSet)
  | complement (a : CharacterSet)
  /-- The members of a set together with their other cases. -/
  | caseless (a : CharacterSet)
  /-- As `caseless`, for the letters of ASCII alone. -/
  | asciiCaseless (a : CharacterSet)
  deriving Inhabited

namespace CharacterSet

/-- The characters that fold to the same letter. -/
def cases (c : Char) : List Char :=
  let letter := Unicode.foldChar c
  letter :: Unicode.foldShifts.filterMap fun s =>
    let n := (Int.ofNat letter.toNat - s.offset).toNat
    if s.applies n then some (Char.ofNat n) else none

def asciiCases (c : Char) : List Char := [c, c.toUpper, c.toLower]

def contains : CharacterSet → Char → Bool
  | .range first last, c => first ≤ c && c ≤ last
  | .table bounds, c => bounds.contains c
  | .union a b, c => a.contains c || b.contains c
  | .intersection a b, c => a.contains c && b.contains c
  | .complement a, c => !a.contains c
  | .caseless a, c => (cases c).any a.contains
  | .asciiCaseless a, c => (asciiCases c).any a.contains

def none : CharacterSet := .table []

def all : CharacterSet := .table [0]

def single (c : Char) : CharacterSet := .range c c

def ofList (sets : List CharacterSet) : CharacterSet := sets.foldr .union none

def difference (a b : CharacterSet) : CharacterSet := .intersection a (.complement b)

def symmetricDifference (a b : CharacterSet) : CharacterSet :=
  .union (difference a b) (difference b a)

/-- Characters of ASCII, given by inclusive ranges. -/
def ofRanges (ranges : List (Char × Char)) : CharacterSet :=
  ofList (ranges.map fun (a, b) => .range a b)

/-! ## Named sets -/

def asciiDigit : CharacterSet := .range '0' '9'

def asciiSpace : CharacterSet := ofRanges [('\t', '\r'), (' ', ' ')]

def asciiWord : CharacterSet := ofRanges [('0', '9'), ('A', 'Z'), ('_', '_'), ('a', 'z')]

def digit : CharacterSet := .table Unicode.decimalNumber

def space : CharacterSet := .table Unicode.blank

/-- Connector punctuation and the two joiners. -/
def connector : CharacterSet :=
  .table [0x5F, 0x60, 0x200C, 0x200E, 0x203F, 0x2041, 0x2054, 0x2055, 0xFE33, 0xFE35, 0xFE4D,
    0xFE50, 0xFF3F, 0xFF40]

/-- What words are made of. -/
def word : CharacterSet :=
  ofList [.table Unicode.alphabetic, .table Unicode.mark, digit, connector]

/-- The classes that are written `[:name:]`. -/
def asciiClass? (name : String) : Option CharacterSet :=
  match name with
  | "alnum" => some (ofRanges [('0', '9'), ('A', 'Z'), ('a', 'z')])
  | "alpha" => some (ofRanges [('A', 'Z'), ('a', 'z')])
  | "ascii" => some (ofRanges [('\x00', '\x7f')])
  | "blank" => some (ofRanges [('\t', '\t'), (' ', ' ')])
  | "cntrl" => some (ofRanges [('\x00', '\x1f'), ('\x7f', '\x7f')])
  | "digit" => some asciiDigit
  | "graph" => some (ofRanges [('!', '~')])
  | "lower" => some (ofRanges [('a', 'z')])
  | "print" => some (ofRanges [(' ', '~')])
  | "punct" => some (ofRanges [('!', '/'), (':', '@'), ('[', '\x60'), ('\x7b', '~')])
  | "space" => some asciiSpace
  | "upper" => some (ofRanges [('A', 'Z')])
  | "word" => some asciiWord
  | "xdigit" => some (ofRanges [('0', '9'), ('A', 'F'), ('a', 'f')])
  | _ => Option.none

end CharacterSet

end ModuleBundler.Regex
