import ModuleBundler.Json.Document

/-!
# The grammar of JSON

What a text has to look like to spell a value, apart from how it is read. Each rule relates a text
to what it spells and to the rest that is left behind it. Members keep the order that they are
written in, and a key may come again.
-/

namespace ModuleBundler.Json

def blanks : List Char := [' ', '\n', '\t', '\r']

/-- Some blanks, or none. -/
inductive Blank : List Char → List Char → Prop
  | none (rest : List Char) : Blank rest rest
  | more {c : Char} {cs rest : List Char} (hc : c ∈ blanks) (h : Blank cs rest) :
    Blank (c :: cs) rest

/-! ## Strings -/

/-- The letters that may follow a backslash, with what they denote there. -/
def letterEscapes : List (Char × Char) :=
  [('"', '"'), ('\\', '\\'), ('/', '/'), ('b', '\x08'), ('f', '\x0c'), ('n', '\n'), ('r', '\r'),
   ('t', '\t')]

/-- A hexadecimal digit in either case. -/
def IsHexDigit (c : Char) (n : Nat) : Prop :=
  n < 16 ∧ (c = Nat.digitChar n ∨ c = (Nat.digitChar n).toUpper)

inductive FourHexDigits : List Char → Nat → List Char → Prop
  | digits {a b c d : Char} {i j k l : Nat} (ha : IsHexDigit a i) (hb : IsHexDigit b j)
    (hc : IsHexDigit c k) (hd : IsHexDigit d l) (rest : List Char) :
    FourHexDigits (a :: b :: c :: d :: rest) (((i * 16 + j) * 16 + k) * 16 + l) rest

def IsSurrogate (n : Nat) : Prop := 0xD800 ≤ n ∧ n ≤ 0xDFFF

/-- What stands behind a backslash. A surrogate denotes nothing alone. -/
inductive Escape : List Char → Char → List Char → Prop
  | letter {e c : Char} (h : (e, c) ∈ letterEscapes) (rest : List Char) : Escape (e :: rest) c rest
  | code {n : Nat} {cs rest : List Char} (h : FourHexDigits cs n rest) (hn : ¬ IsSurrogate n) :
    Escape ('u' :: cs) (Char.ofNat n) rest
  | pair {high low : Nat} {cs more rest : List Char}
    (hcs : FourHexDigits cs high ('\\' :: 'u' :: more)) (hmore : FourHexDigits more low rest)
    (hhigh : 0xD800 ≤ high ∧ high ≤ 0xDBFF) (hlow : 0xDC00 ≤ low ∧ low ≤ 0xDFFF) :
    Escape ('u' :: cs) (Char.ofNat (0x10000 + (high - 0xD800) * 0x400 + (low - 0xDC00))) rest

/-- What stands behind the opening quote. -/
inductive Quoted : List Char → List Char → List Char → Prop
  | close (rest : List Char) : Quoted ('"' :: rest) [] rest
  | plain {c : Char} {cs s rest : List Char} (hquote : c ≠ '"') (hslash : c ≠ '\\')
    (hcontrol : 0x20 ≤ c.toNat) (h : Quoted cs s rest) : Quoted (c :: cs) (c :: s) rest
  | escape {c : Char} {cs more s rest : List Char} (hc : Escape cs c more)
    (h : Quoted more s rest) : Quoted ('\\' :: cs) (c :: s) rest

def SpelledString (s : String) (cs rest : List Char) : Prop :=
  ∃ inner, cs = '"' :: inner ∧ Quoted inner s.toList rest

/-! ## Numbers -/

/-- One digit or more. -/
inductive Digits : List Char → List Char → Prop
  | last {c : Char} (hc : c.isDigit = true) (rest : List Char) : Digits (c :: rest) rest
  | more {c : Char} {cs rest : List Char} (hc : c.isDigit = true) (h : Digits cs rest) :
    Digits (c :: cs) rest

inductive Fraction : List Char → List Char → Prop
  | none (rest : List Char) : Fraction rest rest
  | some {cs rest : List Char} (h : Digits cs rest) : Fraction ('.' :: cs) rest

inductive Exponent : List Char → List Char → Prop
  | none (rest : List Char) : Exponent rest rest
  | some {e : Char} {sign cs rest : List Char} (he : e = 'e' ∨ e = 'E')
    (hsign : sign = [] ∨ sign = ['+'] ∨ sign = ['-']) (h : Digits cs rest) :
    Exponent (e :: (sign ++ cs)) rest

def signOf : Bool → List Char
  | true => ['-']
  | false => []

/-- Integers that 64 bits hold, without or with a sign in front. -/
def Fits64 : Bool → Nat → Prop
  | false, n => n ≤ maxNatural
  | true, n => 0 < n ∧ n ≤ Nat.pow 2 63

/-- Digits are those of the number, so that none of them is a needless zero. What has a fraction or
an exponent, or does not fit, is a float; which one is left open. -/
def SpelledNumber : Number → List Char → List Char → Prop
  | .natural n, cs, rest => cs = Nat.toDigits 10 n ++ rest ∧ Fits64 false n
  | .negative n, cs, rest => cs = '-' :: (Nat.toDigits 10 n ++ rest) ∧ Fits64 true n
  | .float _, cs, rest => ∃ negative n point more,
    cs = signOf negative ++ (Nat.toDigits 10 n ++ point) ∧ Fraction point more ∧
      Exponent more rest ∧ (point = rest → ¬ Fits64 negative n)

/-! ## Values -/

/-- What stands in front of an item or a member: behind others a comma. -/
def Lead : Bool → List Char → List Char → Prop
  | true, cs, rest => Blank cs rest
  | false, cs, rest => ∃ more, Blank cs (',' :: more) ∧ Blank more rest

mutual

/-- The value stands in front of the rest. -/
def Spelled : Value → List Char → List Char → Prop
  | .null, cs, rest => cs = 'n' :: 'u' :: 'l' :: 'l' :: rest
  | .bool true, cs, rest => cs = 't' :: 'r' :: 'u' :: 'e' :: rest
  | .bool false, cs, rest => cs = 'f' :: 'a' :: 'l' :: 's' :: 'e' :: rest
  | .number n, cs, rest => SpelledNumber n cs rest
  | .string s, cs, rest => SpelledString s cs rest
  | .array items, cs, rest => ∃ inner, cs = '[' :: inner ∧ SpelledItems items true inner rest
  | .object members, cs, rest =>
    ∃ inner, cs = '\x7b' :: inner ∧ SpelledMembers members true inner rest

/-- Items up to the bracket behind them; the flag says whether none is in front of these. -/
def SpelledItems : List Value → Bool → List Char → List Char → Prop
  | [], _, cs, rest => Blank cs (']' :: rest)
  | v :: items, first, cs, rest => ∃ text more,
    Lead first cs text ∧ Spelled v text more ∧ SpelledItems items false more rest

/-- Members up to the brace behind them, likewise. -/
def SpelledMembers : List (String × Value) → Bool → List Char → List Char → Prop
  | [], _, cs, rest => Blank cs ('\x7d' :: rest)
  | (k, v) :: members, first, cs, rest => ∃ key colon behind text more,
    Lead first cs key ∧ SpelledString k key colon ∧ Blank colon (':' :: behind) ∧
      Blank behind text ∧ Spelled v text more ∧ SpelledMembers members false more rest

end

/-- A whole text is JSON for a value, blanks around it aside. -/
def Denotes (text : String) (v : Value) : Prop :=
  ∃ cs rest, Blank text.toList cs ∧ Spelled v cs rest ∧ Blank rest []

/-! ## What values consist of -/

namespace Value

mutual

/-- How many containers stand inside each other. -/
def nesting : Value → Nat
  | .null | .bool _ | .number _ | .string _ => 0
  | .array items => nestingOfItems items + 1
  | .object members => nestingOfMembers members + 1

def nestingOfItems : List Value → Nat
  | [] => 0
  | v :: items => max (nesting v) (nestingOfItems items)

def nestingOfMembers : List (String × Value) → Nat
  | [] => 0
  | (_, v) :: members => max (nesting v) (nestingOfMembers members)

end

mutual

/-- All numbers are integers that 64 bits hold. -/
def Exact : Value → Prop
  | .null | .bool _ | .string _ => True
  | .number (.natural n) => Fits64 false n
  | .number (.negative n) => Fits64 true n
  | .number (.float _) => False
  | .array items => ExactItems items
  | .object members => ExactMembers members

def ExactItems : List Value → Prop
  | [] => True
  | v :: items => Exact v ∧ ExactItems items

def ExactMembers : List (String × Value) → Prop
  | [] => True
  | (_, v) :: members => Exact v ∧ ExactMembers members

end

end Value

end ModuleBundler.Json
