import ModuleBundler.Decimal.Read
import ModuleBundler.Json.Value
import ModuleBundler.Unicode.Blank

/-!
# Settings in variables

The value of a variable is a truth value, a number, a quoted text, a list `[a, b]` or a table
`{k = v}`; whatever is none of these from its beginning to its end is a text as it stands. The name
of a variable tells which setting it is for.
-/

namespace ModuleBundler.Project.Setting

open Json (Value)

/-! ## Values -/

def isBlank (c : Char) : Bool :=
  c == ' ' || c == '\t' || c == '\n' || c == '\x0c' || c == '\r'

def skipBlanks (cs : List Char) : List Char := cs.dropWhile isBlank

def isSeparator (c : Char) : Bool :=
  c == ',' || c == '\x7b' || c == '\x7d' || c == '[' || c == ']'

def isKeyChar (c : Char) : Bool := c.isAlphanum || c == '_' || c == '-'

/-- What follows a word at the beginning. -/
def after? : List Char → List Char → Option (List Char)
  | [], cs => some cs
  | _ :: _, [] => none
  | w :: ws, c :: cs => if w = c then after? ws cs else none

/-- An integer of 64 bits, with or without a sign. -/
def integer? (text : List Char) : Option Value :=
  match Decimal.readInteger? text with
  | none => none
  | some (.ofNat n) => if n < UInt64.size then some (.number (.natural n)) else none
  | some (.negSucc n) =>
    if n < Nat.pow 2 63 then some (.number (.negative (n + 1))) else none

/-- A text between separators is a number if it reads as one. -/
def plain (text : List Char) : Value :=
  let text := Unicode.trim (String.ofList text)
  let number? := if text.toList.contains '.' then Decimal.readFloat? text.toList else none
  match number?, integer? text.toList with
  | some x, _ => .number (.float x)
  | none, some v => v
  | none, none => .string text

def hexDigit? (c : Char) : Option Nat :=
  if c.isDigit then some (c.toNat - '0'.toNat)
  else if 'a' ≤ c ∧ c ≤ 'f' then some (c.toNat - 'a'.toNat + 10)
  else if 'A' ≤ c ∧ c ≤ 'F' then some (c.toNat - 'A'.toNat + 10)
  else none

def hexValue? (cs : List Char) : Option Nat :=
  cs.foldlM (fun n c => (16 * n + ·) <$> hexDigit? c) 0

/-- The character with a code of `count` hexadecimal digits. -/
def codePoint? (count : Nat) (cs : List Char) : Option (Char × List Char) := do
  let digits := cs.take count
  if digits.length < count then none
  let n ← hexValue? digits
  if n.isValidChar then return (Char.ofNat n, cs.drop count) else none

def escape? : Char → Option Char
  | '"' => some '"'
  | '\\' => some '\\'
  | 'b' => some '\x08'
  | 'f' => some '\x0c'
  | 'n' => some '\n'
  | 'r' => some '\r'
  | 't' => some '\t'
  | _ => none

def isTextChar (c : Char) : Bool := c == '\t' || (' ' ≤ c && c != '\x7f')

/-- A quoted text behind its opening quote. -/
def quoted : Nat → List Char → List Char → Option (String × List Char)
  | 0, _, _ => none
  | fuel + 1, text, cs =>
    match cs with
    | [] => none
    | '"' :: r => some (String.ofList text.reverse, r)
    | '\\' :: 'u' :: r => do
      let (c, r) ← codePoint? 4 r
      quoted fuel (c :: text) r
    | '\\' :: 'U' :: r => do
      let (c, r) ← codePoint? 8 r
      quoted fuel (c :: text) r
    | '\\' :: e :: r => do quoted fuel ((← escape? e) :: text) r
    | c :: r => if isTextChar c && c != '\\' then quoted fuel (c :: text) r else none

def key (cs : List Char) : Option (String × List Char) :=
  match cs with
  | '"' :: r => quoted (r.length + 1) [] r
  | cs =>
    let (name, r) := cs.span isKeyChar
    if name.isEmpty then none else some (String.ofList name, r)

mutual

/-- A value and what follows it. -/
def value : Nat → List Char → Option (Value × List Char)
  | 0, _ => none
  | fuel + 1, cs =>
    let cs := skipBlanks cs
    match after? ['t', 'r', 'u', 'e'] cs, after? ['f', 'a', 'l', 's', 'e'] cs with
    | some r, _ => some (.bool true, skipBlanks r)
    | _, some r => some (.bool false, skipBlanks r)
    | none, none =>
      match cs with
      | '\x7b' :: r => do
        let (members, r) ← table fuel r
        return (.object members, skipBlanks r)
      | '[' :: r => do
        let (items, r) ← list fuel r
        return (.array items, skipBlanks r)
      | '"' :: r => do
        let (text, r) ← quoted (r.length + 1) [] r
        return (.string text, skipBlanks r)
      | '\x27' :: c :: '\x27' :: r => some (.string c.toString, skipBlanks r)
      | '\x27' :: _ => none
      | cs =>
        let (text, r) := cs.span fun c => !isSeparator c
        some (plain text, r)

/-- The items of a list behind its opening bracket. -/
def list : Nat → List Char → Option (List Value × List Char)
  | 0, _ => none
  | fuel + 1, cs =>
    match cs with
    | ']' :: r => some ([], r)
    | cs => do
      let (v, r) ← value fuel cs
      match r with
      | ',' :: r => do
        let (vs, r) ← list fuel r
        return (v :: vs, r)
      | ']' :: r => return ([v], r)
      | _ => none

/-- The members of a table behind its opening brace. -/
def table : Nat → List Char → Option (List (String × Value) × List Char)
  | 0, _ => none
  | fuel + 1, cs =>
    match cs with
    | '\x7d' :: r => some ([], r)
    | cs => do
      let (name, r) ← key (skipBlanks cs)
      match skipBlanks r with
      | '=' :: r =>
        let (v, r) ← value fuel r
        match r with
        | ',' :: r => do
          let (members, r) ← table fuel r
          return ((name, v) :: members, r)
        | '\x7d' :: r => return ([(name, v)], r)
        | _ => none
      | _ => none

end

/-- The value of a variable. -/
def read (text : String) : Value :=
  match value (2 * text.length + 2) text.toList with
  | some (v, []) => v
  | _ => .string text

/-! ## Names -/

def namePrefix : String := "BINDLE_"

/-- The settings that have variables, as paths into a project file. -/
def paths : List (List String) :=
  [["entry"], ["output", "directory"], ["output", "filename"], ["output", "banner"]]

def asciiLower (s : String) : String := s.map Char.toLower

/-- A dot in place of every two underlines. -/
def dotted : List Char → List Char
  | '_' :: '_' :: r => '.' :: dotted r
  | c :: r => c :: dotted r
  | [] => []

/-- The setting that a variable is for. Case does not matter, and two underlines go one level
down. -/
def path? (name : String) : Option (List String) := do
  let rest ← after? (asciiLower namePrefix).toList (asciiLower (Unicode.trim name)).toList
  let key := String.ofList (dotted rest)
  paths.find? fun p => ".".intercalate p == key

/-- A value at a path into otherwise empty objects. -/
def nest : List String → Value → Value
  | [], v => v
  | k :: ks, v => .object [(k, nest ks v)]

end ModuleBundler.Project.Setting
