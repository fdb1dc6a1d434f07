import ModuleBundler.Json.Value

/-!
# Reading JSON

A text is read into a document, which keeps members in their order and may break off where the
text is no JSON. Whoever walks a document in order meets the first fault of the text at its place,
between whatever other objections there are.
-/

namespace ModuleBundler.Json

/-- Why a text is no JSON. -/
inductive Fault where
  | endInValue
  | endInString
  | endInList
  | endInObject
  | expectedValue
  | expectedWord
  | expectedColon
  | expectedListEnd
  | expectedObjectEnd
  | keyNotString
  | invalidNumber
  | numberOutOfRange
  | invalidEscape
  | controlCharacter
  | loneSurrogate
  | endOfHexEscape
  | trailingComma
  | trailingCharacters
  | tooDeep
  deriving DecidableEq

namespace Fault

def message : Fault → String
  | .endInValue => "EOF while parsing a value"
  | .endInString => "EOF while parsing a string"
  | .endInList => "EOF while parsing a list"
  | .endInObject => "EOF while parsing an object"
  | .expectedValue => "expected value"
  | .expectedWord => "expected ident"
  | .expectedColon => "expected \x60:\x60"
  | .expectedListEnd => "expected \x60,\x60 or \x60]\x60"
  | .expectedObjectEnd => "expected \x60,\x60 or \x60\x7d\x60"
  | .keyNotString => "key must be a string"
  | .invalidNumber => "invalid number"
  | .numberOutOfRange => "number out of range"
  | .invalidEscape => "invalid escape"
  | .controlCharacter => "control character (\\u0000-\\u001F) found while parsing a string"
  | .loneSurrogate => "lone leading surrogate in hex escape"
  | .endOfHexEscape => "unexpected end of hex escape"
  | .trailingComma => "trailing comma"
  | .trailingCharacters => "trailing characters"
  | .tooDeep => "recursion limit exceeded"

/-- Whether the text ended too early. -/
def isEnd : Fault → Bool
  | .endInValue | .endInString | .endInList | .endInObject => true
  | _ => false

end Fault

/-- A fault and the number of bytes in front of the place that it points at. -/
structure FaultAt where
  fault : Fault
  index : Nat

/-- Line and column of a place: lines are counted from one, columns are the bytes passed in the
line. -/
structure Position where
  line : Nat
  column : Nat
  deriving DecidableEq

def positionFrom : List Char → Nat → Position → Position
  | [], rest, p => { p with column := p.column + rest }
  | c :: r, rest, p =>
    if rest < c.utf8Size then { p with column := p.column + rest }
    else if c = '\n' then positionFrom r (rest - 1) ⟨p.line + 1, 0⟩
    else positionFrom r (rest - c.utf8Size) { p with column := p.column + c.utf8Size }

def positionOf (text : List Char) (index : Nat) : Position := positionFrom text index ⟨1, 0⟩

def atPosition (text : List Char) (message : String) (index : Nat) : String :=
  let p := positionOf text index
  message ++ " at line " ++ toString p.line ++ " column " ++ toString p.column

def FaultAt.message (text : List Char) (f : FaultAt) : String :=
  atPosition text f.fault.message f.index

/-- A text as it was read. `stop` is the number of bytes up to the end of a scalar, `start` that
up to the beginning of a container. -/
inductive Document where
  | null (stop : Nat)
  | bool (b : Bool) (stop : Nat)
  | number (n : Except FaultAt Number) (stop : Nat)
  | string (s : String) (stop : Nat)
  | array (items : List Document) (ending : Option FaultAt) (start : Nat)
  | object (members : List (String × Document)) (ending : Option FaultAt) (start : Nat)
  | broken (f : FaultAt)

/-- The characters that are left and the number of bytes passed. -/
structure Input where
  rest : List Char
  index : Nat

namespace Input

def drop1 (i : Input) : Input :=
  match i.rest with
  | [] => i
  | c :: r => ⟨r, i.index + c.utf8Size⟩

def skipBlanksFrom : List Char → Nat → Input
  | [], n => ⟨[], n⟩
  | c :: r, n =>
    if c == ' ' || c == '\n' || c == '\t' || c == '\r' then skipBlanksFrom r (n + 1)
    else ⟨c :: r, n⟩

def skipBlanks (i : Input) : Input := skipBlanksFrom i.rest i.index

def skipDigitsFrom : List Char → Nat → Input
  | [], n => ⟨[], n⟩
  | c :: r, n => if c.isDigit then skipDigitsFrom r (n + 1) else ⟨c :: r, n⟩

def skipDigits (i : Input) : Input := skipDigitsFrom i.rest i.index

/-- The fault at this place. -/
def fault (i : Input) (f : Fault) : FaultAt := ⟨f, i.index⟩

/-- The fault at the next byte; at the end of the text there is none. -/
def faultAtNext (i : Input) (f : Fault) : FaultAt :=
  ⟨f, if i.rest.isEmpty then i.index else i.index + 1⟩

end Input

/-! ## Strings -/

def hexValue? (c : Char) : Option Nat :=
  if c.isDigit then some (c.toNat - 48)
  else if 'a' ≤ c ∧ c ≤ 'f' then some (c.toNat - 87)
  else if 'A' ≤ c ∧ c ≤ 'F' then some (c.toNat - 55)
  else none

/-- The value of four hexadecimal digits. Fewer than four bytes end the text. -/
def hexEscape (i : Input) : Except FaultAt (Nat × Input) :=
  match i.rest with
  | a :: b :: c :: d :: r =>
    match hexValue? a, hexValue? b, hexValue? c, hexValue? d with
    | some a, some b, some c, some d => .ok (((a * 16 + b) * 16 + c) * 16 + d, ⟨r, i.index + 4⟩)
    | _, _, _, _ => .error ⟨.invalidEscape, i.index + 4⟩
  | cs =>
    let size := (String.ofList cs).utf8ByteSize
    if size < 4 then .error ⟨.endInString, i.index + size⟩
    else .error ⟨.invalidEscape, i.index + 4⟩

/-- The character after a backslash and a `u`. Surrogates must come in pairs. -/
def unicodeEscape (i : Input) : Except FaultAt (Char × Input) := do
  let (n, i) ← hexEscape i
  if 0xDC00 ≤ n ∧ n ≤ 0xDFFF then throw (i.fault .loneSurrogate)
  if n < 0xD800 ∨ 0xDBFF < n then return (Char.ofNat n, i)
  match i.rest with
  | [] => throw (i.fault .endInString)
  | '\\' :: [] => throw (i.drop1.fault .endInString)
  | '\\' :: 'u' :: _ =>
    let (low, i) ← hexEscape i.drop1.drop1
    if low < 0xDC00 ∨ 0xDFFF < low then throw (i.fault .loneSurrogate)
    return (Char.ofNat (0x10000 + (n - 0xD800) * 0x400 + (low - 0xDC00)), i)
  | '\\' :: _ => throw ⟨.endOfHexEscape, i.index + 2⟩
  | _ => throw ⟨.endOfHexEscape, i.index + 1⟩

def simpleEscape? : Char → Option Char
  | '"' => some '"'
  | '\\' => some '\\'
  | '/' => some '/'
  | 'b' => some '\x08'
  | 'f' => some '\x0c'
  | 'n' => some '\n'
  | 'r' => some '\r'
  | 't' => some '\t'
  | _ => none

/-- Reads up to the closing quote; `skip` counts the characters of an escape still to be passed. -/
def readStringFrom : Nat → List Char → Nat → List Char → Except FaultAt (String × Input)
  | _, [], n, _ => .error ⟨.endInString, n⟩
  | skip + 1, c :: r, n, acc => readStringFrom skip r (n + c.utf8Size) acc
  | 0, c :: r, n, acc =>
    if c = '"' then .ok (String.ofList acc.reverse, ⟨r, n + 1⟩)
    else if c = '\\' then
      match r with
      | [] => .error ⟨.endInString, n + 1⟩
      | 'u' :: r' =>
        match unicodeEscape ⟨r', n + 2⟩ with
        | .error f => .error f
        | .ok (d, i) => readStringFrom (i.index - (n + 1)) r (n + 1) (d :: acc)
      | e :: _ =>
        match simpleEscape? e with
        | some d => readStringFrom 1 r (n + 1) (d :: acc)
        | none => .error ⟨.invalidEscape, n + 2⟩
    else if c.toNat < 0x20 then .error ⟨.controlCharacter, n + 1⟩
    else readStringFrom 0 r (n + c.utf8Size) (c :: acc)

/-- Reads a string after its opening quote. -/
def readString (i : Input) : Except FaultAt (String × Input) :=
  readStringFrom 0 i.rest i.index []

/-! ## Numbers -/

def maxNatural : Nat := UInt64.size - 1

/-- A power of ten that a float can hold. -/
def power10 (k : Nat) : Float := OfScientific.ofScientific 1 false k

/-- `significand · 10 ^ exponent` in steps of at most `1e308`; `none` beyond the largest float. -/
def scale : Nat → Float → Int → Option Float
  | 0, x, _ => some x
  | fuel + 1, x, exponent =>
    if exponent.natAbs ≤ 308 then
      if 0 ≤ exponent then
        let y := x * power10 exponent.natAbs
        if y.isInf then none else some y
      else some (x / power10 exponent.natAbs)
    else if x == 0.0 then some x
    else if 0 ≤ exponent then none
    else scale fuel (x / power10 308) (exponent + 308)

def floatOf (negative : Bool) (significand : Nat) (exponent : Int) : Option Number :=
  (scale 10000 significand.toUInt64.toFloat exponent).map fun x =>
    .float (if negative then -x else x)

/-- A number as read, and what is left; the number is a fault if it is too large. -/
abbrev ReadNumber := Except FaultAt (Except FaultAt Number × Input)

def finishFloat (negative : Bool) (significand : Nat) (exponent : Int) (i : Input) :
    ReadNumber :=
  match floatOf negative significand exponent with
  | some n => .ok (.ok n, i)
  | none => .ok (.error (i.fault .numberOutOfRange), i)

/-- The exponent's digits; `none` with the place once they exceed 32 bits. -/
def exponentDigits : List Char → Nat → Nat → Option Nat × Input
  | [], n, acc => (some acc, ⟨[], n⟩)
  | c :: r, n, acc =>
    if c.isDigit then
      let value := acc * 10 + (c.toNat - 48)
      if value > Nat.pow 2 31 - 1 then (none, ⟨r, n + 1⟩) else exponentDigits r (n + 1) value
    else (some acc, ⟨c :: r, n⟩)

/-- After the letter `e`. -/
def readExponent (negative : Bool) (significand : Nat) (exponent : Int) (i : Input) :
    ReadNumber :=
  let (down, i) := match i.rest with
    | '+' :: _ => (false, i.drop1)
    | '-' :: _ => (true, i.drop1)
    | _ => (false, i)
  match i.rest with
  | [] => .error (i.fault .endInValue)
  | c :: _ =>
    if c.isDigit then
      match exponentDigits i.rest i.index 0 with
      | (some e, i) =>
        finishFloat negative significand
          (if down then exponent - Int.ofNat e else exponent + Int.ofNat e) i
      | (none, i) =>
        if significand ≠ 0 ∧ ¬ down then .ok (.error (i.fault .numberOutOfRange), i.skipDigits)
        else .ok (.ok (.float (if negative then -0.0 else 0.0)), i.skipDigits)
    else .error (i.drop1.fault .invalidNumber)

def afterDigits (negative : Bool) (significand : Nat) (exponent : Int) (i : Input) :
    ReadNumber :=
  match i.rest with
  | 'e' :: _ | 'E' :: _ => readExponent negative significand exponent i.drop1
  | _ => finishFloat negative significand exponent i

/-- Digits after the point; those that do not fit are dropped. -/
def fractionDigits : List Char → Nat → Nat → Int → Nat × Int × Input
  | [], n, significand, exponent => (significand, exponent, ⟨[], n⟩)
  | c :: r, n, significand, exponent =>
    if c.isDigit then
      let value := significand * 10 + (c.toNat - 48)
      if value > maxNatural then (significand, exponent, Input.skipDigits ⟨c :: r, n⟩)
      else fractionDigits r (n + 1) value (exponent - 1)
    else (significand, exponent, ⟨c :: r, n⟩)

/-- After the point. -/
def readFraction (negative : Bool) (significand : Nat) (exponent : Int) (i : Input) :
    ReadNumber :=
  let (value, e, next) := fractionDigits i.rest i.index significand exponent
  match i.rest with
  | [] => .error (i.faultAtNext .endInValue)
  | c :: _ =>
    if c.isDigit then
      afterDigits negative value e next
    else .error (i.faultAtNext .invalidNumber)

/-- Digits before the point, as far as they fit, and how many do not. -/
def integerDigits : List Char → Nat → Nat → Nat × Option Input × Input
  | [], n, acc => (acc, none, ⟨[], n⟩)
  | c :: r, n, acc =>
    if c.isDigit then
      let value := acc * 10 + (c.toNat - 48)
      if value > maxNatural then (acc, some ⟨c :: r, n⟩, Input.skipDigits ⟨c :: r, n⟩)
      else integerDigits r (n + 1) value
    else (acc, none, ⟨c :: r, n⟩)

def integerValue (negative : Bool) (n : Nat) : Number :=
  if !negative then .natural n
  else if 0 < n ∧ n ≤ Nat.pow 2 63 then .negative n
  else .float (-n.toUInt64.toFloat)

/-- Reads a number after its sign. -/
def readUnsigned (negative : Bool) (i : Input) : ReadNumber :=
  match i.rest with
  | [] => .error (i.fault .endInValue)
  | c :: r =>
    if c = '0' ∧ (r.head?.map Char.isDigit).getD false then
      .error (i.drop1.faultAtNext .invalidNumber)
    else if c.isDigit then
      let (value, overflow?, next) := integerDigits i.rest i.index 0
      let exponent : Int := match overflow? with
        | some from_ => Int.ofNat (next.index - from_.index)
        | none => 0
      match next.rest with
      | '.' :: _ => readFraction negative value exponent next.drop1
      | 'e' :: _ | 'E' :: _ => readExponent negative value exponent next.drop1
      | _ =>
        if overflow?.isSome then finishFloat negative value exponent next
        else .ok (.ok (integerValue negative value), next)
    else .error (i.drop1.fault .invalidNumber)

/-! ## Values -/

def readWord (expected : List Char) (i : Input) : Except FaultAt Input :=
  match expected with
  | [] => .ok i
  | e :: es =>
    match i.rest with
    | [] => .error (i.fault .endInValue)
    | c :: _ => if c = e then readWord es i.drop1 else .error ⟨.expectedWord, i.index + 1⟩

def scalar (i : Except FaultAt Input) (make : Nat → Document) : Document × Option Input :=
  match i with
  | .error f => (.broken f, none)
  | .ok i => (make i.index, some i)

mutual

/-- Reads a value. Nothing is left when the text broke off. `depth` containers may still open, and
`fuel` bounds the steps. -/
def readValue : Nat → Nat → Input → Document × Option Input
  | 0, _, i => (.broken (i.fault .tooDeep), none)
  | fuel + 1, depth, i =>
    let i := i.skipBlanks
    match i.rest with
    | [] => (.broken (i.faultAtNext .endInValue), none)
    | 'n' :: _ => scalar (readWord "ull".toList i.drop1) .null
    | 't' :: _ => scalar (readWord "rue".toList i.drop1) (.bool true)
    | 'f' :: _ => scalar (readWord "alse".toList i.drop1) (.bool false)
    | '"' :: _ =>
      match readString i.drop1 with
      | .error f => (.broken f, none)
      | .ok (s, i) => (.string s i.index, some i)
    | '[' :: _ =>
      match depth with
      | 0 | 1 => (.broken (i.faultAtNext .tooDeep), none)
      | depth + 1 =>
        let (items, ending) := readItems fuel depth true i.drop1
        (.array items (match ending with
          | .error f? => f?
          | .ok _ => none) i.index, ending.toOption)
    | '\x7b' :: _ =>
      match depth with
      | 0 | 1 => (.broken (i.faultAtNext .tooDeep), none)
      | depth + 1 =>
        let (members, ending) := readMembers fuel depth true i.drop1
        (.object members (match ending with
          | .error f? => f?
          | .ok _ => none) i.index, ending.toOption)
    | c :: _ =>
      if c = '-' ∨ c.isDigit then
        match readUnsigned (c = '-') (if c = '-' then i.drop1 else i) with
        | .error f => (.broken f, none)
        | .ok (n, i) => (.number n i.index, some i)
      else (.broken (i.faultAtNext .expectedValue), none)

/-- The items of an array, and what is left after its bracket. An error without a fault means that
the last item broke off. -/
def readItems : Nat → Nat → Bool → Input → List Document × Except (Option FaultAt) Input
  | 0, _, _, i => ([], .error (some (i.fault .tooDeep)))
  | fuel + 1, depth, first, i =>
    let i := i.skipBlanks
    let item (i : Input) : List Document × Except (Option FaultAt) Input :=
      match readValue fuel depth i with
      | (d, none) => ([d], .error none)
      | (d, some i) =>
        let (ds, ending) := readItems fuel depth false i
        (d :: ds, ending)
    match i.rest with
    | [] => ([], .error (some (i.faultAtNext .endInList)))
    | ']' :: _ => ([], .ok i.drop1)
    | ',' :: _ =>
      if first then item i
      else
        let i := i.drop1.skipBlanks
        match i.rest with
        | [] => ([], .error (some (i.faultAtNext .endInValue)))
        | ']' :: _ => ([], .error (some (i.faultAtNext .trailingComma)))
        | _ => item i
    | _ => if first then item i else ([], .error (some (i.faultAtNext .expectedListEnd)))

/-- The members of an object, likewise. -/
def readMembers : Nat → Nat → Bool → Input →
    List (String × Document) × Except (Option FaultAt) Input
  | 0, _, _, i => ([], .error (some (i.fault .tooDeep)))
  | fuel + 1, depth, first, i =>
    let i := i.skipBlanks
    let member (i : Input) : List (String × Document) × Except (Option FaultAt) Input :=
      match readString i.drop1 with
      | .error f => ([], .error (some f))
      | .ok (key, i) =>
        let i := i.skipBlanks
        match i.rest with
        | [] => ([(key, .broken (i.faultAtNext .endInObject))], .error none)
        | ':' :: _ =>
          match readValue fuel depth i.drop1 with
          | (d, none) => ([(key, d)], .error none)
          | (d, some i) =>
            let (ds, ending) := readMembers fuel depth false i
            ((key, d) :: ds, ending)
        | _ => ([(key, .broken (i.faultAtNext .expectedColon))], .error none)
    match i.rest with
    | [] => ([], .error (some (i.faultAtNext .endInObject)))
    | '\x7d' :: _ => ([], .ok i.drop1)
    | ',' :: _ =>
      if first then ([], .error (some (i.faultAtNext .keyNotString)))
      else
        let i := i.drop1.skipBlanks
        match i.rest with
        | [] => ([], .error (some (i.faultAtNext .endInValue)))
        | '"' :: _ => member i
        | '\x7d' :: _ => ([], .error (some (i.faultAtNext .trailingComma)))
        | _ => ([], .error (some (i.faultAtNext .keyNotString)))
    | '"' :: _ =>
      if first then member i else ([], .error (some (i.faultAtNext .expectedObjectEnd)))
    | _ =>
      ([], .error (some (i.faultAtNext (if first then .keyNotString else .expectedObjectEnd))))

end

/-- How many containers may stand inside each other, plus one. -/
def maxDepth : Nat := 128

/-- A whole text: its value, and a fault if something follows it. -/
structure Text where
  document : Document
  trailing : Option FaultAt

def read (text : String) : Text :=
  let cs := text.toList
  match readValue (2 * cs.length + 2) maxDepth ⟨cs, 0⟩ with
  | (d, none) => ⟨d, none⟩
  | (d, some i) =>
    let i := i.skipBlanks
    ⟨d, if i.rest.isEmpty then none else some (i.faultAtNext .trailingCharacters)⟩

/-! ## Values -/

namespace Document

mutual

/-- The value of a document that does not break off; keys are sorted and the last value wins. -/
def value : Document → Except FaultAt Value
  | .null _ => .ok .null
  | .bool b _ => .ok (.bool b)
  | .number n _ => n.map .number
  | .string s _ => .ok (.string s)
  | .array items ending _ => do
    let vs ← valueItems items
    match ending with
    | some f => throw f
    | none => return .array vs
  | .object members ending _ => do
    let ms ← valueMembers members
    match ending with
    | some f => throw f
    | none => return .object (Value.sortMembers ms)
  | .broken f => .error f

def valueItems : List Document → Except FaultAt (List Value)
  | [] => .ok []
  | d :: ds => do return (← value d) :: (← valueItems ds)

def valueMembers : List (String × Document) → Except FaultAt (List (String × Value))
  | [] => .ok []
  | (k, d) :: ds => do return (k, ← value d) :: (← valueMembers ds)

end

end Document

/-- The value that a text denotes. -/
def parse (text : String) : Except FaultAt Value := do
  let t := read text
  let v ← t.document.value
  match t.trailing with
  | some f => throw f
  | none => return v

end ModuleBundler.Json
