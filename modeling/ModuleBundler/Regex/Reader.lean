import ModuleBundler.Regex.Expression
import ModuleBundler.Regex.Property

/-!
# Reading patterns

A pattern is read into an expression. Flags that are set inside a group hold up to its end, across
the bars that separate alternatives.
-/

namespace ModuleBundler.Regex

/-- Why a text is no pattern. -/
inductive Fault where
  | unclosedGroup
  | unopenedGroup
  | lookAround
  | groupName
  | repeatedGroupName
  | flags
  | nothingToRepeat
  | repetition
  | escape
  | backreference
  | property
  | unclosedClass
  | classRange
  | classItem
  | notText
  | tooDeep
  | tooLarge
  deriving DecidableEq

def Fault.message : Fault → String
  | .unclosedGroup => "unclosed group"
  | .unopenedGroup => "unopened group"
  | .lookAround => "look-around is not supported"
  | .groupName => "invalid group name"
  | .repeatedGroupName => "duplicate group name"
  | .flags => "invalid flags"
  | .nothingToRepeat => "repetition operator missing expression"
  | .repetition => "invalid repetition"
  | .escape => "invalid escape sequence"
  | .backreference => "backreferences are not supported"
  | .property => "unknown character property"
  | .unclosedClass => "unclosed character class"
  | .classRange => "invalid character class range"
  | .classItem => "invalid item in character class"
  | .notText => "pattern can match invalid text"
  | .tooDeep => "pattern is nested too deeply"
  | .tooLarge => "pattern is too large"

structure Flags where
  caseless : Bool := false
  multiLine : Bool := false
  dotAll : Bool := false
  lazy : Bool := false
  unicode : Bool := true
  returns : Bool := false
  verbose : Bool := false

def Flags.set (flags : Flags) (flag : Char) (value : Bool) : Option Flags :=
  match flag with
  | 'i' => some { flags with caseless := value }
  | 'm' => some { flags with multiLine := value }
  | 's' => some { flags with dotAll := value }
  | 'U' => some { flags with lazy := value }
  | 'u' => some { flags with unicode := value }
  | 'R' => some { flags with returns := value }
  | 'x' => some { flags with verbose := value }
  | _ => none

namespace Reader

structure State where
  rest : List Char
  flags : Flags := {}
  names : List String := []

end Reader

abbrev Reader := StateT Reader.State (Except Fault)

namespace Reader

def flags : Reader Flags := return (← get).flags

def setFlags (flags : Flags) : Reader Unit := modify fun s => { s with flags }

def peek? : Reader (Option Char) := return (← get).rest.head?

/-- The next character, or a fault at the end of the pattern. -/
def peek (f : Fault) : Reader Char := do
  match ← peek? with
  | some c => return c
  | none => throw f

def advance : Reader Unit := modify fun s => { s with rest := s.rest.drop 1 }

/-- Drops blanks and comments up to the end of their line. -/
def dropBlanks : Bool → List Char → List Char
  | _, [] => []
  | true, c :: r => dropBlanks (c != '\n') r
  | false, c :: r =>
    if CharacterSet.space.contains c then dropBlanks false r
    else if c = '#' then dropBlanks true r
    else c :: r

/-- Blanks and comments mean nothing in a verbose pattern. -/
def skipBlanks : Reader Unit := modify fun s =>
  if s.flags.verbose then { s with rest := dropBlanks false s.rest } else s

def bump : Reader Unit := do
  advance
  skipBlanks

/-- Passes an exact text if it comes next. -/
def accept (text : String) : Reader Bool := do
  let s ← get
  if text.toList.isPrefixOf s.rest then
    set { s with rest := s.rest.drop text.length }
    return true
  else return false

/-- Whether one of the texts comes next. -/
def isNext (texts : List String) : Reader Bool := do
  let rest := (← get).rest
  return texts.any fun t => t.toList.isPrefixOf rest

/-- Takes characters while they satisfy `p`, passing blanks after each. -/
def takeWhileFrom (p : Char → Bool) : Nat → List Char → Reader (List Char)
  | 0, acc => return acc.reverse
  | fuel + 1, acc => do
    match ← peek? with
    | some c => if p c then do bump; takeWhileFrom p fuel (c :: acc) else return acc.reverse
    | none => return acc.reverse

def takeWhile (p : Char → Bool) : Reader (List Char) := do
  takeWhileFrom p (← get).rest.length []

/-! ## Escapes -/

/-- What a single item of a pattern stands for. -/
inductive Atom where
  | literal (c : Char)
  | set (s : CharacterSet)
  | assertion (a : Assertion)

def isMeta (c : Char) : Bool := "\\.+*?()|[]\x7b\x7d^$#&-~".toList.contains c

/-- Characters that a backslash leaves as they are. -/
def isEscapable (c : Char) : Bool :=
  isMeta c || (c.toNat < 0x80 && !c.isAlphanum && c != '<' && c != '>')

def hexDigit? (c : Char) : Option Nat :=
  if c.isDigit then some (c.toNat - 48)
  else if 'a' ≤ c ∧ c ≤ 'f' then some (c.toNat - 87)
  else if 'A' ≤ c ∧ c ≤ 'F' then some (c.toNat - 55)
  else none

def hexCharacter (digits : List Char) : Reader Char := do
  let values := digits.filterMap hexDigit?
  if digits.isEmpty || values.length != digits.length then throw .escape
  let n := values.foldl (fun n d => n * 16 + d) 0
  if h : n.isValidChar then return Char.ofNatAux n h else throw .escape

def takeExactly : Nat → List Char → Reader (List Char)
  | 0, acc => return acc.reverse
  | n + 1, acc => do
    let c ← peek .escape
    if (hexDigit? c).isNone then throw .escape
    bump
    takeExactly n (c :: acc)

/-- After the letter of an escape that gives a code point. -/
def readHex (letter : Char) : Reader Char := do
  bump
  if (← peek .escape) == '\x7b' then
    bump
    let digits ← takeWhile (· != '\x7d')
    let _ ← peek .escape
    bump
    hexCharacter digits
  else
    let count := if letter = 'x' then 2 else if letter = 'u' then 4 else 8
    let c ← hexCharacter (← takeExactly count [])
    if letter = 'x' && !(← flags).unicode && c.toNat > 0x7F then throw .notText
    return c

/-- A set in the case mode of the pattern, negated if asked. Without Unicode a negated set holds
parts of characters. -/
def finishSet (negated : Bool) (s : CharacterSet) : Reader CharacterSet := do
  let flags ← flags
  let s := if !flags.caseless then s
    else if flags.unicode then .caseless s
    else .asciiCaseless s
  if !negated then return s
  if !flags.unicode then throw .notText
  return .complement s

/-- After the letter of a property escape. -/
def readProperty (negated : Bool) : Reader CharacterSet := do
  bump
  let name ←
    if (← peek .escape) == '\x7b' then do
      bump
      let name ← takeWhile (· != '\x7d')
      let _ ← peek .escape
      advance
      pure name
    else do
      let c ← peek .escape
      if c = '\\' then throw .property
      bump
      pure [c]
  if !(← flags).unicode then throw .notText
  match property? name with
  | some property => finishSet (negated != property.negated) property.set
  | none => throw .property

def readNamedSet (letter : Char) : Reader CharacterSet := do
  bump
  let unicode := (← flags).unicode
  let s := match letter.toLower with
    | 'd' => if unicode then CharacterSet.digit else CharacterSet.asciiDigit
    | 's' => if unicode then CharacterSet.space else CharacterSet.asciiSpace
    | _ => if unicode then CharacterSet.word else CharacterSet.asciiWord
  if !letter.isUpper then return s
  if !unicode then throw .notText
  return .complement s

def wordSet : Reader CharacterSet := do
  return if (← flags).unicode then CharacterSet.word else CharacterSet.asciiWord

/-- After `\b`: a name in braces narrows the boundary; braces that hold no name are left. -/
def readBoundary : Reader Assertion := do
  let word ← wordSet
  let before ← get
  if (← peek?) != some '\x7b' then return .boundary word
  bump
  let isNamePart (c : Char) : Bool := c.isAlpha || c == '-'
  let c ← peek .escape
  if !isNamePart c then
    set before
    return .boundary word
  let name ← takeWhile isNamePart
  if (← peek .escape) != '\x7d' then throw .escape
  advance
  match String.ofList name with
  | "start" => return .wordStart word
  | "end" => return .wordEnd word
  | "start-half" => return .wordStartHalf word
  | "end-half" => return .wordEndHalf word
  | _ => throw .escape

/-- Reads from a backslash on. -/
def readEscape : Reader Atom := do
  advance
  let c ← peek .escape
  if c.isDigit then throw .backreference
  match c with
  | 'x' | 'u' | 'U' => return .literal (← readHex c)
  | 'p' => return .set (← readProperty false)
  | 'P' => return .set (← readProperty true)
  | 'd' | 's' | 'w' | 'D' | 'S' | 'W' => return .set (← readNamedSet c)
  | _ =>
    advance
    if isEscapable c then return .literal c
    match c with
    | 'a' => return .literal '\x07'
    | 'f' => return .literal '\x0c'
    | 't' => return .literal '\t'
    | 'n' => return .literal '\n'
    | 'r' => return .literal '\r'
    | 'v' => return .literal '\x0b'
    | 'A' => return .assertion .textStart
    | 'z' => return .assertion .textEnd
    | 'b' => return .assertion (← readBoundary)
    | 'B' => return .assertion (.inside (← wordSet))
    | '<' => return .assertion (.wordStart (← wordSet))
    | '>' => return .assertion (.wordEnd (← wordSet))
    | _ => throw .escape

/-! ## Bracketed classes -/

/-- Something read, and how deeply it nests. -/
structure Nested (α : Type) where
  value : α
  depth : Nat

inductive SetOperation where
  | intersection
  | difference
  | symmetricDifference

def SetOperation.apply : SetOperation → CharacterSet → CharacterSet → CharacterSet
  | .intersection => .intersection
  | .difference => CharacterSet.difference
  | .symmetricDifference => CharacterSet.symmetricDifference

/-- The items of a class and the operations in front of them, which associate to the left. -/
structure ClassParts where
  items : List (Nested CharacterSet) := []
  left? : Option (Nested CharacterSet × SetOperation) := none

def unite (items : List (Nested CharacterSet)) : Nested CharacterSet :=
  match items with
  | [] => ⟨CharacterSet.none, 0⟩
  | [s] => s
  | _ => ⟨CharacterSet.ofList (items.map (·.value)), 1 + (items.map (·.depth)).foldl max 0⟩

def ClassParts.push (parts : ClassParts) (s : CharacterSet) (depth : Nat) : ClassParts :=
  { parts with items := ⟨s, depth⟩ :: parts.items }

def ClassParts.combine (parts : ClassParts) : Reader (Nested CharacterSet) := do
  let right := unite parts.items
  match parts.left? with
  | none => return right
  | some (left, op) =>
    return ⟨op.apply (← finishSet false left.value) (← finishSet false right.value),
      1 + max left.depth right.depth⟩

def literalSet (c : Char) : Reader CharacterSet := do
  if !(← flags).unicode && c.toNat > 0x7F then throw .notText
  return .single c

def readClassAtom : Reader Atom := do
  let c ← peek .unclosedClass
  if c = '\\' then readEscape
  else
    advance
    return .literal c

/-- A character, an escape or a range. -/
def readClassItem : Reader CharacterSet := do
  let first ← readClassAtom
  skipBlanks
  let c ← peek .unclosedClass
  let following := (← get).rest.drop 1
  let following := if (← flags).verbose then dropBlanks false following else following
  if c != '-' || following.head? == some ']' || following.head? == some '-' then
    match first with
    | .literal c => literalSet c
    | .set s => return s
    | .assertion _ => throw .classItem
  else
    bump
    let last ← readClassAtom
    match first, last with
    | .literal a, .literal b =>
      if b < a then throw .classRange
      let _ ← literalSet b
      return .range a b
    | _, _ => throw .classItem

/-- Leading hyphens stand for themselves, and so does a bracket in front of everything else. -/
def readLeadingItems : Nat → ClassParts → Reader ClassParts
  | 0, parts => return parts
  | fuel + 1, parts => do
    let c ← peek .unclosedClass
    if c = '-' then
      bump
      readLeadingItems fuel (parts.push (.single '-') 0)
    else if c = ']' && parts.items.isEmpty then
      bump
      let _ ← peek .unclosedClass
      return parts.push (.single ']') 0
    else return parts

/-- A named class such as `[:alpha:]`; anything else leaves the reader where it was. -/
def readNamedClass? : Reader (Option CharacterSet) := do
  let before ← get
  if !(← accept "[:") then return none
  let negated ← accept "^"
  let rest := (← get).rest
  let name := rest.takeWhile (· != ':')
  set { before with rest := rest.drop name.length }
  if !(← accept ":]") then
    set before
    return none
  match CharacterSet.asciiClass? (String.ofList name) with
  | some s => return some (← finishSet negated s)
  | none =>
    set before
    return none

mutual

/-- Reads a class from its bracket on. -/
def readClass : Nat → Reader (Nested CharacterSet)
  | 0 => throw .tooDeep
  | fuel + 1 => do
    bump
    let negated := (← peek .unclosedClass) == '^'
    if negated then bump
    let parts ← readLeadingItems (← get).rest.length {}
    let s ← readClassParts fuel parts
    return ⟨← finishSet negated s.value, s.depth + 1⟩

/-- Reads up to the closing bracket. -/
def readClassParts : Nat → ClassParts → Reader (Nested CharacterSet)
  | 0, _ => throw .tooDeep
  | fuel + 1, parts => do
    skipBlanks
    let _ ← peek .unclosedClass
    if ← isNext ["["] then
      match ← readNamedClass? with
      | some s => readClassParts fuel (parts.push s 0)
      | none =>
        let s ← readClass fuel
        readClassParts fuel (parts.push s.value s.depth)
    else if ← accept "]" then parts.combine
    else if ← accept "&&" then
      readClassParts fuel { left? := some (← parts.combine, .intersection) }
    else if ← accept "--" then
      readClassParts fuel { left? := some (← parts.combine, .difference) }
    else if ← accept "~~" then
      readClassParts fuel { left? := some (← parts.combine, .symmetricDifference) }
    else
      readClassParts fuel (parts.push (← readClassItem) 0)

end

/-! ## Groups -/

/-- What an opening parenthesis turns out to begin. -/
inductive Opening where
  | group (flags : Flags)
  | flags (flags : Flags)

def isNameStart (c : Char) : Bool := c == '_' || Unicode.isAlphabetic c

def isNamePart (c : Char) : Bool :=
  c == '_' || c == '.' || c == '[' || c == ']' || Unicode.isAlphanumeric c

def readGroupName : Reader Unit := do
  let s ← get
  let name := s.rest.takeWhile (· != '>')
  match name with
  | [] => throw .groupName
  | c :: r =>
    if name.length == s.rest.length then throw .groupName
    if !(isNameStart c && r.all isNamePart) then throw .groupName
    let name := String.ofList name
    if s.names.contains name then throw .repeatedGroupName
    set { s with rest := s.rest.drop (r.length + 2), names := name :: s.names }

/-- Reads flags up to the character that ends them; `seen` holds those read so far. -/
def readFlags : Nat → List Char → Flags → Reader (List Char × Flags)
  | 0, _, _ => throw .flags
  | fuel + 1, seen, flags => do
    let c ← peek .flags
    if c = ':' || c = ')' then
      if seen.head? == some '-' then throw .flags
      return (seen, flags)
    if seen.contains c then throw .flags
    advance
    if c = '-' then readFlags fuel (c :: seen) flags
    else
      match flags.set c (!seen.contains '-') with
      | some flags => readFlags fuel (c :: seen) flags
      | none => throw .flags

/-- Reads from an opening parenthesis on. -/
def readOpening : Reader Opening := do
  bump
  if ← isNext ["?=", "?!", "?<=", "?<!"] then throw .lookAround
  if ← isNext ["?P<", "?<"] then
    if !(← accept "?P<") then
      let _ ← accept "?<"
    readGroupName
    return .group (← flags)
  if !(← accept "?") then return .group (← flags)
  let _ ← peek .unclosedGroup
  let (seen, flags) ← readFlags ((← get).rest.length + 1) [] (← flags)
  let close ← peek .flags
  advance
  if close = ':' then return .group flags
  if seen.isEmpty then throw .nothingToRepeat
  return .flags flags

/-! ## Repetitions -/

/-- Decimal digits between blanks, as far as they fit in 32 bits. -/
def readCount : Reader Nat := do
  modify fun s => { s with rest := s.rest.dropWhile CharacterSet.space.contains }
  let digits ← takeWhile Char.isDigit
  modify fun s => { s with rest := s.rest.dropWhile CharacterSet.space.contains }
  skipBlanks
  if digits.isEmpty then throw .repetition
  let n := digits.foldl (fun n c => n * 10 + (c.toNat - 48)) 0
  if n < UInt32.size then return n else throw .repetition

/-- Reads from an opening brace on. -/
def readCounts : Reader (Nat × Option Nat) := do
  bump
  let _ ← peek .repetition
  let least ← readCount
  let counts ←
    if (← peek .repetition) == ',' then do
      bump
      if (← peek .repetition) == '\x7d' then pure (least, none)
      else do
        let most ← readCount
        pure (least, some most)
    else pure (least, some least)
  if (← peek .repetition) != '\x7d' then throw .repetition
  bump
  if counts.2.any (· < counts.1) then throw .repetition
  return counts

/-! ## Expressions -/

/-- A part of a sequence; flags leave a mark that cannot be repeated. -/
inductive Part where
  | expression (e : Nested Expression)
  | flagMark

def Part.nested : Part → Nested Expression
  | .expression e => e
  | .flagMark => ⟨.empty, 0⟩

def sequenceOf (parts : List Part) : Nested Expression :=
  match parts.reverse.map Part.nested with
  | [] => ⟨.empty, 0⟩
  | [e] => e
  | es => ⟨.ofSequence (es.map (·.value)), 1 + (es.map (·.depth)).foldl max 0⟩

def alternativesOf (branches : List (Nested Expression)) : Nested Expression :=
  match branches.reverse with
  | [] => ⟨.empty, 0⟩
  | [e] => e
  | e :: es =>
    ⟨es.foldl (fun a b => .either a b.value) e.value,
      1 + ((e :: es).map (·.depth)).foldl max 0⟩

def literalExpression (c : Char) : Reader Expression := do
  let flags ← flags
  return .character <|
    if !flags.caseless then .single c
    else if flags.unicode then .caseless (.single c)
    else .asciiCaseless (.single c)

/-- Repeats the last part of a sequence. -/
def repeatLast (parts : List Part) (least : Nat) (most : Option Nat) : Reader (List Part) := do
  if (← peek?) == some '?' then advance
  match parts with
  | .expression e :: r => return .expression ⟨.repeated e.value least most, e.depth + 1⟩ :: r
  | _ => throw .nothingToRepeat

/-- A dot, an anchor, an escape or a character that stands for itself. -/
def readPrimitive (c : Char) : Reader Expression := do
  let flags ← flags
  match c with
  | '\\' =>
    match ← readEscape with
    | .literal c => literalExpression c
    | .set s => return .character s
    | .assertion a => return .assertion a
  | '.' =>
    advance
    if !flags.unicode then throw .notText
    if flags.dotAll then return .character CharacterSet.all
    return .character <| .complement <|
      if flags.returns then .union (.single '\n') (.single '\r') else .single '\n'
  | '^' =>
    advance
    return .assertion (if flags.multiLine then .lineStart flags.returns else .textStart)
  | '$' =>
    advance
    return .assertion (if flags.multiLine then .lineEnd flags.returns else .textEnd)
  | c =>
    advance
    literalExpression c

/-- Reads alternatives up to a closing parenthesis or the end of the pattern. -/
def readAlternatives : Nat → List Part → List (Nested Expression) → Reader (Nested Expression)
  | 0, _, _ => throw .tooDeep
  | fuel + 1, parts, branches => do
    skipBlanks
    match ← peek? with
    | none | some ')' => return alternativesOf (sequenceOf parts :: branches)
    | some '|' =>
      advance
      readAlternatives fuel [] (sequenceOf parts :: branches)
    | some '(' =>
      let outer ← flags
      match ← readOpening with
      | .flags flags =>
        setFlags flags
        readAlternatives fuel (.flagMark :: parts) branches
      | .group flags =>
        setFlags flags
        let body ← readAlternatives fuel [] []
        let _ ← peek .unclosedGroup
        setFlags outer
        advance
        readAlternatives fuel (.expression ⟨body.value, body.depth + 1⟩ :: parts) branches
    | some '[' =>
      let s ← readClass fuel
      readAlternatives fuel (.expression ⟨.character s.value, s.depth⟩ :: parts) branches
    | some '?' =>
      advance
      readAlternatives fuel (← repeatLast parts 0 (some 1)) branches
    | some '*' =>
      advance
      readAlternatives fuel (← repeatLast parts 0 none) branches
    | some '+' =>
      advance
      readAlternatives fuel (← repeatLast parts 1 none) branches
    | some '\x7b' =>
      if !(parts.head? matches some (.expression _)) then throw .nothingToRepeat
      let (least, most) ← readCounts
      readAlternatives fuel (← repeatLast parts least most) branches
    | some c =>
      let e ← readPrimitive c
      readAlternatives fuel (.expression ⟨e, 0⟩ :: parts) branches

end Reader

/-- How deeply parts of a pattern may nest. -/
def maxDepth : Nat := 250

/-- How many characters a pattern may have once its repetitions are written out. -/
def maxWeight : Nat := 300000

def Expression.read (pattern : String) : Except Fault Expression := do
  let cs := pattern.toList
  let (e, s) ← (Reader.readAlternatives (2 * cs.length + 2) [] []).run { rest := cs }
  if !s.rest.isEmpty then throw .unopenedGroup
  if e.depth > maxDepth then throw .tooDeep
  if e.value.weight > maxWeight then throw .tooLarge
  return e.value

end ModuleBundler.Regex
