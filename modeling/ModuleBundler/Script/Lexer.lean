import ModuleBundler.Script.Literal
import ModuleBundler.Script.Token

/-!
# Reading one token

`Cursor.scan` skips blanks and comments and reads the next token. Whether a slash starts a regular
expression and whether a brace continues a template depends on the grammar, so these two are read
apart. A fault is the offset that a diagnostic about the token would point at.
-/

namespace ModuleBundler.Script

/-- The characters that are left, and the offset of the first of them. -/
structure Cursor where
  rest : List Char
  offset : Nat
  deriving Inhabited

namespace Cursor

def ofString (text : String) : Cursor := ⟨text.toList, 0⟩

def drop (c : Cursor) (n : Nat) : Cursor := ⟨c.rest.drop n, c.offset + n⟩

def skipWhileFrom (p : Char → Bool) : List Char → Nat → Cursor
  | [], n => ⟨[], n⟩
  | c :: r, n => if p c then skipWhileFrom p r (n + 1) else ⟨c :: r, n⟩

def skipWhile (p : Char → Bool) (c : Cursor) : Cursor := skipWhileFrom p c.rest c.offset

end Cursor

/-- What a scan yields besides the token. -/
structure Scanned where
  token : Token
  /-- Where the token starts and where the text after it does. -/
  start : Cursor
  next : Cursor
  faults : List Nat := []
  /-- The first comment that was skipped. -/
  comment? : Option Span := none

/-! ## Blanks and comments -/

inductive Skip where
  | code
  | line (start : Nat)
  | block (start : Nat)

structure Trivia where
  newline : Bool := false
  comment? : Option Span := none

def Trivia.withComment (t : Trivia) (span : Span) : Trivia :=
  { t with comment? := t.comment? <|> some span }

/-- Skips to the next token. An open block comment swallows the rest; its start is reported. -/
def skipTrivia : Skip → List Char → Nat → Trivia → Cursor × Trivia × Option Nat
  | .code, [], n, t => (⟨[], n⟩, t, none)
  | .line start, [], n, t => (⟨[], n⟩, t.withComment ⟨start, n⟩, none)
  | .block start, [], n, t => (⟨[], n⟩, t, some start)
  | .code, '/' :: '/' :: r, n, t => skipTrivia (.line n) r (n + 2) t
  | .code, '/' :: '*' :: r, n, t => skipTrivia (.block n) r (n + 2) t
  | .code, c :: r, n, t =>
    if isLineTerminator c then skipTrivia .code r (n + 1) { t with newline := true }
    else if isBlank c then skipTrivia .code r (n + 1) t
    else (⟨c :: r, n⟩, t, none)
  | .line start, c :: r, n, t =>
    if isLineTerminator c then
      skipTrivia .code r (n + 1) { t.withComment ⟨start, n⟩ with newline := true }
    else skipTrivia (.line start) r (n + 1) t
  | .block start, '*' :: '/' :: r, n, t => skipTrivia .code r (n + 2) (t.withComment ⟨start, n + 2⟩)
  | .block start, c :: r, n, t =>
    skipTrivia (.block start) r (n + 1) { t with newline := t.newline || isLineTerminator c }

/-! ## Words -/

structure WordScan where
  name : List Char
  escaped : Bool
  faults : List Nat
  next : Cursor

/-- Reads identifier characters and escapes; `skip` counts the characters of an escape that are
still to be passed. -/
def scanWord : Nat → List Char → Nat → List Char → Bool → List Nat → WordScan
  | _, [], n, name, escaped, faults => ⟨name.reverse, escaped, faults.reverse, ⟨[], n⟩⟩
  | skip + 1, _ :: r, n, name, escaped, faults => scanWord skip r (n + 1) name escaped faults
  | 0, c :: r, n, name, escaped, faults =>
    if c == '\\' then
      match r with
      | 'u' :: r' =>
        match unicodeEscape? r' with
        | some (.char d, used) =>
          let valid := if name.isEmpty then isIdentifierStart d else isIdentifierPart d
          let pair := used == 10 && r'.head? != some '\x7b'
          if valid && !pair then
            scanWord (used + 1) r (n + 1) (d :: name) true faults
          else scanWord (used + 1) r (n + 1) name true ((n + 1) :: faults)
        | some (.surrogate _, used) => scanWord (used + 1) r (n + 1) name true ((n + 1) :: faults)
        | none => scanWord 1 r (n + 1) name true ((n + 1) :: faults)
      | _ => scanWord 0 r (n + 1) name true ((n + 1) :: faults)
    else if isIdentifierPart c then scanWord 0 r (n + 1) (c :: name) escaped faults
    else ⟨name.reverse, escaped, faults.reverse, ⟨c :: r, n⟩⟩

/-! ## Numbers -/

structure NumberScan where
  next : Cursor
  faults : List Nat := []
  invalid : Bool := false

/-- Digits of a radix with separators between them; a separator needs a digit after it. -/
def skipDigits (digit : Char → Bool) : List Char → Nat → Cursor × Option Nat
  | '_' :: r, n =>
    match r with
    | c :: _ => if digit c then skipDigits digit r (n + 1) else (⟨r, n + 1⟩, some (n + 1))
    | [] => (⟨[], n + 1⟩, some (n + 1))
  | c :: r, n => if digit c then skipDigits digit r (n + 1) else (⟨c :: r, n⟩, none)
  | [], n => (⟨[], n⟩, none)

def Cursor.skipDigits (digit : Char → Bool) (c : Cursor) : NumberScan :=
  let (next, fault?) := Script.skipDigits digit c.rest c.offset
  { next, faults := fault?.toList }

/-- At least one digit. -/
def Cursor.requireDigits (digit : Char → Bool) (c : Cursor) : NumberScan :=
  match c.rest with
  | d :: _ => if digit d then c.skipDigits digit else { next := c, faults := [c.offset] }
  | [] => { next := c, faults := [c.offset] }

def NumberScan.andThen (s : NumberScan) (f : Cursor → NumberScan) : NumberScan :=
  let t := f s.next
  { next := t.next, faults := s.faults ++ t.faults, invalid := s.invalid || t.invalid }

/-- A number may not run into a word or another digit. -/
def Cursor.endNumber (c : Cursor) : NumberScan :=
  match c.rest with
  | d :: _ =>
    if d.isDigit || isIdentifierStart d then
      { next := (c.drop 1).skipWhile isIdentifierStart, faults := [c.offset], invalid := true }
    else { next := c }
  | [] => { next := c }

def Cursor.skipExponent (c : Cursor) : NumberScan :=
  match c.rest with
  | '+' :: _ | '-' :: _ => (c.drop 1).requireDigits Char.isDigit
  | _ => c.requireDigits Char.isDigit

def Cursor.skipOptionalExponent (c : Cursor) : NumberScan :=
  match c.rest with
  | 'e' :: _ | 'E' :: _ => (c.drop 1).skipExponent
  | _ => { next := c }

/-- After a decimal point that follows digits. -/
def Cursor.skipFraction (c : Cursor) : NumberScan :=
  let digits : NumberScan := match c.rest with
    | d :: _ => if d.isDigit then c.skipDigits Char.isDigit else { next := c }
    | [] => { next := c }
  (digits.andThen Cursor.skipOptionalExponent).andThen Cursor.endNumber

/-- After `0x`, `0o` or `0b`; a fault among the digits makes the token invalid. -/
def Cursor.scanRadix (digit : Char → Bool) (c : Cursor) : NumberScan :=
  let digits := c.requireDigits digit
  if digits.faults.isEmpty then
    digits.andThen fun c =>
      match c.rest with
      | 'n' :: _ => (c.drop 1).endNumber
      | _ => c.endNumber
  else { digits with invalid := true }

/-- After a leading zero that is followed by a digit. -/
def Cursor.scanLegacyOctal (c : Cursor) : NumberScan :=
  let next := c.skipWhile Char.isDigit
  let decimal := (c.rest.takeWhile Char.isDigit).any fun d => d == '8' || d == '9'
  match decimal, next.rest with
  | true, '.' :: _ => (next.drop 1).skipFraction
  | true, 'e' :: _ => (next.drop 1).skipExponent
  | _, _ => next.endNumber

def Cursor.scanNumber (c : Cursor) : NumberScan :=
  match c.rest with
  | '0' :: r =>
    let c := c.drop 1
    match r with
    | 'b' :: _ | 'B' :: _ => (c.drop 1).scanRadix fun d => d == '0' || d == '1'
    | 'o' :: _ | 'O' :: _ => (c.drop 1).scanRadix isOctalDigit
    | 'x' :: _ | 'X' :: _ => (c.drop 1).scanRadix isHexDigit
    | 'e' :: _ | 'E' :: _ => (c.drop 1).skipExponent
    | '.' :: _ => (c.drop 1).skipFraction
    | 'n' :: _ => (c.drop 1).endNumber
    | d :: _ => if d.isDigit then c.scanLegacyOctal else c.endNumber
    | [] => c.endNumber
  | '.' :: _ =>
    (((c.drop 1).requireDigits Char.isDigit).andThen Cursor.skipOptionalExponent).andThen
      Cursor.endNumber
  | _ =>
    (c.skipDigits Char.isDigit).andThen fun c =>
      match c.rest with
      | '.' :: _ => (c.drop 1).skipFraction
      | 'n' :: _ => (c.drop 1).endNumber
      | _ => c.skipOptionalExponent.andThen Cursor.endNumber

/-! ## Strings and templates -/

structure StringScan where
  units : List CodeUnit
  faults : List Nat
  closed : Bool
  next : Cursor

/-- Reads up to the closing quote. A line end or the end of the text leaves the string open. -/
def scanString (quote : Char) :
    Nat → List Char → Nat → List CodeUnit → List Nat → StringScan
  | _, [], n, units, faults => ⟨units.reverse, faults.reverse, false, ⟨[], n⟩⟩
  | skip + 1, _ :: r, n, units, faults => scanString quote skip r (n + 1) units faults
  | 0, c :: r, n, units, faults =>
    if c == quote then ⟨units.reverse, faults.reverse, true, ⟨r, n + 1⟩⟩
    else if c == '\n' || c == '\r' then ⟨units.reverse, faults.reverse, false, ⟨r, n + 1⟩⟩
    else if c == '\\' then
      match readEscape false r with
      | (.nothing, used) => scanString quote used r (n + 1) units faults
      | (.unit u, used) => scanString quote used r (n + 1) (u :: units) faults
      | (.malformed, used) =>
        if r.isEmpty then scanString quote used r (n + 1) units faults
        else scanString quote used r (n + 1) units (n :: faults)
    else scanString quote 0 r (n + 1) (.char c :: units) faults

inductive TemplateEnd where
  | open_
  | closed
  | substitution

/-- Reads template text; the flag says whether every escape denotes something. -/
def scanTemplate : Nat → List Char → Nat → Bool → TemplateEnd × Bool × Cursor
  | _, [], n, valid => (.open_, valid, ⟨[], n⟩)
  | skip + 1, _ :: r, n, valid => scanTemplate skip r (n + 1) valid
  | 0, c :: r, n, valid =>
    if c == '\x60' then (.closed, valid, ⟨r, n + 1⟩)
    else if c == '$' && r.head? == some '\x7b' then (.substitution, valid, ⟨r.drop 1, n + 2⟩)
    else if c == '\\' then
      match readEscape true r with
      | (.malformed, used) => scanTemplate used r (n + 1) (valid && r.isEmpty)
      | (_, used) => scanTemplate used r (n + 1) valid
    else scanTemplate 0 r (n + 1) valid

/-! ## Tokens -/

/-- Punctuators, longer ones before their beginnings. -/
def punctuators : List String :=
  [">>>=", "...", "===", "!==", "**=", "<<=", ">>=", ">>>", "&&=", "||=", "??=", "=>", "==",
   "!=", "<=", ">=", "&&", "||", "??", "?.", "++", "--", "+=", "-=", "*=", "/=", "%=", "&=", "|=",
   "^=", "<<", ">>", "**", "\x7b", "\x7d", "(", ")", "[", "]", ";", ",", "<", ">", "+", "-", "*",
   "/", "%", "&", "|", "^", "!", "~", "?", ":", "=", ".", "@"]

def punctuatorChars : List (String × List Char) :=
  punctuators.map fun p => (p, p.toList)

/-- The longest punctuator in front; `?.` before a digit is a conditional and a number. -/
def punctuator? (cs : List Char) : Option (String × Nat) :=
  match cs with
  | '?' :: '.' :: d :: _ =>
    if d.isDigit then some ("?", 1) else some ("?.", 2)
  | _ => (punctuatorChars.find? fun p => p.2.isPrefixOf cs).map fun p => (p.1, p.2.length)

def wordToken (start : Cursor) (make : String → Bool → Lexeme) (newline : Bool) : Scanned :=
  let w := scanWord 0 start.rest start.offset [] false []
  { token := ⟨make (String.ofList w.name) w.escaped, ⟨start.offset, w.next.offset⟩, newline⟩,
    start, next := w.next, faults := w.faults }

def startsWord : List Char → Bool
  | c :: _ => c == '\\' || isIdentifierStart c
  | [] => false

/-- Reads a private name, or the line `#!...` at the very start. -/
def scanHash (start : Cursor) (newline : Bool) : Scanned :=
  let c := start.drop 1
  if start.offset == 0 && c.rest.head? == some '!' then
    let next := c.skipWhile fun c => !isLineTerminator c
    { token := ⟨.hashbang, ⟨0, next.offset⟩, newline⟩, start, next }
  else if startsWord c.rest then
    let s := wordToken c (fun name _ => .privateName name) newline
    { s with token := { s.token with span := ⟨start.offset, s.next.offset⟩ }, start }
  else
    { token := ⟨.invalid, ⟨start.offset, c.offset⟩, newline⟩, start,
      next := if c.rest.isEmpty then c else c.drop 1, faults := [c.offset] }

def scanQuoted (start : Cursor) (quote : Char) (newline : Bool) : Scanned :=
  let c := start.drop 1
  let s := scanString quote 0 c.rest c.offset [] []
  let span : Span := ⟨start.offset, s.next.offset⟩
  if s.closed then
    { token := ⟨.string (textOfUnits s.units) (!s.units.any CodeUnit.isSurrogate), span, newline⟩,
      start, next := s.next, faults := s.faults }
  else
    { token := ⟨.invalid, span, newline⟩, start, next := s.next,
      faults := s.faults ++ [start.offset] }

def templateToken (start : Cursor) (whole head : Bool → Lexeme) (newline : Bool) : Scanned :=
  let c := start.drop 1
  let (ending, valid, next) := scanTemplate 0 c.rest c.offset true
  let span : Span := ⟨start.offset, next.offset⟩
  match ending with
  | .open_ => { token := ⟨.invalid, span, newline⟩, start, next, faults := [start.offset] }
  | .closed => { token := ⟨whole valid, span, newline⟩, start, next }
  | .substitution => { token := ⟨head valid, span, newline⟩, start, next }

/-- Continues a template at the brace that closes a substitution. -/
def Cursor.scanTemplateTail (brace : Cursor) : Scanned :=
  templateToken brace .templateTail .templateMiddle false

def scanAt (start : Cursor) (newline : Bool) : Scanned :=
  match start.rest with
  | [] => { token := ⟨.finish, ⟨start.offset, start.offset⟩, newline⟩, start, next := start }
  | c :: r =>
    if startsWord start.rest then wordToken start .word newline
    else if c.isDigit || (c == '.' && (r.head?.map Char.isDigit).getD false) then
      let s := start.scanNumber
      { token := ⟨if s.invalid then .invalid else .number, ⟨start.offset, s.next.offset⟩, newline⟩,
        start, next := s.next, faults := s.faults }
    else if c == '"' || c == '\'' then scanQuoted start c newline
    else if c == '\x60' then templateToken start .template .templateHead newline
    else if c == '#' then scanHash start newline
    else match punctuator? start.rest with
      | some (p, n) =>
        let next := start.drop n
        { token := ⟨.punctuator p, ⟨start.offset, next.offset⟩, newline⟩, start, next }
      | none =>
        let next := start.drop 1
        { token := ⟨.invalid, ⟨start.offset, next.offset⟩, newline⟩, start, next,
          faults := [start.offset] }

/-- The next token after blanks and comments. -/
def Cursor.scan (c : Cursor) : Scanned :=
  match skipTrivia .code c.rest c.offset {} with
  | (next, trivia, some start) =>
    { token := ⟨.finish, ⟨start, next.offset⟩, trivia.newline⟩, start := next, next,
      faults := [start], comment? := trivia.comment? }
  | (next, trivia, none) =>
    { scanAt next trivia.newline with comment? := trivia.comment? }

/-! ## Regular expressions -/

/-- Passes the pattern up to the slash that closes it, which stands in no class and is not escaped.
A line end leaves the pattern open. -/
def skipPattern : Bool → Bool → List Char → Nat → Bool × Cursor
  | _, _, [], n => (false, ⟨[], n⟩)
  | escaped, inClass, c :: r, n =>
    if isLineTerminator c then (false, ⟨r, n + 1⟩)
    else if escaped then skipPattern false inClass r (n + 1)
    else if c == '/' && !inClass then (true, ⟨r, n + 1⟩)
    else if c == '[' then skipPattern false true r (n + 1)
    else if c == '\\' then skipPattern true inClass r (n + 1)
    else if c == ']' then skipPattern false false r (n + 1)
    else skipPattern false inClass r (n + 1)

/-- Flags that are unknown or repeated. -/
def flagFaults : List Char → Nat → List Char → List Nat
  | [], _, _ => []
  | c :: r, n, seen =>
    if seen.contains c || !(['d', 'g', 'i', 'm', 's', 'u', 'v', 'y'].contains c) then
      (n + 1) :: flagFaults r (n + 1) seen
    else flagFaults r (n + 1) (c :: seen)

/-- Reads a regular expression whose first slash starts at `start`. -/
def Cursor.scanRegex (start : Cursor) (newline : Bool) : Scanned :=
  let c := start.drop 1
  match skipPattern false false c.rest c.offset with
  | (false, next) =>
    { token := ⟨.regex, ⟨start.offset, next.offset⟩, newline⟩, start, next,
      faults := [start.offset] }
  | (true, flags) =>
    let isFlag (c : Char) : Bool := c == '$' || c == '_' || c.isAlphanum
    let next := flags.skipWhile isFlag
    { token := ⟨.regex, ⟨start.offset, next.offset⟩, newline⟩, start, next,
      faults := flagFaults (flags.rest.takeWhile isFlag) flags.offset [] }

end ModuleBundler.Script
