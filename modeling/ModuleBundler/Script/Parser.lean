import ModuleBundler.Script.Lexer
import ModuleBundler.Script.Tree

/-!
# Reading syntax

A parser reads tokens one at a time. Some errors leave it able to go on: they are noted, and the
text is refused at the end. Others end it at once. The grammar is given as a function from parsers
of its nonterminals to parsers of their productions, and is unfolded as often as the text is long.
-/

namespace ModuleBundler.Script

/-- What is allowed at a place of the grammar. -/
structure Context where
  /-- Bounds the length of every list in the text. -/
  limit : Nat
  allowIn : Bool := true
  allowYield : Bool := false
  allowAwait : Bool := true
  inFunction : Bool := false
  inDecorator : Bool := false
  inParameters : Bool := false

structure ParserState where
  token : Token
  /-- Where the token starts. -/
  origin : Cursor
  /-- Where the text after the token starts. -/
  next : Cursor
  /-- Where the token before ended. -/
  previousStop : Nat := 0
  /-- Offsets of errors within tokens, newest first. -/
  lexicalFaults : List Nat := []
  /-- Offsets of errors in the grammar that did not end the parser, newest first. -/
  grammarFaults : List Nat := []
  comment? : Option Span := none
  /-- Starts of `name = value` in object literals that no pattern has claimed yet. -/
  shorthandValues : List Nat := []
  /-- Starts of array and object literals with the offset of their last comma. -/
  trailingCommas : List (Nat × Nat) := []
  /-- Parentheses that turned out not to hold parameters. -/
  refuted : List Nat := []

/-- The parser ended at `offset`. -/
structure Failure where
  offset : Nat
  state : ParserState

abbrev Parser := ReaderT Context (StateT ParserState (Except Failure))

/-- What a production may refer to. -/
inductive Nonterminal where
  /-- `single` where a declaration cannot stand. -/
  | statement (single : Bool)
  | assignment
  | binary (precedence : Nat)
  | unary
  | primary
  | leftHandSide
  | bindingTarget

abbrev Rules := Nonterminal → Parser Node

namespace Parser

variable {α β : Type}

def fail (offset : Nat) : Parser α := do
  throw ⟨offset, ← get⟩

/-- Notes an error and goes on. -/
def fault (offset : Nat) : Parser Unit :=
  modify fun s => { s with grammarFaults := offset :: s.grammarFaults }

def faultIf (wrong : Bool) (offset : Nat) : Parser Unit :=
  if wrong then fault offset else pure ()

def faultAt? : Option Nat → Parser Unit
  | some offset => fault offset
  | none => pure ()

def failIf (wrong : Bool) (offset : Nat) : Parser Unit :=
  if wrong then fail offset else pure ()

def within (change : Context → Context) (p : Parser α) : Parser α :=
  fun ctx => p (change ctx)

/-- Runs a step until it yields a result. -/
def iterate (start : β) (step : β → Parser (β ⊕ α)) : Parser α := do
  let rec go : Nat → β → Parser α
    | 0, _ => do fail (← get).previousStop
    | n + 1, b => do
      match ← step b with
      | .inl b => go n b
      | .inr a => pure a
  go (← read).limit start

def token : Parser Token := return (← get).token

def lexeme : Parser Lexeme := return (← get).token.lexeme

def tokenStart : Parser Nat := return (← get).token.span.start

def afterNewline : Parser Bool := return (← get).token.afterNewline

def previousStop : Parser Nat := return (← get).previousStop

/-- Makes a scanned token the current one. -/
def load (s : Scanned) : Parser Unit :=
  modify fun st => { st with
    token := s.token
    origin := s.start
    next := s.next
    lexicalFaults := s.faults.reverse ++ st.lexicalFaults
    comment? := st.comment? <|> s.comment? }

/-- Moves to the next token. -/
def skip : Parser Unit := do
  modify fun s => { s with previousStop := s.token.span.stop }
  load (← get).next.scan

/-- A keyword that is used for its spelling must be free of escapes. -/
def checkSpelling : Parser Unit := do
  match ← lexeme with
  | .word name true => faultIf (isKeyword name) (← tokenStart)
  | _ => pure ()

/-- Moves past a token that is used for its spelling. -/
def bump : Parser Unit := do
  checkSpelling
  skip

/-- The token after the current one. -/
def peek : Parser Token := return (← get).next.scan.token

/-- Runs a parser for its answer and takes its steps back. -/
def lookahead (p : Parser α) : Parser α := do
  let s ← get
  let a ← p
  set s
  pure a

def atPunctuator (p : String) : Parser Bool :=
  return (← lexeme) == .punctuator p

def atWord (w : String) : Parser Bool := do
  match ← lexeme with
  | .word name _ => pure (name == w)
  | _ => pure false

def atFinish : Parser Bool := return (← lexeme) == .finish

/-- The parser can do nothing with the current token. An error within the token says more. -/
def unexpected : Parser α := do
  let s ← get
  match s.token.lexeme, s.lexicalFaults with
  | .finish, f :: fs | .invalid, f :: fs =>
    set { s with lexicalFaults := fs }
    fail f
  | _, _ => fail s.token.span.start

def unexpectedIf (wrong : Bool) : Parser Unit :=
  if wrong then unexpected else pure ()

def eat (p : String) : Parser Bool := do
  if ← atPunctuator p then
    bump
    pure true
  else pure false

def eatWord (w : String) : Parser Bool := do
  if ← atWord w then
    bump
    pure true
  else pure false

/-- Takes a token where it may stand. -/
def onlyIf (allowed : Bool) (take : Parser Bool) : Parser Bool :=
  if allowed then take else pure false

/-- A part that may be missing. -/
def listIf (present : Bool) (p : Parser α) : Parser (List α) :=
  if present then do
    let a ← p
    pure [a]
  else pure []

def expect (p : String) : Parser Unit := do
  unless ← eat p do fail (← tokenStart)

def expectWord (w : String) : Parser Unit := do
  unless ← eatWord w do fail (← tokenStart)

/-- Whether a statement may end here without a semicolon. -/
def canEndStatement : Parser Bool := do
  let t ← token
  pure <| t.afterNewline || t.lexeme == .punctuator ";" || t.lexeme == .punctuator "\x7d" ||
    t.lexeme == .finish

def endStatement : Parser Unit := do
  unless ← eat ";" do
    unless ← canEndStatement do fail (← previousStop)

/-- A node from `start` to the end of the last token. -/
def node (shape : Shape) (start : Nat) (parts : List Node) : Parser Node :=
  return .mk shape ⟨start, ← previousStop⟩ parts

def atListEnd (close : String) : Parser Bool := do
  let l ← lexeme
  pure (l == .punctuator close || l == .finish || l == .invalid)

/-- Elements up to a place that ends them. -/
def repeatUntil (ends : Parser Bool) (element : Parser α) : Parser (List α) :=
  iterate ([] : List α) fun found => do
    if ← ends then return .inr found.reverse
    let e ← element
    return .inl (e :: found)

/-- The element that has been read, and one more after each comma. -/
def moreAfterCommas (first : α) (element : Parser α) : Parser (List α) :=
  iterate [first] fun found => do
    unless ← eat "," do return .inr found.reverse
    let e ← element
    return .inl (e :: found)

/-- The offset of the comma that must stand here. -/
def takeComma : Parser Nat := do
  let comma ← tokenStart
  failIf (!(← atPunctuator ",")) comma
  bump
  pure comma

/-- Elements up to the closing token, which is left; also the offset of a comma before it. -/
def commaList (close : String) (element : Parser α) : Parser (List α × Option Nat) := do
  if ← atListEnd close then return ([], none)
  let first ← element
  iterate [first] fun found => do
    if ← atListEnd close then return .inr (found.reverse, none)
    let comma ← takeComma
    if ← atPunctuator close then return .inr (found.reverse, some comma)
    let e ← element
    return .inl (e :: found)

/-- Passes the comma before a further element, and answers whether the list ends there instead. -/
def endsAfterComma (close : String) (found : List Node) (rest? : Option Node) : Parser Bool := do
  if found.isEmpty then return false
  let comma ← takeComma
  let ends ← atPunctuator close
  faultIf (ends && rest?.isSome) comma
  pure ends

/-- Elements of which only the last may be a rest element. -/
def commaListWithRest (close : String) (element rest : Parser Node) : Parser (List Node) := do
  iterate (([] : List Node), (none : Option Node)) fun (found, rest?) => do
    if ← atListEnd close then return .inr found.reverse
    if ← endsAfterComma close found rest? then return .inr found.reverse
    faultAt? (rest?.map Node.start)
    if ← atPunctuator "..." then
      let r ← rest
      return .inl (r :: found, some r)
    let e ← element
    return .inl (e :: found, rest?)

end Parser

end ModuleBundler.Script
