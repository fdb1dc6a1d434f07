import ModuleBundler.Script.Pattern

/-!
# Functions and classes

Parameters, bodies, methods, arrow functions, and the elements of classes.
-/

namespace ModuleBundler.Script

open Script.Parser

/-- Whether the current token may follow a modifier such as `get`. -/
def canFollowModifier : Parser Bool := do
  match ← lexeme with
  | .privateName _ => pure true
  | .punctuator p => pure (p == "[" || p == "\x7b" || p == "*" || p == "...")
  | l => pure (l.isName || l.isLiteralName)

/-- Takes a word that acts as a modifier of what follows; some need that on their line. -/
def eatModifier (word : String) (sameLine : Bool) : Parser Bool := do
  unless ← atWord word do return false
  let follows ← lookahead do
    skip
    if sameLine && (← afterNewline) then pure false else canFollowModifier
  if follows then
    bump
    pure true
  else pure false

def decorator (rules : Rules) : Parser Node := do
  let start ← tokenStart
  bump
  let expression ← within (fun c => { c with inDecorator := true }) (rules .leftHandSide)
  node .decorator start [expression]

def decorators (rules : Rules) : Parser (List Node) :=
  repeatUntil (return !(← atPunctuator "@")) (decorator rules)

/-! ## Parameters and bodies -/

def parameter (rules : Rules) : Parser Node := do
  let start ← tokenStart
  match ← decorators rules with
  | [] => bindingElement rules
  | ds =>
    let target ← bindingElement rules
    node .patternProperty start (ds ++ [target])

def parameters (rules : Rules) : Parser Node :=
  within (fun c => { c with inParameters := true }) do
    let start ← tokenStart
    expect "("
    let parts ← commaListWithRest ")" (parameter rules) (restElement rules)
    expect ")"
    node .parameters start parts

/-- Statements up to a closing brace or the end. -/
def statements (rules : Rules) : Parser (List Node) :=
  repeatUntil (return (← atPunctuator "\x7d") || (← atFinish)) (rules (.statement false))

def functionBody (rules : Rules) : Parser Node :=
  within (fun c => { c with inFunction := true, allowIn := true, inParameters := false,
                            inDecorator := false }) do
    let start ← tokenStart
    expect "\x7b"
    let parts ← statements rules
    expect "\x7d"
    node .body start parts

/-- Parameters and body of a function whose name has been read. -/
def functionRest (rules : Rules) (start : Nat) (name? : Option SourceName) (async generator : Bool) :
    Parser Node :=
  within (fun c => { c with allowIn := true, allowAwait := async, allowYield := generator,
                            inDecorator := false }) do
    let ps ← parameters rules
    failIf (!(← atPunctuator "\x7b")) start
    let body ← functionBody rules
    node (.functionDefinition name?) start [ps, body]

inductive FunctionPlace where
  | declaration
  | defaultExport
  | expression
  deriving DecidableEq

/-- The name of a function. That of an expression is already inside it. -/
def functionName? (async generator : Bool) (place : FunctionPlace) :
    Parser (Option SourceName) := do
  if (← lexeme).isBinding then
    let ctx ← read
    let inside := place == .expression
    checkIdentifier (if inside then async else ctx.allowAwait)
      (if inside then generator else ctx.allowYield)
    let name ← takeName
    pure (some name)
  else
    faultIf (place == .declaration) (← tokenStart)
    pure none

/-- A function from the word `function` on. -/
def functionDefinition (rules : Rules) (start : Nat) (async : Bool) (place : FunctionPlace) :
    Parser Node := do
  expectWord "function"
  let generator ← eat "*"
  let name? ← functionName? async generator place
  functionRest rules start name? async generator

/-- The number of parameters, and where the rest parameter starts if there is one. -/
def parameterCount (function : Node) : Nat × Nat × Option Nat :=
  match function with
  | .mk _ _ (.mk _ span ps :: _) =>
    (ps.length, span.start, (ps.find? fun p => p.shape == .rest).map Node.start)
  | _ => (0, function.start, none)

def checkGetter (function : Node) : Parser Unit := do
  let (count, start, _) := parameterCount function
  faultIf (count != 0) start

def checkSetter (function : Node) : Parser Unit := do
  let (count, start, rest?) := parameterCount function
  if count != 1 then fault start else faultAt? rest?

def methodFunction (rules : Rules) (async generator : Bool) : Parser Node := do
  functionRest rules (← tokenStart) none async generator

/-! ## Arrow functions -/

def arrowResult (rules : Rules) : Parser Node := do
  if ← atPunctuator "\x7b" then functionBody rules else rules .assignment

/-- What follows the parameters of an arrow function. -/
def arrowBody (rules : Rules) (start : Nat) (async : Bool) (ps : Node) : Parser Node :=
  within (fun c => { c with allowAwait := async, allowYield := false, inParameters := false }) do
    let body ← arrowResult rules
    node .arrow start [ps, body]

def expectArrow : Parser Unit := do
  faultIf (← afterNewline) (← tokenStart)
  expect "=>"

/-- An arrow function whose only parameter has been read as an expression. -/
def simpleArrow (rules : Rules) (start : Nat) (argument : Node) (async : Bool) : Parser Node := do
  match argument.shape with
  | .identifier name =>
    expectArrow
    arrowBody rules start async
      (.mk .parameters argument.span [.mk (.binding name) argument.span []])
  | _ => unexpected

/-- The start of an arrow function with parentheses. -/
def arrowHead (rules : Rules) : Parser (Nat × Bool × Node) := do
  let start ← tokenStart
  let async ← eatWord "async"
  let ctx ← read
  let ps ← within (fun c => { c with allowAwait := ctx.allowAwait || async }) (parameters rules)
  expectArrow
  pure (start, async, ps)

inductive Answer where
  | no
  | maybe
  | yes
  deriving DecidableEq

/-- Guesses from a few tokens whether parentheses hold parameters. -/
def looksLikeArrow : Parser Answer := lookahead do
  if ← atWord "async" then
    bump
    if (← afterNewline) || !(← atPunctuator "(") then return .no
  unless ← atPunctuator "(" do return .no
  skip
  match ← lexeme with
  | .punctuator ")" =>
    skip
    match ← lexeme with
    | .punctuator "=>" | .punctuator ":" | .punctuator "\x7b" => return .yes
    | _ => return .no
  | .punctuator "[" | .punctuator "\x7b" => return .maybe
  | .punctuator "..." =>
    skip
    let l ← lexeme
    if l.isLiteral then return .no
    else if l.isIdentifier then return .yes
    else return .maybe
  | l =>
    let isThis := match l with
      | .word name _ => name == "this"
      | _ => false
    unless l.isBinding || isThis do return .no
    skip
    match ← lexeme with
    | .punctuator "," | .punctuator "=" | .punctuator ")" => return .maybe
    | .punctuator ":" => return .yes
    | _ => return .no

/-- Reads the start of an arrow function, or takes its steps back. A place is tried once. -/
def tryArrowHead (rules : Rules) : Parser (Option (Nat × Bool × Node)) := do
  let start ← tokenStart
  if (← get).refuted.contains start then return none
  fun ctx s =>
    match arrowHead rules ctx s with
    | .ok (head, s') => .ok (some head, s')
    | .error f => .ok (none, { s with refuted := start :: f.state.refuted })

def completeArrow (rules : Rules) : Nat × Bool × Node → Parser Node :=
  fun (start, async, ps) => arrowBody rules start async ps

/-- An arrow function with parentheses, if one starts here. -/
def parenthesizedArrow? (rules : Rules) : Parser (Option Node) := do
  match ← looksLikeArrow with
  | .no => pure none
  | .yes =>
    let head ← arrowHead rules
    let arrow ← completeArrow rules head
    pure (some arrow)
  | .maybe =>
    match ← tryArrowHead rules with
    | some head =>
      let arrow ← completeArrow rules head
      pure (some arrow)
    | none => pure none

/-- `async x => ...`, if it starts here. -/
def asyncSimpleArrow? (rules : Rules) : Parser (Option Node) := do
  unless ← atWord "async" do return none
  let isArrow ← lookahead do
    skip
    if (← afterNewline) || !(← lexeme).isBinding then pure false
    else
      skip
      atPunctuator "=>"
  unless isArrow do return none
  let start ← tokenStart
  bump
  let argument ← rules (.binary 0)
  let arrow ← within (fun c => { c with allowAwait := true })
    (simpleArrow rules start argument true)
  pure (some arrow)

/-! ## Classes -/

/-- Words in front of a class element. -/
structure Modifiers where
  isStatic : Bool := false
  isAsync : Bool := false

def modifiers : Parser Modifiers :=
  iterate ({} : Modifiers) fun m => do
    let startsBlock := (← peek).lexeme == .punctuator "\x7b"
    if ← onlyIf (!(m.isStatic || m.isAsync || startsBlock)) (eatModifier "static" false) then
      return .inl { m with isStatic := true }
    if ← onlyIf (!m.isAsync) (eatModifier "async" true) then
      return .inl { m with isAsync := true }
    if ← onlyIf (!m.isAsync) (eatModifier "accessor" true) then return .inl m
    return .inr m

def staticBlock (rules : Rules) (start : Nat) : Parser Node := do
  bump
  within (fun c => { c with allowAwait := true, allowYield := false, inFunction := false,
                            allowIn := true, inParameters := false }) do
    expect "\x7b"
    let parts ← statements rules
    expect "\x7d"
    node .body start parts

inductive MethodKind where
  | plain
  | getter
  | setter
  deriving DecidableEq

def checkMethodName (key : Node) (computed : Bool) (m : Modifiers) (kind : MethodKind)
    (generator : Bool) : Parser Unit := do
  match keyText? key computed, m.isStatic with
  | some "prototype", true => fault key.start
  | some "constructor", false =>
    faultIf (kind != .plain || m.isAsync || generator) key.start
  | _, _ => pure ()

def classElementName (rules : Rules) : Parser (Node × Bool) := do
  match ← lexeme with
  | .privateName name =>
    let key ← privateName
    faultIf (name == "constructor") key.start
    pure (key, false)
  | _ => propertyName rules

def checkAccessor (kind : MethodKind) (function : Node) : Parser Unit :=
  if kind = .getter then checkGetter function else checkSetter function

def accessor (rules : Rules) (start : Nat) (ds : List Node) (m : Modifiers) (kind : MethodKind) :
    Parser Node := do
  let (key, computed) ← classElementName rules
  let function ← methodFunction rules false false
  checkAccessor kind function
  checkMethodName key computed m kind false
  node .method start (ds ++ [key, function])

def checkFieldName (key : Node) (computed : Bool) (m : Modifiers) : Parser Unit :=
  match keyText? key computed, m.isStatic with
  | some "constructor", _ | some "prototype", true => fault key.start
  | _, _ => pure ()

def fieldRest (rules : Rules) (start : Nat) (ds : List Node) (m : Modifiers) (key : Node)
    (computed : Bool) : Parser Node := do
  checkFieldName key computed m
  let value ← listIf (← eat "=") <|
    within (fun c => { c with allowIn := true, allowAwait := false, allowYield := false,
                              inParameters := false })
      (rules .assignment)
  faultIf m.isAsync start
  endStatement
  node .field start (ds ++ key :: value)

def classElement (rules : Rules) : Parser Node := do
  let start ← tokenStart
  let ds ← decorators rules
  let m ← modifiers
  if (← atWord "static") && (← peek).lexeme == .punctuator "\x7b" then
    ds.forM fun d => fault d.start
    return ← staticBlock rules start
  if ← eatModifier "get" false then return ← accessor rules start ds m .getter
  if ← eatModifier "set" false then return ← accessor rules start ds m .setter
  let generator ← eat "*"
  let (key, computed) ← classElementName rules
  if generator || (← atPunctuator "(") then
    let function ← methodFunction rules m.isAsync generator
    checkMethodName key computed m .plain generator
    node .method start (ds ++ [key, function])
  else fieldRest rules start ds m key computed

def classBody (rules : Rules) : Parser (List Node) := do
  expect "\x7b"
  let parts ← iterate ([] : List Node) fun found => do
    if ← eat ";" then return .inl found
    if ← atListEnd "\x7d" then return .inr found.reverse
    return .inl ((← classElement rules) :: found)
  expect "\x7d"
  pure parts

def className? : Parser (Option SourceName) := do
  if (← lexeme).isBinding && !(← atWord "implements") then
    let ctx ← read
    checkIdentifier ctx.allowAwait ctx.allowYield
    let name ← takeName
    pure (some name)
  else pure none

/-- A class from the word `class` on; `start` is where its decorators start. -/
def classDefinition (rules : Rules) (start : Nat) (ds : List Node) : Parser Node := do
  expectWord "class"
  let name? ← className?
  let heritage ← listIf (← eatWord "extends") (rules .leftHandSide)
  let parts ← within (fun c => { c with inDecorator := false }) (classBody rules)
  node (.classDefinition name?) start (ds ++ heritage ++ parts)

end ModuleBundler.Script
