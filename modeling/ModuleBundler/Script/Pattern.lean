import ModuleBundler.Script.Name

/-!
# Patterns

Binding patterns are read as such. Assignment patterns are read as expressions first, and
`checkTarget` decides afterwards whether the expression can be assigned to.
-/

namespace ModuleBundler.Script

open Script.Parser

/-- A pattern and, after `=`, its default. -/
def bindingElement (rules : Rules) : Parser Node := do
  let start ← tokenStart
  let target ← rules .bindingTarget
  if ← eat "=" then
    let value ← within (fun c => { c with allowIn := true }) (rules .assignment)
    node .withDefault start [target, value]
  else pure target

/-- A rest element has no default; one that is there is read and dropped. -/
def refuseDefault (rules : Rules) : Parser Unit := do
  if ← atPunctuator "=" then
    fault (← tokenStart)
    bump
    let _ ← within (fun c => { c with allowIn := true }) (rules .assignment)

def restElement (rules : Rules) : Parser Node := do
  let start ← tokenStart
  bump
  let target ← rules .bindingTarget
  refuseDefault rules
  node .rest start [target]

def bindingProperty (rules : Rules) : Parser Node := do
  let start ← tokenStart
  let isBinding := (← lexeme).isBinding
  let ctx ← read
  let reserved := match ← lexeme with
    | .word "await" _ => ctx.allowAwait
    | .word "yield" _ => ctx.allowYield
    | _ => false
  let (key, computed) ← propertyName rules
  if isBinding && !(← atPunctuator ":") then
    faultIf reserved start
    let name := (keyText? key computed).getD ""
    let target := Node.mk (.binding name) key.span []
    if ← eat "=" then
      let value ← within (fun c => { c with allowIn := true }) (rules .assignment)
      let value ← node .withDefault start [target, value]
      node .patternProperty start [value]
    else node .patternProperty start [target]
  else
    expect ":"
    let value ← bindingElement rules
    node .patternProperty start [key, value]

/-- The rest of an object goes to a single name. -/
def checkRestTarget : Node → Parser Unit
  | .mk .rest _ [.mk (.binding _) _ _] => pure ()
  | .mk .rest _ (target :: _) => fail target.start
  | _ => pure ()

/-- An array may leave elements out. -/
def elementOrHole (element : Parser Node) : Parser Node := do
  if ← atPunctuator "," then
    let start ← tokenStart
    pure (.mk .hole ⟨start, start⟩ [])
  else element

def bindingTarget (rules : Rules) : Parser Node := do
  let start ← tokenStart
  match ← lexeme with
  | .punctuator "\x7b" =>
    bump
    let parts ← commaListWithRest "\x7d" (bindingProperty rules) (restElement rules)
    parts.forM checkRestTarget
    expect "\x7d"
    node .objectPattern start parts
  | .punctuator "[" =>
    bump
    let parts ← commaListWithRest "]" (elementOrHole (bindingElement rules)) (restElement rules)
    expect "]"
    node .arrayPattern start parts
  | _ => bindingIdentifier

/-- The comma that ends an array or object literal may not follow a rest element. -/
def checkTrailingComma (start : Nat) : Parser Unit := do
  faultAt? (((← get).trailingCommas.find? (·.1 == start)).map Prod.snd)

def claimShorthand (start : Nat) : Parser Unit :=
  modify fun s => { s with shorthandValues := s.shorthandValues.filter (· != start) }

mutual

/-- Whether an expression can be assigned to without taking it apart. -/
def checkSimpleTarget : Node → Parser Unit
  | .mk shape span parts =>
    match shape with
    | .identifier _ | .member => pure ()
    | .parenthesized => checkParenthesized span.start parts
    | _ => fail span.start

/-- Parentheses may stand around a simple target only. -/
def checkParenthesized (start : Nat) : List Node → Parser Unit
  | [] => fail start
  | .mk shape span parts :: _ =>
    match shape with
    | .array | .object => fail start
    | .identifier _ | .member => pure ()
    | .parenthesized => checkParenthesized span.start parts
    | _ => fail span.start

end

mutual

/-- Whether an expression can stand left of `=`. -/
def checkTarget : Node → Parser Unit
  | .mk shape span parts =>
    match shape with
    | .array => checkElements span.start parts
    | .object => checkProperties span.start parts
    | _ => checkSimpleTarget (.mk shape span parts)

/-- An element of a pattern, with its default if it has one. -/
def checkElement : Node → Parser Unit
  | .mk (.assignment plain) span _ =>
    if plain then pure () else fail span.start
  | n => checkTarget n

def checkElements (start : Nat) : List Node → Parser Unit
  | [] => pure ()
  | .mk .hole _ _ :: r => checkElements start r
  | .mk .spread span parts :: r => do
    if r.isEmpty then
      checkFirst parts
      checkTrailingComma start
    else fail span.start
  | n :: r => do
    checkElement n
    checkElements start r

def checkProperties (start : Nat) : List Node → Parser Unit
  | [] => pure ()
  | .mk .spread span parts :: r => do
    if r.isEmpty then
      checkFirst parts
      checkTrailingComma start
    else fail span.start
  | .mk .shorthand span _ :: r => do
    claimShorthand span.start
    checkProperties start r
  | .mk _ _ parts :: r => do
    checkValue parts
    checkProperties start r

/-- The argument of a spread. -/
def checkFirst : List Node → Parser Unit
  | [] => pure ()
  | n :: _ => checkTarget n

/-- The value after a property name. -/
def checkValue : List Node → Parser Unit
  | [] => pure ()
  | [n] => checkElement n
  | _ :: r => checkValue r

end

end ModuleBundler.Script
