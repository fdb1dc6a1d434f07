import ModuleBundler.Script.Function

/-!
# Expressions

From operators down to primary expressions. An arrow function is tried before a parenthesised
expression, and an expression before `=` is checked as a target.
-/

namespace ModuleBundler.Script

open Script.Parser

def withIn (p : Parser Node) : Parser Node :=
  within (fun c => { c with allowIn := true }) p

/-- Assignments separated by commas. -/
def expression (rules : Rules) : Parser Node :=
  within (fun c => { c with inDecorator := false }) do
    let start ← tokenStart
    let first ← rules .assignment
    unless ← atPunctuator "," do return first
    let parts ← moreAfterCommas first (rules .assignment)
    node .sequence start parts

/-! ## Primary expressions -/

def spreadOrAssignment (rules : Rules) : Parser Node := do
  if ← atPunctuator "..." then
    let start ← tokenStart
    bump
    let value ← rules .assignment
    node .spread start [value]
  else rules .assignment

/-- Remembers the last comma of a literal, in case the literal turns out to be a pattern. -/
def recordComma (start : Nat) : Option Nat → Parser Unit
  | some comma => modify fun s => { s with trailingCommas := (start, comma) :: s.trailingCommas }
  | none => pure ()

def arrayLiteral (rules : Rules) : Parser Node := do
  let start ← tokenStart
  bump
  let (parts, comma?) ← within (fun c => { c with allowIn := true })
    (commaList "]" (elementOrHole (spreadOrAssignment rules)))
  recordComma start comma?
  expect "]"
  node .array start parts

/-- Remembers a value that only a pattern may hold. -/
def recordShorthand (start : Nat) : Parser Unit :=
  modify fun s => { s with shorthandValues := start :: s.shorthandValues }

def objectAccessor (rules : Rules) (start : Nat) (kind : MethodKind) : Parser Node := do
  let (key, _) ← propertyName rules
  let function ← methodFunction rules false false
  checkAccessor kind function
  node .method start [key, function]

def objectProperty (rules : Rules) : Parser Node := do
  let start ← tokenStart
  if ← atPunctuator "..." then return ← spreadOrAssignment rules
  let async ← eatModifier "async" true
  if ← eatModifier "get" false then
    faultIf async start
    return ← objectAccessor rules start .getter
  if ← eatModifier "set" false then
    faultIf async start
    return ← objectAccessor rules start .setter
  let generator ← eat "*"
  let ctx ← read
  let isReference := (← lexeme).isReference ctx.allowYield ctx.allowAwait
  let (key, computed) ← propertyName rules
  if generator || (← atPunctuator "(") then
    let function ← methodFunction rules async generator
    return ← node .method start [key, function]
  faultIf async start
  if isReference && !(← atPunctuator ":") then
    let name := (keyText? key computed).getD ""
    let reference := Node.mk (.identifier name) key.span []
    if ← eat "=" then
      let value ← withIn (rules .assignment)
      recordShorthand start
      node .shorthand start [reference, value]
    else node .shorthand start [reference]
  else
    expect ":"
    let value ← withIn (rules .assignment)
    node .keyed start [key, value]

def objectLiteral (rules : Rules) : Parser Node := do
  let start ← tokenStart
  bump
  let (parts, comma?) ← within (fun c => { c with allowIn := true })
    (commaList "\x7d" (objectProperty rules))
  recordComma start comma?
  expect "\x7d"
  node .object start parts

def parenthesized (rules : Rules) : Parser Node := do
  let start ← tokenStart
  bump
  let inner ← tokenStart
  let (parts, comma?) ← within (fun c => { c with allowIn := true, inDecorator := false })
    (commaList ")" (rules .assignment))
  failIf comma?.isSome (comma?.getD start)
  match parts with
  | [] =>
    expect ")"
    fail start
  | [e] =>
    expect ")"
    node .parenthesized start [e]
  | es =>
    let sequence ← node .sequence inner es
    expect ")"
    node .parenthesized start [sequence]

/-- One stretch of template text; an escape that denotes nothing needs a tag in front. -/
def templateText (tagged valid : Bool) : Parser Unit := do
  faultIf (!tagged && !valid) (← tokenStart)
  skip

/-- Takes the closing brace of a substitution as the start of more template text. -/
def reloadTemplate : Parser Unit := do
  if ← atPunctuator "\x7d" then load (← get).origin.scanTemplateTail

def templateLiteral (rules : Rules) (tagged : Bool) : Parser Node := do
  let start ← tokenStart
  match ← lexeme with
  | .template valid =>
    templateText tagged valid
    node .template start []
  | .templateHead valid =>
    templateText tagged valid
    let parts ← iterate ([] : List Node) fun found => do
      let e ← withIn (expression rules)
      reloadTemplate
      match ← lexeme with
      | .templateTail valid =>
        templateText tagged valid
        return .inr (e :: found).reverse
      | .templateMiddle valid =>
        templateText tagged valid
        return .inl (e :: found)
      | _ => fail (← tokenStart)
    node .template start parts
  | _ => unexpected

/-- The arguments of `import`, after the word and its phase. -/
def importCall (rules : Rules) (start : Nat) : Parser Node := do
  expect "("
  failIf (← eat ")") start
  let source ← withIn (rules .assignment)
  let options ← listIf ((← eat ",") && !(← atPunctuator ")")) (withIn (rules .assignment))
  let _ ← eat ","
  failIf (!(← eat ")")) start
  node .importCall start (source :: options)

def importExpression (rules : Rules) : Parser Node := do
  let start ← tokenStart
  bump
  match ← lexeme with
  | .punctuator "." =>
    bump
    match ← lexeme with
    | .word "meta" _ =>
      bump
      node .metaProperty start []
    | .word "source" _ | .word "defer" _ =>
      bump
      importCall rules start
    | _ => fail start
  | .punctuator "(" => importCall rules start
  | _ => unexpected

def regexLiteral : Parser Node := do
  let start ← tokenStart
  let s ← get
  -- the slash was scanned as an operator; its scan had no faults
  load (s.origin.scanRegex s.token.afterNewline)
  skip
  node .literal start []

def keywordExpression (shape : Shape) : Parser Node := do
  let start ← tokenStart
  bump
  node shape start []

/-- A call's arguments with their parentheses. -/
def arguments (rules : Rules) : Parser (List Node) := do
  expect "("
  let (parts, _) ← within (fun c => { c with allowIn := true, inDecorator := false })
    (commaList ")" (spreadOrAssignment rules))
  expect ")"
  pure parts

/-! ## Members and calls -/

def memberName : Parser Node := do
  match ← lexeme with
  | .privateName _ => privateName
  | _ => identifierName

def computedMember (rules : Rules) (start : Nat) (object : Node) : Parser Node := do
  bump
  let key ← withIn (expression rules)
  expect "]"
  node .member start [object, key]

/-- Property accesses and tagged templates after `object`; the flag tells a `?.` among them. -/
def memberRest (rules : Rules) (start : Nat) (object : Node) (optional : Bool) :
    Parser (Node × Bool) :=
  iterate (object, optional) fun (object, optional) => do
    let ctx ← read
    match ← lexeme with
    | .punctuator "." =>
      bump
      let name ← memberName
      return .inl (← node .member start [object, name], optional)
    | .punctuator "?." =>
      match (← peek).lexeme with
      | .word .. | .privateName _ =>
        bump
        let name ← memberName
        return .inl (← node .member start [object, name], true)
      | .punctuator "[" =>
        if ctx.inDecorator then return .inr (object, optional)
        bump
        return .inl (← computedMember rules start object, true)
      | _ => return .inr (object, optional)
    | .punctuator "[" =>
      if ctx.inDecorator then return .inr (object, optional)
      return .inl (← computedMember rules start object, optional)
    | l =>
      unless l.isTemplateStart do return .inr (object, optional)
      let quasi ← templateLiteral rules true
      faultIf optional quasi.start
      return .inl (← node .taggedTemplate start [object, quasi], optional)

/-- Only members and calls of `super` have a meaning. -/
def checkSuper (start : Nat) : Parser Unit := do
  match ← lexeme with
  | .punctuator "." | .punctuator "[" | .punctuator "(" => pure ()
  | _ => fault start

def superExpression : Parser Node := do
  let start ← tokenStart
  bump
  checkSuper start
  node .super start []

def memberExpression (rules : Rules) : Parser (Node × Bool) := do
  let start ← tokenStart
  let object ← rules .primary
  memberRest rules start object false

def callRest (rules : Rules) (start : Nat) (object : Node) (optional : Bool) :
    Parser (Node × Bool) :=
  iterate (object, optional) fun (object, optional) => do
    let (object, optional) ← memberRest rules start object optional
    let question ← eat "?."
    let optional := optional || question
    if question && (← lexeme).isTemplateStart then
      let quasi ← templateLiteral rules true
      fault quasi.start
      return .inl (← node .taggedTemplate start [object, quasi], optional)
    if ← atPunctuator "(" then
      let parts ← arguments rules
      return .inl (← node .call start (object :: parts), optional)
    unexpectedIf question
    return .inr (object, optional)

def leftHandSide (rules : Rules) : Parser Node := do
  let start ← tokenStart
  let (object, optional) ← memberExpression rules
  let (object, optional) ← callRest rules start object optional
  match optional, object.shape with
  | true, .member | true, .call => node .chain start [object]
  | _, _ => pure object

/-- The arguments of `new`, which may be missing. -/
def optionalArguments (rules : Rules) : Parser (List Node) := do
  if ← atPunctuator "(" then arguments rules else pure []

def newExpression (rules : Rules) : Parser Node := do
  let start ← tokenStart
  bump
  if ← eat "." then
    failIf (!(← atWord "target")) start
    bump
    return ← node .metaProperty start []
  let calleeStart ← tokenStart
  let (callee, optional) ← memberExpression rules
  let parts ← optionalArguments rules
  faultIf (callee.shape == .importCall) calleeStart
  faultIf optional start
  node .new start (callee :: parts)

def primaryExpression (rules : Rules) : Parser Node := do
  let start ← tokenStart
  match ← lexeme with
  | .number => keywordExpression .literal
  | .string value _ => keywordExpression (.string value)
  | .template _ | .templateHead _ => templateLiteral rules false
  | .punctuator p => match p with
    | "(" => parenthesized rules
    | "[" => arrayLiteral rules
    | "\x7b" => objectLiteral rules
    | "/" | "/=" => regexLiteral
    | "@" =>
      let ds ← decorators rules
      if ← atWord "class" then classDefinition rules start ds else unexpected
    | _ => unexpected
  | .word name _ => match name with
    | "this" => keywordExpression .this
    | "null" | "true" | "false" => keywordExpression .literal
    | "function" => functionDefinition rules start false .expression
    | "class" => classDefinition rules start []
    | "new" => newExpression rules
    | "super" => superExpression
    | "import" => importExpression rules
    | "async" =>
      let following ← peek
      match following.lexeme with
      | .word "function" _ =>
        if following.afterNewline then identifierReference
        else
          bump
          functionDefinition rules start true .expression
      | _ => identifierReference
    | _ => identifierReference
  | _ => unexpected

/-! ## Operators -/

/-- Whether what follows `await` or `yield` on its line makes it an operator. -/
def operandFollows (t : Token) : Bool :=
  !t.afterNewline && (binaryPrecedence? t.lexeme).isNone &&
    (t.lexeme.isLiteral || t.lexeme.isName)

def isAwait : Parser Bool := do
  unless ← atWord "await" do return false
  return (← read).allowAwait || operandFollows (← peek)

def awaitExpression (rules : Rules) : Parser Node := do
  let start ← tokenStart
  let ctx ← read
  faultIf (!ctx.allowAwait) start
  faultIf ctx.inParameters start
  bump
  let argument ← within (fun c => { c with allowAwait := true }) (rules .unary)
  node .await start [argument]

def updateExpression (rules : Rules) : Parser Node := do
  let start ← tokenStart
  if isUpdateOperator (← lexeme) then
    bump
    let argument ← rules .unary
    checkSimpleTarget argument
    return ← node .update start [argument]
  let argument ← leftHandSide rules
  if isUpdateOperator (← lexeme) && !(← afterNewline) then
    bump
    checkSimpleTarget argument
    return ← node .update start [argument]
  pure argument

def unaryExpression (rules : Rules) : Parser Node := do
  let start ← tokenStart
  if isUnaryOperator (← lexeme) then
    bump
    let argument ← rules .unary
    node .unary start [argument]
  else if ← isAwait then awaitExpression rules
  else updateExpression rules

/-- Mixing `??` with `||` or `&&` needs parentheses. -/
def checkMixing (start : Nat) (coalesce : Bool) (left right : Node) : Parser Unit :=
  match right.shape, left.shape with
  | .logical other, _ => faultIf (coalesce && !other) start
  | _, .logical other => faultIf (coalesce && !other) start
  | _, _ => pure ()

/-- Operators that bind tighter than `least`, after their left operand. -/
def binaryRest (rules : Rules) (start : Nat) (left : Node) (parenthesizedLeft : Bool)
    (least : Nat) : Parser Node :=
  iterate (left, parenthesizedLeft) fun (left, parenthesizedLeft) => do
    let operator ← lexeme
    let some precedence := binaryPrecedence? operator | return .inr left
    let isPower := operator == .punctuator "**"
    if (if isPower then precedence < least else precedence ≤ least) then return .inr left
    if (← atWord "in") && !(← read).allowIn then return .inr left
    bump
    let right ← rules (.binary precedence)
    if isLogicalOperator operator then
      let coalesce := operator == .punctuator "??"
      checkMixing start coalesce left right
      return .inl (← node (.logical coalesce) start [left, right], false)
    else
      faultIf (isPower && !parenthesizedLeft &&
        (left.shape == .unary || left.shape == .await)) left.start
      return .inl (← node .binary start [left, right], false)

/-- The operand in front; `#name in object` counts as one. -/
def firstOperand (rules : Rules) : Parser Node := do
  let start ← tokenStart
  match ← lexeme with
  | .privateName _ =>
    if (← read).allowIn then
      let name ← privateName
      expectWord "in"
      let right ← rules (.binary 8)
      failIf (right.shape == .privateIn) right.start
      node .privateIn start [name, right]
    else unaryExpression rules
  | _ => unaryExpression rules

def binaryExpression (rules : Rules) (least : Nat) : Parser Node := do
  let start ← tokenStart
  let parenthesizedLeft ← atPunctuator "("
  let left ← firstOperand rules
  binaryRest rules start left parenthesizedLeft least

def isYield : Parser Bool := do
  unless ← atWord "yield" do return false
  return (← read).allowYield || operandFollows (← peek)

/-- Whether `yield` has no operand before this token. -/
def endsYield : Lexeme → Bool
  | .finish => true
  | .punctuator p => ["\x7d", ";", "]", ")", ":", ","].contains p
  | .word name _ => name == "in"
  | _ => false

def yieldExpression (rules : Rules) : Parser Node := do
  let start ← tokenStart
  let ctx ← read
  bump
  faultIf (!ctx.allowYield) start
  faultIf ctx.inParameters start
  if ← afterNewline then return ← node .yield start []
  let delegate ← eat "*"
  if endsYield (← lexeme) && !delegate then return ← node .yield start []
  let argument ← within (fun c => { c with allowYield := true }) (rules .assignment)
  node .yield start [argument]

def conditionalRest (rules : Rules) (start : Nat) (test : Node) : Parser Node := do
  unless ← eat "?" do return test
  let yes ← withIn (rules .assignment)
  expect ":"
  let no ← rules .assignment
  node .conditional start [test, yes, no]

def checkAssigned (plain : Bool) (target : Node) : Parser Unit :=
  if plain then checkTarget target else checkSimpleTarget target

def assignmentRest (rules : Rules) (start : Nat) (target : Node) : Parser Node := do
  let plain ← atPunctuator "="
  checkAssigned plain target
  bump
  let value ← rules .assignment
  node (.assignment plain) start [target, value]

def assignmentExpression (rules : Rules) : Parser Node := do
  if ← isYield then return ← yieldExpression rules
  if let some arrow ← parenthesizedArrow? rules then return arrow
  if let some arrow ← asyncSimpleArrow? rules then return arrow
  let start ← tokenStart
  let left ← binaryExpression rules 0
  if (← atPunctuator "=>") && left.isIdentifier then simpleArrow rules start left false
  else if isAssignmentOperator (← lexeme) then assignmentRest rules start left
  else conditionalRest rules start left

end ModuleBundler.Script
