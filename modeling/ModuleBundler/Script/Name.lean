import ModuleBundler.Script.Parser

/-!
# Names in the grammar

Bindings, references, labels, property names and names of imports and exports.
-/

namespace ModuleBundler.Script

open Script.Parser

/-- Takes the current word as a name, whatever its escapes. -/
def takeWord : Parser String := do
  match ← lexeme with
  | .word name _ =>
    skip
    pure name
  | _ => unexpected

def takeName : Parser SourceName := do
  let start ← tokenStart
  return ⟨← takeWord, start⟩

/-- `await` and `yield` name nothing where they are operators. -/
def checkIdentifier (allowAwait allowYield : Bool) : Parser Unit := do
  match ← lexeme with
  | .word name _ =>
    faultIf (allowAwait && name == "await") (← tokenStart)
    faultIf (allowYield && name == "yield") (← tokenStart)
  | _ => pure ()

def bindingIdentifier : Parser Node := do
  unexpectedIf (!(← lexeme).isBinding)
  let ctx ← read
  checkIdentifier ctx.allowAwait ctx.allowYield
  let start ← tokenStart
  let name ← takeWord
  node (.binding name) start []

def identifierReference : Parser Node := do
  unexpectedIf (!(← lexeme).isReference false false)
  let ctx ← read
  checkIdentifier ctx.allowAwait ctx.allowYield
  let start ← tokenStart
  let name ← takeWord
  node (.identifier name) start []

def labelIdentifier : Parser Unit := do
  let ctx ← read
  unexpectedIf (!(← lexeme).isReference ctx.allowYield ctx.allowAwait)
  let _ ← takeWord

def identifierName : Parser Node := do
  let start ← tokenStart
  let name ← takeWord
  node (.propertyName name) start []

def privateName : Parser Node := do
  let start ← tokenStart
  match ← lexeme with
  | .privateName name =>
    skip
    node (.privateName name) start []
  | _ => unexpected

def stringLiteral : Parser (String × Bool × Nat) := do
  let start ← tokenStart
  match ← lexeme with
  | .string value wellFormed =>
    skip
    pure (value, wellFormed, start)
  | _ => unexpected

/-- The name of a property; the flag tells a computed one. -/
def propertyName (rules : Rules) : Parser (Node × Bool) := do
  let start ← tokenStart
  match ← lexeme with
  | .string value _ =>
    skip
    return (← node (.string value) start [], false)
  | .number =>
    skip
    return (← node .literal start [], false)
  | .punctuator "[" =>
    bump
    let key ← within (fun c => { c with allowIn := true }) (rules .assignment)
    expect "]"
    return (key, true)
  | _ => return (← identifierName, false)

/-- The text of a property name that is written out. -/
def keyText? (key : Node) (computed : Bool) : Option String :=
  if computed then none
  else match key.shape with
    | .propertyName name => some name
    | .string value => some value
    | _ => none

/-- The name of an import or export; a string must be well formed. -/
def exportName : Parser (SourceName × Bool) := do
  match ← lexeme with
  | .string .. =>
    let (value, wellFormed, start) ← stringLiteral
    faultIf (!wellFormed) start
    return (⟨value, start⟩, true)
  | _ =>
    let start ← tokenStart
    let name ← takeWord
    return (⟨name, start⟩, false)

end ModuleBundler.Script
