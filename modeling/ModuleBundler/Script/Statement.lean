import ModuleBundler.Script.Expression

/-!
# Statements

A statement may be an import or an export wherever it stands; only those at the top are items of
their own.
-/

namespace ModuleBundler.Script

open Script.Parser

def fullExpression (rules : Rules) : Parser Node := withIn (expression rules)

def block (rules : Rules) : Parser Node := do
  let start ← tokenStart
  expect "\x7b"
  let parts ← repeatUntil (atListEnd "\x7d") (rules (.statement false))
  expect "\x7d"
  node .block start parts

def parenthesizedTest (rules : Rules) : Parser Node := do
  expect "("
  let test ← fullExpression rules
  expect ")"
  pure test

/-! ## Variables -/

inductive VariableKind where
  | var
  | «let»
  | const
  | using
  deriving DecidableEq

/-- A pattern needs a value to take apart, and a constant needs its value. -/
def checkInitialized (kind : VariableKind) (declarator : Node) : Parser Unit := do
  match declarator.parts with
  | [.mk (.binding _) span _] => faultIf (kind == .const) span.stop
  | [target] => fault target.start
  | _ => pure ()

def declarator (rules : Rules) : Parser Node := do
  let start ← tokenStart
  let target ← rules .bindingTarget
  if ← eat "=" then
    let value ← rules .assignment
    node .declarator start [target, value]
  else node .declarator start [target]

def commaSeparated (p : Parser Node) : Parser (List Node) := do
  let first ← p
  moreAfterCommas first p

def variableKind? : Parser (Option VariableKind) := do
  match ← lexeme with
  | .word "var" _ => pure (some .var)
  | .word "let" _ => pure (some .let)
  | .word "const" _ => pure (some .const)
  | _ => pure none

def variableDeclarator (rules : Rules) (kind : VariableKind) (inLoop : Bool) : Parser Node := do
  let d ← declarator rules
  if inLoop then pure d
  else
    checkInitialized kind d
    pure d

/-- In the head of a loop a declaration ends without a semicolon. -/
def endDeclaration (inLoop : Bool) : Parser Unit :=
  if inLoop then pure () else endStatement

/-- A declaration with `var`, `let` or `const`; in front of `for` nothing is checked yet. -/
def variableList (rules : Rules) (kind : VariableKind) (inLoop : Bool) : Parser Node := do
  let start ← tokenStart
  bump
  let ds ← commaSeparated (variableDeclarator rules kind inLoop)
  endDeclaration inLoop
  node .variableList start ds

def variableStatement (rules : Rules) (kind : VariableKind) (single : Bool) : Parser Node := do
  let n ← variableList rules kind false
  faultIf (single && kind != .var) n.start
  pure n

/-- Whether `using` declares: a name follows it on its line. -/
def usingDeclares : Parser Bool := do
  unless ← atWord "using" do return false
  let t ← peek
  return !t.afterNewline && (t.lexeme.isBinding || t.lexeme == .punctuator "\x7b")

def awaitUsingDeclares : Parser Bool := do
  unless ← atWord "await" do return false
  lookahead do
    skip
    if ← afterNewline then pure false else usingDeclares

def Node.isBinding (n : Node) : Bool :=
  match n.shape with
  | .binding _ => true
  | _ => false

/-- `using` declares names, not patterns, and gives them values. -/
def checkUsing (inLoop : Bool) (declarator : Node) : Parser Unit := do
  match declarator.parts with
  | target :: values =>
    faultIf (!target.isBinding) target.start
    faultIf (values.isEmpty && !inLoop) target.start
  | [] => pure ()

def usingDeclarator (rules : Rules) (inLoop : Bool) : Parser Node := do
  let d ← declarator rules
  checkUsing inLoop d
  pure d

def usingDeclaration (rules : Rules) (inLoop : Bool) : Parser Node := do
  let start ← tokenStart
  let _ ← eatWord "await"
  expectWord "using"
  let ds ← commaSeparated (usingDeclarator rules inLoop)
  endDeclaration inLoop
  node .variableList start ds

/-! ## Simple statements -/

def expressionStatement (rules : Rules) : Parser Node := do
  let start ← tokenStart
  let e ← fullExpression rules
  if ← onlyIf e.isIdentifier (eat ":") then
    let body ← rules (.statement true)
    return ← node .labeled start [e, body]
  endStatement
  node .expressionStatement start [e]

/-- `let` is a name before an operator or a member access, and where no declaration may stand. -/
def letStatement (rules : Rules) (single : Bool) : Parser Node := do
  let start ← tokenStart
  let following := (← peek).lexeme
  let isOperator := isAssignmentOperator following ||
    ((binaryPrecedence? following).isSome && !isLogicalOperator following)
  if isOperator then
    let e ← rules .assignment
    endStatement
    node .expressionStatement start [e]
  else if following == .punctuator "." || following == .punctuator "(" then
    let e ← fullExpression rules
    endStatement
    node .expressionStatement start [e]
  else if (single && following != .punctuator "[") || following == .punctuator ";" then
    let e ← identifierReference
    endStatement
    node .expressionStatement start [e]
  else variableStatement rules .let single

def ifStatement (rules : Rules) : Parser Node := do
  let start ← tokenStart
  bump
  let test ← parenthesizedTest rules
  let yes ← rules (.statement true)
  let no ← listIf (← eatWord "else") (rules (.statement true))
  node .statement start (test :: yes :: no)

def doStatement (rules : Rules) : Parser Node := do
  let start ← tokenStart
  bump
  let body ← rules (.statement true)
  expectWord "while"
  let test ← parenthesizedTest rules
  let _ ← eat ";"
  node .statement start [body, test]

/-- `while` and `with`. -/
def guardedStatement (rules : Rules) : Parser Node := do
  let start ← tokenStart
  bump
  let test ← parenthesizedTest rules
  let body ← rules (.statement true)
  node .statement start [test, body]

def optionalLabel : Parser Unit := do
  if ← canEndStatement then pure () else labelIdentifier

def jumpStatement : Parser Node := do
  let start ← tokenStart
  bump
  optionalLabel
  endStatement
  node .statement start []

/-- The value that is returned, if there is one, and the end of the statement. -/
def returnArgument (rules : Rules) : Parser (List Node) := do
  if ← eat ";" then pure []
  else if ← canEndStatement then pure []
  else
    let e ← fullExpression rules
    endStatement
    pure [e]

def returnStatement (rules : Rules) : Parser Node := do
  let start ← tokenStart
  bump
  let argument ← returnArgument rules
  faultIf (!(← read).inFunction) start
  node .statement start argument

def throwStatement (rules : Rules) : Parser Node := do
  let start ← tokenStart
  bump
  faultIf (← afterNewline) start
  let argument ← fullExpression rules
  endStatement
  node .statement start [argument]

def caseTest (rules : Rules) : Parser (List Node) := do
  if ← eatWord "default" then pure []
  else if ← eatWord "case" then
    let e ← fullExpression rules
    pure [e]
  else unexpected

def atClauseEnd : Parser Bool :=
  return (← atWord "case") || (← atWord "default") || (← atPunctuator "\x7d") || (← atFinish)

def switchCase (rules : Rules) : Parser Node := do
  let start ← tokenStart
  let test ← caseTest rules
  expect ":"
  let body ← repeatUntil atClauseEnd (rules (.statement false))
  node .clause start (test ++ body)

def switchStatement (rules : Rules) : Parser Node := do
  let start ← tokenStart
  bump
  let subject ← parenthesizedTest rules
  expect "\x7b"
  let cases ← repeatUntil (atListEnd "\x7d") (switchCase rules)
  expect "\x7d"
  node .statement start (subject :: cases)

def catchTarget (rules : Rules) : Parser (List Node) := do
  if ← eat "(" then
    let t ← rules .bindingTarget
    expect ")"
    pure [t]
  else pure []

def catchClause (rules : Rules) : Parser Node := do
  let start ← tokenStart
  bump
  let target ← catchTarget rules
  let body ← block rules
  node .clause start (target ++ [body])

def tryStatement (rules : Rules) : Parser Node := do
  let start ← tokenStart
  bump
  let body ← block rules
  let handler ← listIf (← atWord "catch") (catchClause rules)
  let finalizer ← listIf (← eatWord "finally") (block rules)
  faultIf (handler.isEmpty && finalizer.isEmpty) body.span.stop
  node .statement start (body :: handler ++ finalizer)

/-! ## Loops with `for` -/

/-- The rest of a loop with two semicolons. -/
def countedLoop (rules : Rules) (start : Nat) (awaits : Bool) (init : List Node) : Parser Node := do
  expect ";"
  let test ← listIf (!((← atPunctuator ";") || (← atPunctuator ")"))) (fullExpression rules)
  expect ";"
  let update ← listIf (!(← atPunctuator ")")) (fullExpression rules)
  expect ")"
  faultIf awaits start
  let body ← rules (.statement true)
  node .statement start (init ++ test ++ update ++ [body])

/-- What a loop goes over. -/
def iterated (rules : Rules) (isIn : Bool) : Parser Node :=
  if isIn then fullExpression rules else withIn (rules .assignment)

/-- The rest of a loop over keys or values, at `in` or `of`. -/
def iterationLoop (rules : Rules) (start : Nat) (awaits : Bool) (left : Node) : Parser Node := do
  let isIn ← atWord "in"
  bump
  let right ← iterated rules isIn
  expect ")"
  faultIf (awaits && isIn) start
  let body ← rules (.statement true)
  node .statement start [left, right, body]

def atIteration : Parser Bool := return (← atWord "in") || (← atWord "of")

def declaredLoop (rules : Rules) (start : Nat) (awaits : Bool) (kind : VariableKind)
    (declaration : Node) : Parser Node := do
  if ← atIteration then iterationLoop rules start awaits declaration
  else
    declaration.parts.forM (checkInitialized kind)
    countedLoop rules start awaits [declaration]

/-- Takes the word `await` in front of a loop's parentheses. -/
def loopAwaits : Parser Bool := do
  if ← atWord "await" then
    faultIf (!(← read).allowAwait) (← tokenStart)
    bump
    pure true
  else pure false

/-- The kind of the declaration in the head of a loop; `let` may also start an expression. -/
def loopKind? : Parser (Option VariableKind) := do
  let following := (← peek).lexeme
  let declares := following.isBinding && following != .word "in" false ||
    following == .punctuator "\x7b" || following == .punctuator "["
  match ← variableKind? with
  | some .let => pure (if declares then some .let else none)
  | kind? => pure kind?

def loopUses : Parser Bool := do
  if ← awaitUsingDeclares then pure true
  else
    let following := (← peek).lexeme
    pure ((← usingDeclares) && following != .word "of" false)

def withoutIn (p : Parser Node) : Parser Node :=
  within (fun c => { c with allowIn := false }) p

/-- A loop whose head starts with an expression. -/
def expressionLoop (rules : Rules) (start : Nat) (awaits : Bool) : Parser Node := do
  let left ← tokenStart
  let isLet ← atWord "let"
  let isAsync := (← lexeme) == .word "async" false
  let init ← withoutIn (expression rules)
  if ← atIteration then
    checkTarget init
    let bareAsync := isAsync && init.shape == .identifier "async"
    faultIf ((← atWord "of") && ((bareAsync && !awaits) || isLet)) left
    iterationLoop rules start awaits init
  else countedLoop rules start awaits [init]

def forStatement (rules : Rules) : Parser Node := do
  let start ← tokenStart
  bump
  let awaits ← loopAwaits
  expect "("
  if (← atPunctuator ";") || (← atPunctuator ")") then
    return ← countedLoop rules start awaits []
  if let some kind ← loopKind? then
    let declaration ← withoutIn (variableList rules kind true)
    return ← declaredLoop rules start awaits kind declaration
  if ← loopUses then
    let declaration ← withoutIn (usingDeclaration rules true)
    return ← declaredLoop rules start awaits .using declaration
  expressionLoop rules start awaits

/-! ## Declarations -/

def functionStatement (rules : Rules) (start : Nat) (async single : Bool) : Parser Node := do
  let generator := (← peek).lexeme == .punctuator "*"
  let n ← functionDefinition rules start async .declaration
  faultIf (single && (async || generator)) n.start
  pure n

def classStatement (rules : Rules) (start : Nat) (ds : List Node) (single : Bool) : Parser Node := do
  let n ← classDefinition rules start ds
  faultIf single n.start
  pure n

def atAsyncFunction : Parser Bool := do
  unless ← atWord "async" do return false
  let t ← peek
  match t.lexeme with
  | .word "function" _ => return !t.afterNewline
  | _ => return false

/-! ## Imports and exports -/

def attributeKey : Parser String := do
  match ← lexeme with
  | .string .. =>
    let (value, _, _) ← stringLiteral
    pure value
  | _ => takeWord

/-- One attribute; the answer is its key and where that stands. -/
def importAttribute : Parser (String × Nat) := do
  let start ← tokenStart
  let key ← attributeKey
  expect ":"
  let _ ← stringLiteral
  pure (key, start)

def checkAttributes : List (String × Nat) → Parser Unit
  | [] => pure ()
  | (key, start) :: r => do
    faultIf (r.any (·.1 == key)) start
    checkAttributes r

def importAttributes : Parser Unit := do
  let starts := (← atWord "with") || ((← atWord "assert") && !(← afterNewline))
  unless starts do return
  skip
  expect "\x7b"
  let (keys, _) ← commaList "\x7d" importAttribute
  expect "\x7d"
  checkAttributes keys

def bindingName (n : Node) : String :=
  match n.shape with
  | .binding name => name
  | _ => ""

def importSpecifier : Parser ImportBinding := do
  let following := (← peek).lexeme
  match following with
  | .word "as" _ =>
    let (imported, _) ← exportName
    bump
    let bound ← bindingIdentifier
    pure ⟨imported.name, bindingName bound⟩
  | _ =>
    let bound ← bindingIdentifier
    pure ⟨bindingName bound, bindingName bound⟩

/-- `* as name` or `{ ... }`. -/
def importBindings (clause : ImportClause) : Parser ImportClause := do
  if ← atPunctuator "*" then
    bump
    expectWord "as"
    let bound ← bindingIdentifier
    pure { clause with namespaceName? := some (bindingName bound) }
  else if ← atPunctuator "\x7b" then
    bump
    let (named, _) ← commaList "\x7d" importSpecifier
    expect "\x7d"
    pure { clause with named }
  else unexpected

/-- The default binding after a first name, which may have been the phase `source`. -/
def boundAfter (first : Lexeme) (bound : Node) : Parser Node := do
  let following := (← peek).lexeme
  let isFrom ← atWord "from"
  let namesPhase := match following with
    | .word "from" _ => true
    | _ => !isFrom
  if first == .word "source" false && (← lexeme).isBinding && namesPhase then bindingIdentifier
  else pure bound

/-- What stands between `import` and `from`. The words `defer` and `source` may name a phase. -/
def importClause : Parser ImportClause := do
  if (← atPunctuator "*") || (← atPunctuator "\x7b") then return ← importBindings {}
  unexpectedIf (!(← lexeme).isBinding)
  let first ← lexeme
  let bound ← bindingIdentifier
  if first == .word "defer" false && (← atPunctuator "*") then return ← importBindings {}
  let bound ← boundAfter first bound
  let clause : ImportClause := { defaultName? := some (bindingName bound) }
  if ← eat "," then importBindings clause else pure clause

/-- An import without a clause only evaluates its module. -/
def optionalClause : Parser ImportClause := do
  match ← lexeme with
  | .string .. => pure {}
  | _ =>
    let c ← importClause
    expectWord "from"
    pure c

def importDeclaration : Parser Item := do
  let start ← tokenStart
  bump
  let clause ← optionalClause
  let (specifier, _, _) ← stringLiteral
  importAttributes
  endStatement
  return .importBindings ⟨start, ← previousStop⟩ clause specifier

def exportAlias? : Parser (Option SourceName) := do
  if ← eatWord "as" then
    let (name, _) ← exportName
    pure (some name)
  else pure none

def exportAllDeclaration (start : Nat) : Parser Item := do
  bump
  let exported? ← exportAlias?
  expectWord "from"
  let (specifier, _, _) ← stringLiteral
  importAttributes
  endStatement
  return .exportAll ⟨start, ← previousStop⟩ exported? specifier

/-- Names of bindings are no strings and no reserved words. -/
def checkLocalName (name : SourceName) (quoted : Bool) : Parser Unit := do
  faultIf (quoted || isReserved name.name || strictWords.contains name.name) name.start

/-- One name of an export list; the flag tells a quoted one. -/
def exportSpecifier : Parser (Bool × ExportSpecifier) := do
  let (source, quoted) ← exportName
  let alias? ← exportAlias?
  pure (quoted, { source, exported := alias?.getD source })

def exportNames (start : Nat) : Parser Item := do
  bump
  let (names, _) ← commaList "\x7d" exportSpecifier
  expect "\x7d"
  if (← eatWord "from") && (← lexeme).isLiteral then
    let (specifier, _, _) ← stringLiteral
    importAttributes
    endStatement
    return .exportFrom ⟨start, ← previousStop⟩ (names.map Prod.snd) specifier
  names.forM fun (quoted, name) => checkLocalName name.source quoted
  endStatement
  return .exportList ⟨start, ← previousStop⟩ (names.map Prod.snd)

/-- The decorators of a class after `export`, unless some stand in front of `export`. -/
def ownDecorators (rules : Rules) (ds : List Node) : Parser (List Node) := do
  let own ← decorators rules
  faultAt? (if ds.isEmpty then none else own.head?.map Node.start)
  pure own

/-- What `export default` exports. -/
def defaultDeclared (rules : Rules) (ds : List Node) : Parser Node := do
  let start ← tokenStart
  let own ← ownDecorators rules ds
  if ← atWord "class" then classDefinition rules start own
  else
    unexpectedIf (!own.isEmpty)
    if ← atWord "function" then functionDefinition rules start false .defaultExport
    else if ← atAsyncFunction then
      bump
      functionDefinition rules start true .defaultExport
    else
      let e ← withIn (rules .assignment)
      endStatement
      pure e

def exportDefaultDeclaration (rules : Rules) (start : Nat) (ds : List Node) : Parser Item := do
  let keyword ← tokenStart
  bump
  let declaration ← defaultDeclared rules ds
  return .exportDefault ⟨start, ← previousStop⟩ keyword declaration

/-- The declaration after `export`. -/
def declared (rules : Rules) (ds : List Node) : Parser Node := do
  let start ← tokenStart
  let own ← ownDecorators rules ds
  if ← atWord "class" then classDefinition rules start own
  else
    (ds ++ own).forM fun d => fault d.start
    match ← variableKind? with
    | some kind => variableList rules kind false
    | none =>
      if ← atWord "function" then functionDefinition rules start false .declaration
      else if ← atAsyncFunction then
        bump
        functionDefinition rules start true .declaration
      else unexpected

def exportedDeclaration (rules : Rules) (start : Nat) (ds : List Node) : Parser Item := do
  let declaration ← declared rules ds
  return .exportDeclaration ⟨start, ← previousStop⟩ declaration

def exportDeclaration (rules : Rules) (ds : List Node) : Parser Item := do
  let start ← tokenStart
  bump
  match ← lexeme with
  | .word "default" _ => exportDefaultDeclaration rules start ds
  | .punctuator "*" => exportAllDeclaration start
  | .punctuator "\x7b" => exportNames start
  | _ => exportedDeclaration rules start ds

/-! ## Any statement -/

/-- Statements that start with a decorator: a class, or the export of one. -/
def decoratedStatement (rules : Rules) (single : Bool) : Parser Item := do
  let start ← tokenStart
  let ds ← decorators rules
  if ← atWord "export" then
    let item ← exportDeclaration rules ds
    match item with
    | .exportDeclaration span declaration =>
      return .exportDeclaration span (attach ds declaration)
    | .exportDefault span keyword declaration =>
      return .exportDefault span keyword (attach ds declaration)
    | item => return item
  else if ← atWord "class" then return .statement (← classStatement rules start ds single)
  else unexpected
where
  /-- The decorators in front of an export belong to the class that it declares. -/
  attach (ds : List Node) : Node → Node
    | .mk (.classDefinition name?) span parts => .mk (.classDefinition name?) span (ds ++ parts)
    | n => n

def statementItem (rules : Rules) (single : Bool) : Parser Item := do
  let start ← tokenStart
  match ← lexeme with
  | .punctuator "\x7b" => return .statement (← block rules)
  | .punctuator ";" =>
    bump
    return .statement (← node .statement start [])
  | .punctuator "@" => decoratedStatement rules single
  | .word name escaped => match name with
    | "if" => return .statement (← ifStatement rules)
    | "do" => return .statement (← doStatement rules)
    | "while" | "with" => return .statement (← guardedStatement rules)
    | "for" => return .statement (← forStatement rules)
    | "continue" | "break" => return .statement (← jumpStatement)
    | "switch" => return .statement (← switchStatement rules)
    | "throw" => return .statement (← throwStatement rules)
    | "try" => return .statement (← tryStatement rules)
    | "debugger" =>
      bump
      endStatement
      return .statement (← node .statement start [])
    | "class" => return .statement (← classStatement rules start [] single)
    | "function" => return .statement (← functionStatement rules start false single)
    | "return" => return .statement (← returnStatement rules)
    | "var" => return .statement (← variableStatement rules .var single)
    | "const" => return .statement (← variableStatement rules .const single)
    | "let" =>
      if escaped then return .statement (← expressionStatement rules)
      else return .statement (← letStatement rules single)
    | "using" =>
      if ← usingDeclares then return .statement (← usingDeclaration rules false)
      else return .statement (← expressionStatement rules)
    | "await" =>
      if ← awaitUsingDeclares then return .statement (← usingDeclaration rules false)
      else return .statement (← expressionStatement rules)
    | "async" =>
      if ← atAsyncFunction then
        bump
        return .statement (← functionStatement rules start true single)
      else return .statement (← expressionStatement rules)
    | "import" =>
      match (← peek).lexeme with
      | .punctuator "." | .punctuator "(" => return .statement (← expressionStatement rules)
      | _ => importDeclaration
    | "export" => exportDeclaration rules []
    | _ => return .statement (← expressionStatement rules)
  | _ => return .statement (← expressionStatement rules)

/-- A statement inside another one; an import or export there keeps its code only. -/
def statementNode (rules : Rules) (single : Bool) : Parser Node := do
  let start ← tokenStart
  match ← statementItem rules single with
  | .statement n => pure n
  | item => node .moduleDeclaration start item.code?.toList

end ModuleBundler.Script
