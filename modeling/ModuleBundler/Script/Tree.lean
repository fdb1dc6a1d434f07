import ModuleBundler.Script.Token

/-!
# Syntax trees of scripts

Inside a statement one node type serves expressions, patterns and statements: a shape, the stretch
of text it covers, and the parts in source order. A program is a list of top-level items, in which
imports and exports are told apart from other statements.
-/

namespace ModuleBundler.Script

/-- A name and the offset at which it stands. -/
structure SourceName where
  name : String
  start : Nat
  deriving DecidableEq, Inhabited

inductive Shape where
  -- names and literals
  | identifier (name : String)
  | privateName (name : String)
  | propertyName (name : String)
  | this
  | super
  | literal
  | string (value : String)
  | hole
  -- expressions
  | template
  | taggedTemplate
  | array
  | object
  | spread
  | shorthand
  | keyed
  | method
  | functionDefinition (name? : Option SourceName)
  | classDefinition (name? : Option SourceName)
  | arrow
  | unary
  | update
  | await
  | yield
  | binary
  | logical (coalesce : Bool)
  | privateIn
  | conditional
  | assignment (plain : Bool)
  | sequence
  | parenthesized
  | call
  | new
  | importCall
  | member
  | chain
  | metaProperty
  -- patterns
  | binding (name : String)
  | objectPattern
  | arrayPattern
  | patternProperty
  | withDefault
  | rest
  -- parts of declarations
  | parameters
  | body
  | field
  | decorator
  | variableList
  | declarator
  -- statements
  | block
  | expressionStatement
  | statement
  | labeled
  | clause
  | moduleDeclaration
  deriving DecidableEq, Inhabited

inductive Node where
  | mk (shape : Shape) (span : Span) (parts : List Node)

namespace Node

instance : Inhabited Node := ⟨.mk .hole ⟨0, 0⟩ []⟩

def shape : Node → Shape
  | .mk shape _ _ => shape

def span : Node → Span
  | .mk _ span _ => span

def parts : Node → List Node
  | .mk _ _ parts => parts

def start (n : Node) : Nat := n.span.start

def isIdentifier (n : Node) : Bool :=
  match n.shape with
  | .identifier _ => true
  | _ => false

mutual

/-- The names that a pattern binds, in source order. -/
def boundNames : Node → List SourceName
  | .mk shape span parts =>
    match shape with
    | .binding name => [⟨name, span.start⟩]
    | .patternProperty => boundNamesOfLast parts
    | .withDefault | .declarator => boundNamesOfFirst parts
    | .objectPattern | .arrayPattern | .rest | .variableList => boundNamesOfAll parts
    | _ => []

def boundNamesOfAll : List Node → List SourceName
  | [] => []
  | n :: r => boundNames n ++ boundNamesOfAll r

def boundNamesOfFirst : List Node → List SourceName
  | [] => []
  | n :: _ => boundNames n

def boundNamesOfLast : List Node → List SourceName
  | [] => []
  | [n] => boundNames n
  | _ :: r => boundNamesOfLast r

end

end Node

structure ImportBinding where
  imported : String
  bound : String
  deriving DecidableEq

/-- What an import declaration binds. -/
structure ImportClause where
  defaultName? : Option String := none
  namespaceName? : Option String := none
  named : List ImportBinding := []

structure ExportSpecifier where
  source : SourceName
  exported : SourceName

inductive Item where
  | statement (node : Node)
  | importBindings (span : Span) (clause : ImportClause) (specifier : String)
  | exportAll (span : Span) (exported? : Option SourceName) (specifier : String)
  | exportFrom (span : Span) (names : List ExportSpecifier) (specifier : String)
  | exportList (span : Span) (names : List ExportSpecifier)
  | exportDeclaration (span : Span) (declaration : Node)
  /-- `keyword` is the offset of the word `default`. -/
  | exportDefault (span : Span) (keyword : Nat) (declaration : Node)

structure Program where
  items : List Item

namespace Item

/-- The syntax in which calls may stand. -/
def code? : Item → Option Node
  | .statement node => some node
  | .exportDeclaration _ declaration => some declaration
  | .exportDefault _ _ declaration => some declaration
  | .importBindings .. | .exportAll .. | .exportFrom .. | .exportList .. => none

/-- The names that an exported declaration declares. -/
def declaredNames (declaration : Node) : List SourceName :=
  match declaration.shape with
  | .functionDefinition name? | .classDefinition name? => name?.toList
  | _ => declaration.boundNames

end Item

end ModuleBundler.Script
