import ModuleBundler.Script.Statement

/-!
# Programs

`Program.parse` reads a whole text as a module and reports the line of the first error otherwise.
-/

namespace ModuleBundler.Script

open Script.Parser

def production (rules : Rules) : Rules
  | .statement single => statementNode rules single
  | .assignment => assignmentExpression rules
  | .binary precedence => binaryExpression rules precedence
  | .unary => unaryExpression rules
  | .primary => primaryExpression rules
  | .leftHandSide => leftHandSide rules
  | .bindingTarget => bindingTarget rules

/-- The grammar, unfolded to a given depth. -/
def grammar : Nat → Rules
  | 0 => fun _ => do fail (← tokenStart)
  | n + 1 => production (grammar n)

def skipHashbang : Parser Unit := do
  if (← lexeme) == .hashbang then skip

def programItems (rules : Rules) : Parser (List Item) := do
  skipHashbang
  repeatUntil atFinish (statementItem rules false)

/-! ## Exported names -/

namespace Item

/-- The names that an item exports, with their offsets, in source order. -/
def exportedNames : Item → List SourceName
  | .statement _ | .importBindings .. => []
  | .exportAll _ exported? _ => exported?.toList
  | .exportFrom _ names _ | .exportList _ names => names.map (·.exported)
  | .exportDeclaration _ declaration => declaredNames declaration
  | .exportDefault _ keyword _ => [⟨"default", keyword⟩]

end Item

/-- Where the first name to be exported twice is exported first. -/
def duplicateExport? : List SourceName → List SourceName → Option Nat
  | _, [] => none
  | seen, n :: r =>
    match seen.find? (·.name == n.name) with
    | some first => some first.start
    | none => duplicateExport? (seen ++ [n]) r

/-! ## Diagnostics -/

/-- A comment with this word explains every error: the text is of another dialect. -/
def dialectMark : List Char := "@flow".toList

def containsList (pattern : List Char) : List Char → Bool
  | [] => pattern.isEmpty
  | c :: r => pattern.isPrefixOf (c :: r) || containsList pattern r

/-- The offset of the first of these errors, unless the first comment explains them. -/
def firstFault? (source : List Char) (state : ParserState) (faults : List Nat) : Option Nat :=
  match faults with
  | [] => none
  | offset :: _ =>
    match state.comment? with
    | some span =>
      if containsList dialectMark ((source.drop span.start).take (span.stop - span.start)) then
        some span.start
      else some offset
    | none => some offset

/-- Lines are counted from one and end with a line feed. -/
def lineOf (source : List Char) (offset : Nat) : Nat :=
  (source.take offset).count '\n' + 1

def ParserState.init (text : List Char) : ParserState :=
  let s := Cursor.scan ⟨text, 0⟩
  { token := s.token, origin := s.start, next := s.next, lexicalFaults := s.faults.reverse,
    comment? := s.comment? }

/-- The items of a text, or the offset of the first error. -/
def parseItems (source : List Char) : Except Nat (List Item) :=
  let rules := grammar (2 * source.length + 16)
  let result := programItems rules { limit := source.length + 2 } (ParserState.init source)
  match result with
  | .error f =>
    let s := f.state
    let faults := s.lexicalFaults.reverse ++ s.grammarFaults.reverse ++ [f.offset]
    .error ((firstFault? source s faults).getD f.offset)
  | .ok (items, s) =>
    let faults := s.lexicalFaults.reverse ++ s.grammarFaults.reverse ++ s.shorthandValues.reverse
    match firstFault? source s faults with
    | some offset => .error offset
    | none =>
      match duplicateExport? [] (items.flatMap Item.exportedNames) with
      | some offset => .error offset
      | none => .ok items

namespace Program

/-- Reads a text as a module; an error is the line of the first diagnostic. -/
def parse (source : String) : Except Nat Program :=
  match parseItems source.toList with
  | .ok items => .ok ⟨items⟩
  | .error offset => .error (lineOf source.toList offset)

end Program

end ModuleBundler.Script
