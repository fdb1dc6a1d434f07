import ModuleBundler.Script.Statement
import ModuleBundler.Proofs.Script.Expression

/-!
# Statements are placed

For imports and exports this says where the parts of the item stand: the span of the statement, and
in an export the declaration behind the words that are dropped.
-/

namespace ModuleBundler.Script

open Node (sitesOfAll)
open ModuleBundler.Script.Parser
open ParserState (Reach)

variable {rules : Rules} {took : Bool} {ctx : Context} {s₀ s t : ParserState} {start lo hi : Nat}
  {L : List Span}

theorem builds_fullExpression (h : rules.Sound) : Builds (fullExpression rules) :=
  builds_withIn (builds_expression h)

theorem builds_block (h : rules.Sound) : Builds (block rules) := by
  intro ctx s hs
  apply Yields.tokenStart
  apply (takes_expect "\x7b").step (Track.start hs)
  intro _ s t
  apply (gathers_many (reads_atListEnd "\x7d") (h (.statement false))).step t
  intro parts s t
  apply (takes_expect "\x7d").step t
  intro _ s t
  exact Track.node (by simpa using t)

theorem builds_parenthesizedTest (h : rules.Sound) : Builds (parenthesizedTest rules) := by
  intro ctx s hs
  apply (takes_expect "(").step (Track.start hs)
  intro _ s t
  apply Built.step ((builds_fullExpression h).last t)
  intro test s ht
  exact (takes_expect ")").moves.pass ht fun _ s ht => Yields.pure ht

/-! ## Variables -/

/-- A node that is checked after it has been read. -/
theorem builds_checked {p : Parser Node} {check : Node → Parser Unit} (h : Builds p)
    (hc : ∀ n, Moves (check n)) : Builds (do
      let n ← p
      check n
      pure n) :=
  fun ctx s hs => Built.step (h ctx s hs) fun n _ hn =>
    (hc n).pass hn fun _ _ hn => Yields.pure hn

theorem moves_checkInitialized (kind : VariableKind) (d : Node) :
    Moves (checkInitialized kind d) := by
  unfold checkInitialized
  split
  · exact moves_faultIf _ _
  · exact moves_fault _
  · exact moves_pure ()

theorem builds_declarator (h : rules.Sound) : Builds (declarator rules) := by
  intro ctx s hs
  apply Yields.tokenStart
  apply (h .bindingTarget).step (Track.start hs)
  intro target s t
  apply (tries_eat "=").moves.step t
  intro _ s t
  split
  · apply (h .assignment).step t
    intro value s t
    exact Track.node (by simpa using t)
  · exact Track.node (by simpa using t)

theorem gathers_commaSeparated {p : Parser Node} (h : Builds p) :
    Gathers sitesOfAll (commaSeparated p) := by
  intro ctx s hs
  apply h.step (Track.start hs)
  intro first s t
  apply (gathers_moreAfterCommas h.gathers t).mono
  intro l u t
  rw [← Node.sitesOfAll_eq_flatMap] at t
  exact ⟨t.reach, t.fits⟩

theorem reads_variableKind? : Reads variableKind? := by
  apply reads_lexeme.bind
  intro l
  split
  · exact reads_pure _
  · exact reads_pure _
  · exact reads_pure _
  · exact reads_pure _

theorem builds_variableDeclarator (h : rules.Sound) (kind : VariableKind) (inLoop : Bool) :
    Builds (variableDeclarator rules kind inLoop) := by
  intro ctx s hs
  apply Built.step (builds_declarator h ctx s hs)
  intro d s hd
  apply Yields.ite (Yields.pure hd)
  exact (moves_checkInitialized kind d).pass hd fun _ s hd => Yields.pure hd

theorem moves_endDeclaration (inLoop : Bool) : Moves (endDeclaration inLoop) :=
  (moves_pure ()).ite moves_endStatement

theorem builds_variableList (h : rules.Sound) (kind : VariableKind) (inLoop : Bool) :
    Builds (variableList rules kind inLoop) := by
  intro ctx s hs
  apply Yields.tokenStart
  apply takes_bump.step (Track.start hs)
  intro _ s t
  apply (gathers_commaSeparated (builds_variableDeclarator h kind inLoop)).step t
  intro ds s t
  apply (moves_endDeclaration inLoop).step t
  intro _ s t
  exact Track.node (by simpa using t)

theorem builds_variableStatement (h : rules.Sound) (kind : VariableKind) (single : Bool) :
    Builds (variableStatement rules kind single) :=
  builds_checked (builds_variableList h kind false) fun n => moves_faultIf _ n.start

theorem reads_usingDeclares : Reads usingDeclares := by
  apply (reads_atWord "using").bind
  intro _
  split
  · exact reads_peek.bind fun _ => reads_pure _
  · exact reads_pure false

theorem reads_awaitUsingDeclares : Reads awaitUsingDeclares := by
  apply (reads_atWord "await").bind
  intro _
  split
  · exact reads_lookahead _
  · exact reads_pure false

theorem moves_checkUsing (inLoop : Bool) (d : Node) : Moves (checkUsing inLoop d) := by
  unfold checkUsing
  split
  · exact (moves_faultIf _ _).bind fun _ => moves_faultIf _ _
  · exact moves_pure ()

theorem builds_usingDeclaration (h : rules.Sound) (inLoop : Bool) :
    Builds (usingDeclaration rules inLoop) := by
  intro ctx s hs
  apply Yields.tokenStart
  apply (tries_eatWord "await").moves.step (Track.start hs)
  intro _ s t
  apply (takes_expectWord "using").step t
  intro _ s t
  have hd : Builds (usingDeclarator rules inLoop) :=
    builds_checked (builds_declarator h) (moves_checkUsing inLoop)
  apply (gathers_commaSeparated hd).step t
  intro ds s t
  apply (moves_endDeclaration inLoop).step t
  intro _ s t
  exact Track.node (by simpa using t)

/-! ## Simple statements -/

theorem builds_expressionStatement (h : rules.Sound) : Builds (expressionStatement rules) := by
  intro ctx s hs
  apply Yields.tokenStart
  apply (builds_fullExpression h).step (Track.start hs)
  intro e s t
  apply (moves_onlyIf (tries_eat ":").moves _).step t
  intro _ s t
  split
  · apply (h (.statement true)).step t
    intro body s t
    exact Track.node (by simpa using t)
  · apply moves_endStatement.step t
    intro _ s t
    exact Track.node (by simpa using t)

/-- An expression of any kind as a statement. -/
theorem built_expressionStatement {p : Parser Node} (h : Builds p) (hs : s.Ordered) :
    Yields (do
      let e ← p
      endStatement
      node .expressionStatement s.here [e]) ctx s (Built s s.here) := by
  apply h.step (Track.start hs)
  intro e s t
  apply moves_endStatement.step t
  intro _ s t
  exact Track.node (by simpa using t)

theorem builds_letStatement (h : rules.Sound) (single : Bool) :
    Builds (letStatement rules single) := by
  intro ctx s hs
  apply Yields.tokenStart
  apply reads_peek.step
  intro following
  apply Yields.ite (built_expressionStatement (h .assignment) hs)
  apply Yields.ite (built_expressionStatement (builds_fullExpression h) hs)
  apply Yields.ite (built_expressionStatement builds_identifierReference hs)
  exact builds_variableStatement h .let single ctx s hs

theorem builds_ifStatement (h : rules.Sound) : Builds (ifStatement rules) := by
  intro ctx s hs
  apply Yields.tokenStart
  apply takes_bump.step (Track.start hs)
  intro _ s t
  apply (builds_parenthesizedTest h).step t
  intro test s t
  apply (h (.statement true)).step t
  intro yes s t
  apply (tries_eatWord "else").moves.step t
  intro present s t
  apply (gathers_listIf (h (.statement true)) present).step t
  intro no s t
  exact Track.node (by simpa using t)

theorem builds_doStatement (h : rules.Sound) : Builds (doStatement rules) := by
  intro ctx s hs
  apply Yields.tokenStart
  apply takes_bump.step (Track.start hs)
  intro _ s t
  apply (h (.statement true)).step t
  intro body s t
  apply (takes_expectWord "while").step t
  intro _ s t
  apply (builds_parenthesizedTest h).step t
  intro test s t
  apply (tries_eat ";").moves.step t
  intro _ s t
  exact Track.node (by simpa using t)

theorem builds_guardedStatement (h : rules.Sound) : Builds (guardedStatement rules) := by
  intro ctx s hs
  apply Yields.tokenStart
  apply takes_bump.step (Track.start hs)
  intro _ s t
  apply (builds_parenthesizedTest h).step t
  intro test s t
  apply (h (.statement true)).step t
  intro body s t
  exact Track.node (by simpa using t)

theorem moves_optionalLabel : Moves optionalLabel :=
  reads_canEndStatement.moves.bind fun _ => (moves_pure ()).ite moves_labelIdentifier

theorem builds_jumpStatement : Builds jumpStatement := by
  intro ctx s hs
  apply Yields.tokenStart
  apply takes_bump.step (Track.start hs)
  intro _ s t
  apply moves_optionalLabel.step t
  intro _ s t
  apply moves_endStatement.step t
  intro _ s t
  exact t.node

theorem gathers_returnArgument (h : rules.Sound) : Gathers sitesOfAll (returnArgument rules) := by
  intro ctx s hs
  apply (tries_eat ";").moves.step (Track.start hs)
  intro _ s t
  refine Yields.ite (Yields.pure ⟨t.reach, .nil⟩) (reads_canEndStatement.step fun _ => ?_)
  apply Yields.ite (Yields.pure ⟨t.reach, .nil⟩)
  apply (builds_fullExpression h).gathers.step t
  intro e s t
  apply moves_endStatement.step t
  intro _ s t
  apply Yields.pure
  simpa using And.intro t.reach t.fits

theorem builds_returnStatement (h : rules.Sound) : Builds (returnStatement rules) := by
  intro ctx s hs
  apply Yields.tokenStart
  apply takes_bump.step (Track.start hs)
  intro _ s t
  apply (gathers_returnArgument h).step t
  intro argument s t
  apply reads_read.step
  intro c
  apply (moves_faultIf _ _).step t
  intro _ s t
  exact Track.node (by simpa using t)

theorem builds_throwStatement (h : rules.Sound) : Builds (throwStatement rules) := by
  intro ctx s hs
  apply Yields.tokenStart
  apply takes_bump.step (Track.start hs)
  intro _ s t
  apply reads_afterNewline.step
  intro _
  apply (moves_faultIf _ _).step t
  intro _ s t
  apply (builds_fullExpression h).step t
  intro argument s t
  apply moves_endStatement.step t
  intro _ s t
  exact Track.node (by simpa using t)

theorem gathers_caseTest (h : rules.Sound) : Gathers sitesOfAll (caseTest rules) := by
  intro ctx s hs
  apply (tries_eatWord "default").moves.step (Track.start hs)
  intro _ s t
  apply Yields.ite (Yields.pure ⟨t.reach, .nil⟩)
  apply (tries_eatWord "case").moves.step t
  intro _ s t
  refine Yields.ite ?_ Yields.unexpected
  apply (builds_fullExpression h).gathers.step t
  intro e s t
  apply Yields.pure
  simpa using And.intro t.reach t.fits

theorem reads_atClauseEnd : Reads atClauseEnd := by
  apply (reads_atWord "case").bind
  intro _
  apply (reads_atWord "default").bind
  intro _
  exact (reads_atPunctuator "\x7d").bind fun _ => reads_atFinish.bind fun _ => reads_pure _

theorem builds_switchCase (h : rules.Sound) : Builds (switchCase rules) := by
  intro ctx s hs
  apply Yields.tokenStart
  apply (gathers_caseTest h).step (Track.start hs)
  intro test s t
  apply (takes_expect ":").step t
  intro _ s t
  apply (gathers_many reads_atClauseEnd (h (.statement false))).step t
  intro body s t
  exact Track.node (by simpa using t)

theorem builds_switchStatement (h : rules.Sound) : Builds (switchStatement rules) := by
  intro ctx s hs
  apply Yields.tokenStart
  apply takes_bump.step (Track.start hs)
  intro _ s t
  apply (builds_parenthesizedTest h).step t
  intro subject s t
  apply (takes_expect "\x7b").step t
  intro _ s t
  apply (gathers_many (reads_atListEnd "\x7d") (builds_switchCase h)).step t
  intro cases s t
  apply (takes_expect "\x7d").step t
  intro _ s t
  exact Track.node (by simpa using t)

theorem gathers_catchTarget (h : rules.Sound) : Gathers sitesOfAll (catchTarget rules) := by
  intro ctx s hs
  apply (tries_eat "(").moves.step (Track.start hs)
  intro _ s t
  refine Yields.ite ?_ (Yields.pure ⟨t.reach, .nil⟩)
  apply (h .bindingTarget).gathers.step t
  intro target s t
  refine (takes_expect ")").moves.step t fun _ s t => Yields.pure ?_
  simpa using And.intro t.reach t.fits

theorem builds_catchClause (h : rules.Sound) : Builds (catchClause rules) := by
  intro ctx s hs
  apply Yields.tokenStart
  apply takes_bump.step (Track.start hs)
  intro _ s t
  apply (gathers_catchTarget h).step t
  intro target s t
  apply (builds_block h).step t
  intro body s t
  exact Track.node (by simpa using t)

theorem builds_tryStatement (h : rules.Sound) : Builds (tryStatement rules) := by
  intro ctx s hs
  apply Yields.tokenStart
  apply takes_bump.step (Track.start hs)
  intro _ s t
  apply (builds_block h).step t
  intro body s t
  apply (reads_atWord "catch").step
  intro present
  apply (gathers_listIf (builds_catchClause h) present).step t
  intro handler s t
  apply (tries_eatWord "finally").moves.step t
  intro present s t
  apply (gathers_listIf (builds_block h) present).step t
  intro finalizer s t
  apply (moves_faultIf _ _).step t
  intro _ s t
  exact Track.node (by simpa using t)

/-! ## Loops with `for` -/

theorem built_countedLoop (h : rules.Sound) (awaits : Bool) {init : List Node}
    (t : Track took s₀ start s (sitesOfAll init)) :
    Yields (countedLoop rules start awaits init) ctx s (Built s₀ start) := by
  apply (takes_expect ";").step t
  intro _ s t
  refine (reads_atPunctuator ";").step fun _ => (reads_atPunctuator ")").step fun _ => ?_
  apply (gathers_listIf (builds_fullExpression h) _).step t
  intro test s t
  refine (takes_expect ";").step t fun _ s t => (reads_atPunctuator ")").step fun _ => ?_
  apply (gathers_listIf (builds_fullExpression h) _).step t
  intro update s t
  apply (takes_expect ")").step t
  intro _ s t
  apply (moves_faultIf _ _).step t
  intro _ s t
  apply (h (.statement true)).step t
  intro body s t
  exact Track.node (by simpa using t)

theorem built_iterationLoop (h : rules.Sound) (awaits : Bool) {left : Node}
    (t : Track took s₀ start s left.sites) :
    Yields (iterationLoop rules start awaits left) ctx s (Built s₀ start) := by
  apply (reads_atWord "in").step
  intro isIn
  apply takes_bump.step t
  intro _ s t
  have hi : Builds (iterated rules isIn) :=
    (builds_fullExpression h).ite (builds_withIn (h .assignment))
  apply hi.step t
  intro right s t
  apply (takes_expect ")").step t
  intro _ s t
  apply (moves_faultIf _ _).step t
  intro _ s t
  apply (h (.statement true)).step t
  intro body s t
  exact Track.node (by simpa using t)

theorem reads_atIteration : Reads atIteration :=
  (reads_atWord "in").bind fun _ => (reads_atWord "of").bind fun _ => reads_pure _

theorem built_declaredLoop (h : rules.Sound) (awaits : Bool) (kind : VariableKind)
    {declaration : Node} (t : Track took s₀ start s declaration.sites) :
    Yields (declaredLoop rules start awaits kind declaration) ctx s (Built s₀ start) := by
  apply reads_atIteration.step
  intro _
  apply Yields.ite (built_iterationLoop h awaits t)
  apply (moves_forM (moves_checkInitialized kind)).step t
  intro _ s t
  exact built_countedLoop h awaits (by simpa using t)

theorem moves_loopAwaits : Moves loopAwaits := by
  apply (reads_atWord "await").moves.bind
  intro _
  refine Moves.ite ?_ (moves_pure false)
  apply reads_read.moves.bind
  intro c
  apply reads_tokenStart.moves.bind
  intro _
  apply (moves_faultIf _ _).bind
  intro _
  apply takes_bump.moves.bind
  intro _
  exact moves_pure true

theorem reads_loopKind? : Reads loopKind? := by
  apply reads_peek.bind
  intro following
  apply reads_variableKind?.bind
  intro kind?
  split
  · exact reads_pure _
  · exact reads_pure _

theorem reads_loopUses : Reads loopUses := by
  apply reads_awaitUsingDeclares.bind
  intro _
  split
  · exact reads_pure _
  · exact reads_peek.bind fun _ => reads_usingDeclares.bind fun _ => reads_pure _

theorem built_expressionLoop (h : rules.Sound) (awaits : Bool) (t : Track took s₀ start s []) :
    Yields (expressionLoop rules start awaits) ctx s (Built s₀ start) := by
  apply reads_tokenStart.step
  intro left
  apply (reads_atWord "let").step
  intro isLet
  apply reads_lexeme.step
  intro l
  apply (builds_expression h).within.step t
  intro init s t
  apply reads_atIteration.step
  intro _
  refine Yields.ite ?_ (built_countedLoop h awaits (by simpa using t))
  apply (moves_checkTarget init).step t
  intro _ s t
  apply (reads_atWord "of").step
  intro _
  apply (moves_faultIf _ _).step t
  intro _ s t
  exact built_iterationLoop h awaits t

theorem builds_forStatement (h : rules.Sound) : Builds (forStatement rules) := by
  intro ctx s hs
  apply Yields.tokenStart
  apply takes_bump.step (Track.start hs)
  intro _ s t
  apply moves_loopAwaits.step t
  intro awaits s t
  apply (takes_expect "(").step t
  intro _ s t
  refine (reads_atPunctuator ";").step fun _ => (reads_atPunctuator ")").step fun _ => ?_
  refine Yields.ite (built_countedLoop h awaits t) (reads_loopKind?.step fun kind? => ?_)
  split
  · apply (builds_variableList h _ true).within.step t
    intro declaration s t
    exact built_declaredLoop h awaits _ t
  apply reads_loopUses.step
  intro _
  split
  · apply (builds_usingDeclaration h true).within.step t
    intro declaration s t
    exact built_declaredLoop h awaits .using t
  · exact built_expressionLoop h awaits t

/-! ## Declarations -/

theorem built_classStatement (h : rules.Sound) {ds : List Node} (single : Bool)
    (t : Track took s₀ start s (sitesOfAll ds)) :
    Yields (classStatement rules start ds single) ctx s (Built s₀ start) := by
  apply Built.step (built_classDefinition h t)
  intro n s hn
  exact (moves_faultIf _ _).pass hn fun _ s hn => Yields.pure hn

theorem built_functionStatement (h : rules.Sound) (async single : Bool)
    (t : Track took s₀ start s []) :
    Yields (functionStatement rules start async single) ctx s (Built s₀ start) := by
  apply reads_peek.step
  intro following
  apply Built.step (built_functionDefinition h async .declaration t)
  intro n s hn
  exact (moves_faultIf _ _).pass hn fun _ s hn => Yields.pure hn

theorem reads_atAsyncFunction : Reads atAsyncFunction := by
  apply (reads_atWord "async").bind
  intro _
  split
  case isFalse => exact reads_pure false
  apply reads_peek.bind
  intro following
  split
  · exact reads_pure _
  · exact reads_pure _

/-! ## Imports and exports -/

theorem moves_commaList {α : Type} {p : Parser α} (h : Moves p) (close : String) :
    Moves (commaList close p) := by
  have hp : Gathers (fun _ => []) p := h.gathers fun _ => rfl
  exact (gathers_commaList hp close).moves

theorem moves_attributeKey : Moves attributeKey := by
  apply reads_lexeme.moves.bind
  intro l
  split
  · exact takes_stringLiteral.moves.bind fun _ => moves_pure _
  · exact takes_takeWord.moves

theorem moves_importAttribute : Moves importAttribute := by
  apply reads_tokenStart.moves.bind
  intro _
  apply moves_attributeKey.bind
  intro key
  apply (takes_expect ":").moves.bind
  intro _
  exact takes_stringLiteral.moves.bind fun _ => moves_pure _

theorem moves_checkAttributes (keys : List (String × Nat)) : Moves (checkAttributes keys) := by
  induction keys with
  | nil => exact moves_pure ()
  | cons k r ih => exact (moves_faultIf _ _).bind fun _ => ih

theorem moves_importAttributes : Moves importAttributes := by
  apply (reads_atWord "with").moves.bind
  intro _
  apply (reads_atWord "assert").moves.bind
  intro _
  apply reads_afterNewline.moves.bind
  intro _
  refine Moves.ite ?_ (moves_pure ())
  apply takes_skip.moves.bind
  intro _
  apply (takes_expect "\x7b").moves.bind
  intro _
  apply (moves_commaList moves_importAttribute "\x7d").bind
  rintro ⟨keys, _⟩
  exact (takes_expect "\x7d").moves.bind fun _ => moves_checkAttributes keys

theorem moves_importSpecifier : Moves importSpecifier := by
  apply reads_peek.moves.bind
  intro following
  dsimp only
  split
  · apply moves_exportName.bind
    intro _
    apply takes_bump.moves.bind
    intro _
    exact builds_bindingIdentifier.moves.bind fun _ => moves_pure _
  · exact builds_bindingIdentifier.moves.bind fun _ => moves_pure _

theorem moves_importBindings (clause : ImportClause) : Moves (importBindings clause) := by
  apply (reads_atPunctuator "*").moves.bind
  intro _
  refine Moves.ite ?_ ?_
  · apply takes_bump.moves.bind
    intro _
    apply (takes_expectWord "as").moves.bind
    intro _
    exact builds_bindingIdentifier.moves.bind fun _ => moves_pure _
  apply (reads_atPunctuator "\x7b").moves.bind
  intro _
  refine Moves.ite ?_ takes_unexpected.moves
  apply takes_bump.moves.bind
  intro _
  apply (moves_commaList moves_importSpecifier "\x7d").bind
  intro _
  exact (takes_expect "\x7d").moves.bind fun _ => moves_pure _

theorem moves_boundAfter (first : Lexeme) (bound : Node) : Moves (boundAfter first bound) := by
  apply reads_peek.moves.bind
  intro _
  apply (reads_atWord "from").moves.bind
  intro _
  apply reads_lexeme.moves.bind
  intro _
  exact builds_bindingIdentifier.moves.ite (moves_pure bound)

theorem moves_importClause : Moves importClause := by
  apply (reads_atPunctuator "*").moves.bind
  intro _
  apply (reads_atPunctuator "\x7b").moves.bind
  intro _
  apply (moves_importBindings {}).ite
  apply reads_lexeme.moves.bind
  intro _
  apply (moves_unexpectedIf _).bind
  intro _
  apply reads_lexeme.moves.bind
  intro first
  apply builds_bindingIdentifier.moves.bind
  intro bound
  apply (reads_atPunctuator "*").moves.bind
  intro _
  apply (moves_importBindings {}).ite
  apply (moves_boundAfter first bound).bind
  intro bound
  apply (tries_eat ",").moves.bind
  intro _
  exact (moves_importBindings _).ite (moves_pure _)

theorem moves_optionalClause : Moves optionalClause := by
  apply reads_lexeme.moves.bind
  intro l
  split
  · exact moves_pure _
  · apply moves_importClause.bind
    intro c
    exact (takes_expectWord "from").moves.bind fun _ => moves_pure c

theorem moves_exportAlias? : Moves exportAlias? := by
  apply (tries_eatWord "as").moves.bind
  intro _
  refine Moves.ite ?_ (moves_pure none)
  exact moves_exportName.bind fun _ => moves_pure _

theorem moves_exportSpecifier : Moves exportSpecifier :=
  moves_exportName.bind fun _ => moves_exportAlias?.bind fun _ => moves_pure _

theorem gathers_ownDecorators (h : rules.Sound) (ds : List Node) :
    Gathers sitesOfAll (ownDecorators rules ds) := by
  intro ctx s hs
  apply (gathers_decorators h).step (Track.start hs)
  intro own s t
  exact (moves_faultAt? _).step t fun _ s t => Yields.pure ⟨t.reach, t.fits⟩

theorem builds_defaultDeclared (h : rules.Sound) (ds : List Node) :
    Builds (defaultDeclared rules ds) := by
  intro ctx s hs
  apply Yields.tokenStart
  apply (gathers_ownDecorators h ds).step (Track.start hs)
  intro own s t
  apply (reads_atWord "class").step
  intro _
  apply Yields.ite (built_classDefinition h t)
  apply (moves_unexpectedIf _).step t
  intro _ s t
  have t : Track false _ _ s [] := { t with fits := .nil }
  apply (reads_atWord "function").step
  intro _
  apply Yields.ite (built_functionDefinition h false .defaultExport t)
  apply reads_atAsyncFunction.step
  intro _
  refine Yields.ite ?_ ?_
  · apply takes_bump.step t
    intro _ s t
    exact built_functionDefinition h true .defaultExport t
  · apply Built.step ((builds_withIn (h .assignment)).last t)
    intro e s he
    exact moves_endStatement.pass he fun _ s he => Yields.pure he

theorem builds_declared (h : rules.Sound) (ds : List Node) : Builds (declared rules ds) := by
  intro ctx s hs
  apply Yields.tokenStart
  apply (gathers_ownDecorators h ds).step (Track.start hs)
  intro own s t
  apply (reads_atWord "class").step
  intro _
  apply Yields.ite (built_classDefinition h t)
  refine (moves_forM fun d => moves_fault _).step t fun _ s t => ?_
  have t : Track false _ _ s [] := { t with fits := .nil }
  apply reads_variableKind?.step
  intro kind?
  split
  · exact (builds_variableList h _ false).last t
  apply (reads_atWord "function").step
  intro _
  apply Yields.ite (built_functionDefinition h false .declaration t)
  apply reads_atAsyncFunction.step
  intro _
  refine Yields.ite ?_ Yields.unexpected
  apply takes_bump.step t
  intro _ s t
  exact built_functionDefinition h true .declaration t

/-- An import or export was read from `start` on. -/
def Declares (s₀ : ParserState) (start : Nat) (item : Item) (t : ParserState) : Prop :=
  s₀.Reach t ∧ item.Plain start t.previousStop

theorem built_exportAll (t : Track true s₀ start s []) :
    Yields (exportAllDeclaration start) ctx s (Declares s₀ start) := by
  apply takes_bump.step t
  intro _ s t
  apply moves_exportAlias?.step t
  intro exported? s t
  apply (takes_expectWord "from").step t
  intro _ s t
  apply takes_stringLiteral.step t
  rintro ⟨specifier, _, _⟩ s t
  apply moves_importAttributes.step t
  intro _ s t
  apply moves_endStatement.step t
  intro _ s t
  exact Yields.previousStop (Yields.pure ⟨t.reach, Nat.le_refl _, t.took rfl, Nat.le_refl _⟩)

theorem built_importDeclaration (hs : s.Ordered) :
    Yields importDeclaration ctx s (Declares s s.here) := by
  apply Yields.tokenStart
  apply takes_bump.step (Track.start hs)
  intro _ s t
  apply moves_optionalClause.step t
  intro clause s t
  apply takes_stringLiteral.step t
  rintro ⟨specifier, _, _⟩ s t
  apply moves_importAttributes.step t
  intro _ s t
  apply moves_endStatement.step t
  intro _ s t
  exact Yields.previousStop (Yields.pure ⟨t.reach, Nat.le_refl _, t.took rfl, Nat.le_refl _⟩)

theorem built_exportNames (t : Track true s₀ start s []) :
    Yields (exportNames start) ctx s (Declares s₀ start) := by
  apply takes_bump.step t
  intro _ s t
  apply (moves_commaList moves_exportSpecifier "\x7d").step t
  rintro ⟨names, _⟩ s t
  apply (takes_expect "\x7d").step t
  intro _ s t
  apply (tries_eatWord "from").moves.step t
  intro _ s t
  apply reads_lexeme.step
  intro l
  refine Yields.ite ?_ ?_
  · apply takes_stringLiteral.step t
    rintro ⟨specifier, _, _⟩ s t
    apply moves_importAttributes.step t
    intro _ s t
    apply moves_endStatement.step t
    intro _ s t
    exact Yields.previousStop (Yields.pure ⟨t.reach, Nat.le_refl _, t.took rfl, Nat.le_refl _⟩)
  · refine (moves_forM fun (quoted, name) => moves_faultIf _ _).step t fun _ s t => ?_
    apply moves_endStatement.step t
    intro _ s t
    exact Yields.previousStop (Yields.pure ⟨t.reach, Nat.le_refl _, t.took rfl, Nat.le_refl _⟩)

theorem built_exportDefault (h : rules.Sound) (ds : List Node) (t : Track true s₀ start s []) :
    Yields (exportDefaultDeclaration rules start ds) ctx s (Declares s₀ start) := by
  apply reads_tokenStart.step
  intro keyword
  apply takes_bump.step t
  intro _ s t
  apply Built.step ((builds_defaultDeclared h ds).last t)
  intro d s hd
  apply Yields.previousStop
  exact Yields.pure ⟨hd.reach, Nat.le_refl _, hd.placed, Nat.le_refl _⟩

theorem built_exportedDeclaration (h : rules.Sound) (ds : List Node)
    (t : Track true s₀ start s []) :
    Yields (exportedDeclaration rules start ds) ctx s (Declares s₀ start) := by
  apply Built.step ((builds_declared h ds).last t)
  intro d s hd
  apply Yields.previousStop
  exact Yields.pure ⟨hd.reach, Nat.le_refl _, hd.placed, Nat.le_refl _⟩

theorem built_exportDeclaration (h : rules.Sound) (ds : List Node) (hs : s.Ordered) :
    Yields (exportDeclaration rules ds) ctx s (Declares s s.here) := by
  apply Yields.tokenStart
  apply takes_bump.step (Track.start hs)
  intro _ s t
  apply reads_lexeme.step
  intro l
  split
  · exact built_exportDefault h ds t
  · exact built_exportAll t
  · exact built_exportNames t
  · exact built_exportedDeclaration h ds t

/-! ## Any statement -/

/-- An item was read from the current token on. -/
def ReadsItem (p : Parser Item) : Prop :=
  ∀ ctx s, s.Ordered → Yields p ctx s fun item t => s.Reach t ∧ item.Placed s.here t.previousStop

/-- A node as an item. -/
theorem Built.item {p : Parser Node} (h : Yields p ctx s (Built s s.here)) :
    Yields (do return Item.statement (← p)) ctx s fun item t =>
      s.Reach t ∧ item.Placed s.here t.previousStop :=
  Built.step h fun _ _ hn => Yields.pure ⟨hn.reach, hn.placed⟩

theorem Declares.item {p : Parser Item} (h : Yields p ctx s (Declares s s.here)) :
    Yields p ctx s fun item t => s.Reach t ∧ item.Placed s.here t.previousStop :=
  h.mono fun _ _ hd => ⟨hd.1, hd.2.placed⟩

theorem readsItem_decoratedStatement (h : rules.Sound) (single : Bool) :
    ReadsItem (decoratedStatement rules single) := by
  intro ctx s hs
  apply Yields.tokenStart
  apply (gathers_decorators h).step (Track.start hs)
  intro ds u t
  apply (reads_atWord "export").step
  intro _
  refine Yields.ite ?_ ?_
  · apply Yields.bind
    apply (built_exportDeclaration h ds t.reach.ordered).mono
    intro item v hd
    obtain ⟨hr, hp⟩ := hd
    have hreach := t.reach.trans hr
    have hattach : ∀ span d, d.Placed span.start span.stop → u.here ≤ span.start →
        span.stop ≤ v.previousStop → Item.Exported s.here v.previousStop span
          (decoratedStatement.attach ds d) := by
      intro span d hd ha hb
      have hds := t.fits.mono (Nat.le_refl _) (Nat.le_trans t.reach.ordered.previous ha)
      have hlo := Nat.le_trans t.here ha
      unfold decoratedStatement.attach
      split
      · exact Item.exported_attach ds hd hds hlo hb
      · exact Item.exported_plain hd hlo hb
    cases item with
    | exportDeclaration span d => exact Yields.pure ⟨hreach, hattach span d hp.2.1 hp.1 hp.2.2⟩
    | exportDefault span _ d => exact Yields.pure ⟨hreach, hattach span d hp.2.1 hp.1 hp.2.2⟩
    | statement | importBindings | exportAll | exportFrom | exportList =>
      exact Yields.pure ⟨hreach, hp.placed.mono t.here (Nat.le_refl _)⟩
  · apply (reads_atWord "class").step
    intro _
    refine Yields.ite ?_ Yields.unexpected
    exact Built.step (built_classStatement h single t) fun _ _ hn =>
      Yields.pure ⟨hn.reach, hn.placed⟩

theorem readsItem_statementItem (h : rules.Sound) (single : Bool) :
    ReadsItem (statementItem rules single) := by
  intro ctx s hs
  have t := Track.start hs
  have hexpression := Built.item (builds_expressionStatement h ctx s hs)
  apply Yields.tokenStart
  apply reads_lexeme.step
  intro l
  split
  · exact Built.item (builds_block h ctx s hs)
  · apply takes_bump.step t
    intro _ s t
    exact Built.step t.node fun _ _ hn => Yields.pure ⟨hn.reach, hn.placed⟩
  · exact readsItem_decoratedStatement h single ctx s hs
  · split
    · exact Built.item (builds_ifStatement h ctx s hs)
    · exact Built.item (builds_doStatement h ctx s hs)
    · exact Built.item (builds_guardedStatement h ctx s hs)
    · exact Built.item (builds_guardedStatement h ctx s hs)
    · exact Built.item (builds_forStatement h ctx s hs)
    · exact Built.item (builds_jumpStatement ctx s hs)
    · exact Built.item (builds_jumpStatement ctx s hs)
    · exact Built.item (builds_switchStatement h ctx s hs)
    · exact Built.item (builds_throwStatement h ctx s hs)
    · exact Built.item (builds_tryStatement h ctx s hs)
    · apply takes_bump.step t
      intro _ s t
      apply moves_endStatement.step t
      intro _ s t
      exact Built.step t.node fun _ _ hn => Yields.pure ⟨hn.reach, hn.placed⟩
    · exact Built.item (built_classStatement h single t)
    · exact Built.item (built_functionStatement h false single t)
    · exact Built.item (builds_returnStatement h ctx s hs)
    · exact Built.item (builds_variableStatement h .var single ctx s hs)
    · exact Built.item (builds_variableStatement h .const single ctx s hs)
    · exact Yields.ite hexpression (Built.item (builds_letStatement h single ctx s hs))
    · apply reads_usingDeclares.step
      intro _
      refine Yields.ite ?_ hexpression
      exact Built.item (builds_usingDeclaration h false ctx s hs)
    · apply reads_awaitUsingDeclares.step
      intro _
      refine Yields.ite ?_ hexpression
      exact Built.item (builds_usingDeclaration h false ctx s hs)
    · apply reads_atAsyncFunction.step
      intro _
      refine Yields.ite ?_ hexpression
      apply takes_bump.step t
      intro _ s t
      exact Built.step (built_functionStatement h true single t) fun _ _ hn =>
        Yields.pure ⟨hn.reach, hn.placed⟩
    · apply reads_peek.step
      intro following
      split
      · exact hexpression
      · exact hexpression
      · exact Declares.item (built_importDeclaration hs)
    · exact Declares.item (built_exportDeclaration h [] hs)
    · exact hexpression
  · exact hexpression

/-- The code of an import or export that is no item of its own. -/
theorem builds_statementNode (h : rules.Sound) (single : Bool) :
    Builds (statementNode rules single) := by
  intro ctx s hs
  apply Yields.tokenStart
  apply Yields.bind
  apply (readsItem_statementItem h single ctx s hs).mono
  intro item u hi
  split
  · exact Yields.pure ⟨hi.1, hi.2⟩
  · refine Track.node ⟨hi.1, hi.1.here, fun _ => hi.2.le, hi.2.fits⟩

end ModuleBundler.Script
