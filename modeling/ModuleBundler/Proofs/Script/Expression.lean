import ModuleBundler.Script.Expression
import ModuleBundler.Proofs.Script.Function

/-!
# Expressions are placed

An operator, a member or a call begins where its first operand does. The parser of what follows an
operand therefore starts from that operand and gives it back when nothing follows.
-/

namespace ModuleBundler.Script

open Node (sitesOfAll)
open ModuleBundler.Script.Parser
open ParserState (Reach)

variable {rules : Rules} {took : Bool} {ctx : Context} {s₀ s : ParserState} {start : Nat}
  {L : List Span}

theorem builds_withIn {p : Parser Node} (h : Builds p) : Builds (withIn p) := h.within

theorem builds_expression (h : rules.Sound) : Builds (expression rules) := by
  intro ctx s hs
  apply Yields.within
  apply Yields.tokenStart
  apply Built.step (h .assignment _ s hs)
  intro first s hn
  apply (reads_atPunctuator ",").step
  intro _
  split
  case isFalse => exact Yields.pure hn
  have hfirst := Track.ofBuilt hn
  apply Yields.bind
  apply (gathers_moreAfterCommas (h .assignment).gathers hfirst).mono
  intro parts u t
  rw [← Node.sitesOfAll_eq_flatMap] at t
  exact t.node

/-! ## Primary expressions -/

theorem builds_spreadOrAssignment (h : rules.Sound) : Builds (spreadOrAssignment rules) := by
  intro ctx s hs
  apply (reads_atPunctuator "...").step
  intro _
  split
  · apply Yields.tokenStart
    apply takes_bump.step (Track.start hs)
    intro _ s t
    apply (h .assignment).step t
    intro value s t
    exact Track.node (by simpa using t)
  · exact h .assignment ctx s hs

theorem moves_recordComma (start : Nat) (comma? : Option Nat) :
    Moves (recordComma start comma?) := by
  cases comma? with
  | none => exact moves_pure ()
  | some comma => exact moves_modify fun _ => ⟨rfl, rfl, rfl, rfl, rfl, id⟩

theorem gathers_nodeList {p : Parser Node} (h : Gathers Node.sites p) (close : String) :
    Gathers (fun r => sitesOfAll r.1) (commaList close p) := by
  simp only [Node.sitesOfAll_eq_flatMap]
  exact gathers_commaList h close

theorem builds_arrayLiteral (h : rules.Sound) : Builds (arrayLiteral rules) := by
  intro ctx s hs
  apply Yields.tokenStart
  apply takes_bump.step (Track.start hs)
  intro _ s t
  have helement := gathers_elementOrHole (builds_spreadOrAssignment h)
  apply (gathers_nodeList helement "]").within.step t
  rintro ⟨parts, comma?⟩ s t
  apply (moves_recordComma _ comma?).step t
  intro _ s t
  apply (takes_expect "]").step t
  intro _ s t
  exact Track.node (by simpa using t)

theorem moves_recordShorthand (start : Nat) : Moves (recordShorthand start) :=
  moves_modify fun _ => ⟨rfl, rfl, rfl, rfl, rfl, id⟩

theorem built_objectAccessor (h : rules.Sound) (kind : MethodKind) (t : Track took s₀ start s []) :
    Yields (objectAccessor rules start kind) ctx s (Built s₀ start) := by
  apply (builds_propertyName h).step t
  rintro ⟨key, computed⟩ s t
  apply (builds_methodFunction h false false).step t
  intro function s t
  apply (moves_checkAccessor kind function).step t
  intro _ s t
  exact Track.node (by simpa using t)

theorem builds_objectProperty (h : rules.Sound) : Builds (objectProperty rules) := by
  intro ctx s hs
  apply Yields.tokenStart
  apply (reads_atPunctuator "...").step
  intro _
  split
  · exact builds_spreadOrAssignment h ctx s hs
  apply (moves_eatModifier "async" true).step (Track.start hs)
  intro async s t
  apply (moves_eatModifier "get" false).step t
  intro _ s t
  split
  · apply (moves_faultIf async _).step t
    intro _ s t
    exact built_objectAccessor h .getter t
  apply (moves_eatModifier "set" false).step t
  intro _ s t
  split
  · apply (moves_faultIf async _).step t
    intro _ s t
    exact built_objectAccessor h .setter t
  apply (tries_eat "*").moves.step t
  intro generator s t
  apply reads_read.step
  intro c
  apply reads_lexeme.step
  intro l
  apply (builds_propertyName h).step t
  rintro ⟨key, computed⟩ s t
  apply (reads_atPunctuator "(").step
  intro _
  split
  · apply (builds_methodFunction h async generator).step t
    intro function s t
    exact Track.node (by simpa using t)
  apply (moves_faultIf async _).step t
  intro _ s t
  apply (reads_atPunctuator ":").step
  intro _
  split
  · have t : Track true _ _ s [] := { t with fits := .nil }
    apply (tries_eat "=").moves.step t
    intro _ s t
    split
    · apply (builds_withIn (h .assignment)).step t
      intro value s t
      apply (moves_recordShorthand _).step t
      intro _ s t
      exact Track.node (by simpa using t)
    · exact Track.node (by simpa using t)
  · apply (takes_expect ":").step t
    intro _ s t
    apply (builds_withIn (h .assignment)).step t
    intro value s t
    exact Track.node (by simpa using t)

theorem builds_objectLiteral (h : rules.Sound) : Builds (objectLiteral rules) := by
  intro ctx s hs
  apply Yields.tokenStart
  apply takes_bump.step (Track.start hs)
  intro _ s t
  have hlist := gathers_nodeList (builds_objectProperty h).gathers "\x7d"
  apply hlist.within.step t
  rintro ⟨parts, comma?⟩ s t
  apply (moves_recordComma _ comma?).step t
  intro _ s t
  apply (takes_expect "\x7d").step t
  intro _ s t
  exact Track.node (by simpa using t)

theorem builds_parenthesized (h : rules.Sound) : Builds (parenthesized rules) := by
  intro ctx s hs
  apply Yields.tokenStart
  apply takes_bump.step (Track.start hs)
  intro _ s t
  apply Yields.tokenStart
  have hlist := gathers_nodeList (h .assignment).gathers ")"
  apply hlist.within.step t
  rintro ⟨parts, comma?⟩ s t
  apply (moves_failIf _ _).step t
  intro _ s t
  split
  · exact Yields.bind ⟨fun _ _ _ => Yields.fail⟩
  · apply (takes_expect ")").step t
    intro _ s t
    exact Track.node (by simpa using t)
  · apply Yields.node
    apply (takes_expect ")").step t
    intro _ s t
    exact Track.node (by simpa [Node.sites] using t)

theorem takes_templateText (tagged valid : Bool) : Takes (templateText tagged valid) := by
  apply reads_tokenStart.moves.bind_takes
  intro _
  exact (moves_faultIf _ _).bind_takes fun _ => takes_skip

theorem moves_reloadTemplate : Moves reloadTemplate := by
  intro ctx s hs
  apply Yields.bind
  constructor
  rintro b t ⟨⟩
  split
  case isTrue hb =>
    refine Yields.get (reach_load hs (s.origin.scanTemplateTail_after ?_))
    apply hs.text.resolve_left
    intro hf
    rw [hf] at hb
    cases hb
  case isFalse => exact Yields.pure (Reach.refl hs)

theorem builds_templateLiteral (h : rules.Sound) (tagged : Bool) :
    Builds (templateLiteral rules tagged) := by
  intro ctx s hs
  apply Yields.tokenStart
  apply reads_lexeme.step
  intro l
  split
  · apply (takes_templateText tagged _).step (Track.start hs)
    intro _ s t
    exact t.node
  · apply (takes_templateText tagged _).step (Track.start hs)
    intro _ s₁ t
    refine Yields.bind (Yields.iterate
      (fun found u => Track true s s.here u (sitesOfAll found.reverse)) t fun found u t => ?_)
    apply (builds_withIn (builds_expression h)).step t
    intro e u t
    apply moves_reloadTemplate.step t
    intro _ u t
    apply reads_lexeme.step
    intro l
    split
    · apply (takes_templateText tagged _).step t
      intro _ u t
      apply Yields.pure
      exact Track.node (by simpa using t)
    · apply (takes_templateText tagged _).step t
      intro _ u t
      apply Yields.pure
      simpa using t
    · exact reads_tokenStart.step fun _ => Yields.fail
  · exact Yields.unexpected

theorem built_importCall (h : rules.Sound) (t : Track took s₀ start s []) :
    Yields (importCall rules start) ctx s (Built s₀ start) := by
  apply (takes_expect "(").step t
  intro _ s t
  apply (tries_eat ")").moves.step t
  intro _ s t
  apply (moves_failIf _ _).step t
  intro _ s t
  apply (builds_withIn (h .assignment)).step t
  intro source s t
  refine (tries_eat ",").moves.step t fun _ s t => (reads_atPunctuator ")").step fun _ => ?_
  apply (gathers_listIf (builds_withIn (h .assignment)) _).step t
  intro options s t
  apply (tries_eat ",").moves.step t
  intro _ s t
  apply (tries_eat ")").moves.step t
  intro _ s t
  apply (moves_failIf _ _).step t
  intro _ s t
  exact Track.node (by simpa using t)

theorem builds_importExpression (h : rules.Sound) : Builds (importExpression rules) := by
  intro ctx s hs
  apply Yields.tokenStart
  apply takes_bump.step (Track.start hs)
  intro _ s t
  apply reads_lexeme.step
  intro l
  split
  · apply takes_bump.step t
    intro _ s t
    apply reads_lexeme.step
    intro l
    split
    · apply takes_bump.step t
      intro _ s t
      exact t.node
    · apply takes_bump.step t
      intro _ s t
      exact built_importCall h t
    · apply takes_bump.step t
      intro _ s t
      exact built_importCall h t
    · exact Yields.fail
  · exact built_importCall h t
  · exact Yields.unexpected

/-- A slash is read again as the start of a regular expression. -/
theorem built_regexLiteral (hs : s.Ordered) (hl : s.token.lexeme ≠ .finish) :
    Yields regexLiteral ctx s (Built s s.here) := by
  apply Yields.tokenStart
  apply Yields.get
  have hr := s.origin.scanRegex_after (hs.text.resolve_left hl) s.token.afterNewline
  apply Yields.bind
  apply (reach_load hs hr).mono
  intro _ u hu
  apply takes_skip.step ((Track.start hs).reaches hu)
  intro _ s t
  exact t.node

theorem builds_keywordExpression (shape : Shape) : Builds (keywordExpression shape) := by
  intro ctx s hs
  apply Yields.tokenStart
  apply takes_bump.step (Track.start hs)
  intro _ s t
  exact t.node

theorem gathers_arguments (h : rules.Sound) : Gathers sitesOfAll (arguments rules) := by
  intro ctx s hs
  apply (takes_expect "(").moves.step (Track.start hs)
  intro _ s t
  have hlist := gathers_nodeList (builds_spreadOrAssignment h).gathers ")"
  apply hlist.within.step t
  rintro ⟨parts, comma?⟩ s t
  exact (takes_expect ")").moves.step t fun _ s t => Yields.pure ⟨t.reach, t.fits⟩

/-! ## Members and calls -/

theorem builds_memberName : Builds memberName := by
  apply reads_lexeme.moves.bind_builds
  intro l
  split
  · exact builds_privateName
  · exact builds_identifierName

theorem built_computedMember (h : rules.Sound) {object : Node} (ho : Built s₀ start object s) :
    Yields (computedMember rules start object) ctx s (Built s₀ start) := by
  apply takes_bump.step (Track.ofBuilt ho)
  intro _ s t
  apply (builds_withIn (builds_expression h)).step t
  intro key s t
  apply (takes_expect "]").step t
  intro _ s t
  exact Track.node (by simpa using t)

/-- A named member of an object. -/
theorem built_member {object : Node} (t : Track true s₀ start s object.sites) {optional : Bool}
    {I : Node × Bool → ParserState → Prop} (hI : ∀ n b u, Built s₀ start n u → I (n, b) u)
    {Q : Node × Bool → ParserState → Prop} :
    Yields (do
      bump
      let name ← memberName
      return .inl (← node .member start [object, name], optional)) ctx s (Sum.elim I Q) := by
  apply takes_bump.step t
  intro _ s t
  apply builds_memberName.step t
  intro name s t
  apply Built.step (Track.node (by simpa using t))
  intro n s hn
  apply Yields.pure
  exact hI n optional s hn

theorem built_memberRest (h : rules.Sound) {object : Node} (optional : Bool)
    (ho : Built s₀ start object s) :
    Yields (memberRest rules start object optional) ctx s fun r => Built s₀ start r.1 := by
  apply Yields.iterate (fun r => Built s₀ start r.1) ho
  rintro ⟨object, optional⟩ s ho
  apply reads_read.step
  intro c
  apply reads_lexeme.step
  intro l
  have t := Track.ofBuilt ho
  split
  · exact built_member t fun _ _ _ hn => hn
  · apply reads_peek.step
    intro following
    split
    · exact built_member t fun _ _ _ hn => hn
    · exact built_member t fun _ _ _ hn => hn
    · split
      · exact Yields.pure ho
      · apply (takes_bump.moves).pass ho
        intro _ s ho
        exact Built.step (built_computedMember h ho) fun n s hn => Yields.pure hn
    · exact Yields.pure ho
  · split
    · exact Yields.pure ho
    · exact Built.step (built_computedMember h ho) fun n s hn => Yields.pure hn
  · split
    case isFalse => exact Yields.pure ho
    apply (builds_templateLiteral h true).step t
    intro quasi s t
    apply (moves_faultIf _ _).step t
    intro _ s t
    apply Built.step (Track.node (by simpa using t))
    intro n s hn
    refine Yields.pure hn

theorem moves_checkSuper (start : Nat) : Moves (checkSuper start) := by
  apply reads_lexeme.moves.bind
  intro l
  split
  · exact moves_pure ()
  · exact moves_pure ()
  · exact moves_pure ()
  · exact moves_fault start

theorem builds_superExpression : Builds superExpression := by
  intro ctx s hs
  apply Yields.tokenStart
  apply takes_bump.step (Track.start hs)
  intro _ s t
  apply (moves_checkSuper _).step t
  intro _ s t
  exact t.node

theorem builds_memberExpression (h : rules.Sound) :
    BuildsPart Prod.fst (memberExpression rules) := by
  intro ctx s hs
  apply Yields.tokenStart
  exact Built.step (h .primary ctx s hs) fun object s ho => built_memberRest h false ho

theorem built_callRest (h : rules.Sound) {object : Node} (optional : Bool)
    (ho : Built s₀ start object s) :
    Yields (callRest rules start object optional) ctx s fun r => Built s₀ start r.1 := by
  apply Yields.iterate (fun r => Built s₀ start r.1) ho
  rintro ⟨object, optional⟩ s ho
  apply Yields.bind
  apply (built_memberRest h optional ho).mono
  rintro ⟨object, optional⟩ s ho
  apply (tries_eat "?.").moves.pass ho
  intro question s ho
  apply reads_lexeme.step
  intro l
  have t := Track.ofBuilt ho
  split
  · apply (builds_templateLiteral h true).step t
    intro quasi s t
    apply (moves_fault _).step t
    intro _ s t
    exact Built.step (Track.node (by simpa using t)) fun n s hn => Yields.pure hn
  apply (reads_atPunctuator "(").step
  intro _
  split
  · apply (gathers_arguments h).step t
    intro parts s t
    exact Built.step (Track.node (by simpa using t)) fun n s hn => Yields.pure hn
  · exact (moves_unexpectedIf question).pass ho fun _ s ho => Yields.pure ho

theorem builds_leftHandSide (h : rules.Sound) : Builds (leftHandSide rules) := by
  intro ctx s hs
  apply Yields.tokenStart
  apply Yields.bind
  apply (builds_memberExpression h ctx s hs).mono
  rintro ⟨object, optional⟩ s ho
  apply Yields.bind
  apply (built_callRest h optional ho).mono
  rintro ⟨object, optional⟩ s ho
  have t := Track.ofBuilt ho
  dsimp only
  split
  · exact Track.node (by simpa using t)
  · exact Track.node (by simpa using t)
  · exact Yields.pure ho

theorem gathers_optionalArguments (h : rules.Sound) :
    Gathers sitesOfAll (optionalArguments rules) := by
  intro ctx s hs
  apply (reads_atPunctuator "(").step
  intro _
  split
  · exact gathers_arguments h ctx s hs
  · exact Yields.pure ⟨Reach.refl hs, .nil⟩

theorem builds_newExpression (h : rules.Sound) : Builds (newExpression rules) := by
  intro ctx s hs
  apply Yields.tokenStart
  apply takes_bump.step (Track.start hs)
  intro _ s t
  apply (tries_eat ".").moves.step t
  intro _ s t
  split
  · apply (reads_atWord "target").step
    intro _
    apply (moves_failIf _ _).step t
    intro _ s t
    apply takes_bump.step t
    intro _ s t
    exact t.node
  apply reads_tokenStart.step
  intro calleeStart
  apply (builds_memberExpression h).step t
  rintro ⟨callee, optional⟩ s t
  apply (gathers_optionalArguments h).step t
  intro parts s t
  apply (moves_faultIf _ _).step t
  intro _ s t
  apply (moves_faultIf _ _).step t
  intro _ s t
  exact Track.node (by simpa using t)

theorem builds_decoratedClass (h : rules.Sound) (hs : s.Ordered) :
    Yields (do
      let ds ← decorators rules
      if ← atWord "class" then classDefinition rules s.here ds else unexpected) ctx s
      (Built s s.here) := by
  apply (gathers_decorators h).step (Track.start hs)
  intro ds s t
  apply (reads_atWord "class").step
  intro _
  split
  · exact built_classDefinition h t
  · exact Yields.unexpected

theorem builds_primaryExpression (h : rules.Sound) : Builds (primaryExpression rules) := by
  intro ctx s hs
  apply Yields.tokenStart
  apply Yields.bind
  constructor
  rintro l t ⟨⟩
  split
  · exact builds_keywordExpression _ ctx s hs
  · exact builds_keywordExpression _ ctx s hs
  · exact builds_templateLiteral h false ctx s hs
  · exact builds_templateLiteral h false ctx s hs
  · have hl : s.token.lexeme ≠ .finish := by simp_all
    split
    · exact builds_parenthesized h ctx s hs
    · exact builds_arrayLiteral h ctx s hs
    · exact builds_objectLiteral h ctx s hs
    · exact built_regexLiteral hs hl
    · exact built_regexLiteral hs hl
    · exact builds_decoratedClass h hs
    · exact Yields.unexpected
  · have t := Track.start hs
    split
    · exact builds_keywordExpression _ ctx s hs
    · exact builds_keywordExpression _ ctx s hs
    · exact builds_keywordExpression _ ctx s hs
    · exact builds_keywordExpression _ ctx s hs
    · exact built_functionDefinition h false .expression t
    · exact built_classDefinition h t
    · exact builds_newExpression h ctx s hs
    · exact builds_superExpression ctx s hs
    · exact builds_importExpression h ctx s hs
    · apply reads_peek.step
      intro following
      split
      · split
        · exact builds_identifierReference ctx s hs
        · apply takes_bump.step t
          intro _ s t
          exact built_functionDefinition h true .expression t
      · exact builds_identifierReference ctx s hs
    · exact builds_identifierReference ctx s hs
  · exact Yields.unexpected

/-! ## Operators -/

theorem reads_isAwait : Reads isAwait := by
  apply (reads_atWord "await").bind
  intro _
  split
  · exact reads_read.bind fun c => reads_peek.bind fun _ => reads_pure _
  · exact reads_pure false

theorem builds_awaitExpression (h : rules.Sound) : Builds (awaitExpression rules) := by
  intro ctx s hs
  apply Yields.tokenStart
  apply reads_read.step
  intro c
  apply (moves_faultIf _ _).step (Track.start hs)
  intro _ s t
  apply (moves_faultIf _ _).step t
  intro _ s t
  apply takes_bump.step t
  intro _ s t
  apply (h .unary).within.step t
  intro argument s t
  exact Track.node (by simpa using t)

theorem builds_updateExpression (h : rules.Sound) : Builds (updateExpression rules) := by
  intro ctx s hs
  apply Yields.tokenStart
  apply reads_lexeme.step
  intro l
  split
  · apply takes_bump.step (Track.start hs)
    intro _ s t
    apply (h .unary).step t
    intro argument s t
    apply (moves_checkSimpleTarget argument).step t
    intro _ s t
    exact Track.node (by simpa using t)
  apply Built.step (builds_leftHandSide h ctx s hs)
  intro argument s ha
  apply reads_lexeme.step
  intro l
  apply reads_afterNewline.step
  intro _
  split
  · apply takes_bump.step (Track.ofBuilt ha)
    intro _ s t
    apply (moves_checkSimpleTarget argument).step t
    intro _ s t
    exact Track.node (by simpa using t)
  · exact Yields.pure ha

theorem builds_unaryExpression (h : rules.Sound) : Builds (unaryExpression rules) := by
  intro ctx s hs
  apply Yields.tokenStart
  apply reads_lexeme.step
  intro l
  split
  · apply takes_bump.step (Track.start hs)
    intro _ s t
    apply (h .unary).step t
    intro argument s t
    exact Track.node (by simpa using t)
  · apply reads_isAwait.step
    intro _
    split
    · exact builds_awaitExpression h ctx s hs
    · exact builds_updateExpression h ctx s hs

theorem moves_checkMixing (start : Nat) (coalesce : Bool) (left right : Node) :
    Moves (checkMixing start coalesce left right) := by
  unfold checkMixing
  split
  · exact moves_faultIf _ _
  · exact moves_faultIf _ _
  · exact moves_pure ()

theorem built_binaryRest (h : rules.Sound) {left : Node} (parenthesizedLeft : Bool) (least : Nat)
    (hl : Built s₀ start left s) :
    Yields (binaryRest rules start left parenthesizedLeft least) ctx s (Built s₀ start) := by
  apply Yields.iterate (fun r => Built s₀ start r.1) hl
  rintro ⟨left, parenthesizedLeft⟩ s hl
  apply reads_lexeme.step
  intro operator
  split
  case h_2 => exact Yields.pure hl
  refine Yields.ite (Yields.pure hl) ?_
  apply (reads_atWord "in").step
  intro _
  apply reads_read.step
  intro c
  split
  · exact Yields.pure hl
  apply takes_bump.step (Track.ofBuilt hl)
  intro _ s t
  apply (h (.binary _)).step t
  intro right s t
  split
  · apply (moves_checkMixing _ _ left right).step t
    intro _ s t
    exact Built.step (Track.node (by simpa using t)) fun n s hn => Yields.pure hn
  · apply (moves_faultIf _ _).step t
    intro _ s t
    exact Built.step (Track.node (by simpa using t)) fun n s hn => Yields.pure hn

theorem builds_firstOperand (h : rules.Sound) : Builds (firstOperand rules) := by
  intro ctx s hs
  apply Yields.tokenStart
  apply reads_lexeme.step
  intro l
  split
  · apply reads_read.step
    intro c
    split
    · apply builds_privateName.step (Track.start hs)
      intro name s t
      apply (takes_expectWord "in").step t
      intro _ s t
      apply (h (.binary 8)).step t
      intro right s t
      apply (moves_failIf _ _).step t
      intro _ s t
      exact Track.node (by simpa using t)
    · exact builds_unaryExpression h ctx s hs
  · exact builds_unaryExpression h ctx s hs

theorem builds_binaryExpression (h : rules.Sound) (least : Nat) :
    Builds (binaryExpression rules least) := by
  intro ctx s hs
  refine Yields.tokenStart ((reads_atPunctuator "(").step fun parenthesizedLeft => ?_)
  apply Built.step (builds_firstOperand h ctx s hs)
  intro left s hl
  exact built_binaryRest h parenthesizedLeft least hl

theorem reads_isYield : Reads isYield := by
  apply (reads_atWord "yield").bind
  intro _
  split
  · exact reads_read.bind fun c => reads_peek.bind fun _ => reads_pure _
  · exact reads_pure false

theorem builds_yieldExpression (h : rules.Sound) : Builds (yieldExpression rules) := by
  intro ctx s hs
  apply Yields.tokenStart
  apply reads_read.step
  intro c
  apply takes_bump.step (Track.start hs)
  intro _ s t
  apply (moves_faultIf _ _).step t
  intro _ s t
  apply (moves_faultIf _ _).step t
  intro _ s t
  apply reads_afterNewline.step
  intro _
  split
  · exact t.node
  apply (tries_eat "*").moves.step t
  intro delegate s t
  apply reads_lexeme.step
  intro l
  split
  · exact t.node
  apply (h .assignment).within.step t
  intro argument s t
  exact Track.node (by simpa using t)

theorem built_conditionalRest (h : rules.Sound) {test : Node} (ht : Built s₀ start test s) :
    Yields (conditionalRest rules start test) ctx s (Built s₀ start) := by
  apply (tries_eat "?").moves.pass ht
  intro _ s ht
  split
  case isFalse => exact Yields.pure ht
  apply (builds_withIn (h .assignment)).step (Track.ofBuilt ht)
  intro yes s t
  apply (takes_expect ":").step t
  intro _ s t
  apply (h .assignment).step t
  intro no s t
  exact Track.node (by simpa using t)

theorem moves_checkAssigned (plain : Bool) (target : Node) : Moves (checkAssigned plain target) :=
  (moves_checkTarget target).ite (moves_checkSimpleTarget target)

theorem built_assignmentRest (h : rules.Sound) {target : Node} (ht : Built s₀ start target s) :
    Yields (assignmentRest rules start target) ctx s (Built s₀ start) := by
  apply (reads_atPunctuator "=").step
  intro plain
  apply (moves_checkAssigned plain target).step (Track.ofBuilt ht)
  intro _ s t
  apply takes_bump.step t
  intro _ s t
  apply (h .assignment).step t
  intro value s t
  exact Track.node (by simpa using t)

/-- What is tried before something else. -/
theorem Offers.orElse {p : Parser (Option Node)} {q : Parser Node} (hp : Offers p) (hq : Builds q) :
    Builds (do
      if let some n ← p then return n
      q) := by
  intro ctx s hs
  apply Yields.bind
  apply (hp ctx s hs).mono
  intro n? u hn
  split
  · exact Yields.pure (hn.2 _ rfl)
  · exact hq.last ((Track.start hs).reaches hn.1)

theorem builds_assignmentExpression (h : rules.Sound) : Builds (assignmentExpression rules) := by
  intro ctx s hs
  apply reads_isYield.step
  intro _
  split
  · exact builds_yieldExpression h ctx s hs
  refine (offers_parenthesizedArrow? h).orElse ((offers_asyncSimpleArrow? h).orElse ?_) ctx s hs
  intro ctx s hs
  apply Yields.tokenStart
  apply Built.step (builds_binaryExpression h 0 ctx s hs)
  intro left s hl
  apply (reads_atPunctuator "=>").step
  intro _
  split
  · exact built_simpleArrow h false hl
  apply reads_lexeme.step
  intro l
  split
  · exact built_assignmentRest h hl
  · exact built_conditionalRest h hl

end ModuleBundler.Script
