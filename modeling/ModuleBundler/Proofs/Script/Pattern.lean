import ModuleBundler.Script.Pattern
import ModuleBundler.Proofs.Script.Track

/-!
# Names and patterns are placed
-/

namespace ModuleBundler.Script

open Node (sitesOfAll)
open ModuleBundler.Script.Parser
open ParserState (Reach)

/-- Every nonterminal places its nodes. -/
def Rules.Sound (rules : Rules) : Prop := ∀ x, Builds (rules x)

/-! ## Names -/

theorem takes_takeWord : Takes takeWord := by
  apply reads_lexeme.moves.bind_takes
  intro l
  split
  · exact takes_skip.bind fun _ => moves_pure _
  · exact takes_unexpected

theorem takes_takeName : Takes takeName :=
  reads_tokenStart.moves.bind_takes fun _ => takes_takeWord.bind fun _ => moves_pure _

theorem moves_checkIdentifier (allowAwait allowYield : Bool) :
    Moves (checkIdentifier allowAwait allowYield) := by
  apply reads_lexeme.moves.bind
  intro l
  split
  · apply reads_tokenStart.moves.bind
    intro _
    apply (moves_faultIf _ _).bind
    intro _
    exact reads_tokenStart.moves.bind fun _ => moves_faultIf _ _
  · exact moves_pure ()

/-- A name that becomes a node without parts. -/
theorem builds_word (shape : String → Shape) : Builds (do
    let start ← tokenStart
    let name ← takeWord
    node (shape name) start []) := by
  intro ctx s hs
  apply Yields.tokenStart
  apply takes_takeWord.step (Track.start hs)
  intro name s t
  exact t.node

theorem builds_bindingIdentifier : Builds bindingIdentifier := by
  apply reads_lexeme.moves.bind_builds
  intro l
  apply (moves_unexpectedIf _).bind_builds
  intro _
  apply reads_read.moves.bind_builds
  intro c
  apply (moves_checkIdentifier _ _).bind_builds
  intro _
  exact builds_word .binding

theorem builds_identifierReference : Builds identifierReference := by
  apply reads_lexeme.moves.bind_builds
  intro l
  apply (moves_unexpectedIf _).bind_builds
  intro _
  apply reads_read.moves.bind_builds
  intro c
  apply (moves_checkIdentifier _ _).bind_builds
  intro _
  exact builds_word .identifier

theorem moves_labelIdentifier : Moves labelIdentifier := by
  apply reads_read.moves.bind
  intro c
  apply reads_lexeme.moves.bind
  intro l
  apply (moves_unexpectedIf _).bind
  intro _
  exact takes_takeWord.moves.bind fun _ => moves_pure _

theorem builds_identifierName : Builds identifierName := builds_word .propertyName

theorem builds_privateName : Builds privateName := by
  intro ctx s hs
  apply Yields.tokenStart
  apply reads_lexeme.step
  intro l
  split
  · apply takes_skip.step (Track.start hs)
    intro _ s t
    exact t.node
  · exact Yields.unexpected

theorem takes_stringLiteral : Takes stringLiteral := by
  apply reads_tokenStart.moves.bind_takes
  intro _
  apply reads_lexeme.moves.bind_takes
  intro l
  split
  · exact takes_skip.bind fun _ => moves_pure _
  · exact takes_unexpected

theorem builds_propertyName {rules : Rules} (h : rules.Sound) :
    BuildsPart Prod.fst (propertyName rules) := by
  intro ctx s hs
  apply Yields.tokenStart
  apply reads_lexeme.step
  intro l
  split
  · apply takes_skip.step (Track.start hs)
    intro _ s t
    exact Built.step t.node fun key s hk => Yields.pure hk
  · apply takes_skip.step (Track.start hs)
    intro _ s t
    exact Built.step t.node fun key s hk => Yields.pure hk
  · apply takes_bump.step (Track.start hs)
    intro _ s t
    apply Built.step ((h .assignment).within.last t)
    intro key s hk
    exact (takes_expect "]").moves.pass hk fun _ s hk => Yields.pure hk
  · exact Built.step (builds_identifierName ctx s hs) fun key s hk => Yields.pure hk

theorem moves_exportName : Moves exportName := by
  apply reads_lexeme.moves.bind
  intro l
  split
  · apply takes_stringLiteral.moves.bind
    intro _
    exact (moves_faultIf _ _).bind fun _ => moves_pure _
  · apply reads_tokenStart.moves.bind
    intro _
    exact takes_takeWord.moves.bind fun _ => moves_pure _

/-! ## Patterns -/

section Patterns

variable {rules : Rules}

theorem builds_bindingElement (h : rules.Sound) : Builds (bindingElement rules) := by
  intro ctx s hs
  apply Yields.tokenStart
  apply Built.step (h .bindingTarget ctx s hs)
  intro target s hn
  apply (tries_eat "=").moves.pass hn
  intro b s hn
  split
  · apply (h .assignment).within.step (Track.ofBuilt hn)
    intro value s t
    exact Track.node (by simpa using t)
  · exact Yields.pure hn

theorem moves_refuseDefault (h : rules.Sound) : Moves (refuseDefault rules) := by
  apply (reads_atPunctuator "=").moves.bind
  intro b
  refine Moves.ite ?_ (moves_pure ())
  apply reads_tokenStart.moves.bind
  intro _
  apply (moves_fault _).bind
  intro _
  apply takes_bump.moves.bind
  intro _
  exact (h .assignment).within.moves.bind fun _ => moves_pure ()

theorem builds_restElement (h : rules.Sound) : Builds (restElement rules) := by
  intro ctx s hs
  apply Yields.tokenStart
  apply takes_bump.step (Track.start hs)
  intro _ s t
  apply (h .bindingTarget).step t
  intro target s t
  apply (moves_refuseDefault h).step t
  intro _ s t
  exact Track.node (by simpa using t)

theorem builds_bindingProperty (h : rules.Sound) : Builds (bindingProperty rules) := by
  intro ctx s hs
  apply Yields.tokenStart
  apply reads_lexeme.step
  intro _
  apply reads_read.step
  intro _
  apply reads_lexeme.step
  intro _
  apply (builds_propertyName h).step (Track.start hs)
  rintro ⟨key, computed⟩ s t
  apply (reads_atPunctuator ":").step
  intro _
  split
  · have t : Track true _ _ s [] := { t with fits := .nil }
    apply (moves_faultIf _ _).step t
    intro _ s t
    apply (tries_eat "=").moves.step t
    intro _ s t
    split
    · apply (h .assignment).within.step t
      intro value s t
      apply Built.step (Track.node (by simpa using t))
      intro value s hv
      exact Track.node (by simpa using Track.ofBuilt hv)
    · exact Track.node (by simpa using t)
  · apply (takes_expect ":").step t
    intro _ s t
    apply (builds_bindingElement h).step t
    intro value s t
    exact Track.node (by simpa using t)

theorem moves_checkRestTarget (n : Node) : Moves (checkRestTarget n) := by
  unfold checkRestTarget
  split
  · exact moves_pure ()
  · exact (takes_fail _).moves
  · exact moves_pure ()

theorem gathers_elementOrHole {element : Parser Node} (h : Builds element) :
    Gathers Node.sites (elementOrHole element) := by
  intro ctx s hs
  apply (reads_atPunctuator ",").step
  intro _
  split
  · refine Yields.tokenStart (Yields.pure ⟨Reach.refl hs, ?_⟩)
    simp
  · exact h.gathers ctx s hs

theorem builds_bindingTarget (h : rules.Sound) : Builds (bindingTarget rules) := by
  intro ctx s hs
  apply Yields.tokenStart
  apply reads_lexeme.step
  intro l
  split
  · apply takes_bump.step (Track.start hs)
    intro _ s t
    have hlist := gathers_commaListWithRest (builds_bindingProperty h).gathers
      (builds_restElement h) "\x7d"
    apply hlist.step t
    intro parts s t
    apply (moves_forM moves_checkRestTarget).step t
    intro _ s t
    apply (takes_expect "\x7d").step t
    intro _ s t
    exact Track.node (by simpa using t)
  · apply takes_bump.step (Track.start hs)
    intro _ s t
    have hlist := gathers_commaListWithRest (gathers_elementOrHole (builds_bindingElement h))
      (builds_restElement h) "]"
    apply hlist.step t
    intro parts s t
    apply (takes_expect "]").step t
    intro _ s t
    exact Track.node (by simpa using t)
  · exact builds_bindingIdentifier ctx s hs

end Patterns

/-! ## Targets of assignments -/

theorem moves_checkTrailingComma (start : Nat) : Moves (checkTrailingComma start) :=
  reads_get.moves.bind fun _ => moves_faultAt? _

theorem moves_claimShorthand (start : Nat) : Moves (claimShorthand start) :=
  moves_modify fun _ => ⟨rfl, rfl, rfl, rfl, rfl, id⟩

mutual

theorem moves_checkSimpleTarget : ∀ n, Moves (checkSimpleTarget n)
  | .mk shape span parts => by
    rw [checkSimpleTarget.eq_def]
    dsimp only
    split
    · exact moves_pure ()
    · exact moves_pure ()
    · exact moves_checkParenthesized span.start parts
    · exact (takes_fail _).moves

theorem moves_checkParenthesized (start : Nat) : ∀ l, Moves (checkParenthesized start l)
  | [] => by
    rw [checkParenthesized]
    exact (takes_fail start).moves
  | .mk shape span parts :: _ => by
    rw [checkParenthesized.eq_def]
    dsimp only
    split
    · exact (takes_fail _).moves
    · exact (takes_fail _).moves
    · exact moves_pure ()
    · exact moves_pure ()
    · exact moves_checkParenthesized span.start parts
    · exact (takes_fail _).moves

end

mutual

theorem moves_checkTarget : ∀ n, Moves (checkTarget n)
  | .mk shape span parts => by
    rw [checkTarget.eq_def]
    dsimp only
    split
    · exact moves_checkElements span.start parts
    · exact moves_checkProperties span.start parts
    · exact moves_checkSimpleTarget _

theorem moves_checkElement : ∀ n, Moves (checkElement n)
  | .mk shape span parts => by
    rw [checkElement.eq_def]
    split
    · exact (moves_pure ()).ite (takes_fail _).moves
    · exact moves_checkTarget (.mk shape span parts)

theorem moves_checkElements (start : Nat) : ∀ l, Moves (checkElements start l)
  | [] => by
    rw [checkElements]
    exact moves_pure ()
  | .mk shape span parts :: r => by
    rw [checkElements.eq_def]
    split
    case h_1 => exact moves_pure ()
    case h_2 h =>
      cases h
      exact moves_checkElements start r
    case h_3 h =>
      cases h
      refine Moves.ite ?_ (takes_fail _).moves
      exact (moves_checkFirst parts).bind fun _ => moves_checkTrailingComma start
    case h_4 h =>
      cases h
      exact (moves_checkElement _).bind fun _ => moves_checkElements start r

theorem moves_checkProperties (start : Nat) : ∀ l, Moves (checkProperties start l)
  | [] => by
    rw [checkProperties]
    exact moves_pure ()
  | .mk shape span parts :: r => by
    rw [checkProperties.eq_def]
    split
    case h_1 => exact moves_pure ()
    case h_2 h =>
      cases h
      refine Moves.ite ?_ (takes_fail _).moves
      exact (moves_checkFirst parts).bind fun _ => moves_checkTrailingComma start
    case h_3 h =>
      cases h
      exact (moves_claimShorthand _).bind fun _ => moves_checkProperties start r
    case h_4 h =>
      cases h
      exact (moves_checkValue parts).bind fun _ => moves_checkProperties start r

theorem moves_checkFirst : ∀ l, Moves (checkFirst l)
  | [] => by
    rw [checkFirst]
    exact moves_pure ()
  | n :: _ => by
    rw [checkFirst]
    exact moves_checkTarget n

theorem moves_checkValue : ∀ l, Moves (checkValue l)
  | [] => by
    rw [checkValue]
    exact moves_pure ()
  | [n] => by
    rw [checkValue]
    exact moves_checkElement n
  | _ :: m :: r => by
    rw [checkValue]
    · exact moves_checkValue (m :: r)
    · simp

end

end ModuleBundler.Script
