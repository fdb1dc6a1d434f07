import ModuleBundler.Proofs.Script.Relocation.Parser

/-!
# Names and patterns elsewhere

What is called by its nonterminal agrees as soon as fewer characters are to go, or as many and the
nonterminal ranks lower.
-/

namespace ModuleBundler.Script

/-- A nonterminal refers to one of the same rank or higher only behind a token. -/
def Nonterminal.rank : Nonterminal → Nat
  | .statement _ => 2
  | .assignment | .binary _ | .unary | .leftHandSide => 1
  | .primary | .bindingTarget => 0

namespace Parser

/-- The nonterminals agree for fewer characters than half of `m`. -/
def Below (d m : Nat) (rules rules' : Rules) : Prop :=
  ∀ x k, 2 * k + x.rank < m → Agree d k (rules x) (rules' x) (shorter k)

variable {d m r k : Nat} {rules rules' : Rules}

namespace Below

variable (h : Below d m rules rules')

include h

theorem statement (single : Bool) (hk : 2 * k + 2 < m) :
    Agree d k (rules (.statement single)) (rules' (.statement single)) (shorter k) :=
  h _ k hk

theorem assignment (hk : 2 * k + 1 < m) :
    Agree d k (rules .assignment) (rules' .assignment) (shorter k) :=
  h _ k hk

theorem binary (precedence : Nat) (hk : 2 * k + 1 < m) :
    Agree d k (rules (.binary precedence)) (rules' (.binary precedence)) (shorter k) :=
  h _ k hk

theorem unary (hk : 2 * k + 1 < m) : Agree d k (rules .unary) (rules' .unary) (shorter k) :=
  h _ k hk

theorem leftHandSide (hk : 2 * k + 1 < m) :
    Agree d k (rules .leftHandSide) (rules' .leftHandSide) (shorter k) :=
  h _ k hk

theorem primary (hk : 2 * k < m) : Agree d k (rules .primary) (rules' .primary) (shorter k) :=
  h _ k hk

theorem bindingTarget (hk : 2 * k < m) :
    Agree d k (rules .bindingTarget) (rules' .bindingTarget) (shorter k) :=
  h _ k hk

end Below

/-! ## Names -/

theorem agree_takeWord : Agree d r takeWord takeWord (shorter r) := by
  refine .lexeme fun l hl => ?_
  cases l with
  | word name escaped => exact .skip (hl nofun) fun k hk => .pure (a := name) hk
  | _ => exact agree_unexpected

theorem agree_takeName : Agree d r takeName takeName (shorter r) := by
  refine .tokenStart fun start => ?_
  exact agree_takeWord.advance fun name k hk => .pure (a := SourceName.mk name start) hk

theorem agree_checkIdentifier (allowAwait allowYield : Bool) :
    Agree d r (checkIdentifier allowAwait allowYield) (checkIdentifier allowAwait allowYield)
      (still r) := by
  refine .lexeme fun l _ => ?_
  cases l with
  | word name escaped =>
    refine .tokenStart fun start => (agree_faultIf _ start).stay fun _ => ?_
    exact .tokenStart fun start => agree_faultIf _ start
  | _ => exact .pure (a := ()) rfl

/-- A node behind a token. -/
theorem agree_node_behind (hk : k < r) (shape : Shape) (start : Nat) (parts : List Node) :
    Agree d k (node shape start parts) (node (move d shape) (start + d) (move d parts))
      (shorter r) :=
  (agree_node shape start parts).mono fun _ _ _ hj => hj ▸ hk

theorem agree_bindingIdentifier :
    Agree d r bindingIdentifier bindingIdentifier (shorter r) := by
  refine .lexeme fun l _ => (agree_unexpectedIf _).stay fun _ => .read fun ctx limit => ?_
  refine (agree_checkIdentifier _ _).stay fun _ => .tokenStart fun start => ?_
  exact agree_takeWord.advance fun name k hk => agree_node_behind hk (.binding name) start []

theorem agree_identifierReference :
    Agree d r identifierReference identifierReference (shorter r) := by
  refine .lexeme fun l _ => (agree_unexpectedIf _).stay fun _ => .read fun ctx limit => ?_
  refine (agree_checkIdentifier _ _).stay fun _ => .tokenStart fun start => ?_
  exact agree_takeWord.advance fun name k hk => agree_node_behind hk (.identifier name) start []

theorem agree_labelIdentifier : Agree d r labelIdentifier labelIdentifier (shorter r) := by
  refine .read fun ctx limit => .lexeme fun l _ => (agree_unexpectedIf _).stay fun _ => ?_
  exact agree_takeWord.advance fun _ k hk => .pure (a := ()) hk

theorem agree_identifierName : Agree d r identifierName identifierName (shorter r) := by
  refine .tokenStart fun start => ?_
  exact agree_takeWord.advance fun name k hk => agree_node_behind hk (.propertyName name) start []

theorem agree_privateName : Agree d r privateName privateName (shorter r) := by
  refine .tokenStart fun start => .lexeme fun l hl => ?_
  cases l with
  | privateName name =>
    exact .skip (hl nofun) fun k hk => agree_node_behind hk (.privateName name) start []
  | _ => exact agree_unexpected

theorem agree_stringLiteral : Agree d r stringLiteral stringLiteral (shorter r) := by
  refine .tokenStart fun start => .lexeme fun l hl => ?_
  cases l with
  | string value wellFormed =>
    exact .skip (hl nofun) fun k hk => .pure (a := (value, wellFormed, start)) hk
  | _ => exact agree_unexpected

theorem agree_propertyName (h : Below d m rules rules') (hm : 2 * r ≤ m) :
    Agree d r (propertyName rules) (propertyName rules') (shorter r) := by
  refine .tokenStart fun start => .lexeme fun l hl => ?_
  split
  · refine .skip (hl nofun) fun k hk => (agree_node_behind hk (.string _) start []).bind ?_
    exact fun n j _ hj => .pure (a := (n, false)) hj
  · refine .skip (hl nofun) fun k hk => (agree_node_behind hk .literal start []).bind ?_
    exact fun n j _ hj => .pure (a := (n, false)) hj
  · refine .bump (hl nofun) fun k hk => ?_
    apply (Agree.within (fun _ _ => rfl) (h.assignment (by omega))).advance
    intro key j hj
    exact (agree_expect "]").advance fun _ i hi => .pure (a := (key, true)) (by omega)
  · exact agree_identifierName.advance fun n k hk => .pure (a := (n, false)) hk

@[simp] theorem keyText?_move (key : Node) (computed : Bool) :
    keyText? (move d key) computed = keyText? key computed := by
  obtain ⟨shape, span, parts⟩ := key
  cases shape <;> rfl

theorem agree_exportName : Agree d r exportName exportName (shorter r) := by
  refine .lexeme fun l _ => ?_
  cases l with
  | string value wellFormed =>
    apply agree_stringLiteral.advance
    rintro ⟨value, wellFormed, start⟩ k hk
    exact (agree_faultIf _ start).stay fun _ =>
      .pure (a := (SourceName.mk value start, true)) hk
  | _ =>
    refine .tokenStart fun start => agree_takeWord.advance fun name k hk => ?_
    exact .pure (a := (SourceName.mk name start, false)) hk

/-! ## Binding patterns -/

theorem agree_bindingElement (h : Below d m rules rules') (hm : 2 * r < m) :
    Agree d r (bindingElement rules) (bindingElement rules') (shorter r) := by
  refine .tokenStart fun start => (h.bindingTarget hm).advance fun target k hk => ?_
  refine (agree_eat "=").bind fun b j hj hb => .ite (fun heq => ?_) fun _ => ?_
  · have hj := hb heq
    apply (Agree.within (fun _ _ => rfl) (h.assignment (by omega))).advance
    intro value i hi
    exact agree_node_behind (by omega) .withDefault start [target, value]
  · exact .pure (by omega)

theorem agree_refuseDefault (h : Below d m rules rules') (hm : 2 * r ≤ m) :
    Agree d r (refuseDefault rules) (refuseDefault rules') anything := by
  refine .atPunctuator fun b hb => .ite (fun heq => ?_) fun _ => .pure (a := ()) trivial
  refine .tokenStart fun start => (agree_fault start).stay fun _ => .bump (hb heq) fun k hk => ?_
  exact (Agree.within (fun _ _ => rfl) (h.assignment (by omega))).advance fun _ _ _ =>
    .pure (a := ()) trivial

theorem agree_restElement (h : Below d m rules rules') (hpos : 0 < r) (hm : 2 * r ≤ m) :
    Agree d r (restElement rules) (restElement rules') (shorter r) := by
  refine .tokenStart fun start => .bump hpos fun k hk => ?_
  refine (h.bindingTarget (by omega)).advance fun target j hj => ?_
  refine (agree_refuseDefault h (by omega)).followed fun _ i hi => ?_
  exact agree_node_behind (by omega) .rest start [target]

theorem agree_bindingProperty (h : Below d m rules rules') (hm : 2 * r ≤ m) :
    Agree d r (bindingProperty rules) (bindingProperty rules') (shorter r) := by
  refine .tokenStart fun start => .lexeme fun l _ => .read fun ctx limit => .lexeme fun l' _ => ?_
  apply (agree_propertyName h hm).advance
  rintro ⟨key, computed⟩ k hk
  simp only [move_pair]
  refine .atPunctuator fun b _ => .ite (fun _ => ?_) fun _ => ?_
  · refine (agree_faultIf _ start).stay fun _ => ?_
    simp only [keyText?_move, Node.span_move]
    generalize (keyText? key computed).getD "" = name
    refine (agree_eat "=").bind fun b j hj hb => .ite (fun heq => ?_) fun _ => ?_
    · have hj := hb heq
      apply (Agree.within (fun _ _ => rfl) (h.assignment (by omega))).advance
      intro value i hi
      have hvalue := agree_node_behind (d := d) (show i < r by omega) .withDefault start
        [.mk (.binding name) key.span [], value]
      apply hvalue.bind
      exact fun value _ _ hr => agree_node_behind hr .patternProperty start [value]
    · exact agree_node_behind (by omega) .patternProperty start [.mk (.binding name) key.span []]
  · apply (agree_expect ":").advance
    intro _ j hj
    apply (agree_bindingElement h (by omega)).advance
    intro value i hi
    exact agree_node_behind (by omega) .patternProperty start [key, value]

theorem agree_checkRestTarget (n : Node) :
    Agree d r (checkRestTarget n) (checkRestTarget (move d n)) (still r) := by
  obtain ⟨shape, span, parts⟩ := n
  rw [Node.move_mk]
  cases shape with
  | rest =>
    cases parts with
    | nil => exact .pure (a := ()) rfl
    | cons target more =>
      obtain ⟨shape, span, parts⟩ := target
      cases more <;> cases shape
      case nil.binding => exact .pure (a := ()) rfl
      all_goals exact .fail span.start
  | _ => exact .pure (a := ()) rfl

theorem agree_elementOrHole {element element' : Parser Node}
    (h : Agree d r element element' anything) :
    Agree d r (elementOrHole element) (elementOrHole element') anything := by
  refine .atPunctuator fun b _ => .ite (fun _ => ?_) fun _ => h
  refine .tokenStart fun start => ?_
  exact .pure (a := Node.mk .hole ⟨start, start⟩ []) trivial

theorem agree_bindingTarget (h : Below d m rules rules') (hm : 2 * r ≤ m) :
    Agree d r (bindingTarget rules) (bindingTarget rules') (shorter r) := by
  refine .tokenStart fun start => .lexeme fun l hl => ?_
  split
  · refine .bump (hl nofun) fun k hk => ?_
    apply (agree_commaListWithRest "\x7d" (fun j hj => (agree_bindingProperty h (by omega)).weaken)
      fun j hj hpos => (agree_restElement h hpos (by omega)).weaken).followed
    intro parts j hj
    apply (agree_forM fun p _ => agree_checkRestTarget p).stay
    intro _
    apply (agree_expect "\x7d").advance
    intro _ i hi
    exact agree_node_behind (by omega) .objectPattern start parts
  · refine .bump (hl nofun) fun k hk => ?_
    apply (agree_commaListWithRest "]" (fun j hj => agree_elementOrHole
      (agree_bindingElement h (by omega)).weaken)
        fun j hj hpos => (agree_restElement h hpos (by omega)).weaken).followed
    intro parts j hj
    apply (agree_expect "]").advance
    intro _ i hi
    exact agree_node_behind (by omega) .arrayPattern start parts
  · exact agree_bindingIdentifier

/-! ## Targets of assignments -/

theorem beq_move (m n : Nat) : (m + d == n + d) = (m == n) := by
  rw [Bool.eq_iff_iff, beq_iff_eq, beq_iff_eq, Nat.add_right_cancel_iff]

theorem find?_move (commas : List (Nat × Nat)) (start : Nat) :
    (move d commas).find? (·.1 == start + d) = move d (commas.find? (·.1 == start)) := by
  induction commas with
  | nil => rfl
  | cons comma commas ih =>
    have hsame : ((move d comma).1 == start + d) = (comma.1 == start) := beq_move comma.1 start
    rw [move_cons, List.find?_cons, List.find?_cons, ih, hsame]
    split <;> rfl

theorem agree_checkTrailingComma (start : Nat) :
    Agree d r (checkTrailingComma start) (checkTrailingComma (start + d)) (still r) := by
  refine .look (g := id) (fun _ _ => rfl) (fun _ _ => rfl) fun s t hst _ => ?_
  have hfound : ((id t).trailingCommas.find? (·.1 == start + d)).map Prod.snd =
      move d (((id s).trailingCommas.find? (·.1 == start)).map Prod.snd) := by
    rw [id, id, hst.trailingCommas, find?_move]
    cases s.trailingCommas.find? (·.1 == start) <;> rfl
  rw [hfound]
  exact agree_faultAt? _

theorem filter_move (starts : List Nat) (start : Nat) :
    (move d starts).filter (· != start + d) = move d (starts.filter (· != start)) := by
  have hsame : ((· != start + d) ∘ (· + d)) = (· != start) := by
    funext n
    exact congrArg (!·) (beq_move n start)
  change (starts.map (· + d)).filter (· != start + d) = (starts.filter (· != start)).map (· + d)
  rw [List.filter_map, hsame]

theorem agree_claimShorthand (start : Nat) :
    Agree d r (claimShorthand start) (claimShorthand (start + d)) (still r) := by
  refine agree_modify fun s t h => ⟨{ h with shorthandValues := ?_, shortens := h.shortens }, rfl⟩
  change t.shorthandValues.filter (· != start + d) = _
  rw [h.shorthandValues, filter_move]

mutual

theorem agree_checkSimpleTarget : ∀ n : Node,
    Agree d r (checkSimpleTarget n) (checkSimpleTarget (move d n)) (still r)
  | .mk shape span parts => by
    rw [Node.move_mk]
    unfold checkSimpleTarget
    cases shape with
    | parenthesized => exact agree_checkParenthesized span.start parts
    | identifier | member => exact .pure (a := ()) rfl
    | _ => exact .fail span.start

theorem agree_checkParenthesized (start : Nat) : ∀ parts : List Node,
    Agree d r (checkParenthesized start parts) (checkParenthesized (start + d) (move d parts))
      (still r)
  | [] => by
    unfold checkParenthesized
    exact .fail start
  | .mk shape span parts :: more => by
    rw [move_cons, Node.move_mk]
    unfold checkParenthesized
    cases shape with
    | array | object => exact .fail start
    | parenthesized => exact agree_checkParenthesized span.start parts
    | identifier | member => exact .pure (a := ()) rfl
    | _ => exact .fail span.start

end

mutual

theorem agree_checkTarget : ∀ n : Node,
    Agree d r (checkTarget n) (checkTarget (move d n)) (still r)
  | .mk shape span parts => by
    have hsimple := agree_checkSimpleTarget (d := d) (r := r) (.mk shape span parts)
    rw [Node.move_mk] at hsimple ⊢
    unfold checkTarget
    cases shape with
    | array => exact agree_checkElements span.start parts
    | object => exact agree_checkProperties span.start parts
    | _ => exact hsimple

theorem agree_checkElement : ∀ n : Node,
    Agree d r (checkElement n) (checkElement (move d n)) (still r)
  | .mk shape span parts => by
    have htarget := agree_checkTarget (.mk shape span parts)
    rw [Node.move_mk] at htarget ⊢
    unfold checkElement
    cases shape with
    | assignment plain =>
      cases plain
      · exact .fail span.start
      · exact .pure (a := ()) rfl
    | _ => exact htarget

theorem agree_checkElements (start : Nat) : ∀ parts : List Node,
    Agree d r (checkElements start parts) (checkElements (start + d) (move d parts)) (still r)
  | [] => by
    unfold checkElements
    exact .pure (a := ()) rfl
  | .mk shape span parts :: more => by
    have hempty : (move d more).isEmpty = more.isEmpty := List.isEmpty_map
    have helement := agree_checkElement (.mk shape span parts)
    rw [Node.move_mk] at helement
    have hmore := agree_checkElements start more
    have hnext := helement.andThen hmore
    rw [move_cons, Node.move_mk]
    unfold checkElements
    cases shape with
    | hole => exact hmore
    | spread =>
      change Agree d r (if more.isEmpty then _ else _) (if (move d more).isEmpty then _ else _) _
      rw [hempty]
      refine .ite (fun _ => ?_) fun _ => .fail span.start
      exact (agree_checkFirst parts).stay fun _ => agree_checkTrailingComma start
    | _ => exact hnext

theorem agree_checkProperties (start : Nat) : ∀ parts : List Node,
    Agree d r (checkProperties start parts) (checkProperties (start + d) (move d parts)) (still r)
  | [] => by
    unfold checkProperties
    exact .pure (a := ()) rfl
  | .mk shape span parts :: more => by
    have hempty : (move d more).isEmpty = more.isEmpty := List.isEmpty_map
    have hmore := agree_checkProperties start more
    have hproperty := (agree_checkValue parts).andThen hmore
    rw [move_cons, Node.move_mk]
    unfold checkProperties
    cases shape with
    | spread =>
      change Agree d r (if more.isEmpty then _ else _) (if (move d more).isEmpty then _ else _) _
      rw [hempty]
      refine .ite (fun _ => ?_) fun _ => .fail span.start
      exact (agree_checkFirst parts).stay fun _ => agree_checkTrailingComma start
    | shorthand =>
      exact (agree_claimShorthand span.start).stay fun _ => hmore
    | _ => exact hproperty

theorem agree_checkFirst : ∀ parts : List Node,
    Agree d r (checkFirst parts) (checkFirst (move d parts)) (still r)
  | [] => by
    unfold checkFirst
    exact .pure (a := ()) rfl
  | n :: _ => by
    rw [move_cons]
    unfold checkFirst
    exact agree_checkTarget n

theorem agree_checkValue : ∀ parts : List Node,
    Agree d r (checkValue parts) (checkValue (move d parts)) (still r)
  | [] => by
    unfold checkValue
    exact .pure (a := ()) rfl
  | [n] => by
    rw [move_cons, move_nil]
    unfold checkValue
    exact agree_checkElement n
  | first :: n :: more => by
    have hmore := agree_checkValue (n :: more)
    rw [move_cons] at hmore
    rw [move_cons, move_cons]
    unfold checkValue
    exact hmore

end

end Parser

end ModuleBundler.Script
