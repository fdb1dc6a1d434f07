import ModuleBundler.Proofs.Script.Relocation.Function

/-!
# Expressions elsewhere
-/

namespace ModuleBundler.Script.Parser

variable {d m r k : Nat} {rules rules' : Rules}

theorem agree_withIn {p p' : Parser Node} {Q : Node → Nat → Prop} (h : Agree d r p p' Q) :
    Agree d r (withIn p) (withIn p') Q :=
  .within (fun _ _ => rfl) h

theorem agree_expression (h : Below d m rules rules') (hm : 2 * r + 1 < m) :
    Agree d r (expression rules) (expression rules') (shorter r) := by
  refine .within (fun _ _ => rfl) (.tokenStart fun start => ?_)
  refine (h.assignment hm).advance fun first k hk => ?_
  refine .atPunctuator fun b _ => .ite (fun _ => ?_) fun _ => .pure hk
  apply (agree_moreAfterCommas first fun j hj => (h.assignment (by omega)).weaken).followed
  intro parts j hj
  exact agree_node_behind (by omega) .sequence start parts

/-! ## Primary expressions -/

theorem agree_spreadOrAssignment (h : Below d m rules rules') (hm : 2 * r + 1 < m) :
    Agree d r (spreadOrAssignment rules) (spreadOrAssignment rules') (shorter r) := by
  refine .atPunctuator fun b hb => .ite (fun hspread => ?_) fun _ => h.assignment hm
  refine .tokenStart fun start => .bump (hb hspread) fun k hk => ?_
  refine (h.assignment (by omega)).advance fun value j hj => ?_
  exact agree_node_behind (by omega) .spread start [value]

theorem agree_recordComma (start : Nat) (comma? : Option Nat) :
    Agree d r (recordComma start comma?) (recordComma (start + d) (move d comma?)) (still r) := by
  cases comma? with
  | none => exact .pure (a := ()) rfl
  | some comma =>
    exact agree_modify fun _ _ h => ⟨{ h with
      trailingCommas := congrArg ((start + d, comma + d) :: ·) h.trailingCommas
      shortens := h.shortens }, rfl⟩

theorem agree_arrayLiteral (h : Below d m rules rules') (hpos : 0 < r) (hm : 2 * r ≤ m) :
    Agree d r (arrayLiteral rules) (arrayLiteral rules') (shorter r) := by
  refine .tokenStart fun start => .bump hpos fun k hk => ?_
  apply (Agree.within (fun _ _ => rfl) (agree_commaList "]" fun j hj =>
    agree_elementOrHole (agree_spreadOrAssignment h (by omega)).weaken)).followed
  rintro ⟨parts, comma?⟩ j hj
  refine (agree_recordComma start comma?).stay fun _ => ?_
  refine (agree_expect "]").advance fun _ i hi => ?_
  exact agree_node_behind (by omega) .array start parts

theorem agree_recordShorthand (start : Nat) :
    Agree d r (recordShorthand start) (recordShorthand (start + d)) (still r) :=
  agree_modify fun _ _ h => ⟨{ h with
    shorthandValues := congrArg ((start + d) :: ·) h.shorthandValues
    shortens := h.shortens }, rfl⟩

theorem agree_objectAccessor (h : Below d m rules rules') (hm : 2 * r ≤ m) (start : Nat)
    (kind : MethodKind) :
    Agree d r (objectAccessor rules start kind) (objectAccessor rules' (start + d) kind)
      (shorter r) := by
  apply (agree_propertyName h hm).advance
  rintro ⟨key, computed⟩ k hk
  refine (agree_methodFunction h (by omega) false false).advance fun function j hj => ?_
  refine (agree_checkAccessor kind function).stay fun _ => ?_
  exact agree_node_behind (by omega) .method start [key, function]

theorem agree_objectProperty (h : Below d m rules rules') (hm : 2 * r + 1 < m) :
    Agree d r (objectProperty rules) (objectProperty rules') (shorter r) := by
  refine .tokenStart fun start => .atPunctuator fun b _ => ?_
  refine .ite (fun _ => agree_spreadOrAssignment h hm) fun _ => ?_
  refine (agree_eatModifier "async" true).followed fun async k hk => ?_
  refine (agree_eatModifier "get" false).followed fun b j hj => .ite (fun _ => ?_) fun _ => ?_
  · refine (agree_faultIf async start).stay fun _ => ?_
    exact (agree_objectAccessor h (by omega) start .getter).sooner (by omega)
  refine (agree_eatModifier "set" false).followed fun b i hi => .ite (fun _ => ?_) fun _ => ?_
  · refine (agree_faultIf async start).stay fun _ => ?_
    exact (agree_objectAccessor h (by omega) start .setter).sooner (by omega)
  refine (agree_eat "*").followed fun generator n hn => .read fun ctx limit => ?_
  refine .lexeme fun l _ => ?_
  apply (agree_propertyName h (by omega)).advance
  rintro ⟨key, computed⟩ q hq
  simp only [move_pair]
  refine .atPunctuator fun b _ => .ite (fun _ => ?_) fun _ => ?_
  · refine (agree_methodFunction h (by omega) async generator).advance fun function u hu => ?_
    exact agree_node_behind (by omega) .method start [key, function]
  refine (agree_faultIf async start).stay fun _ => .atPunctuator fun b _ => ?_
  refine .ite (fun _ => ?_) fun _ => ?_
  · simp only [keyText?_move, Node.span_move]
    generalize (keyText? key computed).getD "" = name
    refine (agree_eat "=").bind fun b u hu hb => .ite (fun _ => ?_) fun _ => ?_
    · refine (agree_withIn (h.assignment (by omega))).advance fun value v hv => ?_
      refine (agree_recordShorthand start).stay fun _ => ?_
      exact agree_node_behind (by omega) .shorthand start
        [.mk (.identifier name) key.span [], value]
    · exact agree_node_behind (by omega) .shorthand start [.mk (.identifier name) key.span []]
  · refine (agree_expect ":").advance fun _ u hu => ?_
    refine (agree_withIn (h.assignment (by omega))).advance fun value v hv => ?_
    exact agree_node_behind (by omega) .keyed start [key, value]

theorem agree_objectLiteral (h : Below d m rules rules') (hpos : 0 < r) (hm : 2 * r ≤ m) :
    Agree d r (objectLiteral rules) (objectLiteral rules') (shorter r) := by
  refine .tokenStart fun start => .bump hpos fun k hk => ?_
  apply (Agree.within (fun _ _ => rfl) (agree_commaList "\x7d" fun j hj =>
    (agree_objectProperty h (by omega)).weaken)).followed
  rintro ⟨parts, comma?⟩ j hj
  refine (agree_recordComma start comma?).stay fun _ => ?_
  refine (agree_expect "\x7d").advance fun _ i hi => ?_
  exact agree_node_behind (by omega) .object start parts

theorem agree_parenthesized (h : Below d m rules rules') (hpos : 0 < r) (hm : 2 * r ≤ m) :
    Agree d r (parenthesized rules) (parenthesized rules') (shorter r) := by
  refine .tokenStart fun start => .bump hpos fun k hk => .tokenStart fun inner => ?_
  apply (Agree.within (fun _ _ => rfl) (agree_commaList ")" fun j hj =>
    (h.assignment (by omega)).weaken)).followed
  rintro ⟨parts, comma?⟩ j hj
  have hcomma : Agree d j (failIf comma?.isSome (comma?.getD start))
      (failIf (move d comma?).isSome ((move d comma?).getD (start + d))) (still j) := by
    cases comma? <;> exact agree_failIf _ _
  refine hcomma.stay fun _ => ?_
  obtain _ | ⟨e, _ | ⟨e', es⟩⟩ := parts
  · exact (agree_expect ")").advance fun _ i hi => .fail start
  · refine (agree_expect ")").advance fun _ i hi => ?_
    exact agree_node_behind (by omega) .parenthesized start [e]
  · refine (agree_node .sequence inner (e :: e' :: es)).stay fun sequence => ?_
    refine (agree_expect ")").advance fun _ i hi => ?_
    exact agree_node_behind (by omega) .parenthesized start [sequence]

/-- Scanning anew from the same place. -/
theorem agree_load {c : Cursor} {a : Scanned} (hc : c.rest.length = r) (hpos : 0 < r)
    (hafter : a.After c) (hshort : a.Shortens) :
    Agree d r (load a) (load (move d a)) anything := by
  have hstart := hafter.origin.length_le
  have htotal := (hafter.origin.trans hafter.next).total
  have hinside : 0 < a.next.offset := by
    obtain ⟨-, -, hnext⟩ | ⟨-, hlt⟩ := hshort
    · rw [hnext, List.length_nil] at htotal
      omega
    · omega
  rintro ctx limit s t hst rfl - -
  exact .ok (a := ()) (moved_loaded hst (a.moved_move d) hinside hshort)
    ⟨Nat.le_trans hstart (Nat.le_of_eq hc), trivial⟩

theorem agree_templateText (tagged valid : Bool) (hpos : 0 < r) :
    Agree d r (templateText tagged valid) (templateText tagged valid) (shorter r) :=
  .tokenStart fun start => (agree_faultIf _ start).stay fun _ =>
    agree_skip.mono fun _ _ _ hk => hk hpos

theorem agree_reloadTemplate : Agree d r reloadTemplate reloadTemplate anything := by
  refine .atPunctuator fun b hb => .ite (fun h => ?_) fun _ => .pure (a := ()) trivial
  refine .look (g := id) (fun _ _ => rfl) (fun _ _ => rfl) fun s t hst hr => ?_
  have hroom : 0 < s.room := hr ▸ hb h
  have hrest : s.origin.rest ≠ [] := List.ne_nil_of_length_pos hroom
  rw [id, id, hst.origin, Cursor.move_scanTemplateTail]
  exact agree_load hr (hb h) (Cursor.scanTemplateTail_after hrest)
    (Cursor.scanTemplateTail_shortens hrest)

theorem agree_templateLiteral (h : Below d m rules rules') (hm : 2 * r ≤ m) (tagged : Bool) :
    Agree d r (templateLiteral rules tagged) (templateLiteral rules' tagged) (shorter r) := by
  refine .tokenStart fun start => .lexeme fun l hl => ?_
  cases l with
  | template valid =>
    refine (agree_templateText tagged valid (hl nofun)).advance fun _ k hk => ?_
    exact agree_node_behind hk .template start []
  | templateHead valid =>
    refine (agree_templateText tagged valid (hl nofun)).advance fun _ k hk => ?_
    refine Agree.followed (agree_iterate ([] : List Node) fun found j hj => ?_) fun parts j hj => ?_
    · refine (agree_withIn (agree_expression h (by omega))).advance fun e i hi => ?_
      refine agree_reloadTemplate.followed fun _ n hn => .lexeme fun l hl => ?_
      cases l with
      | templateTail valid =>
        exact (agree_templateText tagged valid (hl nofun)).followed fun _ q hq =>
          .done (move_reverse (l := e :: found)).symm
      | templateMiddle valid =>
        exact (agree_templateText tagged valid (hl nofun)).followed fun _ q hq =>
          .again rfl (by omega)
      | _ => exact .tokenStart fun start => .fail start
    · exact agree_node_behind (by omega) .template start parts
  | _ => exact agree_unexpected

theorem agree_importCall (h : Below d m rules rules') (hm : 2 * r ≤ m) (start : Nat) :
    Agree d r (importCall rules start) (importCall rules' (start + d)) (shorter r) := by
  refine (agree_expect "(").advance fun _ k hk => (agree_eat ")").followed fun b j hj => ?_
  refine (agree_failIf b start).stay fun _ => ?_
  refine (agree_withIn (h.assignment (by omega))).advance fun source i hi => ?_
  refine (agree_eat ",").followed fun b n hn => .atPunctuator fun c _ => ?_
  apply (agree_listIf _ (agree_withIn (h.assignment (by omega))).weaken).followed
  intro options q hq
  refine (agree_eat ",").followed fun _ u hu => (agree_eat ")").followed fun b v hv => ?_
  refine (agree_failIf _ start).stay fun _ => ?_
  exact agree_node_behind (by omega) .importCall start (source :: options)

theorem agree_importExpression (h : Below d m rules rules') (hpos : 0 < r) (hm : 2 * r ≤ m) :
    Agree d r (importExpression rules) (importExpression rules') (shorter r) := by
  refine .tokenStart fun start => .bump hpos fun k hk => .lexeme fun l hl => ?_
  split
  · refine .bump (hl nofun) fun j hj => .lexeme fun l hl => ?_
    split
    · exact .bump (hl nofun) fun i hi => agree_node_behind (by omega) .metaProperty start []
    · exact .bump (hl nofun) fun i hi => (agree_importCall h (by omega) start).sooner (by omega)
    · exact .bump (hl nofun) fun i hi => (agree_importCall h (by omega) start).sooner (by omega)
    · exact .fail start
  · exact (agree_importCall h (by omega) start).sooner (by omega)
  · exact agree_unexpected

theorem agree_regexLiteral (hpos : 0 < r) :
    Agree d r regexLiteral regexLiteral (shorter r) := by
  refine .tokenStart fun start => .look (g := id) (fun _ _ => rfl) (fun _ _ => rfl) ?_
  intro s t hst hr
  have hroom : 0 < s.room := hr ▸ hpos
  have hrest : s.origin.rest ≠ [] := List.ne_nil_of_length_pos hroom
  rw [id, id, hst.origin, hst.afterNewline, Cursor.move_scanRegex]
  refine (agree_load hr hpos (Cursor.scanRegex_after hrest _)
    (Cursor.scanRegex_shortens hrest _)).followed fun _ k hk => ?_
  exact agree_skip.bind fun _ j hj hlt => agree_node_behind (by omega) .literal start []

theorem agree_keywordExpression (hpos : 0 < r) (shape : Shape) :
    Agree d r (keywordExpression shape) (keywordExpression (move d shape)) (shorter r) :=
  .tokenStart fun start => .bump hpos fun _ hk => agree_node_behind hk shape start []

theorem agree_arguments (h : Below d m rules rules') (hm : 2 * r ≤ m) :
    Agree d r (arguments rules) (arguments rules') (shorter r) := by
  refine (agree_expect "(").advance fun _ k hk => ?_
  apply (Agree.within (fun _ _ => rfl) (agree_commaList ")" fun j hj =>
    (agree_spreadOrAssignment h (by omega)).weaken)).followed
  rintro ⟨parts, comma?⟩ j hj
  exact (agree_expect ")").advance fun _ i hi => .pure (a := parts) (by omega)

/-! ## Members and calls -/

theorem agree_memberName : Agree d r memberName memberName (shorter r) := by
  refine .lexeme fun l _ => ?_
  cases l with
  | privateName name => exact agree_privateName
  | _ => exact agree_identifierName

theorem agree_computedMember (h : Below d m rules rules') (hm : 2 * r + 1 < m) (start : Nat)
    (object : Node) :
    Agree d r (computedMember rules start object)
      (computedMember rules' (start + d) (move d object)) (shorter r) := by
  refine agree_bump.followed fun _ k hk => ?_
  refine (agree_withIn (agree_expression h (by omega))).advance fun key j hj => ?_
  refine (agree_expect "]").advance fun _ i hi => ?_
  exact agree_node_behind (by omega) .member start [object, key]

theorem agree_memberRest (h : Below d m rules rules') (hm : 2 * r + 1 < m) (start : Nat)
    (object : Node) (optional : Bool) :
    Agree d r (memberRest rules start object optional)
      (memberRest rules' (start + d) (move d object) optional) anything := by
  refine agree_iterate (object, optional) ?_
  rintro ⟨object, optional⟩ k hk
  have hstop : Agree d k (pure (.inr (object, optional)) : Parser ((Node × Bool) ⊕ (Node × Bool)))
      (pure (.inr (move d object, optional))) (further k) := .done rfl
  have hmember : ∀ j, j < k → ∀ (n : Node) (optional : Bool), Agree d j (do
      return .inl (← node .member start [object, n], optional) :
        Parser ((Node × Bool) ⊕ (Node × Bool))) (do
      return .inl (← node .member (start + d) [move d object, move d n], optional)) (further k) :=
    fun j hj n optional => (agree_node .member start [object, n]).stay fun _ => .again rfl hj
  simp only [move_pair]
  refine .read fun ctx limit => .lexeme fun l hl => ?_
  split
  · refine .bump (hl nofun) fun j hj => agree_memberName.advance fun n i hi => ?_
    exact hmember i (by omega) n optional
  · refine .peek fun ⟨following, span, newline⟩ => ?_
    rw [move_token]
    dsimp only
    split
    · refine .bump (hl nofun) fun j hj => agree_memberName.advance fun n i hi => ?_
      exact hmember i (by omega) n true
    · refine .bump (hl nofun) fun j hj => agree_memberName.advance fun n i hi => ?_
      exact hmember i (by omega) n true
    · refine .ite (fun _ => hstop) fun _ => .bump (hl nofun) fun j hj => ?_
      refine (agree_computedMember h (by omega) start object).advance fun n i hi => ?_
      exact .again rfl (by omega)
    · exact hstop
  · refine .ite (fun _ => hstop) fun _ => ?_
    exact (agree_computedMember h (by omega) start object).advance fun n j hj => .again rfl hj
  · refine .ite (fun _ => ?_) fun _ => hstop
    refine (agree_templateLiteral h (by omega) true).advance fun quasi j hj => ?_
    rw [Node.start_move]
    refine (agree_faultIf optional quasi.start).stay fun _ => ?_
    exact (agree_node .taggedTemplate start [object, quasi]).stay fun n => .again rfl hj

theorem agree_checkSuper (start : Nat) :
    Agree d r (checkSuper start) (checkSuper (start + d)) (still r) := by
  refine .lexeme fun l _ => ?_
  split
  · exact .pure (a := ()) rfl
  · exact .pure (a := ()) rfl
  · exact .pure (a := ()) rfl
  · exact agree_fault start

theorem agree_superExpression (hpos : 0 < r) :
    Agree d r superExpression superExpression (shorter r) :=
  .tokenStart fun start => .bump hpos fun _ hk => (agree_checkSuper start).stay fun _ =>
    agree_node_behind hk .super start []

theorem agree_memberExpression (h : Below d m rules rules') (hm : 2 * r < m) :
    Agree d r (memberExpression rules) (memberExpression rules') (shorter r) := by
  refine .tokenStart fun start => (h.primary hm).advance fun object k hk => ?_
  exact (agree_memberRest h (by omega) start object false).mono fun _ _ hj _ => by omega

theorem agree_callRest (h : Below d m rules rules') (hm : 2 * r + 1 < m) (start : Nat)
    (object : Node) (optional : Bool) :
    Agree d r (callRest rules start object optional)
      (callRest rules' (start + d) (move d object) optional) anything := by
  refine agree_iterate (object, optional) ?_
  rintro ⟨object, optional⟩ k hk
  simp only [move_pair]
  apply (agree_memberRest h (by omega) start object optional).followed
  rintro ⟨object, optional⟩ j hj
  simp only [move_pair]
  refine (agree_eat "?.").followed fun question i hi => .lexeme fun l _ => ?_
  refine .ite (fun _ => ?_) fun _ => .atPunctuator fun b _ => .ite (fun _ => ?_) fun _ => ?_
  · refine (agree_templateLiteral h (by omega) true).advance fun quasi n hn => ?_
    rw [Node.start_move]
    refine (agree_fault quasi.start).stay fun _ => ?_
    exact (agree_node .taggedTemplate start [object, quasi]).stay fun n => .again rfl (by omega)
  · refine (agree_arguments h (by omega)).advance fun parts n hn => ?_
    exact (agree_node .call start (object :: parts)).stay fun n => .again rfl (by omega)
  · exact (agree_unexpectedIf question).stay fun _ => .done rfl

theorem agree_leftHandSide (h : Below d m rules rules') (hm : 2 * r < m) :
    Agree d r (leftHandSide rules) (leftHandSide rules') (shorter r) := by
  refine .tokenStart fun start => ?_
  apply (agree_memberExpression h hm).advance
  rintro ⟨object, optional⟩ k hk
  apply (agree_callRest h (by omega) start object optional).followed
  rintro ⟨object, optional⟩ j hj
  have hchain := agree_node_behind (d := d) (show j < r by omega) .chain start [object]
  have hobject : Agree d j (pure object) (pure (move d object)) (shorter r) := .pure (by omega)
  obtain ⟨shape, span, parts⟩ := object
  simp only [move_pair, move_cons, Node.move_mk] at hchain hobject ⊢
  cases optional with
  | false => exact hobject
  | true =>
    cases shape with
    | member | call => exact hchain
    | _ => exact hobject

theorem agree_optionalArguments (h : Below d m rules rules') (hm : 2 * r ≤ m) :
    Agree d r (optionalArguments rules) (optionalArguments rules') anything :=
  .atPunctuator fun _ _ =>
    .ite (fun _ => (agree_arguments h hm).weaken) fun _ => .pure (a := []) trivial

theorem agree_newExpression (h : Below d m rules rules') (hpos : 0 < r) (hm : 2 * r ≤ m) :
    Agree d r (newExpression rules) (newExpression rules') (shorter r) := by
  refine .tokenStart fun start => .bump hpos fun k hk => (agree_eat ".").followed fun b j hj => ?_
  refine .ite (fun _ => ?_) fun _ => .tokenStart fun calleeStart => ?_
  · refine .atWord fun b _ => (agree_failIf _ start).stay fun _ => ?_
    exact agree_bump.followed fun _ i hi => agree_node_behind (by omega) .metaProperty start []
  · apply (agree_memberExpression h (by omega)).advance
    rintro ⟨callee, optional⟩ i hi
    refine (agree_optionalArguments h (by omega)).followed fun parts n hn => ?_
    rw [callee.shape_move_beq d .importCall nofun nofun]
    refine (agree_faultIf _ calleeStart).stay fun _ => (agree_faultIf optional start).stay ?_
    exact fun _ => agree_node_behind (by omega) .new start (callee :: parts)

theorem agree_primaryExpression (h : Below d m rules rules') (hm : 2 * r ≤ m) :
    Agree d r (primaryExpression rules) (primaryExpression rules') (shorter r) := by
  refine .tokenStart fun start => .lexeme fun l hl => ?_
  cases l with
  | number => exact agree_keywordExpression (hl nofun) .literal
  | string value _ => exact agree_keywordExpression (hl nofun) (.string value)
  | template | templateHead => exact agree_templateLiteral h hm false
  | punctuator p =>
    have hpos := hl nofun
    dsimp only
    split
    · exact agree_parenthesized h hpos hm
    · exact agree_arrayLiteral h hpos hm
    · exact agree_objectLiteral h hpos hm
    · exact agree_regexLiteral hpos
    · exact agree_regexLiteral hpos
    · refine (agree_decorators h hm).followed fun ds k hk => .atWord fun b _ => ?_
      refine .ite (fun _ => ?_) fun _ => agree_unexpected
      exact (agree_classDefinition h (by omega) start ds).sooner hk
    · exact agree_unexpected
  | word name escaped =>
    have hpos := hl nofun
    dsimp only
    split
    · exact agree_keywordExpression hpos .this
    · exact agree_keywordExpression hpos .literal
    · exact agree_keywordExpression hpos .literal
    · exact agree_keywordExpression hpos .literal
    · exact agree_functionDefinition h hm start false .expression
    · exact agree_classDefinition h hm start []
    · exact agree_newExpression h hpos hm
    · exact agree_superExpression hpos
    · exact agree_importExpression h hpos hm
    · refine .peek fun ⟨following, span, newline⟩ => ?_
      rw [move_token]
      dsimp only
      split
      · refine .ite (fun _ => agree_identifierReference) fun _ => .bump hpos fun k hk => ?_
        exact (agree_functionDefinition h (by omega) start true .expression).sooner (by omega)
      · exact agree_identifierReference
    · exact agree_identifierReference
  | _ => exact agree_unexpected

/-! ## Operators -/

/-- A test that only looks, and holds in front of something only. -/
abbrev atSome (r : Nat) : Bool → Nat → Prop := fun b k => k = r ∧ (b = true → 0 < r)

theorem agree_isAwait : Agree d r isAwait isAwait (atSome r) := by
  refine .atWord fun b hb => .ite (fun h => ?_) fun _ => .pure (a := false) ⟨rfl, nofun⟩
  exact .read fun ctx limit => .peek fun t => .pure (a := _) ⟨rfl, fun _ => hb h⟩

theorem agree_awaitExpression (h : Below d m rules rules') (hpos : 0 < r) (hm : 2 * r ≤ m) :
    Agree d r (awaitExpression rules) (awaitExpression rules') (shorter r) := by
  refine .tokenStart fun start => .read fun ctx limit => (agree_faultIf _ start).stay fun _ => ?_
  refine (agree_faultIf _ start).stay fun _ => .bump hpos fun k hk => ?_
  apply (Agree.within (fun _ _ => rfl) (h.unary (by omega))).advance
  intro argument j hj
  exact agree_node_behind (by omega) .await start [argument]

theorem agree_updateExpression (h : Below d m rules rules') (hm : 2 * r < m) :
    Agree d r (updateExpression rules) (updateExpression rules') (shorter r) := by
  refine .tokenStart fun start => .lexeme fun l hl => .ite (fun hoperator => ?_) fun _ => ?_
  · have hpos : 0 < r := hl (by rintro rfl; cases hoperator)
    refine .bump hpos fun k hk => (h.unary (by omega)).advance fun argument j hj => ?_
    refine (agree_checkSimpleTarget argument).stay fun _ => ?_
    exact agree_node_behind (by omega) .update start [argument]
  · refine (agree_leftHandSide h hm).advance fun argument k hk => .lexeme fun l hl => ?_
    refine .afterNewline fun newline => .ite (fun _ => ?_) fun _ => .pure hk
    refine agree_bump.followed fun _ j hj => (agree_checkSimpleTarget argument).stay fun _ => ?_
    exact agree_node_behind (by omega) .update start [argument]

theorem agree_unaryExpression (h : Below d m rules rules') (hm : 2 * r < m) :
    Agree d r (unaryExpression rules) (unaryExpression rules') (shorter r) := by
  refine .tokenStart fun start => .lexeme fun l hl => .ite (fun hoperator => ?_) fun _ => ?_
  · have hpos : 0 < r := hl (by rintro rfl; cases hoperator)
    refine .bump hpos fun k hk => (h.unary (by omega)).advance fun argument j hj => ?_
    exact agree_node_behind (by omega) .unary start [argument]
  · refine agree_isAwait.bind fun b k _ hb => ?_
    obtain ⟨rfl, hpos⟩ := hb
    exact .ite (fun h' => agree_awaitExpression h (hpos h') (by omega)) fun _ =>
      agree_updateExpression h hm

theorem move_eq_logical {shape : Shape} {coalesce : Bool} :
    move d shape = .logical coalesce ↔ shape = .logical coalesce := by
  cases shape <;> first | exact Iff.rfl | exact ⟨nofun, nofun⟩

theorem agree_checkMixing (start : Nat) (coalesce : Bool) (left right : Node) :
    Agree d r (checkMixing start coalesce left right)
      (checkMixing (start + d) coalesce (move d left) (move d right)) (still r) := by
  unfold checkMixing
  rw [Node.shape_move, Node.shape_move]
  split
  case h_1 _ _ other hright =>
    rw [hright]
    exact agree_faultIf _ start
  case h_2 _ _ other hleft hright =>
    split
    case h_1 _ _ other heq => exact absurd (move_eq_logical.1 heq) (hright other)
    case h_2 _ _ other heq _ =>
      cases hleft.symm.trans (move_eq_logical.1 heq)
      exact agree_faultIf _ start
    case h_3 _ _ _ hne => exact absurd (move_eq_logical.2 hleft) (hne other)
  case h_3 _ _ hright hleft =>
    split
    case h_1 _ _ other heq => exact absurd (move_eq_logical.1 heq) (hright other)
    case h_2 _ _ other heq _ => exact absurd (move_eq_logical.1 heq) (hleft other)
    case h_3 => exact .pure (a := ()) rfl

theorem agree_binaryRest (h : Below d m rules rules') (hm : 2 * r ≤ m) (start : Nat)
    (left : Node) (parenthesizedLeft : Bool) (least : Nat) :
    Agree d r (binaryRest rules start left parenthesizedLeft least)
      (binaryRest rules' (start + d) (move d left) parenthesizedLeft least) anything := by
  refine agree_iterate (left, parenthesizedLeft) ?_
  rintro ⟨left, parenthesizedLeft⟩ k hk
  have hstop : Agree d k (pure (.inr left) : Parser ((Node × Bool) ⊕ Node))
      (pure (.inr (move d left))) (further k) := .done rfl
  refine .lexeme fun operator hoperator => ?_
  cases hprecedence : binaryPrecedence? operator with
  | none => exact hstop
  | some precedence =>
    have hpos : 0 < k := hoperator (by rintro rfl; cases hprecedence)
    refine .ite (fun _ => hstop) fun _ => .atWord fun b _ => .read fun ctx limit => ?_
    refine .ite (fun _ => hstop) fun _ => .bump hpos fun j hj => ?_
    refine (h.binary precedence (by omega)).advance fun right i hi => .ite (fun _ => ?_) fun _ => ?_
    · refine (agree_checkMixing start _ left right).stay fun _ => ?_
      exact (agree_node (.logical _) start [left, right]).stay fun n => .again rfl (by omega)
    · rw [left.shape_move_beq d .unary nofun nofun, left.shape_move_beq d .await nofun nofun,
        Node.start_move]
      refine (agree_faultIf _ left.start).stay fun _ => ?_
      exact (agree_node .binary start [left, right]).stay fun n => .again rfl (by omega)

theorem agree_firstOperand (h : Below d m rules rules') (hm : 2 * r < m) :
    Agree d r (firstOperand rules) (firstOperand rules') (shorter r) := by
  have hunary := agree_unaryExpression h hm
  refine .tokenStart fun start => .lexeme fun l hl => ?_
  cases l with
  | privateName name =>
    refine .read fun ctx limit => .ite (fun _ => ?_) fun _ => hunary
    refine agree_privateName.advance fun name k hk => ?_
    refine (agree_expectWord "in").advance fun _ j hj => ?_
    refine (h.binary 8 (by omega)).advance fun right i hi => ?_
    rw [right.shape_move_beq d .privateIn nofun nofun, Node.start_move]
    refine (agree_failIf _ right.start).stay fun _ => ?_
    exact agree_node_behind (by omega) .privateIn start [name, right]
  | _ => exact hunary

theorem agree_binaryExpression (h : Below d m rules rules') (hm : 2 * r < m) (least : Nat) :
    Agree d r (binaryExpression rules least) (binaryExpression rules' least) (shorter r) := by
  refine .tokenStart fun start => .atPunctuator fun parenthesizedLeft _ => ?_
  refine (agree_firstOperand h hm).advance fun left k hk => ?_
  exact (agree_binaryRest h (by omega) start left parenthesizedLeft least).mono
    fun _ _ hj _ => by omega

theorem agree_isYield : Agree d r isYield isYield (atSome r) := by
  refine .atWord fun b hb => .ite (fun h => ?_) fun _ => .pure (a := false) ⟨rfl, nofun⟩
  exact .read fun ctx limit => .peek fun t => .pure (a := _) ⟨rfl, fun _ => hb h⟩

theorem agree_yieldExpression (h : Below d m rules rules') (hpos : 0 < r) (hm : 2 * r ≤ m) :
    Agree d r (yieldExpression rules) (yieldExpression rules') (shorter r) := by
  refine .tokenStart fun start => .read fun ctx limit => .bump hpos fun k hk => ?_
  refine (agree_faultIf _ start).stay fun _ => (agree_faultIf _ start).stay fun _ => ?_
  have hbare : ∀ j, j ≤ k →
      Agree d j (node .yield start []) (node .yield (start + d) []) (shorter r) :=
    fun j hj => agree_node_behind (by omega) .yield start []
  refine .afterNewline fun newline => .ite (fun _ => hbare k (Nat.le_refl k)) fun _ => ?_
  refine (agree_eat "*").followed fun delegate j hj => .lexeme fun l _ => ?_
  refine .ite (fun _ => hbare j hj) fun _ => ?_
  apply (Agree.within (fun _ _ => rfl) (h.assignment (by omega))).advance
  intro argument i hi
  exact agree_node_behind (by omega) .yield start [argument]

theorem agree_conditionalRest (h : Below d m rules rules') (hk : k < r) (hm : 2 * r ≤ m)
    (start : Nat) (test : Node) :
    Agree d k (conditionalRest rules start test) (conditionalRest rules' (start + d) (move d test))
      (shorter r) := by
  refine (agree_eat "?").followed fun b j hj => .ite (fun _ => ?_) fun _ => .pure (by omega)
  refine (agree_withIn (h.assignment (by omega))).advance fun yes i hi => ?_
  refine (agree_expect ":").advance fun _ n hn => ?_
  refine (h.assignment (by omega)).advance fun no l hl => ?_
  exact agree_node_behind (by omega) .conditional start [test, yes, no]

theorem agree_checkAssigned (plain : Bool) (target : Node) :
    Agree d r (checkAssigned plain target) (checkAssigned plain (move d target)) (still r) :=
  .ite (fun _ => agree_checkTarget target) fun _ => agree_checkSimpleTarget target

theorem agree_assignmentRest (h : Below d m rules rules') (hk : k < r) (hm : 2 * r ≤ m)
    (start : Nat) (target : Node) :
    Agree d k (assignmentRest rules start target) (assignmentRest rules' (start + d) (move d target))
      (shorter r) := by
  refine .atPunctuator fun plain _ => (agree_checkAssigned plain target).stay fun _ => ?_
  refine agree_bump.followed fun _ j hj => (h.assignment (by omega)).advance fun value i hi => ?_
  exact agree_node_behind (by omega) (.assignment plain) start [target, value]

theorem isIdentifier_move (n : Node) : (move d n).isIdentifier = n.isIdentifier := by
  obtain ⟨shape, span, parts⟩ := n
  cases shape <;> rfl

theorem agree_assignmentExpression (h : Below d m rules rules') (hm : 2 * r < m) :
    Agree d r (assignmentExpression rules) (assignmentExpression rules') (shorter r) := by
  refine agree_isYield.bind fun b k _ hb => ?_
  obtain ⟨rfl, hpos⟩ := hb
  refine .ite (fun h' => agree_yieldExpression h (hpos h') (by omega)) fun _ => ?_
  refine (agree_parenthesizedArrow? h (by omega)).bind fun arrow? j hj hlt => ?_
  cases arrow? with
  | some arrow => exact .pure (hlt rfl)
  | none =>
    refine (agree_asyncSimpleArrow? h (by omega)).bind fun arrow? i hi hlt => ?_
    cases arrow? with
    | some arrow => exact .pure (Nat.lt_of_lt_of_le (hlt rfl) hj)
    | none =>
      refine .tokenStart fun start => ?_
      refine (agree_binaryExpression h (by omega) 0).advance fun left n hn => ?_
      rw [isIdentifier_move]
      refine .atPunctuator fun b _ => .ite (fun _ => ?_) fun _ => .lexeme fun l _ => ?_
      · exact (agree_simpleArrow h (by omega) start left false).sooner (by omega)
      · exact .ite (fun _ => agree_assignmentRest h (by omega) (by omega) start left) fun _ =>
          agree_conditionalRest h (by omega) (by omega) start left

end ModuleBundler.Script.Parser
