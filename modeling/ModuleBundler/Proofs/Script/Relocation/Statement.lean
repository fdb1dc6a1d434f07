import ModuleBundler.Proofs.Script.Relocation.Expression
import ModuleBundler.Script.Program

/-!
# Statements elsewhere

With all of its productions, the grammar itself agrees, however deep it is unfolded.
-/

namespace ModuleBundler.Script

instance : Movable VariableKind := ⟨fun _ kind => kind⟩

instance : Movable ImportBinding := ⟨fun _ b => b⟩

instance : Movable ImportClause := ⟨fun _ c => c⟩

instance : Movable ExportSpecifier :=
  ⟨fun d s => { source := move d s.source, exported := move d s.exported }⟩

instance : Movable Item where
  move d
    | .statement n => .statement (move d n)
    | .importBindings span clause specifier => .importBindings (move d span) clause specifier
    | .exportAll span exported? specifier =>
      .exportAll (move d span) (move d exported?) specifier
    | .exportFrom span names specifier => .exportFrom (move d span) (move d names) specifier
    | .exportList span names => .exportList (move d span) (move d names)
    | .exportDeclaration span n => .exportDeclaration (move d span) (move d n)
    | .exportDefault span keyword n => .exportDefault (move d span) (move d keyword) (move d n)

namespace Parser

variable {d m r k : Nat} {rules rules' : Rules}

theorem agree_fullExpression (h : Below d m rules rules') (hm : 2 * r + 1 < m) :
    Agree d r (fullExpression rules) (fullExpression rules') (shorter r) :=
  agree_withIn (agree_expression h hm)

theorem beforeMore_atListEnd (close : String) :
    Agree d r (atListEnd close) (atListEnd close) (beforeMore r) := by
  have h : Agree d r (atListEnd close >>= pure) (atListEnd close >>= pure) (beforeMore r) :=
    .atListEnd fun b hb => .pure (a := b) ⟨rfl, hb⟩
  exact h

theorem agree_block (h : Below d m rules rules') (hm : 2 * r + 2 ≤ m) :
    Agree d r (block rules) (block rules') (shorter r) := by
  refine .tokenStart fun start => (agree_expect "\x7b").advance fun _ k hk => ?_
  refine (agree_repeatUntil (fun j => beforeMore_atListEnd "\x7d") fun j hj _ =>
    h.statement false (by omega)).followed fun parts j hj => ?_
  refine (agree_expect "\x7d").advance fun _ i hi => ?_
  exact agree_node_behind (by omega) .block start parts

theorem agree_parenthesizedTest (h : Below d m rules rules') (hm : 2 * r ≤ m) :
    Agree d r (parenthesizedTest rules) (parenthesizedTest rules') (shorter r) := by
  refine (agree_expect "(").advance fun _ k hk => ?_
  refine (agree_fullExpression h (by omega)).advance fun test j hj => ?_
  exact (agree_expect ")").advance fun _ i hi => .pure (by omega)

/-! ## Variables -/

theorem agree_checkInitialized (kind : VariableKind) (declarator : Node) :
    Agree d r (checkInitialized kind declarator) (checkInitialized kind (move d declarator))
      (still r) := by
  unfold checkInitialized
  rw [Node.parts_move]
  match declarator.parts with
  | [] => exact .pure (a := ()) rfl
  | [.mk shape span parts] =>
    rw [move_cons, Node.move_mk]
    cases shape with
    | binding name => exact agree_faultIf _ span.stop
    | _ => exact agree_fault span.start
  | .mk shape span parts :: _ :: _ =>
    rw [move_cons, Node.move_mk]
    cases shape <;> exact .pure (a := ()) rfl

theorem agree_declarator (h : Below d m rules rules') (hm : 2 * r < m) :
    Agree d r (declarator rules) (declarator rules') (shorter r) := by
  refine .tokenStart fun start => (h.bindingTarget hm).advance fun target k hk => ?_
  refine (agree_eat "=").followed fun b j hj => .ite (fun _ => ?_) fun _ => ?_
  · refine (h.assignment (by omega)).advance fun value i hi => ?_
    exact agree_node_behind (by omega) .declarator start [target, value]
  · exact agree_node_behind (by omega) .declarator start [target]

theorem agree_commaSeparated {p p' : Parser Node} (h : ∀ k, k ≤ r → Agree d k p p' (shorter k)) :
    Agree d r (commaSeparated p) (commaSeparated p') (shorter r) := by
  refine (h r (Nat.le_refl r)).advance fun first k hk => ?_
  exact (agree_moreAfterCommas first fun j hj => (h j (by omega)).weaken).mono
    fun _ _ hj _ => by omega

theorem agree_variableKind? : Agree d r variableKind? variableKind? (still r) := by
  refine .lexeme fun l _ => ?_
  split
  · exact .pure (a := some VariableKind.var) rfl
  · exact .pure (a := some VariableKind.let) rfl
  · exact .pure (a := some VariableKind.const) rfl
  · exact .pure (a := none) rfl

theorem agree_variableDeclarator (h : Below d m rules rules') (hm : 2 * r < m)
    (kind : VariableKind) (inLoop : Bool) :
    Agree d r (variableDeclarator rules kind inLoop) (variableDeclarator rules' kind inLoop)
      (shorter r) := by
  refine (agree_declarator h hm).advance fun n k hk => .ite (fun _ => .pure hk) fun _ => ?_
  exact (agree_checkInitialized kind n).stay fun _ => .pure hk

theorem agree_endDeclaration (inLoop : Bool) :
    Agree d r (endDeclaration inLoop) (endDeclaration inLoop) anything :=
  .ite (fun _ => .pure (a := ()) trivial) fun _ => agree_endStatement

theorem agree_variableList (h : Below d m rules rules') (hm : 2 * r < m) (kind : VariableKind)
    (inLoop : Bool) :
    Agree d r (variableList rules kind inLoop) (variableList rules' kind inLoop) (shorter r) := by
  refine .tokenStart fun start => agree_bump.followed fun _ k hk => ?_
  refine (agree_commaSeparated fun j hj =>
    agree_variableDeclarator h (by omega) kind inLoop).advance fun ds j hj => ?_
  refine (agree_endDeclaration inLoop).followed fun _ i hi => ?_
  exact agree_node_behind (by omega) .variableList start ds

theorem agree_variableStatement (h : Below d m rules rules') (hm : 2 * r < m)
    (kind : VariableKind) (single : Bool) :
    Agree d r (variableStatement rules kind single) (variableStatement rules' kind single)
      (shorter r) := by
  refine (agree_variableList h hm kind false).advance fun n k hk => ?_
  rw [Node.start_move]
  exact (agree_faultIf _ n.start).stay fun _ => .pure hk

theorem agree_usingDeclares : Agree d r usingDeclares usingDeclares (still r) := by
  refine .atWord fun b _ => .ite (fun _ => ?_) fun _ => .pure (a := false) rfl
  exact .peek fun t => .pure (a := (_ : Bool)) rfl

theorem agree_awaitUsingDeclares :
    Agree d r awaitUsingDeclares awaitUsingDeclares (still r) := by
  refine .atWord fun b _ => .ite (fun _ => ?_) fun _ => .pure (a := false) rfl
  refine agree_lookahead (agree_skip.followed fun _ k _ => .afterNewline fun newline => ?_)
  exact .ite (fun _ => .pure (a := false) trivial) fun _ => agree_usingDeclares.weaken

theorem isBinding_move (n : Node) : (move d n).isBinding = n.isBinding := by
  obtain ⟨shape, span, parts⟩ := n
  cases shape <;> rfl

theorem isEmpty_move (l : List Node) : (move d l).isEmpty = l.isEmpty := List.isEmpty_map

theorem agree_checkUsing (inLoop : Bool) (declarator : Node) :
    Agree d r (checkUsing inLoop declarator) (checkUsing inLoop (move d declarator)) (still r) := by
  unfold checkUsing
  rw [Node.parts_move]
  cases declarator.parts with
  | nil => exact .pure (a := ()) rfl
  | cons target values =>
    rw [move_cons]
    dsimp only
    rw [isBinding_move, isEmpty_move, Node.start_move]
    exact (agree_faultIf _ _).stay fun _ => agree_faultIf _ _

theorem agree_usingDeclarator (h : Below d m rules rules') (hm : 2 * r < m) (inLoop : Bool) :
    Agree d r (usingDeclarator rules inLoop) (usingDeclarator rules' inLoop) (shorter r) :=
  (agree_declarator h hm).advance fun n _ hk =>
    (agree_checkUsing inLoop n).stay fun _ => .pure hk

theorem agree_usingDeclaration (h : Below d m rules rules') (hm : 2 * r < m) (inLoop : Bool) :
    Agree d r (usingDeclaration rules inLoop) (usingDeclaration rules' inLoop) (shorter r) := by
  refine .tokenStart fun start => (agree_eatWord "await").followed fun _ k hk => ?_
  refine (agree_expectWord "using").advance fun _ j hj => ?_
  refine (agree_commaSeparated fun i hi =>
    agree_usingDeclarator h (by omega) inLoop).advance fun ds i hi => ?_
  refine (agree_endDeclaration inLoop).followed fun _ n hn => ?_
  exact agree_node_behind (by omega) .variableList start ds

/-! ## Simple statements -/

theorem agree_expressionStatement (h : Below d m rules rules') (hm : 2 * r + 2 ≤ m) :
    Agree d r (expressionStatement rules) (expressionStatement rules') (shorter r) := by
  refine .tokenStart fun start => (agree_fullExpression h (by omega)).advance fun e k hk => ?_
  rw [isIdentifier_move]
  refine (agree_onlyIf _ (agree_eat ":") nofun).followed fun b j hj => ?_
  refine .ite (fun _ => ?_) fun _ => agree_endStatement.followed fun _ i hi => ?_
  · refine (h.statement true (by omega)).advance fun body i hi => ?_
    exact agree_node_behind (by omega) .labeled start [e, body]
  · exact agree_node_behind (by omega) .expressionStatement start [e]

theorem agree_letStatement (h : Below d m rules rules') (hm : 2 * r + 2 ≤ m) (single : Bool) :
    Agree d r (letStatement rules single) (letStatement rules' single) (shorter r) := by
  refine .tokenStart fun start => .peek fun ⟨following, span, newline⟩ => ?_
  rw [move_token]
  dsimp only
  have hended : ∀ e k, k < r → Agree d k (do
      endStatement
      node .expressionStatement start [e]) (do
      endStatement
      node .expressionStatement (start + d) [move d e]) (shorter r) := fun e k hk =>
    agree_endStatement.followed fun _ j hj =>
      agree_node_behind (by omega) .expressionStatement start [e]
  refine .ite (fun _ => ?_) fun _ => .ite (fun _ => ?_) fun _ => .ite (fun _ => ?_) fun _ => ?_
  · exact (h.assignment (by omega)).advance hended
  · exact (agree_fullExpression h (by omega)).advance hended
  · exact agree_identifierReference.advance hended
  · exact agree_variableStatement h (by omega) .let single

theorem agree_ifStatement (h : Below d m rules rules') (hpos : 0 < r) (hm : 2 * r + 2 ≤ m) :
    Agree d r (ifStatement rules) (ifStatement rules') (shorter r) := by
  refine .tokenStart fun start => .bump hpos fun k hk => ?_
  refine (agree_parenthesizedTest h (by omega)).advance fun test j hj => ?_
  refine (h.statement true (by omega)).advance fun yes i hi => ?_
  refine (agree_eatWord "else").followed fun b n hn => ?_
  refine (agree_listIf b (h.statement true (by omega)).weaken).followed fun no l hl => ?_
  exact agree_node_behind (by omega) .statement start (test :: yes :: no)

theorem agree_doStatement (h : Below d m rules rules') (hpos : 0 < r) (hm : 2 * r + 2 ≤ m) :
    Agree d r (doStatement rules) (doStatement rules') (shorter r) := by
  refine .tokenStart fun start => .bump hpos fun k hk => ?_
  refine (h.statement true (by omega)).advance fun body j hj => ?_
  refine (agree_expectWord "while").advance fun _ i hi => ?_
  refine (agree_parenthesizedTest h (by omega)).advance fun test n hn => ?_
  refine (agree_eat ";").followed fun _ l hl => ?_
  exact agree_node_behind (by omega) .statement start [body, test]

theorem agree_guardedStatement (h : Below d m rules rules') (hpos : 0 < r) (hm : 2 * r + 2 ≤ m) :
    Agree d r (guardedStatement rules) (guardedStatement rules') (shorter r) := by
  refine .tokenStart fun start => .bump hpos fun k hk => ?_
  refine (agree_parenthesizedTest h (by omega)).advance fun test j hj => ?_
  refine (h.statement true (by omega)).advance fun body i hi => ?_
  exact agree_node_behind (by omega) .statement start [test, body]

theorem agree_optionalLabel : Agree d r optionalLabel optionalLabel anything :=
  .canEndStatement fun _ =>
    .ite (fun _ => .pure (a := ()) trivial) fun _ => agree_labelIdentifier.weaken

theorem agree_jumpStatement (hpos : 0 < r) :
    Agree d r jumpStatement jumpStatement (shorter r) := by
  refine .tokenStart fun start => .bump hpos fun k hk => agree_optionalLabel.followed ?_
  refine fun _ j hj => agree_endStatement.followed fun _ i hi => ?_
  exact agree_node_behind (by omega) .statement start []

theorem agree_returnArgument (h : Below d m rules rules') (hm : 2 * r + 1 < m) :
    Agree d r (returnArgument rules) (returnArgument rules') anything := by
  have hnothing : ∀ k, Agree d k (pure ([] : List Node)) (pure []) anything :=
    fun k => .pure (a := []) trivial
  refine (agree_eat ";").followed fun b k hk => .ite (fun _ => hnothing k) fun _ => ?_
  refine .canEndStatement fun b => .ite (fun _ => hnothing k) fun _ => ?_
  refine (agree_fullExpression h (by omega)).followed fun e j hj => ?_
  exact agree_endStatement.followed fun _ i hi => .pure (a := [e]) trivial

theorem agree_returnStatement (h : Below d m rules rules') (hpos : 0 < r) (hm : 2 * r ≤ m) :
    Agree d r (returnStatement rules) (returnStatement rules') (shorter r) := by
  refine .tokenStart fun start => .bump hpos fun k hk => ?_
  refine (agree_returnArgument h (by omega)).followed fun argument j hj => .read fun ctx limit => ?_
  refine (agree_faultIf _ start).stay fun _ => ?_
  exact agree_node_behind (by omega) .statement start argument

theorem agree_throwStatement (h : Below d m rules rules') (hpos : 0 < r) (hm : 2 * r ≤ m) :
    Agree d r (throwStatement rules) (throwStatement rules') (shorter r) := by
  refine .tokenStart fun start => .bump hpos fun k hk => .afterNewline fun newline => ?_
  refine (agree_faultIf _ start).stay fun _ => ?_
  refine (agree_fullExpression h (by omega)).advance fun argument j hj => ?_
  refine agree_endStatement.followed fun _ i hi => ?_
  exact agree_node_behind (by omega) .statement start [argument]

theorem agree_caseTest (h : Below d m rules rules') (hm : 2 * r + 1 < m) :
    Agree d r (caseTest rules) (caseTest rules') (shorter r) := by
  refine (agree_eatWord "default").bind fun b k hk hb => .ite (fun h => ?_) fun _ => ?_
  · exact .pure (a := []) (hb h)
  refine (agree_eatWord "case").bind fun b j hj hb => .ite (fun _ => ?_) fun _ => agree_unexpected
  exact (agree_fullExpression h (by omega)).advance fun e i hi => .pure (a := [e]) (by omega)

theorem agree_atClauseEnd : Agree d r atClauseEnd atClauseEnd (beforeMore r) := by
  refine .atWord fun _ _ => .atWord fun _ _ => .atPunctuator fun _ _ => .atFinish fun b hb => ?_
  exact .pure (a := (_ : Bool)) ⟨rfl, fun h => hb (Bool.or_eq_false_iff.1 h).2⟩

theorem agree_switchCase (h : Below d m rules rules') (hm : 2 * r + 2 ≤ m) :
    Agree d r (switchCase rules) (switchCase rules') (shorter r) := by
  refine .tokenStart fun start => (agree_caseTest h (by omega)).advance fun test k hk => ?_
  refine (agree_expect ":").advance fun _ j hj => ?_
  refine (agree_repeatUntil (fun i => agree_atClauseEnd) fun i hi _ =>
    h.statement false (by omega)).followed fun body i hi => ?_
  have hnode := agree_node_behind (d := d) (show i < r by omega) .clause start (test ++ body)
  rw [move_append] at hnode
  exact hnode

theorem agree_switchStatement (h : Below d m rules rules') (hpos : 0 < r) (hm : 2 * r + 2 ≤ m) :
    Agree d r (switchStatement rules) (switchStatement rules') (shorter r) := by
  refine .tokenStart fun start => .bump hpos fun k hk => ?_
  refine (agree_parenthesizedTest h (by omega)).advance fun subject j hj => ?_
  refine (agree_expect "\x7b").advance fun _ i hi => ?_
  refine (agree_repeatUntil (fun n => beforeMore_atListEnd "\x7d") fun n hn _ =>
    agree_switchCase h (by omega)).followed fun cases n hn => ?_
  refine (agree_expect "\x7d").advance fun _ l hl => ?_
  exact agree_node_behind (by omega) .statement start (subject :: cases)

theorem agree_catchTarget (h : Below d m rules rules') (hm : 2 * r < m) :
    Agree d r (catchTarget rules) (catchTarget rules') anything := by
  refine (agree_eat "(").followed fun b k hk => .ite (fun _ => ?_) fun _ => ?_
  · refine (h.bindingTarget (by omega)).advance fun t j hj => ?_
    exact (agree_expect ")").advance fun _ i hi => .pure (a := [t]) trivial
  · exact .pure (a := []) trivial

theorem agree_catchClause (h : Below d m rules rules') (hm : 2 * r + 2 ≤ m) :
    Agree d r (catchClause rules) (catchClause rules') (shorter r) := by
  refine .tokenStart fun start => agree_bump.followed fun _ k hk => ?_
  refine (agree_catchTarget h (by omega)).followed fun target j hj => ?_
  refine (agree_block h (by omega)).advance fun body i hi => ?_
  have hnode := agree_node_behind (d := d) (show i < r by omega) .clause start (target ++ [body])
  rw [move_append] at hnode
  exact hnode

theorem agree_tryStatement (h : Below d m rules rules') (hpos : 0 < r) (hm : 2 * r + 2 ≤ m) :
    Agree d r (tryStatement rules) (tryStatement rules') (shorter r) := by
  refine .tokenStart fun start => .bump hpos fun k hk => ?_
  refine (agree_block h (by omega)).advance fun body j hj => .atWord fun b _ => ?_
  refine (agree_listIf b (agree_catchClause h (by omega)).weaken).followed fun handler i hi => ?_
  refine (agree_eatWord "finally").followed fun b n hn => ?_
  refine (agree_listIf b (agree_block h (by omega)).weaken).followed fun finalizer l hl => ?_
  rw [isEmpty_move, isEmpty_move, Node.span_move]
  refine (agree_faultIf _ body.span.stop).stay fun _ => ?_
  have hnode := agree_node_behind (d := d) (show l < r by omega) .statement start
    (body :: handler ++ finalizer)
  rw [move_append, move_cons] at hnode
  exact hnode

/-! ## Loops with `for` -/

theorem agree_countedLoop (h : Below d m rules rules') (hk : k < r) (hm : 2 * r + 2 ≤ m)
    (start : Nat) (awaits : Bool) (init : List Node) :
    Agree d k (countedLoop rules start awaits init)
      (countedLoop rules' (start + d) awaits (move d init)) (shorter r) := by
  refine (agree_expect ";").advance fun _ j hj => .atPunctuator fun b _ => ?_
  refine .atPunctuator fun c _ => ?_
  refine (agree_listIf _ (agree_fullExpression h (by omega)).weaken).followed fun test i hi => ?_
  refine (agree_expect ";").advance fun _ n hn => .atPunctuator fun b _ => ?_
  refine (agree_listIf _ (agree_fullExpression h (by omega)).weaken).followed fun update l hl => ?_
  refine (agree_expect ")").advance fun _ u hu => (agree_faultIf awaits start).stay fun _ => ?_
  refine (h.statement true (by omega)).advance fun body v hv => ?_
  have hnode := agree_node_behind (d := d) (show v < r by omega) .statement start
    (init ++ test ++ update ++ [body])
  rw [move_append, move_append, move_append] at hnode
  exact hnode

theorem agree_iterated (h : Below d m rules rules') (hm : 2 * r + 1 < m) (isIn : Bool) :
    Agree d r (iterated rules isIn) (iterated rules' isIn) (shorter r) :=
  .ite (fun _ => agree_fullExpression h hm) fun _ => agree_withIn (h.assignment hm)

theorem agree_iterationLoop (h : Below d m rules rules') (hk : k < r) (hm : 2 * r + 2 ≤ m)
    (start : Nat) (awaits : Bool) (left : Node) :
    Agree d k (iterationLoop rules start awaits left)
      (iterationLoop rules' (start + d) awaits (move d left)) (shorter r) := by
  refine .atWord fun isIn _ => agree_bump.followed fun _ j hj => ?_
  refine (agree_iterated h (by omega) isIn).advance fun right i hi => ?_
  refine (agree_expect ")").advance fun _ n hn => (agree_faultIf _ start).stay fun _ => ?_
  refine (h.statement true (by omega)).advance fun body l hl => ?_
  exact agree_node_behind (by omega) .statement start [left, right, body]

theorem agree_atIteration : Agree d r atIteration atIteration (still r) :=
  .atWord fun _ _ => .atWord fun _ _ => .pure (a := (_ : Bool)) rfl

theorem agree_declaredLoop (h : Below d m rules rules') (hk : k < r) (hm : 2 * r + 2 ≤ m)
    (start : Nat) (awaits : Bool) (kind : VariableKind) (declaration : Node) :
    Agree d k (declaredLoop rules start awaits kind declaration)
      (declaredLoop rules' (start + d) awaits kind (move d declaration)) (shorter r) := by
  refine agree_atIteration.stay fun b => .ite (fun _ => ?_) fun _ => ?_
  · exact agree_iterationLoop h hk hm start awaits declaration
  · rw [Node.parts_move]
    refine (agree_forM fun n _ => agree_checkInitialized kind n).stay fun _ => ?_
    exact agree_countedLoop h hk hm start awaits [declaration]

theorem agree_loopAwaits : Agree d r loopAwaits loopAwaits anything := by
  refine .atWord fun b _ => .ite (fun _ => ?_) fun _ => .pure (a := false) trivial
  refine .read fun ctx limit => .tokenStart fun start => (agree_faultIf _ start).stay fun _ => ?_
  exact agree_bump.followed fun _ k _ => .pure (a := true) trivial

theorem agree_loopKind? : Agree d r loopKind? loopKind? (still r) := by
  refine .peek fun ⟨following, span, newline⟩ => ?_
  rw [move_token]
  dsimp only
  refine agree_variableKind?.stay fun kind? => ?_
  match kind? with
  | some .let =>
    dsimp only
    split
    · exact .pure (a := some VariableKind.let) rfl
    · exact .pure (a := none) rfl
  | none => exact .pure (a := none) rfl
  | some .var => exact .pure (a := some VariableKind.var) rfl
  | some .const => exact .pure (a := some VariableKind.const) rfl
  | some .using => exact .pure (a := some VariableKind.using) rfl

theorem agree_loopUses : Agree d r loopUses loopUses (still r) := by
  refine agree_awaitUsingDeclares.stay fun b => .ite (fun _ => .pure (a := true) rfl) fun _ => ?_
  exact .peek fun t => agree_usingDeclares.stay fun b => .pure (a := (_ : Bool)) rfl

theorem agree_withoutIn {p p' : Parser Node} {Q : Node → Nat → Prop} (h : Agree d r p p' Q) :
    Agree d r (withoutIn p) (withoutIn p') Q :=
  .within (fun _ _ => rfl) h

theorem agree_expressionLoop (h : Below d m rules rules') (hk : k < r) (hm : 2 * r + 2 ≤ m)
    (start : Nat) (awaits : Bool) :
    Agree d k (expressionLoop rules start awaits) (expressionLoop rules' (start + d) awaits)
      (shorter r) := by
  refine .tokenStart fun left => .atWord fun isLet _ => .lexeme fun l _ => ?_
  refine (agree_withoutIn (agree_expression h (by omega))).advance fun init j hj => ?_
  refine agree_atIteration.stay fun b => .ite (fun _ => ?_) fun _ => ?_
  · refine (agree_checkTarget init).stay fun _ => .atWord fun b _ => ?_
    rw [init.shape_move_beq d (.identifier "async") nofun nofun]
    refine (agree_faultIf _ left).stay fun _ => ?_
    exact agree_iterationLoop h (by omega) hm start awaits init
  · exact agree_countedLoop h (by omega) hm start awaits [init]

theorem agree_forStatement (h : Below d m rules rules') (hpos : 0 < r) (hm : 2 * r + 2 ≤ m) :
    Agree d r (forStatement rules) (forStatement rules') (shorter r) := by
  refine .tokenStart fun start => .bump hpos fun k hk => agree_loopAwaits.followed ?_
  refine fun awaits j hj => (agree_expect "(").advance fun _ i hi => .atPunctuator fun b _ => ?_
  refine .atPunctuator fun c _ => .ite (fun _ => ?_) fun _ => agree_loopKind?.stay fun kind? => ?_
  · exact agree_countedLoop h (by omega) hm start awaits []
  cases kind? with
  | some kind =>
    refine (agree_withoutIn (agree_variableList h (by omega) kind true)).advance ?_
    exact fun n l hl => agree_declaredLoop h (by omega) hm start awaits kind n
  | none =>
    refine agree_loopUses.stay fun b => .ite (fun _ => ?_) fun _ => ?_
    · refine (agree_withoutIn (agree_usingDeclaration h (by omega) true)).advance ?_
      exact fun n l hl => agree_declaredLoop h (by omega) hm start awaits .using n
    · exact agree_expressionLoop h (by omega) hm start awaits

/-! ## Declarations -/

theorem agree_functionStatement (h : Below d m rules rules') (hm : 2 * r ≤ m) (start : Nat)
    (async single : Bool) :
    Agree d r (functionStatement rules start async single)
      (functionStatement rules' (start + d) async single) (shorter r) := by
  refine .peek fun ⟨following, span, newline⟩ => ?_
  rw [move_token]
  refine (agree_functionDefinition h hm start async .declaration).advance fun n k hk => ?_
  rw [Node.start_move]
  exact (agree_faultIf _ n.start).stay fun _ => .pure hk

theorem agree_classStatement (h : Below d m rules rules') (hm : 2 * r ≤ m) (start : Nat)
    (ds : List Node) (single : Bool) :
    Agree d r (classStatement rules start ds single)
      (classStatement rules' (start + d) (move d ds) single) (shorter r) := by
  refine (agree_classDefinition h hm start ds).advance fun n k hk => ?_
  rw [Node.start_move]
  exact (agree_faultIf _ n.start).stay fun _ => .pure hk

theorem agree_atAsyncFunction : Agree d r atAsyncFunction atAsyncFunction (still r) := by
  refine .atWord fun b _ => .ite (fun _ => ?_) fun _ => .pure (a := false) rfl
  refine .peek fun ⟨following, span, newline⟩ => ?_
  rw [move_token]
  dsimp only
  split
  · exact .pure (a := (_ : Bool)) rfl
  · exact .pure (a := false) rfl

/-! ## Imports and exports -/

theorem agree_attributeKey : Agree d r attributeKey attributeKey (shorter r) := by
  refine .lexeme fun l _ => ?_
  cases l with
  | string value wellFormed =>
    exact agree_stringLiteral.advance fun (value, _, _) k hk => .pure (a := value) hk
  | _ => exact agree_takeWord

theorem agree_importAttribute : Agree d r importAttribute importAttribute (shorter r) := by
  refine .tokenStart fun start => agree_attributeKey.advance fun key k hk => ?_
  refine (agree_expect ":").advance fun _ j hj => agree_stringLiteral.advance fun _ i hi => ?_
  exact .pure (a := (key, start)) (by omega)

theorem agree_checkAttributes (keys : List (String × Nat)) :
    Agree d r (checkAttributes keys) (checkAttributes (move d keys)) (still r) := by
  induction keys with
  | nil => exact .pure (a := ()) rfl
  | cons key keys ih =>
    obtain ⟨key, start⟩ := key
    have hany : (move d keys).any (·.1 == key) = keys.any (·.1 == key) := List.any_map
    rw [move_cons, move_pair, checkAttributes, checkAttributes]
    change Agree d r _ (faultIf ((move d keys).any (·.1 == key)) (start + d) >>= _) _
    rw [hany]
    exact (agree_faultIf _ start).stay fun _ => ih

theorem agree_importAttributes :
    Agree d r importAttributes importAttributes anything := by
  refine .atWord fun _ _ => .atWord fun _ _ => .afterNewline fun _ => ?_
  refine .ite (fun _ => ?_) fun _ => .pure (a := ()) trivial
  refine agree_skip.followed fun _ k _ => (agree_expect "\x7b").advance fun _ j _ => ?_
  apply (agree_commaList "\x7d" fun i _ => agree_importAttribute.weaken).followed
  rintro ⟨keys, comma?⟩ i -
  exact (agree_expect "\x7d").advance fun _ n _ => (agree_checkAttributes keys).weaken

theorem bindingName_move (n : Node) : bindingName (move d n) = bindingName n := by
  obtain ⟨shape, span, parts⟩ := n
  cases shape <;> rfl

theorem agree_importSpecifier : Agree d r importSpecifier importSpecifier (shorter r) := by
  refine .peek fun ⟨following, span, newline⟩ => ?_
  rw [move_token]
  dsimp only
  split
  · refine agree_exportName.advance fun (imported, quoted) k hk => ?_
    refine agree_bump.followed fun _ j hj => agree_bindingIdentifier.advance fun bound i hi => ?_
    rw [bindingName_move]
    exact .pure (a := ImportBinding.mk imported.name (bindingName bound)) (by omega)
  · refine agree_bindingIdentifier.advance fun bound k hk => ?_
    rw [bindingName_move]
    exact .pure (a := ImportBinding.mk (bindingName bound) (bindingName bound)) hk

theorem agree_importBindings (clause : ImportClause) :
    Agree d r (importBindings clause) (importBindings clause) anything := by
  refine .atPunctuator fun b _ => .ite (fun _ => ?_) fun _ => .atPunctuator fun b _ => ?_
  · refine agree_bump.followed fun _ k _ => (agree_expectWord "as").advance fun _ j _ => ?_
    refine agree_bindingIdentifier.advance fun bound i _ => ?_
    rw [bindingName_move]
    exact .pure (a := { clause with namespaceName? := some (bindingName bound) })
      (Q := anything) trivial
  refine .ite (fun _ => agree_bump.followed fun _ k _ => ?_) fun _ => agree_unexpected
  apply (agree_commaList "\x7d" fun j _ => agree_importSpecifier.weaken).followed
  rintro ⟨named, comma?⟩ j -
  have hnamed : move d named = named := List.map_id named
  rw [move_pair, hnamed]
  exact (agree_expect "\x7d").advance fun _ i _ =>
    .pure (a := { clause with named }) (Q := anything) trivial

theorem agree_boundAfter (first : Lexeme) (bound : Node) :
    Agree d r (boundAfter first bound) (boundAfter first (move d bound)) anything := by
  refine .peek fun ⟨following, span, newline⟩ => .atWord fun isFrom _ => .lexeme fun l _ => ?_
  rw [move_token]
  exact .ite (fun _ => agree_bindingIdentifier.weaken) fun _ => .pure trivial

theorem agree_importClause : Agree d r importClause importClause anything := by
  refine .atPunctuator fun _ _ => .atPunctuator fun _ _ => ?_
  refine .ite (fun _ => agree_importBindings {}) fun _ => .lexeme fun l _ => ?_
  refine (agree_unexpectedIf _).stay fun _ => .lexeme fun first _ => ?_
  refine agree_bindingIdentifier.advance fun bound k _ => .atPunctuator fun b _ => ?_
  refine .ite (fun _ => agree_importBindings {}) fun _ => ?_
  refine (agree_boundAfter first bound).followed fun bound j _ => ?_
  rw [bindingName_move]
  refine (agree_eat ",").followed fun b i _ => ?_
  exact .ite (fun _ => agree_importBindings _) fun _ =>
    .pure (a := ({ defaultName? := some (bindingName bound) } : ImportClause)) trivial

theorem agree_optionalClause : Agree d r optionalClause optionalClause anything := by
  refine .lexeme fun l _ => ?_
  have hclause : Agree d r (do
      let c ← importClause
      expectWord "from"
      pure c) (do
      let c ← importClause
      expectWord "from"
      pure c) anything :=
    agree_importClause.followed fun c k _ => (agree_expectWord "from").advance fun _ j _ =>
      .pure (a := c) trivial
  cases l with
  | string value wellFormed => exact .pure (a := ({} : ImportClause)) trivial
  | _ => exact hclause

theorem agree_importDeclaration :
    Agree d r importDeclaration importDeclaration (shorter r) := by
  refine .tokenStart fun start => agree_bump.followed fun _ k hk => ?_
  refine agree_optionalClause.followed fun clause j hj => ?_
  refine agree_stringLiteral.advance fun (specifier, _, _) i hi => ?_
  refine agree_importAttributes.followed fun _ n hn => agree_endStatement.followed fun _ l hl => ?_
  exact .previousStop fun stop =>
    .pure (a := Item.importBindings ⟨start, stop⟩ clause specifier) (by omega)

theorem agree_exportAlias? : Agree d r exportAlias? exportAlias? anything := by
  refine (agree_eatWord "as").followed fun b k _ => .ite (fun _ => ?_) fun _ => ?_
  · exact agree_exportName.advance fun (name, _) j _ => .pure (a := some name) trivial
  · exact .pure (a := none) trivial

theorem agree_exportAllDeclaration (start : Nat) :
    Agree d r (exportAllDeclaration start) (exportAllDeclaration (start + d)) (shorter r) := by
  refine agree_bump.followed fun _ k hk => agree_exportAlias?.followed fun exported? j hj => ?_
  refine (agree_expectWord "from").advance fun _ i hi => ?_
  refine agree_stringLiteral.advance fun (specifier, _, _) n hn => ?_
  refine agree_importAttributes.followed fun _ l hl => agree_endStatement.followed fun _ u hu => ?_
  exact .previousStop fun stop =>
    .pure (a := Item.exportAll ⟨start, stop⟩ exported? specifier) (by omega)

theorem agree_checkLocalName (name : SourceName) (quoted : Bool) :
    Agree d r (checkLocalName name quoted) (checkLocalName (move d name) quoted) (still r) :=
  agree_faultIf _ name.start

theorem agree_exportSpecifier :
    Agree d r exportSpecifier exportSpecifier (shorter r) := by
  refine agree_exportName.advance fun (source, quoted) k hk => ?_
  refine agree_exportAlias?.followed fun alias? j hj => ?_
  have halias : (move d alias?).getD (move d source) = move d (alias?.getD source) := by
    cases alias? <;> rfl
  simp only [halias]
  exact .pure (a := (quoted, ExportSpecifier.mk source (alias?.getD source))) (by omega)

theorem agree_exportNames (start : Nat) :
    Agree d r (exportNames start) (exportNames (start + d)) (shorter r) := by
  refine agree_bump.followed fun _ k hk => ?_
  apply (agree_commaList "\x7d" fun j _ => agree_exportSpecifier.weaken).followed
  rintro ⟨names, comma?⟩ j hj
  have hnames : (move d names).map Prod.snd = move d (names.map Prod.snd) := by
    simp only [move, List.map_map]
    rfl
  rw [move_pair]
  dsimp only
  rw [hnames]
  refine (agree_expect "\x7d").advance fun _ i hi => (agree_eatWord "from").followed ?_
  refine fun b n hn => .lexeme fun l _ => .ite (fun _ => ?_) fun _ => ?_
  · refine agree_stringLiteral.advance fun (specifier, _, _) l hl => ?_
    refine agree_importAttributes.followed fun _ u hu => agree_endStatement.followed ?_
    exact fun _ v hv => .previousStop fun stop =>
      .pure (a := Item.exportFrom ⟨start, stop⟩ (names.map Prod.snd) specifier) (by omega)
  · refine (agree_forM fun (quoted, name) _ => agree_checkLocalName name.source quoted).stay ?_
    refine fun _ => agree_endStatement.followed fun _ l hl => .previousStop fun stop => ?_
    exact .pure (a := Item.exportList ⟨start, stop⟩ (names.map Prod.snd)) (by omega)

theorem agree_ownDecorators (h : Below d m rules rules') (hm : 2 * r ≤ m) (ds : List Node) :
    Agree d r (ownDecorators rules ds) (ownDecorators rules' (move d ds)) anything := by
  refine (agree_decorators h hm).followed fun own k hk => ?_
  have hfirst : (if (move d ds).isEmpty then none else (move d own).head?.map Node.start) =
      move d (if ds.isEmpty then none else own.head?.map Node.start) := by
    rw [isEmpty_move]
    cases ds.isEmpty <;> cases own <;> simp
  rw [hfirst]
  exact (agree_faultAt? _).stay fun _ => .pure trivial

theorem agree_defaultDeclared (h : Below d m rules rules') (hm : 2 * r + 2 ≤ m)
    (ds : List Node) :
    Agree d r (defaultDeclared rules ds) (defaultDeclared rules' (move d ds)) (shorter r) := by
  refine .tokenStart fun start => (agree_ownDecorators h (by omega) ds).followed ?_
  refine fun own k hk => .atWord fun b _ => .ite (fun _ => ?_) fun _ => ?_
  · exact (agree_classDefinition h (by omega) start own).sooner hk
  rw [isEmpty_move]
  refine (agree_unexpectedIf _).stay fun _ => .atWord fun b _ => .ite (fun _ => ?_) fun _ => ?_
  · exact (agree_functionDefinition h (by omega) start false .defaultExport).sooner hk
  refine agree_atAsyncFunction.stay fun b => .ite (fun _ => ?_) fun _ => ?_
  · refine agree_bump.followed fun _ j hj => ?_
    exact (agree_functionDefinition h (by omega) start true .defaultExport).sooner (by omega)
  · refine (agree_withIn (h.assignment (by omega))).advance fun e j hj => ?_
    exact agree_endStatement.followed fun _ i hi => .pure (by omega)

theorem agree_exportDefaultDeclaration (h : Below d m rules rules') (hm : 2 * r + 2 ≤ m)
    (start : Nat) (ds : List Node) :
    Agree d r (exportDefaultDeclaration rules start ds)
      (exportDefaultDeclaration rules' (start + d) (move d ds)) (shorter r) := by
  refine .tokenStart fun keyword => agree_bump.followed fun _ k hk => ?_
  refine (agree_defaultDeclared h (by omega) ds).advance fun n j hj => .previousStop fun stop => ?_
  exact .pure (a := Item.exportDefault ⟨start, stop⟩ keyword n) (by omega)

theorem agree_faults (ds : List Node) :
    Agree d r (ds.forM fun n => fault n.start) ((move d ds).forM fun n => fault n.start)
      (still r) := by
  refine agree_forM fun n _ => ?_
  rw [Node.start_move]
  exact agree_fault _

theorem agree_declared (h : Below d m rules rules') (hm : 2 * r + 2 ≤ m) (ds : List Node) :
    Agree d r (declared rules ds) (declared rules' (move d ds)) (shorter r) := by
  refine .tokenStart fun start => (agree_ownDecorators h (by omega) ds).followed ?_
  refine fun own k hk => .atWord fun b _ => .ite (fun _ => ?_) fun _ => ?_
  · exact (agree_classDefinition h (by omega) start own).sooner hk
  rw [← move_append]
  refine (agree_faults (ds ++ own)).stay fun _ => agree_variableKind?.stay fun kind? => ?_
  cases kind? with
  | some kind => exact (agree_variableList h (by omega) kind false).sooner hk
  | none =>
    refine .atWord fun b _ => .ite (fun _ => ?_) fun _ => agree_atAsyncFunction.stay fun b => ?_
    · exact (agree_functionDefinition h (by omega) start false .declaration).sooner hk
    refine .ite (fun _ => agree_bump.followed fun _ j hj => ?_) fun _ => agree_unexpected
    exact (agree_functionDefinition h (by omega) start true .declaration).sooner (by omega)

theorem agree_exportedDeclaration (h : Below d m rules rules') (hm : 2 * r + 2 ≤ m)
    (start : Nat) (ds : List Node) :
    Agree d r (exportedDeclaration rules start ds)
      (exportedDeclaration rules' (start + d) (move d ds)) (shorter r) :=
  (agree_declared h hm ds).advance fun n _ hk => .previousStop fun stop =>
    .pure (a := Item.exportDeclaration ⟨start, stop⟩ n) hk

theorem agree_exportDeclaration (h : Below d m rules rules') (hm : 2 * r + 2 ≤ m)
    (ds : List Node) :
    Agree d r (exportDeclaration rules ds) (exportDeclaration rules' (move d ds)) (shorter r) := by
  refine .tokenStart fun start => agree_bump.followed fun _ k hk => .lexeme fun l _ => ?_
  split
  · exact (agree_exportDefaultDeclaration h (by omega) start ds).sooner hk
  · exact (agree_exportAllDeclaration start).sooner hk
  · exact (agree_exportNames start).sooner hk
  · exact (agree_exportedDeclaration h (by omega) start ds).sooner hk

/-! ## Any statement -/

theorem attach_move (ds : List Node) (n : Node) :
    decoratedStatement.attach (move d ds) (move d n) = move d (decoratedStatement.attach ds n) := by
  obtain ⟨shape, span, parts⟩ := n
  rw [Node.move_mk]
  cases shape
  case classDefinition name? =>
    change Node.mk (.classDefinition (move d name?)) (move d span) (move d ds ++ move d parts) =
      move d (Node.mk (.classDefinition name?) span (ds ++ parts))
    rw [Node.move_mk, move_append]
    rfl
  all_goals exact (Node.move_mk d _ span parts).symm

theorem agree_asStatement {p p' : Parser Node} (h : Agree d k p p' (shorter r)) :
    Agree d k (do return Item.statement (← p)) (do return Item.statement (← p')) (shorter r) :=
  h.bind fun n _ _ hk => .pure (a := Item.statement n) hk

theorem agree_decoratedStatement (h : Below d m rules rules') (hm : 2 * r + 2 ≤ m)
    (single : Bool) :
    Agree d r (decoratedStatement rules single) (decoratedStatement rules' single) (shorter r) := by
  refine .tokenStart fun start => (agree_decorators h (by omega)).followed fun ds k hk => ?_
  refine .atWord fun b _ => .ite (fun _ => ?_) fun _ => .atWord fun b _ => ?_
  · refine (agree_exportDeclaration h (by omega) ds).advance fun item j hj => ?_
    cases item with
    | exportDeclaration span n =>
      have hitem : Agree d j (pure (Item.exportDeclaration span (decoratedStatement.attach ds n)))
          (pure (.exportDeclaration (move d span) (move d (decoratedStatement.attach ds n))))
          (shorter r) := .pure (by omega)
      rw [← attach_move] at hitem
      exact hitem
    | exportDefault span keyword n =>
      have hitem : Agree d j (pure (Item.exportDefault span keyword (decoratedStatement.attach ds n)))
          (pure (.exportDefault (move d span) (keyword + d)
            (move d (decoratedStatement.attach ds n)))) (shorter r) := .pure (by omega)
      rw [← attach_move] at hitem
      exact hitem
    | _ => exact .pure (by omega)
  · refine .ite (fun _ => agree_asStatement ?_) fun _ => agree_unexpected
    exact (agree_classStatement h (by omega) start ds single).sooner hk

theorem agree_statementItem (h : Below d m rules rules') (hm : 2 * r + 2 ≤ m) (single : Bool) :
    Agree d r (statementItem rules single) (statementItem rules' single) (shorter r) := by
  have hexpression := agree_asStatement (agree_expressionStatement h hm)
  refine .tokenStart fun start => .lexeme fun l hl => ?_
  split
  · exact agree_asStatement (agree_block h hm)
  · exact .bump (hl nofun) fun k hk => agree_asStatement (agree_node_behind hk .statement start [])
  · exact agree_decoratedStatement h hm single
  · have hpos := hl nofun
    split
    · exact agree_asStatement (agree_ifStatement h hpos hm)
    · exact agree_asStatement (agree_doStatement h hpos hm)
    · exact agree_asStatement (agree_guardedStatement h hpos hm)
    · exact agree_asStatement (agree_guardedStatement h hpos hm)
    · exact agree_asStatement (agree_forStatement h hpos hm)
    · exact agree_asStatement (agree_jumpStatement hpos)
    · exact agree_asStatement (agree_jumpStatement hpos)
    · exact agree_asStatement (agree_switchStatement h hpos hm)
    · exact agree_asStatement (agree_throwStatement h hpos (by omega))
    · exact agree_asStatement (agree_tryStatement h hpos hm)
    · exact .bump hpos fun k hk => agree_endStatement.followed fun _ j hj =>
        agree_asStatement (agree_node_behind (by omega) .statement start [])
    · exact agree_asStatement (agree_classStatement h (by omega) start [] single)
    · exact agree_asStatement (agree_functionStatement h (by omega) start false single)
    · exact agree_asStatement (agree_returnStatement h hpos (by omega))
    · exact agree_asStatement (agree_variableStatement h (by omega) .var single)
    · exact agree_asStatement (agree_variableStatement h (by omega) .const single)
    · exact .ite (fun _ => hexpression) fun _ => agree_asStatement (agree_letStatement h hm single)
    · exact agree_usingDeclares.stay fun b => .ite
        (fun _ => agree_asStatement (agree_usingDeclaration h (by omega) false)) fun _ => hexpression
    · exact agree_awaitUsingDeclares.stay fun b => .ite
        (fun _ => agree_asStatement (agree_usingDeclaration h (by omega) false)) fun _ => hexpression
    · refine agree_atAsyncFunction.stay fun b => .ite (fun _ => ?_) fun _ => hexpression
      exact .bump hpos fun k hk => agree_asStatement
        ((agree_functionStatement h (by omega) start true single).sooner (by omega))
    · refine .peek fun ⟨following, span, newline⟩ => ?_
      rw [move_token]
      dsimp only
      split
      · exact hexpression
      · exact hexpression
      · exact agree_importDeclaration
    · exact agree_exportDeclaration h hm []
    · exact hexpression
  · exact hexpression

theorem agree_statementNode (h : Below d m rules rules') (hm : 2 * r + 2 ≤ m) (single : Bool) :
    Agree d r (statementNode rules single) (statementNode rules' single) (shorter r) := by
  refine .tokenStart fun start => (agree_statementItem h hm single).advance fun item k hk => ?_
  cases item with
  | statement n => exact .pure hk
  | exportDeclaration span n => exact agree_node_behind hk .moduleDeclaration start [n]
  | exportDefault span keyword n => exact agree_node_behind hk .moduleDeclaration start [n]
  | _ => exact agree_node_behind hk .moduleDeclaration start []

theorem agree_production (h : Below d m rules rules') (x : Nonterminal) (hm : 2 * r + x.rank ≤ m) :
    Agree d r (production rules x) (production rules' x) (shorter r) := by
  cases x with
  | statement single => exact agree_statementNode h hm single
  | assignment => exact agree_assignmentExpression h hm
  | binary precedence => exact agree_binaryExpression h hm precedence
  | unary => exact agree_unaryExpression h hm
  | primary => exact agree_primaryExpression h hm
  | leftHandSide => exact agree_leftHandSide h hm
  | bindingTarget => exact agree_bindingTarget h hm

/-- Two unfoldings of the grammar agree where both are deep enough for what is to go. -/
theorem below_grammar (n n' : Nat) : Below d (min n n') (grammar n) (grammar n') := by
  induction n generalizing n' with
  | zero => intro x k hk; omega
  | succ n ih =>
    intro x k hk
    cases n' with
    | zero => omega
    | succ n' => exact agree_production (ih n') x (by omega)

end Parser

end ModuleBundler.Script
