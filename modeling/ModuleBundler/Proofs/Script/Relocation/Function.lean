import ModuleBundler.Proofs.Script.Relocation.Pattern

/-!
# Functions and classes elsewhere
-/

namespace ModuleBundler.Script

instance : Movable Answer := ⟨fun _ a => a⟩

instance : Movable Modifiers := ⟨fun _ m => m⟩

namespace Parser

variable {d m r k : Nat} {rules rules' : Rules}

theorem agree_canFollowModifier :
    Agree d r canFollowModifier canFollowModifier (still r) := by
  refine .lexeme fun l _ => ?_
  cases l <;> exact .pure (a := (_ : Bool)) rfl

theorem agree_eatModifier (word : String) (sameLine : Bool) :
    Agree d r (eatModifier word sameLine) (eatModifier word sameLine)
      fun b k => b = true → k < r := by
  refine .atWord fun b hb => ?_
  cases b with
  | false => exact .pure (a := false) nofun
  | true =>
    refine Agree.stay (agree_lookahead (agree_skip.followed fun _ k _ => ?_)) fun follows => ?_
    · refine .afterNewline fun b => .ite (fun _ => .pure (a := false) trivial) fun _ => ?_
      exact agree_canFollowModifier.weaken
    · refine .ite (fun _ => ?_) fun _ => .pure (a := false) nofun
      exact .bump (hb rfl) fun k hk => .pure (a := true) fun _ => hk

theorem agree_decorator (h : Below d m rules rules') (hpos : 0 < r) (hm : 2 * r ≤ m) :
    Agree d r (decorator rules) (decorator rules') (shorter r) := by
  refine .tokenStart fun start => .bump hpos fun k hk => ?_
  apply (Agree.within (fun _ _ => rfl) (h.leftHandSide (by omega))).advance
  intro expression j hj
  exact agree_node_behind (by omega) .decorator start [expression]

theorem agree_decorators (h : Below d m rules rules') (hm : 2 * r ≤ m) :
    Agree d r (decorators rules) (decorators rules') anything := by
  refine agree_repeatUntil (fun k => ?_) fun k hk hpos => agree_decorator h hpos (by omega)
  exact .atPunctuator fun b hb => .pure (a := !b) ⟨rfl, fun h => hb (by simpa using h)⟩

/-! ## Parameters and bodies -/

theorem agree_parameter (h : Below d m rules rules') (hm : 2 * r < m) :
    Agree d r (parameter rules) (parameter rules') (shorter r) := by
  refine .tokenStart fun start => (agree_decorators h (by omega)).followed fun ds k hk => ?_
  cases ds with
  | nil => exact (agree_bindingElement h (by omega)).sooner hk
  | cons n ds =>
    apply (agree_bindingElement h (by omega)).advance
    intro target j hj
    have hnode := agree_node_behind (d := d) (show j < r by omega) .patternProperty start
      (n :: ds ++ [target])
    simp only [move_append, move_cons, move_nil] at hnode
    exact hnode

theorem agree_parameters (h : Below d m rules rules') (hm : 2 * r ≤ m) :
    Agree d r (parameters rules) (parameters rules') (shorter r) := by
  refine .within (fun _ _ => rfl) (.tokenStart fun start => ?_)
  refine (agree_expect "(").advance fun _ k hk => ?_
  apply (agree_commaListWithRest ")" (fun j hj => (agree_parameter h (by omega)).weaken)
    fun j hj hpos => (agree_restElement h hpos (by omega)).weaken).followed
  intro parts j hj
  refine (agree_expect ")").advance fun _ i hi => ?_
  exact agree_node_behind (by omega) .parameters start parts

theorem agree_statements (h : Below d m rules rules') (hm : 2 * r + 2 < m) :
    Agree d r (statements rules) (statements rules') anything := by
  refine agree_repeatUntil (fun k => ?_) fun k hk _ => h.statement false (by omega)
  refine .atPunctuator fun b _ => .atFinish fun c hc => .pure (a := b || c) ⟨rfl, fun h => hc ?_⟩
  exact (Bool.or_eq_false_iff.1 h).2

theorem agree_functionBody (h : Below d m rules rules') (hm : 2 * r < m) :
    Agree d r (functionBody rules) (functionBody rules') (shorter r) := by
  refine .within (fun _ _ => rfl) (.tokenStart fun start => ?_)
  refine (agree_expect "\x7b").advance fun _ k hk => ?_
  refine (agree_statements h (by omega)).followed fun parts j hj => ?_
  refine (agree_expect "\x7d").advance fun _ i hi => ?_
  exact agree_node_behind (by omega) .body start parts

theorem agree_functionRest (h : Below d m rules rules') (hm : 2 * r ≤ m) (start : Nat)
    (name? : Option SourceName) (async generator : Bool) :
    Agree d r (functionRest rules start name? async generator)
      (functionRest rules' (start + d) (move d name?) async generator) (shorter r) := by
  refine .within (fun _ _ => rfl) ((agree_parameters h hm).advance fun ps k hk => ?_)
  refine .atPunctuator fun b _ => (agree_failIf _ start).stay fun _ => ?_
  refine (agree_functionBody h (by omega)).advance fun body j hj => ?_
  exact agree_node_behind (by omega) (.functionDefinition name?) start [ps, body]

theorem agree_functionName? (async generator : Bool) (place : FunctionPlace) :
    Agree d r (functionName? async generator place) (functionName? async generator place)
      anything := by
  refine .lexeme fun l _ => .ite (fun _ => .read fun ctx limit => ?_) fun _ => ?_
  · refine (agree_checkIdentifier _ _).stay fun _ => ?_
    exact agree_takeName.advance fun name k hk => .pure (a := some name) trivial
  · exact .tokenStart fun start => (agree_faultIf _ start).stay fun _ => .pure (a := none) trivial

theorem agree_functionDefinition (h : Below d m rules rules') (hm : 2 * r ≤ m) (start : Nat)
    (async : Bool) (place : FunctionPlace) :
    Agree d r (functionDefinition rules start async place)
      (functionDefinition rules' (start + d) async place) (shorter r) := by
  refine (agree_expectWord "function").advance fun _ k hk => ?_
  refine (agree_eat "*").followed fun generator j hj => ?_
  refine (agree_functionName? async generator place).followed fun name? i hi => ?_
  exact (agree_functionRest h (by omega) start name? async generator).sooner (by omega)

theorem find?_rest_move (ps : List Node) :
    (move d ps).find? (fun p => p.shape == .rest) =
      move d (ps.find? fun p => p.shape == .rest) := by
  induction ps with
  | nil => rfl
  | cons p ps ih =>
    have hrest : ((move d p).shape == .rest) = (p.shape == .rest) :=
      p.shape_move_beq d .rest nofun nofun
    rw [move_cons, List.find?_cons, List.find?_cons, ih, hrest]
    split <;> rfl

theorem parameterCount_move (function : Node) :
    parameterCount (move d function) =
      ((parameterCount function).1, (parameterCount function).2.1 + d,
        move d (parameterCount function).2.2) := by
  obtain ⟨shape, span, parts⟩ := function
  rw [Node.move_mk]
  cases parts with
  | nil => rfl
  | cons p parts =>
    obtain ⟨shape, span, ps⟩ := p
    have hlength : (move d ps).length = ps.length := List.length_map _
    rw [move_cons, Node.move_mk]
    simp only [parameterCount, hlength, find?_rest_move]
    cases ps.find? fun p => p.shape == .rest <;> simp <;> rfl

theorem agree_checkGetter (function : Node) :
    Agree d r (checkGetter function) (checkGetter (move d function)) (still r) := by
  unfold checkGetter
  rw [parameterCount_move]
  exact agree_faultIf _ _

theorem agree_checkSetter (function : Node) :
    Agree d r (checkSetter function) (checkSetter (move d function)) (still r) := by
  unfold checkSetter
  rw [parameterCount_move]
  exact .ite (fun _ => agree_fault _) fun _ => agree_faultAt? _

theorem agree_methodFunction (h : Below d m rules rules') (hm : 2 * r ≤ m)
    (async generator : Bool) :
    Agree d r (methodFunction rules async generator) (methodFunction rules' async generator)
      (shorter r) :=
  .tokenStart fun start => agree_functionRest h hm start none async generator

/-! ## Arrow functions -/

theorem agree_arrowResult (h : Below d m rules rules') (hm : 2 * r + 1 < m) :
    Agree d r (arrowResult rules) (arrowResult rules') (shorter r) :=
  .atPunctuator fun _ _ =>
    .ite (fun _ => agree_functionBody h (by omega)) fun _ => h.assignment (by omega)

theorem agree_arrowBody (h : Below d m rules rules') (hm : 2 * r + 1 < m) (start : Nat)
    (async : Bool) (ps : Node) :
    Agree d r (arrowBody rules start async ps) (arrowBody rules' (start + d) async (move d ps))
      (shorter r) := by
  refine .within (fun _ _ => rfl) ((agree_arrowResult h hm).advance fun body k hk => ?_)
  exact agree_node_behind hk .arrow start [ps, body]

theorem agree_expectArrow : Agree d r expectArrow expectArrow (shorter r) :=
  .afterNewline fun _ => .tokenStart fun start =>
    (agree_faultIf _ start).stay fun _ => agree_expect "=>"

theorem agree_simpleArrow (h : Below d m rules rules') (hm : 2 * r ≤ m) (start : Nat)
    (argument : Node) (async : Bool) :
    Agree d r (simpleArrow rules start argument async)
      (simpleArrow rules' (start + d) (move d argument) async) (shorter r) := by
  obtain ⟨shape, span, parts⟩ := argument
  rw [Node.move_mk]
  cases shape with
  | identifier name =>
    refine agree_expectArrow.advance fun _ k hk => ?_
    exact (agree_arrowBody h (by omega) start async
      (.mk .parameters span [.mk (.binding name) span []])).sooner (by omega)
  | _ => exact agree_unexpected

theorem agree_arrowHead (h : Below d m rules rules') (hm : 2 * r ≤ m) :
    Agree d r (arrowHead rules) (arrowHead rules') (shorter r) := by
  refine .tokenStart fun start => (agree_eatWord "async").followed fun async k hk => ?_
  refine .read fun ctx limit => ?_
  apply (Agree.within (fun _ _ => rfl) (agree_parameters h (by omega))).advance
  intro ps j hj
  refine agree_expectArrow.advance fun _ i hi => ?_
  exact .pure (a := (start, async, ps)) (by omega)

theorem agree_looksLikeArrow : Agree d r looksLikeArrow looksLikeArrow (still r) := by
  have hanswer : ∀ (k : Nat) (answer : Answer),
      Agree d k (pure answer) (pure answer) anything := fun k answer => .pure (a := answer) trivial
  refine agree_lookahead (.atWord fun b hb => ?_)
  cases b
  case' true =>
    refine .bump (hb rfl) fun k _ => .afterNewline fun _ => .atPunctuator fun _ _ => ?_
    refine .ite (fun _ => hanswer k .no) fun _ => ?_
  -- with the word in front or without it
  all_goals
    refine .atPunctuator fun b _ => .ite (fun _ => ?_) fun _ => hanswer _ .no
    refine agree_skip.followed fun _ j _ => .lexeme fun l _ => ?_
    split
    · refine agree_skip.followed fun _ i _ => .lexeme fun l _ => ?_
      split <;> exact hanswer i _
    · exact hanswer j .maybe
    · exact hanswer j .maybe
    · refine agree_skip.followed fun _ i _ => .lexeme fun l _ => ?_
      exact .ite (fun _ => hanswer i .no) fun _ => .ite (fun _ => hanswer i .yes) fun _ =>
        hanswer i .maybe
    · refine .ite (fun _ => ?_) fun _ => hanswer j .no
      refine agree_skip.followed fun _ i _ => .lexeme fun l _ => ?_
      split <;> exact hanswer i _

/-- Something that has been read has taken a token. -/
abbrev shorterIf {α : Type} (r : Nat) : Option α → Nat → Prop := fun a? k => a?.isSome = true → k < r

theorem contains_move (starts : List Nat) (start : Nat) :
    (move d starts).contains (start + d) = starts.contains start := by
  induction starts with
  | nil => rfl
  | cons first starts ih =>
    have hfirst : (start + d == move d first) = (start == first) := beq_move start first
    rw [move_cons, List.contains_cons, List.contains_cons, ih, hfirst]

theorem agree_tryArrowHead (h : Below d m rules rules') (hm : 2 * r ≤ m) :
    Agree d r (tryArrowHead rules) (tryArrowHead rules') (shorterIf r) := by
  refine .tokenStart fun start => .look (g := id) (fun _ _ => rfl) (fun _ _ => rfl) ?_
  intro s t hst _
  have hcontains : (id t).refuted.contains (start + d) = (id s).refuted.contains start := by
    rw [id, id, hst.refuted, contains_move]
  rw [hcontains]
  refine .ite (fun _ => .pure (a := none) nofun) fun _ => ?_
  intro ctx limit s t hst hr hl hl'
  have hrun := agree_arrowHead h hm ctx limit s t hst hr hl hl'
  beta_reduce
  generalize arrowHead rules ctx s = x, arrowHead rules' { ctx with limit } t = y at hrun ⊢
  cases hrun with
  | @ok head s' t' hmoved hQ =>
    exact .ok (a := some head) (Q := fun a k => k ≤ r ∧ shorterIf r a k) hmoved
      (And.intro hQ.1 fun _ => hQ.2)
  | @error n s' t' hmoved =>
    have hrefuted : ParserState.Moved d { s with refuted := start :: s'.refuted }
        { t with refuted := (start + d) :: t'.refuted } :=
      { hst with
        refuted := congrArg ((start + d) :: ·) hmoved.refuted
        shortens := hst.shortens }
    exact .ok (a := none) (Q := fun a k => k ≤ r ∧ shorterIf r a k) hrefuted
      (And.intro (Nat.le_of_eq hr) nofun)

theorem agree_completeArrow (h : Below d m rules rules') (hm : 2 * r + 1 < m)
    (head : Nat × Bool × Node) :
    Agree d r (completeArrow rules head) (completeArrow rules' (move d head)) (shorter r) :=
  agree_arrowBody h hm head.1 head.2.1 head.2.2

theorem agree_parenthesizedArrow? (h : Below d m rules rules') (hm : 2 * r ≤ m) :
    Agree d r (parenthesizedArrow? rules) (parenthesizedArrow? rules') (shorterIf r) := by
  have hcomplete : ∀ (head : Nat × Bool × Node) (k : Nat), k < r → Agree d k (do
      let arrow ← completeArrow rules head
      pure (some arrow)) (do
      let arrow ← completeArrow rules' (move d head)
      pure (some arrow)) (shorterIf r) := fun head k hk =>
    (agree_completeArrow h (by omega) head).advance fun arrow j hj =>
      .pure (a := some arrow) fun _ => by omega
  refine agree_looksLikeArrow.stay fun answer => ?_
  cases answer with
  | no => exact .pure (a := none) nofun
  | yes => exact (agree_arrowHead h hm).advance fun head k hk => hcomplete head k hk
  | maybe =>
    refine (agree_tryArrowHead h hm).bind fun head? k _ hk => ?_
    cases head? with
    | none => exact .pure (a := none) nofun
    | some head => exact hcomplete head k (hk rfl)

theorem agree_asyncSimpleArrow? (h : Below d m rules rules') (hm : 2 * r ≤ m) :
    Agree d r (asyncSimpleArrow? rules) (asyncSimpleArrow? rules') (shorterIf r) := by
  refine .atWord fun b hb => .ite (fun hword => ?_) fun _ => .pure (a := none) nofun
  refine Agree.stay (agree_lookahead (agree_skip.followed fun _ k _ => ?_)) fun isArrow => ?_
  · refine .afterNewline fun _ => .lexeme fun l _ => ?_
    refine .ite (fun _ => .pure (a := false) trivial) fun _ => ?_
    exact agree_skip.followed fun _ j _ => .atPunctuator fun b _ => .pure (a := b) trivial
  · refine .ite (fun _ => ?_) fun _ => .pure (a := none) nofun
    refine .tokenStart fun start => .bump (hb hword) fun k hk => ?_
    refine (h.binary 0 (by omega)).advance fun argument j hj => ?_
    apply (Agree.within (fun _ _ => rfl) (agree_simpleArrow h (by omega) start argument
      true)).advance
    exact fun arrow i hi => .pure (a := some arrow) fun _ => by omega

/-! ## Classes -/

theorem agree_modifiers : Agree d r modifiers modifiers anything := by
  refine agree_iterate ({} : Modifiers) fun m k _ => .peek fun t => ?_
  refine (agree_onlyIf _ (agree_eatModifier "static" false) nofun).bind fun b j hj hb => ?_
  refine .ite (fun h => .again rfl (hb h)) fun _ => ?_
  refine (agree_onlyIf _ (agree_eatModifier "async" true) nofun).bind fun b i hi hb => ?_
  refine .ite (fun h => .again rfl (Nat.lt_of_lt_of_le (hb h) hj)) fun _ => ?_
  refine (agree_onlyIf _ (agree_eatModifier "accessor" true) nofun).bind fun b n hn hb => ?_
  refine .ite (fun h => .again rfl ?_) fun _ => .done rfl
  exact Nat.lt_of_lt_of_le (hb h) (Nat.le_trans hi hj)

theorem agree_staticBlock (h : Below d m rules rules') (hpos : 0 < r) (hm : 2 * r ≤ m)
    (start : Nat) :
    Agree d r (staticBlock rules start) (staticBlock rules' (start + d)) (shorter r) := by
  refine .bump hpos fun k hk => .within (fun _ _ => rfl) ?_
  refine (agree_expect "\x7b").advance fun _ j hj => ?_
  refine (agree_statements h (by omega)).followed fun parts i hi => ?_
  refine (agree_expect "\x7d").advance fun _ n hn => ?_
  exact agree_node_behind (by omega) .body start parts

theorem agree_checkMethodName (key : Node) (computed : Bool) (modifiers : Modifiers)
    (kind : MethodKind) (generator : Bool) :
    Agree d r (checkMethodName key computed modifiers kind generator)
      (checkMethodName (move d key) computed modifiers kind generator) (still r) := by
  unfold checkMethodName
  rw [keyText?_move, Node.start_move]
  split
  · exact agree_fault _
  · exact agree_faultIf _ _
  · exact .pure (a := ()) rfl

theorem agree_classElementName (h : Below d m rules rules') (hm : 2 * r ≤ m) :
    Agree d r (classElementName rules) (classElementName rules') (shorter r) := by
  refine .lexeme fun l _ => ?_
  cases l with
  | privateName name =>
    refine agree_privateName.advance fun key k hk => ?_
    rw [Node.start_move]
    exact (agree_faultIf _ _).stay fun _ => .pure (a := (key, false)) hk
  | _ => exact agree_propertyName h hm

theorem agree_checkAccessor (kind : MethodKind) (function : Node) :
    Agree d r (checkAccessor kind function) (checkAccessor kind (move d function)) (still r) :=
  .ite (fun _ => agree_checkGetter function) fun _ => agree_checkSetter function

theorem agree_accessor (h : Below d m rules rules') (hm : 2 * r ≤ m) (start : Nat)
    (ds : List Node) (modifiers : Modifiers) (kind : MethodKind) :
    Agree d r (accessor rules start ds modifiers kind)
      (accessor rules' (start + d) (move d ds) modifiers kind) (shorter r) := by
  apply (agree_classElementName h hm).advance
  rintro ⟨key, computed⟩ k hk
  refine (agree_methodFunction h (by omega) false false).advance fun function j hj => ?_
  refine (agree_checkAccessor kind function).stay fun _ => ?_
  refine (agree_checkMethodName key computed modifiers kind false).stay fun _ => ?_
  have hnode := agree_node_behind (d := d) (show j < r by omega) .method start
    (ds ++ [key, function])
  rw [move_append] at hnode
  exact hnode

theorem agree_checkFieldName (key : Node) (computed : Bool) (modifiers : Modifiers) :
    Agree d r (checkFieldName key computed modifiers)
      (checkFieldName (move d key) computed modifiers) (still r) := by
  unfold checkFieldName
  rw [keyText?_move, Node.start_move]
  split
  · exact agree_fault _
  · exact agree_fault _
  · exact .pure (a := ()) rfl

theorem agree_fieldRest (h : Below d m rules rules') (hk : k < r) (hm : 2 * r ≤ m) (start : Nat)
    (ds : List Node) (modifiers : Modifiers) (key : Node) (computed : Bool) :
    Agree d k (fieldRest rules start ds modifiers key computed)
      (fieldRest rules' (start + d) (move d ds) modifiers (move d key) computed) (shorter r) := by
  refine (agree_checkFieldName key computed modifiers).stay fun _ => ?_
  refine (agree_eat "=").followed fun b j hj => ?_
  apply (agree_listIf b (Agree.within (fun _ _ => rfl) (h.assignment (by omega))).weaken).followed
  intro value i hi
  refine (agree_faultIf _ start).stay fun _ => agree_endStatement.followed fun _ n hn => ?_
  have hnode := agree_node_behind (d := d) (show n < r by omega) .field start (ds ++ key :: value)
  rw [move_append, move_cons] at hnode
  exact hnode

theorem agree_classElement (h : Below d m rules rules') (hm : 2 * r ≤ m) :
    Agree d r (classElement rules) (classElement rules') (shorter r) := by
  refine .tokenStart fun start => (agree_decorators h hm).followed fun ds k hk => ?_
  refine agree_modifiers.followed fun modifiers j hj => .atWord fun b hb => .peek fun t => ?_
  refine .ite (fun hblock => ?_) fun _ => ?_
  · have hpos : 0 < j := hb (Bool.and_eq_true_iff.1 hblock).1
    have hfaults : Agree d j (ds.forM fun n => fault n.start)
        ((move d ds).forM fun n => fault n.start) (still j) := by
      refine agree_forM fun n _ => ?_
      rw [Node.start_move]
      exact agree_fault _
    exact hfaults.stay fun _ => (agree_staticBlock h hpos (by omega) start).sooner (by omega)
  · refine (agree_eatModifier "get" false).followed fun b i hi => .ite (fun _ => ?_) fun _ => ?_
    · exact (agree_accessor h (by omega) start ds modifiers .getter).sooner (by omega)
    refine (agree_eatModifier "set" false).followed fun b n hn => .ite (fun _ => ?_) fun _ => ?_
    · exact (agree_accessor h (by omega) start ds modifiers .setter).sooner (by omega)
    refine (agree_eat "*").followed fun generator l hl => ?_
    apply (agree_classElementName h (by omega)).advance
    rintro ⟨key, computed⟩ q hq
    refine .atPunctuator fun b _ => .ite (fun _ => ?_) fun _ => ?_
    · refine (agree_methodFunction h (by omega) _ generator).advance fun function u hu => ?_
      refine (agree_checkMethodName key computed modifiers .plain generator).stay fun _ => ?_
      have hnode := agree_node_behind (d := d) (show u < r by omega) .method start
        (ds ++ [key, function])
      rw [move_append] at hnode
      exact hnode
    · exact agree_fieldRest h (by omega) hm start ds modifiers key computed

theorem agree_classBody (h : Below d m rules rules') (hm : 2 * r ≤ m) :
    Agree d r (classBody rules) (classBody rules') (shorter r) := by
  refine (agree_expect "\x7b").advance fun _ k hk => ?_
  refine Agree.followed (agree_iterate ([] : List Node) fun found j hj => ?_) fun parts j hj => ?_
  · refine (agree_eat ";").bind fun b i hi hb => .ite (fun h => .again rfl (hb h)) fun _ => ?_
    refine .atListEnd fun b _ => .ite (fun _ => .done move_reverse.symm) fun _ => ?_
    exact (agree_classElement h (by omega)).advance fun element n hn => .again rfl (by omega)
  · exact (agree_expect "\x7d").advance fun _ i hi => .pure (a := parts) (by omega)

theorem agree_className? : Agree d r className? className? anything := by
  refine .lexeme fun l _ => .atWord fun b _ => .ite (fun _ => .read fun ctx limit => ?_) fun _ => ?_
  · refine (agree_checkIdentifier _ _).stay fun _ => ?_
    exact agree_takeName.advance fun name k hk => .pure (a := some name) trivial
  · exact .pure (a := none) trivial

theorem agree_classDefinition (h : Below d m rules rules') (hm : 2 * r ≤ m) (start : Nat)
    (ds : List Node) :
    Agree d r (classDefinition rules start ds) (classDefinition rules' (start + d) (move d ds))
      (shorter r) := by
  refine (agree_expectWord "class").advance fun _ k hk => ?_
  refine agree_className?.followed fun name? j hj => ?_
  refine (agree_eatWord "extends").followed fun b i hi => ?_
  apply (agree_listIf b (h.leftHandSide (by omega)).weaken).followed
  intro heritage n hn
  apply (Agree.within (fun _ _ => rfl) (agree_classBody h (by omega))).advance
  intro parts l hl
  have hnode := agree_node_behind (d := d) (show l < r by omega) (.classDefinition name?) start
    (ds ++ heritage ++ parts)
  rw [move_append, move_append] at hnode
  exact hnode

end Parser

end ModuleBundler.Script
