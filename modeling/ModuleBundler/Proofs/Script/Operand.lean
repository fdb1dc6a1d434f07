import ModuleBundler.Proofs.Script.Run

/-!
# Operands

Names, texts and calls with one argument are read as such where nothing goes on behind them: in
front of a closing bracket, a comma, a colon or a semicolon. They pass all levels of operators
unchanged.
-/

namespace ModuleBundler.Script

/-- The word stands for a variable here. `await` never does in a module. -/
def Context.MayName (ctx : Context) (name : String) : Prop :=
  isReserved name = false ∨ name = "yield" ∧ ctx.allowYield = false

theorem Context.MayName.ne {ctx : Context} {name : String} (h : ctx.MayName name) {w : String}
    (hw : isReserved w = true) (hyield : w ≠ "yield") : name ≠ w := by
  rintro rfl
  obtain hreserved | ⟨hname, -⟩ := h
  · rw [hreserved] at hw
    cases hw
  · exact hyield hname

theorem Context.MayName.allowYield {ctx : Context} (h : ctx.MayName "yield") :
    ctx.allowYield = false := by
  obtain hreserved | ⟨-, hallow⟩ := h
  · cases hreserved
  · exact hallow

theorem Context.MayName.isBinding {ctx : Context} {name : String} (h : ctx.MayName name) :
    Lexeme.isBinding (.word name false) = true := by
  obtain hreserved | ⟨rfl, -⟩ := h
  · simp [Lexeme.isBinding, hreserved]
  · decide

theorem IsVariable.mayName {name : String} (h : IsVariable name) {ctx : Context}
    (hyield : ctx.allowYield = false) : ctx.MayName name :=
  h.free.imp id fun hname => ⟨hname, hyield⟩

namespace Parser

variable {rules : Rules} {ctx : Context} {s : ParserState} {l : Lexeme} {ls : List Lexeme}
  {place : Place}
  {name : String} {Q : Node → ParserState → Prop}

/-! ## Names -/

theorem runs_checkIdentifier (hname : ctx.MayName name) (h : s.Faces place (.word name false :: ls))
    {Q : Unit → ParserState → Prop} (k : Q () s) :
    Runs (checkIdentifier ctx.allowAwait ctx.allowYield) ctx s Q := by
  have hawait : (name == "await") = false := by
    simpa using hname.ne (by decide) (by decide)
  have hyield : (ctx.allowYield && name == "yield") = false := by
    obtain hreserved | ⟨-, hyield⟩ := hname
    · rw [Bool.and_eq_false_imp]
      intro _
      rw [beq_eq_false_iff_ne]
      rintro rfl
      revert hreserved
      decide
    · rw [hyield, Bool.false_and]
  unfold checkIdentifier
  simp only [runs_bind, runs_lexeme, h.lexeme, runs_tokenStart, hawait, Bool.and_false,
    runs_faultIf_false, hyield]
  exact k

theorem runs_bindingIdentifier (hname : ctx.MayName name)
    (h : s.Faces place (.word name false :: l :: ls))
    (k : ∀ span t, t.Faces place (l :: ls) → Q (.mk (.binding name) span []) t) :
    Runs bindingIdentifier ctx s Q := by
  unfold bindingIdentifier
  simp only [runs_bind, runs_lexeme, h.lexeme, hname.isBinding, Bool.not_true, runs_unexpectedIf_false,
    runs_read, runs_tokenStart, runs_node]
  apply runs_checkIdentifier hname h
  exact runs_takeWord h fun t ht => k _ t ht

theorem runs_identifierReference (hname : ctx.MayName name)
    (h : s.Faces place (.word name false :: l :: ls))
    (k : ∀ span t, t.Faces place (l :: ls) → Q (.mk (.identifier name) span []) t) :
    Runs identifierReference ctx s Q := by
  have hreference : Lexeme.isReference false false (.word name false) = true := by
    obtain hreserved | ⟨rfl, -⟩ := hname
    · simp [Lexeme.isReference, hreserved]
    · decide
  unfold identifierReference
  simp only [runs_bind, runs_lexeme, h.lexeme, hreference, Bool.not_true, runs_unexpectedIf_false,
    runs_read, runs_tokenStart, runs_node]
  apply runs_checkIdentifier hname h
  exact runs_takeWord h fun t ht => k _ t ht

theorem runs_primary_word (hname : ctx.MayName name)
    (h : s.Faces place (.word name false :: l :: ls)) (hl : ∀ escaped, l ≠ .word "function" escaped)
    (k : ∀ span t, t.Faces place (l :: ls) → Q (.mk (.identifier name) span []) t) :
    Runs (primaryExpression rules) ctx s Q := by
  unfold primaryExpression
  simp only [runs_bind, runs_tokenStart, runs_lexeme, h.lexeme]
  split
  case h_10 =>
    simp only [runs_bind, runs_peek, h.peek]
    exact runs_identifierReference hname h k
  case h_11 => exact runs_identifierReference hname h k
  all_goals exact absurd rfl (hname.ne (by decide) (by decide))

theorem runs_primary_string {value : String} {wellFormed : Bool}
    (h : s.Faces place (.string value wellFormed :: l :: ls))
    (k : ∀ span t, t.Faces place (l :: ls) → Q (.mk (.string value) span []) t) :
    Runs (primaryExpression rules) ctx s Q := by
  unfold primaryExpression keywordExpression
  simp only [runs_bind, runs_tokenStart, runs_lexeme, h.lexeme, runs_node]
  exact runs_bump h (by simp) fun t ht => k _ t ht

/-! ## Calls -/

/-- What may come right behind an operand that nothing goes on behind. -/
def closers : List String := [")", "]", "\x7d", ";", ",", ":"]

/-- What may come right behind an operand. -/
def followers : List String := "=" :: "!==" :: "&&" :: "?" :: closers

theorem closer_mem_followers {p : String} (hp : p ∈ closers) : p ∈ followers := by
  simp [followers, hp]

theorem runs_memberRest {p : String} (hlimit : 0 < ctx.limit) (hp : p ∈ "(" :: followers)
    (h : s.Faces place (.punctuator p :: ls)) (start : Nat) (object : Node)
    {Q : Node × Bool → ParserState → Prop} (k : Q (object, false) s) :
    Runs (memberRest rules start object false) ctx s Q := by
  apply runs_iterate_last hlimit
  simp only [runs_bind, runs_read, runs_lexeme, h.lexeme]
  simp only [followers, closers, List.mem_cons, List.not_mem_nil, or_false] at hp
  rcases hp with rfl | rfl | rfl | rfl | rfl | rfl | rfl | rfl | rfl | rfl | rfl <;>
    exact runs_pure.2 ⟨_, rfl, k⟩

theorem runs_callRest_nothing {p : String} (hlimit : 0 < ctx.limit) (hp : p ∈ followers)
    (h : s.Faces place (.punctuator p :: ls)) (start : Nat) (object : Node)
    {Q : Node × Bool → ParserState → Prop} (k : Q (object, false) s) :
    Runs (callRest rules start object false) ctx s Q := by
  have hquestion : p ≠ "?." ∧ (Lexeme.punctuator p == .punctuator "(") = false :=
    (by decide : ∀ q ∈ followers, q ≠ "?." ∧ (Lexeme.punctuator q == .punctuator "(") = false) p hp
  apply runs_iterate_last hlimit
  rw [runs_bind]
  apply runs_memberRest hlimit (List.mem_cons_of_mem _ hp) h
  rw [runs_bind]
  apply runs_eat_other h (by simp [hquestion.1])
  simp only [Bool.false_or, Bool.false_and, Bool.false_eq_true, if_false, runs_bind, runs_lexeme,
    runs_atPunctuator, h.lexeme, hquestion.2, runs_unexpectedIf_false, runs_pure]
  exact ⟨_, rfl, k⟩

section Call

variable {p : String} {callee argument : Node → Prop} {first : Lexeme} {more : List Lexeme}

/-- Parentheses around one argument. -/
theorem runs_arguments (hlimit : 0 < ctx.limit)
    (hfirst : first ∉ [.punctuator ")", .punctuator "...", .finish, .invalid])
    (hargument : ∀ t : ParserState, t.Faces place (first :: more) →
      Runs (rules .assignment) { ctx with allowIn := true, inDecorator := false } t fun a u =>
        u.Faces place (.punctuator ")" :: l :: ls) ∧ argument a)
    (h : s.Faces place (.punctuator "(" :: first :: more)) :
    Runs (arguments rules) ctx s fun as t =>
      t.Faces place (l :: ls) ∧ ∃ a, as = [a] ∧ argument a := by
  obtain ⟨hclose, hdots, hfinish, hinvalid⟩ : first ≠ .punctuator ")" ∧
      (first == .punctuator "...") = false ∧ first ≠ .finish ∧ first ≠ .invalid := by
    simpa using hfirst
  unfold arguments
  rw [runs_bind]
  apply runs_expect h
  intro t ht
  rw [runs_bind, runs_within]
  have helement : Runs (spreadOrAssignment rules)
      { ctx with allowIn := true, inDecorator := false } t fun a u =>
        u.Faces place (.punctuator ")" :: l :: ls) ∧ argument a := by
    unfold spreadOrAssignment
    simp only [runs_bind, runs_atPunctuator, ht.lexeme, hdots, Bool.false_eq_true, if_false]
    exact hargument t ht
  have hlist : Runs (commaList ")" (spreadOrAssignment rules))
      { ctx with allowIn := true, inDecorator := false } t fun r u =>
        u.Faces place (.punctuator ")" :: l :: ls) ∧ ∃ a, r = ([a], none) ∧ argument a :=
    runs_commaList_one hlimit (by simp [hclose, hfinish, hinvalid]) helement ht
  apply hlist.mono
  rintro _ u ⟨hu, a, rfl, ha⟩
  rw [runs_bind]
  apply runs_expect hu
  intro v hv
  exact runs_pure.2 ⟨hv, a, rfl, ha⟩

/-- A call that nothing goes on behind. -/
theorem runs_callRest_once {fits : List Node → Prop} (hlimit : 1 < ctx.limit) (hp : p ∈ followers)
    (harguments : Runs (arguments rules) ctx s fun as t =>
      t.Faces place (.punctuator p :: ls) ∧ fits as)
    (h : s.Faces place (.punctuator "(" :: more)) (start : Nat) (f : Node) :
    Runs (callRest rules start f false) ctx s fun r t => t.Faces place (.punctuator p :: ls) ∧
      ∃ span as, r = (.mk .call span (f :: as), false) ∧ fits as := by
  have hpositive : 0 < ctx.limit := Nat.zero_lt_of_lt hlimit
  have hquestion : p ≠ "?." ∧ (Lexeme.punctuator p == .punctuator "(") = false :=
    (by decide : ∀ q ∈ followers, q ≠ "?." ∧ (Lexeme.punctuator q == .punctuator "(") = false) p hp
  refine Turns.runs (turns_more ?_) hlimit
  rw [runs_bind]
  apply runs_memberRest hpositive (by simp) h
  rw [runs_bind]
  apply runs_eat_other h (by decide)
  simp only [Bool.false_or, Bool.false_and, Bool.false_eq_true, if_false, runs_bind, runs_lexeme,
    runs_atPunctuator, h.lexeme, BEq.rfl, if_true]
  apply harguments.mono
  rintro as t ⟨ht, has⟩
  rw [runs_node, runs_pure]
  refine ⟨_, rfl, turns_last ?_⟩
  rw [runs_bind]
  apply runs_memberRest hpositive (List.mem_cons_of_mem _ hp) ht
  rw [runs_bind]
  apply runs_eat_other ht (by simp [hquestion.1])
  simp only [Bool.false_or, Bool.false_and, Bool.false_eq_true, if_false, runs_bind, runs_lexeme,
    runs_atPunctuator, ht.lexeme, hquestion.2, runs_unexpectedIf_false, runs_pure]
  exact ⟨_, rfl, ht, _, as, rfl, has⟩

theorem runs_leftHandSide (hlimit : 0 < ctx.limit) (hp : p ∈ followers)
    (hprimary : Runs (rules .primary) ctx s fun n t =>
      t.Faces place (.punctuator p :: ls) ∧ callee n) :
    Runs (leftHandSide rules) ctx s fun n t => t.Faces place (.punctuator p :: ls) ∧ callee n := by
  unfold leftHandSide memberExpression
  simp only [runs_bind, runs_tokenStart]
  apply hprimary.mono
  rintro f t ⟨ht, hf⟩
  apply runs_memberRest hlimit (List.mem_cons_of_mem _ hp) ht
  exact runs_callRest_nothing hlimit hp ht _ _ (runs_pure.2 ⟨ht, hf⟩)

theorem runs_leftHandSide_call (hlimit : 1 < ctx.limit) (hp : p ∈ followers)
    (hfirst : first ∉ [.punctuator ")", .punctuator "...", .finish, .invalid])
    (hprimary : Runs (rules .primary) ctx s fun n t =>
      t.Faces place (.punctuator "(" :: first :: more) ∧ callee n)
    (hargument : ∀ t : ParserState, t.Faces place (first :: more) →
      Runs (rules .assignment) { ctx with allowIn := true, inDecorator := false } t fun a u =>
        u.Faces place (.punctuator ")" :: .punctuator p :: ls) ∧ argument a) :
    Runs (leftHandSide rules) ctx s fun n t => t.Faces place (.punctuator p :: ls) ∧
      ∃ span f a, n = .mk .call span [f, a] ∧ callee f ∧ argument a := by
  unfold leftHandSide memberExpression
  simp only [runs_bind, runs_tokenStart]
  apply hprimary.mono
  rintro f t ⟨ht, hf⟩
  have hpositive : 0 < ctx.limit := Nat.zero_lt_of_lt hlimit
  apply runs_memberRest hpositive (by simp) ht
  apply (runs_callRest_once hlimit hp (runs_arguments hpositive hfirst hargument ht) ht _ f).mono
  rintro _ u ⟨hu, span, _, rfl, a, rfl, ha⟩
  exact runs_pure.2 ⟨hu, span, f, a, rfl, hf, ha⟩

end Call

/-! ## Levels of operators -/

/-- The token starts an operand that is no arrow function, and no operator stands in front of it. -/
inductive StartsOperand (ctx : Context) : Lexeme → Lexeme → Prop where
  | string (value : String) (wellFormed : Bool) (l : Lexeme) :
    StartsOperand ctx (.string value wellFormed) l
  | word {name : String} (hname : ctx.MayName name) {p : String} (hp : name = "async" → p ≠ "(") :
    StartsOperand ctx (.word name false) (.punctuator p)
  | function : StartsOperand ctx (.word "function" false) (.punctuator "(")
  /-- A function in parentheses. -/
  | group : StartsOperand ctx (.punctuator "(") (.word "function" false)

namespace StartsOperand

variable {l' : Lexeme}

theorem runs_isYield (hstart : StartsOperand ctx l l') (h : s.Faces place (l :: l' :: ls))
    {Q : Bool → ParserState → Prop} (k : Q false s) : Runs isYield ctx s Q := by
  unfold isYield
  cases hstart with
  | string | group =>
    simp only [runs_bind, runs_atWord, h.lexeme, Lexeme.isWord, Bool.false_eq_true, if_false,
      runs_pure]
    exact k
  | function =>
    have hother : ("function" == "yield") = false := by decide
    simp only [runs_bind, runs_atWord, h.lexeme, Lexeme.isWord, hother, Bool.false_eq_true,
      if_false, runs_pure]
    exact k
  | @word name hname p =>
    simp only [runs_bind, runs_atWord, h.lexeme, Lexeme.isWord]
    split
    · rename_i hyield
      obtain rfl : name = "yield" := by simpa using hyield
      simp only [runs_bind, runs_pure, runs_read, runs_peek, operandFollows, h.peek,
        Lexeme.isLiteral, Lexeme.isName, Bool.or_self, Bool.and_false, hname.allowYield]
      exact k
    · exact runs_pure.2 k

theorem runs_looksLikeArrow (hstart : StartsOperand ctx l l') (h : s.Faces place (l :: l' :: ls))
    {Q : Answer → ParserState → Prop} (k : Q .no s) : Runs looksLikeArrow ctx s Q := by
  unfold looksLikeArrow
  rw [runs_lookahead]
  cases hstart with
  | string =>
    simp only [runs_bind, runs_atWord, h.lexeme, Lexeme.isWord, Bool.false_eq_true, if_false,
      runs_pure, runs_atPunctuator, reduceCtorEq, beq_iff_eq]
    exact k
  | function =>
    have hother : ("function" == "async") = false := by decide
    simp only [runs_bind, runs_atWord, h.lexeme, Lexeme.isWord, hother, Bool.false_eq_true,
      if_false, runs_pure, runs_atPunctuator, reduceCtorEq, beq_iff_eq]
    exact k
  | group =>
    simp only [runs_bind, runs_atWord, h.lexeme, Lexeme.isWord, Bool.false_eq_true, if_false,
      runs_atPunctuator, BEq.rfl, if_true]
    apply runs_skip h
    intro t ht
    have hother : Lexeme.isBinding (.word "function" false) = false := by decide
    have hthis : ("function" == "this") = false := by decide
    simp only [runs_lexeme, ht.lexeme, hother, hthis, Bool.or_self, Bool.false_eq_true, if_false,
      runs_pure]
    exact k
  | @word name hname p hp =>
    simp only [runs_bind, runs_atWord, h.lexeme, Lexeme.isWord]
    split
    · rename_i hasync
      have hopen : (Lexeme.punctuator p == .punctuator "(") = false := by
        simpa using hp (by simpa using hasync)
      rw [runs_bind]
      apply runs_bump_word h
      intro t ht
      simp only [runs_bind, runs_afterNewline, runs_atPunctuator, ht.lexeme, hopen,
        Bool.not_false, Bool.or_true, if_true, runs_pure]
      exact k
    · simp only [runs_bind, runs_pure, runs_atPunctuator, h.lexeme, reduceCtorEq, beq_iff_eq, if_false]
      exact k

theorem runs_asyncSimpleArrow? (hstart : StartsOperand ctx l l') (h : s.Faces place (l :: l' :: ls))
    {Q : Option Node → ParserState → Prop} (k : Q none s) :
    Runs (asyncSimpleArrow? rules) ctx s Q := by
  unfold asyncSimpleArrow?
  cases hstart with
  | string | group =>
    simp only [runs_bind, runs_atWord, h.lexeme, Lexeme.isWord, Bool.false_eq_true, if_false,
      runs_pure]
    exact k
  | function =>
    have hother : ("function" == "async") = false := by decide
    simp only [runs_bind, runs_atWord, h.lexeme, Lexeme.isWord, hother, Bool.false_eq_true,
      if_false, runs_pure]
    exact k
  | @word name hname p hp =>
    simp only [runs_bind, runs_atWord, h.lexeme, Lexeme.isWord]
    split
    · simp only [runs_bind, runs_lookahead]
      apply runs_skip h
      intro t ht
      simp only [runs_afterNewline, runs_lexeme, ht.lexeme, Lexeme.isBinding,
        Bool.not_false, Bool.or_true, if_true, runs_pure, Bool.false_eq_true, if_false]
      exact k
    · exact runs_pure.2 k

end StartsOperand

/-- Neither an arrow function nor an operand of `yield` starts here. -/
structure NoArrow (ctx : Context) (s : ParserState) : Prop where
  yields : Runs isYield ctx s fun b t => b = false ∧ t = s
  arrow : Runs looksLikeArrow ctx s fun a t => a = .no ∧ t = s
  async (rules : Rules) : Runs (asyncSimpleArrow? rules) ctx s fun a t => a = none ∧ t = s

theorem StartsOperand.noArrow {l' : Lexeme} (hstart : StartsOperand ctx l l')
    (h : s.Faces place (l :: l' :: ls)) : NoArrow ctx s :=
  ⟨hstart.runs_isYield h ⟨rfl, rfl⟩, hstart.runs_looksLikeArrow h ⟨rfl, rfl⟩,
    fun _ => hstart.runs_asyncSimpleArrow? h ⟨rfl, rfl⟩⟩

theorem noArrow_of_ne (hyield : l.isWord "yield" = false) (hasync : l.isWord "async" = false)
    (hopen : l ≠ .punctuator "(") (h : s.Faces place (l :: ls)) : NoArrow ctx s := by
  have hopen : (l == .punctuator "(") = false := by simpa using hopen
  constructor
  · simp only [isYield, runs_bind, runs_atWord, h.lexeme, hyield, Bool.false_eq_true,
      if_false, runs_pure, and_self]
  · simp only [looksLikeArrow, runs_lookahead, runs_bind, runs_atWord, h.lexeme, hasync,
      Bool.false_eq_true, if_false, runs_pure, runs_atPunctuator, hopen, and_self]
  · intro rules
    simp only [asyncSimpleArrow?, runs_bind, runs_atWord, h.lexeme, hasync,
      Bool.false_eq_true, if_false, runs_pure, and_self]

/-- An operator that binds no tighter than the one in front is left to it. -/
theorem runs_binaryRest {p : String} (hlimit : 0 < ctx.limit) {least : Nat}
    (hp : p ≠ "**" ∧ ∀ q, binaryPrecedence? (.punctuator p) = some q → q ≤ least)
    (h : s.Faces place (.punctuator p :: ls)) (start : Nat) (left : Node) (parenthesized : Bool)
    (k : Q left s) :
    Runs (binaryRest rules start left parenthesized least) ctx s Q := by
  have hpower : (Lexeme.punctuator p == .punctuator "**") = false := by simpa using hp.1
  apply runs_iterate_last hlimit
  simp only [runs_bind, runs_lexeme, h.lexeme]
  split
  · rename_i q hq
    simp only [hpower, Bool.false_eq_true, if_false, hp.2 q hq, if_true, runs_pure]
    exact ⟨_, rfl, k⟩
  · exact runs_pure.2 ⟨_, rfl, k⟩

section Levels

variable {l' : Lexeme} {fits : Node → Prop} {p : String} {more : List Lexeme}

/-- No operator in front of an operand starts with this token, and no private name. -/
structure Unmarked (l : Lexeme) : Prop where
  unary : isUnaryOperator l = false
  update : isUpdateOperator l = false
  await : l.isWord "await" = false
  named : ∀ name, l ≠ .privateName name

theorem StartsOperand.unmarked (hstart : StartsOperand ctx l l') : Unmarked l := by
  cases hstart with
  | string => exact ⟨rfl, rfl, rfl, by simp⟩
  | function | group => exact ⟨by decide, by decide, by decide, by simp⟩
  | @word name hname =>
    have hnot : ∀ w, isReserved w = true → w ≠ "yield" → (name == w) = false :=
      fun w hw hyield => by simpa using hname.ne hw hyield
    refine ⟨?_, rfl, hnot _ (by decide) (by decide), by simp⟩
    simp only [isUnaryOperator, hnot "typeof" (by decide) (by decide),
      hnot "void" (by decide) (by decide), hnot "delete" (by decide) (by decide), Bool.or_self]

/-- An operand without a mark is read below the operators of one operand. -/
theorem runs_unaryExpression (hl : Unmarked l) (h : s.Faces place (l :: ls)) (hp : p ∈ followers)
    (hoperand : Runs (leftHandSide rules) ctx s fun n t =>
      t.Faces place (.punctuator p :: more) ∧ fits n) :
    Runs (unaryExpression rules) ctx s fun n t => t.Faces place (.punctuator p :: more) ∧ fits n := by
  have hupdate : isUpdateOperator (.punctuator p) = false :=
    (by decide : ∀ q ∈ followers, isUpdateOperator (.punctuator q) = false) p hp
  unfold unaryExpression isAwait updateExpression
  simp only [runs_bind, runs_tokenStart, runs_lexeme, h.lexeme, hl.unary, runs_atWord, hl.await,
    hl.update, Bool.false_eq_true, if_false, runs_pure]
  apply hoperand.mono
  rintro n t ⟨ht, hn⟩
  simp only [ht.lexeme, hupdate, Bool.false_and, runs_afterNewline, Bool.false_eq_true, if_false,
    runs_pure]
  exact ⟨ht, hn⟩

theorem runs_firstOperand_unary (hl : ∀ name, l ≠ .privateName name) (h : s.Faces place (l :: ls))
    {Q : Node → ParserState → Prop} (k : Runs (unaryExpression rules) ctx s Q) :
    Runs (firstOperand rules) ctx s Q := by
  unfold firstOperand
  simp only [runs_bind, runs_tokenStart, runs_lexeme, h.lexeme]
  cases l with
  | privateName name => exact absurd rfl (hl name)
  | _ => exact k

/-- An operand is read on all levels between the operators and itself. -/
theorem runs_firstOperand (hstart : StartsOperand ctx l l') (h : s.Faces place (l :: l' :: ls))
    (hp : p ∈ followers)
    (hoperand : Runs (leftHandSide rules) ctx s fun n t =>
      t.Faces place (.punctuator p :: more) ∧ fits n) :
    Runs (firstOperand rules) ctx s fun n t => t.Faces place (.punctuator p :: more) ∧ fits n :=
  runs_firstOperand_unary hstart.unmarked.named h
    (runs_unaryExpression hstart.unmarked h hp hoperand)

/-- Operators go on behind the operand. -/
theorem runs_binaryExpression_left (hstart : StartsOperand ctx l l') (h : s.Faces place (l :: l' :: ls))
    (hp : p ∈ followers)
    (hoperand : Runs (leftHandSide rules) ctx s fun n t =>
      t.Faces place (.punctuator p :: more) ∧ fits n) {least : Nat}
    (k : ∀ left t start parenthesized, t.Faces place (.punctuator p :: more) → fits left →
      Runs (binaryRest rules start left parenthesized least) ctx t Q) :
    Runs (binaryExpression rules least) ctx s Q := by
  unfold binaryExpression
  simp only [runs_bind, runs_tokenStart, runs_atPunctuator]
  apply (runs_firstOperand hstart h hp hoperand).mono
  rintro left t ⟨ht, hleft⟩
  exact k left t _ _ ht hleft

/-- In front of `=` and of a closing token no operator goes on. -/
theorem runs_binaryExpression_first (hlimit : 0 < ctx.limit) (hp : p ∈ "=" :: closers)
    (hfirst : Runs (firstOperand rules) ctx s fun n t =>
      t.Faces place (.punctuator p :: more) ∧ fits n) (least : Nat) :
    Runs (binaryExpression rules least) ctx s fun n t =>
      t.Faces place (.punctuator p :: more) ∧ fits n := by
  have hnone : p ≠ "**" ∧ binaryPrecedence? (.punctuator p) = none :=
    (by decide : ∀ q ∈ "=" :: closers, q ≠ "**" ∧ binaryPrecedence? (.punctuator q) = none) p hp
  unfold binaryExpression
  simp only [runs_bind, runs_tokenStart, runs_atPunctuator]
  apply hfirst.mono
  rintro left t ⟨ht, hleft⟩
  exact runs_binaryRest hlimit ⟨hnone.1, by simp [hnone.2]⟩ ht _ _ _ ⟨ht, hleft⟩

theorem runs_binaryExpression (hlimit : 0 < ctx.limit) (hstart : StartsOperand ctx l l')
    (h : s.Faces place (l :: l' :: ls)) (hp : p ∈ "=" :: closers)
    (hoperand : Runs (leftHandSide rules) ctx s fun n t =>
      t.Faces place (.punctuator p :: more) ∧ fits n) (least : Nat) :
    Runs (binaryExpression rules least) ctx s fun n t =>
      t.Faces place (.punctuator p :: more) ∧ fits n := by
  have hfollowers : p ∈ followers := by
    simp only [followers, List.mem_cons] at hp ⊢
    exact hp.imp id fun hp => .inr (.inr (.inr hp))
  exact runs_binaryExpression_first hlimit hp (runs_firstOperand hstart h hfollowers hoperand) least

/-- What stands in front of `=` is a target, and in front of a closing token it is all there is. -/
theorem runs_assignmentExpression_start (harrow : NoArrow ctx s) (hp : p ∈ followers)
    (hleft : Runs (binaryExpression rules 0) ctx s fun n t =>
      t.Faces place (.punctuator p :: more) ∧ fits n)
    (k : ∀ left t start, t.Faces place (.punctuator p :: more) → fits left →
      Runs (if isAssignmentOperator (.punctuator p) then assignmentRest rules start left
        else conditionalRest rules start left) ctx t Q) :
    Runs (assignmentExpression rules) ctx s Q := by
  have hsimple : (Lexeme.punctuator p == .punctuator "=>") = false :=
    (by decide : ∀ q ∈ followers, (Lexeme.punctuator q == .punctuator "=>") = false) p hp
  unfold assignmentExpression parenthesizedArrow?
  rw [runs_bind]
  apply harrow.yields.mono
  rintro _ _ ⟨rfl, rfl⟩
  simp only [Bool.false_eq_true, if_false, runs_bind]
  apply harrow.arrow.mono
  rintro _ _ ⟨rfl, rfl⟩
  simp only [runs_pure, runs_bind]
  apply (harrow.async rules).mono
  rintro _ _ ⟨rfl, rfl⟩
  simp only [runs_bind, runs_tokenStart]
  apply hleft.mono
  rintro left t ⟨ht, hleft⟩
  simp only [runs_atPunctuator, ht.lexeme, hsimple, Bool.false_and, Bool.false_eq_true, if_false,
    runs_bind, runs_lexeme]
  exact k left t _ ht hleft

theorem runs_assignmentExpression_left (hstart : StartsOperand ctx l l')
    (h : s.Faces place (l :: l' :: ls)) (hp : p ∈ followers)
    (hleft : Runs (binaryExpression rules 0) ctx s fun n t =>
      t.Faces place (.punctuator p :: more) ∧ fits n)
    (k : ∀ left t start, t.Faces place (.punctuator p :: more) → fits left →
      Runs (if isAssignmentOperator (.punctuator p) then assignmentRest rules start left
        else conditionalRest rules start left) ctx t Q) :
    Runs (assignmentExpression rules) ctx s Q :=
  runs_assignmentExpression_start (hstart.noArrow h) hp hleft k

/-- Operators and operands that nothing goes on behind are an expression. -/
theorem runs_assignmentExpression_whole (harrow : NoArrow ctx s) (hp : p ∈ closers)
    (hleft : Runs (binaryExpression rules 0) ctx s fun n t =>
      t.Faces place (.punctuator p :: more) ∧ fits n) :
    Runs (assignmentExpression rules) ctx s fun n t =>
      t.Faces place (.punctuator p :: more) ∧ fits n := by
  have hends : isAssignmentOperator (.punctuator p) = false ∧ p ≠ "?" :=
    (by decide : ∀ q ∈ closers, isAssignmentOperator (.punctuator q) = false ∧ q ≠ "?") p hp
  apply runs_assignmentExpression_start harrow (closer_mem_followers hp) hleft
  intro left t start ht hleft
  unfold conditionalRest
  rw [hends.1, if_neg Bool.false_ne_true, runs_bind]
  apply runs_eat_other ht (by simpa using hends.2)
  exact runs_pure.2 ⟨ht, hleft⟩

theorem runs_assignmentExpression_binary (hstart : StartsOperand ctx l l')
    (h : s.Faces place (l :: l' :: ls)) (hp : p ∈ closers)
    (hleft : Runs (binaryExpression rules 0) ctx s fun n t =>
      t.Faces place (.punctuator p :: more) ∧ fits n) :
    Runs (assignmentExpression rules) ctx s fun n t =>
      t.Faces place (.punctuator p :: more) ∧ fits n :=
  runs_assignmentExpression_whole (hstart.noArrow h) hp hleft

/-- An operand that nothing goes on behind is an expression. -/
theorem runs_assignmentExpression (hlimit : 0 < ctx.limit) (hstart : StartsOperand ctx l l')
    (h : s.Faces place (l :: l' :: ls)) (hp : p ∈ closers)
    (hoperand : Runs (leftHandSide rules) ctx s fun n t =>
      t.Faces place (.punctuator p :: more) ∧ fits n) :
    Runs (assignmentExpression rules) ctx s fun n t =>
      t.Faces place (.punctuator p :: more) ∧ fits n :=
  runs_assignmentExpression_binary hstart h hp
    (runs_binaryExpression hlimit hstart h (List.mem_cons_of_mem _ hp) hoperand 0)

end Levels

end Parser

end ModuleBundler.Script
